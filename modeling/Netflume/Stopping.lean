import Netflume.Handover

/-! # Stopping

A stop ends the iterators and nothing else.  A generator is never left waiting
once one has landed, and reads nothing after it.  What is queued stays queued for
`poll`, which goes round again when only the wakeup fired: each round but the last
uses up a wakeup, so the loop does not spin, and only the clock makes it give up. -/

namespace Netflume

open Library

namespace Line

/-! ## What happens on a line -/

@[simp] theorem happenAll_cons (line : Line) (happening : Happening) (happenings : List Happening) :
    line.happenAll (happening :: happenings) = (line.happen happening).happenAll happenings := rfl

/-- A stop is never taken back. -/
theorem stopping_happenAll {line : Line} (stopping : line.stopping = true) (happenings : List Happening) :
    (line.happenAll happenings).stopping = true := by
  induction happenings generalizing line with
  | nil => exact stopping
  | cons happening happenings inductionHypothesis =>
    apply inductionHypothesis
    cases happening with
    | arrives reading => exact stopping
    | stops => rfl

/-- What happens leaves the unread readings in place, and may add to them. -/
theorem unread_happenAll (line : Line) (happenings : List Happening) :
    ∃ more, (line.happenAll happenings).unread = line.unread ++ more := by
  induction happenings generalizing line with
  | nil => exact ⟨[], (List.append_nil _).symm⟩
  | cons happening happenings inductionHypothesis =>
    obtain ⟨more, later⟩ := inductionHypothesis (line.happen happening)
    cases happening with
    | arrives reading =>
      refine ⟨reading :: more, later.trans ?_⟩
      simp only [unread, happen, arrive, List.drop_append_of_le_length line.within, List.append_assoc,
        List.singleton_append]
    | stops => exact ⟨more, later⟩

theorem recvfrom_unread {line : Line} {reading : Reading} {rest : List Reading} (next : line.unread = reading :: rest) :
    line.recvfrom.1 = reading ∧ line.recvfrom.2.unread = rest := by
  have some : line.read < line.arrived.length := by
    have count := congrArg List.length next
    simp only [unread, List.length_drop, List.length_cons] at count
    omega
  have split := List.drop_eq_getElem_cons some
  rw [unread, split] at next
  obtain ⟨first, others⟩ := List.cons.inj next
  rw [recvfrom, dif_pos some]
  exact ⟨first, others⟩

/-- A pass that comes to the socket answers with the oldest reading. -/
theorem scan_socket {ready : List Visit} (visited : .socket ∈ ready.map Visit.handle) (woken : Bool) {line : Line}
    {reading : Reading} {rest : List Reading} (next : line.unread = reading :: rest) :
    (scan ready woken line).1 = some reading.received ∧ ∃ more, (scan ready woken line).2.2.unread = rest ++ more := by
  induction ready generalizing woken line rest with
  | nil => cases visited
  | cons visit ready inductionHypothesis =>
    obtain ⟨more, grown⟩ := unread_happenAll line visit.before
    rw [next, List.cons_append] at grown
    rw [scan]
    cases handle : visit.handle with
    | socket =>
      obtain ⟨first, others⟩ := recvfrom_unread grown
      exact ⟨congrArg (fun reading => some (Reading.received reading)) first, more, others⟩
    | waker =>
      have later : .socket ∈ ready.map Visit.handle := by
        simpa [handle] using visited
      have drained : (line.happenAll visit.before).drain.unread = reading :: (rest ++ more) := grown
      obtain ⟨answer, evenMore, left⟩ := inductionHypothesis later true drained
      exact ⟨answer, more ++ evenMore, by rw [← List.append_assoc]; exact left⟩

/-- A pass that never comes to the socket takes no answer from it. -/
theorem scan_wakeup {ready : List Visit} (wakeups : ∀ visit ∈ ready, visit.handle = .waker) (woken : Bool)
    (line : Line) :
    (scan ready woken line).1 = none ∧ (scan ready woken line).2.1 = (woken || !ready.isEmpty) ∧
      ∃ more, (scan ready woken line).2.2.unread = line.unread ++ more := by
  induction ready generalizing woken line with
  | nil => exact ⟨rfl, (Bool.or_false _).symm, [], (List.append_nil _).symm⟩
  | cons visit ready inductionHypothesis =>
    obtain ⟨more, grown⟩ := unread_happenAll line visit.before
    obtain ⟨silent, fired, evenMore, left⟩ :=
      inductionHypothesis (fun later member => wakeups later (List.mem_cons_of_mem _ member)) true
        (line.happenAll visit.before).drain
    rw [scan, wakeups visit List.mem_cons_self]
    refine ⟨silent, fired.trans ?_, more ++ evenMore, ?_⟩
    · simp
    · rw [← List.append_assoc, ← grown]
      exact left

end Line

/-! ## Rounds -/

namespace Round

/-- Only the wakeup fires. -/
def WakesOnly (round : Round) : Prop := round.ready ≠ [] ∧ ∀ visit ∈ round.ready, visit.handle = .waker

/-- The pass over what is ready comes to the socket. -/
def Reaches (round : Round) : Prop := .socket ∈ round.ready.map Visit.handle

/-- The deadline has come by the time the clock is read again. -/
def Late (deadline : Option Rat) (round : Round) : Prop := deadline.any (· ≤ round.looked) = true

end Round

namespace Line

variable {deadline : Option Rat} {wakeups : List Round}

/-- A round in which only the wakeup fires ends a poll if it is late, and costs it nothing if not. -/
theorem receive_wakesOnly_cons {round : Round} (only : round.WakesOnly) (rounds : List Round) (line : Line) :
    ∃ left, (∃ more, left.unread = line.unread ++ more) ∧
      receive deadline false (round :: rounds) line =
        if deadline.any (· ≤ round.looked) then (.nothing, left) else receive deadline false rounds left := by
  obtain ⟨nonempty, wakers⟩ := only
  obtain ⟨more, meanwhile⟩ := unread_happenAll line round.meanwhile
  obtain ⟨silent, fired, evenMore, scanned⟩ := scan_wakeup wakers false (line.happenAll round.meanwhile)
  rw [receive]
  dsimp only
  generalize scan round.ready false (line.happenAll round.meanwhile) = after at silent fired scanned ⊢
  obtain ⟨answer, woken, left⟩ := after
  dsimp only at silent fired scanned
  obtain ⟨yetMore, happened⟩ := unread_happenAll left round.later
  have wokenUp : woken = true := by
    rw [fired]
    simp [nonempty]
  refine ⟨left.happenAll round.later, ⟨more ++ evenMore ++ yetMore, ?_⟩, ?_⟩
  · rw [happened, scanned, meanwhile]
    simp only [List.append_assoc]
  · rw [if_neg nonempty, silent]
    dsimp only
    rw [if_neg (by simp [wokenUp])]

/-- Rounds in which only the wakeup fires, before the deadline, cost a poll nothing. -/
theorem receive_wakeups (only : ∀ round ∈ wakeups, round.WakesOnly) (early : ∀ round ∈ wakeups, ¬ round.Late deadline)
    (rounds : List Round) (line : Line) :
    ∃ later, receive deadline false (wakeups ++ rounds) line = receive deadline false rounds later ∧
      ∃ more, later.unread = line.unread ++ more := by
  induction wakeups generalizing line with
  | nil => exact ⟨line, rfl, [], (List.append_nil _).symm⟩
  | cons round wakeups inductionHypothesis =>
    have notLate : ¬ deadline.any (· ≤ round.looked) = true := early round List.mem_cons_self
    obtain ⟨left, ⟨more, grown⟩, step⟩ :=
      @receive_wakesOnly_cons deadline _ (only round List.mem_cons_self) (wakeups ++ rounds) line
    obtain ⟨later, same, evenMore, last⟩ :=
      inductionHypothesis (fun other member => only other (List.mem_cons_of_mem _ member))
        (fun other member => early other (List.mem_cons_of_mem _ member)) left
    refine ⟨later, ?_, more ++ evenMore, ?_⟩
    · rw [List.cons_append, step, if_neg notLate, same]
    · rw [last, grown, List.append_assoc]

/-- A round that comes to the socket ends the wait with the oldest reading. -/
theorem receive_reaches {round : Round} (reaches : round.Reaches) (honourStop : Bool) (rounds : List Round)
    {line : Line} {reading : Reading} {rest : List Reading} (next : line.unread = reading :: rest) :
    (receive deadline honourStop (round :: rounds) line).1 = reading.received ∧
      ∃ more, (receive deadline honourStop (round :: rounds) line).2.unread = rest ++ more := by
  obtain ⟨more, meanwhile⟩ := unread_happenAll line round.meanwhile
  rw [next, List.cons_append] at meanwhile
  obtain ⟨answer, evenMore, left⟩ := scan_socket reaches false meanwhile
  have nonempty : round.ready ≠ [] := by
    intro empty
    rw [Round.Reaches, empty] at reaches
    cases reaches
  rw [receive]
  dsimp only
  generalize scan round.ready false (line.happenAll round.meanwhile) = after at answer left ⊢
  obtain ⟨found, woken, after⟩ := after
  dsimp only at answer left
  rw [if_neg nonempty, answer]
  exact ⟨rfl, more ++ evenMore, by rw [← List.append_assoc]; exact left⟩

end Line

/-! ## A stopped collector can be read again -/

/-- The wait comes to the socket, after any number of rounds in which only the wakeup fired. -/
def Wait.Prompt (wait : Wait) (timeout : Option Rat) : Prop :=
  ∃ wakeups round rest, wait.rounds = wakeups ++ round :: rest ∧ (∀ wakeup ∈ wakeups, wakeup.WakesOnly) ∧
    (∀ wakeup ∈ wakeups, ¬ wakeup.Late (wait.deadline timeout)) ∧ round.Reaches

namespace BoundCollector

theorem poll_prompt {timeout : Option Rat} {wait : Wait} (prompt : wait.Prompt timeout) {collector : BoundCollector}
    (opened : collector.closed = false) {datagram : Decoder.Datagram} {rest : List Reading}
    (next : collector.line.unread = .datagram datagram :: rest) :
    (collector.poll timeout wait).1 = some ((collector.filter.decodeDatagram datagram).1.mapError .stop) ∧
      (collector.poll timeout wait).2.filter = (collector.filter.decodeDatagram datagram).2 ∧
      (collector.poll timeout wait).2.closed = false ∧
      ∃ more, (collector.poll timeout wait).2.line.unread = rest ++ more := by
  obtain ⟨wakeups, round, others, rounds, only, early, reaches⟩ := prompt
  obtain ⟨more, happened⟩ := Line.unread_happenAll collector.line wait.before
  obtain ⟨later, same, evenMore, grown⟩ :=
    Line.receive_wakeups only early (round :: others) (collector.line.happenAll wait.before)
  rw [happened, next, List.cons_append, List.cons_append] at grown
  obtain ⟨answer, yetMore, left⟩ :=
    @Line.receive_reaches (wait.deadline timeout) _ reaches false others _ _ _ grown
  have received : (collector.happenAll wait.before).receive timeout false wait =
      (.datagram datagram, { collector with
        line := (Line.receive (wait.deadline timeout) false (round :: others) later).2 }) := by
    rw [receive, rounds]
    dsimp only [happenAll]
    rw [same, answer]
    rfl
  rw [poll, opened, received]
  refine ⟨rfl, rfl, opened, more ++ evenMore ++ yetMore, ?_⟩
  simp only [← List.append_assoc]
  exact left

/-- `poll` as the step of a machine. -/
def pollStep (collector : BoundCollector) (call : Option Rat × Wait) : Polled × BoundCollector :=
  collector.poll call.1 call.2

/-- Whatever stops have landed or land meanwhile, polling gives what is queued, datagram by datagram. -/
theorem polls_drain {collector : BoundCollector} (opened : collector.closed = false)
    {datagrams : List Decoder.Datagram} {others : List Reading}
    (queued : collector.line.unread = datagrams.map .datagram ++ others) {polls : List (Option Rat × Wait)}
    (enough : polls.length = datagrams.length) (prompt : ∀ poll ∈ polls, poll.2.Prompt poll.1) :
    outputs pollStep collector polls =
        (collector.filter.results datagrams).map (fun result => some (result.mapError .stop)) ∧
      (stateAfter pollStep collector polls).filter = collector.filter.decodeAll datagrams ∧
      ∃ more, (stateAfter pollStep collector polls).line.unread = others ++ more := by
  induction datagrams generalizing collector others polls with
  | nil =>
    cases List.length_eq_zero_iff.mp enough
    exact ⟨rfl, rfl, [], by rw [List.append_nil]; exact queued⟩
  | cons datagram datagrams inductionHypothesis =>
    obtain _ | ⟨poll, polls⟩ := polls
    · cases enough
    · rw [List.map_cons, List.cons_append] at queued
      obtain ⟨answer, filter, stillOpen, more, left⟩ :=
        poll_prompt (prompt poll List.mem_cons_self) opened queued
      rw [List.append_assoc] at left
      obtain ⟨answers, last, evenMore, rest⟩ :=
        inductionHypothesis stillOpen left (Nat.succ.inj enough) fun other member =>
          prompt other (List.mem_cons_of_mem _ member)
      rw [filter] at answers last
      refine ⟨?_, last, more ++ evenMore, by rw [← List.append_assoc]; exact rest⟩
      rw [outputs]
      exact congrArg₂ List.cons answer answers

theorem polls_drain_stopped :
    let datagram : Decoder.Datagram := ⟨[0, 9], .str "192.0.2.1"⟩
    let line : Line := ⟨[.datagram datagram, .datagram datagram], 0, [0], true, by decide⟩
    let collector : BoundCollector := ⟨⟨.fresh, none⟩, some 1, false, line⟩
    let woken : Round := ⟨[], [⟨[.stops], .waker⟩], [], 1 / 2⟩
    let ready : Round := ⟨[], [⟨[], .waker⟩, ⟨[], .socket⟩], [], 1⟩
    let polls : List (Option Rat × Wait) := [(some 1, ⟨[], 0, [woken, ready]⟩), (none, ⟨[.stops], 0, [ready]⟩)]
    outputs pollStep collector polls =
        (collector.filter.results [datagram, datagram]).map (fun result => some (result.mapError .stop)) ∧
      (stateAfter pollStep collector polls).filter = collector.filter.decodeAll [datagram, datagram] ∧
      ∃ more, (stateAfter pollStep collector polls).line.unread = [] ++ more := by
  intro datagram line collector woken ready polls
  have wakes : woken.WakesOnly := ⟨nofun, by decide⟩
  have early : ¬ woken.Late (some (0 + 1)) := by
    show ¬ (some (0 + 1)).any (· ≤ (1 / 2 : Rat)) = true
    decide +kernel
  have reaches : ready.Reaches := by
    show Handle.socket ∈ ready.ready.map Visit.handle
    decide
  apply polls_drain rfl rfl rfl
  intro poll member
  simp only [polls, List.mem_cons, List.not_mem_nil, or_false] at member
  rcases member with rfl | rfl
  · refine ⟨[woken], ready, [], rfl, ?_, ?_, reaches⟩
    · exact List.forall_mem_singleton.mpr wakes
    · exact List.forall_mem_singleton.mpr early
  · exact ⟨[], ready, [], rfl, nofun, nofun, reaches⟩

end BoundCollector

/-! ## A stopped generator ends -/

theorem Reading.received_ne_waiting (reading : Reading) : reading.received ≠ .waiting := by
  cases reading with
  | datagram sent => simp [received]
  | failed error =>
    rw [received]
    split
    · simp
    · split <;> simp

/-- A pass answers with a reading, if it answers at all. -/
theorem Line.scan_answer (ready : List Visit) (woken : Bool) (line : Line) {answer : Received}
    (answered : (scan ready woken line).1 = some answer) : answer ≠ .waiting := by
  induction ready generalizing woken line with
  | nil => cases answered
  | cons visit ready inductionHypothesis =>
    rw [scan] at answered
    generalize visit.handle = handle at answered
    cases handle with
    | waker => exact inductionHypothesis true (line.happenAll visit.before).drain answered
    | socket =>
      cases answered
      exact Reading.received_ne_waiting _

/-- An iterator still waiting at the end of a round has seen no stop by then. -/
theorem Line.receive_waiting {deadline : Option Rat} {rounds : List Round} {line : Line}
    (waiting : (receive deadline true rounds line).1 = .waiting) (going : line.stopping = false) :
    (receive deadline true rounds line).2.stopping = false := by
  induction rounds generalizing line with
  | nil => exact going
  | cons round rounds inductionHypothesis =>
    rw [receive] at waiting ⊢
    dsimp only at waiting ⊢
    by_cases nothing : round.ready = []
    · rw [if_pos nothing] at waiting
      cases waiting
    · rw [if_neg nothing] at waiting ⊢
      generalize scanned : scan round.ready false (line.happenAll round.meanwhile) = after at waiting ⊢
      obtain ⟨answer, woken, left⟩ := after
      cases answer with
      | some answer =>
        exact absurd waiting (scan_answer round.ready false (line.happenAll round.meanwhile) (by rw [scanned]))
      | none =>
        dsimp only at waiting ⊢
        by_cases done : ¬ woken = true ∨ true = true ∧ (left.happenAll round.later).stopping = true
        · rw [if_pos done] at waiting
          cases waiting
        · rw [if_neg done] at waiting ⊢
          by_cases late : deadline.any (· ≤ round.looked) = true
          · rw [if_pos late] at waiting
            cases waiting
          · rw [if_neg late] at waiting ⊢
            apply inductionHypothesis waiting
            simpa using (not_or.mp done).2

/-- Neither does a pass over what is ready take a stop back, nor the loop. -/
theorem Line.stopping_scan {ready : List Visit} {woken : Bool} {line : Line} (stopping : line.stopping = true) :
    (scan ready woken line).2.2.stopping = true := by
  induction ready generalizing woken line with
  | nil => exact stopping
  | cons visit ready inductionHypothesis =>
    have still := stopping_happenAll stopping visit.before
    rw [scan]
    cases visit.handle with
    | waker => exact inductionHypothesis still
    | socket =>
      dsimp only
      rw [recvfrom]
      split <;> exact still

theorem Line.stopping_receive {deadline : Option Rat} {honourStop : Bool} {rounds : List Round} {line : Line}
    (stopping : line.stopping = true) : (receive deadline honourStop rounds line).2.stopping = true := by
  induction rounds generalizing line with
  | nil => exact stopping
  | cons round rounds inductionHypothesis =>
    have meanwhile := stopping_happenAll stopping round.meanwhile
    have scanned := @stopping_scan round.ready false _ meanwhile
    rw [receive]
    dsimp only
    split
    · exact meanwhile
    · generalize scan round.ready false (line.happenAll round.meanwhile) = after at scanned ⊢
      obtain ⟨answer, woken, left⟩ := after
      have later := stopping_happenAll scanned round.later
      cases answer with
      | some answer => exact scanned
      | none =>
        dsimp only
        split
        · exact later
        · split
          · exact later
          · exact inductionHypothesis later

namespace BoundCollector

variable {α : Type} {each : Message → Except PyError (List α)} {timeout : Option Rat}

/-- So has a generator that is still waiting. -/
theorem messageLoop_waiting {waits : List Wait} {collector : BoundCollector}
    (waiting : (messageLoop each timeout waits collector).1 = .waiting) :
    (messageLoop each timeout waits collector).2.2.line.stopping = false := by
  induction waits generalizing collector with
  | nil =>
    rw [messageLoop] at waiting ⊢
    by_cases done : collector.line.stopping = true ∨ collector.closed = true
    · rw [if_pos done] at waiting
      cases waiting
    · rw [if_neg done]
      simpa using (not_or.mp done).1
  | cons wait waits inductionHypothesis =>
    rw [messageLoop] at waiting ⊢
    dsimp only at waiting ⊢
    by_cases done : (collector.happenAll wait.before).line.stopping = true ∨
        (collector.happenAll wait.before).closed = true
    · rw [if_pos done] at waiting
      cases waiting
    · rw [if_neg done] at waiting ⊢
      have going : (collector.happenAll wait.before).line.stopping = false := by
        simpa using (not_or.mp done).1
      have unstopped : ((collector.happenAll wait.before).receive timeout true wait).1 = .waiting →
          ((collector.happenAll wait.before).receive timeout true wait).2.line.stopping = false :=
        fun waiting => Line.receive_waiting waiting going
      generalize (collector.happenAll wait.before).receive timeout true wait = after at waiting unstopped ⊢
      obtain ⟨received, after⟩ := after
      cases received with
      | waiting => exact unstopped rfl
      | raised error => cases waiting
      | nothing => exact inductionHypothesis waiting
      | datagram datagram =>
        dsimp only at waiting ⊢
        generalize after.decode datagram = decoded at waiting ⊢
        obtain ⟨result, decoded⟩ := decoded
        cases result with
        | error stop => cases waiting
        | ok result =>
          cases result with
          | none => exact inductionHypothesis waiting
          | some message =>
            dsimp only at waiting ⊢
            generalize each message = made at waiting ⊢
            cases made with
            | error error => cases waiting
            | ok made =>
              cases made with
              | nil => exact inductionHypothesis waiting
              | cons item items => cases waiting

theorem advance_waiting {generator : Generator α} {waits : List Wait} {collector : BoundCollector}
    (waiting : (advance each timeout generator waits collector).1 = .waiting) :
    (advance each timeout generator waits collector).2.2.line.stopping = false := by
  obtain ⟨pending, finished⟩ := generator
  rw [advance] at waiting ⊢
  cases finished with
  | true => cases waiting
  | false =>
    cases pending with
    | nil => exact messageLoop_waiting waiting
    | cons item items => cases waiting

/-- What a generator has yet to yield; one that has ended yields nothing. -/
def Generator.remaining (generator : Generator α) : List α := if generator.finished then [] else generator.pending

/-- The answers of a stopped generator, asked so many times: what remains, item by item, and then that it has ended. -/
def lastAnswers : List α → Nat → List (Next α)
  | _, 0 => []
  | [], asked + 1 => .ended :: lastAnswers [] asked
  | item :: items, asked + 1 => .item item :: lastAnswers items asked

/-- Once stopped, a generator yields what remains and ends; it neither waits nor reads. -/
theorem advance_stopped {collector : BoundCollector} (stopping : collector.line.stopping = true)
    (generator : Generator α) (waits : List Wait) :
    (∀ asked, lastAnswers generator.remaining (asked + 1) =
        (advance each timeout generator waits collector).1 ::
          lastAnswers (advance each timeout generator waits collector).2.1.remaining asked) ∧
      generator.pending = (advance each timeout generator waits collector).1.items ++
        (advance each timeout generator waits collector).2.1.pending ∧
      (advance each timeout generator waits collector).2.2.line.stopping = true ∧
      (advance each timeout generator waits collector).2.2.line.taken = collector.line.taken ∧
      (advance each timeout generator waits collector).2.2.filter = collector.filter := by
  obtain ⟨pending, finished⟩ := generator
  rw [advance]
  cases finished with
  | true => exact ⟨fun asked => rfl, rfl, stopping, rfl, rfl⟩
  | false =>
    cases pending with
    | cons item items => exact ⟨fun asked => rfl, rfl, stopping, rfl, rfl⟩
    | nil =>
      cases waits with
      | nil =>
        dsimp only
        rw [if_neg Bool.false_ne_true, messageLoop, if_pos (.inl stopping)]
        exact ⟨fun asked => rfl, rfl, stopping, rfl, rfl⟩
      | cons wait waits =>
        have still : (collector.happenAll wait.before).line.stopping = true :=
          Line.stopping_happenAll stopping wait.before
        dsimp only
        rw [if_neg Bool.false_ne_true, messageLoop, if_pos (.inl still)]
        exact ⟨fun asked => rfl, rfl, still, collector.line.taken_happenAll wait.before, rfl⟩

/-- A poll leaves a stopped collector stopped. -/
theorem stopping_poll {collector : BoundCollector} (stopping : collector.line.stopping = true)
    (pollTimeout : Option Rat) (wait : Wait) : (collector.poll pollTimeout wait).2.line.stopping = true := by
  have still : ((collector.happenAll wait.before).receive pollTimeout false wait).2.line.stopping = true :=
    Line.stopping_receive (Line.stopping_happenAll stopping wait.before)
  rw [poll]
  split
  · exact stopping
  · dsimp only
    generalize (collector.happenAll wait.before).receive pollTimeout false wait = after at still ⊢
    obtain ⟨received, after⟩ := after
    cases received <;> exact still

/-- Whether a call asks the generator for its next item. -/
def Call.asks : Call → Bool
  | .next _ => true
  | .poll _ _ | .stop | .close | .idle _ => false

def Call.polls : Call → Bool
  | .poll _ _ => true
  | .next _ | .stop | .close | .idle _ => false

/-- What the generator gave, if it was the one that was asked. -/
def Answer.given : Answer α → Option (Next α)
  | .next given => some given
  | .polled _ | .done => none

/-- After a stop a call takes from the generator what remains of it, or its end. -/
theorem call_stopped {session : Session α} (stopping : session.collector.line.stopping = true) (call : Call) :
    (∀ asked, lastAnswers session.generator.remaining (asked + if call.asks then 1 else 0) =
        (session.call each timeout call).1.given.toList ++
          lastAnswers (session.call each timeout call).2.generator.remaining asked) ∧
      session.generator.pending =
        (session.call each timeout call).1.yielded ++ (session.call each timeout call).2.generator.pending ∧
      (session.call each timeout call).2.collector.line.stopping = true := by
  cases call with
  | next waits =>
    obtain ⟨answer, items, still, _⟩ := advance_stopped stopping session.generator waits
    exact ⟨answer, items, still⟩
  | poll pollTimeout wait => exact ⟨fun asked => rfl, rfl, stopping_poll stopping pollTimeout wait⟩
  | stop =>
    refine ⟨fun asked => rfl, rfl, ?_⟩
    simp only [Session.call, stop]
    split <;> rfl
  | close =>
    refine ⟨fun asked => rfl, rfl, ?_⟩
    simp only [Session.call, close]
    split
    · exact stopping
    · rfl
  | idle happenings => exact ⟨fun asked => rfl, rfl, Line.stopping_happenAll stopping happenings⟩

/-- After a stop only a poll reads from the socket. -/
theorem call_unread {session : Session α} (stopping : session.collector.line.stopping = true) {call : Call}
    (noPoll : call.polls = false) :
    (session.call each timeout call).2.collector.line.taken = session.collector.line.taken ∧
      (session.call each timeout call).2.collector.filter = session.collector.filter := by
  cases call with
  | next waits =>
    obtain ⟨_, _, _, taken, filter⟩ := advance_stopped stopping session.generator waits
    exact ⟨taken, filter⟩
  | poll pollTimeout wait => cases noPoll
  | stop =>
    refine ⟨?_, rfl⟩
    simp only [Session.call, stop]
    split <;> rfl
  | close => constructor <;> simp only [Session.call, close] <;> split <;> rfl
  | idle happenings => exact ⟨session.collector.line.taken_happenAll happenings, rfl⟩

/-- A stop ends the generator.  It is not left waiting once one has landed, and from then on it gives up what
remained of it, item by item, and then says that it has ended, whatever else is called; without a poll nothing more
is read, and what is queued stays where it is. -/
theorem session_stopped (each : Message → Except PyError (List α)) (timeout : Option Rat) (session : Session α) :
    (∀ waits, (session.call each timeout (.next waits)).1 = .next .waiting →
      (session.call each timeout (.next waits)).2.collector.line.stopping = false) ∧
    (session.collector.line.stopping = true → ∀ calls : List Call,
      (outputs (Session.call each timeout) session calls).filterMap Answer.given =
        lastAnswers session.generator.remaining (calls.countP Call.asks) ∧
      session.generator.pending = (outputs (Session.call each timeout) session calls).flatMap Answer.yielded ++
        (stateAfter (Session.call each timeout) session calls).generator.pending ∧
      ((∀ call ∈ calls, call.polls = false) →
        (stateAfter (Session.call each timeout) session calls).collector.line.taken = session.collector.line.taken ∧
        (stateAfter (Session.call each timeout) session calls).collector.filter = session.collector.filter)) := by
  refine ⟨fun waits waiting => advance_waiting (Answer.next.inj waiting), fun stopping calls => ?_⟩
  induction calls generalizing session with
  | nil => exact ⟨rfl, rfl, fun _ => ⟨rfl, rfl⟩⟩
  | cons call calls inductionHypothesis =>
    obtain ⟨answer, items, still⟩ := @call_stopped _ each timeout _ stopping call
    obtain ⟨answers, rest, later⟩ := inductionHypothesis (session.call each timeout call).2 still
    refine ⟨?_, ?_, fun noPolls => ?_⟩
    · rw [List.countP_cons, answer, ← answers, outputs, List.filterMap_cons]
      cases (session.call each timeout call).1.given <;> rfl
    · rw [items, rest, outputs, List.flatMap_cons, List.append_assoc]
      rfl
    · have quiet := List.forall_mem_cons.mp noPolls
      obtain ⟨taken, filter⟩ := @call_unread _ each timeout _ stopping call quiet.1
      obtain ⟨takenLast, filterLast⟩ := later quiet.2
      exact ⟨takenLast.trans taken, filterLast.trans filter⟩

theorem session_stopped_pending :
    let twoFlows : Decoder.Datagram := ⟨[0, 5, 0, 2] ++ List.replicate 116 0, .str "192.0.2.1"⟩
    let reading : Wait := ⟨[.arrives (.datagram twoFlows)], 0, [⟨[], [⟨[], .socket⟩], [], 1⟩]⟩
    let woken : Wait := ⟨[], 0, [⟨[], [⟨[], .waker⟩], [], 1 / 2⟩]⟩
    let start : Session (Rec × Header) := ⟨⟨⟨.fresh, none⟩, some 1, false, .new⟩, .new _⟩
    let session := stateAfter (Session.call eachRecord none) start [.next [reading], .stop]
    let calls : List Call := [.poll (some 0) reading, .next [reading], .idle [.stops], .next [reading]]
    (start.call eachRecord none (.next [woken])).2.collector.line.stopping = false ∧
      session.generator.remaining.length = 1 ∧
      (outputs (Session.call eachRecord none) session calls).filterMap Answer.given =
        lastAnswers session.generator.remaining 2 ∧
      (stateAfter (Session.call eachRecord none) session [.next [reading], .next [reading]]).collector.line.taken =
        session.collector.line.taken := by
  intro twoFlows reading woken start session calls
  have waiting : (start.call eachRecord none (.next [woken])).1 = .next .waiting := by decide +kernel
  have stopping : session.collector.line.stopping = true := by decide +kernel
  have one : session.generator.remaining.length = 1 := by decide +kernel
  obtain ⟨answers, _, _⟩ := (session_stopped eachRecord none session).2 stopping calls
  obtain ⟨_, _, quiet⟩ := (session_stopped eachRecord none session).2 stopping [.next [reading], .next [reading]]
  exact ⟨(session_stopped eachRecord none start).1 [woken] waiting, one, answers, (quiet (by decide)).1⟩

end BoundCollector

/-! ## The loop does not spin -/

/-- The stops among some happenings. -/
def stopsIn (happenings : List Happening) : Nat := happenings.count .stops

/-- The stops that land in a round. -/
def Round.stops (round : Round) : Nat :=
  stopsIn round.meanwhile + (round.ready.map fun visit => stopsIn visit.before).sum + stopsIn round.later

namespace Line

/-- Round after round, `select` reports the wakeup only while it holds a byte. -/
def Truthful : List Round → Line → Prop
  | [], _ => True
  | round :: rounds, line =>
    (.waker ∈ round.ready.map Visit.handle → (line.happenAll round.meanwhile).waker ≠ []) ∧
      Truthful rounds ((scan round.ready false (line.happenAll round.meanwhile)).2.2.happenAll round.later)

theorem length_waker_happenAll (line : Line) (happenings : List Happening) :
    (line.happenAll happenings).waker.length = line.waker.length + stopsIn happenings := by
  induction happenings generalizing line with
  | nil => rfl
  | cons happening happenings inductionHypothesis =>
    rw [happenAll_cons, inductionHypothesis]
    cases happening with
    | arrives reading => rfl
    | stops =>
      simp only [happen, stop, stopsIn, List.length_append, List.length_singleton, List.count_cons_self]
      omega

theorem length_waker_scan_le (ready : List Visit) (woken : Bool) (line : Line) :
    (scan ready woken line).2.2.waker.length ≤
      line.waker.length + (ready.map fun visit => stopsIn visit.before).sum := by
  induction ready generalizing woken line with
  | nil => exact Nat.le_refl _
  | cons visit ready inductionHypothesis =>
    have happened := length_waker_happenAll line visit.before
    rw [scan, List.map_cons, List.sum_cons]
    cases visit.handle with
    | waker =>
      have rest := inductionHypothesis true (line.happenAll visit.before).drain
      have drained : (line.happenAll visit.before).drain.waker.length ≤ (line.happenAll visit.before).waker.length := by
        rw [drain, List.length_drop]
        exact Nat.sub_le _ _
      dsimp only
      omega
    | socket =>
      have kept : (line.happenAll visit.before).recvfrom.2.waker = (line.happenAll visit.before).waker := by
        rw [recvfrom]
        split <;> rfl
      dsimp only
      rw [kept]
      omega

/-- A pass over a wakeup that holds a byte uses one up. -/
theorem length_waker_scan_lt {visit : Visit} (waker : visit.handle = .waker) (ready : List Visit) (woken : Bool)
    {line : Line} (held : line.waker ≠ []) :
    (scan (visit :: ready) woken line).2.2.waker.length <
      line.waker.length + ((visit :: ready).map fun visit => stopsIn visit.before).sum := by
  have happened := length_waker_happenAll line visit.before
  have some := List.length_pos_iff.mpr held
  have rest := length_waker_scan_le ready true (line.happenAll visit.before).drain
  have drained :
      (line.happenAll visit.before).drain.waker.length = (line.happenAll visit.before).waker.length - 4096 := by
    rw [drain, List.length_drop]
  rw [scan, waker, List.map_cons, List.sum_cons]
  dsimp only
  omega

/-- A call still waiting has gone round no more often than stops have been called. -/
theorem receive_rounds_le {deadline : Option Rat} {honourStop : Bool} {rounds : List Round} {line : Line}
    (truthful : Truthful rounds line) (waiting : (receive deadline honourStop rounds line).1 = .waiting) :
    rounds.length ≤ line.waker.length + (rounds.map Round.stops).sum := by
  induction rounds generalizing line with
  | nil => exact Nat.zero_le _
  | cons round rounds inductionHypothesis =>
    obtain ⟨reported, later⟩ := truthful
    have happened := length_waker_happenAll line round.meanwhile
    rw [receive] at waiting
    dsimp only at waiting
    by_cases nothing : round.ready = []
    · rw [if_pos nothing] at waiting
      cases waiting
    · rw [if_neg nothing] at waiting
      obtain ⟨visit, ready, visits⟩ := List.exists_cons_of_ne_nil nothing
      cases handle : visit.handle with
      | socket =>
        rw [visits, scan, handle] at waiting
        exact absurd waiting (Reading.received_ne_waiting _)
      | waker =>
        have used := length_waker_scan_lt handle ready false (reported (by simp [visits, handle]))
        rw [← visits] at used
        have after := length_waker_happenAll (scan round.ready false (line.happenAll round.meanwhile)).2.2 round.later
        generalize scanned : scan round.ready false (line.happenAll round.meanwhile) = pass at waiting used after later
        obtain ⟨answer, woken, left⟩ := pass
        cases answer with
        | some answer =>
          exact absurd waiting (scan_answer round.ready false (line.happenAll round.meanwhile) (by rw [scanned]))
        | none =>
          dsimp only at waiting used after later
          by_cases done : ¬ woken = true ∨ honourStop = true ∧ (left.happenAll round.later).stopping = true
          · rw [if_pos done] at waiting
            cases waiting
          · rw [if_neg done] at waiting
            by_cases late : deadline.any (· ≤ round.looked) = true
            · rw [if_pos late] at waiting
              cases waiting
            · rw [if_neg late] at waiting
              have rest := inductionHypothesis later waiting
              rw [List.length_cons, List.map_cons, List.sum_cons, Round.stops]
              omega

/-- However often the wakeup fires, a poll that reads nothing gives up when it finds the deadline past, and only
then. -/
theorem receive_wakesOnly {rounds : List Round} (only : ∀ round ∈ rounds, round.WakesOnly) (deadline : Option Rat)
    (line : Line) :
    (receive deadline false rounds line).1 = .nothing ∧ (∃ round ∈ rounds, round.Late deadline) ∨
      (receive deadline false rounds line).1 = .waiting ∧ ∀ round ∈ rounds, ¬ round.Late deadline := by
  induction rounds generalizing line with
  | nil => exact .inr ⟨rfl, nofun⟩
  | cons round rounds inductionHypothesis =>
    obtain ⟨left, _, step⟩ := @receive_wakesOnly_cons deadline _ (only round List.mem_cons_self) rounds line
    rw [step]
    by_cases late : deadline.any (· ≤ round.looked) = true
    · rw [if_pos late]
      exact .inl ⟨rfl, round, List.mem_cons_self, late⟩
    · rw [if_neg late]
      rcases inductionHypothesis (fun other member => only other (List.mem_cons_of_mem _ member)) left with
        ⟨gaveUp, other, member, found⟩ | ⟨waiting, others⟩
      · exact .inl ⟨gaveUp, other, List.mem_cons_of_mem _ member, found⟩
      · exact .inr ⟨waiting, List.forall_mem_cons.mpr ⟨late, others⟩⟩

/-- Wakeups neither keep the loop going by themselves nor cut a poll short. -/
theorem receive_settles {deadline : Option Rat} {rounds : List Round} {line : Line} :
    (∀ honourStop, Truthful rounds line → (receive deadline honourStop rounds line).1 = .waiting →
      rounds.length ≤ line.waker.length + (rounds.map Round.stops).sum) ∧
    ((∀ round ∈ rounds, round.WakesOnly) → ((receive deadline false rounds line).1 = .nothing ↔
      ∃ round ∈ rounds, round.Late deadline)) := by
  refine ⟨fun honourStop truthful waiting => receive_rounds_le truthful waiting, fun only => ?_⟩
  rcases receive_wakesOnly only deadline line with ⟨gaveUp, late⟩ | ⟨waiting, early⟩
  · exact ⟨fun _ => late, fun _ => gaveUp⟩
  · rw [waiting]
    exact ⟨nofun, fun ⟨round, member, late⟩ => absurd late (early round member)⟩

theorem receive_settles_woken :
    let line : Line := ⟨[], 0, [0, 0], true, by decide⟩
    let woken : Round := ⟨[.stops], [⟨[], .waker⟩], [], 1 / 2⟩
    let late : Round := ⟨[.stops], [⟨[], .waker⟩], [], 1⟩
    [woken].length ≤ line.waker.length + ([woken].map Round.stops).sum ∧
      ((receive (some 1) false [woken, late] line).1 = .nothing ↔ ∃ round ∈ [woken, late], round.Late (some 1)) := by
  intro line woken late
  have waiting : (receive (some 1) false [woken] line).1 = .waiting := by decide +kernel
  have only (round : Round) (member : round ∈ [woken, late]) : round.WakesOnly := by
    simp only [List.mem_cons, List.not_mem_nil, or_false] at member
    rcases member with rfl | rfl <;> exact ⟨nofun, by decide⟩
  exact ⟨receive_settles.1 false ⟨nofun, trivial⟩ waiting, receive_settles.2 only⟩

end Line

end Netflume
