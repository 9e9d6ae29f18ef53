import Netflume.Receive

/-! # Handing over what was received

A datagram read from the socket is decoded once, and its message goes to the one
who asked.  The invariant is a ledger: what a call reads is what it has decoded,
and what it yields and leaves pending is what was pending and what those decodes
gave.  Nothing that happens on the line meanwhile, wakeups included, adds to the
ledger or takes from it. -/

namespace Netflume

open Library

/-! ## What a line has read -/

/-- The datagram of a reading. -/
def Reading.datagrams : Reading → List Decoder.Datagram
  | .datagram sent => [sent]
  | .failed _ => []

/-- The datagram `_receive` returned. -/
def Received.datagrams : Received → List Decoder.Datagram
  | .datagram sent => [sent]
  | .nothing | .raised _ | .waiting => []

theorem Reading.datagrams_received (reading : Reading) : reading.received.datagrams = reading.datagrams := by
  cases reading with
  | datagram sent => rfl
  | failed error =>
    rw [received]
    split
    · rfl
    · split <;> rfl

namespace Line

/-- The datagrams read from the socket so far. -/
def taken (line : Line) : List Decoder.Datagram := (line.arrived.take line.read).flatMap Reading.datagrams

/-- What has arrived and is not yet read. -/
def unread (line : Line) : List Reading := line.arrived.drop line.read

theorem taken_arrive (line : Line) (reading : Reading) : (line.arrive reading).taken = line.taken := by
  rw [taken, taken, arrive, List.take_append_of_le_length line.within]

@[simp] theorem taken_happenAll (line : Line) (happenings : List Happening) :
    (line.happenAll happenings).taken = line.taken := by
  induction happenings generalizing line with
  | nil => rfl
  | cons happening happenings inductionHypothesis =>
    refine (inductionHypothesis (line.happen happening)).trans ?_
    cases happening with
    | arrives reading => exact line.taken_arrive reading
    | stops => rfl

@[simp] theorem taken_drain (line : Line) : line.drain.taken = line.taken := rfl

theorem taken_recvfrom (line : Line) : line.recvfrom.2.taken = line.taken ++ line.recvfrom.1.datagrams := by
  rw [recvfrom]
  split
  · rename_i unread
    simp only [taken]
    rw [List.take_add_one, List.getElem?_eq_getElem unread, List.flatMap_append]
    simp
  · exact (List.append_nil _).symm

theorem taken_scan (ready : List Visit) (woken : Bool) (line : Line) :
    (scan ready woken line).2.2.taken =
      line.taken ++ (scan ready woken line).1.elim [] Received.datagrams := by
  induction ready generalizing woken line with
  | nil => exact (List.append_nil _).symm
  | cons visit ready inductionHypothesis =>
    rw [scan]
    cases visit.handle with
    | waker =>
      have rest := inductionHypothesis true (line.happenAll visit.before).drain
      rw [taken_drain, taken_happenAll] at rest
      exact rest
    | socket => simp [taken_recvfrom, Reading.datagrams_received]

/-- The loop has read exactly what it returns. -/
theorem taken_receive (deadline : Option Rat) (honourStop : Bool) (rounds : List Round) (line : Line) :
    (receive deadline honourStop rounds line).2.taken =
      line.taken ++ (receive deadline honourStop rounds line).1.datagrams := by
  induction rounds generalizing line with
  | nil => exact (List.append_nil _).symm
  | cons round rounds inductionHypothesis =>
    have scanned := taken_scan round.ready false (line.happenAll round.meanwhile)
    rw [taken_happenAll] at scanned
    rw [receive]
    split
    · simp [Received.datagrams]
    · generalize scan round.ready false (line.happenAll round.meanwhile) = after at scanned ⊢
      obtain ⟨answer, woken, rest⟩ := after
      cases answer with
      | some answer => exact scanned
      | none =>
        have same : (rest.happenAll round.later).taken = line.taken := by
          rw [taken_happenAll]
          exact scanned.trans (List.append_nil _)
        dsimp only
        split
        · rw [same]
          exact (List.append_nil _).symm
        · split
          · rw [same]
            exact (List.append_nil _).symm
          · rw [inductionHypothesis, same]

end Line

/-! ## The ledger of a call -/

/-- The message a decode returned. -/
def delivered : Except Stop (Option Message) → List Message
  | .ok (some message) => [message]
  | .ok none | .error _ => []

namespace BoundCollector

/-- The messages a collector decodes from some datagrams. -/
def messagesOf (collector : BoundCollector) (datagrams : List Decoder.Datagram) : List Message :=
  (collector.filter.results datagrams).flatMap delivered

/-- Between the two collectors the datagrams were read, and each was decoded. -/
structure Reads (collector after : BoundCollector) (datagrams : List Decoder.Datagram) : Prop where
  taken : after.line.taken = collector.line.taken ++ datagrams
  filter : after.filter = collector.filter.decodeAll datagrams

namespace Reads

variable {collector between after : BoundCollector} {first second : List Decoder.Datagram}

/-- Reading nothing leaves the filter alone. -/
theorem none (taken : after.line.taken = collector.line.taken) (filter : after.filter = collector.filter) :
    Reads collector after [] :=
  ⟨by rw [taken, List.append_nil], filter⟩

theorem trans (one : Reads collector between first) (two : Reads between after second) :
    Reads collector after (first ++ second) := by
  refine ⟨?_, ?_⟩
  · rw [two.taken, one.taken, List.append_assoc]
  · rw [two.filter, one.filter]
    exact (stateAfter_append _ _ _).symm

end Reads

theorem messagesOf_append {collector between : BoundCollector} {first : List Decoder.Datagram}
    (reads : Reads collector between first) (second : List Decoder.Datagram) :
    collector.messagesOf (first ++ second) = collector.messagesOf first ++ between.messagesOf second := by
  rw [messagesOf, messagesOf, messagesOf, Collector.results, outputs_append, List.flatMap_append, reads.filter]
  rfl

/-- `_receive` reads what it returns and decodes nothing. -/
theorem receive_taken (collector : BoundCollector) (timeout : Option Rat) (honourStop : Bool) (wait : Wait) :
    (collector.receive timeout honourStop wait).2.line.taken =
      collector.line.taken ++ (collector.receive timeout honourStop wait).1.datagrams :=
  Line.taken_receive (wait.deadline timeout) honourStop wait.rounds collector.line

/-- A datagram received and then decoded. -/
theorem reads_decode {collector received : BoundCollector} {datagram : Decoder.Datagram}
    (taken : received.line.taken = collector.line.taken ++ [datagram]) (filter : received.filter = collector.filter) :
    Reads collector (received.decode datagram).2 [datagram] ∧
      collector.messagesOf [datagram] = delivered (received.decode datagram).1 := by
  refine ⟨⟨taken, ?_⟩, ?_⟩
  · rw [decode, filter]
    rfl
  · rw [messagesOf, decode, filter]
    exact List.append_nil _

/-! ## The ledger of a generator -/

variable {α : Type}

/-- The item a `next` yields. -/
def Next.items : Next α → List α
  | .item yielded => [yielded]
  | .ended | .raised _ | .waiting => []

/-- What `each` makes of a message; a message it raises on goes to no one. -/
def itemsOf (each : Message → Except PyError (List α)) (message : Message) : List α :=
  match each message with
  | .ok items => items
  | .error _ => []

/-- What the loop decodes is what it yields and leaves pending. -/
theorem messageLoop_reads (each : Message → Except PyError (List α)) (timeout : Option Rat) (waits : List Wait)
    (collector : BoundCollector) :
    ∃ datagrams, Reads collector (messageLoop each timeout waits collector).2.2 datagrams ∧
      (collector.messagesOf datagrams).flatMap (itemsOf each) =
        (messageLoop each timeout waits collector).1.items ++
          (messageLoop each timeout waits collector).2.1.pending := by
  induction waits generalizing collector with
  | nil =>
    refine ⟨[], ?_⟩
    rw [messageLoop]
    split <;> exact ⟨.none rfl rfl, rfl⟩
  | cons wait waits inductionHypothesis =>
    have happened : (collector.happenAll wait.before).line.taken = collector.line.taken :=
      collector.line.taken_happenAll wait.before
    rw [messageLoop]
    dsimp only
    split
    · exact ⟨[], .none happened rfl, rfl⟩
    · have taken := (collector.happenAll wait.before).receive_taken timeout true wait
      have filter : ((collector.happenAll wait.before).receive timeout true wait).2.filter = collector.filter := rfl
      rw [happened] at taken
      generalize (collector.happenAll wait.before).receive timeout true wait = after at taken filter ⊢
      obtain ⟨received, after⟩ := after
      cases received with
      | waiting => exact ⟨[], .none (taken.trans (List.append_nil _)) filter, rfl⟩
      | raised error => exact ⟨[], .none (taken.trans (List.append_nil _)) filter, rfl⟩
      | nothing =>
        obtain ⟨datagrams, reads, items⟩ := inductionHypothesis after
        have still : Reads collector after [] := .none (taken.trans (List.append_nil _)) filter
        exact ⟨datagrams, still.trans reads, by rw [← items, ← List.nil_append datagrams, messagesOf_append still]; rfl⟩
      | datagram datagram =>
        obtain ⟨one, message⟩ := reads_decode taken filter
        dsimp only at one message ⊢
        generalize after.decode datagram = decoded at one message ⊢
        obtain ⟨result, decoded⟩ := decoded
        have goOn (nothing : (collector.messagesOf [datagram]).flatMap (itemsOf each) = []) :
            ∃ datagrams, Reads collector (messageLoop each timeout waits decoded).2.2 datagrams ∧
              (collector.messagesOf datagrams).flatMap (itemsOf each) =
                (messageLoop each timeout waits decoded).1.items ++
                  (messageLoop each timeout waits decoded).2.1.pending := by
          obtain ⟨datagrams, reads, items⟩ := inductionHypothesis decoded
          refine ⟨[datagram] ++ datagrams, one.trans reads, ?_⟩
          rw [messagesOf_append one, List.flatMap_append, nothing, List.nil_append, items]
        cases result with
        | error stop =>
          refine ⟨[datagram], one, ?_⟩
          rw [message]
          rfl
        | ok result =>
          cases result with
          | none => exact goOn (by rw [message]; rfl)
          | some decodedMessage =>
            have items : (collector.messagesOf [datagram]).flatMap (itemsOf each) = itemsOf each decodedMessage := by
              rw [message]
              exact List.append_nil _
            dsimp only
            rw [itemsOf] at items
            generalize each decodedMessage = made at items ⊢
            cases made with
            | error error => exact ⟨[datagram], one, items⟩
            | ok made =>
              cases made with
              | nil => exact goOn items
              | cons item rest => exact ⟨[datagram], one, items⟩

/-- So for a `next`, with what was pending before it. -/
theorem advance_reads (each : Message → Except PyError (List α)) (timeout : Option Rat) (generator : Generator α)
    (waits : List Wait) (collector : BoundCollector) :
    ∃ datagrams, Reads collector (advance each timeout generator waits collector).2.2 datagrams ∧
      generator.pending ++ (collector.messagesOf datagrams).flatMap (itemsOf each) =
        (advance each timeout generator waits collector).1.items ++
          (advance each timeout generator waits collector).2.1.pending := by
  obtain ⟨pending, finished⟩ := generator
  rw [advance]
  split
  · exact ⟨[], .none rfl rfl, List.append_nil _⟩
  · cases pending with
    | nil => exact messageLoop_reads each _ waits collector
    | cons item items => exact ⟨[], .none rfl rfl, List.append_nil _⟩

/-- The message a poll returns. -/
def Polled.message : Polled → List Message
  | some (.ok (some message)) => [message]
  | some (.ok none) | some (.error _) | none => []

theorem poll_reads (timeout : Option Rat) (wait : Wait) (collector : BoundCollector) :
    ∃ datagrams, Reads collector (collector.poll timeout wait).2 datagrams ∧
      collector.messagesOf datagrams = (collector.poll timeout wait).1.message := by
  have happened : (collector.happenAll wait.before).line.taken = collector.line.taken :=
    collector.line.taken_happenAll wait.before
  rw [poll]
  split
  · exact ⟨[], .none rfl rfl, rfl⟩
  · have taken := (collector.happenAll wait.before).receive_taken timeout false wait
    have filter : ((collector.happenAll wait.before).receive timeout false wait).2.filter = collector.filter := rfl
    rw [happened] at taken
    dsimp only
    generalize (collector.happenAll wait.before).receive timeout false wait = after at taken filter ⊢
    obtain ⟨received, after⟩ := after
    cases received with
    | waiting => exact ⟨[], .none (taken.trans (List.append_nil _)) filter, rfl⟩
    | raised error => exact ⟨[], .none (taken.trans (List.append_nil _)) filter, rfl⟩
    | nothing => exact ⟨[], .none (taken.trans (List.append_nil _)) filter, rfl⟩
    | datagram datagram =>
      obtain ⟨one, message⟩ := reads_decode taken filter
      refine ⟨[datagram], one, message.trans ?_⟩
      dsimp only
      cases (after.decode datagram).1 with
      | error stop => rfl
      | ok result => cases result <;> rfl

/-! ## The ledger of a session -/

/-- The item a call yielded. -/
def Answer.yielded : Answer α → List α
  | .next given => given.items
  | .polled _ | .done => []

/-- The message a call returned to a poll. -/
def Answer.polledMessage : Answer α → List Message
  | .polled given => given.message
  | .next _ | .done => []

/-- Each message goes to one taker: marked, it was returned by a poll, and unmarked it went to the generator. -/
structure Shared (each : Message → Except PyError (List α)) (messages polled : List Message)
    (before yielded after : List α) (marked : List (Message × Bool)) : Prop where
  messages : marked.map Prod.fst = messages
  polled : (marked.filter Prod.snd).map Prod.fst = polled
  yielded : before ++ ((marked.filter fun entry => !entry.2).map Prod.fst).flatMap (itemsOf each) = yielded ++ after

namespace Shared

variable {each : Message → Except PyError (List α)} {messages more polled morePolled : List Message}
  {before yielded between yieldedLater after : List α} {marked later : List (Message × Bool)}

theorem toPoll (each : Message → Except PyError (List α)) (messages : List Message) (pending : List α) :
    Shared each messages messages pending [] pending (messages.map (·, true)) := by
  refine ⟨?_, ?_, ?_⟩ <;> simp [List.filter_map, Function.comp_def]

theorem toGenerator {messages : List Message}
    (items : before ++ messages.flatMap (itemsOf each) = yielded ++ after) :
    Shared each messages [] before yielded after (messages.map (·, false)) := by
  refine ⟨?_, ?_, ?_⟩ <;> simp [List.filter_map, Function.comp_def, items]

theorem trans (one : Shared each messages polled before yielded between marked)
    (two : Shared each more morePolled between yieldedLater after later) :
    Shared each (messages ++ more) (polled ++ morePolled) before (yielded ++ yieldedLater) after (marked ++ later) where
  messages := by rw [List.map_append, one.messages, two.messages]
  polled := by rw [List.filter_append, List.map_append, one.polled, two.polled]
  yielded := by
    rw [List.filter_append, List.map_append, List.flatMap_append, ← List.append_assoc, one.yielded, List.append_assoc,
      two.yielded, List.append_assoc]

end Shared

theorem call_reads (each : Message → Except PyError (List α)) (timeout : Option Rat) (session : Session α)
    (call : Call) :
    ∃ datagrams marked, Reads session.collector (session.call each timeout call).2.collector datagrams ∧
      Shared each (session.collector.messagesOf datagrams) (session.call each timeout call).1.polledMessage
        session.generator.pending (session.call each timeout call).1.yielded
        (session.call each timeout call).2.generator.pending marked := by
  cases call with
  | next waits =>
    obtain ⟨datagrams, reads, items⟩ := advance_reads each timeout session.generator waits session.collector
    exact ⟨datagrams, _, reads, .toGenerator items⟩
  | poll pollTimeout wait =>
    obtain ⟨datagrams, reads, messages⟩ := poll_reads pollTimeout wait session.collector
    have polled : (session.call each timeout (.poll pollTimeout wait)).1.polledMessage =
        session.collector.messagesOf datagrams := messages.symm
    rw [polled]
    exact ⟨datagrams, _, reads, .toPoll each _ _⟩
  | stop =>
    refine ⟨[], [], .none ?_ rfl, .toPoll each [] _⟩
    simp only [Session.call, stop]
    split <;> rfl
  | close =>
    refine ⟨[], [], .none ?_ ?_, .toPoll each [] _⟩ <;> simp only [Session.call, close] <;> split <;> rfl
  | idle happenings =>
    exact ⟨[], [], .none (session.collector.line.taken_happenAll happenings) rfl, .toPoll each [] _⟩

/-- Over any session each datagram read is decoded once, in the order of arrival, and each message goes to one taker. -/
theorem session_reads (each : Message → Except PyError (List α)) (timeout : Option Rat) (session : Session α)
    (calls : List Call) :
    ∃ datagrams marked,
      Reads session.collector (stateAfter (Session.call each timeout) session calls).collector datagrams ∧
      Shared each (session.collector.messagesOf datagrams)
        ((outputs (Session.call each timeout) session calls).flatMap Answer.polledMessage) session.generator.pending
        ((outputs (Session.call each timeout) session calls).flatMap Answer.yielded)
        (stateAfter (Session.call each timeout) session calls).generator.pending marked := by
  induction calls generalizing session with
  | nil => exact ⟨[], [], .none rfl rfl, .toPoll each [] _⟩
  | cons call calls inductionHypothesis =>
    obtain ⟨first, marked, reads, shared⟩ := call_reads each timeout session call
    obtain ⟨rest, later, readsLater, sharedLater⟩ := inductionHypothesis (session.call each timeout call).2
    refine ⟨first ++ rest, marked ++ later, reads.trans readsLater, ?_⟩
    rw [messagesOf_append reads]
    exact shared.trans sharedLater

theorem session_reads_iterators :
    let twoFlows : Decoder.Datagram := ⟨[0, 5, 0, 2] ++ List.replicate 116 0, .str "192.0.2.1"⟩
    let reading : Wait := ⟨[.arrives (.datagram twoFlows)], 0, [⟨[], [⟨[], .socket⟩], [], 1⟩]⟩
    let collector : BoundCollector := ⟨⟨.fresh, none⟩, some 1, false, .new⟩
    let calls : List Call := [.next [reading], .poll (some 0) reading, .idle [.stops], .next [reading]]
    (∃ datagrams marked,
      Reads collector (stateAfter (Session.call eachMessage none) ⟨collector, .new _⟩ calls).collector datagrams ∧
      Shared eachMessage (collector.messagesOf datagrams)
        ((outputs (Session.call eachMessage none) ⟨collector, .new _⟩ calls).flatMap Answer.polledMessage) []
        ((outputs (Session.call eachMessage none) ⟨collector, .new _⟩ calls).flatMap Answer.yielded)
        (stateAfter (Session.call eachMessage none) ⟨collector, .new _⟩ calls).generator.pending marked) ∧
    (∃ datagrams marked,
      Reads collector (stateAfter (Session.call (eachFlow id none 0) none) ⟨collector, .new _⟩ calls).collector datagrams ∧
      Shared (eachFlow id none 0) (collector.messagesOf datagrams)
        ((outputs (Session.call (eachFlow id none 0) none) ⟨collector, .new _⟩ calls).flatMap Answer.polledMessage) []
        ((outputs (Session.call (eachFlow id none 0) none) ⟨collector, .new _⟩ calls).flatMap Answer.yielded)
        (stateAfter (Session.call (eachFlow id none 0) none) ⟨collector, .new _⟩ calls).generator.pending marked) := by
  intro twoFlows reading collector calls
  exact ⟨session_reads eachMessage none ⟨collector, .new _⟩ calls,
    session_reads (eachFlow id none 0) none ⟨collector, .new _⟩ calls⟩

end BoundCollector

end Netflume
