import Netflume.DecoderLedger

/-! # No event is lost uncounted

Three producers and the failures of `decode` feed one bounded queue.  Between
calls the producers hold nothing back, a call queues all it raised before it
returns, and over any interleaving of calls every event was handed over, is
pending, or was counted as dropped. -/

namespace Netflume

open Library

/-- The largest payload of a UDP datagram. -/
def maxDatagram : Nat := 65535

namespace Decoder

/-! ## The queue -/

/-- The events pending, and how many were dropped so far. -/
def backlog (decoder : Decoder) : List Event × Nat := (decoder.events, decoder.stats.eventsDropped)

def enqueue (backlog : List Event × Nat) (events : List Event) : List Event × Nat :=
  (push maxPendingEvents backlog.1 events, backlog.2 + (overflow maxPendingEvents backlog.1 events).length)

theorem enqueue_append (backlog : List Event × Nat) (first second : List Event) :
    enqueue (enqueue backlog first) second = enqueue backlog (first ++ second) := by
  obtain ⟨pending, dropped⟩ := push_push maxPendingEvents backlog.1 first second
  simp only [enqueue, pending, ← dropped, Nat.add_assoc]

theorem enqueued {decoder after : Decoder} {events : List Event}
    (queued : after.backlog = enqueue decoder.backlog events) :
    after.events = push maxPendingEvents decoder.events events ∧ after.stats.eventsDropped =
      decoder.stats.eventsDropped + (overflow maxPendingEvents decoder.events events).length := by
  simpa only [backlog, enqueue, Prod.mk.injEq] using queued

theorem enqueued_bounded {decoder after : Decoder} {events : List Event}
    (queued : after.backlog = enqueue decoder.backlog events) : after.events.length ≤ maxPendingEvents := by
  rw [(enqueued queued).1]
  exact length_push_le maxPendingEvents decoder.events events

theorem queueOne_backlog {decoder : Decoder} (bounded : decoder.events.length ≤ maxPendingEvents) (event : Event) :
    (decoder.queueOne event).backlog = enqueue decoder.backlog [event] := by
  rw [queueOne]
  split
  · rename_i full
    have ceiling : 0 < maxPendingEvents := by decide
    obtain ⟨oldest, rest, split⟩ := List.exists_cons_of_length_pos (show 0 < decoder.events.length by omega)
    have one : (oldest :: rest).length + 1 - maxPendingEvents = 1 := by
      rw [← split]
      omega
    simp only [backlog, enqueue, push, List.rtake, length_overflow, split, List.length_append, List.length_singleton, one]
    rfl
  · rename_i room
    have fits : decoder.events.length + [event].length ≤ maxPendingEvents := by
      rw [List.length_singleton]
      omega
    simp only [backlog, enqueue, push_of_room fits, length_overflow, Nat.sub_eq_zero_of_le fits, Nat.add_zero]

theorem queue_backlog {decoder : Decoder} (bounded : decoder.events.length ≤ maxPendingEvents) (events : List Event) :
    (decoder.queue events).backlog = enqueue decoder.backlog events := by
  induction events generalizing decoder with
  | nil => simp [queue, enqueue, backlog, push_nil bounded, Nat.sub_eq_zero_of_le bounded]
  | cons event events inductionHypothesis =>
    have first := queueOne_backlog bounded event
    have rest := inductionHypothesis (enqueued_bounded first)
    rw [first, enqueue_append] at rest
    exact rest

theorem fail_backlog {decoder : Decoder} (bounded : decoder.events.length ≤ maxPendingEvents) (exporter : Exporter)
    (reason detail : String) (counted : Bool) :
    (decoder.fail exporter reason detail counted).2.backlog =
      enqueue decoder.backlog [.decodeError ⟨exporter, reason, detail⟩] := by
  cases counted with
  | true => exact queue_backlog bounded _
  | false =>
    rw [fail, if_neg Bool.false_ne_true]
    exact queue_backlog (by exact bounded) _

/-! ## The producers -/

/-- Between two calls the producers hold nothing back. -/
structure Drained (core : Core) : Prop where
  templates : core.templates.events = []
  sequence : ∀ watch, core.sequence = some watch → watch.events = []
  sampling : ∀ watch, core.sampling = some watch → watch.events = []

/-- Between two calls: the store is fit for the next one, and everything raised is in the decoder's own queue. -/
structure Settled (decoder : Decoder) : Prop where
  queues : decoder.templates.Queues maxPendingTemplates
  drained : Drained decoder.core
  bounded : decoder.events.length ≤ maxPendingEvents

theorem drained_observe {core : Core} (drained : Drained core) (obs : Observation) : Drained (core.observe obs).2 := by
  rw [Core.observe]
  split
  · exact drained
  · exact ⟨drained.templates, fun watch same => by cases same; rfl, drained.sampling⟩

theorem drained_note {core : Core} (drained : Drained core) (key : SamplingKey) (opts : List Rec) {rate : Nat}
    (noted : (core.note key opts).1 = .ok rate) : Drained (core.note key opts).2 := by
  unfold Core.note at noted ⊢
  cases tracked : core.sampling with
  | none => exact drained
  | some watch =>
    simp only [tracked] at noted ⊢
    generalize noteAll key watch opts = outcome at noted ⊢
    obtain ⟨done, after⟩ := outcome
    cases done with
    | error error => cases noted
    | ok done => exact ⟨drained.templates, drained.sequence, fun watch same => by cases same; rfl⟩

theorem drained_step {core : Core} (drained : Drained core) {datagram : Datagram} {result : Option Message}
    (answer : (core.step datagram).1 = .ok result) : Drained (core.step datagram).2 := by
  cases read : datagram.header with
  | none =>
    obtain ⟨_, same | same⟩ := Core.step_headerless read core
    · rw [same]
      exact drained
    · rw [same]
      exact ⟨rfl, drained.sequence, drained.sampling⟩
  | some header =>
    rw [Core.step_headed read] at answer ⊢
    have parsed : Drained (core.afterRead datagram) := ⟨rfl, drained.sequence, drained.sampling⟩
    obtain ⟨rate, noted⟩ := Core.deliver_noted answer
    rw [Core.deliver_after]
    exact drained_note (drained_observe parsed _) _ _ noted

/-! ## What each turn queues -/

theorem watchSequence_backlog {decoder : Decoder} (bounded : decoder.events.length ≤ maxPendingEvents)
    (drained : Drained decoder.core) (obs : Observation) :
    (decoder.watchSequence obs).2.backlog = enqueue decoder.backlog (decoder.gapsRaised obs) := by
  obtain ⟨templates, stats, sequence, sampling, events⟩ := decoder
  cases sequence with
  | none => exact queue_backlog bounded []
  | some watch =>
    have silent : watch.events = [] := drained.sequence watch rfl
    have raised : watch.raised obs = (watch.observe obs).2.events := by
      rw [SequenceWatch.raised, silent]
      rfl
    simp only [watchSequence, gapsRaised, raised]
    generalize watch.observe obs = observed
    obtain ⟨gap, after⟩ := observed
    split
    · exact queue_backlog (by exact bounded) _
    · exact queue_backlog (by exact bounded) _

theorem watchSampling_backlog {decoder : Decoder} (bounded : decoder.events.length ≤ maxPendingEvents)
    (drained : Drained decoder.core) (key : SamplingKey) (opts : List Rec) {rate : Nat}
    (noted : (decoder.watchSampling key opts).1 = .ok rate) :
    (decoder.watchSampling key opts).2.backlog = enqueue decoder.backlog (decoder.changesRaised key opts) := by
  obtain ⟨templates, stats, sequence, sampling, events⟩ := decoder
  cases sampling with
  | none => exact queue_backlog bounded []
  | some watch =>
    have silent : watch.events = [] := drained.sampling watch rfl
    have raised : watch.raised key opts = (noteAll key watch opts).2.events := by
      rw [SamplingWatch.raised, silent]
      rfl
    simp only [watchSampling, changesRaised, raised] at noted ⊢
    generalize noteAll key watch opts = outcome at noted ⊢
    obtain ⟨done, after⟩ := outcome
    cases done with
    | error error => cases noted
    | ok done => exact queue_backlog (by exact bounded) _

/-- A template takes eight bytes at least, so the store's own queue holds all that one datagram teaches. -/
theorem parsed_backlog {decoder : Decoder} (settled : decoder.Settled) {data : Bytes}
    (size : data.length ≤ maxDatagram) (exporter : Exporter) {run : ParseRun}
    (isParse : run = (decoder.receive data).parse data exporter (num data 0 2)) :
    (decoder.parsed run).backlog = enqueue decoder.backlog (decoder.templatesRaised run) := by
  obtain ⟨replayed, outcomes, _, few⟩ := parse_replays settled.queues data exporter
  rw [← isParse] at replayed outcomes few
  have room : decoder.templates.events.length + (learnedBy decoder.templates run.calls).length ≤ maxPendingTemplates := by
    have enough : maxDatagram < minTemplateSize * maxPendingTemplates := by decide
    have silent : decoder.templates.events = [] := settled.drained.templates
    rw [silent, List.length_nil, Nat.zero_add]
    exact Nat.le_of_lt (Nat.lt_of_mul_lt_mul_left (Nat.lt_of_le_of_lt (Nat.le_trans few size) enough))
  have learned : run.store.events = learnedBy decoder.templates run.calls := by
    have untaken : ∀ op ∈ run.calls.map StoreCall.op, op ≠ .takeEvents :=
      List.forall_mem_map.mpr fun call _ => op_ne_takeEvents call
    have waiting := TemplateStore.events_run settled.queues untaken room
    rw [← replayed, show decoder.templates.events = [] from settled.drained.templates] at waiting
    exact waiting
  have dropped : run.stats.eventsDropped = decoder.stats.eventsDropped :=
    (congrArg Stats.eventsDropped outcomes :)
  have queued := @queue_backlog { decoder with templates := run.store.takeEvents.2, stats := run.stats }
    settled.bounded (run.store.events.map .templateLearned)
  have same : ({ decoder with templates := run.store.takeEvents.2, stats := run.stats } : Decoder).backlog =
      decoder.backlog := congrArg (Prod.mk decoder.events) dropped
  rw [templatesRaised, ← learned, ← same]
  exact queued

section Congruence

variable {first second : Decoder}

theorem gapsRaised_congr (same : first.sequence = second.sequence) (obs : Observation) :
    first.gapsRaised obs = second.gapsRaised obs := by
  simp only [gapsRaised, same]

theorem changesRaised_congr (same : first.sampling = second.sampling) (key : SamplingKey) (opts : List Rec) :
    first.changesRaised key opts = second.changesRaised key opts := by
  simp only [changesRaised, same]

end Congruence

theorem deliver_backlog {decoder : Decoder} (bounded : decoder.events.length ≤ maxPendingEvents)
    (drained : Drained decoder.core) (exporter : Exporter) (version : Nat) (header : Header) (flows options : List Rec)
    {result : Option Message}
    (answer : (decoder.deliver exporter version header flows options).1 = .ok result) :
    (decoder.deliver exporter version header flows options).2.backlog = enqueue decoder.backlog
      (decoder.gapsRaised (observation exporter version header flows.length options.length) ++
        decoder.changesRaised ⟨exporter, header.domain⟩ options) := by
  generalize tallied : decoder.tally (countMessage version flows.length options.length) = counting
  have sameCore : counting.core = decoder.core := by
    rw [← tallied]
    rfl
  have sameBacklog : counting.backlog = decoder.backlog := by
    obtain ⟨_, _, _, _, frame⟩ := countMessage_frame version flows.length options.length decoder.stats
    rw [← tallied, tally, frame]
    rfl
  have countingBounded : counting.events.length ≤ maxPendingEvents := by
    rw [show counting.events = decoder.events from congrArg Prod.fst sameBacklog]
    exact bounded
  have watched := watchSequence_backlog countingBounded (sameCore ▸ drained)
    (observation exporter version header flows.length options.length)
  have watchingCore := (watchSequence_core counting (observation exporter version header flows.length options.length)).2
  simp only [deliver, tallied] at answer ⊢
  generalize counting.watchSequence (observation exporter version header flows.length options.length) = watching
    at watched watchingCore answer ⊢
  obtain ⟨gap, watching⟩ := watching
  rw [sameCore] at watchingCore
  have watchingBounded : watching.events.length ≤ maxPendingEvents := enqueued_bounded watched
  have watchingDrained : Drained watching.core := watchingCore ▸ drained_observe drained _
  have sameSampling : watching.sampling = decoder.sampling :=
    (congrArg Core.sampling watchingCore).trans (Core.observe_sampling _ _)
  have sampled : ∀ rate, (watching.watchSampling ⟨exporter, header.domain⟩ options).1 = .ok rate →
      (watching.watchSampling ⟨exporter, header.domain⟩ options).2.backlog =
        enqueue watching.backlog (watching.changesRaised ⟨exporter, header.domain⟩ options) :=
    fun _ noted => watchSampling_backlog watchingBounded watchingDrained _ _ noted
  simp only at watched answer ⊢
  generalize watching.watchSampling ⟨exporter, header.domain⟩ options = noting at sampled answer ⊢
  obtain ⟨outcome, after⟩ := noting
  cases outcome with
  | error error => cases answer
  | ok rate =>
    rw [← enqueue_append, ← gapsRaised_congr (congrArg Core.sequence sameCore), ← changesRaised_congr sameSampling,
      ← sameBacklog, ← watched]
    exact sampled rate rfl

/-- A call that returns has queued everything it raised, whatever it returns. -/
theorem decode_backlog {decoder : Decoder} (settled : decoder.Settled) {datagram : Datagram}
    (size : datagram.data.length ≤ maxDatagram) {result : Option Message}
    (answer : (decoder.decodeDatagram datagram).1 = .ok result) :
    (decoder.decodeDatagram datagram).2.backlog = enqueue decoder.backlog (decoder.raised datagram) := by
  have left := decode_exit decoder datagram
  generalize decoder.decodeDatagram datagram = outcome at answer left ⊢
  generalize decoder.raised datagram = events at left ⊢
  have parsedBounded : ∀ run, run = (decoder.receive datagram.data).parse datagram.data
      (exporterKey datagram.exporter) (num datagram.data 0 2) → (decoder.parsed run).events.length ≤ maxPendingEvents :=
    fun run isParse => enqueued_bounded (parsed_backlog settled size _ isParse)
  cases left with
  | short few => exact fail_backlog (by exact settled.bounded) _ _ _ _
  | unsupported unknown => exact fail_backlog (by exact settled.bounded) _ _ _ _
  | headerless isParse =>
    rw [fail_backlog (parsedBounded _ isParse), parsed_backlog settled size _ isParse, enqueue_append]
  | @delivered run header flows options isParse known =>
    have core := decoder.parsed_core run
    have drained : Drained (decoder.parsed run).core := by
      rw [core]
      exact ⟨rfl, settled.drained.sequence, settled.drained.sampling⟩
    rw [deliver_backlog (parsedBounded _ isParse) drained _ _ _ _ _ answer, parsed_backlog settled size _ isParse,
      enqueue_append, gapsRaised_congr (congrArg Core.sequence core), changesRaised_congr (congrArg Core.sampling core)]

theorem settled_decode {decoder : Decoder} (settled : decoder.Settled) {datagram : Datagram}
    (size : datagram.data.length ≤ maxDatagram) {result : Option Message}
    (answer : (decoder.decodeDatagram datagram).1 = .ok result) : (decoder.decodeDatagram datagram).2.Settled where
  queues := decode_queues settled.queues datagram
  drained := by
    obtain ⟨sameAnswer, sameCore⟩ := decode_core decoder datagram
    rw [sameAnswer] at answer
    rw [sameCore]
    exact drained_step settled.drained answer
  bounded := enqueued_bounded (decode_backlog settled size answer)

/-! ## Runs of a caller -/

/-- What a caller does with a decoder. -/
inductive Op where
  | decode (datagram : Datagram)
  | takeEvents

inductive Answer where
  | decoded (result : Except Stop (Option Message))
  | events (events : List Event)

def perform (decoder : Decoder) : Op → Answer × Decoder
  | .decode datagram =>
    let (result, decoder) := decoder.decodeDatagram datagram
    (.decoded result, decoder)
  | .takeEvents =>
    let (events, decoder) := decoder.takeEvents
    (.events events, decoder)

/-- The events an operation raises. -/
def raisedBy (decoder : Decoder) : Op → List Event
  | .decode datagram => decoder.raised datagram
  | .takeEvents => []

/-- The events an operation hands over. -/
def handedOver (decoder : Decoder) : Op → List Event
  | .decode _ => []
  | .takeEvents => decoder.takeEvents.1

/-- The oldest events of the queue, as many as an operation raises more than the ceiling leaves room for. -/
def displaced (decoder : Decoder) : Op → List Event
  | .decode datagram => overflow maxPendingEvents decoder.events (decoder.raised datagram)
  | .takeEvents => []

/-- A datagram that fits in a UDP payload. -/
def Op.Fits : Op → Prop
  | .decode datagram => datagram.data.length ≤ maxDatagram
  | .takeEvents => True

/-- The call did not raise. -/
def Answer.Returned : Answer → Prop
  | .decoded result => ∃ message, result = .ok message
  | .events _ => True

/-- What one operation does to the queue of a settled decoder. -/
structure Turn (decoder : Decoder) (op : Op) (after : Decoder) : Prop where
  settled : after.Settled
  balanced : decoder.events ++ decoder.raisedBy op = decoder.displaced op ++ (decoder.handedOver op ++ after.events)
  dropped : after.stats.eventsDropped = decoder.stats.eventsDropped + (decoder.displaced op).length

theorem perform_turn {decoder : Decoder} (settled : decoder.Settled) {op : Op} (fits : op.Fits)
    (returned : (decoder.perform op).1.Returned) : Turn decoder op (decoder.perform op).2 := by
  cases op with
  | decode datagram =>
    obtain ⟨result, answer⟩ := returned
    obtain ⟨pending, dropped⟩ := enqueued (decode_backlog settled fits answer)
    refine ⟨settled_decode settled fits answer, ?_, dropped⟩
    have whole := overflow_append_push maxPendingEvents decoder.events (decoder.raised datagram)
    rw [← pending] at whole
    exact whole.symm
  | takeEvents =>
    refine ⟨⟨settled.queues, settled.drained, Nat.zero_le _⟩, ?_, rfl⟩
    simp [raisedBy, displaced, handedOver, perform, takeEvents]

theorem settled_new (trackSequence trackSampling : Bool) : (new trackSequence trackSampling).Settled := by
  have room : TemplateStore.Queues maxPendingTemplates (TemplateStore.new maxTemplates maxPendingTemplates) :=
    ⟨by decide, by decide, rfl, Nat.zero_le _⟩
  refine ⟨room, ⟨rfl, fun watch same => ?_, fun watch same => ?_⟩, Nat.zero_le _⟩
  · cases trackSequence <;> cases same
    rfl
  · cases trackSampling <;> cases same
    rfl

/-- The queue of a decoder over any run: its history, and the count of what it dropped. -/
theorem history_run (trackSequence trackSampling : Bool) (run : List Op) (fits : ∀ op ∈ run, op.Fits)
    (returned : ∀ answer ∈ outputs perform (new trackSequence trackSampling) run, answer.Returned) :
    ∃ past, History (collect perform raisedBy (new trackSequence trackSampling) run)
        (collect perform handedOver (new trackSequence trackSampling) run)
        (collect perform displaced (new trackSequence trackSampling) run)
        (stateAfter perform (new trackSequence trackSampling) run).events past ∧
      (stateAfter perform (new trackSequence trackSampling) run).Settled ∧
      (stateAfter perform (new trackSequence trackSampling) run).stats.eventsDropped =
        (collect perform displaced (new trackSequence trackSampling) run).length := by
  induction run using List.reverseRecOn with
  | nil => exact ⟨[], .nil, settled_new trackSequence trackSampling, rfl⟩
  | append_singleton run op inductionHypothesis =>
    rw [outputs_snoc] at returned
    obtain ⟨past, history, settled, dropped⟩ := inductionHypothesis
      (fun op member => fits op (List.mem_append_left _ member))
      fun answer member => returned answer (List.mem_append_left _ member)
    have turn := perform_turn settled (fits op (List.mem_append_right _ (List.mem_singleton_self _)))
      (returned _ (List.mem_append_right _ (List.mem_singleton_self _)))
    rw [stateAfter_snoc, collect_snoc, collect_snoc, collect_snoc]
    obtain ⟨longer, later⟩ := history.step turn.balanced
    refine ⟨longer, later, turn.settled, ?_⟩
    rw [turn.dropped, dropped, List.length_append]

end Decoder

/-- No event is lost uncounted, over any interleaving of calls that return. -/
theorem no_event_lost_uncounted (trackSequence trackSampling : Bool) (run : List Decoder.Op)
    (fits : ∀ op ∈ run, op.Fits)
    (returned : ∀ answer ∈ outputs Decoder.perform (Decoder.new trackSequence trackSampling) run, answer.Returned) :
    let start := Decoder.new trackSequence trackSampling
    let decoder := stateAfter Decoder.perform start run
    let raised := collect Decoder.perform Decoder.raisedBy start run
    let handedOver := collect Decoder.perform Decoder.handedOver start run
    let displaced := collect Decoder.perform Decoder.displaced start run
    handedOver.length + decoder.events.length + decoder.stats.eventsDropped = raised.length ∧
      decoder.events.length ≤ maxPendingEvents ∧
      (∃ past : List (Event × Bool), raised = past.map Prod.fst ++ decoder.events ∧
        handedOver = (past.filter Prod.snd).map Prod.fst ∧
        displaced = (past.filter fun left => !left.2).map Prod.fst) ∧
      ∀ datagram result, datagram.data.length ≤ maxDatagram → (decoder.decodeDatagram datagram).1 = .ok result →
        let after := (decoder.decodeDatagram datagram).2
        after.events = push maxPendingEvents decoder.events (decoder.raised datagram) ∧
          after.stats.eventsDropped =
            decoder.stats.eventsDropped + (overflow maxPendingEvents decoder.events (decoder.raised datagram)).length ∧
          Decoder.Drained after.core := by
  intro start decoder raised handedOver displaced
  obtain ⟨past, history, settled, dropped⟩ := Decoder.history_run trackSequence trackSampling run fits returned
  refine ⟨?_, settled.bounded, ⟨past, history.raised, history.handedOver, history.displaced⟩, ?_⟩
  · rw [dropped]
    exact history.length_raised.symm
  · intro datagram result size answer
    obtain ⟨pending, count⟩ := Decoder.enqueued (Decoder.decode_backlog settled size answer)
    exact ⟨pending, count, (Decoder.settled_decode settled size answer).drained⟩

/-- Two failures with the queue taken in between. -/
theorem no_event_lost_uncounted_between_takes :
    let run : List Decoder.Op := [.decode ⟨[0], .obj 1⟩, .takeEvents, .decode ⟨[0, 7], .obj 1⟩]
    let start := Decoder.new true true
    let decoder := stateAfter Decoder.perform start run
    let raised := collect Decoder.perform Decoder.raisedBy start run
    let handedOver := collect Decoder.perform Decoder.handedOver start run
    let displaced := collect Decoder.perform Decoder.displaced start run
    handedOver.length + decoder.events.length + decoder.stats.eventsDropped = raised.length ∧
      decoder.events.length ≤ maxPendingEvents ∧
      (∃ past : List (Event × Bool), raised = past.map Prod.fst ++ decoder.events ∧
        handedOver = (past.filter Prod.snd).map Prod.fst ∧
        displaced = (past.filter fun left => !left.2).map Prod.fst) ∧
      ∀ datagram result, datagram.data.length ≤ maxDatagram → (decoder.decodeDatagram datagram).1 = .ok result →
        let after := (decoder.decodeDatagram datagram).2
        after.events = push maxPendingEvents decoder.events (decoder.raised datagram) ∧
          after.stats.eventsDropped =
            decoder.stats.eventsDropped + (overflow maxPendingEvents decoder.events (decoder.raised datagram)).length ∧
          Decoder.Drained after.core :=
  no_event_lost_uncounted true true _
    (List.forall_mem_cons.mpr ⟨Nat.le_of_ble_eq_true rfl, List.forall_mem_cons.mpr ⟨trivial,
      List.forall_mem_cons.mpr ⟨Nat.le_of_ble_eq_true rfl, List.forall_mem_nil _⟩⟩⟩)
    (List.forall_mem_cons.mpr ⟨⟨_, rfl⟩, List.forall_mem_cons.mpr ⟨trivial,
      List.forall_mem_cons.mpr ⟨⟨_, rfl⟩, List.forall_mem_nil _⟩⟩⟩)

end Netflume
