import Netflume.DecoderCore
import Netflume.ParseCalls

/-! # What one call of the decoder books

The events a call raises are read off its producers: the templates its parse puts
in the store, the gap the sequence watch appends, the rates the sampling watch
notes, and the failure the call ends in.  A call that returns adds one packet and
one outcome to the counters, and puts every event it raised in the queue. -/

namespace Netflume

open Library

/-- What `observe` appends to the watch's own events. -/
def SequenceWatch.raised (watch : SequenceWatch) (obs : Observation) : List ExportGap :=
  (watch.observe obs).2.events.drop watch.events.length

/-- What noting the option records appends to the watch's own events. -/
def SamplingWatch.raised (watch : SamplingWatch) (key : SamplingKey) (opts : List Rec) : List SamplingChange :=
  (Decoder.noteAll key watch opts).2.events.drop watch.events.length

namespace Decoder

/-- The datagram is counted before anything is read from it. -/
def receive (decoder : Decoder) (data : Bytes) : Decoder :=
  decoder.tally fun stats => { stats with packets := stats.packets + 1, bytesRx := stats.bytesRx + data.length }

def gapsRaised (decoder : Decoder) (obs : Observation) : List Event :=
  match decoder.sequence with
  | none => []
  | some watch => (watch.raised obs).map .exportGap

def changesRaised (decoder : Decoder) (key : SamplingKey) (opts : List Rec) : List Event :=
  match decoder.sampling with
  | none => []
  | some watch => (watch.raised key opts).map .samplingChange

/-- The templates learned from a datagram. -/
def templatesRaised (decoder : Decoder) (run : ParseRun) : List Event :=
  (learnedBy decoder.templates run.calls).map .templateLearned

/-- The events one call of `decode` raises, exit by exit, in the order they are raised. -/
def raised (decoder : Decoder) (datagram : Datagram) : List Event :=
  let data := datagram.data
  let exporter := exporterKey datagram.exporter
  if data.length < 2 then [.decodeError ⟨exporter, "short", "fewer than two bytes"⟩]
  else
    let version := num data 0 2
    if version ∉ supportedVersions then
      [.decodeError ⟨exporter, "unsupported", "version " ++ Nat.repr version⟩]
    else
      let run := (decoder.receive data).parse data exporter version
      decoder.templatesRaised run ++
        match run.outcome with
        | .error .outOfFuel => []
        | .error (.raised error) =>
          [.decodeError ⟨exporter, "malformed", error.typeName ++ ": " ++ error.text⟩]
        | .ok parsed =>
          match parsed.header with
          | none => [.decodeError ⟨exporter, "short", "truncated header"⟩]
          | some header =>
            decoder.gapsRaised
                (observation exporter version header parsed.records.length parsed.options.length) ++
              decoder.changesRaised ⟨exporter, header.domain⟩ parsed.options

end Decoder

def Event.isDecodeError : Event → Bool
  | .decodeError _ => true
  | .exportGap _ | .samplingChange _ | .templateLearned _ => false

def Event.isTemplateLearned : Event → Bool
  | .templateLearned _ => true
  | .exportGap _ | .samplingChange _ | .decodeError _ => false

/-- The messages decoded, whatever their version. -/
def Stats.messages (stats : Stats) : Nat := stats.v5Msgs + stats.v9Msgs + stats.v10Msgs

/-- The datagrams nothing usable was in. -/
def Stats.failures (stats : Stats) : Nat := stats.malformed + stats.unsupportedVersion + stats.parseErrors

namespace Decoder

/-- The counters behind a call that returned: one packet, and the one outcome it had. -/
structure Books (decoder : Decoder) (datagram : Datagram) (result : Option Message) (events : List Event)
    (after : Decoder) : Prop where
  packets : after.stats.packets = decoder.stats.packets + 1
  bytesRx : after.stats.bytesRx = decoder.stats.bytesRx + datagram.data.length
  messages : after.stats.messages = decoder.stats.messages + result.isSome.toNat
  failures : after.stats.failures = decoder.stats.failures + result.isNone.toNat
  errors : (events.filter Event.isDecodeError).length = result.isNone.toNat
  flows : after.stats.flows = decoder.stats.flows + result.elim 0 fun message => message.flows.length
  optionRecords : after.stats.optionRecords =
    decoder.stats.optionRecords + result.elim 0 fun message => message.options.length
  missedExports : after.stats.missedExports = decoder.stats.missedExports + result.elim 0 Message.gap
  templatesNew : after.stats.templatesNew =
    decoder.stats.templatesNew + (events.filter Event.isTemplateLearned).length
  learned : after.templates.learned = decoder.templates.learned + (events.filter Event.isTemplateLearned).length

/-! ## The counters, step by step -/

section Steps

variable (decoder : Decoder) (exporter : Exporter) (version : Nat) (header : Header) (flows options : List Rec)

theorem fail_ledger (reason detail : String) (counted : Bool) :
    (decoder.fail exporter reason detail counted).2.stats.ledger =
      { decoder.stats.ledger with malformed := decoder.stats.malformed + if counted then 0 else 1 } := by
  refine (queue_ledger _ _).trans ?_
  cases counted <;> rfl

theorem drainTemplates_ledger : decoder.drainTemplates.stats.ledger = decoder.stats.ledger := queue_ledger _ _

/-- A message counts once, under its version, with its records. -/
theorem countMessage_frame (version flows options : Nat) (stats : Stats) :
    ∃ v5 v9 v10, v5 + v9 + v10 = stats.messages + 1 ∧ countMessage version flows options stats =
      { stats with
        v5Msgs := v5
        v9Msgs := v9
        v10Msgs := v10
        flows := stats.flows + flows
        optionRecords := stats.optionRecords + options } := by
  unfold countMessage Stats.messages
  split
  · exact ⟨stats.v5Msgs + 1, stats.v9Msgs, stats.v10Msgs, by omega, rfl⟩
  · split
    · exact ⟨stats.v5Msgs, stats.v9Msgs + 1, stats.v10Msgs, by omega, rfl⟩
    · exact ⟨stats.v5Msgs, stats.v9Msgs, stats.v10Msgs + 1, by omega, rfl⟩

/-- A delivery that returns returns a message, with the gap before it. -/
theorem deliver_message {result : Option Message}
    (answer : (decoder.deliver exporter version header flows options).1 = .ok result) :
    ∃ rate, result = some ⟨header, flows, options,
      (decoder.core.observe (observation exporter version header flows.length options.length)).1, rate⟩ := by
  rw [(deliver_core decoder exporter version header flows options).1] at answer
  simp only [Core.deliver] at answer
  split at answer
  · cases answer
  · cases answer
    exact ⟨_, rfl⟩

theorem fail_templates (reason detail : String) (counted : Bool) :
    (decoder.fail exporter reason detail counted).2.templates = decoder.templates :=
  congrArg Core.templates (fail_core decoder exporter reason detail counted).2

theorem deliver_templates :
    (decoder.deliver exporter version header flows options).2.templates = decoder.templates :=
  (congrArg Core.templates (deliver_core decoder exporter version header flows options).2).trans
    (Core.deliver_templates _ _ _ _ _ _)

end Steps

/-! ## The exits of a call -/

/-- The decoder once a parse is over and what it taught is queued. -/
def parsed (decoder : Decoder) (run : ParseRun) : Decoder :=
  { decoder with templates := run.store, stats := run.stats }.drainTemplates

theorem parsed_core (decoder : Decoder) (run : ParseRun) :
    (decoder.parsed run).core = { decoder.core with templates := run.store.takeEvents.2 } :=
  drainTemplates_core _

/-- The ways a call can end, each with what it returns and leaves and the events it raised.  The parse
never raises, so the exit that reports one is not among them. -/
inductive Exit (decoder : Decoder) (datagram : Datagram) : Outcome → List Event → Prop where
  | short (few : datagram.data.length < 2) :
    Exit decoder datagram
      ((decoder.receive datagram.data).fail (exporterKey datagram.exporter) "short" "fewer than two bytes" false)
      [.decodeError ⟨exporterKey datagram.exporter, "short", "fewer than two bytes"⟩]
  | unsupported (unknown : num datagram.data 0 2 ∉ supportedVersions) :
    Exit decoder datagram
      (((decoder.receive datagram.data).tally
        fun stats => { stats with unsupportedVersion := stats.unsupportedVersion + 1 }).fail
          (exporterKey datagram.exporter) "unsupported" ("version " ++ Nat.repr (num datagram.data 0 2)) true)
      [.decodeError
        ⟨exporterKey datagram.exporter, "unsupported", "version " ++ Nat.repr (num datagram.data 0 2)⟩]
  | headerless {run : ParseRun}
    (isParse : run = (decoder.receive datagram.data).parse datagram.data (exporterKey datagram.exporter)
      (num datagram.data 0 2)) :
    Exit decoder datagram
      ((decoder.parsed run).fail (exporterKey datagram.exporter) "short" "truncated header" false)
      (decoder.templatesRaised run ++ [.decodeError ⟨exporterKey datagram.exporter, "short", "truncated header"⟩])
  | delivered {run : ParseRun} {header : Header} {flows options : List Rec}
    (isParse : run = (decoder.receive datagram.data).parse datagram.data (exporterKey datagram.exporter)
      (num datagram.data 0 2))
    (known : num datagram.data 0 2 ∈ supportedVersions) :
    Exit decoder datagram
      ((decoder.parsed run).deliver (exporterKey datagram.exporter) (num datagram.data 0 2) header flows options)
      (decoder.templatesRaised run ++
        (decoder.gapsRaised (observation (exporterKey datagram.exporter) (num datagram.data 0 2) header flows.length
            options.length) ++
          decoder.changesRaised ⟨exporterKey datagram.exporter, header.domain⟩ options))

theorem decode_exit (decoder : Decoder) (datagram : Datagram) :
    Exit decoder datagram (decoder.decodeDatagram datagram) (decoder.raised datagram) := by
  obtain ⟨data, exporter⟩ := datagram
  simp only [decodeDatagram, decode, raised]
  split
  · exact .short ‹_›
  · split
    · exact .unsupported ‹_›
    · rename_i known
      obtain ⟨stats, calls, reads, _, read⟩ := parse_spec (decoder.receive data) data (exporterKey exporter)
      change Exit _ _ ((decoder.receive data).afterParse (exporterKey exporter) (num data 0 2)
        ((decoder.receive data).parse data (exporterKey exporter) (num data 0 2))) _
      rw [read]
      generalize readDatagram data (exporterKey exporter) (decoder.receive data).templates = meaning at read
      obtain ⟨⟨header, flows, options⟩, store⟩ := meaning
      cases header with
      | none => exact .headerless read.symm
      | some header => exact .delivered read.symm (not_not.mp known)

/-! ## Every exit keeps the books -/

section Kinds

variable (decoder : Decoder)

theorem templatesRaised_kinds (run : ParseRun) :
    (decoder.templatesRaised run).filter Event.isDecodeError = [] ∧
      (decoder.templatesRaised run).filter Event.isTemplateLearned = decoder.templatesRaised run := by
  simp [templatesRaised, List.filter_map, Function.comp_def, Event.isDecodeError, Event.isTemplateLearned]

theorem gapsRaised_kinds (obs : Observation) :
    (decoder.gapsRaised obs).filter Event.isDecodeError = [] ∧
      (decoder.gapsRaised obs).filter Event.isTemplateLearned = [] := by
  rw [gapsRaised]
  split <;> simp [List.filter_map, Function.comp_def, Event.isDecodeError, Event.isTemplateLearned]

theorem changesRaised_kinds (key : SamplingKey) (opts : List Rec) :
    (decoder.changesRaised key opts).filter Event.isDecodeError = [] ∧
      (decoder.changesRaised key opts).filter Event.isTemplateLearned = [] := by
  rw [changesRaised]
  split <;> simp [List.filter_map, Function.comp_def, Event.isDecodeError, Event.isTemplateLearned]

end Kinds

/-- A failure counts once: as malformed, unless it was counted already. -/
theorem books_of_failure {decoder failing : Decoder} {datagram : Datagram} {events : List Event}
    (exporter : Exporter) (reason detail : String) (counted : Bool)
    (outcomes : failing.stats.ledger.outcomes =
      { (decoder.receive datagram.data).stats.ledger.outcomes with
        unsupportedVersion := decoder.stats.unsupportedVersion + counted.toNat })
    (errors : (events.filter Event.isDecodeError).length = 1)
    (templatesNew : failing.stats.templatesNew =
      decoder.stats.templatesNew + (events.filter Event.isTemplateLearned).length)
    (learned : failing.templates.learned =
      decoder.templates.learned + (events.filter Event.isTemplateLearned).length) :
    Books decoder datagram none events (failing.fail exporter reason detail counted).2 := by
  have booked := fail_ledger failing exporter reason detail counted
  have store := fail_templates failing exporter reason detail counted
  generalize (failing.fail exporter reason detail counted).2 = after at booked store ⊢
  have malformed : failing.stats.malformed = decoder.stats.malformed := (congrArg Stats.malformed outcomes :)
  have failures : after.stats.failures = decoder.stats.failures + 1 := by
    have sum : after.stats.failures = failing.stats.malformed + (if counted = true then 0 else 1) +
        failing.stats.unsupportedVersion + failing.stats.parseErrors := (congrArg Stats.failures booked :)
    have unsupported : failing.stats.unsupportedVersion = decoder.stats.unsupportedVersion + counted.toNat :=
      (congrArg Stats.unsupportedVersion outcomes :)
    have parseErrors : failing.stats.parseErrors = decoder.stats.parseErrors :=
      (congrArg Stats.parseErrors outcomes :)
    have before : decoder.stats.failures =
        decoder.stats.malformed + decoder.stats.unsupportedVersion + decoder.stats.parseErrors := rfl
    rw [sum, malformed, unsupported, parseErrors, before]
    cases counted <;> simp <;> omega
  refine ⟨?_, ?_, ?_, failures, errors, ?_, ?_, ?_, ?_, ?_⟩
  · exact (congrArg Stats.packets booked).trans (congrArg Stats.packets outcomes :)
  · exact (congrArg Stats.bytesRx booked).trans (congrArg Stats.bytesRx outcomes :)
  · exact (congrArg Stats.messages booked).trans (congrArg Stats.messages outcomes :)
  · exact (congrArg Stats.flows booked).trans (congrArg Stats.flows outcomes :)
  · exact (congrArg Stats.optionRecords booked).trans (congrArg Stats.optionRecords outcomes :)
  · exact (congrArg Stats.missedExports booked).trans (congrArg Stats.missedExports outcomes :)
  · exact (congrArg Stats.templatesNew booked).trans templatesNew
  · exact (congrArg TemplateStore.learned store).trans learned

section Parsing

variable {maxPending : Nat} {decoder : Decoder} (queues : decoder.templates.Queues maxPending) (data : Bytes)
  (exporter : Exporter)

include queues

theorem parse_replays :
    ((decoder.receive data).parse data exporter (num data 0 2)).Replays decoder.templates
      (decoder.receive data).stats data := by
  rw [parse]
  split
  · exact runV5_replays data exporter _ _
  · exact runV9OrIpfix_replays queues data exporter _

/-- A parse adds nothing to the outcomes, and counts the templates it raises events for. -/
theorem parsed_books {run : ParseRun} (isParse : run = (decoder.receive data).parse data exporter (num data 0 2)) :
    (decoder.parsed run).stats.ledger.outcomes = (decoder.receive data).stats.ledger.outcomes ∧
      (decoder.parsed run).stats.templatesNew =
        decoder.stats.templatesNew + (decoder.templatesRaised run).length ∧
      (decoder.parsed run).templates.learned =
        decoder.templates.learned + (decoder.templatesRaised run).length := by
  obtain ⟨replayed, outcomes, counted, _⟩ := parse_replays queues data exporter
  rw [← isParse] at replayed outcomes counted
  have ledger := drainTemplates_ledger { decoder with templates := run.store, stats := run.stats }
  have store : (decoder.parsed run).templates = run.store.takeEvents.2 :=
    congrArg Core.templates (decoder.parsed_core run)
  rw [templatesRaised, List.length_map]
  refine ⟨?_, (congrArg Stats.templatesNew ledger).trans counted, ?_⟩
  · exact (congrArg Stats.outcomes ledger).trans (congrArg Stats.ledger outcomes)
  · rw [store]
    have learned := (TemplateStore.logs_run queues (run.calls.map StoreCall.op)).2
    rw [← replayed] at learned
    exact learned

end Parsing

/-- A delivery counts a message of its version, and what the message carries. -/
theorem books_of_delivery {maxPending : Nat} {decoder : Decoder} (queues : decoder.templates.Queues maxPending)
    {datagram : Datagram} {run : ParseRun} {header : Header} {flows options : List Rec} {result : Option Message}
    (isParse : run = (decoder.receive datagram.data).parse datagram.data (exporterKey datagram.exporter)
      (num datagram.data 0 2))
    (answer : ((decoder.parsed run).deliver (exporterKey datagram.exporter) (num datagram.data 0 2) header flows
      options).1 = .ok result) (obs : Observation) (key : SamplingKey) :
    Books decoder datagram result
      (decoder.templatesRaised run ++ (decoder.gapsRaised obs ++ decoder.changesRaised key options))
      ((decoder.parsed run).deliver (exporterKey datagram.exporter) (num datagram.data 0 2) header flows options).2 := by
  obtain ⟨outcomes, templatesNew, learned⟩ := parsed_books queues datagram.data (exporterKey datagram.exporter) isParse
  obtain ⟨rate, rfl⟩ := deliver_message _ _ _ _ _ _ answer
  have booked := deliver_ledger (decoder.parsed run) (exporterKey datagram.exporter) (num datagram.data 0 2) header
    flows options
  generalize ((decoder.parsed run).core.observe (observation (exporterKey datagram.exporter) (num datagram.data 0 2)
    header flows.length options.length)).1 = gap at booked ⊢
  have store := deliver_templates (decoder.parsed run) (exporterKey datagram.exporter) (num datagram.data 0 2) header
    flows options
  generalize ((decoder.parsed run).deliver (exporterKey datagram.exporter) (num datagram.data 0 2) header flows
    options).2 = after at booked store ⊢
  obtain ⟨v5, v9, v10, one, same⟩ := countMessage_frame (num datagram.data 0 2) flows.length options.length
    (decoder.parsed run).stats.ledger
  rw [same] at booked
  have parsedMessages : (decoder.parsed run).stats.ledger.messages = decoder.stats.messages :=
    (congrArg Stats.messages outcomes :)
  have events : ((decoder.templatesRaised run ++ (decoder.gapsRaised obs ++ decoder.changesRaised key options)).filter
      Event.isTemplateLearned) = decoder.templatesRaised run := by
    simp [templatesRaised_kinds, gapsRaised_kinds, changesRaised_kinds]
  refine ⟨?_, ?_, ?_, ?_, ?_, ?_, ?_, ?_, ?_, ?_⟩
  · exact (congrArg Stats.packets booked).trans (congrArg Stats.packets outcomes :)
  · exact (congrArg Stats.bytesRx booked).trans (congrArg Stats.bytesRx outcomes :)
  · have messages : after.stats.messages = v5 + v9 + v10 := (congrArg Stats.messages booked :)
    rw [messages, one, parsedMessages]
    rfl
  · exact (congrArg Stats.failures booked).trans (congrArg Stats.failures outcomes :)
  · simp [templatesRaised_kinds, gapsRaised_kinds, changesRaised_kinds]
  · exact (congrArg Stats.flows booked).trans
      (congrArg (fun stats => stats.flows + flows.length) outcomes :)
  · exact (congrArg Stats.optionRecords booked).trans
      (congrArg (fun stats => stats.optionRecords + options.length) outcomes :)
  · exact (congrArg Stats.missedExports booked).trans
      (congrArg (fun stats => stats.missedExports + gap) outcomes :)
  · rw [events]
    exact (congrArg Stats.templatesNew booked).trans templatesNew
  · rw [events, store, learned]

/-- A call that returns keeps the books, and leaves a store that is fit for the next. -/
theorem decode_books {maxPending : Nat} {decoder : Decoder} (queues : decoder.templates.Queues maxPending)
    {datagram : Datagram} {result : Option Message}
    (answer : (decoder.decodeDatagram datagram).1 = .ok result) :
    Books decoder datagram result (decoder.raised datagram) (decoder.decodeDatagram datagram).2 := by
  have left := decode_exit decoder datagram
  generalize decoder.decodeDatagram datagram = outcome at answer left ⊢
  generalize decoder.raised datagram = events at left ⊢
  cases left with
  | short few =>
    cases answer
    exact books_of_failure _ _ _ false rfl rfl rfl rfl
  | unsupported unknown =>
    cases answer
    exact books_of_failure _ _ _ true rfl rfl rfl rfl
  | headerless isParse =>
    cases answer
    obtain ⟨outcomes, templatesNew, learned⟩ :=
      parsed_books queues datagram.data (exporterKey datagram.exporter) isParse
    have kinds := templatesRaised_kinds decoder
    refine books_of_failure _ _ _ false outcomes ?_ ?_ ?_
    · rw [List.filter_append, (kinds _).1]
      rfl
    · rw [List.filter_append, (kinds _).2, templatesNew]
      simp [Event.isTemplateLearned]
    · rw [List.filter_append, (kinds _).2, learned]
      simp [Event.isTemplateLearned]
  | delivered isParse known => exact books_of_delivery queues isParse answer _ _

theorem decode_queues {maxPending : Nat} {decoder : Decoder} (queues : decoder.templates.Queues maxPending)
    (datagram : Datagram) : (decoder.decodeDatagram datagram).2.templates.Queues maxPending := by
  have parsedQueues : ∀ run, run = (decoder.receive datagram.data).parse datagram.data (exporterKey datagram.exporter)
      (num datagram.data 0 2) → (decoder.parsed run).templates.Queues maxPending := by
    intro run isParse
    have store : (decoder.parsed run).templates = run.store.takeEvents.2 :=
      congrArg Core.templates (decoder.parsed_core run)
    rw [store, isParse, (parse_replays queues datagram.data (exporterKey datagram.exporter)).replayed]
    exact (TemplateStore.perform_logs (TemplateStore.logs_run queues _).1 .takeEvents).queues
  have left := decode_exit decoder datagram
  generalize decoder.decodeDatagram datagram = outcome at left ⊢
  generalize decoder.raised datagram = events at left
  cases left with
  | short few =>
    rw [fail_templates]
    exact queues
  | unsupported unknown =>
    rw [fail_templates]
    exact queues
  | headerless isParse =>
    rw [fail_templates]
    exact parsedQueues _ isParse
  | delivered isParse known =>
    rw [deliver_templates]
    exact parsedQueues _ isParse

/-! ## The counters of a run -/

/-- The message a call returned, if it returned one. -/
def message? : Except Stop (Option Message) → Option Message
  | .ok message => message
  | .error _ => none

/-- The call returned `none`. -/
def nothing : Except Stop (Option Message) → Bool
  | .ok none => true
  | .ok (some _) | .error _ => false

/-- The counters against what came in, what was returned and what was raised. -/
structure AddsUp (run : List Datagram) (results : List (Except Stop (Option Message))) (events : List Event)
    (decoder : Decoder) : Prop where
  packets : decoder.stats.packets = decoder.stats.messages + decoder.stats.failures
  nothing : (results.filter nothing).length = decoder.stats.failures
  errors : (events.filter Event.isDecodeError).length = decoder.stats.failures
  bytesRx : decoder.stats.bytesRx = (run.map fun datagram => datagram.data.length).sum
  flows : decoder.stats.flows = ((results.filterMap message?).map fun message => message.flows.length).sum
  optionRecords : decoder.stats.optionRecords =
    ((results.filterMap message?).map fun message => message.options.length).sum
  missedExports : decoder.stats.missedExports = ((results.filterMap message?).map Message.gap).sum
  templatesNew : decoder.stats.templatesNew = (events.filter Event.isTemplateLearned).length
  learned : decoder.templates.learned = (events.filter Event.isTemplateLearned).length

theorem addsUp_snoc {run : List Datagram} {results : List (Except Stop (Option Message))} {events more : List Event}
    {before after : Decoder} {datagram : Datagram} {result : Option Message} (addsUp : AddsUp run results events before)
    (books : Books before datagram result more after) :
    AddsUp (run ++ [datagram]) (results ++ [.ok result]) (events ++ more) after := by
  have one : result.isSome.toNat + result.isNone.toNat = 1 := by cases result <;> rfl
  have totals : ∀ count : Message → Nat,
      (((results ++ [Except.ok result]).filterMap message?).map count).sum =
        ((results.filterMap message?).map count).sum + result.elim 0 count := by
    intro count
    rw [List.filterMap_append, List.map_append, List.sum_append]
    cases result <;> rfl
  have nothings : ((results ++ [Except.ok result]).filter Decoder.nothing).length =
      (results.filter Decoder.nothing).length + result.isNone.toNat := by
    rw [List.filter_append, List.length_append]
    cases result <;> rfl
  refine ⟨?_, ?_, ?_, ?_, ?_, ?_, ?_, ?_, ?_⟩
  · have packets := addsUp.packets
    rw [books.packets, books.messages, books.failures]
    omega
  · rw [nothings, addsUp.nothing, books.failures]
  · rw [List.filter_append, List.length_append, addsUp.errors, books.errors, books.failures]
  · rw [books.bytesRx, addsUp.bytesRx]
    simp
  · rw [totals, ← addsUp.flows, books.flows]
  · rw [totals, ← addsUp.optionRecords, books.optionRecords]
  · rw [totals, ← addsUp.missedExports, books.missedExports]
  · rw [List.filter_append, List.length_append, ← addsUp.templatesNew, books.templatesNew]
  · rw [List.filter_append, List.length_append, ← addsUp.learned, books.learned]

theorem addsUp_run (trackSequence trackSampling : Bool) (run : List Datagram)
    (returned : ∀ result ∈ (new trackSequence trackSampling).results run, ∃ message, result = .ok message) :
    AddsUp run ((new trackSequence trackSampling).results run)
        (collect decodeDatagram raised (new trackSequence trackSampling) run)
        ((new trackSequence trackSampling).decodeAll run) ∧
      ((new trackSequence trackSampling).decodeAll run).templates.Queues maxPendingTemplates := by
  unfold results decodeAll at *
  induction run using List.reverseRecOn with
  | nil =>
    have fresh : TemplateStore.Queues maxPendingTemplates (TemplateStore.new maxTemplates maxPendingTemplates) :=
      ⟨by decide, by decide, rfl, Nat.zero_le _⟩
    exact ⟨⟨rfl, rfl, rfl, rfl, rfl, rfl, rfl, rfl, rfl⟩, fresh⟩
  | append_singleton run datagram inductionHypothesis =>
    rw [outputs_snoc] at returned
    rw [outputs_snoc, stateAfter_snoc, collect_snoc]
    obtain ⟨addsUp, queues⟩ := inductionHypothesis fun result member => returned result (List.mem_append_left _ member)
    obtain ⟨result, answer⟩ := returned _ (List.mem_append_right _ (List.mem_singleton_self _))
    rw [answer]
    exact ⟨addsUp_snoc addsUp (decode_books queues answer), decode_queues queues datagram⟩

end Decoder

/-- The counters of a decoder add up after every run of calls that returned. -/
theorem counters_add_up (trackSequence trackSampling : Bool) (run : List Decoder.Datagram)
    (returned : ∀ result ∈ (Decoder.new trackSequence trackSampling).results run, ∃ message, result = .ok message) :
    let start := Decoder.new trackSequence trackSampling
    let results := start.results run
    let messages := results.filterMap Decoder.message?
    let events := collect Decoder.decodeDatagram Decoder.raised start run
    let decoder := start.decodeAll run
    let stats := decoder.stats
    stats.packets = stats.v5Msgs + stats.v9Msgs + stats.v10Msgs + stats.malformed + stats.unsupportedVersion +
        stats.parseErrors ∧
      (results.filter Decoder.nothing).length = stats.malformed + stats.unsupportedVersion + stats.parseErrors ∧
      (results.filter Decoder.nothing).length = (events.filter Event.isDecodeError).length ∧
      stats.bytesRx = (run.map fun datagram => datagram.data.length).sum ∧
      stats.flows = (messages.map fun message => message.flows.length).sum ∧
      stats.optionRecords = (messages.map fun message => message.options.length).sum ∧
      stats.missedExports = (messages.map Message.gap).sum ∧
      stats.templatesNew = decoder.templates.learned ∧
      stats.templatesNew = (events.filter Event.isTemplateLearned).length := by
  intro start results messages events decoder stats
  have addsUp : Decoder.AddsUp run results events decoder :=
    (Decoder.addsUp_run trackSequence trackSampling run returned).1
  have packets : stats.packets = stats.v5Msgs + stats.v9Msgs + stats.v10Msgs +
    (stats.malformed + stats.unsupportedVersion + stats.parseErrors) := addsUp.packets
  refine ⟨by omega, addsUp.nothing, addsUp.nothing.trans addsUp.errors.symm, addsUp.bytesRx, addsUp.flows,
    addsUp.optionRecords, addsUp.missedExports, ?_, addsUp.templatesNew⟩
  exact addsUp.templatesNew.trans addsUp.learned.symm

/-- A datagram too short, one of an unknown version, one cut in its header, and messages with two templates, flows
and an option record, and a gap before the last. -/
theorem counters_add_up_over_failures :
    let message (sequence : UInt8) (sets : Bytes) : Decoder.Datagram :=
      ⟨[0, 9, 0, 1] ++ List.replicate 11 0 ++ [sequence, 0, 0, 0, 0] ++ sets, .obj 1⟩
    let templates : Bytes := [0, 0, 0, 12, 1, 7, 0, 1, 0, 8, 0, 4]
    let optionsTemplates : Bytes := [0, 1, 0, 18, 1, 8, 0, 4, 0, 4, 0, 1, 0, 4, 0, 34, 0, 4]
    let flows : Bytes := [1, 7, 0, 12, 192, 0, 2, 1, 192, 0, 2, 2]
    let options : Bytes := [1, 8, 0, 12, 0, 0, 0, 7, 0, 0, 0, 100]
    let run : List Decoder.Datagram := [⟨[0], .obj 1⟩, ⟨[0, 7], .obj 1⟩, ⟨[0, 9, 0, 0], .obj 1⟩,
      message 1 (templates ++ optionsTemplates ++ flows ++ options), message 2 flows, message 9 flows]
    let start := Decoder.new true true
    let results := start.results run
    let messages := results.filterMap Decoder.message?
    let events := collect Decoder.decodeDatagram Decoder.raised start run
    let decoder := start.decodeAll run
    let stats := decoder.stats
    (stats.v9Msgs = 3 ∧ stats.flows = 6 ∧ stats.optionRecords = 1 ∧ stats.missedExports = 6 ∧ stats.templatesNew = 2) ∧
      stats.packets = stats.v5Msgs + stats.v9Msgs + stats.v10Msgs + stats.malformed + stats.unsupportedVersion +
        stats.parseErrors ∧
      (results.filter Decoder.nothing).length = stats.malformed + stats.unsupportedVersion + stats.parseErrors ∧
      (results.filter Decoder.nothing).length = (events.filter Event.isDecodeError).length ∧
      stats.bytesRx = (run.map fun datagram => datagram.data.length).sum ∧
      stats.flows = (messages.map fun message => message.flows.length).sum ∧
      stats.optionRecords = (messages.map fun message => message.options.length).sum ∧
      stats.missedExports = (messages.map Message.gap).sum ∧
      stats.templatesNew = decoder.templates.learned ∧
      stats.templatesNew = (events.filter Event.isTemplateLearned).length := by
  intro message templates optionsTemplates flows options run
  have returned : ∀ result ∈ (Decoder.new true true).results run, result.isOk = true := by decide +kernel
  refine ⟨by decide +kernel, ?_⟩
  apply counters_add_up
  intro result member
  cases result with
  | error stop => cases returned _ member
  | ok message => exact ⟨message, rfl⟩

end Netflume
