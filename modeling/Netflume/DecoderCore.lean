import Netflume.Decoder
import Netflume.ParseInvariant

/-! # The core of the decoder

Counters and queued events never come back into decoding.  What `decode` returns
is decided by the template store and the two watches, and the core steps through
them by the meaning of the datagram. -/

namespace Netflume

open Library

theorem applyV5_parsed (data : Bytes) (exporter : Exporter) (stats : Stats) :
    (applyV5 data exporter stats).1 = (applyV5 data exporter {}).1 := by
  unfold applyV5
  split <;> rfl

theorem applyV5_missed (data : Bytes) (exporter : Exporter) (stats : Stats) :
    (applyV5 data exporter stats).2.missedExports = stats.missedExports := by
  rw [applyV5]
  split
  · rfl
  · simp only
    split <;> rfl

/-! ## The core -/

structure Core where
  templates : TemplateStore
  sequence : Option SequenceWatch
  sampling : Option SamplingWatch

def Decoder.core (decoder : Decoder) : Core := ⟨decoder.templates, decoder.sequence, decoder.sampling⟩

/-- What a datagram of a supported version means to a store. -/
def readDatagram (data : Bytes) (exporter : Exporter) (store : TemplateStore) : Parsed × TemplateStore :=
  if num data 0 2 = 5 then ((applyV5 data exporter {}).1, store)
  else
    let applied := applyMessage data exporter { store, stats := {} }
    (applied.1, applied.2.store)

/-- The header of a datagram of a supported version that is long enough to have one. -/
def datagramHeader (data : Bytes) (exporter : Exporter) : Option Header :=
  if num data 0 2 = 5 then if data.length < v5HeaderSize then none else some (v5Header data exporter)
  else messageHeader data exporter

theorem readDatagram_header (data : Bytes) (exporter : Exporter) (store : TemplateStore) :
    (readDatagram data exporter store).1.header = datagramHeader data exporter := by
  rw [readDatagram, datagramHeader]
  split
  · rw [applyV5]
    split <;> rfl
  · cases read : messageHeader data exporter with
    | none => simp only [applyMessage_headerless read]
    | some header => simp only [applyMessage_parsed read]

/-- A datagram with no header says nothing and does nothing. -/
theorem readDatagram_headerless {data : Bytes} {exporter : Exporter} (headerless : datagramHeader data exporter = none)
    (store : TemplateStore) : readDatagram data exporter store = (⟨none, [], []⟩, store) := by
  rw [datagramHeader] at headerless
  rw [readDatagram]
  split
  · rename_i isV5
    rw [if_pos isV5] at headerless
    rw [applyV5]
    split
    · rfl
    · rename_i long
      rw [if_neg long] at headerless
      cases headerless
  · rename_i notV5
    rw [if_neg notV5] at headerless
    simp only [applyMessage_headerless headerless]

namespace Core

/-- The gap before a message, and the watch after it. -/
def observe (core : Core) (obs : Observation) : Nat × Core :=
  match core.sequence with
  | none => (0, core)
  | some watch => ((watch.observe obs).1, { core with sequence := some (watch.observe obs).2.takeEvents.2 })

/-- The rate in force after the option records of a message. -/
def note (core : Core) (key : SamplingKey) (opts : List Rec) : Except PyError Nat × Core :=
  match core.sampling with
  | none => (.ok 1, core)
  | some watch =>
    match Decoder.noteAll key watch opts with
    | (.error error, watch) => (.error error, { core with sampling := some watch })
    | (.ok (), watch) =>
      (.ok (watch.rateFor key.exporter (some key.domain)), { core with sampling := some watch.takeEvents.2 })

@[simp] theorem observe_templates (core : Core) (obs : Observation) :
    (core.observe obs).2.templates = core.templates := by
  rw [observe]
  split <;> rfl

@[simp] theorem observe_sampling (core : Core) (obs : Observation) :
    (core.observe obs).2.sampling = core.sampling := by
  rw [observe]
  split <;> rfl

/-- The sampling watch's turn leaves the store and the sequence watch alone, and the watch in place. -/
theorem note_frame (core : Core) (key : SamplingKey) (opts : List Rec) :
    (core.note key opts).2.templates = core.templates ∧ (core.note key opts).2.sequence = core.sequence ∧
      (core.sampling ≠ none → (core.note key opts).2.sampling ≠ none) := by
  rw [note]
  cases core.sampling with
  | none => exact ⟨rfl, rfl, fun tracked => absurd rfl tracked⟩
  | some watch =>
    simp only
    generalize Decoder.noteAll key watch opts = noted
    obtain ⟨outcome, after⟩ := noted
    cases outcome <;> exact ⟨rfl, rfl, fun _ => by simp⟩

def deliver (core : Core) (exporter : Exporter) (version : Nat) (header : Header) (flows options : List Rec) :
    Except Stop (Option Message) × Core :=
  let (gap, core) := core.observe (Decoder.observation exporter version header flows.length options.length)
  match core.note ⟨exporter, header.domain⟩ options with
  | (.error error, core) => (.error (.raised error), core)
  | (.ok rate, core) => (.ok (some ⟨header, flows, options, gap, rate⟩), core)

/-- The core a delivery leaves: what both watches' turns leave, one after the other. -/
theorem deliver_after (core : Core) (exporter : Exporter) (version : Nat) (header : Header) (flows options : List Rec) :
    (core.deliver exporter version header flows options).2 =
      ((core.observe (Decoder.observation exporter version header flows.length options.length)).2.note
        ⟨exporter, header.domain⟩ options).2 := by
  simp only [deliver]
  generalize (core.observe (Decoder.observation exporter version header flows.length options.length)).2.note
    ⟨exporter, header.domain⟩ options = noting
  obtain ⟨outcome, after⟩ := noting
  cases outcome <;> rfl

@[simp] theorem deliver_templates (core : Core) (exporter : Exporter) (version : Nat) (header : Header)
    (flows options : List Rec) : (core.deliver exporter version header flows options).2.templates = core.templates := by
  rw [deliver_after, (note_frame _ _ _).1, observe_templates]

/-- A delivery returns a message as soon as the sampling watch's turn gives a rate. -/
theorem deliver_of_note {core after : Core} {exporter : Exporter} {version rate : Nat} {header : Header}
    {flows options : List Rec}
    (noted : (core.observe (Decoder.observation exporter version header flows.length options.length)).2.note
      ⟨exporter, header.domain⟩ options = (.ok rate, after)) :
    core.deliver exporter version header flows options =
      (.ok (some ⟨header, flows, options,
        (core.observe (Decoder.observation exporter version header flows.length options.length)).1, rate⟩), after) := by
  simp only [deliver, noted]

/-- The message a delivery returns, but for the rate. -/
theorem deliver_message {core : Core} {exporter : Exporter} {version : Nat} {header : Header} {flows options : List Rec}
    {message : Message} (answer : (core.deliver exporter version header flows options).1 = .ok (some message)) :
    ∃ rate, message = ⟨header, flows, options,
      (core.observe (Decoder.observation exporter version header flows.length options.length)).1, rate⟩ := by
  simp only [deliver] at answer
  generalize (core.observe (Decoder.observation exporter version header flows.length options.length)).2.note
    ⟨exporter, header.domain⟩ options = noting at answer
  obtain ⟨outcome, after⟩ := noting
  cases outcome with
  | error error => cases answer
  | ok rate =>
    cases answer
    exact ⟨rate, rfl⟩

/-- A delivery that returns had a rate from the sampling watch. -/
theorem deliver_noted {core : Core} {exporter : Exporter} {version : Nat} {header : Header} {flows options : List Rec}
    {result : Option Message} (answer : (core.deliver exporter version header flows options).1 = .ok result) :
    ∃ rate, ((core.observe (Decoder.observation exporter version header flows.length options.length)).2.note
      ⟨exporter, header.domain⟩ options).1 = .ok rate := by
  simp only [deliver] at answer
  generalize (core.observe (Decoder.observation exporter version header flows.length options.length)).2.note
    ⟨exporter, header.domain⟩ options = noting at answer ⊢
  obtain ⟨outcome, after⟩ := noting
  cases outcome with
  | error error => cases answer
  | ok rate => exact ⟨rate, rfl⟩

theorem deliver_gap {core : Core} {exporter : Exporter} {version : Nat} {header : Header} {flows options : List Rec}
    {message : Message} (answer : (core.deliver exporter version header flows options).1 = .ok (some message)) :
    message.gap = (core.observe (Decoder.observation exporter version header flows.length options.length)).1 := by
  obtain ⟨rate, rfl⟩ := deliver_message answer
  rfl

def step (core : Core) (datagram : Decoder.Datagram) : Except Stop (Option Message) × Core :=
  let exporter := exporterKey datagram.exporter
  if datagram.data.length < 2 then (.ok none, core)
  else if num datagram.data 0 2 ∉ supportedVersions then (.ok none, core)
  else
    let (parsed, store) := readDatagram datagram.data exporter core.templates
    let core := { core with templates := store.takeEvents.2 }
    match parsed.header with
    | none => (.ok none, core)
    | some header => core.deliver exporter (num datagram.data 0 2) header parsed.records parsed.options

end Core

/-! ## A step, by the header of its datagram -/

/-- The header a datagram carries, if `decode` gets to one. -/
def Decoder.Datagram.header (datagram : Decoder.Datagram) : Option Header :=
  if datagram.data.length < 2 ∨ num datagram.data 0 2 ∉ supportedVersions then none
  else datagramHeader datagram.data (exporterKey datagram.exporter)

theorem datagramHeader_exporter {data : Bytes} {exporter : Exporter} {header : Header}
    (read : datagramHeader data exporter = some header) : header.exporter = exporter := by
  rw [datagramHeader, messageHeader] at read
  split at read
  · split at read
    · cases read
    · cases read
      rfl
  · split at read
    · cases read
    · split at read <;> split at read <;> cases read <;> rfl

theorem Decoder.Datagram.header_supported {datagram : Decoder.Datagram} {header : Header}
    (read : datagram.header = some header) :
    ¬ (datagram.data.length < 2 ∨ num datagram.data 0 2 ∉ supportedVersions) := by
  rw [Decoder.Datagram.header] at read
  split at read
  · cases read
  · assumption

theorem Decoder.Datagram.header_read {datagram : Decoder.Datagram} {header : Header}
    (read : datagram.header = some header) :
    datagramHeader datagram.data (exporterKey datagram.exporter) = some header := by
  rw [Decoder.Datagram.header] at read
  split at read
  · cases read
  · exact read

theorem Decoder.Datagram.header_exporter {datagram : Decoder.Datagram} {header : Header}
    (read : datagram.header = some header) : header.exporter = exporterKey datagram.exporter :=
  datagramHeader_exporter (header_read read)

namespace Core

/-- A datagram with no header is answered with `none`, and only the queued events are gone. -/
theorem step_headerless {datagram : Decoder.Datagram} (headerless : datagram.header = none) (core : Core) :
    (core.step datagram).1 = .ok none ∧ ((core.step datagram).2 = core ∨
      (core.step datagram).2 = { core with templates := core.templates.takeEvents.2 }) := by
  rw [Decoder.Datagram.header] at headerless
  rw [step]
  by_cases short : datagram.data.length < 2
  · simp only [if_pos short]
    exact ⟨trivial, .inl trivial⟩
  · by_cases unsupported : num datagram.data 0 2 ∉ supportedVersions
    · simp only [if_neg short, if_pos unsupported]
      exact ⟨trivial, .inl trivial⟩
    · rw [if_neg (by simp [short, not_not.mp unsupported])] at headerless
      simp only [if_neg short, if_neg unsupported, readDatagram_headerless headerless]
      exact ⟨trivial, .inr trivial⟩

/-- The core after the parse of a datagram. -/
def afterRead (core : Core) (datagram : Decoder.Datagram) : Core :=
  { core with
    templates := (readDatagram datagram.data (exporterKey datagram.exporter) core.templates).2.takeEvents.2 }

/-- The gap the sequence watch finds before a datagram of this header. -/
def gapBefore (core : Core) (datagram : Decoder.Datagram) (header : Header) : Nat :=
  let parsed := (readDatagram datagram.data (exporterKey datagram.exporter) core.templates).1
  ((core.afterRead datagram).observe (Decoder.observation (exporterKey datagram.exporter) (num datagram.data 0 2) header
    parsed.records.length parsed.options.length)).1

theorem step_headed {datagram : Decoder.Datagram} {header : Header} (read : datagram.header = some header)
    (core : Core) :
    core.step datagram =
      (core.afterRead datagram).deliver (exporterKey datagram.exporter) (num datagram.data 0 2) header
        (readDatagram datagram.data (exporterKey datagram.exporter) core.templates).1.records
        (readDatagram datagram.data (exporterKey datagram.exporter) core.templates).1.options := by
  rw [Decoder.Datagram.header] at read
  split at read
  · cases read
  · rename_i supported
    obtain ⟨long, known⟩ := not_or.mp supported
    have headed := readDatagram_header datagram.data (exporterKey datagram.exporter) core.templates
    rw [read] at headed
    simp only [step, if_neg long, if_neg known, headed, afterRead]

end Core

/-! ## The decoder steps as its core -/

namespace Decoder

/-- Queueing events changes the queue and the count of those dropped from it. -/
theorem queue_frame (decoder : Decoder) (events : List Event) :
    ∃ pending dropped, decoder.queue events =
      { decoder with events := pending, stats := { decoder.stats with eventsDropped := dropped } } := by
  induction events generalizing decoder with
  | nil => exact ⟨decoder.events, decoder.stats.eventsDropped, rfl⟩
  | cons event events inductionHypothesis =>
    obtain ⟨pending, dropped, rest⟩ := inductionHypothesis (decoder.queueOne event)
    refine ⟨pending, dropped, rest.trans ?_⟩
    rw [queueOne]
    split <;> rfl

theorem queue_core (decoder : Decoder) (events : List Event) : (decoder.queue events).core = decoder.core := by
  obtain ⟨pending, dropped, same⟩ := queue_frame decoder events
  rw [same]
  rfl

theorem fail_core (decoder : Decoder) (exporter : Exporter) (reason detail : String) (counted : Bool) :
    (decoder.fail exporter reason detail counted).1 = .ok none ∧
      (decoder.fail exporter reason detail counted).2.core = decoder.core := by
  refine ⟨rfl, (queue_core _ _).trans ?_⟩
  split <;> rfl

theorem drainTemplates_core (decoder : Decoder) :
    decoder.drainTemplates.core = { decoder.core with templates := decoder.templates.takeEvents.2 } :=
  queue_core _ _

theorem watchSequence_core (decoder : Decoder) (obs : Observation) :
    (decoder.watchSequence obs).1 = (decoder.core.observe obs).1 ∧
      (decoder.watchSequence obs).2.core = (decoder.core.observe obs).2 := by
  obtain ⟨templates, stats, sequence, sampling, events⟩ := decoder
  cases sequence with
  | none => exact ⟨rfl, rfl⟩
  | some watch =>
    simp only [watchSequence, core, Core.observe]
    generalize watch.observe obs = observed
    refine ⟨trivial, (queue_core _ _).trans ?_⟩
    split <;> rfl

theorem watchSampling_core (decoder : Decoder) (key : SamplingKey) (opts : List Rec) :
    (decoder.watchSampling key opts).1 = (decoder.core.note key opts).1 ∧
      (decoder.watchSampling key opts).2.core = (decoder.core.note key opts).2 := by
  obtain ⟨templates, stats, sequence, sampling, events⟩ := decoder
  cases sampling with
  | none => exact ⟨rfl, rfl⟩
  | some watch =>
    simp only [watchSampling, Core.note, core]
    generalize noteAll key watch opts = noted
    obtain ⟨outcome, after⟩ := noted
    cases outcome with
    | error error => exact ⟨rfl, rfl⟩
    | ok done => exact ⟨rfl, queue_core _ _⟩

theorem deliver_core (decoder : Decoder) (exporter : Exporter) (version : Nat) (header : Header)
    (flows options : List Rec) :
    (decoder.deliver exporter version header flows options).1 =
        (decoder.core.deliver exporter version header flows options).1 ∧
      (decoder.deliver exporter version header flows options).2.core =
        (decoder.core.deliver exporter version header flows options).2 := by
  have tallied := watchSequence_core (decoder.tally (countMessage version flows.length options.length))
    (observation exporter version header flows.length options.length)
  simp only [deliver, Core.deliver]
  generalize (decoder.tally (countMessage version flows.length options.length)).watchSequence
    (observation exporter version header flows.length options.length) = watched at tallied ⊢
  obtain ⟨gap, watching⟩ := watched
  obtain ⟨sameGap, sameCore⟩ := tallied
  have noted := watchSampling_core watching ⟨exporter, header.domain⟩ options
  simp only at sameGap sameCore
  change gap = (decoder.core.observe _).1 at sameGap
  change watching.core = (decoder.core.observe _).2 at sameCore
  rw [sameCore] at noted
  simp only [← sameGap]
  generalize watching.watchSampling ⟨exporter, header.domain⟩ options = noting at noted ⊢
  generalize ((decoder.core.observe (observation exporter version header flows.length options.length)).2.note
    ⟨exporter, header.domain⟩ options) = coreNoting at noted ⊢
  obtain ⟨outcome, after⟩ := noting
  obtain ⟨coreOutcome, coreAfter⟩ := coreNoting
  obtain ⟨rfl, rfl⟩ := noted
  cases outcome with
  | error error => exact ⟨rfl, rfl⟩
  | ok rate => exact ⟨rfl, rfl⟩

/-- What the parse inside `decode` returns and does to the store. -/
theorem parse_spec (decoder : Decoder) (data : Bytes) (exporter : Exporter) :
    ∃ stats calls reads, stats.missedExports = decoder.stats.missedExports ∧
      decoder.parse data exporter (num data 0 2) =
        ⟨.ok (readDatagram data exporter decoder.templates).1, (readDatagram data exporter decoder.templates).2,
          stats, calls, reads⟩ := by
  rw [parse, readDatagram]
  split
  · obtain ⟨reads, _, run⟩ := runV5_spec data exporter decoder.templates decoder.stats
    refine ⟨(applyV5 data exporter decoder.stats).2, [], reads, applyV5_missed data exporter decoder.stats, ?_⟩
    simp only [run, applyV5_parsed data exporter decoder.stats]
  · obtain ⟨reads, _, run⟩ := runV9OrIpfix_spec data exporter decoder.templates decoder.stats
    have start : Sink.Agrees { store := decoder.templates, stats := decoder.stats }
      { store := decoder.templates, stats := {} } := ⟨rfl, rfl, rfl⟩
    obtain ⟨parsed, after⟩ := applyMessage_agrees data exporter start
    refine ⟨(applyMessage data exporter { store := decoder.templates, stats := decoder.stats }).2.stats,
      (applyMessage data exporter { store := decoder.templates, stats := decoder.stats }).2.calls, reads,
      applyMessage_missed data exporter _, ?_⟩
    simp only [run, parsed, after.store]

/-- The decoder decodes as its core does. -/
theorem decode_core (decoder : Decoder) (datagram : Datagram) :
    (decoder.decodeDatagram datagram).1 = (decoder.core.step datagram).1 ∧
      (decoder.decodeDatagram datagram).2.core = (decoder.core.step datagram).2 := by
  obtain ⟨data, exporter⟩ := datagram
  simp only [decodeDatagram, decode, Core.step]
  split
  · exact fail_core _ _ _ _ _
  · split
    · exact fail_core _ _ _ _ _
    · generalize counted : decoder.tally (fun stats =>
        { stats with packets := stats.packets + 1, bytesRx := stats.bytesRx + data.length }) = receiving
      have sameCore : receiving.core = decoder.core := by
        rw [← counted]
        rfl
      obtain ⟨stats, calls, reads, _, parsed⟩ := parse_spec receiving data (exporterKey exporter)
      have sameStore : receiving.templates = decoder.core.templates := by
        rw [← sameCore]
        rfl
      rw [parsed, sameStore]
      generalize readDatagram data (exporterKey exporter) decoder.core.templates = read
      obtain ⟨⟨header, records, options⟩, store⟩ := read
      have drained : ({ receiving with templates := store, stats := stats } : Decoder).drainTemplates.core =
          { decoder.core with templates := store.takeEvents.2 } := by
        rw [drainTemplates_core, ← sameCore]
        rfl
      cases header with
      | none =>
        obtain ⟨result, after⟩ :=
          fail_core ({ receiving with templates := store, stats := stats } : Decoder).drainTemplates
            (exporterKey exporter) "short" "truncated header" false
        rw [drained] at after
        exact ⟨result, after⟩
      | some header =>
        have delivered := deliver_core ({ receiving with templates := store, stats := stats } : Decoder).drainTemplates
          (exporterKey exporter) (num data 0 2) header records options
        rw [drained] at delivered
        exact delivered

/-- A run of the decoder answers as the same run of its core. -/
theorem results_core (decoder : Decoder) (run : List Datagram) :
    decoder.results run = outputs Core.step decoder.core run ∧
      (decoder.decodeAll run).core = stateAfter Core.step decoder.core run :=
  outputs_project core decode_core decoder run

/-! ## The ledger -/

end Decoder

/-- The counters but for the events dropped, which only the queue adds to. -/
def Stats.ledger (stats : Stats) : Stats := { stats with eventsDropped := 0 }

namespace Decoder

theorem queue_ledger (decoder : Decoder) (events : List Event) :
    (decoder.queue events).stats.ledger = decoder.stats.ledger := by
  obtain ⟨pending, dropped, same⟩ := queue_frame decoder events
  rw [same]
  rfl

theorem watchSequence_ledger (decoder : Decoder) (obs : Observation) :
    (decoder.watchSequence obs).2.stats.ledger =
      { decoder.stats.ledger with
        missedExports := decoder.stats.missedExports + (decoder.watchSequence obs).1 } := by
  rw [watchSequence]
  cases decoder.sequence with
  | none => rfl
  | some watch =>
    refine (queue_ledger _ _).trans ?_
    dsimp only
    split
    · rfl
    · rename_i none
      rw [not_not.mp none]
      rfl

theorem watchSampling_ledger (decoder : Decoder) (key : SamplingKey) (opts : List Rec) :
    (decoder.watchSampling key opts).2.stats.ledger = decoder.stats.ledger := by
  rw [watchSampling]
  cases decoder.sampling with
  | none => rfl
  | some watch =>
    dsimp only
    generalize noteAll key watch opts = noted
    obtain ⟨outcome, after⟩ := noted
    cases outcome with
    | error error => rfl
    | ok done => exact queue_ledger _ _

/-- A delivery counts its message, and books the gap before it as missed. -/
theorem deliver_ledger (decoder : Decoder) (exporter : Exporter) (version : Nat) (header : Header)
    (flows options : List Rec) :
    (decoder.deliver exporter version header flows options).2.stats.ledger =
      { countMessage version flows.length options.length decoder.stats.ledger with
        missedExports := decoder.stats.missedExports +
          (decoder.core.observe (observation exporter version header flows.length options.length)).1 } := by
  have watched := watchSequence_ledger (decoder.tally (countMessage version flows.length options.length))
    (observation exporter version header flows.length options.length)
  have gap := (watchSequence_core (decoder.tally (countMessage version flows.length options.length))
    (observation exporter version header flows.length options.length)).1
  change _ = (decoder.core.observe _).1 at gap
  rw [gap] at watched
  simp only [deliver]
  generalize ((decoder.tally (countMessage version flows.length options.length)).watchSequence
    (observation exporter version header flows.length options.length)).2 = watching at watched ⊢
  have sampled := watchSampling_ledger watching ⟨exporter, header.domain⟩ options
  generalize watching.watchSampling ⟨exporter, header.domain⟩ options = noting at sampled ⊢
  obtain ⟨outcome, after⟩ := noting
  have ledger : after.stats.ledger =
      { countMessage version flows.length options.length decoder.stats.ledger with
        missedExports := decoder.stats.missedExports +
          (decoder.core.observe (observation exporter version header flows.length options.length)).1 } := by
    apply sampled.trans (watched.trans _)
    simp only [tally, countMessage]
    split
    · rfl
    · split <;> rfl
  cases outcome <;> exact ledger

/-! ## Missed exports -/

/-- A call books the gap it returns. -/
theorem decode_missed {datagram : Datagram} {header : Header} (read : datagram.header = some header)
    (decoder : Decoder) :
    (decoder.decodeDatagram datagram).2.stats.missedExports =
      decoder.stats.missedExports + decoder.core.gapBefore datagram header := by
  obtain ⟨data, exporter⟩ := datagram
  obtain ⟨long, known⟩ := not_or.mp (Datagram.header_supported read)
  generalize counted : decoder.tally (fun stats =>
    { stats with packets := stats.packets + 1, bytesRx := stats.bytesRx + data.length }) = receiving
  have sameCore : receiving.core = decoder.core := by
    rw [← counted]
    rfl
  have sameMissed : receiving.stats.missedExports = decoder.stats.missedExports := by
    rw [← counted]
    rfl
  obtain ⟨stats, calls, reads, missed, parsed⟩ := parse_spec receiving data (exporterKey exporter)
  have headed := readDatagram_header data (exporterKey exporter) receiving.templates
  rw [Datagram.header_read read] at headed
  simp only [decodeDatagram, decode, if_neg long, if_neg known, counted, parsed, afterParse, headed]
  apply (congrArg Stats.missedExports (deliver_ledger _ _ _ _ _ _)).trans
  dsimp only
  have drained : ({ receiving with
      templates := (readDatagram data (exporterKey exporter) receiving.templates).2
      stats := stats } : Decoder).drainTemplates.core = decoder.core.afterRead ⟨data, exporter⟩ := by
    rw [drainTemplates_core, Core.afterRead, ← sameCore]
    rfl
  have kept : ({ receiving with
      templates := (readDatagram data (exporterKey exporter) receiving.templates).2
      stats := stats } : Decoder).drainTemplates.stats.missedExports = decoder.stats.missedExports :=
    (congrArg Stats.missedExports (queue_ledger _ _)).trans (missed.trans sameMissed)
  have sameStore : receiving.templates = decoder.core.templates := by
    rw [← sameCore]
    rfl
  rw [drained, kept, sameStore, Core.gapBefore]

end Decoder

end Netflume
