import Netflume.DecoderLedger

/-! # Parsing without a decoder

`parse_message` with one store and one set of counters, called on datagram after
datagram under the address `decode` files them by.  It gives what `decode` gives,
but for what the two watches add: it refuses a version where `decode` counts an
unsupported one, and its store and counters are the decoder's, but for the events
waiting in the store. -/

namespace Netflume

open Library

/-! ## Stores that answer alike -/

/-- The same templates and the same counts, whatever events are waiting. -/
structure TemplateStore.SameTemplates (first second : TemplateStore) : Prop where
  templates : first.templates = second.templates
  learned : first.learned = second.learned
  evicted : first.evicted = second.evicted
  limit : first.maxTemplates = second.maxTemplates

namespace TemplateStore

variable {first second : TemplateStore}

theorem SameTemplates.put (mirrors : first.SameTemplates second) (key : TemplateKey) (fields : List Field)
    (options : Bool) :
    (first.put key fields options).1 = (second.put key fields options).1 ∧
      (first.put key fields options).2.SameTemplates (second.put key fields options).2 := by
  obtain ⟨templates, learned, evicted, limit⟩ := mirrors
  simp only [TemplateStore.put, templates]
  split
  · refine ⟨rfl, ?_, learned, ?_, limit⟩ <;> simp only [file, templates, limit, evicted]
  · refine ⟨rfl, ?_, ?_, ?_, limit⟩ <;> simp only [file, learn, templates, limit, evicted, learned]

theorem SameTemplates.get (mirrors : first.SameTemplates second) (key : TemplateKey) :
    (first.get key).1 = (second.get key).1 ∧ (first.get key).2.SameTemplates (second.get key).2 := by
  obtain ⟨templates, learned, evicted, limit⟩ := mirrors
  simp only [TemplateStore.get, templates]
  split
  · exact ⟨rfl, templates, learned, evicted, limit⟩
  · refine ⟨rfl, ?_, learned, evicted, limit⟩
    simp only

end TemplateStore

/-! ## Parses that read alike -/

/-- The three counters a parse adds to. -/
structure Stats.SameCounts (first second : Stats) : Prop where
  templatesNew : first.templatesNew = second.templatesNew
  deferred : first.deferred = second.deferred
  truncated : first.truncated = second.truncated

structure Sink.SameReading (first second : Sink) : Prop where
  store : first.store.SameTemplates second.store
  counts : first.stats.SameCounts second.stats
  truncated : first.truncated = second.truncated
  records : first.records = second.records
  options : first.options = second.options

namespace Sink

variable {first second : Sink}

theorem SameReading.append (mirrors : first.SameReading second) (isOptions : Bool) (rec : Rec) :
    (first.append isOptions rec).SameReading (second.append isOptions rec) := by
  obtain ⟨store, counts, truncated, records, opts⟩ := mirrors
  cases isOptions with
  | true => exact ⟨store, counts, truncated, records, by simp only [Sink.append, if_true, opts]⟩
  | false =>
    exact ⟨store, counts, truncated, by simp only [Sink.append, Bool.false_eq_true, if_false, records], opts⟩

theorem SameReading.deferred (mirrors : first.SameReading second) : first.deferred.SameReading second.deferred := by
  obtain ⟨store, counts, truncated, records, opts⟩ := mirrors
  exact ⟨store, ⟨counts.templatesNew, congrArg Nat.succ counts.deferred, counts.truncated⟩, truncated, records, opts⟩

end Sink

theorem sinkSimulation_mirrors (exporter : Exporter) (domain : Nat) :
    SinkSimulation exporter domain Sink.SameReading where
  put := by
    rintro first second ⟨store, counts, truncated, records, opts⟩ id fields options _
    obtain ⟨answer, after⟩ := store.put ⟨exporter, domain, id⟩ fields options
    refine ⟨after, ?_, truncated, records, opts⟩
    simp only [Sink.put, answer]
    split
    · exact ⟨congrArg Nat.succ counts.templatesNew, counts.deferred, counts.truncated⟩
    · exact counts
  data := by
    rintro first second ⟨store, counts, truncated, records, opts⟩ ipfix id content
    obtain ⟨held, after⟩ := store.get ⟨exporter, domain, id⟩
    have same : (first.get ⟨exporter, domain, id⟩).1 = (second.get ⟨exporter, domain, id⟩).1 := held
    have start : (first.get ⟨exporter, domain, id⟩).2.SameReading (second.get ⟨exporter, domain, id⟩).2 :=
      ⟨after, counts, truncated, records, opts⟩
    rw [same]
    exact applyData_related (fun mirrors => mirrors.append) (fun mirrors => mirrors.deferred) ipfix content _ start
  markTruncated := fun mirrors => ⟨mirrors.store, mirrors.counts, rfl, mirrors.records, mirrors.options⟩
  close := by
    rintro first second ⟨store, counts, truncated, records, opts⟩
    simp only [Sink.close, truncated]
    split
    · exact ⟨store, ⟨counts.templatesNew, counts.deferred, congrArg Nat.succ counts.truncated⟩, rfl, records, opts⟩
    · exact ⟨store, counts, truncated, records, opts⟩

theorem applyMessage_mirrors (data : Bytes) (exporter : Exporter) {first second : Sink}
    (mirrors : first.SameReading second) :
    (applyMessage data exporter first).1 = (applyMessage data exporter second).1 ∧
      (applyMessage data exporter first).2.SameReading (applyMessage data exporter second).2 := by
  cases read : messageHeader data exporter with
  | none =>
    rw [applyMessage_headerless read, applyMessage_headerless read]
    exact ⟨rfl, mirrors⟩
  | some header =>
    have after := (sinkSimulation_mirrors exporter header.domain).applyMessage read mirrors
    rw [applyMessage_parsed read, applyMessage_parsed read, after.records, after.options]
    exact ⟨rfl, after⟩

theorem applyV5_mirrors (data : Bytes) (exporter : Exporter) {first second : Stats} (counts : first.SameCounts second) :
    (applyV5 data exporter first).1 = (applyV5 data exporter second).1 ∧
      (applyV5 data exporter first).2.SameCounts (applyV5 data exporter second).2 := by
  rw [applyV5, applyV5]
  split
  · exact ⟨rfl, counts⟩
  · refine ⟨rfl, ?_⟩
    dsimp only
    split
    · exact ⟨counts.templatesNew, counts.deferred, congrArg Nat.succ counts.truncated⟩
    · exact counts

/-- The parse inside `decode` on a store and counters that mirror another's. -/
theorem parse_mirrors {decoder : Decoder} {store : TemplateStore} {stats : Stats}
    (mirrors : store.SameTemplates decoder.templates) (counts : stats.SameCounts decoder.stats) {data : Bytes}
    (long : ¬ data.length < 2) (known : num data 0 2 ∈ supportedVersions) (exporter : Exporter) :
    ∃ parsed, (parseMessage data exporter store stats).outcome = .ok parsed ∧
      (decoder.parse data exporter (num data 0 2)).outcome = .ok parsed ∧
      (parseMessage data exporter store stats).store.SameTemplates (decoder.parse data exporter (num data 0 2)).store ∧
      (parseMessage data exporter store stats).stats.SameCounts (decoder.parse data exporter (num data 0 2)).stats := by
  rw [parseMessage, if_neg long, Decoder.parse]
  dsimp only
  by_cases isV5 : num data 0 2 = 5
  · rw [if_pos isV5, if_pos isV5]
    obtain ⟨_, _, plain⟩ := runV5_spec data exporter store stats
    obtain ⟨_, _, held⟩ := runV5_spec data exporter decoder.templates decoder.stats
    obtain ⟨parsed, after⟩ := applyV5_mirrors data exporter counts
    rw [plain, held]
    exact ⟨_, rfl, congrArg Except.ok parsed.symm, mirrors, after⟩
  · have version : num data 0 2 = 9 ∨ num data 0 2 = 10 := by
      simp only [supportedVersions, List.mem_cons, List.not_mem_nil, or_false] at known
      omega
    rw [if_neg isV5, if_pos version, if_neg isV5]
    obtain ⟨_, _, plain⟩ := runV9OrIpfix_spec data exporter store stats
    obtain ⟨_, _, held⟩ := runV9OrIpfix_spec data exporter decoder.templates decoder.stats
    have start : Sink.SameReading { store, stats } { store := decoder.templates, stats := decoder.stats } :=
      ⟨mirrors, counts, rfl, rfl, rfl⟩
    obtain ⟨parsed, after⟩ := applyMessage_mirrors data exporter start
    rw [plain, held]
    exact ⟨_, rfl, congrArg Except.ok parsed.symm, after.store, after.counts⟩

/-! ## Call for call -/

/-- One call of `parse_message`. -/
def parseDatagram (held : TemplateStore × Stats) (datagram : Decoder.Datagram) :
    Except Stop Parsed × TemplateStore × Stats :=
  let run := parseMessage datagram.data datagram.exporter held.1 held.2
  (run.outcome, run.store, run.stats)

/-- The datagram with its address as `decode` keys it. -/
def Decoder.Datagram.keyed (datagram : Decoder.Datagram) : Decoder.Datagram :=
  { datagram with exporter := exporterKey datagram.exporter }

/-- What a call added to the counters of datagrams: the unsupported versions, the malformed ones, the messages. -/
structure Stats.Counted (before after : Stats) (unsupported malformed messages : Nat) : Prop where
  unsupported : after.unsupportedVersion = before.unsupportedVersion + unsupported
  malformed : after.malformed = before.malformed + malformed
  messages : after.messages = before.messages + messages

/-- What `parse_message` and `decode` say of one datagram, and what `decode` counts it as. -/
inductive Answers (data : Bytes) (before after : Stats) : Except Stop Parsed → Except Stop (Option Message) → Prop where
  | unsupported (counted : before.Counted after 1 0 0) :
    Answers data before after
      (.error (.raised ⟨"ValueError", "unsupported export version " ++ Nat.repr (num data 0 2)⟩)) (.ok none)
  | headerless (counted : before.Counted after 0 1 0) : Answers data before after (.ok ⟨none, [], []⟩) (.ok none)
  | message (counted : before.Counted after 0 0 1) (message : Message) :
    Answers data before after (.ok ⟨some message.header, message.flows, message.options⟩) (.ok (some message))
  /-- The sampling watch raised, past the parse. -/
  | raised (counted : before.Counted after 0 0 1) (header : Header) (flows options : List Rec) (error : PyError) :
    Answers data before after (.ok ⟨some header, flows, options⟩) (.error (.raised error))

/-- The store and the counters are the decoder's, but for the events waiting. -/
structure KeepsUp (held : TemplateStore × Stats) (decoder : Decoder) : Prop where
  store : held.1.SameTemplates decoder.templates
  counts : held.2.SameCounts decoder.stats

namespace KeepsUp

variable {held : TemplateStore × Stats} {decoder : Decoder}

/-- Failing adds to none of the three counters, and leaves the store. -/
theorem fail (keeping : KeepsUp held decoder) (exporter : Exporter) (reason detail : String) (counted : Bool) :
    KeepsUp held (decoder.fail exporter reason detail counted).2 := by
  have ledger := decoder.fail_ledger exporter reason detail counted
  refine ⟨?_, ?_, ?_, ?_⟩
  · rw [decoder.fail_templates]
    exact keeping.store
  · exact keeping.counts.templatesNew.trans (congrArg Stats.templatesNew ledger).symm
  · exact keeping.counts.deferred.trans (congrArg Stats.deferred ledger).symm
  · exact keeping.counts.truncated.trans (congrArg Stats.truncated ledger).symm

theorem deliver (keeping : KeepsUp held decoder) (exporter : Exporter) (version : Nat) (header : Header)
    (flows options : List Rec) : KeepsUp held (decoder.deliver exporter version header flows options).2 := by
  have ledger := decoder.deliver_ledger exporter version header flows options
  obtain ⟨_, _, _, _, frame⟩ := Decoder.countMessage_frame version flows.length options.length decoder.stats.ledger
  rw [frame] at ledger
  refine ⟨?_, ?_, ?_, ?_⟩
  · rw [decoder.deliver_templates]
    exact keeping.store
  · exact keeping.counts.templatesNew.trans (congrArg Stats.templatesNew ledger).symm
  · exact keeping.counts.deferred.trans (congrArg Stats.deferred ledger).symm
  · exact keeping.counts.truncated.trans (congrArg Stats.truncated ledger).symm

/-- Queueing what the parse taught takes the events from the store, and no more. -/
theorem parsed {run : ParseRun} (store : held.1.SameTemplates run.store) (counts : held.2.SameCounts run.stats) :
    KeepsUp held (decoder.parsed run) := by
  have ledger := { decoder with templates := run.store, stats := run.stats : Decoder }.drainTemplates_ledger
  have drained : (decoder.parsed run).templates = run.store.takeEvents.2 :=
    congrArg Core.templates (decoder.parsed_core run)
  refine ⟨?_, ?_, ?_, ?_⟩
  · rw [drained]
    exact ⟨store.templates, store.learned, store.evicted, store.limit⟩
  · exact counts.templatesNew.trans (congrArg Stats.templatesNew ledger).symm
  · exact counts.deferred.trans (congrArg Stats.deferred ledger).symm
  · exact counts.truncated.trans (congrArg Stats.truncated ledger).symm

end KeepsUp

/-! ## What the exits count -/

namespace Stats.Counted

variable {before : Stats} {decoder : Decoder}

/-- A failure not counted yet is a malformed datagram. -/
theorem fail (counted : before.Counted decoder.stats 0 0 0) (exporter : Exporter) (reason detail : String) :
    before.Counted (decoder.fail exporter reason detail false).2.stats 0 1 0 := by
  have ledger := decoder.fail_ledger exporter reason detail false
  refine ⟨?_, ?_, ?_⟩
  · exact (congrArg Stats.unsupportedVersion ledger).trans counted.unsupported
  · exact (congrArg Stats.malformed ledger).trans (congrArg Nat.succ counted.malformed)
  · exact (congrArg Stats.messages ledger).trans counted.messages

theorem fail_counted {unsupported : Nat} (counted : before.Counted decoder.stats unsupported 0 0) (exporter : Exporter)
    (reason detail : String) : before.Counted (decoder.fail exporter reason detail true).2.stats unsupported 0 0 := by
  have ledger := decoder.fail_ledger exporter reason detail true
  refine ⟨?_, ?_, ?_⟩
  · exact (congrArg Stats.unsupportedVersion ledger).trans counted.unsupported
  · exact (congrArg Stats.malformed ledger).trans counted.malformed
  · exact (congrArg Stats.messages ledger).trans counted.messages

theorem deliver (counted : before.Counted decoder.stats 0 0 0) (exporter : Exporter) (version : Nat) (header : Header)
    (flows options : List Rec) :
    before.Counted (decoder.deliver exporter version header flows options).2.stats 0 0 1 := by
  have ledger := decoder.deliver_ledger exporter version header flows options
  obtain ⟨v5, v9, v10, one, frame⟩ :=
    Decoder.countMessage_frame version flows.length options.length decoder.stats.ledger
  rw [frame] at ledger
  refine ⟨?_, ?_, ?_⟩
  · exact (congrArg Stats.unsupportedVersion ledger).trans counted.unsupported
  · exact (congrArg Stats.malformed ledger).trans counted.malformed
  · have messages : (decoder.deliver exporter version header flows options).2.stats.messages = v5 + v9 + v10 :=
      congrArg Stats.messages ledger
    exact messages.trans (one.trans (congrArg Nat.succ counted.messages))

/-- A parse counts no datagram. -/
theorem parsed {maxPending : Nat} (queues : decoder.templates.Queues maxPending) {data : Bytes} {exporter : Exporter}
    {run : ParseRun} (isParse : run = (decoder.receive data).parse data exporter (num data 0 2)) :
    decoder.stats.Counted (decoder.parsed run).stats 0 0 0 := by
  obtain ⟨outcomes, _, _⟩ := Decoder.parsed_books queues data exporter isParse
  refine ⟨?_, ?_, ?_⟩
  · exact (congrArg Stats.unsupportedVersion outcomes :)
  · exact (congrArg Stats.malformed outcomes :)
  · exact (congrArg Stats.messages outcomes :)

end Stats.Counted

/-- A delivery returns the message the parse read, or raises. -/
theorem deliver_answers {before : Stats} {decoder : Decoder} (counted : before.Counted decoder.stats 0 0 0)
    (data : Bytes) (exporter : Exporter) (version : Nat) (header : Header) (flows options : List Rec) :
    Answers data before (decoder.deliver exporter version header flows options).2.stats
      (.ok ⟨some header, flows, options⟩) (decoder.deliver exporter version header flows options).1 := by
  have delivered := counted.deliver exporter version header flows options
  rw [(decoder.deliver_core exporter version header flows options).1]
  simp only [Core.deliver]
  generalize Core.note _ _ _ = noting
  obtain ⟨outcome, after⟩ := noting
  cases outcome with
  | error error => exact .raised delivered header flows options error
  | ok rate => exact .message delivered ⟨header, flows, options, _, rate⟩

/-- A parse that finds no header finds nothing. -/
theorem parse_headerless {decoder : Decoder} {data : Bytes} {exporter : Exporter} {parsed : Parsed}
    (outcome : (decoder.parse data exporter (num data 0 2)).outcome = .ok parsed) (headerless : parsed.header = none) :
    parsed = ⟨none, [], []⟩ := by
  obtain ⟨stats, calls, reads, _, read⟩ := Decoder.parse_spec decoder data exporter
  rw [read] at outcome
  cases outcome
  rw [readDatagram_header] at headerless
  rw [readDatagram_headerless headerless]

theorem decode_answers {held : TemplateStore × Stats} {decoder : Decoder} {maxPending : Nat}
    (queues : decoder.templates.Queues maxPending) (datagram : Decoder.Datagram) (keeping : KeepsUp held decoder) :
    Answers datagram.data decoder.stats (decoder.decodeDatagram datagram).2.stats
        (parseDatagram held datagram.keyed).1 (decoder.decodeDatagram datagram).1 ∧
      KeepsUp (parseDatagram held datagram.keyed).2 (decoder.decodeDatagram datagram).2 := by
  obtain ⟨data, exporter⟩ := datagram
  obtain ⟨store, stats⟩ := held
  have received : KeepsUp (store, stats) (decoder.receive data) :=
    ⟨keeping.store, keeping.counts.templatesNew, keeping.counts.deferred, keeping.counts.truncated⟩
  have untold : decoder.stats.Counted (decoder.receive data).stats 0 0 0 := ⟨rfl, rfl, rfl⟩
  have step : decoder.decode data exporter =
      if data.length < 2 then (decoder.receive data).fail (exporterKey exporter) "short" "fewer than two bytes" false
      else if num data 0 2 ∉ supportedVersions then
        ((decoder.receive data).tally fun stats => { stats with unsupportedVersion := stats.unsupportedVersion + 1 }).fail
          (exporterKey exporter) "unsupported" ("version " ++ Nat.repr (num data 0 2)) true
      else (decoder.receive data).afterParse (exporterKey exporter) (num data 0 2)
        ((decoder.receive data).parse data (exporterKey exporter) (num data 0 2)) := rfl
  simp only [parseDatagram, Decoder.Datagram.keyed, Decoder.decodeDatagram, step]
  by_cases short : data.length < 2
  · rw [if_pos short, parseMessage, if_pos short]
    exact ⟨.headerless (untold.fail _ _ _), received.fail _ _ _ _⟩
  · rw [if_neg short]
    by_cases known : num data 0 2 ∈ supportedVersions
    · rw [if_neg (not_not.mpr known)]
      obtain ⟨parsed, plain, read, mirrors, counts⟩ :=
        parse_mirrors received.store received.counts short known (exporterKey exporter)
      have followed := @KeepsUp.parsed ((parseMessage data (exporterKey exporter) store stats).store,
        (parseMessage data (exporterKey exporter) store stats).stats) (decoder.receive data) _ mirrors counts
      have found := parse_headerless read
      rw [plain, Decoder.afterParse, read]
      generalize isParse : (decoder.receive data).parse data (exporterKey exporter) (num data 0 2) = run at followed
      have told := Stats.Counted.parsed queues isParse.symm
      obtain ⟨header, flows, opts⟩ := parsed
      cases header with
      | none =>
        rw [found rfl]
        exact ⟨.headerless (told.fail _ _ _), followed.fail _ _ _ _⟩
      | some header => exact ⟨deliver_answers told _ _ _ _ _ _, followed.deliver _ _ _ _ _⟩
    · rw [if_pos known, parseMessage, if_neg short]
      simp only [supportedVersions, List.mem_cons, List.not_mem_nil, or_false, not_or] at known
      rw [if_neg known.1, if_neg (not_or.mpr known.2)]
      refine ⟨.unsupported (Stats.Counted.fail_counted ?_ _ _ _), KeepsUp.fail ?_ _ _ _ _⟩
      · exact ⟨rfl, rfl, rfl⟩
      · exact ⟨received.store, received.counts.templatesNew, received.counts.deferred, received.counts.truncated⟩

/-- After every run `parse_message` and `decode` say the same of the next datagram, and know the same templates. -/
theorem parse_message_follows_decode (trackSequence trackSampling : Bool) (run : List Decoder.Datagram)
    (datagram : Decoder.Datagram) :
    let decoder := (Decoder.new trackSequence trackSampling).decodeAll run
    let held := stateAfter parseDatagram (TemplateStore.new maxTemplates maxPendingTemplates, ({} : Stats))
      (run.map Decoder.Datagram.keyed)
    Answers datagram.data decoder.stats (decoder.decodeDatagram datagram).2.stats
        (parseDatagram held datagram.keyed).1 (decoder.decodeDatagram datagram).1 ∧
      KeepsUp held decoder := by
  intro decoder held
  have fresh : TemplateStore.Queues maxPendingTemplates (TemplateStore.new maxTemplates maxPendingTemplates) :=
    ⟨by decide, by decide, rfl, Nat.zero_le _⟩
  have start : KeepsUp (TemplateStore.new maxTemplates maxPendingTemplates, {})
      (Decoder.new trackSequence trackSampling) := ⟨⟨rfl, rfl, rfl, rfl⟩, rfl, rfl, rfl⟩
  let together (held : TemplateStore × Stats) (decoder : Decoder) : Prop :=
    KeepsUp held decoder ∧ decoder.templates.Queues maxPendingTemplates
  obtain ⟨keeping, queues⟩ : together held decoder :=
    stateAfter_related Decoder.Datagram.keyed
      (fun low high datagram ⟨keeping, queues⟩ =>
        ⟨(decode_answers queues datagram keeping).2, Decoder.decode_queues queues datagram⟩)
      ⟨start, fresh⟩ run
  exact ⟨(decode_answers queues datagram keeping).1, keeping⟩

end Netflume
