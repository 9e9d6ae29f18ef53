import Netflume.Framing
import Netflume.Projection

/-! # Observation domains are isolated

As long as nothing is evicted, a decoder answers the datagrams of one exporter
and domain as a fresh decoder does that is sent nothing else. -/

namespace Netflume

open Library

/-! ## One parse -/

/-- Two sinks of one domain, the second among the templates of others. -/
structure Sink.Sees (exporter : Exporter) (domain : Nat) (low high : Sink) : Prop where
  store : low.store.Projects exporter domain high.store
  records : low.records = high.records
  options : low.options = high.options

theorem Sink.Sees.append {exporter : Exporter} {domain : Nat} {low high : Sink}
    (sees : Sink.Sees exporter domain low high) (isOptions : Bool) (rec : Rec) :
    Sink.Sees exporter domain (low.append isOptions rec) (high.append isOptions rec) := by
  obtain ⟨store, records, opts⟩ := sees
  cases isOptions with
  | true => exact ⟨store, records, by simp only [Sink.append, if_true, opts]⟩
  | false => exact ⟨store, by simp only [Sink.append, Bool.false_eq_true, if_false, records], opts⟩

section Parse

variable {exporter : Exporter} {domain : Nat}

/-- Evictions only grow, so none at the end is none before; and a data set does nothing to the store but look up. -/
theorem sinkSimulation_own (exporter : Exporter) (domain evicted : Nat) :
    SinkSimulation exporter domain fun low high =>
      high.store.evicted = 0 → evicted = 0 ∧ Sink.Sees exporter domain low high where
  put := by
    intro low high mirrors id fields options _ quiet
    have put : (high.store.put ⟨exporter, domain, id⟩ fields options).2.evicted = 0 := quiet
    obtain ⟨start, sees⟩ := mirrors (TemplateStore.put_quiet put).1
    exact ⟨start, sees.store.put_own id fields options put, sees.records, sees.options⟩
  data := by
    intro low high mirrors ipfix id content quiet
    rw [applyData_store] at quiet
    obtain ⟨_, _, sameEvicted⟩ := high.store.get_frame ⟨exporter, domain, id⟩
    obtain ⟨start, sees⟩ := mirrors (sameEvicted.symm.trans quiet)
    obtain ⟨held, after⟩ := sees.store.get_own id
    have held : (low.get ⟨exporter, domain, id⟩).1 = (high.get ⟨exporter, domain, id⟩).1 := held
    rw [held]
    exact ⟨start, applyData_related Sink.Sees.append (fun sees => ⟨sees.store, sees.records, sees.options⟩) ipfix
      content _ ⟨after, sees.records, sees.options⟩⟩
  markTruncated := fun mirrors quiet =>
    have ⟨start, sees⟩ := mirrors quiet
    ⟨start, sees.store, sees.records, sees.options⟩
  close := by
    intro low high mirrors
    unfold Sink.close
    split <;> split <;> exact fun quiet =>
      have ⟨start, sees⟩ := mirrors quiet
      ⟨start, sees.store, sees.records, sees.options⟩

theorem sinkSimulation_other {sender : Exporter} {other : Nat}
    (different : ∀ id, (TemplateKey.mk sender other id).within exporter domain = false) (low : TemplateStore) :
    SinkSimulation sender other fun _ high => high.store.evicted = 0 → low.Projects exporter domain high.store where
  put := by
    intro _ high mirrors id fields options _ quiet
    have put : (high.store.put ⟨sender, other, id⟩ fields options).2.evicted = 0 := quiet
    exact (mirrors (TemplateStore.put_quiet put).1).put_other (different id) fields options put
  data := by
    intro _ high mirrors ipfix id content
    rw [applyData_store]
    intro quiet
    obtain ⟨_, _, sameEvicted⟩ := high.store.get_frame ⟨sender, other, id⟩
    exact (mirrors (sameEvicted.symm.trans quiet)).get_other (different id)
  markTruncated := fun mirrors => mirrors
  close := by
    intro _ high mirrors
    rw [Sink.close]
    split <;> exact mirrors

/-- A datagram of the domain reads the same against its own templates as among all. -/
theorem readDatagram_own {data : Bytes} {header : Header} (read : datagramHeader data exporter = some header)
    {low high : TemplateStore} (projects : low.Projects exporter header.domain high)
    (quiet : (readDatagram data exporter high).2.evicted = 0) :
    high.evicted = 0 ∧ (readDatagram data exporter low).1 = (readDatagram data exporter high).1 ∧
      (readDatagram data exporter low).2.Projects exporter header.domain (readDatagram data exporter high).2 := by
  rw [datagramHeader] at read
  unfold readDatagram at quiet ⊢
  by_cases isV5 : num data 0 2 = 5
  · simp only [if_pos isV5] at quiet ⊢
    exact ⟨quiet, trivial, projects⟩
  · rw [if_neg isV5] at read
    simp only [if_neg isV5] at quiet ⊢
    rw [applyMessage_parsed read, applyMessage_parsed read]
    have start : ({ store := high, stats := {} } : Sink).store.evicted = 0 → high.evicted = 0 ∧
        Sink.Sees exporter header.domain { store := low, stats := {} } { store := high, stats := {} } :=
      fun quiet => ⟨quiet, projects, rfl, rfl⟩
    obtain ⟨quietBefore, sees⟩ :=
      (sinkSimulation_own exporter header.domain high.evicted).applyMessage read start quiet
    exact ⟨quietBefore, by rw [sees.records, sees.options], sees.store⟩

/-- A datagram of another domain leaves the templates of this one alone. -/
theorem readDatagram_other {sender : Exporter} {data : Bytes} {header : Header}
    (read : datagramHeader data sender = some header)
    (different : ∀ id, (TemplateKey.mk sender header.domain id).within exporter domain = false)
    {low high : TemplateStore} (projects : low.Projects exporter domain high)
    (quiet : (readDatagram data sender high).2.evicted = 0) :
    low.Projects exporter domain (readDatagram data sender high).2 := by
  rw [datagramHeader] at read
  unfold readDatagram at quiet ⊢
  by_cases isV5 : num data 0 2 = 5
  · simp only [if_pos isV5]
    exact projects
  · rw [if_neg isV5] at read
    simp only [if_neg isV5] at quiet ⊢
    have start : ({ store := high, stats := {} } : Sink).store.evicted = 0 → low.Projects exporter domain high :=
      fun _ => projects
    exact (sinkSimulation_other different low).kept read start quiet

/-- A parse never takes back an eviction. -/
theorem readDatagram_quiet {sender : Exporter} {data : Bytes} {store : TemplateStore}
    (quiet : (readDatagram data sender store).2.evicted = 0) : store.evicted = 0 := by
  cases read : datagramHeader data sender with
  | none =>
    rw [readDatagram_headerless read] at quiet
    exact quiet
  | some header =>
    have own : TemplateStore.Projects sender header.domain
      { store with templates := store.templates.restrict (TemplateKey.within sender header.domain) } store := ⟨rfl, rfl⟩
    exact (readDatagram_own read own quiet).1

end Parse

/-! ## One datagram -/

/-- The header of the datagram carries this pair. -/
def Decoder.Datagram.carries (exporter : Exporter) (domain : Nat) (datagram : Decoder.Datagram) : Bool :=
  datagram.header.any fun header => decide (header.exporter = exporter ∧ header.domain = domain)

namespace Core

/-- Nothing was evicted from any of the tables. -/
structure Quiet (core : Core) : Prop where
  templates : core.templates.evicted = 0
  sequence : ∀ watch ∈ core.sequence, watch.evicted = 0
  sampling : ∀ watch ∈ core.sampling, watch.evicted = 0

instance (core : Core) : Decidable core.Quiet :=
  decidable_of_iff (core.templates.evicted = 0 ∧ (∀ watch ∈ core.sequence, watch.evicted = 0) ∧
      ∀ watch ∈ core.sampling, watch.evicted = 0)
    ⟨fun ⟨templates, sequence, sampling⟩ => ⟨templates, sequence, sampling⟩,
      fun ⟨templates, sequence, sampling⟩ => ⟨templates, sequence, sampling⟩⟩

/-- `low` holds of `high` what belongs to one domain. -/
structure Projects (exporter : Exporter) (domain : Nat) (low high : Core) : Prop where
  templates : low.templates.Projects exporter domain high.templates
  sequence : Option.Rel (SequenceWatch.Projects exporter domain) low.sequence high.sequence
  sampling : Option.Rel (SamplingWatch.Projects exporter domain) low.sampling high.sampling

variable {exporter : Exporter} {domain : Nat} {low high : Core}

theorem quiet_of_observe {core : Core} {obs : Observation} (quiet : (core.observe obs).2.Quiet) : core.Quiet := by
  obtain ⟨templates, sequence, sampling⟩ := core
  cases sequence with
  | none => exact quiet
  | some watch =>
    refine ⟨quiet.templates, fun other same => ?_, quiet.sampling⟩
    cases same
    have still : (watch.observe obs).2.evicted = 0 := quiet.sequence (watch.observe obs).2.takeEvents.2 rfl
    exact (SequenceWatch.observe_quiet still).1

/-- An error stops the notes half way, and what was evicted by then stays counted. -/
theorem quiet_of_note {core : Core} {key : SamplingKey} {opts : List Rec} (quiet : (core.note key opts).2.Quiet) :
    core.Quiet ∧ ∀ watch, core.sampling = some watch → (Decoder.noteAll key watch opts).2.evicted = 0 := by
  obtain ⟨templates, sequence, sampling⟩ := core
  cases sampling with
  | none => exact ⟨quiet, fun watch same => by cases same⟩
  | some watch =>
    have grows := SamplingWatch.noteAll_evicted_le watch key opts
    simp only [note] at quiet
    generalize listed : Decoder.noteAll key watch opts = noted at quiet grows
    obtain ⟨outcome, after⟩ := noted
    have none : after.evicted = 0 := by
      cases outcome with
      | error error => exact quiet.sampling after rfl
      | ok done => exact quiet.sampling after.takeEvents.2 rfl
    refine ⟨⟨?_, ?_, fun other same => ?_⟩, fun other same => ?_⟩
    · cases outcome <;> exact quiet.templates
    · cases outcome <;> exact quiet.sequence
    · cases same
      exact Nat.eq_zero_of_le_zero (none ▸ grows)
    · cases same
      rw [listed]
      exact none

theorem Projects.observe_own (projects : Projects exporter domain low high) {obs : Observation}
    (own : obs.key.within exporter domain = true) (quiet : (high.observe obs).2.Quiet) :
    (low.observe obs).1 = (high.observe obs).1 ∧ Projects exporter domain (low.observe obs).2 (high.observe obs).2 := by
  obtain ⟨lowTemplates, lowSequence, lowSampling⟩ := low
  obtain ⟨highTemplates, highSequence, highSampling⟩ := high
  obtain ⟨templates, sequence, sampling⟩ := projects
  cases sequence with
  | none => exact ⟨rfl, templates, .none, sampling⟩
  | @some lowWatch highWatch watches =>
    have still : (highWatch.observe obs).2.evicted = 0 := quiet.sequence (highWatch.observe obs).2.takeEvents.2 rfl
    obtain ⟨answer, after⟩ := watches.observe_own own still
    exact ⟨answer, templates, .some ⟨after.streams, after.ceiling⟩, sampling⟩

theorem Projects.observe_other (projects : Projects exporter domain low high) {obs : Observation}
    (other : obs.key.within exporter domain = false) (quiet : (high.observe obs).2.Quiet) :
    Projects exporter domain low (high.observe obs).2 := by
  obtain ⟨lowTemplates, lowSequence, lowSampling⟩ := low
  obtain ⟨highTemplates, highSequence, highSampling⟩ := high
  obtain ⟨templates, sequence, sampling⟩ := projects
  cases sequence with
  | none => exact ⟨templates, .none, sampling⟩
  | @some lowWatch highWatch watches =>
    have still : (highWatch.observe obs).2.evicted = 0 := quiet.sequence (highWatch.observe obs).2.takeEvents.2 rfl
    have after := watches.observe_other other still
    exact ⟨templates, .some ⟨after.streams, after.ceiling⟩, sampling⟩

theorem Projects.note_own (projects : Projects exporter domain low high) {opts : List Rec}
    (quiet : (high.note ⟨exporter, domain⟩ opts).2.Quiet) :
    (low.note ⟨exporter, domain⟩ opts).1 = (high.note ⟨exporter, domain⟩ opts).1 ∧
      Projects exporter domain (low.note ⟨exporter, domain⟩ opts).2 (high.note ⟨exporter, domain⟩ opts).2 := by
  have still := (quiet_of_note quiet).2
  obtain ⟨lowTemplates, lowSequence, lowSampling⟩ := low
  obtain ⟨highTemplates, highSequence, highSampling⟩ := high
  obtain ⟨templates, sequence, sampling⟩ := projects
  cases sampling with
  | none => exact ⟨rfl, templates, sequence, .none⟩
  | @some lowWatch highWatch watches =>
    obtain ⟨answer, after⟩ := watches.noteAll_own (still highWatch rfl)
    simp only [note]
    generalize Decoder.noteAll ⟨exporter, domain⟩ lowWatch opts = lowNoted at answer after ⊢
    generalize Decoder.noteAll ⟨exporter, domain⟩ highWatch opts = highNoted at answer after ⊢
    obtain ⟨lowOutcome, lowAfter⟩ := lowNoted
    obtain ⟨highOutcome, highAfter⟩ := highNoted
    cases answer
    cases lowOutcome with
    | error error => exact ⟨rfl, templates, sequence, .some after⟩
    | ok done =>
      refine ⟨?_, templates, sequence, .some ⟨after.rates, after.ceiling⟩⟩
      simp only [SamplingWatch.rateFor, after.get_own]

theorem Projects.note_other (projects : Projects exporter domain low high) {key : SamplingKey} {opts : List Rec}
    (other : key.within exporter domain = false) (quiet : (high.note key opts).2.Quiet) :
    Projects exporter domain low (high.note key opts).2 := by
  have still := (quiet_of_note quiet).2
  obtain ⟨lowTemplates, lowSequence, lowSampling⟩ := low
  obtain ⟨highTemplates, highSequence, highSampling⟩ := high
  obtain ⟨templates, sequence, sampling⟩ := projects
  cases sampling with
  | none => exact ⟨templates, sequence, .none⟩
  | @some lowWatch highWatch watches =>
    have after := SamplingWatch.Projects.noteAll_other other watches (still highWatch rfl)
    simp only [note]
    generalize Decoder.noteAll key highWatch opts = noted at after ⊢
    obtain ⟨outcome, next⟩ := noted
    cases outcome with
    | error error => exact ⟨templates, sequence, .some after⟩
    | ok done => exact ⟨templates, sequence, .some ⟨after.rates, after.ceiling⟩⟩

/-- Both watches' turns, for a message of the domain. -/
theorem Projects.deliver_own {header : Header} (projects : Projects exporter header.domain low high) (version : Nat)
    (flows options : List Rec) (quiet : (high.deliver exporter version header flows options).2.Quiet) :
    (low.deliver exporter version header flows options).1 = (high.deliver exporter version header flows options).1 ∧
      Projects exporter header.domain (low.deliver exporter version header flows options).2
        (high.deliver exporter version header flows options).2 := by
  rw [deliver_after] at quiet
  have own : (Decoder.observation exporter version header flows.length options.length).key.within exporter
      header.domain = true := by simp [Decoder.observation, Observation.key, StreamKey.within]
  obtain ⟨gap, observed⟩ := projects.observe_own own (quiet_of_note quiet).1
  obtain ⟨rate, noted⟩ := observed.note_own quiet
  refine ⟨?_, by rw [deliver_after, deliver_after]; exact noted⟩
  simp only [deliver, gap]
  generalize (low.observe _).2.note _ _ = lowNoted at rate ⊢
  generalize (high.observe _).2.note _ _ = highNoted at rate ⊢
  obtain ⟨lowOutcome, lowAfter⟩ := lowNoted
  obtain ⟨highOutcome, highAfter⟩ := highNoted
  cases rate
  cases lowOutcome <;> rfl

/-- Neither watch is keyed by anything of this domain. -/
theorem Projects.deliver_other {sender : Exporter} {header : Header} (projects : Projects exporter domain low high)
    (other : ¬ (sender = exporter ∧ header.domain = domain)) (version : Nat) (flows options : List Rec)
    (quiet : (high.deliver sender version header flows options).2.Quiet) :
    Projects exporter domain low (high.deliver sender version header flows options).2 := by
  rw [deliver_after] at quiet ⊢
  refine (projects.observe_other ?_ (quiet_of_note quiet).1).note_other ?_ quiet
  · simp [Decoder.observation, Observation.key, StreamKey.within, other]
  · simp [SamplingKey.within, other]

theorem quiet_of_step (core : Core) (datagram : Decoder.Datagram) (quiet : (core.step datagram).2.Quiet) :
    core.Quiet := by
  cases read : datagram.header with
  | none =>
    rcases (step_headerless read core).2 with same | drained
    · rw [same] at quiet
      exact quiet
    · rw [drained] at quiet
      exact ⟨quiet.templates, quiet.sequence, quiet.sampling⟩
  | some header =>
    rw [step_headed read, deliver_after] at quiet
    have parsed := quiet_of_observe (quiet_of_note quiet).1
    exact ⟨readDatagram_quiet parsed.templates, parsed.sequence, parsed.sampling⟩

theorem Projects.step_own (projects : Projects exporter domain low high) {datagram : Decoder.Datagram}
    (own : datagram.carries exporter domain = true) (quiet : (high.step datagram).2.Quiet) :
    (low.step datagram).1 = (high.step datagram).1 ∧
      Projects exporter domain (low.step datagram).2 (high.step datagram).2 := by
  rw [Decoder.Datagram.carries] at own
  cases read : datagram.header with
  | none => simp [read] at own
  | some header =>
    have sender := Decoder.Datagram.header_exporter read
    rw [read, Option.any_some, decide_eq_true_eq, sender] at own
    obtain ⟨rfl, rfl⟩ := own
    rw [step_headed read] at quiet ⊢
    rw [step_headed read]
    have parsed := quiet_of_observe (quiet_of_note (deliver_after _ _ _ _ _ _ ▸ quiet)).1
    obtain ⟨_, answer, after⟩ :=
      readDatagram_own (Decoder.Datagram.header_read read) projects.templates parsed.templates
    have stored : Projects (exporterKey datagram.exporter) header.domain (low.afterRead datagram)
        (high.afterRead datagram) := ⟨⟨after.templates, after.ceiling⟩, projects.sequence, projects.sampling⟩
    rw [answer]
    exact stored.deliver_own _ _ _ quiet

theorem Projects.step_other (projects : Projects exporter domain low high) {datagram : Decoder.Datagram}
    (other : datagram.carries exporter domain = false) (quiet : (high.step datagram).2.Quiet) :
    Projects exporter domain low (high.step datagram).2 := by
  rw [Decoder.Datagram.carries] at other
  cases read : datagram.header with
  | none =>
    rcases (step_headerless read high).2 with same | drained
    · rw [same]
      exact projects
    · rw [drained]
      exact ⟨⟨projects.templates.templates, projects.templates.ceiling⟩, projects.sequence, projects.sampling⟩
  | some header =>
    have sender := Decoder.Datagram.header_exporter read
    rw [read, Option.any_some, decide_eq_false_iff_not, sender] at other
    rw [step_headed read] at quiet ⊢
    have parsed := quiet_of_observe (quiet_of_note (deliver_after _ _ _ _ _ _ ▸ quiet)).1
    have after := readDatagram_other (Decoder.Datagram.header_read read) (by simp [TemplateKey.within, other])
      projects.templates parsed.templates
    have stored : Projects exporter domain low (high.afterRead datagram) :=
      ⟨⟨after.templates, after.ceiling⟩, projects.sequence, projects.sampling⟩
    exact stored.deliver_other other _ _ _ quiet

end Core

/-- While nothing is evicted, the answers to the datagrams of one exporter and domain are those of a
fresh decoder to these datagrams alone. -/
theorem domains_isolated (trackSequence trackSampling : Bool) (exporter : Exporter) (domain : Nat)
    (run : List Decoder.Datagram)
    (quiet : ((Decoder.new trackSequence trackSampling).decodeAll run).core.Quiet) :
    (Decoder.new trackSequence trackSampling).results (run.filter (Decoder.Datagram.carries exporter domain)) =
      ((run.zip ((Decoder.new trackSequence trackSampling).results run)).filter fun answered =>
        answered.1.carries exporter domain).map Prod.snd := by
  have start : Core.Projects exporter domain (Decoder.new trackSequence trackSampling).core
      (Decoder.new trackSequence trackSampling).core := by
    refine ⟨⟨rfl, rfl⟩, ?_, ?_⟩
    · cases trackSequence with
      | true => exact .some ⟨rfl, rfl⟩
      | false => exact .none
    · cases trackSampling with
      | true => exact .some ⟨rfl, rfl⟩
      | false => exact .none
  obtain ⟨answers, last⟩ := (Decoder.new trackSequence trackSampling).results_core run
  rw [last] at quiet
  rw [answers, ((Decoder.new trackSequence trackSampling).results_core _).1]
  exact (unwinding Core.quiet_of_step (fun _ _ _ own projects quiet => projects.step_own own quiet)
    (fun _ _ _ other projects quiet => projects.step_other other quiet) start run quiet).1

/-- A template and its data, with the same message of another domain and a datagram too short for a
header between them. -/
def interleaved : List Decoder.Datagram := [
  ⟨(ExportHeader.ipfix 0 4 7).message (bodyBytes [portTemplateSet]), .obj 1⟩,
  ⟨(ExportHeader.ipfix 0 4 8).message (bodyBytes [portTemplateSet]), .obj 1⟩,
  ⟨[1], .obj 1⟩,
  ⟨(ExportHeader.ipfix 0 4 7).message (bodyBytes [portDataSet]), .obj 1⟩]

theorem domains_isolated_interleaved :
    Decoder.fresh.results (interleaved.filter (Decoder.Datagram.carries (.obj 1) 7)) =
      ((interleaved.zip (Decoder.fresh.results interleaved)).filter fun answered =>
        answered.1.carries (.obj 1) 7).map Prod.snd :=
  domains_isolated true true (.obj 1) 7 interleaved (by decide +kernel)

end Netflume
