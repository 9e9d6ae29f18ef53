import Netflume.Projection
import Netflume.SequenceLedger

/-! # Who the tables are keyed by

A call writes to the tables under the exporter it is about, and eviction only
takes away.  So the keys of the three tables name no exporters but those whose
datagrams were decoded. -/

namespace Netflume

open Library

/-- Every key of the store is of an exporter with the property. -/
def TemplateStore.KeyedBy (holds : Exporter → Prop) (store : TemplateStore) : Prop :=
  store.templates.AllKeys fun key => holds key.exporter

/-- Every key of the watch's dictionaries is of an exporter with the property. -/
structure SequenceWatch.KeyedBy (holds : Exporter → Prop) (watch : SequenceWatch) : Prop where
  streams : watch.streams.AllKeys fun key => holds key.exporter
  missed : watch.missed.AllKeys fun key => holds key.exporter
  units : watch.units.AllKeys fun key => holds key.exporter
  warned : watch.warned.AllKeys holds

def SamplingWatch.KeyedBy (holds : Exporter → Prop) (watch : SamplingWatch) : Prop :=
  watch.rates.AllKeys fun key => holds key.exporter

/-- Every key of the three tables is of an exporter with the property. -/
structure Core.KeyedBy (holds : Exporter → Prop) (core : Core) : Prop where
  templates : core.templates.KeyedBy holds
  sequence : ∀ watch ∈ core.sequence, watch.KeyedBy holds
  sampling : ∀ watch ∈ core.sampling, watch.KeyedBy holds

section Tables

variable {holds : Exporter → Prop}

/-! ## One table -/

namespace TemplateStore

theorem KeyedBy.put {store : TemplateStore} (keyed : store.KeyedBy holds) {key : TemplateKey}
    (own : holds key.exporter) (fields : List Field) (options : Bool) :
    (store.put key fields options).2.KeyedBy holds := by
  rw [KeyedBy, put_templates]
  exact ((OrderedDict.AllKeys.set keyed own _).moveToEnd key).trim _

theorem KeyedBy.get {store : TemplateStore} (keyed : store.KeyedBy holds) (key : TemplateKey) :
    (store.get key).2.KeyedBy holds := by
  rw [KeyedBy, (store.get_frame key).1]
  exact OrderedDict.AllKeys.moveToEnd keyed key

end TemplateStore

namespace SequenceWatch

theorem KeyedBy.firstSeen {watch : SequenceWatch} (keyed : watch.KeyedBy holds) {key : StreamKey}
    (own : holds key.exporter) (seq records : Nat) : (watch.firstSeen key seq records).KeyedBy holds where
  streams := (keyed.streams.set own _).trim _
  missed := keyed.missed.eraseAll _
  units := keyed.units.eraseAll _
  warned := keyed.warned.trim _

theorem KeyedBy.writes {watch after : SequenceWatch} (keyed : watch.KeyedBy holds) {key : StreamKey}
    (own : holds key.exporter) {state entry : StreamState} {seq lost : Nat}
    (writes : Writes watch key state seq entry lost after) : after.KeyedBy holds := by
  have streams : after.streams.AllKeys fun key => holds key.exporter := by
    rw [writes.streams]
    exact (keyed.streams.moveToEnd key).set own entry
  obtain ⟨_, missed, units, warned⟩ | ⟨_, mode, _, missed, units, warned⟩ := writes.books
  · exact ⟨streams, missed ▸ keyed.missed, units ▸ keyed.units, warned ▸ keyed.warned⟩
  · refine ⟨streams, missed ▸ keyed.missed.set own _, units ▸ keyed.units.set own _, ?_⟩
    rw [warned]
    split
    · exact keyed.warned
    · exact keyed.warned.set own ()

theorem KeyedBy.observe {watch : SequenceWatch} (keyed : watch.KeyedBy holds) {obs : Observation}
    (own : holds obs.exporter) : (watch.observe obs).2.KeyedBy holds := by
  obtain ⟨_, same⟩ | ⟨seq, _, ⟨_, placed⟩ | ⟨state, entry, _, writes⟩⟩ := watch.observe_cases obs
  · rw [same]
    exact keyed
  · rw [placed]
    exact keyed.firstSeen own seq obs.records
  · exact keyed.writes own writes

end SequenceWatch

namespace SamplingWatch

variable {watch : SamplingWatch} {key : SamplingKey}

theorem KeyedBy.restate (keyed : watch.KeyedBy holds) (own : holds key.exporter) (rate : Nat) :
    (watch.restate key rate).2.KeyedBy holds := by
  rw [SamplingWatch.restate]
  dsimp only
  split
  · exact OrderedDict.AllKeys.moveToEnd keyed key
  · exact ((OrderedDict.AllKeys.set keyed own rate).moveToEnd key).trim _

theorem KeyedBy.note (keyed : watch.KeyedBy holds) (own : holds key.exporter) (opt : Rec) :
    (watch.note key opt).2.KeyedBy holds := by
  rw [SamplingWatch.note]
  cases samplingRate opt with
  | error error => exact keyed
  | ok stated =>
    cases stated with
    | none => exact keyed
    | some rate =>
      dsimp only
      split
      · rw [KeyedBy, (clear_frame watch key).1]
        exact OrderedDict.AllKeys.erase keyed key
      · exact keyed.restate own rate

theorem KeyedBy.noteAll (keyed : watch.KeyedBy holds) (own : holds key.exporter) (opts : List Rec) :
    (Decoder.noteAll key watch opts).2.KeyedBy holds :=
  noteAll_invariant (fun _ opt keyed => keyed.note own opt) keyed opts

end SamplingWatch

/-! ## One datagram -/

theorem sinkSimulation_keyed {exporter : Exporter} (own : holds exporter) (domain : Nat) :
    SinkSimulation exporter domain fun _ sink => sink.store.KeyedBy holds where
  put := fun keyed _ fields options _ => keyed.put own fields options
  data := by
    intro _ sink keyed ipfix id content
    rw [applyData_store]
    exact keyed.get _
  markTruncated := fun keyed => keyed
  close := by
    intro _ sink keyed
    rw [Sink.close]
    split <;> exact keyed

theorem readDatagram_keyed {exporter : Exporter} (own : holds exporter) {data : Bytes} {header : Header}
    (read : datagramHeader data exporter = some header) {store : TemplateStore} (keyed : store.KeyedBy holds) :
    (readDatagram data exporter store).2.KeyedBy holds := by
  rw [datagramHeader] at read
  rw [readDatagram]
  split
  · exact keyed
  · rename_i notV5
    rw [if_neg notV5] at read
    have start : ({ store, stats := {} } : Sink).store.KeyedBy holds := keyed
    exact (sinkSimulation_keyed own header.domain).kept read start

namespace Core

variable {core : Core}

theorem KeyedBy.observe (keyed : core.KeyedBy holds) {obs : Observation} (own : holds obs.exporter) :
    (core.observe obs).2.KeyedBy holds := by
  obtain ⟨templates, sequence, sampling⟩ := core
  cases sequence with
  | none => exact keyed
  | some watch =>
    refine ⟨keyed.templates, fun after same => ?_, keyed.sampling⟩
    cases same
    have observed := (keyed.sequence watch rfl).observe own
    exact ⟨observed.streams, observed.missed, observed.units, observed.warned⟩

theorem KeyedBy.note (keyed : core.KeyedBy holds) {key : SamplingKey} (own : holds key.exporter) (opts : List Rec) :
    (core.note key opts).2.KeyedBy holds := by
  obtain ⟨templates, sequence, sampling⟩ := core
  cases sampling with
  | none => exact keyed
  | some watch =>
    have all := (keyed.sampling watch rfl).noteAll own opts
    simp only [Core.note]
    generalize Decoder.noteAll key watch opts = noted at all ⊢
    obtain ⟨outcome, after⟩ := noted
    cases outcome with
    | error error =>
      refine ⟨keyed.templates, keyed.sequence, fun other same => ?_⟩
      cases same
      exact all
    | ok done =>
      refine ⟨keyed.templates, keyed.sequence, fun other same => ?_⟩
      cases same
      exact all

/-- A datagram writes under its own exporter. -/
theorem KeyedBy.step (keyed : core.KeyedBy holds) {datagram : Decoder.Datagram}
    (own : holds (exporterKey datagram.exporter)) : (core.step datagram).2.KeyedBy holds := by
  cases read : datagram.header with
  | none =>
    obtain same | drained := (step_headerless read core).2
    · rw [same]
      exact keyed
    · rw [drained]
      exact ⟨keyed.templates, keyed.sequence, keyed.sampling⟩
  | some header =>
    rw [step_headed read, deliver_after]
    have parsed : (core.afterRead datagram).KeyedBy holds :=
      ⟨readDatagram_keyed own (Decoder.Datagram.header_read read) keyed.templates, keyed.sequence, keyed.sampling⟩
    exact (parsed.observe own).note own _

end Core

end Tables

/-- No key is held at the start. -/
theorem Decoder.keyedBy_new (holds : Exporter → Prop) (trackSequence trackSampling : Bool) :
    (Decoder.new trackSequence trackSampling).core.KeyedBy holds where
  templates := .empty _
  sequence := by
    intro watch tracked
    cases trackSequence with
    | true =>
      cases tracked
      exact ⟨.empty _, .empty _, .empty _, .empty _⟩
    | false => cases tracked
  sampling := by
    intro watch tracked
    cases trackSampling with
    | true =>
      cases tracked
      exact OrderedDict.AllKeys.empty _
    | false => cases tracked

end Netflume
