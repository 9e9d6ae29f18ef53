import Netflume.ParseSimulation

/-! # Invariants of a parse

Whatever the things a parse does to its sink preserve, the whole parse preserves.
What it files was named by the element table, and what it appends was decoded by
a template the store holds. -/

namespace Netflume

open Library

/-! ## What data sets append -/

/-- The record was decoded from some bytes by these fields. -/
def DecodedBy (fields : List Field) (rec : Rec) : Prop :=
  ∃ ipfix bytes rest, wireRecord ipfix (repeatsName fields) fields .empty bytes = some (rec, rest)

theorem wireRecords_decodedBy (ipfix : Bool) (fields : List Field) (bytes : Bytes) :
    ∀ rec ∈ wireRecords ipfix fields bytes, DecodedBy fields rec := by
  fun_induction wireRecords ipfix fields bytes with
  | case1 | case2 | case4 => simp
  | case3 bytes long rec rest read shorter inductionHypothesis =>
    exact List.forall_mem_cons.mpr ⟨⟨ipfix, bytes, rest, read⟩, inductionHypothesis⟩

/-! ## The rule -/

/-- A property of sinks kept by everything a parse does to one. -/
structure SinkInvariant (holds : Sink → Prop) : Prop where
  put : ∀ sink key fields options, (∀ field ∈ fields, field.IsNamed) → holds sink →
    holds (sink.put key fields options)
  get : ∀ sink key, holds sink → holds (sink.get key).2
  append : ∀ sink isOptions key template rec, sink.store.templates.get? key = some template →
    DecodedBy template.fields rec → holds sink → holds (sink.append isOptions rec)
  deferred : ∀ sink, holds sink → holds sink.deferred
  markTruncated : ∀ sink, holds sink → holds sink.markTruncated
  close : ∀ sink, holds sink → holds sink.close

namespace SinkInvariant

variable {holds : Sink → Prop}

theorem appendAll (invariant : SinkInvariant holds) (isOptions : Bool) {key : TemplateKey} {template : Template}
    {records : List Rec} (decoded : ∀ rec ∈ records, DecodedBy template.fields rec) {sink : Sink}
    (held : sink.store.templates.get? key = some template) (start : holds sink) :
    holds (appendAll isOptions sink records) := by
  induction records generalizing sink with
  | nil => exact start
  | cons rec records inductionHypothesis =>
    obtain ⟨first, rest⟩ := List.forall_mem_cons.mp decoded
    have sameStore : (sink.append isOptions rec).store = sink.store := by cases isOptions <;> rfl
    exact inductionHypothesis rest (by rw [sameStore]; exact held)
      (invariant.append _ _ _ _ _ held first start)

/-- A data set, with the template held for its ID or without. -/
theorem applyData (invariant : SinkInvariant holds) (ipfix : Bool) (key : TemplateKey) (content : Bytes) {sink : Sink}
    (start : holds sink) : holds (applyData ipfix content (sink.get key).1 (sink.get key).2) := by
  have got := invariant.get sink key start
  cases held : sink.store.templates.get? key with
  | none =>
    have answer : (sink.get key).1.1 = none := by simp [Sink.get, TemplateStore.get, held]
    simp only [Netflume.applyData, answer]
    exact invariant.deferred _ got
  | some template =>
    have answer : (sink.get key).1.1 = some template.fields := by simp [Sink.get, TemplateStore.get, held]
    have stillHeld : (sink.get key).2.store.templates.get? key = some template := by
      simp [Sink.get, TemplateStore.get, held]
    simp only [Netflume.applyData, answer]
    cases fields : template.fields with
    | nil => exact invariant.deferred _ got
    | cons field rest =>
      have appended := invariant.appendAll (sink.get key).1.2 (wireRecords_decodedBy ipfix template.fields content)
        stillHeld got
      rw [fields] at appended
      exact appended

/-- An invariant is a simulation that ignores one of its sides. -/
theorem simulation (invariant : SinkInvariant holds) (exporter : Exporter) (domain : Nat) :
    SinkSimulation exporter domain fun _ sink => holds sink where
  put := fun start id fields options named => invariant.put _ ⟨exporter, domain, id⟩ fields options named start
  data := fun start ipfix id content => invariant.applyData ipfix ⟨exporter, domain, id⟩ content start
  markTruncated := fun start => invariant.markTruncated _ start
  close := fun start => invariant.close _ start

theorem applyMessage (invariant : SinkInvariant holds) (data : Bytes) (exporter : Exporter) {sink : Sink}
    (start : holds sink) : holds (applyMessage data exporter sink).2 := by
  cases read : messageHeader data exporter with
  | none =>
    rw [applyMessage_headerless read]
    exact start
  | some header => exact (invariant.simulation exporter header.domain).kept read start

end SinkInvariant

/-- A parse does not count missed exports. -/
theorem applyMessage_missed (data : Bytes) (exporter : Exporter) (sink : Sink) :
    (applyMessage data exporter sink).2.stats.missedExports = sink.stats.missedExports := by
  have invariant : SinkInvariant fun after => after.stats.missedExports = sink.stats.missedExports := {
    put := by
      intro after key fields options _ same
      simp only [Sink.put]
      split <;> exact same
    get := fun _ _ same => same
    append := by
      intro after isOptions _ _ rec _ _ same
      cases isOptions <;> exact same
    deferred := fun _ same => same
    markTruncated := fun _ same => same
    close := by
      intro after same
      rw [Sink.close]
      split <;> exact same }
  exact invariant.applyMessage data exporter rfl

end Netflume
