import Netflume.ParseRefinement

/-! # Two parses side by side

A relation between two sinks that a template and a data set preserve is preserved
by a whole message.  With it two parses of the same bytes are compared, over
stores that differ in what the message does not read.  The fields of every
template a message files were named by the element table. -/

namespace Netflume

open Library

/-! ## What template sets file -/

/-- The field was read from the wire. -/
def Field.IsNamed (field : Field) : Prop := ∃ element enterprise length, field = .named element enterprise length

theorem wireSpec_named {ipfix : Bool} {bytes rest : Bytes} {field : Field}
    (read : wireSpec ipfix bytes = some (field, rest)) : field.IsNamed := by
  rw [wireSpec] at read
  split at read
  · cases read
  · split at read
    · split at read
      · cases read
      · cases read
        exact ⟨_, _, _, rfl⟩
    · cases read
      exact ⟨_, _, _, rfl⟩

theorem wireSpecs_named {ipfix : Bool} {count : Nat} {bytes rest : Bytes} {fields : List Field}
    (read : wireSpecs ipfix count bytes = some (fields, rest)) : ∀ field ∈ fields, field.IsNamed := by
  induction count generalizing bytes fields with
  | zero =>
    cases read
    simp
  | succ count inductionHypothesis =>
    simp only [wireSpecs] at read
    cases spec : wireSpec ipfix bytes with
    | none => simp [spec] at read
    | some head =>
      simp only [spec, Option.map_eq_some_iff, Prod.exists, Prod.mk.injEq] at read
      obtain ⟨tail, last, tailRead, rfl, rfl⟩ := read
      intro field member
      rcases List.mem_cons.mp member with rfl | later
      · exact wireSpec_named spec
      · exact inductionHypothesis tailRead field later

/-- Templates whose fields were all read from the wire. -/
def AllNamed (templates : List (Nat × List Field)) : Prop :=
  ∀ template ∈ templates, ∀ field ∈ template.2, field.IsNamed

theorem AllNamed.cons {template : Nat × List Field} {templates : List (Nat × List Field)}
    (first : ∀ field ∈ template.2, field.IsNamed) (rest : AllNamed templates) : AllNamed (template :: templates) :=
  List.forall_mem_cons.mpr ⟨first, rest⟩

theorem allNamed_nil : AllNamed [] := by
  intro template member
  cases member

theorem wireTemplates_named (ipfix : Bool) (bytes : Bytes) : AllNamed (wireTemplates ipfix bytes) := by
  fun_induction wireTemplates ipfix bytes with
  | case1 | case3 => exact allNamed_nil
  | case2 bytes long empty inductionHypothesis => exact inductionHypothesis
  | case4 bytes long filled fields rest read inductionHypothesis =>
    exact .cons (wireSpecs_named read) inductionHypothesis

theorem wireOptionsIpfix_named (bytes : Bytes) : AllNamed (wireOptionsIpfix bytes) := by
  fun_induction wireOptionsIpfix bytes with
  | case1 | case2 | case3 => exact allNamed_nil
  | case4 bytes long filled fields rest read inductionHypothesis =>
    exact .cons (wireSpecs_named read) inductionHypothesis

theorem wireOptionsV9_named (bytes : Bytes) : AllNamed (wireOptionsV9 bytes) := by
  fun_induction wireOptionsV9 bytes with
  | case1 | case2 | case4 | case5 => exact allNamed_nil
  | case3 => assumption
  | case6 bytes long scopeLen optLen rest whole aligned field fields last read inductionHypothesis =>
    exact .cons (wireSpecs_named read) inductionHypothesis

theorem wireOptions_named (ipfix : Bool) (bytes : Bytes) : AllNamed (wireOptions ipfix bytes) := by
  cases ipfix with
  | true => exact wireOptionsIpfix_named bytes
  | false => exact wireOptionsV9_named bytes

/-! ## The rule -/

/-- A relation kept by whatever a message of one exporter and domain does to two sinks. -/
structure SinkSimulation (exporter : Exporter) (domain : Nat) (related : Sink → Sink → Prop) : Prop where
  put : ∀ {first second}, related first second → ∀ id fields options, (∀ field ∈ fields, field.IsNamed) →
    related (first.put ⟨exporter, domain, id⟩ fields options) (second.put ⟨exporter, domain, id⟩ fields options)
  data : ∀ {first second}, related first second → ∀ ipfix id content,
    related (applyData ipfix content (first.get ⟨exporter, domain, id⟩).1 (first.get ⟨exporter, domain, id⟩).2)
      (applyData ipfix content (second.get ⟨exporter, domain, id⟩).1 (second.get ⟨exporter, domain, id⟩).2)
  markTruncated : ∀ {first second}, related first second → related first.markTruncated second.markTruncated
  close : ∀ {first second}, related first second → related first.close second.close

section Data

variable {related : Sink → Sink → Prop} {first second : Sink}

theorem appendAll_related
    (append : ∀ {first second}, related first second → ∀ isOptions rec,
      related (first.append isOptions rec) (second.append isOptions rec))
    (isOptions : Bool) (records : List Rec) (start : related first second) :
    related (appendAll isOptions first records) (appendAll isOptions second records) := by
  induction records generalizing first second with
  | nil => exact start
  | cons rec records inductionHypothesis => exact inductionHypothesis (append start isOptions rec)

/-- Two data sets read by the same template, from two related sinks. -/
theorem applyData_related
    (append : ∀ {first second}, related first second → ∀ isOptions rec,
      related (first.append isOptions rec) (second.append isOptions rec))
    (deferred : ∀ {first second}, related first second → related first.deferred second.deferred)
    (ipfix : Bool) (content : Bytes) (held : Option (List Field) × Bool) (start : related first second) :
    related (applyData ipfix content held first) (applyData ipfix content held second) := by
  unfold applyData
  split
  · exact deferred start
  · exact deferred start
  · exact appendAll_related append _ _ start

end Data

/-- A data set leaves the store it was looked up in. -/
theorem applyData_store (ipfix : Bool) (content : Bytes) (held : Option (List Field) × Bool) (sink : Sink) :
    (applyData ipfix content held sink).store = sink.store :=
  @applyData_related (fun after _ => after.store = sink.store) sink sink
    (fun same isOptions rec => by cases isOptions <;> exact same) (fun same => same) ipfix content held rfl

namespace SinkSimulation

variable {exporter : Exporter} {domain : Nat} {related : Sink → Sink → Prop} {first second : Sink}

theorem putAll (simulation : SinkSimulation exporter domain related) (options : Bool)
    {templates : List (Nat × List Field)} (named : AllNamed templates) (start : related first second) :
    related (putAll exporter domain options first templates) (putAll exporter domain options second templates) := by
  induction templates generalizing first second with
  | nil => exact start
  | cons template templates inductionHypothesis =>
    obtain ⟨first, rest⟩ := List.forall_mem_cons.mp named
    exact inductionHypothesis rest (simulation.put start _ _ _ first)

theorem applySet (simulation : SinkSimulation exporter domain related) (ipfix : Bool) (set : RawSet)
    (start : related first second) :
    related (applySet exporter domain ipfix first set) (applySet exporter domain ipfix second set) := by
  have marked : related (if set.cut then first.markTruncated else first)
      (if set.cut then second.markTruncated else second) := by
    split
    · exact simulation.markTruncated start
    · exact start
  unfold Netflume.applySet applyContent
  split
  · exact simulation.putAll false (wireTemplates_named ipfix set.content) marked
  · split
    · exact simulation.putAll true (wireOptions_named ipfix set.content) marked
    · split
      · exact simulation.data marked ipfix set.id set.content
      · exact marked

theorem applyBody (simulation : SinkSimulation exporter domain related) (ipfix : Bool) (body : Bytes)
    (start : related first second) :
    related (applyBody exporter domain ipfix first body) (applyBody exporter domain ipfix second body) := by
  unfold Netflume.applyBody
  induction wireSets body generalizing first second with
  | nil => exact start
  | cons set sets inductionHypothesis => exact inductionHypothesis (simulation.applySet ipfix set start)

end SinkSimulation

/-! ## Whole messages -/

/-- The header of a v9 or IPFIX datagram that is long enough to have one. -/
def messageHeader (data : Bytes) (exporter : Exporter) : Option Header :=
  if data.length < 2 then none
  else if num data 0 2 = 10 then if data.length < ipfixHeaderSize then none else some (ipfixHeader data exporter)
  else if data.length < v9HeaderSize then none else some (v9Header data exporter)

/-- A datagram with no header does nothing. -/
theorem applyMessage_headerless {data : Bytes} {exporter : Exporter} (headerless : messageHeader data exporter = none)
    (sink : Sink) : applyMessage data exporter sink = (⟨none, [], []⟩, sink) := by
  rw [messageHeader] at headerless
  rw [applyMessage]
  split
  · rfl
  · rename_i long
    rw [if_neg long] at headerless
    split <;> split <;> simp_all

/-- What a message returns: its header, and the lists its sink collected. -/
theorem applyMessage_parsed {data : Bytes} {exporter : Exporter} {header : Header}
    (read : messageHeader data exporter = some header) (sink : Sink) :
    (applyMessage data exporter sink).1 =
      ⟨some header, (applyMessage data exporter sink).2.records, (applyMessage data exporter sink).2.options⟩ := by
  rw [messageHeader] at read
  unfold applyMessage finishMessage
  split
  · rename_i short
    rw [if_pos short] at read
    cases read
  · rename_i long
    rw [if_neg long] at read
    split <;> split <;> simp_all

theorem SinkSimulation.applyMessage {data : Bytes} {exporter : Exporter} {header : Header}
    (read : messageHeader data exporter = some header) {related : Sink → Sink → Prop}
    (simulation : SinkSimulation exporter header.domain related) {first second : Sink} (start : related first second) :
    related (applyMessage data exporter first).2 (applyMessage data exporter second).2 := by
  rw [messageHeader] at read
  unfold Netflume.applyMessage finishMessage
  split
  · exact start
  · rename_i long
    rw [if_neg long] at read
    split
    · rename_i ipfix
      rw [if_pos ipfix] at read
      split
      · exact start
      · rename_i whole
        rw [if_neg whole] at read
        cases read
        apply simulation.close
        apply simulation.applyBody
        split
        · exact simulation.markTruncated start
        · exact start
    · rename_i v9
      rw [if_neg v9] at read
      split
      · exact start
      · rename_i whole
        rw [if_neg whole] at read
        cases read
        exact simulation.close (simulation.applyBody false _ start)

/-- A property of one sink, as a relation that ignores the other. -/
theorem SinkSimulation.kept {data : Bytes} {exporter : Exporter} {header : Header}
    (read : messageHeader data exporter = some header) {holds : Sink → Prop}
    (simulation : SinkSimulation exporter header.domain fun _ sink => holds sink) {sink : Sink} (start : holds sink) :
    holds (Netflume.applyMessage data exporter sink).2 :=
  @SinkSimulation.applyMessage data exporter header read _ simulation sink sink start

/-! ## The counters -/

/-- Two sinks with the same store and output, whatever their counters. -/
structure Sink.Agrees (first second : Sink) : Prop where
  store : first.store = second.store
  records : first.records = second.records
  options : first.options = second.options

theorem Sink.Agrees.append {first second : Sink} (agrees : first.Agrees second) (isOptions : Bool) (rec : Rec) :
    (first.append isOptions rec).Agrees (second.append isOptions rec) := by
  obtain ⟨store, records, opts⟩ := agrees
  cases isOptions with
  | true => exact ⟨store, records, by simp only [Sink.append, if_true, opts]⟩
  | false => exact ⟨store, by simp only [Sink.append, Bool.false_eq_true, if_false, records], opts⟩

theorem sinkSimulation_agrees (exporter : Exporter) (domain : Nat) :
    SinkSimulation exporter domain Sink.Agrees where
  put := by
    rintro first second ⟨store, records, opts⟩ id fields options _
    exact ⟨by simp only [Sink.put, store], records, opts⟩
  data := by
    rintro first second ⟨store, records, opts⟩ ipfix id content
    have held : (first.get ⟨exporter, domain, id⟩).1 = (second.get ⟨exporter, domain, id⟩).1 := by
      simp only [Sink.get, store]
    have after : (first.get ⟨exporter, domain, id⟩).2.Agrees (second.get ⟨exporter, domain, id⟩).2 :=
      ⟨by simp only [Sink.get, store], records, opts⟩
    rw [held]
    exact applyData_related Sink.Agrees.append (fun agrees => ⟨agrees.store, agrees.records, agrees.options⟩)
      ipfix content _ after
  markTruncated := fun agrees => ⟨agrees.store, agrees.records, agrees.options⟩
  close := by
    rintro first second ⟨store, records, opts⟩
    unfold Sink.close
    split <;> split <;> exact ⟨store, records, opts⟩

/-- A parse does not depend on the counters. -/
theorem applyMessage_agrees (data : Bytes) (exporter : Exporter) {first second : Sink} (agrees : first.Agrees second) :
    (applyMessage data exporter first).1 = (applyMessage data exporter second).1 ∧
      (applyMessage data exporter first).2.Agrees (applyMessage data exporter second).2 := by
  cases read : messageHeader data exporter with
  | none =>
    rw [applyMessage_headerless read, applyMessage_headerless read]
    exact ⟨rfl, agrees⟩
  | some header =>
    have after := (sinkSimulation_agrees exporter header.domain).applyMessage read agrees
    rw [applyMessage_parsed read, applyMessage_parsed read, after.records, after.options]
    exact ⟨rfl, after⟩

end Netflume
