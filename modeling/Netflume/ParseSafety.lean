import Netflume.ParseRefinement

/-! # The parsing layer is safe

Every record consumes at least one byte of its own set, and the sets of a message
do not overlap, so that a datagram never yields more records than it has bytes. -/

namespace Netflume

open Library

theorem wireRecords_length_le (ipfix : Bool) (fields : List Field) (bytes : Bytes) :
    (wireRecords ipfix fields bytes).length ≤ bytes.length := by
  fun_induction wireRecords ipfix fields bytes with
  | case1 | case2 => simp
  | case3 bytes long rec rest read shorter inductionHypothesis =>
    rw [List.length_cons]
    omega
  | case4 => simp

theorem wireSets_content_le (bytes : Bytes) :
    ((wireSets bytes).map fun set => set.content.length).sum ≤ bytes.length := by
  fun_induction wireSets bytes with
  | case1 | case2 => simp
  | case3 bytes long declared inductionHypothesis =>
    rw [List.map_cons, List.sum_cons]
    simp only [List.length_drop, List.length_take] at inductionHypothesis ⊢
    omega

/-! ## What a message can add -/

/-- A measure of sinks that grows by no more than the content of each set. -/
structure SinkMeasure (measure : Sink → Nat) : Prop where
  set : ∀ exporter domain ipfix sink set,
    measure (applySet exporter domain ipfix sink set) ≤ measure sink + set.content.length
  markTruncated : ∀ sink, measure sink.markTruncated = measure sink
  close : ∀ sink, measure sink.close = measure sink

namespace SinkMeasure

variable {measure : Sink → Nat}

theorem applySets_le (grows : SinkMeasure measure) (exporter : Exporter) (domain : Nat) (ipfix : Bool)
    (sets : List RawSet) (sink : Sink) :
    measure (sets.foldl (applySet exporter domain ipfix) sink) ≤
      measure sink + (sets.map fun set => set.content.length).sum := by
  induction sets generalizing sink with
  | nil => exact Nat.le_add_right _ _
  | cons set sets inductionHypothesis =>
    have step := grows.set exporter domain ipfix sink set
    have rest := inductionHypothesis (applySet exporter domain ipfix sink set)
    rw [List.map_cons, List.sum_cons, List.foldl_cons]
    omega

theorem finishMessage_le (grows : SinkMeasure measure) (header : Header) (ipfix : Bool) (body : Bytes) (sink : Sink) :
    measure (finishMessage header ipfix body sink).2 ≤ measure sink + body.length := by
  change measure (applyBody header.exporter header.domain ipfix sink body).close ≤ _
  have folded := grows.applySets_le header.exporter header.domain ipfix (wireSets body) sink
  have bounded := wireSets_content_le body
  rw [grows.close, applyBody]
  omega

/-- The sets of a message do not overlap, so a message adds no more than its length. -/
theorem applyMessage_le (grows : SinkMeasure measure) (data : Bytes) (exporter : Exporter) (sink : Sink) :
    measure (applyMessage data exporter sink).2 ≤ measure sink + data.length := by
  rw [applyMessage]
  split
  · exact Nat.le_add_right _ _
  · split
    · split
      · exact Nat.le_add_right _ _
      · have marked : measure (if num data 2 2 > data.length then sink.markTruncated else sink) = measure sink := by
          split
          · exact grows.markTruncated sink
          · rfl
        have bound := grows.finishMessage_le (ipfixHeader data exporter) true
          (slice data ipfixHeaderSize (ipfixEnd data))
          (if num data 2 2 > data.length then sink.markTruncated else sink)
        have inside := ipfixEnd_le data
        rw [marked, length_slice _ inside] at bound
        omega
    · split
      · exact Nat.le_add_right _ _
      · have bound := grows.finishMessage_le (v9Header data exporter) false (slice data v9HeaderSize data.length) sink
        rw [length_slice _ (Nat.le_refl _)] at bound
        omega

end SinkMeasure

/-- The records a parse has handed out so far. -/
def Sink.yielded (sink : Sink) : Nat := sink.records.length + sink.options.length

@[simp] theorem Sink.yielded_get (sink : Sink) (key : TemplateKey) : (sink.get key).2.yielded = sink.yielded := rfl

@[simp] theorem Sink.yielded_deferred (sink : Sink) : sink.deferred.yielded = sink.yielded := rfl

@[simp] theorem Sink.yielded_close (sink : Sink) : sink.close.yielded = sink.yielded := by
  rw [close]
  split <;> rfl

@[simp] theorem Sink.yielded_append (sink : Sink) (isOptions : Bool) (rec : Rec) :
    (sink.append isOptions rec).yielded = sink.yielded + 1 := by
  cases isOptions with
  | true => simp [append, yielded, Nat.add_assoc]
  | false => simp [append, yielded, Nat.add_right_comm]

@[simp] theorem putAll_yielded (exporter : Exporter) (domain : Nat) (options : Bool) (sink : Sink)
    (templates : List (Nat × List Field)) :
    (putAll exporter domain options sink templates).yielded = sink.yielded := by
  induction templates generalizing sink with
  | nil => rfl
  | cons template templates inductionHypothesis => exact inductionHypothesis _

@[simp] theorem appendAll_yielded (isOptions : Bool) (sink : Sink) (records : List Rec) :
    (appendAll isOptions sink records).yielded = sink.yielded + records.length := by
  induction records generalizing sink with
  | nil => rfl
  | cons rec records inductionHypothesis =>
    have rest := inductionHypothesis (sink.append isOptions rec)
    rw [Sink.yielded_append] at rest
    rw [List.length_cons, Nat.add_comm records.length, ← Nat.add_assoc]
    exact rest

section Message

variable (exporter : Exporter) (domain : Nat) (ipfix : Bool)

/-- Each record of a data set takes a byte of its content; no other set yields any. -/
theorem applySet_yielded_le (sink : Sink) (set : RawSet) :
    (applySet exporter domain ipfix sink set).yielded ≤ sink.yielded + set.content.length := by
  have marked : (if set.cut then sink.markTruncated else sink).yielded = sink.yielded := by
    split <;> rfl
  unfold applySet applyContent applyData
  split
  · simp [marked]
  · split
    · simp [marked]
    · split
      · simp only
        split
        · simp [marked]
        · simp [marked]
        · rw [appendAll_yielded, Sink.yielded_get, marked]
          exact Nat.add_le_add_left (wireRecords_length_le _ _ _) _
      · simp [marked]

end Message

theorem sinkMeasure_yielded : SinkMeasure Sink.yielded where
  set := applySet_yielded_le
  markTruncated := fun _ => rfl
  close := Sink.yielded_close

theorem applyMessage_records_le (data : Bytes) (exporter : Exporter) (store : TemplateStore) (stats : Stats) :
    (applyMessage data exporter { store, stats }).1.records.length +
      (applyMessage data exporter { store, stats }).1.options.length ≤ data.length := by
  have bound := sinkMeasure_yielded.applyMessage_le data exporter { store, stats }
  have nothing : Sink.yielded { store, stats } = 0 := rfl
  obtain ⟨records, options⟩ := applyMessage_lists data exporter store stats
  rw [records, options]
  rw [nothing, Nat.zero_add] at bound
  exact bound

theorem wireV5_length_le (count : Nat) (bytes : Bytes) : (wireV5 count bytes).length ≤ bytes.length := by
  induction count generalizing bytes with
  | zero => simp [wireV5]
  | succ count inductionHypothesis =>
    rw [wireV5]
    by_cases partialRecord : bytes.length < v5RecordSize
    · simp [partialRecord]
    · have positive : 0 < v5RecordSize := by decide
      have rest := inductionHypothesis (bytes.drop v5RecordSize)
      rw [List.length_drop] at rest
      rw [if_neg partialRecord, List.length_cons]
      omega

theorem v5Options_length_le (sampling : Nat) : (v5Options sampling).length ≤ 1 := by
  rw [v5Options]
  split <;> simp

theorem applyV5_records_le (data : Bytes) (exporter : Exporter) (stats : Stats) :
    (applyV5 data exporter stats).1.records.length + (applyV5 data exporter stats).1.options.length ≤
      data.length := by
  rw [applyV5]
  split
  · simp
  · have records := wireV5_length_le (num data 2 2) (slice data v5HeaderSize data.length)
    have options := v5Options_length_le (num data 22 2)
    rw [length_slice _ (Nat.le_refl _)] at records
    simp only [v5HeaderSize] at *
    omega

/-- A parse that returns, with all its reads granted and no more records than bytes. -/
def ParseRun.Safe (data : Bytes) (allowed : Read → Prop) (run : ParseRun) : Prop :=
  (∀ read ∈ run.reads, allowed read) ∧
    ∃ parsed, run.outcome = .ok parsed ∧ parsed.records.length + parsed.options.length ≤ data.length

/-- Neither parser raises or runs on, and neither reads outside its bounds, whatever the store holds. -/
theorem parsing_safe (data : Bytes) (exporter : Exporter) (store : TemplateStore) (stats : Stats) :
    (runV5 data exporter store stats).Safe data (Between 0 data.length) ∧
      (runV9OrIpfix data exporter store stats).Safe data (MessageRead data) := by
  constructor
  · obtain ⟨reads, granted, run⟩ := runV5_spec data exporter store stats
    rw [run]
    exact ⟨granted, _, rfl, applyV5_records_le data exporter stats⟩
  · obtain ⟨reads, granted, run⟩ := runV9OrIpfix_spec data exporter store stats
    rw [run]
    exact ⟨granted, _, rfl, applyMessage_records_le data exporter store stats⟩

end Netflume
