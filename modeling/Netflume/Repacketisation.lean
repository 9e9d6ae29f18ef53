import Netflume.Framing

/-! # Repacketisation

What a set does depends on the sink through its store alone: a parse that resumes
another one's store appends to that one's output what it would produce from
scratch.  Splitting a message between two sets therefore changes nothing. -/

namespace Netflume

open Library

/-- The output of `done`, continued by that of `later`, over the store and counters `later` leaves. -/
def Sink.resume (done later : Sink) : Sink where
  store := later.store
  stats := later.stats
  calls := done.calls ++ later.calls
  records := done.records ++ later.records
  options := done.options ++ later.options
  truncated := done.truncated || later.truncated

/-- A parse of its own, over the store and counters `sink` leaves. -/
def Sink.restart (sink : Sink) : Sink := { store := sink.store, stats := sink.stats }

theorem Sink.resume_restart (sink : Sink) : sink.resume sink.restart = sink := by
  simp [resume, restart]

namespace Sink

variable (done later : Sink)

theorem resume_put (key : TemplateKey) (fields : List Field) (options : Bool) :
    (done.resume later).put key fields options = done.resume (later.put key fields options) := by
  simp only [resume, put, List.append_assoc]
  rfl

theorem resume_get (key : TemplateKey) :
    (done.resume later).get key = ((later.get key).1, done.resume (later.get key).2) := by
  simp [resume, get]

theorem resume_deferred : (done.resume later).deferred = done.resume later.deferred := rfl

theorem resume_markTruncated : (done.resume later).markTruncated = done.resume later.markTruncated := by
  simp [resume, markTruncated]

theorem resume_append (isOptions : Bool) (rec : Rec) :
    (done.resume later).append isOptions rec = done.resume (later.append isOptions rec) := by
  cases isOptions with
  | true => simp [resume, append]
  | false => simp [resume, append]

end Sink

section Resume

variable (exporter : Exporter) (domain : Nat) (ipfix : Bool) (done : Sink)

theorem putAll_resume (options : Bool) (templates : List (Nat × List Field)) (later : Sink) :
    putAll exporter domain options (done.resume later) templates =
      done.resume (putAll exporter domain options later templates) := by
  induction templates generalizing later with
  | nil => rfl
  | cons template templates inductionHypothesis =>
    simp only [putAll, List.foldl_cons, Sink.resume_put]
    exact inductionHypothesis _

theorem appendAll_resume (isOptions : Bool) (records : List Rec) (later : Sink) :
    appendAll isOptions (done.resume later) records = done.resume (appendAll isOptions later records) := by
  induction records generalizing later with
  | nil => rfl
  | cons rec records inductionHypothesis =>
    simp only [appendAll, List.foldl_cons, Sink.resume_append]
    exact inductionHypothesis _

theorem applyData_resume (content : Bytes) (held : Option (List Field) × Bool) (later : Sink) :
    applyData ipfix content held (done.resume later) = done.resume (applyData ipfix content held later) := by
  unfold applyData
  split
  · exact done.resume_deferred later
  · exact done.resume_deferred later
  · exact appendAll_resume done held.2 _ later

/-- The one read of the sink is a `get`, which answers from the store alone. -/
theorem applyContent_resume (setId : Nat) (content : Bytes) (later : Sink) :
    applyContent exporter domain ipfix setId content (done.resume later) =
      done.resume (applyContent exporter domain ipfix setId content later) := by
  unfold applyContent
  split
  · exact putAll_resume exporter domain done false _ later
  · split
    · exact putAll_resume exporter domain done true _ later
    · split
      · simp only [Sink.resume_get]
        exact applyData_resume ipfix done content _ _
      · rfl

theorem applySet_resume (set : RawSet) (later : Sink) :
    applySet exporter domain ipfix (done.resume later) set =
      done.resume (applySet exporter domain ipfix later set) := by
  unfold applySet
  split
  · rw [Sink.resume_markTruncated]
    exact applyContent_resume exporter domain ipfix done set.id set.content _
  · exact applyContent_resume exporter domain ipfix done set.id set.content later

theorem applySets_resume (sets : List RawSet) (later : Sink) :
    sets.foldl (applySet exporter domain ipfix) (done.resume later) =
      done.resume (sets.foldl (applySet exporter domain ipfix) later) := by
  induction sets generalizing later with
  | nil => rfl
  | cons set sets inductionHypothesis =>
    rw [List.foldl_cons, List.foldl_cons, applySet_resume]
    exact inductionHypothesis _

/-- Sets applied after others, against those applied to the store the others leave. -/
theorem applySets_append (front back : List RawSet) (sink : Sink) :
    (front ++ back).foldl (applySet exporter domain ipfix) sink =
      let first := front.foldl (applySet exporter domain ipfix) sink
      first.resume (back.foldl (applySet exporter domain ipfix) first.restart) := by
  rw [List.foldl_append, ← applySets_resume, Sink.resume_restart]

end Resume

/-! ## What counts a truncation -/

/-- The truncations counted, and whether this message is one to count. -/
def Sink.marks (sink : Sink) : Nat × Bool := (sink.stats.truncated, sink.truncated)

@[simp] theorem Sink.marks_append (sink : Sink) (isOptions : Bool) (rec : Rec) :
    (sink.append isOptions rec).marks = sink.marks := by cases isOptions <;> rfl

theorem Sink.marks_put (sink : Sink) (key : TemplateKey) (fields : List Field) (options : Bool) :
    (sink.put key fields options).marks = sink.marks := by
  simp only [put, marks]
  split <;> rfl

@[simp] theorem putAll_marks (exporter : Exporter) (domain : Nat) (options : Bool) (sink : Sink)
    (templates : List (Nat × List Field)) :
    (putAll exporter domain options sink templates).marks = sink.marks := by
  induction templates generalizing sink with
  | nil => rfl
  | cons template templates inductionHypothesis => exact (inductionHypothesis _).trans (sink.marks_put _ _ _)

@[simp] theorem appendAll_marks (isOptions : Bool) (sink : Sink) (records : List Rec) :
    (appendAll isOptions sink records).marks = sink.marks := by
  induction records generalizing sink with
  | nil => rfl
  | cons rec records inductionHypothesis =>
    exact (inductionHypothesis _).trans (sink.marks_append isOptions rec)

/-- The content of a set neither counts nor marks truncation. -/
theorem applyContent_marks (exporter : Exporter) (domain : Nat) (ipfix : Bool) (setId : Nat) (content : Bytes)
    (sink : Sink) : (applyContent exporter domain ipfix setId content sink).marks = sink.marks := by
  unfold applyContent applyData
  split
  · simp
  · split
    · simp
    · split
      · simp only
        split
        · rfl
        · rfl
        · exact appendAll_marks _ _ _
      · rfl

/-- Sets mark the message when one of them is cut. -/
theorem applySets_marks (exporter : Exporter) (domain : Nat) (ipfix : Bool) (sets : List RawSet) (sink : Sink) :
    (sets.foldl (applySet exporter domain ipfix) sink).marks =
      (sink.stats.truncated, sink.truncated || sets.any RawSet.cut) := by
  induction sets generalizing sink with
  | nil => simp [Sink.marks]
  | cons set sets inductionHypothesis =>
    have first : (applySet exporter domain ipfix sink set).marks = (sink.stats.truncated, sink.truncated || set.cut) := by
      rw [applySet, applyContent_marks]
      cases set.cut with
      | true => simp [Sink.marks, Sink.markTruncated]
      | false => simp [Sink.marks]
    have counted : (applySet exporter domain ipfix sink set).stats.truncated = sink.stats.truncated :=
      congrArg Prod.fst first
    have marked : (applySet exporter domain ipfix sink set).truncated = (sink.truncated || set.cut) :=
      congrArg Prod.snd first
    rw [List.foldl_cons, inductionHypothesis, counted, marked, List.any_cons, Bool.or_assoc]

theorem any_cut_framed (sets : List FramedSet) : (sets.map FramedSet.raw).any RawSet.cut = false := by
  simp [FramedSet.raw]

theorem framed_truncated (exporter : Exporter) (domain : Nat) (ipfix : Bool) (sets : List FramedSet) (sink : Sink) :
    ((sets.map FramedSet.raw).foldl (applySet exporter domain ipfix) sink).truncated = sink.truncated := by
  have marks := congrArg Prod.snd (applySets_marks exporter domain ipfix (sets.map FramedSet.raw) sink)
  rw [any_cut_framed, Bool.or_false] at marks
  exact marks

/-! ## Messages -/

/-- The version and domain of a header: what the processing of the sets behind it depends on. -/
def ExportHeader.stream (header : ExportHeader) : Bool × Nat := (header.isIpfix, header.domain)

/-- The sink a message of framed sets leaves behind, over a store and counters. -/
def framedSink (header : ExportHeader) (exporter : Exporter) (sets : List FramedSet) (store : TemplateStore)
    (stats : Stats) : Sink :=
  (sets.map FramedSet.raw).foldl (applySet exporter header.domain header.isIpfix) { store, stats }

theorem runV9OrIpfix_framed (header : ExportHeader) (exporter : Exporter) (sets : List FramedSet)
    (store : TemplateStore) (stats : Stats) (fits : header.Fits (bodyBytes sets)) :
    ∃ reads, runV9OrIpfix (header.message (bodyBytes sets)) exporter store stats =
      let after := framedSink header exporter sets store stats
      ⟨.ok ⟨some (header.parsed exporter), after.records, after.options⟩, after.store, after.stats, after.calls,
        reads⟩ := by
  obtain ⟨reads, _, run⟩ := runV9OrIpfix_spec (header.message (bodyBytes sets)) exporter store stats
  have closed : (framedSink header exporter sets store stats).close = framedSink header exporter sets store stats := by
    rw [Sink.close, if_neg]
    simp [framedSink, framed_truncated]
  refine ⟨reads, ?_⟩
  rw [run, header.applyMessage_message fits, finishMessage_framed]
  simp only [ExportHeader.parsed_exporter, ExportHeader.parsed_domain]
  unfold framedSink at closed ⊢
  rw [closed]

/-- One message of two runs of sets, against a message of the first and then one of the second. -/
theorem repacketisation (whole first second : ExportHeader) (exporter : Exporter) (store : TemplateStore)
    (stats : Stats) (front back : List FramedSet)
    (wholeFits : whole.Fits (bodyBytes front ++ bodyBytes back))
    (sameFirst : first.stream = whole.stream) (sameSecond : second.stream = whole.stream) :
    let together := runV9OrIpfix (whole.message (bodyBytes front ++ bodyBytes back)) exporter store stats
    let one := runV9OrIpfix (first.message (bodyBytes front)) exporter store stats
    let other := runV9OrIpfix (second.message (bodyBytes back)) exporter one.store one.stats
    ∃ all early late, together.outcome = .ok all ∧ one.outcome = .ok early ∧ other.outcome = .ok late ∧
      all.records = early.records ++ late.records ∧ all.options = early.options ++ late.options ∧
      together.store = other.store ∧ together.stats = other.stats ∧ together.calls = one.calls ++ other.calls := by
  simp only [ExportHeader.stream, Prod.mk.injEq] at sameFirst sameSecond
  have firstFits : first.Fits (bodyBytes front) := fun isIpfix => by
    have bound := wholeFits (sameFirst.1 ▸ isIpfix)
    rw [List.length_append] at bound
    omega
  have secondFits : second.Fits (bodyBytes back) := fun isIpfix => by
    have bound := wholeFits (sameSecond.1 ▸ isIpfix)
    rw [List.length_append] at bound
    omega
  rw [← bodyBytes_append] at wholeFits ⊢
  obtain ⟨_, together⟩ := runV9OrIpfix_framed whole exporter (front ++ back) store stats wholeFits
  obtain ⟨_, one⟩ := runV9OrIpfix_framed first exporter front store stats firstFits
  have split : framedSink whole exporter (front ++ back) store stats =
      (framedSink first exporter front store stats).resume
        (framedSink second exporter back (framedSink first exporter front store stats).store
          (framedSink first exporter front store stats).stats) := by
    simp only [framedSink, List.map_append, sameFirst, sameSecond]
    exact applySets_append exporter whole.domain whole.isIpfix _ _ _
  simp only [together, one, split]
  obtain ⟨_, other⟩ := runV9OrIpfix_framed second exporter back (framedSink first exporter front store stats).store
    (framedSink first exporter front store stats).stats secondFits
  simp only [other]
  exact ⟨_, _, _, rfl, rfl, rfl, rfl, rfl, rfl, rfl, rfl⟩

theorem repacketisation_of_ports :
    let store := TemplateStore.new 10 10
    let together := runV9OrIpfix ((ExportHeader.ipfix 0 4 7).message
      (bodyBytes [portTemplateSet] ++ bodyBytes [portDataSet])) (.str "a") store {}
    let one := runV9OrIpfix ((ExportHeader.ipfix 0 4 7).message (bodyBytes [portTemplateSet])) (.str "a") store {}
    let other := runV9OrIpfix ((ExportHeader.ipfix 0 4 7).message (bodyBytes [portDataSet])) (.str "a")
      one.store one.stats
    ∃ all early late, together.outcome = .ok all ∧ one.outcome = .ok early ∧ other.outcome = .ok late ∧
      all.records = early.records ++ late.records ∧ all.options = early.options ++ late.options ∧
      together.store = other.store ∧ together.stats = other.stats ∧ together.calls = one.calls ++ other.calls :=
  repacketisation (.ipfix 0 4 7) (.ipfix 0 4 7) (.ipfix 0 4 7) (.str "a") (.new 10 10) {} [portTemplateSet]
    [portDataSet] (by decide) rfl rfl

end Netflume
