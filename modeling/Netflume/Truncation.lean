import Netflume.Repacketisation

/-! # Truncated datagrams

A datagram cut short anywhere behind its header yields a beginning of what the
whole one yields.  Each layer of the wire format is monotone in the bytes it
reads, and only the last set of a cut message differs from the whole message's. -/

namespace Netflume

open Library

/-! ## Template sets -/

theorem wireTemplates_append (ipfix : Bool) (bytes more : Bytes) :
    wireTemplates ipfix bytes <+: wireTemplates ipfix (bytes ++ more) := by
  fun_induction wireTemplates ipfix bytes with
  | case1 => exact List.nil_prefix
  | case2 bytes long empty inductionHypothesis =>
    rw [wireTemplates_eq ipfix (bytes ++ more), if_neg (by rw [List.length_append]; omega),
      num_append more (by omega), if_pos empty, List.drop_append_of_le_length (by omega)]
    exact inductionHypothesis
  | case3 => exact List.nil_prefix
  | case4 bytes long filled fields rest read inductionHypothesis =>
    have readMore := wireSpecs_append read more
    rw [← List.drop_append_of_le_length (by omega)] at readMore
    rw [wireTemplates_eq ipfix (bytes ++ more), if_neg (by rw [List.length_append]; omega),
      num_append more (by omega), num_append more (by omega), if_neg filled, readMore]
    exact List.cons_prefix_cons.mpr ⟨rfl, inductionHypothesis⟩

theorem wireOptionsIpfix_append (bytes more : Bytes) :
    wireOptionsIpfix bytes <+: wireOptionsIpfix (bytes ++ more) := by
  fun_induction wireOptionsIpfix bytes with
  | case1 | case2 | case3 => exact List.nil_prefix
  | case4 bytes long filled fields rest read inductionHypothesis =>
    have readMore := wireSpecs_append read more
    rw [← List.drop_append_of_le_length (by omega)] at readMore
    rw [wireOptionsIpfix_eq (bytes ++ more), if_neg (by rw [List.length_append]; omega),
      num_append more (by omega), num_append more (by omega), if_neg filled, readMore]
    exact List.cons_prefix_cons.mpr ⟨rfl, inductionHypothesis⟩

/-- A template that fits in the cut set fits in the whole one, and ends at the same place. -/
theorem wireOptionsV9_append (bytes more : Bytes) : wireOptionsV9 bytes <+: wireOptionsV9 (bytes ++ more) := by
  induction size : bytes.length using Nat.strongRecOn generalizing bytes with
  | ind size inductionHypothesis =>
    subst size
    by_cases short : bytes.length < 6
    · rw [wireOptionsV9, if_pos short]
      exact List.nil_prefix
    · have alsoLong : ¬ (bytes ++ more).length < 6 := by
        rw [List.length_append]
        omega
      rw [wireOptionsV9.eq_def bytes, wireOptionsV9.eq_def (bytes ++ more), if_neg short, if_neg alsoLong,
        num_append more (by omega), num_append more (by omega), num_append more (by omega)]
      generalize num bytes 2 2 = scopeLen
      generalize num bytes 4 2 = optLen
      by_cases overrun : bytes.length < 6 + scopeLen + optLen
      · simp only [if_pos overrun]
        exact List.nil_prefix
      · have inside : ¬ (bytes ++ more).length < 6 + scopeLen + optLen := by
          rw [List.length_append]
          omega
        have rest := inductionHypothesis (bytes.drop (6 + scopeLen + optLen)).length
          (by rw [List.length_drop]; omega) _ rfl
        rw [← List.drop_append_of_le_length (by omega)] at rest
        simp only [if_neg overrun, if_neg inside]
        split
        · exact rest
        · cases read : wireSpecs false ((scopeLen + optLen) / 4) (bytes.drop 6) with
          | none => exact List.nil_prefix
          | some result =>
            obtain ⟨fields, behind⟩ := result
            have readMore := wireSpecs_append read more
            rw [← List.drop_append_of_le_length (by omega)] at readMore
            rw [readMore]
            cases fields with
            | nil => exact List.nil_prefix
            | cons field fields => exact List.cons_prefix_cons.mpr ⟨rfl, rest⟩

theorem wireOptions_append (ipfix : Bool) (bytes more : Bytes) :
    wireOptions ipfix bytes <+: wireOptions ipfix (bytes ++ more) := by
  cases ipfix with
  | true => exact wireOptionsIpfix_append bytes more
  | false => exact wireOptionsV9_append bytes more

/-! ## Data sets -/

theorem wireField_append {ipfix : Bool} {flen : Nat} {bytes raw rest : Bytes}
    (read : wireField ipfix flen bytes = some (raw, rest)) (more : Bytes) :
    wireField ipfix flen (bytes ++ more) = some (raw, rest ++ more) := by
  have length : (bytes ++ more).length = bytes.length + more.length := List.length_append
  unfold wireField at read ⊢
  split at read
  · rename_i varying
    rw [if_pos varying]
    split at read
    · cases read
    · rw [if_neg (by omega), num_append more (by omega)]
      split at read
      · rename_i long
        rw [if_pos long]
        split at read
        · cases read
        · rw [if_neg (by omega), num_append more (by omega)]
          split at read
          · cases read
          · cases read
            rw [if_neg (by omega), slice_append_left more (by omega), List.drop_append_of_le_length (by omega)]
      · rename_i short
        rw [if_neg short]
        split at read
        · cases read
        · cases read
          rw [if_neg (by omega), slice_append_left more (by omega), List.drop_append_of_le_length (by omega)]
  · rename_i fixed
    rw [if_neg fixed]
    split at read
    · cases read
    · cases read
      rw [if_neg (by omega), List.take_append_of_le_length (by omega), List.drop_append_of_le_length (by omega)]

theorem wireRecord_append {ipfix dedupe : Bool} {fields : List Field} {start rec : Rec} {bytes rest : Bytes}
    (read : wireRecord ipfix dedupe fields start bytes = some (rec, rest)) (more : Bytes) :
    wireRecord ipfix dedupe fields start (bytes ++ more) = some (rec, rest ++ more) := by
  induction fields generalizing start bytes with
  | nil =>
    cases read
    rfl
  | cons field fields inductionHypothesis =>
    simp only [wireRecord] at read ⊢
    cases fieldRead : wireField ipfix field.length bytes with
    | none => simp [fieldRead] at read
    | some result =>
      obtain ⟨raw, behind⟩ := result
      simp only [fieldRead] at read
      simp only [wireField_append fieldRead more]
      exact inductionHypothesis read

theorem wireRecords_append (ipfix : Bool) (fields : List Field) (bytes more : Bytes) :
    wireRecords ipfix fields bytes <+: wireRecords ipfix fields (bytes ++ more) := by
  fun_induction wireRecords ipfix fields bytes with
  | case1 | case2 | case4 => exact List.nil_prefix
  | case3 bytes long rec rest read shorter inductionHypothesis =>
    have length : ∀ some : Bytes, (some ++ more).length = some.length + more.length := fun _ => List.length_append
    rw [wireRecords.eq_def ipfix fields (bytes ++ more), if_neg (by rw [length]; omega), wireRecord_append read more]
    simp only [length, Nat.add_lt_add_iff_right, if_pos shorter]
    exact List.cons_prefix_cons.mpr ⟨rfl, inductionHypothesis⟩

/-! ## The sets of a cut message -/

/-- The sets read from a cut body, against those of the whole body. -/
inductive CutSets : List RawSet → List RawSet → Prop where
  | nil (sets : List RawSet) : CutSets [] sets
  | last {cut whole : RawSet} (sets : List RawSet) (sameId : cut.id = whole.id)
      (shorter : cut.content <+: whole.content) : CutSets [cut] (whole :: sets)
  | cons (set : RawSet) {cut whole : List RawSet} (rest : CutSets cut whole) : CutSets (set :: cut) (set :: whole)

/-- Only the set that runs past the cut changes, and it is the last one read. -/
theorem wireSets_cut (bytes more : Bytes) : CutSets (wireSets bytes) (wireSets (bytes ++ more)) := by
  fun_induction wireSets bytes with
  | case1 | case2 => exact .nil _
  | case3 bytes long declared inductionHypothesis =>
    have length : (bytes ++ more).length = bytes.length + more.length := List.length_append
    rw [wireSets.eq_def (bytes ++ more), num_append more (by omega), num_append more (by omega), if_neg (by omega),
      if_neg declared]
    by_cases overrun : bytes.length < num bytes 2 2
    · have nothing : wireSets (bytes.drop (num bytes 2 2)) = [] := by
        rw [List.drop_eq_nil_of_le (by omega), wireSets]
        rfl
      rw [nothing]
      refine .last _ rfl ?_
      have all := List.take_of_length_le (Nat.le_of_lt overrun)
      rw [all, List.take_append, all, List.drop_append_of_le_length (by omega)]
      exact List.prefix_append _ _
    · rw [List.take_append_of_le_length (by omega), List.drop_append_of_le_length (by omega),
        decide_eq_false overrun, decide_eq_false (by omega)]
      exact .cons _ inductionHypothesis

/-! ## What one sink yields of another -/

/-- What `early` has handed out and asked of the store is a beginning of what `late` has. -/
structure Sink.Extends (early late : Sink) : Prop where
  records : early.records <+: late.records
  options : early.options <+: late.options
  calls : early.calls <+: late.calls

namespace Sink

theorem Extends.refl (sink : Sink) : sink.Extends sink :=
  ⟨List.prefix_rfl, List.prefix_rfl, List.prefix_rfl⟩

theorem Extends.trans {first second third : Sink} (left : first.Extends second) (right : second.Extends third) :
    first.Extends third :=
  ⟨left.records.trans right.records, left.options.trans right.options, left.calls.trans right.calls⟩

/-- A sink's output is a beginning of that of any parse that resumes it. -/
theorem extends_resume (done later : Sink) : done.Extends (done.resume later) :=
  ⟨List.prefix_append _ _, List.prefix_append _ _, List.prefix_append _ _⟩

theorem extends_close {early late : Sink} (extended : early.Extends late) : early.close.Extends late.close := by
  have same : ∀ sink : Sink, sink.close.records = sink.records ∧ sink.close.options = sink.options ∧
      sink.close.calls = sink.calls := by
    intro sink
    rw [close]
    split <;> exact ⟨rfl, rfl, rfl⟩
  obtain ⟨earlyRecords, earlyOptions, earlyCalls⟩ := same early
  obtain ⟨lateRecords, lateOptions, lateCalls⟩ := same late
  constructor
  · rw [earlyRecords, lateRecords]
    exact extended.records
  · rw [earlyOptions, lateOptions]
    exact extended.options
  · rw [earlyCalls, lateCalls]
    exact extended.calls

end Sink

section Extends

variable (exporter : Exporter) (domain : Nat) (ipfix : Bool)

theorem extends_putAll (options : Bool) (templates : List (Nat × List Field)) (sink : Sink) :
    sink.Extends (putAll exporter domain options sink templates) := by
  have resumed := putAll_resume exporter domain sink options templates sink.restart
  rw [Sink.resume_restart] at resumed
  rw [resumed]
  exact sink.extends_resume _

theorem extends_appendAll (isOptions : Bool) (records : List Rec) (sink : Sink) :
    sink.Extends (appendAll isOptions sink records) := by
  have resumed := appendAll_resume sink isOptions records sink.restart
  rw [Sink.resume_restart] at resumed
  rw [resumed]
  exact sink.extends_resume _

theorem extends_applySets (sets : List RawSet) (sink : Sink) :
    sink.Extends (sets.foldl (applySet exporter domain ipfix) sink) := by
  have resumed := applySets_resume exporter domain ipfix sink sets sink.restart
  rw [Sink.resume_restart] at resumed
  rw [resumed]
  exact sink.extends_resume _

theorem putAll_extends (options : Bool) {early late : List (Nat × List Field)} (shorter : early <+: late)
    (sink : Sink) : (putAll exporter domain options sink early).Extends (putAll exporter domain options sink late) := by
  obtain ⟨more, rfl⟩ := shorter
  rw [putAll.eq_def exporter domain options sink (early ++ more), List.foldl_append]
  exact extends_putAll exporter domain options more _

theorem appendAll_extends (isOptions : Bool) {early late : List Rec} (shorter : early <+: late) (sink : Sink) :
    (appendAll isOptions sink early).Extends (appendAll isOptions sink late) := by
  obtain ⟨more, rfl⟩ := shorter
  rw [appendAll.eq_def isOptions sink (early ++ more), List.foldl_append]
  exact extends_appendAll isOptions more _

/-- A set whose content is cut short. -/
theorem applyContent_extends (setId : Nat) {early late : Bytes} (shorter : early <+: late) (sink : Sink) :
    (applyContent exporter domain ipfix setId early sink).Extends
      (applyContent exporter domain ipfix setId late sink) := by
  obtain ⟨more, rfl⟩ := shorter
  unfold applyContent
  split
  · exact putAll_extends exporter domain false (wireTemplates_append ipfix early more) sink
  · split
    · exact putAll_extends exporter domain true (wireOptions_append ipfix early more) sink
    · split
      · simp only [applyData]
        split
        · exact .refl _
        · exact .refl _
        · exact appendAll_extends _ (wireRecords_append ipfix _ early more) _
      · exact .refl _

/-- Marking truncation commutes with the sets that follow. -/
theorem applySets_markTruncated (sets : List RawSet) (sink : Sink) :
    sets.foldl (applySet exporter domain ipfix) sink.markTruncated =
      (sets.foldl (applySet exporter domain ipfix) sink).markTruncated :=
  applySets_resume exporter domain ipfix ({ store := sink.store, stats := sink.stats, truncated := true } : Sink)
    sets sink

theorem applyContent_markTruncated (setId : Nat) (content : Bytes) (sink : Sink) :
    applyContent exporter domain ipfix setId content sink.markTruncated =
      (applyContent exporter domain ipfix setId content sink).markTruncated :=
  applyContent_resume exporter domain ipfix ({ store := sink.store, stats := sink.stats, truncated := true } : Sink)
    setId content sink

theorem applySet_eq (sink : Sink) (set : RawSet) : applySet exporter domain ipfix sink set =
    if set.cut then (applyContent exporter domain ipfix set.id set.content sink).markTruncated
    else applyContent exporter domain ipfix set.id set.content sink := by
  rw [applySet]
  split
  · exact applyContent_markTruncated exporter domain ipfix set.id set.content sink
  · rfl

theorem applySet_extends {cut whole : RawSet} (sameId : cut.id = whole.id) (shorter : cut.content <+: whole.content)
    (sink : Sink) :
    (applySet exporter domain ipfix sink cut).Extends (applySet exporter domain ipfix sink whole) := by
  have plain := applyContent_extends exporter domain ipfix whole.id shorter sink
  rw [applySet_eq, applySet_eq, sameId]
  split <;> split <;> exact ⟨plain.records, plain.options, plain.calls⟩

/-- The cut set does less than the whole one, which every later set extends. -/
theorem applySets_extends {cut whole : List RawSet} (cutSets : CutSets cut whole) (sink : Sink) :
    (cut.foldl (applySet exporter domain ipfix) sink).Extends
      (whole.foldl (applySet exporter domain ipfix) sink) := by
  induction cutSets generalizing sink with
  | nil sets => exact extends_applySets exporter domain ipfix sets sink
  | last sets sameId shorter =>
    exact (applySet_extends exporter domain ipfix sameId shorter sink).trans
      (extends_applySets exporter domain ipfix sets _)
  | cons set rest inductionHypothesis => exact inductionHypothesis (applySet exporter domain ipfix sink set)

theorem applyBody_extends {early late : Bytes} (shorter : early <+: late) (sink : Sink) :
    (applyBody exporter domain ipfix sink early).Extends (applyBody exporter domain ipfix sink late) := by
  obtain ⟨more, rfl⟩ := shorter
  exact applySets_extends exporter domain ipfix (wireSets_cut early more) sink

end Extends

/-! ## Whole datagrams -/

theorem slice_prefix {data : Bytes} (lo : Nat) {hi higher : Nat} (wider : hi ≤ higher) :
    slice data lo hi <+: slice data lo higher := by
  by_cases inside : lo ≤ hi
  · rw [← slice_split data inside wider]
    exact List.prefix_append _ _
  · rw [slice_empty (by omega)]
    exact List.nil_prefix

/-- The message a sink makes, and what it holds. -/
theorem finishMessage_extends (header : Header) (ipfix : Bool) {early late : Bytes} (shorter : early <+: late)
    (sink marked : Sink) (start : marked = sink ∨ marked = sink.markTruncated) :
    (finishMessage header ipfix early marked).2.Extends (finishMessage header ipfix late sink).2 := by
  apply Sink.extends_close
  have extended := applyBody_extends header.exporter header.domain ipfix shorter sink
  rcases start with rfl | rfl
  · exact extended
  · rw [applyBody, applySets_markTruncated]
    exact ⟨extended.records, extended.options, extended.calls⟩

theorem applyMessage_ipfix_extends (cut more : Bytes) (exporter : Exporter) (sink : Sink)
    (version : num cut 0 2 = 10) (headed : ipfixHeaderSize ≤ cut.length) :
    (applyMessage cut exporter sink).2.Extends (applyMessage (cut ++ more) exporter sink).2 := by
  have size : ipfixHeaderSize = 16 := rfl
  have length : (cut ++ more).length = cut.length + more.length := List.length_append
  have early : ∀ start width, start + width ≤ 16 → num (cut ++ more) start width = num cut start width :=
    fun start width fits => num_append more (by omega)
  have header : ipfixHeader (cut ++ more) exporter = ipfixHeader cut exporter := by
    rw [ipfixHeader, early 4 4 (by omega), early 8 4 (by omega), early 12 4 (by omega), ← ipfixHeader]
  have further : ipfixEnd cut ≤ ipfixEnd (cut ++ more) := by
    unfold ipfixEnd
    rw [early 2 2 (by omega), length]
    split <;> omega
  have body : slice cut ipfixHeaderSize (ipfixEnd cut) <+:
      slice (cut ++ more) ipfixHeaderSize (ipfixEnd (cut ++ more)) := by
    rw [← slice_append_left more (ipfixEnd_le cut)]
    exact slice_prefix ipfixHeaderSize further
  rw [applyMessage_of_ipfix version headed, applyMessage_of_ipfix (by rw [early 0 2 (by omega), version]) (by omega),
    header, early 2 2 (by omega)]
  by_cases overrun : num cut 2 2 > (cut ++ more).length
  · rw [if_pos overrun, if_pos (by omega)]
    exact finishMessage_extends _ true body _ _ (.inl rfl)
  · rw [if_neg overrun]
    split
    · exact finishMessage_extends _ true body _ _ (.inr rfl)
    · exact finishMessage_extends _ true body _ _ (.inl rfl)

theorem applyMessage_v9_extends (cut more : Bytes) (exporter : Exporter) (sink : Sink)
    (version : num cut 0 2 ≠ 10) (headed : v9HeaderSize ≤ cut.length) :
    (applyMessage cut exporter sink).2.Extends (applyMessage (cut ++ more) exporter sink).2 := by
  have size : v9HeaderSize = 20 := rfl
  have length : (cut ++ more).length = cut.length + more.length := List.length_append
  have early : ∀ start width, start + width ≤ 20 → num (cut ++ more) start width = num cut start width :=
    fun start width fits => num_append more (by omega)
  have header : v9Header (cut ++ more) exporter = v9Header cut exporter := by
    rw [v9Header, early 4 4 (by omega), early 8 4 (by omega), early 12 4 (by omega), early 16 4 (by omega), ← v9Header]
  have body : slice cut v9HeaderSize cut.length <+: slice (cut ++ more) v9HeaderSize (cut ++ more).length := by
    rw [← slice_append_left more (Nat.le_refl cut.length)]
    exact slice_prefix v9HeaderSize (by omega)
  rw [applyMessage_of_v9 version headed, applyMessage_of_v9 (by rw [early 0 2 (by omega)]; exact version) (by omega),
    header]
  exact finishMessage_extends _ false body _ _ (.inl rfl)

theorem wireV5_append (count : Nat) (bytes more : Bytes) : wireV5 count bytes <+: wireV5 count (bytes ++ more) := by
  induction count generalizing bytes with
  | zero => exact List.nil_prefix
  | succ count inductionHypothesis =>
    rw [wireV5, wireV5]
    by_cases partialRecord : bytes.length < v5RecordSize
    · rw [if_pos partialRecord]
      exact List.nil_prefix
    · have alsoWhole : ¬ (bytes ++ more).length < v5RecordSize := by
        rw [List.length_append]
        omega
      rw [if_neg partialRecord, if_neg alsoWhole, List.take_append_of_le_length (by omega),
        List.drop_append_of_le_length (by omega)]
      exact List.cons_prefix_cons.mpr ⟨rfl, inductionHypothesis _⟩

/-- What one parse returned and asked of the store is a beginning of what another did. -/
def ParseRun.Begins (cut whole : ParseRun) : Prop :=
  ∃ early late, cut.outcome = .ok early ∧ whole.outcome = .ok late ∧
    early.records <+: late.records ∧ early.options <+: late.options ∧ cut.calls <+: whole.calls

theorem runV9OrIpfix_begins (cut more : Bytes) (exporter : Exporter) (store : TemplateStore) (stats : Stats)
    (headed : (if num cut 0 2 = 10 then ipfixHeaderSize else v9HeaderSize) ≤ cut.length) :
    (runV9OrIpfix cut exporter store stats).Begins (runV9OrIpfix (cut ++ more) exporter store stats) := by
  obtain ⟨_, _, cutRun⟩ := runV9OrIpfix_spec cut exporter store stats
  obtain ⟨_, _, wholeRun⟩ := runV9OrIpfix_spec (cut ++ more) exporter store stats
  have extended : (applyMessage cut exporter { store, stats }).2.Extends
      (applyMessage (cut ++ more) exporter { store, stats }).2 := by
    by_cases ipfix : num cut 0 2 = 10
    · rw [if_pos ipfix] at headed
      exact applyMessage_ipfix_extends cut more exporter _ ipfix headed
    · rw [if_neg ipfix] at headed
      exact applyMessage_v9_extends cut more exporter _ ipfix headed
  obtain ⟨cutRecords, cutOptions⟩ := applyMessage_lists cut exporter store stats
  obtain ⟨wholeRecords, wholeOptions⟩ := applyMessage_lists (cut ++ more) exporter store stats
  rw [cutRun, wholeRun]
  refine ⟨_, _, rfl, rfl, ?_, ?_, extended.calls⟩
  · rw [cutRecords, wholeRecords]
    exact extended.records
  · rw [cutOptions, wholeOptions]
    exact extended.options

theorem runV5_begins (cut more : Bytes) (exporter : Exporter) (store : TemplateStore) (stats : Stats)
    (headed : v5HeaderSize ≤ cut.length) :
    (runV5 cut exporter store stats).Begins (runV5 (cut ++ more) exporter store stats) := by
  obtain ⟨_, _, cutRun⟩ := runV5_spec cut exporter store stats
  obtain ⟨_, _, wholeRun⟩ := runV5_spec (cut ++ more) exporter store stats
  have size : v5HeaderSize = 24 := rfl
  have length : (cut ++ more).length = cut.length + more.length := List.length_append
  have early : ∀ start width, start + width ≤ 24 → num (cut ++ more) start width = num cut start width :=
    fun start width fits => num_append more (by omega)
  have records := wireV5_append (num cut 2 2) (slice cut v5HeaderSize cut.length) more
  have body : slice cut v5HeaderSize cut.length ++ more = slice (cut ++ more) v5HeaderSize (cut ++ more).length := by
    rw [slice_full, slice_full, List.drop_append_of_le_length headed]
  rw [body] at records
  rw [cutRun, wholeRun, applyV5, applyV5, if_neg (by omega), if_neg (by omega), early 2 2 (by omega),
    early 22 2 (by omega)]
  exact ⟨_, _, rfl, rfl, records, List.prefix_rfl, List.prefix_rfl⟩

/-- The size of the header a version's messages start with. -/
def headerSize (version : Nat) : Nat :=
  if version = 5 then v5HeaderSize else if version = 10 then ipfixHeaderSize else v9HeaderSize

/-- A datagram cut short behind its header never yields what the whole one would not. -/
theorem truncation_monotone (whole cut : Bytes) (exporter : Exporter) (store : TemplateStore) (stats : Stats)
    (shorter : cut <+: whole) (version : num whole 0 2 = 5 ∨ num whole 0 2 = 9 ∨ num whole 0 2 = 10)
    (headed : headerSize (num whole 0 2) ≤ cut.length) :
    (parseMessage cut exporter store stats).Begins (parseMessage whole exporter store stats) := by
  obtain ⟨more, rfl⟩ := shorter
  have atLeast : 2 ≤ headerSize (num (cut ++ more) 0 2) := by
    rcases version with version | version | version <;> rw [version] <;> decide
  have length : (cut ++ more).length = cut.length + more.length := List.length_append
  have same : num (cut ++ more) 0 2 = num cut 0 2 := num_append more (by omega)
  rw [same] at headed atLeast
  rcases version with v5 | later
  · rw [parseMessage_of_v5 (by omega) (same ▸ v5), parseMessage_of_v5 (by omega) v5]
    exact runV5_begins cut more exporter store stats (by rw [same] at v5; rw [v5] at headed; exact headed)
  · rw [parseMessage_of_v9OrIpfix (by omega) (same ▸ later), parseMessage_of_v9OrIpfix (by omega) later]
    apply runV9OrIpfix_begins cut more exporter store stats
    rw [same] at later
    rcases later with v9 | ipfix
    · rw [v9] at headed ⊢
      exact headed
    · rw [ipfix] at headed ⊢
      exact headed

/-- Two v5 flows, the second cut short. -/
theorem truncation_monotone_of_v5 :
    let whole := toBytes 2 5 ++ toBytes 2 2 ++ List.replicate 116 7
    (parseMessage (whole.take 80) (.str "a") (.new 10 10) {}).Begins
      (parseMessage whole (.str "a") (.new 10 10) {}) :=
  truncation_monotone (toBytes 2 5 ++ toBytes 2 2 ++ List.replicate 116 7) _ (.str "a") (.new 10 10) {}
    (List.take_prefix 80 _) (.inl (by decide)) (by decide)

end Netflume
