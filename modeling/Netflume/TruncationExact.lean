import Netflume.Repacketisation
import Netflume.Truncation

/-! # Truncation is detected exactly

A complete message counts no truncation, whatever it carries, and a message cut
short behind its header counts one.  Only v9 can be cut unseen, where a set ends
or before the header of the next one is whole. -/

namespace Netflume

open Library

/-! ## Complete messages -/

/-- A message that carries all it declares, and the sets of its body, a v5 message having none. -/
inductive CompleteMessage (data : Bytes) : List FramedSet → Prop where
  | v5 (version : num data 0 2 = 5) (counted : data.length = v5HeaderSize + v5RecordSize * num data 2 2) :
    CompleteMessage data []
  | v9 {sets : List FramedSet} (version : num data 0 2 = 9) (headed : v9HeaderSize ≤ data.length)
    (filled : data.drop v9HeaderSize = bodyBytes sets) : CompleteMessage data sets
  | ipfix {sets : List FramedSet} (version : num data 0 2 = 10) (headed : ipfixHeaderSize ≤ data.length)
    (declared : num data 2 2 = data.length) (filled : data.drop ipfixHeaderSize = bodyBytes sets) :
    CompleteMessage data sets

/-- The first `size` bytes of a body end where a set ends, or inside the header of the next one. -/
def BetweenSets (sets : List FramedSet) (size : Nat) : Prop :=
  ∃ front, front <+: sets ∧ (bodyBytes front).length ≤ size ∧ size < (bodyBytes front).length + 4

theorem betweenSets_cons (set : FramedSet) (sets : List FramedSet) (size : Nat) :
    BetweenSets (set :: sets) size ↔ size < 4 ∨ set.bytes.length ≤ size ∧ BetweenSets sets (size - set.bytes.length) := by
  have more : ∀ front, (bodyBytes (set :: front)).length = set.bytes.length + (bodyBytes front).length :=
    fun front => List.length_append
  constructor
  · rintro ⟨front, shorter, after, before⟩
    cases front with
    | nil => exact .inl (by simpa [bodyBytes] using before)
    | cons first front =>
      obtain ⟨rfl, later⟩ := List.cons_prefix_cons.mp shorter
      rw [more] at after before
      exact .inr ⟨by omega, front, later, by omega, by omega⟩
  · rintro (start | ⟨whole, front, shorter, after, before⟩)
    · exact ⟨[], List.nil_prefix, Nat.zero_le _, by simpa [bodyBytes] using start⟩
    · refine ⟨set :: front, List.cons_prefix_cons.mpr ⟨rfl, shorter⟩, ?_, ?_⟩ <;> rw [more] <;> omega

/-- A body cut short shows it, unless the cut lies between sets. -/
theorem any_cut_take (sets : List FramedSet) {size : Nat} (shorter : size < (bodyBytes sets).length) :
    (wireSets ((bodyBytes sets).take size)).any RawSet.cut = true ↔ ¬ BetweenSets sets size := by
  induction sets generalizing size with
  | nil => simp [bodyBytes] at shorter
  | cons set sets inductionHypothesis =>
    have header := set.length_bytes
    have body : bodyBytes (set :: sets) = set.bytes ++ bodyBytes sets := rfl
    rw [body, List.length_append] at shorter
    rw [body, betweenSets_cons]
    by_cases whole : set.bytes.length ≤ size
    · have rest := @inductionHypothesis (size - set.bytes.length) (by omega)
      rw [List.take_append, List.take_of_length_le whole, wireSets_framed, List.any_cons]
      simp only [FramedSet.raw, Bool.false_or, rest, whole, true_and, not_or, not_lt]
      exact ⟨fun later => ⟨by omega, later⟩, And.right⟩
    · rw [List.take_append_of_le_length (by omega)]
      have taken : (set.bytes.take size).length = size := List.length_take_of_le (by omega)
      by_cases headless : size < 4
      · rw [wireSets, if_pos (by omega)]
        simp [headless]
      · have declared : num (set.bytes.take size) 2 2 = set.bytes.length := by
          have known : num set.bytes 2 2 = set.bytes.length := by
            rw [FramedSet.length_bytes, FramedSet.bytes]
            exact num_second set.fits _
          rw [← known, ← List.take_append_drop size set.bytes, num_append _ (by omega), List.take_append_drop]
        rw [wireSets, declared, if_neg (by omega), if_neg (by omega), List.any_cons, taken,
          decide_eq_true (Nat.not_le.mp whole), Bool.true_or]
        exact iff_of_true rfl (not_or.mpr ⟨headless, fun other => whole other.1⟩)

/-! ## What a parse counts -/

theorem Sink.close_truncated (sink : Sink) :
    sink.close.stats.truncated = sink.stats.truncated + sink.truncated.toNat := by
  rw [close]
  cases sink.truncated <;> rfl

/-- A message is counted once, whether it was marked before its sets or by them. -/
theorem finishMessage_truncated (header : Header) (ipfix : Bool) (body : Bytes) (sink : Sink) :
    (finishMessage header ipfix body sink).2.stats.truncated =
      sink.stats.truncated + (sink.truncated || (wireSets body).any RawSet.cut).toNat := by
  have marks := applySets_marks header.exporter header.domain ipfix (wireSets body) sink
  have counted : (applyBody header.exporter header.domain ipfix sink body).stats.truncated = sink.stats.truncated :=
    congrArg Prod.fst marks
  have marked : (applyBody header.exporter header.domain ipfix sink body).truncated =
      (sink.truncated || (wireSets body).any RawSet.cut) := congrArg Prod.snd marks
  rw [finishMessage, Sink.close_truncated, counted, marked]

section Counting

variable {data : Bytes} (exporter : Exporter) (store : TemplateStore) (stats : Stats)

theorem truncated_of_v9 (version : num data 0 2 = 9) (headed : v9HeaderSize ≤ data.length) :
    (parseMessage data exporter store stats).stats.truncated =
      stats.truncated + ((wireSets (data.drop v9HeaderSize)).any RawSet.cut).toNat := by
  have size : v9HeaderSize = 20 := rfl
  obtain ⟨reads, _, ran⟩ := runV9OrIpfix_spec data exporter store stats
  rw [parseMessage_of_v9OrIpfix (by omega) (.inl version), ran, applyMessage_of_v9 (by omega) headed]
  show (finishMessage _ _ _ _).2.stats.truncated = _
  rw [finishMessage_truncated, slice_full, Bool.false_or]

theorem truncated_of_ipfix (version : num data 0 2 = 10) (headed : ipfixHeaderSize ≤ data.length) :
    (parseMessage data exporter store stats).stats.truncated = stats.truncated +
      (decide (num data 2 2 > data.length) ||
        (wireSets (slice data ipfixHeaderSize (ipfixEnd data))).any RawSet.cut).toNat := by
  have size : ipfixHeaderSize = 16 := rfl
  obtain ⟨reads, _, ran⟩ := runV9OrIpfix_spec data exporter store stats
  rw [parseMessage_of_v9OrIpfix (by omega) (.inr version), ran, applyMessage_of_ipfix version headed]
  show (finishMessage _ _ _ _).2.stats.truncated = _
  rw [finishMessage_truncated]
  by_cases longer : num data 2 2 > data.length
  · simp [longer, Sink.markTruncated]
  · simp [longer]

theorem length_wireV5 (count : Nat) (bytes : Bytes) :
    (wireV5 count bytes).length = min count (bytes.length / v5RecordSize) := by
  induction count generalizing bytes with
  | zero => simp [wireV5]
  | succ count inductionHypothesis =>
    have size : v5RecordSize = 48 := rfl
    rw [wireV5]
    by_cases partialRecord : bytes.length < v5RecordSize
    · rw [if_pos partialRecord, List.length_nil, Nat.div_eq_of_lt partialRecord, Nat.min_zero]
    · rw [if_neg partialRecord, List.length_cons, inductionHypothesis, List.length_drop, size]
      omega

theorem truncated_of_v5 (version : num data 0 2 = 5) (headed : v5HeaderSize ≤ data.length) :
    (parseMessage data exporter store stats).stats.truncated =
      stats.truncated + (decide (data.length < v5HeaderSize + v5RecordSize * num data 2 2)).toNat := by
  have header : v5HeaderSize = 24 := rfl
  have size : v5RecordSize = 48 := rfl
  obtain ⟨reads, _, ran⟩ := runV5_spec data exporter store stats
  rw [parseMessage_of_v5 (by omega) version, ran, applyV5, if_neg (by omega)]
  have fewer : (wireV5 (num data 2 2) (slice data v5HeaderSize data.length)).length < num data 2 2 ↔
      data.length < v5HeaderSize + v5RecordSize * num data 2 2 := by
    rw [length_wireV5, length_slice _ (Nat.le_refl _), size]
    omega
  simp only [fewer]
  by_cases short : data.length < v5HeaderSize + v5RecordSize * num data 2 2
  · simp [short]
  · simp [short]

end Counting

theorem num_take (data : Bytes) {cut start width : Nat} (inside : start + width ≤ cut) (shorter : cut ≤ data.length) :
    num (data.take cut) start width = num data start width := by
  have taken : (data.take cut).length = cut := List.length_take_of_le shorter
  conv_rhs => rw [← List.take_append_drop cut data]
  rw [num_append _ (by omega)]

/-- A complete message of any version counts no truncation, and cut short behind its header it counts one, unless it
is a v9 message cut between two sets or before the header of a set is whole. -/
theorem truncation_exact (data : Bytes) (sets : List FramedSet) (exporter : Exporter) (store : TemplateStore)
    (stats : Stats) (complete : CompleteMessage data sets) :
    (parseMessage data exporter store stats).stats.truncated = stats.truncated ∧
      ∀ cut, headerSize (num data 0 2) ≤ cut → cut < data.length →
        let after := (parseMessage (data.take cut) exporter store stats).stats.truncated
        let unseen := num data 0 2 = 9 ∧ BetweenSets sets (cut - v9HeaderSize)
        (unseen → after = stats.truncated) ∧ (¬ unseen → after = stats.truncated + 1) := by
  cases complete with
  | v5 version counted =>
    have header : v5HeaderSize = 24 := rfl
    refine ⟨?_, fun cut headed shorter => ?_⟩
    · rw [truncated_of_v5 _ _ _ version (by omega), decide_eq_false (by omega)]
      rfl
    · rw [version] at headed ⊢
      replace headed : v5HeaderSize ≤ cut := headed
      have taken : (data.take cut).length = cut := List.length_take_of_le (by omega)
      rw [truncated_of_v5 _ _ _ (by rw [num_take data (by omega) (by omega), version]) (by omega),
        num_take data (by omega) (by omega), taken, decide_eq_true (by omega)]
      exact ⟨fun unseen => absurd unseen.1 (by decide), fun _ => rfl⟩
  | ipfix version headed declared filled =>
    have header : ipfixHeaderSize = 16 := rfl
    refine ⟨?_, fun cut headed shorter => ?_⟩
    · have body : slice data ipfixHeaderSize (ipfixEnd data) = bodyBytes sets := by
        rw [ipfixEnd, declared, Nat.min_self, ite_self, slice_full, filled]
      rw [truncated_of_ipfix _ _ _ version headed, body, wireSets_bodyBytes, any_cut_framed, Bool.or_false,
        decide_eq_false (by omega)]
      rfl
    · rw [version] at headed ⊢
      replace headed : ipfixHeaderSize ≤ cut := headed
      have taken : (data.take cut).length = cut := List.length_take_of_le (by omega)
      rw [truncated_of_ipfix _ _ _ (by rw [num_take data (by omega) (by omega), version]) (by omega),
        num_take data (by omega) (by omega), taken, decide_eq_true (by omega), Bool.true_or]
      exact ⟨fun unseen => absurd unseen.1 (by decide), fun _ => rfl⟩
  | v9 version headed filled =>
    have header : v9HeaderSize = 20 := rfl
    refine ⟨?_, fun cut headed' shorter => ?_⟩
    · rw [truncated_of_v9 _ _ _ version headed, filled, wireSets_bodyBytes, any_cut_framed]
      rfl
    · rw [version] at headed' ⊢
      replace headed' : v9HeaderSize ≤ cut := headed'
      have taken : (data.take cut).length = cut := List.length_take_of_le (by omega)
      have bodyLength : (bodyBytes sets).length = data.length - v9HeaderSize := by rw [← filled, List.length_drop]
      have shown := @any_cut_take sets (cut - v9HeaderSize) (by omega)
      rw [truncated_of_v9 _ _ _ (by rw [num_take data (by omega) (by omega), version]) (by omega), List.drop_take, filled]
      refine ⟨fun unseen => ?_, fun seen => ?_⟩
      · have unmarked := mt shown.mp (not_not.mpr unseen.2)
        rw [Bool.not_eq_true] at unmarked
        rw [unmarked]
        rfl
      · rw [shown.mpr fun between => seen ⟨rfl, between⟩]
        rfl

/-- A v9 message of a data set and an empty one, at every length it can be cut to. -/
theorem truncation_exact_of_v9 :
    let data : Bytes := [0, 9, 0, 2] ++ List.replicate 16 0 ++ [1, 0, 0, 6, 1, 2, 1, 1, 0, 4]
    let sets : List FramedSet := [⟨256, [1, 2], by decide⟩, ⟨257, [], by decide⟩]
    (parseMessage data (.obj 1) (TemplateStore.new 10 10) {}).stats.truncated = 0 ∧
      ∀ cut, headerSize (num data 0 2) ≤ cut → cut < data.length →
        let after := (parseMessage (data.take cut) (.obj 1) (TemplateStore.new 10 10) {}).stats.truncated
        let unseen := num data 0 2 = 9 ∧ BetweenSets sets (cut - v9HeaderSize)
        (unseen → after = 0) ∧ (¬ unseen → after = 0 + 1) :=
  truncation_exact _ _ (.obj 1) (TemplateStore.new 10 10) {} (.v9 (by decide) (by decide) (by decide))

end Netflume
