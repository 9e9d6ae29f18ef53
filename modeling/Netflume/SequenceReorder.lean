import Netflume.SequenceStale

/-! # Reordering and repeats

A lossless run of a stream's messages, delivered in some order and with repeats.
The watch follows the furthest point the counter has been seen to reach, and books
whatever an arrival stands past it: a message that overtakes another is a loss, and
the late arrival of the other does not take it back. -/

namespace Netflume

open Library

section Delivery

variable (rule : Mode) (sent : List Observation)

/-- What the messages before the one at `index` add to the counter. -/
def offset (index : Nat) : Nat := ((sent.take index).map fun obs => obs.units rule).sum

/-- How far an arrival stands from the furthest point reached so far, and the furthest point after it. -/
def displacement (far : Nat) (index : Fin sent.length) : Int × Nat :=
  ((offset rule sent index : Int) - far, max far (offset rule sent (index + 1)))

/-- How far each arrival stands from the furthest point reached before it, in units of the counter. -/
def displacements (arrivals : List (Fin sent.length)) : List Int := outputs (displacement rule sent) 0 arrivals

/-- The furthest point reached once some messages have arrived. -/
def reached (arrivals : List (Fin sent.length)) : Nat := stateAfter (displacement rule sent) 0 arrivals

end Delivery

variable {rule : Mode} {sent : List Observation}

theorem offset_succ (rule : Mode) (index : Fin sent.length) :
    offset rule sent (index + 1) = offset rule sent index + (sent.get index).units rule := by
  rw [offset, offset, List.take_succ_eq_append_getElem index.isLt, List.map_append, List.sum_append]
  simp

theorem offset_mono (rule : Mode) (sent : List Observation) {first second : Nat} (before : first ≤ second) :
    offset rule sent first ≤ offset rule sent second := by
  have split : sent.take second = sent.take first ++ (sent.take second).drop first := by
    conv_lhs => rw [← List.take_append_drop first (sent.take second)]
    rw [List.take_take, Nat.min_eq_left before]
  rw [offset, offset, split, List.map_append, List.sum_append]
  exact Nat.le_add_right _ _

/-- What has arrived is behind the furthest point, and something that has arrived is at it. -/
theorem reached_attained (rule : Mode) (arrivals : List (Fin sent.length)) :
    (∀ index ∈ arrivals, offset rule sent (index + 1) ≤ reached rule sent arrivals) ∧
      (reached rule sent arrivals = 0 ∨ ∃ index ∈ arrivals, reached rule sent arrivals = offset rule sent (index + 1)) := by
  induction arrivals using List.reverseRecOn with
  | nil => exact ⟨by simp, .inl rfl⟩
  | append_singleton arrivals last inductionHypothesis =>
    obtain ⟨behind, attained⟩ := inductionHypothesis
    have next : reached rule sent (arrivals ++ [last]) =
        max (reached rule sent arrivals) (offset rule sent (last + 1)) := stateAfter_snoc 0 arrivals last
    rw [next]
    constructor
    · intro index member
      rcases List.mem_append.mp member with earlier | isLast
      · exact Nat.le_trans (behind index earlier) (Nat.le_max_left _ _)
      · rw [List.mem_singleton.mp isLast]
        exact Nat.le_max_right _ _
    · rcases Nat.le_total (offset rule sent (last + 1)) (reached rule sent arrivals) with within | past
      · rw [Nat.max_eq_left within]
        rcases attained with nothing | ⟨index, member, isFurthest⟩
        · exact .inl nothing
        · exact .inr ⟨index, List.mem_append_left _ member, isFurthest⟩
      · rw [Nat.max_eq_right past]
        exact .inr ⟨last, by simp, rfl⟩

/-- A message stands ahead of what has arrived exactly when it overtakes one that advances the counter. -/
theorem overtakes_none_iff (arrivals : List (Fin sent.length)) :
    (∀ distance ∈ displacements rule sent arrivals, distance ≤ 0) ↔
      ∀ before index after, arrivals = before ++ index :: after →
        ∀ earlier < index, 0 < (sent.get earlier).units rule → earlier ∈ before := by
  rw [displacements, forall_mem_outputs]
  constructor
  · intro near before index after split earlier isEarlier advances
    induction length : before.length using Nat.strong_induction_on generalizing before index after with
    | _ count inductionHypothesis =>
      have within := near before index after split
      have past := offset_mono rule sent isEarlier
      rw [offset_succ] at past
      obtain ⟨_, nothing | ⟨last, member, furthest⟩⟩ := reached_attained rule before
      · simp only [displacement, reached] at within nothing
        omega
      · by_cases isLast : last = earlier
        · exact isLast ▸ member
        · have later : earlier < last := by
            by_contra notLater
            have notPast := offset_mono rule sent (show last.val + 1 ≤ earlier.val by omega)
            simp only [displacement, reached] at within furthest
            omega
          obtain ⟨first, middle, rfl⟩ := List.append_of_mem member
          have arrived := inductionHypothesis first.length (by rw [← length]; simp) first last
            (middle ++ index :: after) (by rw [split]; simp) later rfl
          exact List.mem_append_left _ arrived
  · intro inOrder before index after split
    have arrived := (reached_attained rule before).1
    have upTo : ∀ count ≤ index.val, offset rule sent count ≤ reached rule sent before := by
      intro count within
      induction count with
      | zero => exact Nat.zero_le _
      | succ count inductionHypothesis =>
        have upToHere := inductionHypothesis (by omega)
        have isMessage := offset_succ rule (⟨count, by omega⟩ : Fin sent.length)
        by_cases advances : 0 < (sent.get ⟨count, by omega⟩).units rule
        · exact arrived _ (inOrder before index after split ⟨count, by omega⟩ (by exact within) advances)
        · simp only at isMessage
          omega
    have within := upTo index (Nat.le_refl _)
    simp only [displacement, reached] at within ⊢
    omega

/-! ## The watch over a delivery -/

/-- The messages of a lossless run, the first of them due at `start`. -/
def Lossless (key : StreamKey) (rule : Mode) (start : Nat) (sent : List Observation) : Prop :=
  ∀ index : Fin sent.length, (sent.get index).key = key ∧
    (sent.get index).seq = some ((start + offset rule sent index) % seqModulus)

/-- The stream is expected to go on from the furthest point reached, `pending` steps back after it was. -/
structure Expects (rule : Mode) (start far pending : Nat) (view : StreamView) : Prop where
  state : ∃ state, view.state = some state ∧ state.mode = some rule ∧
    state.expected rule % seqModulus = (start + far) % seqModulus ∧ state.backwards ≤ pending

/-- One arrival: the watch answers with what it stands past the furthest point, and books it. -/
theorem Expects.observe {key : StreamKey} {start far pending : Nat} {view : StreamView} {index : Fin sent.length}
    (expects : Expects rule start far pending view) (lossless : Lossless key rule start sent)
    (attained : far = 0 ∨ ∃ index : Fin sent.length, far = offset rule sent (index + 1))
    (near : -(maxReorder : Int) ≤ (displacement rule sent far index).1 ∧
      (displacement rule sent far index).1 ≤ maxReorder)
    (few : (displacement rule sent far index).1 < 0 → pending + 1 < resyncAfter) :
    (view.observe (sent.get index)).1 = (displacement rule sent far index).1.toNat ∧
      (view.observe (sent.get index)).2.missed = view.missed + (displacement rule sent far index).1.toNat ∧
      Expects rule start (displacement rule sent far index).2
        (pendingAfter pending (some (displacement rule sent far index).1)) (view.observe (sent.get index)).2 := by
  obtain ⟨state, held, learned, due, within⟩ := expects
  obtain ⟨_, counted⟩ := lossless index
  generalize isSeq : (start + offset rule sent index) % seqModulus = seq at counted
  have reorder : (maxReorder : Int) = 1000 := rfl
  have half : ((seqModulus / 2 : Nat) : Int) = 2147483648 := rfl
  have apart : state.distance rule seq = (displacement rule sent far index).1 := by
    apply state.distance_eq rule seq (by omega) (by omega)
    simp only [displacement, seqModulus] at due isSeq ⊢
    omega
  by_cases behind : (displacement rule sent far index).1 < 0
  · have stale : state.Stale rule seq := by
      refine ⟨by omega, by omega, ?_⟩
      have room := few behind
      omega
    have notPast : offset rule sent (index + 1) ≤ far := by
      simp only [displacement] at behind
      rcases attained with nothing | ⟨furthest, rfl⟩
      · omega
      · apply offset_mono rule sent
        by_contra notEarlier
        have past := offset_mono rule sent (show furthest.val + 1 ≤ index.val by omega)
        omega
    rw [StreamView.observe_stale counted held learned stale, pendingAfter, if_pos behind]
    refine ⟨(Int.toNat_of_nonpos (by omega)).symm, ?_, ⟨_, rfl, learned, ?_, by simp only; omega⟩⟩
    · rw [Int.toNat_of_nonpos (by omega)]
      rfl
    · rw [displacement, Nat.max_eq_left notPast]
      exact due
  · have boundValue : (maxPlausibleGap : Int) = 1000000 := rfl
    have taken : ¬ state.Stale rule seq := fun stale => by
      have isBehind := stale.1
      omega
    have booked : state.loss rule seq = (displacement rule sent far index).1.toNat := by
      rw [StreamState.loss, apart, if_pos (by omega)]
    have ahead : far ≤ offset rule sent index := by
      simp only [displacement] at behind
      omega
    have further := offset_succ rule index
    rw [StreamView.observe_taken counted held learned taken, booked, pendingAfter, if_neg behind]
    refine ⟨rfl, rfl, ⟨_, rfl, learned, ?_, Nat.zero_le _⟩⟩
    have next := expected_eq { state with seq := seq, records := (sent.get index).records, backwards := 0 } rule
      (show _ = (sent.get index).records from rfl)
    rw [next, displacement, Nat.max_eq_right (by omega), further, Nat.mod_mod, ← isSeq, Nat.mod_add_mod, Nat.add_assoc]

/-- A delivery, followed arrival by arrival. -/
theorem Expects.run {key : StreamKey} {start : Nat} {view : StreamView} {behind : List Int}
    {arrived arrivals : List (Fin sent.length)} (lossless : Lossless key rule start sent)
    (expects : Expects rule start (reached rule sent arrived) behind.length view)
    (allBehind : ∀ distance ∈ behind, distance < 0)
    (near : ∀ distance ∈ outputs (displacement rule sent) (reached rule sent arrived) arrivals,
      -(maxReorder : Int) ≤ distance ∧ distance ≤ maxReorder)
    (few : FewBehind (behind ++ outputs (displacement rule sent) (reached rule sent arrived) arrivals)) :
    (stateAfter StreamView.observe view (arrivals.map sent.get)).missed =
      view.missed + ((outputs (displacement rule sent) (reached rule sent arrived) arrivals).map Int.toNat).sum := by
  induction arrivals generalizing view behind arrived with
  | nil => rfl
  | cons index arrivals inductionHypothesis =>
    rw [outputs] at near few ⊢
    have next : reached rule sent (arrived ++ [index]) = (displacement rule sent (reached rule sent arrived) index).2 :=
      stateAfter_snoc 0 arrived index
    have attained : reached rule sent arrived = 0 ∨
        ∃ index : Fin sent.length, reached rule sent arrived = offset rule sent (index + 1) := by
      obtain ⟨_, nothing | ⟨furthest, _, reachedThere⟩⟩ := reached_attained rule arrived
      · exact .inl nothing
      · exact .inr ⟨furthest, reachedThere⟩
    generalize isDistance : (displacement rule sent (reached rule sent arrived) index).1 = distance at near few ⊢
    obtain ⟨room, behindNext, length, allNext, fewNext⟩ :=
      FewBehind.next allBehind (show FewBehind (behind ++ ((some distance).toList ++ _)) from few)
    obtain ⟨_, booked, expectsNext⟩ := expects.observe lossless attained
      (by rw [isDistance]; exact near distance List.mem_cons_self) (by rw [isDistance]; exact room distance rfl)
    rw [isDistance] at booked expectsNext
    rw [← length, ← next] at expectsNext
    rw [← next] at near fewNext ⊢
    have rest := inductionHypothesis expectsNext allNext (fun other member => near other (List.mem_cons_of_mem _ member))
      fewNext
    have total : (stateAfter StreamView.observe view ((index :: arrivals).map sent.get)).missed =
        (view.observe (sent.get index)).2.missed + _ := rest
    rw [total, booked, List.map_cons, List.sum_cons, Nat.add_assoc]

/-- Reordering and repeats are no loss exactly when no message overtakes one that advances the counter. -/
theorem reordering_books_nothing_iff (watch : SequenceWatch) (key : StreamKey) (rule : Mode) (state : StreamState)
    (sent : List Observation) (arrivals : List (Fin sent.length)) (held : watch.streams.get? key = some state)
    (learned : state.mode = some rule) (lossless : Lossless key rule (state.expected rule) sent)
    (near : ∀ distance ∈ displacements rule sent arrivals,
      -(maxReorder : Int) ≤ distance ∧ distance ≤ maxReorder)
    (few : FewBehind (List.replicate state.backwards (-1) ++ displacements rule sent arrivals)) :
    ((stateAfter SequenceWatch.observe watch (arrivals.map sent.get)).missed.get? key).getD 0 =
        (watch.missed.get? key).getD 0 ↔
      ∀ before index after, arrivals = before ++ index :: after →
        ∀ earlier < index, 0 < (sent.get earlier).units rule → earlier ∈ before := by
  have keeps : watch.Keeps key := .inr (by rw [held]; rfl)
  have own : ∀ obs ∈ arrivals.map sent.get, obs.key = key :=
    List.forall_mem_map.mpr fun index _ => (lossless index).1
  have expects : Expects rule (state.expected rule) (reached rule sent [])
      (List.replicate state.backwards (-1 : Int)).length (watch.view key) :=
    ⟨state, held, learned, rfl, by rw [List.length_replicate]⟩
  have booked := expects.run lossless (by simp) near few
  rw [← (SequenceWatch.view_run keeps own).2.2] at booked
  rw [← overtakes_none_iff]
  have total : ((stateAfter SequenceWatch.observe watch (arrivals.map sent.get)).missed.get? key).getD 0 =
      (watch.missed.get? key).getD 0 + ((displacements rule sent arrivals).map Int.toNat).sum := booked
  rw [total, Nat.add_eq_left, List.sum_eq_zero_iff_forall_eq_nat, List.forall_mem_map]
  exact forall₂_congr fun distance _ => Int.toNat_eq_zero

/-- In order, with the first message repeated behind the second. -/
theorem reordering_books_nothing_iff_repeat :
    let key : StreamKey := ⟨.obj 41, 1, 10⟩
    let watch : SequenceWatch := { SequenceWatch.new 5 with
      streams := OrderedDict.empty.set key ⟨4294967293, 2, some .records, 1⟩ }
    let sent : List Observation := [⟨.obj 41, 1, 10, some 4294967295, 2, 1⟩, ⟨.obj 41, 1, 10, some 2, 4, 0⟩]
    let arrivals : List (Fin sent.length) := [⟨0, by decide⟩, ⟨1, by decide⟩, ⟨0, by decide⟩]
    ((stateAfter SequenceWatch.observe watch (arrivals.map sent.get)).missed.get? key).getD 0 =
        (watch.missed.get? key).getD 0 ↔
      ∀ before index after, arrivals = before ++ index :: after →
        ∀ earlier < index, 0 < (sent.get earlier).units .records → earlier ∈ before :=
  reordering_books_nothing_iff _ _ .records ⟨4294967293, 2, some .records, 1⟩ _ _ (by decide) rfl
    (by unfold Lossless; decide) (by decide) (fewBehind_of_short (by decide))

/-- Two messages of five records change places: the second is booked as a loss of the first. -/
theorem reordering_booked_as_loss : ¬ ∀ (watch : SequenceWatch) (key : StreamKey) (rule : Mode) (state : StreamState)
    (sent : List Observation) (arrivals : List (Fin sent.length)),
    watch.streams.get? key = some state → state.mode = some rule → Lossless key rule (state.expected rule) sent →
    (∀ index, index ∈ arrivals) →
    (∀ (before : List (Fin sent.length)) (index : Fin sent.length) (after : List (Fin sent.length)),
      arrivals = before ++ index :: after →
      before.length < index.val + resyncAfter ∧ index.val < before.length + resyncAfter) →
    (∀ distance ∈ displacements rule sent arrivals, -(maxReorder : Int) ≤ distance ∧ distance ≤ maxReorder) →
    FewBehind (List.replicate state.backwards (-1) ++ displacements rule sent arrivals) →
    ((stateAfter SequenceWatch.observe watch (arrivals.map sent.get)).missed.get? key).getD 0 =
      (watch.missed.get? key).getD 0 := by
  intro always
  have booked := always { SequenceWatch.new 5 with
      streams := OrderedDict.empty.set ⟨.obj 42, 1, 9⟩ ⟨70, 5, some .records, 0⟩ }
    ⟨.obj 42, 1, 9⟩ .records ⟨70, 5, some .records, 0⟩
    [⟨.obj 42, 1, 9, some 75, 5, 0⟩, ⟨.obj 42, 1, 9, some 80, 5, 0⟩] [⟨1, by decide⟩, ⟨0, by decide⟩]
    (by decide) rfl (by unfold Lossless; decide) (by decide)
    (by
      intro before index after split
      have length := congrArg List.length split
      have limit : resyncAfter = 5 := rfl
      have small := index.isLt
      simp only [List.length_append, List.length_cons, List.length_nil] at length small
      omega)
    (by decide) (fewBehind_of_short (by decide))
  exact absurd booked (by decide)

end Netflume
