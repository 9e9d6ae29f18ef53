import Netflume.SequenceLedger

/-! # The exporters warned of

The set of exporters warned of grows where a gap is found and is trimmed where a
stream is first seen.  A gap never trims, so exporters that were already watched
can fill the set past its ceiling. -/

namespace Netflume

open Library

namespace SequenceWatch

/-- The message stands ahead of what its stream, held and learned, expects, by a plausible gap. -/
def ShowsLoss (watch : SequenceWatch) (obs : Observation) : Prop :=
  ∃ seq state mode, obs.seq = some seq ∧ watch.streams.get? obs.key = some state ∧ state.mode = some mode ∧
    0 < state.distance mode seq ∧ state.distance mode seq ≤ maxPlausibleGap

/-- The message shows a loss of an exporter not warned of, and as many are warned of as there may be. -/
def Overfills (watch : SequenceWatch) (obs : Observation) : Prop :=
  watch.ShowsLoss obs ∧ watch.warned.contains obs.exporter = false ∧ watch.maxStreams ≤ watch.warned.size

theorem judge_lost_iff (watch : SequenceWatch) (key : StreamKey) (state : StreamState) (mode : Mode)
    (seq records : Nat) :
    0 < (watch.judge key state mode seq records).1 ↔
      0 < state.distance mode seq ∧ state.distance mode seq ≤ maxPlausibleGap := by
  by_cases stale : state.Stale mode seq
  · have behind := stale.1
    rw [judge_stale stale]
    constructor
    · intro lost
      cases lost
    · omega
  · by_cases restarts : state.Restarts mode seq
    · rw [judge_restart stale restarts]
      constructor
      · intro lost
        cases lost
      · obtain behind | ahead := restarts <;> omega
    · obtain ⟨ahead, few⟩ := distance_eq_loss restarts
      rw [judge_ahead few ahead, ahead]
      dsimp only
      omega

theorem observe_lost_iff (watch : SequenceWatch) (obs : Observation) :
    0 < (watch.observe obs).1 ↔ watch.ShowsLoss obs := by
  constructor
  · intro lost
    cases counted : obs.seq with
    | none =>
      simp only [observe, counted] at lost
      cases lost
    | some seq =>
      cases held : watch.streams.get? obs.key with
      | none =>
        rw [observe_new counted held] at lost
        cases lost
      | some state =>
        cases mode : state.mode with
        | none =>
          rw [observe_unlearned counted held mode] at lost
          cases lost
        | some mode' =>
          rw [observe_learned counted held mode] at lost
          exact ⟨seq, state, mode', counted, held, mode, (judge_lost_iff _ _ _ _ _ _).mp lost⟩
  · rintro ⟨seq, state, mode, counted, held, learned, ahead⟩
    rw [observe_learned counted held learned]
    exact (judge_lost_iff _ _ _ _ _ _).mpr ahead

/-- One call keeps the set within the ceiling, unless it overfills it. -/
theorem warned_observe {watch : SequenceWatch} (fits : watch.warned.size ≤ watch.maxStreams) (obs : Observation) :
    (watch.observe obs).2.warned.size ≤ watch.maxStreams ↔ ¬ watch.Overfills obs := by
  have lostIff := observe_lost_iff watch obs
  obtain ⟨_, same⟩ | ⟨seq, _, ⟨_, placed⟩ | ⟨state, entry, _, writes⟩⟩ := watch.observe_cases obs
  · rw [same] at lostIff ⊢
    exact ⟨fun _ overfills => Nat.lt_irrefl 0 (lostIff.mpr overfills.1), fun _ => fits⟩
  · rw [placed] at lostIff ⊢
    refine ⟨fun _ overfills => Nat.lt_irrefl 0 (lostIff.mpr overfills.1), fun _ => ?_⟩
    simp only [firstSeen, setState, evict, OrderedDict.size_trim]
    omega
  · obtain ⟨nothing, _, _, warned⟩ | ⟨lost, _, _, _, _, warned⟩ := writes.books
    · rw [nothing] at lostIff
      rw [warned]
      exact ⟨fun _ overfills => Nat.lt_irrefl 0 (lostIff.mpr overfills.1), fun _ => fits⟩
    · have shows := lostIff.mp lost
      have exporter : obs.key.exporter = obs.exporter := rfl
      rw [warned, exporter]
      cases known : watch.warned.contains obs.exporter with
      | true =>
        refine ⟨fun _ overfills => ?_, fun _ => fits⟩
        have unknown := overfills.2.1
        rw [known] at unknown
        cases unknown
      | false =>
        have missing : watch.warned.get? obs.exporter = none := by simpa [OrderedDict.contains] using known
        rw [if_neg Bool.false_ne_true, OrderedDict.set_of_not_held missing, OrderedDict.size_place, known]
        constructor
        · rintro room ⟨_, _, full⟩
          simp only [Bool.false_eq_true, if_false] at room
          omega
        · intro spared
          have room : ¬ watch.maxStreams ≤ watch.warned.size := fun full => spared ⟨shows, known, full⟩
          simp only [Bool.false_eq_true, if_false]
          omega

end SequenceWatch

/-- The exporters warned of stay within the ceiling in every state of a run exactly when no call of it warns of
another exporter while the set is full. -/
theorem warned_within_ceiling_iff (maxStreams : Nat) (run : List Observation) :
    let start := SequenceWatch.new maxStreams
    (∀ before after, run = before ++ after →
        (stateAfter SequenceWatch.observe start before).warned.size ≤ maxStreams) ↔
      ∀ before obs after, run = before ++ obs :: after →
        ¬ (stateAfter SequenceWatch.observe start before).Overfills obs := by
  intro start
  have limit : ∀ before, (stateAfter SequenceWatch.observe start before).maxStreams = maxStreams :=
    fun before => (SequenceWatch.coherent_run maxStreams before).limit
  constructor
  · intro within before obs after split
    have fits := within before (obs :: after) split
    have next := within (before ++ [obs]) after (by rw [split, List.append_assoc]; rfl)
    rw [stateAfter_snoc, ← limit before] at next
    rw [← limit before] at fits
    exact (SequenceWatch.warned_observe fits obs).mp next
  · intro spared before
    induction before using List.reverseRecOn with
    | nil => exact fun _ _ => Nat.zero_le _
    | append_singleton before obs inductionHypothesis =>
      intro after split
      rw [List.append_assoc] at split
      have fits := inductionHypothesis (obs :: after) split
      rw [stateAfter_snoc, ← limit before]
      rw [← limit before] at fits
      exact (SequenceWatch.warned_observe fits obs).mpr (spared before obs after split)

/-- An exporter that gaps, a second one seen after it, and the gap of the second: two warned of where one may be. -/
theorem warned_exceeds_ceiling :
    ¬ ∀ maxStreams, 1 ≤ maxStreams → ∀ run : List Observation,
      (stateAfter SequenceWatch.observe (SequenceWatch.new maxStreams) run).warned.size ≤ maxStreams := by
  intro within
  have two := within 1 (Nat.le_refl 1) [⟨.obj 1, 0, 9, some 1, 5, 0⟩, ⟨.obj 1, 0, 9, some 2, 5, 0⟩,
    ⟨.obj 1, 0, 9, some 9, 5, 0⟩, ⟨.obj 2, 0, 9, some 1, 5, 0⟩, ⟨.obj 2, 0, 9, some 2, 5, 0⟩,
    ⟨.obj 2, 0, 9, some 9, 5, 0⟩]
  revert two
  decide

end Netflume
