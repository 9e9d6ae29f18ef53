import Netflume.SequenceStream

/-! # The watch stabilises

Whatever the watch holds of a stream whose rule is known, a clean run of its
messages is soon followed in step: each message is set aside as stale or taken as
the new base, only so many can be set aside in a row, and behind a base that was
taken every clean message lands where it is expected. -/

namespace Netflume

open Library

namespace StreamView

variable {view : StreamView} {obs : Observation} {seq : Nat} {state : StreamState} {rule : Mode}

theorem observe_learned (counted : obs.seq = some seq) (held : view.state = some state) (learned : state.mode = some rule) :
    view.observe obs = view.judge obs.version state rule seq obs.records := by
  simp only [observe, counted, held, learned]

/-- What is held of the stream is its last message, with no step back pending. -/
def InStep (rule : Mode) (last : Observation) (view : StreamView) : Prop :=
  ∃ seq, last.seq = some seq ∧ view.state = some ⟨seq, last.records, some rule, 0⟩

/-- A message that is answered with zero, and leaves the losses, restarts and steps back as they were. -/
structure Quiet (view : StreamView) (obs : Observation) : Prop where
  silent : (view.observe obs).1 = 0
  missed : (view.observe obs).2.missed = view.missed
  resyncs : (view.observe obs).2.resyncs = view.resyncs
  backwards : (view.observe obs).2.backwards = view.backwards
  pending : (view.observe obs).2.state.map StreamState.backwards = view.state.map StreamState.backwards

theorem observe_stale (counted : obs.seq = some seq) (held : view.state = some state) (learned : state.mode = some rule)
    (stale : state.Stale rule seq) :
    view.observe obs = (0, { view with
      state := some { state with backwards := state.backwards + 1 }
      backwards := view.backwards + 1 }) := by
  rw [observe_learned counted held learned, judge, if_pos stale]

theorem observe_taken (counted : obs.seq = some seq) (held : view.state = some state) (learned : state.mode = some rule)
    (taken : ¬ state.Stale rule seq) :
    view.observe obs = (state.loss rule seq, { view with
      state := some { state with seq := seq, records := obs.records, backwards := 0 }
      missed := view.missed + state.loss rule seq
      unit := if state.loss rule seq = 0 then view.unit else some (SequenceWatch.unit rule obs.version)
      resyncs := if state.Restarts rule seq then view.resyncs + 1 else view.resyncs }) := by
  rw [observe_learned counted held learned, judge, if_neg taken]

/-- A message that is not stale is taken as the new base. -/
theorem inStep_of_taken (counted : obs.seq = some seq) (held : view.state = some state)
    (learned : state.mode = some rule) (taken : ¬ state.Stale rule seq) : (view.observe obs).2.InStep rule obs := by
  rw [observe_taken counted held learned taken]
  exact ⟨seq, counted, by rw [learned]⟩

/-- Behind the last message the next one in order lands where it is expected. -/
theorem InStep.observe {last : Observation} (inStep : view.InStep rule last) (inOrder : obs.InOrder rule (some last)) :
    view.Quiet obs ∧ (view.observe obs).2.InStep rule obs := by
  obtain ⟨before, countedLast, held⟩ := inStep
  obtain ⟨seq, _, counted, follows⟩ := inOrder
  generalize isState : (⟨before, last.records, some rule, 0⟩ : StreamState) = state at held
  have learned : state.mode = some rule := by rw [← isState]
  have lands : seq = state.expected rule := by
    have expected := expected_eq state rule (show state.records = last.records by rw [← isState])
    rw [expected, follows last before rfl countedLast, ← isState]
  have noGap : state.distance rule seq = 0 := by
    rw [lands]
    exact state.distance_expected rule
  have nothing : state.loss rule seq = 0 := by
    rw [StreamState.loss, noGap]
    rfl
  have taken : ¬ state.Stale rule seq := fun stale => by
    have behind := stale.1
    omega
  have goesOn : ¬ state.Restarts rule seq := by
    have boundNonneg : (0 : Int) ≤ maxPlausibleGap := Int.natCast_nonneg _
    rintro (behind | ahead) <;> omega
  refine ⟨?_, inStep_of_taken counted held learned taken⟩
  have observed := observe_taken counted held learned taken
  rw [nothing, if_neg goesOn] at observed
  refine ⟨by rw [observed], by rw [observed]; rfl, by rw [observed], by rw [observed], ?_⟩
  rw [observed, held, ← isState]
  rfl

theorem clean_of_cons {last : Option Observation} {run : List Observation} (clean : Clean rule last run) :
    Clean rule none run := by
  cases run with
  | nil => trivial
  | cons obs run =>
    obtain ⟨⟨seq, small, counted, _⟩, rest⟩ := clean
    exact ⟨⟨seq, small, counted, fun _ _ impossible => by cases impossible⟩, rest⟩

/-- A clean run behind a message in step is followed in silence. -/
theorem InStep.run {last : Observation} {run : List Observation} (inStep : view.InStep rule last)
    (clean : Clean rule (some last) run) (before : List Observation) (obs : Observation) (after : List Observation)
    (split : run = before ++ obs :: after) : (stateAfter StreamView.observe view before).Quiet obs := by
  induction before generalizing view last run with
  | nil =>
    subst split
    exact (inStep.observe clean.1).1
  | cons first before inductionHypothesis =>
    subst split
    exact inductionHypothesis (inStep.observe clean.1).2 clean.2 rfl

theorem InStep.silent {last : Observation} {run : List Observation} (inStep : view.InStep rule last)
    (clean : Clean rule (some last) run) : ∀ answer ∈ outputs StreamView.observe view run, answer = 0 :=
  (forall_mem_outputs view run).mpr fun before obs after split => (inStep.run clean before obs after split).silent

/-- A clean run from any base: only so many messages are set aside, then one is taken and may raise a loss,
and the rest are in step. -/
theorem stabilise {run : List Observation} (held : view.state = some state) (learned : state.mode = some rule)
    (clean : Clean rule none run) :
    ((outputs StreamView.observe view run).filter (· ≠ 0)).length ≤ 1 ∧
      ∀ before obs after, run = before ++ obs :: after →
        resyncAfter ≤ before.length + min state.backwards (resyncAfter - 1) →
        (stateAfter StreamView.observe view before).Quiet obs := by
  have limit : resyncAfter = 5 := rfl
  induction run generalizing view state with
  | nil =>
    refine ⟨Nat.zero_le _, fun before obs after split => ?_⟩
    simp at split
  | cons first run inductionHypothesis =>
    obtain ⟨⟨seq, _, counted, _⟩, rest⟩ := clean
    by_cases stale : state.Stale rule seq
    · have observed := observe_stale counted held learned stale
      have few := stale.2.2
      have next : (view.observe first).2.state = some { state with backwards := state.backwards + 1 } := by
        rw [observed]
      obtain ⟨one, late⟩ := inductionHypothesis next learned (clean_of_cons rest)
      refine ⟨?_, fun before obs after split enough => ?_⟩
      · rw [outputs, observed] at *
        simpa using one
      · cases before with
        | nil =>
          simp only [List.length_nil] at enough
          omega
        | cons head before =>
          cases split
          apply late before obs after rfl
          simp only [List.length_cons] at enough ⊢
          omega
    · have inStep := inStep_of_taken counted held learned stale
      refine ⟨?_, fun before obs after split enough => ?_⟩
      · have silent : (outputs StreamView.observe (view.observe first).2 run).filter (· ≠ 0) = [] := by
          rw [List.filter_eq_nil_iff]
          simpa using inStep.silent rest
        rw [outputs, List.filter_cons, silent]
        split <;> simp
      · cases before with
        | nil =>
          simp only [List.length_nil] at enough
          omega
        | cons head before =>
          cases split
          exact inStep.run rest before obs after rfl

end StreamView

/-- The watch stabilises: whatever it holds of a stream whose rule is known, a clean run raises one loss at most,
and from the sixth message on nothing at all. -/
theorem self_stabilises (watch : SequenceWatch) (key : StreamKey) (rule : Mode) (state : StreamState)
    (run : List Observation) (held : watch.streams.get? key = some state) (learned : state.mode = some rule)
    (own : ∀ obs ∈ run, obs.key = key) (clean : Clean rule none run) :
    ((outputs SequenceWatch.observe watch run).filter (· ≠ 0)).length ≤ 1 ∧
      ∀ before obs after, run = before ++ obs :: after → resyncAfter ≤ before.length →
        let reached := stateAfter SequenceWatch.observe watch before
        let seen := reached.observe obs
        seen.1 = 0 ∧ seen.2.resyncs = reached.resyncs ∧ seen.2.backwards = reached.backwards ∧
          (seen.2.streams.get? key).map StreamState.backwards =
            (reached.streams.get? key).map StreamState.backwards ∧
          (seen.2.missed.get? key).getD 0 = (reached.missed.get? key).getD 0 := by
  have keeps : watch.Keeps key := .inr (by rw [held]; rfl)
  obtain ⟨one, late⟩ := StreamView.stabilise (show (watch.view key).state = some state from held) learned clean
  refine ⟨by rw [(SequenceWatch.view_run keeps own).2.1]; exact one, fun before obs after split enough => ?_⟩
  have ownAt : obs.key = key := own obs (by simp [split])
  have ownBefore : ∀ other ∈ before, other.key = key := fun other member => own other (by simp [split, member])
  obtain ⟨keepsAt, _, viewAt⟩ := SequenceWatch.view_run keeps ownBefore
  obtain ⟨silent, missed, resyncs, backwards, pending⟩ := late before obs after split (by omega)
  subst ownAt
  obtain ⟨_, answer, next⟩ := SequenceWatch.view_observe keepsAt
  rw [← viewAt] at silent missed resyncs backwards pending
  rw [← next] at missed resyncs backwards pending
  exact ⟨answer.trans silent, resyncs, backwards, pending, missed⟩

/-- A counter that begins again just below the mark, in messages of four records. -/
theorem self_stabilises_restarted :
    let key : StreamKey := ⟨.obj 21, 0, 9⟩
    let watch : SequenceWatch := { SequenceWatch.new 3 with
      streams := OrderedDict.empty.set key ⟨4294967290, 2, some .records, 3⟩ }
    let run : List Observation := [⟨.obj 21, 0, 9, some 4294967289, 4, 0⟩, ⟨.obj 21, 0, 9, some 4294967293, 4, 0⟩,
      ⟨.obj 21, 0, 9, some 1, 4, 0⟩]
    ((outputs SequenceWatch.observe watch run).filter (· ≠ 0)).length ≤ 1 ∧
      ∀ before obs after, run = before ++ obs :: after → resyncAfter ≤ before.length →
        let reached := stateAfter SequenceWatch.observe watch before
        let seen := reached.observe obs
        seen.1 = 0 ∧ seen.2.resyncs = reached.resyncs ∧ seen.2.backwards = reached.backwards ∧
          (seen.2.streams.get? key).map StreamState.backwards =
            (reached.streams.get? key).map StreamState.backwards ∧
          (seen.2.missed.get? key).getD 0 = (reached.missed.get? key).getD 0 :=
  self_stabilises _ _ .records ⟨4294967290, 2, some .records, 3⟩ _ (by decide) rfl (by decide) (by
    refine ⟨⟨_, by decide, rfl, fun _ _ impossible => by cases impossible⟩, ?_, ?_, trivial⟩ <;>
    · refine ⟨_, by decide, rfl, ?_⟩
      rintro last before ⟨⟩ ⟨⟩
      rfl)

end Netflume
