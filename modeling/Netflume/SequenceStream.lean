import Netflume.Library.Machine
import Netflume.Library.Recency
import Netflume.SequenceClean

/-! # One stream of the watch

What the watch holds about a single stream, and what a message of the stream does
to it.  Nothing else the watch holds enters into either, so runs of one stream's
messages are followed here without the dictionaries. -/

namespace Netflume

open Library

/-- What the watch holds about a stream, and the two totals it keeps for all streams. -/
structure StreamView where
  state : Option StreamState
  missed : Nat
  unit : Option String
  resyncs : Nat
  backwards : Nat
  deriving DecidableEq, Repr

def SequenceWatch.view (watch : SequenceWatch) (key : StreamKey) : StreamView where
  state := watch.streams.get? key
  missed := (watch.missed.get? key).getD 0
  unit := watch.units.get? key
  resyncs := watch.resyncs
  backwards := watch.backwards

namespace StreamState

variable (state : StreamState) (mode : Mode) (seq : Nat)

/-- How far a message stands from where the next one is expected. -/
def distance : Int := signedGap seq (state.expected mode)

/-- A message too little behind, and too soon after others that were, to be a restart. -/
def Stale : Prop :=
  state.distance mode seq < 0 ∧ -(maxReorder : Int) ≤ state.distance mode seq ∧ state.backwards + 1 < resyncAfter

instance : Decidable (state.Stale mode seq) := inferInstanceAs (Decidable (_ ∧ _))

/-- What a message ahead of the one expected is taken to say is lost. -/
def loss : Nat :=
  if state.distance mode seq ≤ maxPlausibleGap then (state.distance mode seq).toNat else 0

/-- A step back or ahead that is too long for a late message or a loss. -/
def Restarts : Prop := state.distance mode seq < 0 ∨ (maxPlausibleGap : Int) < state.distance mode seq

instance : Decidable (state.Restarts mode seq) := inferInstanceAs (Decidable (_ ∨ _))

/-- The distance is what the counter has moved past the value expected, up to half the modulus either way. -/
theorem distance_eq {moved : Int} (low : -(seqModulus / 2 : Nat) ≤ moved) (high : moved < (seqModulus / 2 : Nat))
    (lands : (seq : Int) % seqModulus = (state.expected mode + moved) % seqModulus) :
    state.distance mode seq = moved := by
  unfold distance signedGap seqModulus at *
  omega

theorem distance_expected : state.distance mode (state.expected mode) = 0 :=
  state.distance_eq mode _ (by decide) (by decide) (by rw [Int.add_zero])

end StreamState

namespace StreamView

/-- A message of a stream whose rule is known: set aside as stale, or taken as the new base. -/
def judge (view : StreamView) (version : Nat) (state : StreamState) (mode : Mode) (seq records : Nat) :
    Nat × StreamView :=
  if state.Stale mode seq then
    (0, { view with
      state := some { state with backwards := state.backwards + 1 }
      backwards := view.backwards + 1 })
  else
    let lost := state.loss mode seq
    (lost, { view with
      state := some { state with seq := seq, records := records, backwards := 0 }
      missed := view.missed + lost
      unit := if lost = 0 then view.unit else some (SequenceWatch.unit mode version)
      resyncs := if state.Restarts mode seq then view.resyncs + 1 else view.resyncs })

/-- What a message of the stream does. -/
def observe (view : StreamView) (obs : Observation) : Nat × StreamView :=
  match obs.seq with
  | none => (0, view)
  | some seq =>
    match view.state with
    | none => (0, { view with state := some ⟨seq, obs.records, none, 0⟩ })
    | some state =>
      match state.mode with
      | none => (0, { view with
          state := some { state with seq := seq, records := obs.records, mode := state.learnMode seq } })
      | some mode => view.judge obs.version state mode seq obs.records

/-- How far a message stands from the value expected, once the rule of the stream is known. -/
def distance (view : StreamView) (obs : Observation) : Option Int := do
  let seq ← obs.seq
  let state ← view.state
  let mode ← state.mode
  pure (state.distance mode seq)

def distances (view : StreamView) (run : List Observation) : List Int :=
  collect observe (fun view obs => (view.distance obs).toList) view run

theorem observe_held {obs : Observation} {seq : Nat} (counted : obs.seq = some seq) (view : StreamView) :
    (view.observe obs).2.state.isSome = true := by
  unfold observe judge
  rw [counted]
  cases view.state with
  | none => rfl
  | some state =>
    cases mode : state.mode with
    | none => simp [mode]
    | some mode' =>
      simp only [mode]
      split <;> rfl

end StreamView

namespace SequenceWatch

/-! ## The view of one call -/

theorem view_recordLoss (watch : SequenceWatch) (key : StreamKey) (mode : Mode) (gap : Nat) :
    (watch.recordLoss key mode gap).view key =
      { watch.view key with
        missed := (watch.view key).missed + gap
        unit := some (unit mode key.version) } := by
  rw [recordLoss]
  split <;> simp [view]

section Judging

variable {state : StreamState} {mode : Mode} {seq : Nat}

theorem judge_stale (stale : state.Stale mode seq) (watch : SequenceWatch) (key : StreamKey) (records : Nat) :
    watch.judge key state mode seq records =
      (0, { watch.setState key { state with backwards := state.backwards + 1 } with
        backwards := watch.backwards + 1 }) := by
  rw [judge]
  exact (if_pos stale.1).trans (if_pos stale.2)

theorem judge_restart (moves : ¬ state.Stale mode seq) (restarts : state.Restarts mode seq) (watch : SequenceWatch)
    (key : StreamKey) (records : Nat) :
    watch.judge key state mode seq records =
      (0, { watch.setState key { state with seq := seq, records := records, backwards := 0 } with
        resyncs := watch.resyncs + 1 }) := by
  rw [judge]
  rcases restarts with behind | ahead
  · exact (if_pos behind).trans (if_neg fun near => moves ⟨behind, near⟩)
  · have boundNonneg : (0 : Int) ≤ maxPlausibleGap := Int.natCast_nonneg _
    have notBehind : ¬ state.distance mode seq < 0 := by omega
    have notInStep : ¬ state.distance mode seq = 0 := by omega
    exact (if_neg notBehind).trans ((if_neg notInStep).trans (if_pos ahead))

/-- Neither stale nor a restart: in step, or ahead by a plausible loss. -/
theorem distance_eq_loss (moves : ¬ state.Restarts mode seq) :
    state.distance mode seq = state.loss mode seq ∧ state.loss mode seq ≤ maxPlausibleGap := by
  have inside := not_or.mp moves
  rw [StreamState.loss]
  rw [if_pos (by omega)]
  omega

theorem loss_of_restarts (restarts : state.Restarts mode seq) : state.loss mode seq = 0 := by
  rw [StreamState.loss]
  rcases restarts with behind | ahead
  · split
    · exact Int.toNat_of_nonpos (by omega)
    · rfl
  · exact if_neg (by omega)

/-- The view of a message judged is the judgement of the view. -/
theorem view_judge (watch : SequenceWatch) (key : StreamKey) (state : StreamState) (mode : Mode) (seq records : Nat) :
    (watch.judge key state mode seq records).1 = ((watch.view key).judge key.version state mode seq records).1 ∧
      (watch.judge key state mode seq records).2.view key =
        ((watch.view key).judge key.version state mode seq records).2 := by
  rw [StreamView.judge]
  by_cases stale : state.Stale mode seq
  · rw [judge_stale stale, if_pos stale]
    exact ⟨rfl, by simp [view, setState]⟩
  · rw [if_neg stale]
    by_cases restarts : state.Restarts mode seq
    · rw [judge_restart stale restarts, if_pos restarts, loss_of_restarts restarts]
      exact ⟨rfl, by simp [view, setState]⟩
    · obtain ⟨ahead, few⟩ := distance_eq_loss restarts
      rw [judge_ahead few ahead, if_neg restarts]
      refine ⟨rfl, ?_⟩
      by_cases nothing : state.loss mode seq = 0
      · simp [nothing, view, setState]
      · simp only [if_neg nothing]
        rw [view_recordLoss]
        simp [view, setState]

end Judging

/-- The stream is held, or its first message will be. -/
def Keeps (watch : SequenceWatch) (key : StreamKey) : Prop :=
  1 ≤ watch.maxStreams ∨ (watch.streams.get? key).isSome = true

/-- The view of a stream seen for the first time. -/
theorem view_firstSeen {watch : SequenceWatch} {key : StreamKey} (room : 1 ≤ watch.maxStreams)
    (unseen : watch.streams.get? key = none) (seq records : Nat) :
    (watch.firstSeen key seq records).view key = { watch.view key with state := some ⟨seq, records, none, 0⟩ } := by
  have placed : watch.streams.set key ⟨seq, records, none, 0⟩ = watch.streams.place key ⟨seq, records, none, 0⟩ := by
    simp [OrderedDict.set, OrderedDict.contains, unseen]
  have kept := OrderedDict.get?_trim_place room watch.streams key (⟨seq, records, none, 0⟩ : StreamState)
  have notPopped : key ∉ ((watch.streams.place key ⟨seq, records, none, 0⟩).trim watch.maxStreams).1.map Prod.fst := by
    intro popped
    rw [OrderedDict.get?_trim, if_pos popped] at kept
    cases kept
  simp only [firstSeen, evict, setState, view, placed, OrderedDict.get?_eraseAll, if_neg notPopped, kept]

/-- The view of a message observed is the observation of the view. -/
theorem view_observe {watch : SequenceWatch} {obs : Observation} (keeps : watch.Keeps obs.key) :
    (watch.observe obs).2.Keeps obs.key ∧ (watch.observe obs).1 = ((watch.view obs.key).observe obs).1 ∧
      (watch.observe obs).2.view obs.key = ((watch.view obs.key).observe obs).2 := by
  have viewed : (watch.observe obs).1 = ((watch.view obs.key).observe obs).1 ∧
      (watch.observe obs).2.view obs.key = ((watch.view obs.key).observe obs).2 := by
    rw [StreamView.observe]
    cases counted : obs.seq with
    | none => simp only [observe, counted, and_self]
    | some seq =>
      cases held : watch.streams.get? obs.key with
      | none =>
        have room := keeps.resolve_right (by simp [held])
        have unseen : (watch.view obs.key).state = none := held
        rw [observe_new counted held, unseen]
        exact ⟨rfl, view_firstSeen room held seq obs.records⟩
      | some state =>
        have seen : (watch.view obs.key).state = some state := held
        rw [seen]
        cases mode : state.mode with
        | none =>
          rw [observe_unlearned counted held mode]
          simp only [mode]
          exact ⟨trivial, by simp [view, setState]⟩
        | some mode' =>
          rw [observe_learned counted held mode]
          simp only [mode]
          have judged := view_judge { watch with streams := watch.streams.moveToEnd obs.key } obs.key state mode' seq
            obs.records
          have sameView : { watch with streams := watch.streams.moveToEnd obs.key }.view obs.key =
              watch.view obs.key := by simp [view]
          rw [sameView] at judged
          exact judged
  refine ⟨?_, viewed⟩
  cases counted : obs.seq with
  | none => simpa only [observe, counted] using keeps
  | some seq =>
    refine .inr ?_
    have state : (watch.observe obs).2.streams.get? obs.key = ((watch.view obs.key).observe obs).2.state :=
      congrArg StreamView.state viewed.2
    rw [state]
    exact StreamView.observe_held counted _

theorem view_observe_own (key : StreamKey) (watch : SequenceWatch) (obs : Observation) (keeps : watch.Keeps key)
    (own : obs.key = key) :
    (watch.observe obs).2.Keeps key ∧ (watch.observe obs).1 = ((watch.view key).observe obs).1 ∧
      (watch.observe obs).2.view key = ((watch.view key).observe obs).2 := by
  subst own
  exact view_observe keeps

/-- A run of one stream's messages is a run of its view. -/
theorem view_run {watch : SequenceWatch} {key : StreamKey} (keeps : watch.Keeps key) {run : List Observation}
    (own : ∀ obs ∈ run, obs.key = key) :
    (stateAfter observe watch run).Keeps key ∧
      outputs observe watch run = outputs StreamView.observe (watch.view key) run ∧
      (stateAfter observe watch run).view key = stateAfter StreamView.observe (watch.view key) run := by
  exact outputs_project_on (fun watch => view watch key) (fun watch => Keeps watch key) (fun obs => obs.key = key)
    (view_observe_own key) keeps own

/-- How far each message of a run stands from the value expected at its moment. -/
def distances (watch : SequenceWatch) (key : StreamKey) (run : List Observation) : List Int :=
  collect observe (fun watch obs => ((watch.view key).distance obs).toList) watch run

theorem distances_run {watch : SequenceWatch} {key : StreamKey} (keeps : watch.Keeps key) {run : List Observation}
    (own : ∀ obs ∈ run, obs.key = key) : watch.distances key run = (watch.view key).distances run :=
  collect_project_on (fun watch => view watch key) (fun watch => Keeps watch key)
    (fun obs : Observation => obs.key = key) (view_observe_own key) (fun view obs => (view.distance obs).toList) keeps own

end SequenceWatch

end Netflume
