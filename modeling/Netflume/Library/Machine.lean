import Mathlib.Data.List.Basic

/-! # Machines driven by inputs

A machine is a step from a state and an input to an output and the next state.
The rules here carry a fact about one step to every run: an invariant, a history
collected along the way, a projection onto a smaller machine, and unwinding, by
which the inputs of one party answer as they would if no one else's had been
there. -/

namespace Netflume.Library

variable {σ τ ι ω : Type}

/-- The state after a run of inputs. -/
def stateAfter (step : σ → ι → ω × σ) (state : σ) (inputs : List ι) : σ :=
  inputs.foldl (fun state input => (step state input).2) state

/-- What the machine answers, input by input. -/
def outputs (step : σ → ι → ω × σ) : σ → List ι → List ω
  | _, [] => []
  | state, input :: inputs => (step state input).1 :: outputs step (step state input).2 inputs

/-- What `note` has to say at each step of a run, in order. -/
def collect {α : Type} (step : σ → ι → ω × σ) (note : σ → ι → List α) : σ → List ι → List α
  | _, [] => []
  | state, input :: inputs => note state input ++ collect step note (step state input).2 inputs

section Rules

variable {step : σ → ι → ω × σ}

theorem stateAfter_append (state : σ) (first second : List ι) :
    stateAfter step state (first ++ second) = stateAfter step (stateAfter step state first) second :=
  List.foldl_append

@[simp] theorem stateAfter_snoc (state : σ) (inputs : List ι) (input : ι) :
    stateAfter step state (inputs ++ [input]) = (step (stateAfter step state inputs) input).2 :=
  stateAfter_append state inputs [input]

theorem outputs_append (state : σ) (first second : List ι) :
    outputs step state (first ++ second) =
      outputs step state first ++ outputs step (stateAfter step state first) second := by
  induction first generalizing state with
  | nil => rfl
  | cons input inputs inductionHypothesis =>
    rw [List.cons_append, outputs, outputs, inductionHypothesis, List.cons_append]
    rfl

@[simp] theorem outputs_snoc (state : σ) (inputs : List ι) (input : ι) :
    outputs step state (inputs ++ [input]) =
      outputs step state inputs ++ [(step (stateAfter step state inputs) input).1] := by
  induction inputs generalizing state with
  | nil => rfl
  | cons first inputs inductionHypothesis =>
    rw [List.cons_append, outputs, outputs, inductionHypothesis]
    rfl

theorem collect_append {α : Type} (note : σ → ι → List α) (state : σ) (first second : List ι) :
    collect step note state (first ++ second) =
      collect step note state first ++ collect step note (stateAfter step state first) second := by
  induction first generalizing state with
  | nil => rfl
  | cons input inputs inductionHypothesis =>
    rw [List.cons_append, collect, collect, inductionHypothesis, List.append_assoc]
    rfl

@[simp] theorem collect_snoc {α : Type} (note : σ → ι → List α) (state : σ) (inputs : List ι) (input : ι) :
    collect step note state (inputs ++ [input]) =
      collect step note state inputs ++ note (stateAfter step state inputs) input := by
  rw [collect_append, collect, collect, List.append_nil]

/-- What holds at the start and is kept by every step holds after every run. -/
theorem invariant_stateAfter {holds : σ → Prop} (kept : ∀ state input, holds state → holds (step state input).2)
    {state : σ} (start : holds state) (inputs : List ι) : holds (stateAfter step state inputs) := by
  induction inputs generalizing state with
  | nil => exact start
  | cons input inputs inductionHypothesis => exact inductionHypothesis (kept state input start)

/-- A property of every answer, from the states in which the answers are given. -/
theorem forall_mem_outputs {property : ω → Prop} (state : σ) (inputs : List ι) :
    (∀ output ∈ outputs step state inputs, property output) ↔
      ∀ before input after, inputs = before ++ input :: after →
        property (step (stateAfter step state before) input).1 := by
  induction inputs generalizing state with
  | nil => simp [outputs]
  | cons input inputs inductionHypothesis =>
    rw [outputs, List.forall_mem_cons, inductionHypothesis]
    constructor
    · rintro ⟨first, rest⟩ before other after split
      cases before with
      | nil =>
        cases split
        exact first
      | cons head before =>
        cases split
        exact rest before other after rfl
    · intro all
      refine ⟨all [] input inputs rfl, fun before other after split => all (input :: before) other after ?_⟩
      rw [split]
      rfl

/-- On inputs of one kind a machine answers as its projection does, from states in which their steps commute with it. -/
theorem outputs_project_on {small : τ → ι → ω × τ} (project : σ → τ) (holds : σ → Prop) (own : ι → Prop)
    (commutes : ∀ state input, holds state → own input → holds (step state input).2 ∧
      (step state input).1 = (small (project state) input).1 ∧
      project (step state input).2 = (small (project state) input).2)
    {state : σ} (start : holds state) {inputs : List ι} (allOwn : ∀ input ∈ inputs, own input) :
    holds (stateAfter step state inputs) ∧ outputs step state inputs = outputs small (project state) inputs ∧
      project (stateAfter step state inputs) = stateAfter small (project state) inputs := by
  induction inputs generalizing state with
  | nil => exact ⟨start, rfl, rfl⟩
  | cons input inputs inductionHypothesis =>
    obtain ⟨kept, answer, next⟩ := commutes state input start (allOwn input List.mem_cons_self)
    obtain ⟨keptLast, answers, last⟩ :=
      inductionHypothesis kept fun other member => allOwn other (List.mem_cons_of_mem _ member)
    rw [next] at answers last
    exact ⟨keptLast, by rw [outputs, outputs, answer, answers], last⟩

/-- A machine whose steps all commute with a projection answers as the projected one does. -/
theorem outputs_project {small : τ → ι → ω × τ} (project : σ → τ)
    (commutes : ∀ state input, (step state input).1 = (small (project state) input).1 ∧
      project (step state input).2 = (small (project state) input).2) (state : σ) (inputs : List ι) :
    outputs step state inputs = outputs small (project state) inputs ∧
      project (stateAfter step state inputs) = stateAfter small (project state) inputs :=
  (outputs_project_on project (fun _ => True) (fun _ => True) (fun state input _ _ => ⟨trivial, commutes state input⟩)
    trivial fun _ _ => trivial).2

/-- What is collected along the run is what the projected machine collects. -/
theorem collect_project_on {α : Type} {small : τ → ι → ω × τ} (project : σ → τ) (holds : σ → Prop) (own : ι → Prop)
    (commutes : ∀ state input, holds state → own input → holds (step state input).2 ∧
      (step state input).1 = (small (project state) input).1 ∧
      project (step state input).2 = (small (project state) input).2)
    (note : τ → ι → List α) {state : σ} (start : holds state) {inputs : List ι} (allOwn : ∀ input ∈ inputs, own input) :
    collect step (fun state input => note (project state) input) state inputs =
      collect small note (project state) inputs := by
  induction inputs generalizing state with
  | nil => rfl
  | cons input inputs inductionHypothesis =>
    obtain ⟨kept, _, next⟩ := commutes state input start (allOwn input List.mem_cons_self)
    have rest := inductionHypothesis kept fun other member => allOwn other (List.mem_cons_of_mem _ member)
    rw [collect, collect, rest, next]

/-- A machine and one fed a translation of its inputs, whose steps keep a relation. -/
theorem stateAfter_related {θ κ : Type} {small : τ → κ → θ × τ} {related : τ → σ → Prop} (translate : ι → κ)
    (steps : ∀ low high input, related low high → related (small low (translate input)).2 (step high input).2)
    {low : τ} {high : σ} (start : related low high) (inputs : List ι) :
    related (stateAfter small low (inputs.map translate)) (stateAfter step high inputs) := by
  induction inputs generalizing low high with
  | nil => exact start
  | cons input inputs inductionHypothesis => exact inductionHypothesis (steps low high input start)

/-- A listener that folds in all that is noted stays true of the machine, if it does over every step allowed. -/
theorem told_run {α β : Type} {note : σ → ι → List α} {hear : β → α → β} {tells : β → σ → Prop} (allowed : σ → ι → Prop)
    (steps : ∀ told state input, allowed state input → tells told state →
      tells ((note state input).foldl hear told) (step state input).2)
    {told : β} {state : σ} (start : tells told state) (inputs : List ι)
    (all : ∀ before input after, inputs = before ++ input :: after → allowed (stateAfter step state before) input) :
    tells ((collect step note state inputs).foldl hear told) (stateAfter step state inputs) := by
  induction inputs generalizing told state with
  | nil => exact start
  | cons input inputs inductionHypothesis =>
    have next := steps told state input (all [] input inputs rfl) start
    rw [collect, List.foldl_append]
    refine inductionHypothesis next fun before other after split => all (input :: before) other after ?_
    rw [split]
    rfl

/-- What no step restores held at the start if it holds at the end. -/
theorem start_of_stateAfter {quiet : σ → Prop} (lasting : ∀ state input, quiet (step state input).2 → quiet state)
    {state : σ} {inputs : List ι} (ends : quiet (stateAfter step state inputs)) : quiet state := by
  induction inputs generalizing state with
  | nil => exact ends
  | cons input inputs inductionHypothesis => exact lasting state input (inductionHypothesis ends)

/-- Unwinding: `low` sees the inputs of one party alone, `high` sees them among others.  The relation
need only survive while `high` stays quiet. -/
theorem unwinding {small : τ → ι → ω × τ} {own : ι → Bool} {related : τ → σ → Prop} {quiet : σ → Prop}
    (lasting : ∀ state input, quiet (step state input).2 → quiet state)
    (ownStep : ∀ low high input, own input = true → related low high → quiet (step high input).2 →
      (small low input).1 = (step high input).1 ∧ related (small low input).2 (step high input).2)
    (otherStep : ∀ low high input, own input = false → related low high → quiet (step high input).2 →
      related low (step high input).2)
    {low : τ} {high : σ} (start : related low high) (inputs : List ι) (ends : quiet (stateAfter step high inputs)) :
    outputs small low (inputs.filter own) =
        ((inputs.zip (outputs step high inputs)).filter fun answered => own answered.1).map Prod.snd ∧
      related (stateAfter small low (inputs.filter own)) (stateAfter step high inputs) := by
  induction inputs generalizing low high with
  | nil => exact ⟨rfl, start⟩
  | cons input inputs inductionHypothesis =>
    have quietNext : quiet (step high input).2 := start_of_stateAfter lasting ends
    cases mine : own input with
    | true =>
      obtain ⟨answer, relatedNext⟩ := ownStep low high input mine start quietNext
      obtain ⟨answers, last⟩ := inductionHypothesis relatedNext ends
      simp only [List.filter_cons, mine, outputs, List.zip_cons_cons, if_true, List.map_cons]
      exact ⟨by rw [answer, answers], last⟩
    | false =>
      have relatedNext := otherStep low high input mine start quietNext
      simp only [List.filter_cons, mine, outputs, List.zip_cons_cons, Bool.false_eq_true, if_false]
      exact inductionHypothesis relatedNext ends

end Rules

end Netflume.Library
