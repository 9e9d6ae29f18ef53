import Mathlib.Logic.Basic

/-! # Computations that may fail

Whether a computation returns at all, told from its parts. -/

namespace Netflume.Library

variable {ε α β γ : Type}

def Returns (computation : Except ε α) : Prop := ∃ value, computation = .ok value

@[simp] theorem returns_ok (value : α) : Returns (.ok value : Except ε α) := ⟨value, rfl⟩

@[simp] theorem returns_pure (value : α) : Returns (pure value : Except ε α) := ⟨value, rfl⟩

@[simp] theorem not_returns_error (error : ε) : ¬ Returns (.error error : Except ε α) := by
  rintro ⟨value, same⟩
  cases same

instance decidableReturns (computation : Except ε α) : Decidable (∃ value, computation = .ok value) :=
  match computation with
  | .ok value => .isTrue (returns_ok value)
  | .error error => .isFalse (not_returns_error error)

theorem ok_bind (value : α) (next : α → Except ε β) : (.ok value >>= next) = next value := rfl

/-- A sequence returns what its second part does, from what the first returned. -/
theorem bind_eq_ok {computation : Except ε α} {next : α → Except ε β} {result : β} :
    (computation >>= next) = .ok result ↔ ∃ value, computation = .ok value ∧ next value = .ok result := by
  cases computation with
  | error error =>
    constructor
    · intro same
      cases same
    · rintro ⟨_, same, _⟩
      cases same
  | ok value =>
    constructor
    · exact fun same => ⟨value, rfl, same⟩
    · rintro ⟨_, same, rest⟩
      cases same
      exact rest

theorem returns_bind {computation : Except ε α} {next : α → Except ε β} :
    Returns (computation >>= next) ↔ ∃ value, computation = .ok value ∧ Returns (next value) := by
  rw [Returns]
  simp only [bind_eq_ok]
  exact ⟨fun ⟨result, value, same, rest⟩ => ⟨value, same, result, rest⟩,
    fun ⟨value, same, result, rest⟩ => ⟨result, value, same, rest⟩⟩

/-- Where what follows returns or not whatever the first part gave. -/
theorem returns_bind_iff {computation : Except ε α} {next : α → Except ε β} {follows : Prop}
    (decided : ∀ value, computation = .ok value → (Returns (next value) ↔ follows)) :
    Returns (computation >>= next) ↔ Returns computation ∧ follows := by
  rw [returns_bind, Returns, ← exists_and_right]
  exact exists_congr fun value => and_congr_right (decided value)

/-- Where what follows always returns, the first part decides. -/
theorem returns_bind_of_returns {computation : Except ε α} {next : α → Except ε β}
    (always : ∀ value, computation = .ok value → Returns (next value)) :
    Returns (computation >>= next) ↔ Returns computation := by
  rw [returns_bind_iff fun value same => iff_true_intro (always value same), and_true]

/-- Two parts that do not depend on each other, and a result made of both. -/
theorem returns_both {first : Except ε α} {second : Except ε β} (combine : α → β → γ) :
    Returns (first >>= fun left => second >>= fun right => pure (combine left right)) ↔
      Returns first ∧ Returns second :=
  returns_bind_iff fun _ _ => returns_bind_of_returns fun _ _ => returns_pure _

theorem returns_mapM {compute : α → Except ε β} {items : List α} :
    Returns (items.mapM compute) ↔ ∀ item ∈ items, Returns (compute item) := by
  induction items with
  | nil => simp
  | cons item items inductionHypothesis =>
    rw [List.mapM_cons, List.forall_mem_cons, ← inductionHypothesis]
    exact returns_both List.cons

/-- What is made of each item still shows the item it was made of. -/
theorem map_of_mapM {compute : α → Except ε β} {source : β → α}
    (keeps : ∀ item made, compute item = .ok made → source made = item) {items : List α} {results : List β}
    (computed : items.mapM compute = .ok results) : results.map source = items := by
  induction items generalizing results with
  | nil =>
    cases computed
    rfl
  | cons item items inductionHypothesis =>
    rw [List.mapM_cons, bind_eq_ok] at computed
    obtain ⟨made, first, computed⟩ := computed
    rw [bind_eq_ok] at computed
    obtain ⟨rest, others, same⟩ := computed
    cases same
    rw [List.map_cons, keeps item made first, inductionHypothesis others]

theorem mem_of_mapM {compute : α → Except ε β} {items : List α} {results : List β}
    (computed : items.mapM compute = .ok results) {result : β} (member : result ∈ results) :
    ∃ item ∈ items, compute item = .ok result := by
  induction items generalizing results with
  | nil =>
    cases computed
    cases member
  | cons item items inductionHypothesis =>
    rw [List.mapM_cons, bind_eq_ok] at computed
    obtain ⟨made, first, computed⟩ := computed
    rw [bind_eq_ok] at computed
    obtain ⟨rest, others, same⟩ := computed
    cases same
    obtain rfl | later := List.mem_cons.mp member
    · exact ⟨item, List.mem_cons_self, first⟩
    · obtain ⟨source, isSource, made⟩ := inductionHypothesis others later
      exact ⟨source, List.mem_cons_of_mem _ isSource, made⟩

end Netflume.Library
