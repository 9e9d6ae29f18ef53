import Mathlib.Algebra.Ring.Nat
import Mathlib.Data.List.Sort
import Netflume.Library.OrderedDict

/-! # Totals of a dictionary of counts

What an assignment adds to the sum of the values, what forgetting some keys takes
from it, and the entries with the largest counts first. -/

namespace Netflume.Library.OrderedDict

variable {κ ν : Type}

def total (dict : OrderedDict κ Nat) : Nat := (dict.entries.map Prod.snd).sum

/-- The values whose key satisfies `picked`, in the order of their keys. -/
def valuesOf (picked : κ → Bool) (dict : OrderedDict κ ν) : List ν := (dict.restrict picked).entries.map Prod.snd

/-- What is kept and what is forgotten make up the total. -/
theorem total_restrict (dict : OrderedDict κ Nat) (keep : κ → Bool) :
    (dict.restrict keep).total + (dict.valuesOf fun key => !keep key).sum = dict.total := by
  simp only [valuesOf, total, restrict]
  induction dict.entries with
  | nil => rfl
  | cons entry entries inductionHypothesis =>
    rw [List.map_cons, List.sum_cons, ← inductionHypothesis]
    cases kept : keep entry.1 with
    | true => simp [kept, Nat.add_assoc]
    | false => simp [kept, Nat.add_left_comm]

variable [DecidableEq κ]

theorem valuesOf_congr {picked others : κ → Bool} {dict : OrderedDict κ ν}
    (same : ∀ key, (dict.get? key).isSome = true → picked key = others key) :
    dict.valuesOf picked = dict.valuesOf others := by
  simp only [valuesOf, restrict]
  congr 1
  apply List.filter_congr
  intro entry member
  have held : dict.get? entry.1 = some entry.2 := get?_eq_some_iff.mpr member
  exact same entry.1 (by rw [held]; rfl)

theorem valuesOf_none {picked : κ → Bool} {dict : OrderedDict κ ν}
    (none : ∀ key, (dict.get? key).isSome = true → picked key = false) : dict.valuesOf picked = [] := by
  rw [valuesOf_congr none]
  simp [valuesOf, restrict]

/-- Keys are distinct, so one key picks at most one value. -/
theorem valuesOf_key (dict : OrderedDict κ ν) (key : κ) :
    dict.valuesOf (fun held => decide (held = key)) = (dict.get? key).toList := by
  obtain ⟨entries, distinct⟩ := dict
  simp only [valuesOf, restrict, get?]
  induction entries with
  | nil => rfl
  | cons entry entries inductionHypothesis =>
    obtain ⟨fresh, distinctRest⟩ := List.nodup_cons.mp distinct
    by_cases isKey : entry.1 = key
    · have others : entries.filter (fun entry => decide (entry.1 = key)) = [] := by
        apply List.filter_eq_nil_iff.mpr
        intro other member
        have different : other.1 ≠ key := fun again => fresh (isKey ▸ again ▸ List.mem_map_of_mem member)
        simpa using different
      simp [isKey, others]
    · simpa [isKey] using inductionHypothesis distinctRest

theorem total_erase (dict : OrderedDict κ Nat) (key : κ) :
    (dict.erase key).total + (dict.get? key).getD 0 = dict.total := by
  have split := dict.total_restrict fun held => held ≠ key
  have picked := dict.valuesOf_key key
  simp only [ne_eq, decide_not, Bool.not_not] at split
  rw [picked] at split
  rw [← split, erase]
  cases dict.get? key <;> simp

/-- An assignment adds the new value and takes away the one replaced. -/
theorem total_set (dict : OrderedDict κ Nat) (key : κ) (value : Nat) :
    (dict.set key value).total + (dict.get? key).getD 0 = dict.total + value := by
  have before := dict.total_erase key
  have after := (dict.set key value).total_erase key
  have others : (dict.set key value).erase key = dict.erase key := restrict_set_of_dropped (by simp) dict value
  rw [others, get?_set, if_pos rfl, Option.getD_some] at after
  omega

/-- Forgetting the keys of a list, one by one. -/
theorem eraseAll_eq_restrict {μ : Type} (popped : List (κ × μ)) (dict : OrderedDict κ ν) :
    popped.foldl (fun dict entry => dict.erase entry.1) dict =
      dict.restrict fun key => decide (key ∉ popped.map Prod.fst) := by
  induction popped generalizing dict with
  | nil => exact ext (by simp [restrict])
  | cons entry popped inductionHypothesis =>
    rw [List.foldl_cons, inductionHypothesis]
    apply ext
    simp only [erase, restrict, List.filter_filter]
    apply List.filter_congr
    intro held _
    by_cases first : held.1 = entry.1 <;> simp [first]

/-! ## The largest first -/

/-- `Counter.most_common()`: by falling count, entries of one count in the order they had. -/
def mostCommon (dict : OrderedDict κ Nat) : List (κ × Nat) :=
  dict.entries.insertionSort fun first second => second.2 ≤ first.2

omit [DecidableEq κ] in
theorem mostCommon_perm (dict : OrderedDict κ Nat) : dict.mostCommon.Perm dict.entries := List.perm_insertionSort _ _

omit [DecidableEq κ] in
theorem mostCommon_sorted (dict : OrderedDict κ Nat) :
    dict.mostCommon.Pairwise fun first second => second.2 ≤ first.2 := by
  have total : Std.Total fun first second : κ × Nat => second.2 ≤ first.2 := ⟨fun first second => Nat.le_total _ _⟩
  have transitive : IsTrans (κ × Nat) fun first second => second.2 ≤ first.2 :=
    ⟨fun first second third larger largest => Nat.le_trans largest larger⟩
  exact List.pairwise_insertionSort _ _

end Netflume.Library.OrderedDict
