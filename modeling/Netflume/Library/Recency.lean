import Mathlib.Data.List.Dedup
import Mathlib.Data.List.DropRight
import Mathlib.Data.List.Lattice
import Mathlib.Data.List.Perm.Subperm
import Netflume.Library.OrderedDict

/-! # Order of use

A history of uses names keys, the latest use last.  The keys used most recently
are the end of the history once every use but the last of each key is struck
out.  A bounded dictionary that renews the place of a key at every use, and drops
from the front, holds exactly those. -/

namespace Netflume.Library

variable {κ ν : Type} [DecidableEq κ]

/-- The `ceiling` keys used most recently, the latest last; all keys used when they are fewer. -/
def mostRecent (ceiling : Nat) (uses : List κ) : List κ := uses.dedup.rtake ceiling

section Lists

theorem rtake_append_of_le {α : Type} {count : Nat} {back : List α} (front : List α) (enough : count ≤ back.length) :
    (front ++ back).rtake count = back.rtake count := by
  unfold List.rtake
  rw [List.length_append, Nat.add_sub_assoc enough, List.drop_append, Nat.add_sub_cancel_left,
    List.drop_of_length_le (by omega), List.nil_append]

theorem rtake_of_length_le {α : Type} {count : Nat} {list : List α} (few : list.length ≤ count) :
    list.rtake count = list := by
  rw [List.rtake, Nat.sub_eq_zero_of_le few, List.drop_zero]

theorem length_rtake_le {α : Type} (count : Nat) (list : List α) : (list.rtake count).length ≤ count := by
  rw [List.rtake, List.length_drop]
  omega

/-- The last use of a key strikes out the earlier ones. -/
theorem dedup_snoc (uses : List κ) (key : κ) :
    (uses ++ [key]).dedup = uses.dedup.filter (· ≠ key) ++ [key] := by
  induction uses with
  | nil => rfl
  | cons first uses inductionHypothesis =>
    rw [List.cons_append]
    by_cases again : first ∈ uses
    · rw [List.dedup_cons_of_mem (List.mem_append_left _ again), List.dedup_cons_of_mem again, inductionHypothesis]
    · by_cases isKey : first = key
      · subst isKey
        rw [List.dedup_cons_of_mem (by simp), List.dedup_cons_of_notMem again, inductionHypothesis]
        simp
      · rw [List.dedup_cons_of_notMem (by simp [again, isKey]), List.dedup_cons_of_notMem again,
          inductionHypothesis]
        simp [isKey]

/-- Distinct keys lose at most one to a filter that strikes out one key. -/
theorem length_le_filter_ne {keys : List κ} (distinct : keys.Nodup) (key : κ) :
    keys.length ≤ (keys.filter (· ≠ key)).length + 1 := by
  have covered : keys ⊆ key :: keys.filter (· ≠ key) := by
    intro held member
    by_cases isKey : held = key <;> simp [isKey, member]
  exact (distinct.subperm covered).length_le

theorem length_filter_ne_lt {keys : List κ} {key : κ} (member : key ∈ keys) :
    (keys.filter (· ≠ key)).length < keys.length :=
  List.length_filter_lt_length_iff_exists.mpr ⟨key, member, by simp⟩

end Lists

theorem length_mostRecent_le (ceiling : Nat) (uses : List κ) : (mostRecent ceiling uses).length ≤ ceiling :=
  length_rtake_le ceiling _

/-- What one more use does to the keys used most recently. -/
theorem mostRecent_snoc (ceiling : Nat) (uses : List κ) (key : κ) :
    mostRecent ceiling (uses ++ [key]) = ((mostRecent ceiling uses).filter (· ≠ key) ++ [key]).rtake ceiling := by
  unfold mostRecent
  rw [dedup_snoc]
  have distinct := List.nodup_dedup uses
  generalize uses.dedup = keys at distinct
  by_cases few : keys.length ≤ ceiling
  · rw [rtake_of_length_le few]
  · have kept : (keys.rtake ceiling).length = ceiling := by
      rw [List.rtake, List.length_drop]
      omega
    have split : keys = keys.take (keys.length - ceiling) ++ keys.rtake ceiling :=
      (List.take_append_drop _ keys).symm
    have keptDistinct : (keys.rtake ceiling).Nodup := distinct.sublist (List.drop_sublist _ _)
    have enough := length_le_filter_ne keptDistinct key
    conv_lhs => rw [split, List.filter_append, List.append_assoc]
    exact rtake_append_of_le _ (by simp only [List.length_append, List.length_singleton]; omega)

/-- A key is among the most recent as long as fewer than `ceiling` others were used since. -/
theorem mem_mostRecent {ceiling : Nat} {key : κ} {since : List κ} (before : List κ)
    (few : (since.filter (· ≠ key)).dedup.length < ceiling) : key ∈ mostRecent ceiling (before ++ key :: since) := by
  have suffix : (key :: since).dedup <:+ (before ++ key :: since).dedup := by
    rw [List.dedup_append]
    exact List.suffix_union_right _ _
  have covered : (key :: since).dedup ⊆ key :: (since.filter (· ≠ key)).dedup := by
    intro used member
    by_cases isKey : used = key
    · simp [isKey]
    · have later : used ∈ since := by simpa [isKey] using member
      simp [isKey, later]
  have short := ((List.nodup_dedup (key :: since)).subperm covered).length_le
  obtain ⟨front, split⟩ := suffix
  have member : key ∈ (key :: since).dedup := by simp
  rw [mostRecent, List.rtake, ← split, List.drop_append]
  apply List.mem_append_right _
  rw [Nat.sub_eq_zero_of_le (by simp only [List.length_append, List.length_cons] at short ⊢; omega)]
  exact member

namespace OrderedDict

/-! ## The keys of a dictionary in order of use -/

def keys (dict : OrderedDict κ ν) : List κ := dict.entries.map Prod.fst

theorem mem_keys_iff (dict : OrderedDict κ ν) (key : κ) : key ∈ dict.keys ↔ (dict.get? key).isSome = true := by
  simp [keys, get?]

theorem keys_place (dict : OrderedDict κ ν) (key : κ) (value : ν) :
    (dict.place key value).keys = dict.keys.filter (· ≠ key) ++ [key] := by
  simp only [keys, place, erase, restrict, List.map_append, List.map_cons, List.map_nil, List.filter_map]
  rfl

/-- Assigning to a key held leaves the keys and their order as they were. -/
theorem keys_set_of_held {dict : OrderedDict κ ν} {key : κ} (held : (dict.get? key).isSome = true) (value : ν) :
    (dict.set key value).keys = dict.keys := by
  rw [set, contains, if_pos held]
  simp only [keys, overwrite, List.map_map]
  apply List.map_congr_left
  intro entry _
  by_cases isKey : entry.1 = key <;> simp [isKey]

/-- Placing a key not held makes one entry more. -/
theorem size_place (dict : OrderedDict κ ν) (key : κ) (value : ν) :
    (dict.place key value).size = if dict.contains key then dict.size else dict.size + 1 := by
  rw [contains]
  split
  · rename_i held
    have member : key ∈ dict.keys := (dict.mem_keys_iff key).mpr held
    have placed : (dict.place key value).keys.length = (dict.keys.filter (· ≠ key)).length + 1 := by
      rw [keys_place, List.length_append, List.length_singleton]
    have most := length_le_filter_ne dict.nodup key
    have fewer := length_filter_ne_lt member
    simp only [keys, List.length_map] at placed most fewer
    simp only [size]
    omega
  · rename_i missing
    have absent : dict.get? key = none := by simpa using missing
    simp [size, place, erase_of_not_held absent]

@[simp] theorem size_moveToEnd (dict : OrderedDict κ ν) (key : κ) : (dict.moveToEnd key).size = dict.size := by
  rw [moveToEnd]
  split
  · rename_i value lookup
    rw [size_place, contains, lookup]
    rfl
  · rfl

/-- A dictionary whose keys are all images of another's keys is no larger. -/
theorem size_le_of_image {ι μ : Type} [DecidableEq ι] {dict : OrderedDict κ ν} {other : OrderedDict ι μ} (image : ι → κ)
    (held : ∀ key, (dict.get? key).isSome = true → ∃ source, (other.get? source).isSome = true ∧ image source = key) :
    dict.size ≤ other.size := by
  have covered : dict.keys ⊆ other.keys.map image := by
    intro key member
    obtain ⟨source, isHeld, isImage⟩ := held key ((dict.mem_keys_iff key).mp member)
    exact List.mem_map.mpr ⟨source, (other.mem_keys_iff source).mpr isHeld, isImage⟩
  have few := (List.Nodup.subperm dict.nodup covered).length_le
  simpa [keys, size] using few

/-- A dictionary with no keys but another's is no larger. -/
theorem size_le_of_held {μ : Type} {dict : OrderedDict κ ν} {other : OrderedDict κ μ}
    (held : ∀ key, (dict.get? key).isSome = true → (other.get? key).isSome = true) : dict.size ≤ other.size :=
  size_le_of_image id fun key isHeld => ⟨key, held key isHeld, rfl⟩

omit [DecidableEq κ] in
theorem size_trim (ceiling : Nat) (dict : OrderedDict κ ν) :
    (dict.trim ceiling).2.size = dict.size - (dict.size - ceiling) := by
  simp [trim, dropFirst, size]

omit [DecidableEq κ] in
theorem keys_trim (ceiling : Nat) (dict : OrderedDict κ ν) : (dict.trim ceiling).2.keys = dict.keys.rtake ceiling := by
  simp only [keys, trim, dropFirst, List.rtake, List.map_drop, List.length_map, size]

/-- Renewing the place of a key held is a use of it. -/
theorem keys_moveToEnd_of_held {dict : OrderedDict κ ν} {ceiling : Nat} {uses : List κ} {key : κ}
    (recent : dict.keys = mostRecent ceiling uses) (held : (dict.get? key).isSome = true) :
    (dict.moveToEnd key).keys = mostRecent ceiling (uses ++ [key]) := by
  obtain ⟨value, lookup⟩ := Option.isSome_iff_exists.mp held
  have member : key ∈ dict.keys := (dict.mem_keys_iff key).mpr held
  have fits : (dict.keys.filter (· ≠ key) ++ [key]).length ≤ ceiling := by
    have bound := length_mostRecent_le ceiling uses
    have fewer := length_filter_ne_lt member
    rw [← recent] at bound
    simp only [List.length_append, List.length_singleton]
    omega
  simp only [moveToEnd, lookup]
  rw [mostRecent_snoc, ← recent, keys_place, rtake_of_length_le fits]

/-- Placing a key and dropping what exceeds the ceiling is a use of it. -/
theorem keys_trim_place {dict : OrderedDict κ ν} {ceiling : Nat} {uses : List κ}
    (recent : dict.keys = mostRecent ceiling uses) (key : κ) (value : ν) :
    ((dict.place key value).trim ceiling).2.keys = mostRecent ceiling (uses ++ [key]) := by
  rw [keys_trim, keys_place, recent, mostRecent_snoc]

/-- What was placed last is the last to be dropped. -/
theorem get?_trim_place {ceiling : Nat} (room : 1 ≤ ceiling) (dict : OrderedDict κ ν) (key : κ) (value : ν) :
    ((dict.place key value).trim ceiling).2.get? key = some value := by
  have kept : key ∈ ((dict.place key value).trim ceiling).2.keys := by
    rw [keys_trim, keys_place]
    obtain ⟨less, rfl⟩ := Nat.exists_eq_add_of_le' room
    rw [List.rtake_concat_succ]
    simp
  rw [mem_keys_iff, get?_trim] at kept
  rw [get?_trim]
  split at kept
  · cases kept
  · rename_i stays
    rw [if_neg stays, get?_place, if_pos rfl]

end OrderedDict

end Netflume.Library
