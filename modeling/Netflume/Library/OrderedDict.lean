import Mathlib.Data.List.Basic
import Mathlib.Data.List.Nodup

/-! # Insertion-ordered dictionaries

A finite map that remembers the order its keys were last placed in: assigning to
a key already held keeps its place, `moveToEnd` renews it, and the oldest
entries can be dropped until a ceiling is met.  Keys are distinct by
construction, so lookups need no side condition. -/

namespace Netflume.Library

structure OrderedDict (κ ν : Type) where
  entries : List (κ × ν)
  nodup : (entries.map Prod.fst).Nodup

namespace OrderedDict

variable {κ ν : Type}

@[ext] theorem ext {first second : OrderedDict κ ν} (same : first.entries = second.entries) :
    first = second := by
  cases first; cases second; cases same; rfl

instance [DecidableEq κ] [DecidableEq ν] : DecidableEq (OrderedDict κ ν) := fun first second =>
  decidable_of_iff (first.entries = second.entries) ⟨ext, fun same => same ▸ rfl⟩

def empty : OrderedDict κ ν := ⟨[], List.nodup_nil⟩

def size (dict : OrderedDict κ ν) : Nat := dict.entries.length

/-- The entries whose key satisfies `keep`, in the order they had. -/
def restrict (keep : κ → Bool) (dict : OrderedDict κ ν) : OrderedDict κ ν where
  entries := dict.entries.filter fun entry => keep entry.1
  nodup := dict.nodup.sublist (List.filter_sublist.map Prod.fst)

/-- A value computed from each value, under the same key. -/
def mapValues {μ : Type} (convert : ν → μ) (dict : OrderedDict κ ν) : OrderedDict κ μ where
  entries := dict.entries.map fun entry => (entry.1, convert entry.2)
  nodup := by
    rw [List.map_map]
    exact dict.nodup

/-- The entries from position `count` on. -/
def dropFirst (count : Nat) (dict : OrderedDict κ ν) : OrderedDict κ ν where
  entries := dict.entries.drop count
  nodup := dict.nodup.sublist ((List.drop_sublist _ _).map Prod.fst)

/-- Pop the oldest entry while more than `ceiling` are held: the entries popped,
oldest first, and the dictionary that is left. -/
def trim (ceiling : Nat) (dict : OrderedDict κ ν) : List (κ × ν) × OrderedDict κ ν :=
  (dict.entries.take (dict.size - ceiling), dict.dropFirst (dict.size - ceiling))

section Keyed

variable [DecidableEq κ]

def get? (dict : OrderedDict κ ν) (key : κ) : Option ν :=
  (dict.entries.find? fun entry => entry.1 = key).map Prod.snd

def contains (dict : OrderedDict κ ν) (key : κ) : Bool := (dict.get? key).isSome

/-- `del dict[key]`, or nothing when the key is not held. -/
def erase (dict : OrderedDict κ ν) (key : κ) : OrderedDict κ ν :=
  dict.restrict fun held => held ≠ key

theorem not_mem_keys_erase (dict : OrderedDict κ ν) (key : κ) :
    key ∉ (dict.erase key).entries.map Prod.fst := by
  simp [erase, restrict]

/-- Append an entry, renewing the key's place if it is held. -/
def place (dict : OrderedDict κ ν) (key : κ) (value : ν) : OrderedDict κ ν where
  entries := (dict.erase key).entries ++ [(key, value)]
  nodup := by
    rw [List.map_append]
    refine List.nodup_append'.mpr ⟨(dict.erase key).nodup, by simp, ?_⟩
    intro held member last
    have isKey : held = key := by simpa using last
    exact dict.not_mem_keys_erase key (isKey ▸ member)

def overwrite (dict : OrderedDict κ ν) (key : κ) (value : ν) : OrderedDict κ ν where
  entries := dict.entries.map fun entry => if entry.1 = key then (key, value) else entry
  nodup := by
    have sameKeys : (Prod.fst ∘ fun entry : κ × ν => if entry.1 = key then (key, value) else entry) =
        Prod.fst := by
      funext entry
      by_cases isKey : entry.1 = key <;> simp [isKey]
    rw [List.map_map, sameKeys]
    exact dict.nodup

/-- `dict[key] = value`: a held key keeps its place, a new one goes to the end. -/
def set (dict : OrderedDict κ ν) (key : κ) (value : ν) : OrderedDict κ ν :=
  if dict.contains key then dict.overwrite key value else dict.place key value

/-- Assign to the key of each entry, one after the other. -/
def setAll (dict : OrderedDict κ ν) (entries : List (κ × ν)) : OrderedDict κ ν :=
  entries.foldl (fun dict entry => dict.set entry.1 entry.2) dict

/-- `dict.move_to_end(key)` for a held key. -/
def moveToEnd (dict : OrderedDict κ ν) (key : κ) : OrderedDict κ ν :=
  match dict.get? key with
  | some value => dict.place key value
  | none => dict

/-! ## Lookups -/

@[simp] theorem get?_empty (key : κ) : (empty : OrderedDict κ ν).get? key = none := rfl

/-- A lookup finds the one entry of its key. -/
theorem get?_eq_some_iff {dict : OrderedDict κ ν} {key : κ} {value : ν} :
    dict.get? key = some value ↔ (key, value) ∈ dict.entries := by
  rw [get?]
  constructor
  · intro lookup
    obtain ⟨⟨held, _⟩, found, rfl⟩ := Option.map_eq_some_iff.mp lookup
    obtain rfl : held = key := by simpa using List.find?_some found
    exact List.mem_of_find?_eq_some found
  · intro member
    obtain ⟨entry, found⟩ : ∃ entry, dict.entries.find? (fun entry => decide (entry.1 = key)) = some entry :=
      Option.isSome_iff_exists.mp (List.find?_isSome.mpr ⟨(key, value), member, by simp⟩)
    have isKey : entry.1 = key := by simpa using List.find?_some found
    have same : entry = (key, value) :=
      List.inj_on_of_nodup_map dict.nodup (List.mem_of_find?_eq_some found) member isKey
    rw [found, same]
    rfl

theorem get?_restrict (keep : κ → Bool) (dict : OrderedDict κ ν) (key : κ) :
    (dict.restrict keep).get? key = if keep key then dict.get? key else none := by
  simp only [get?, restrict, List.find?_filter]
  split
  · rename_i kept
    congr 2
    funext entry
    by_cases isKey : entry.1 = key <;> simp [isKey, kept]
  · rename_i dropped
    rw [List.find?_eq_none.mpr]
    · rfl
    · intro entry _
      by_cases isKey : entry.1 = key <;> simp_all

theorem get?_erase (dict : OrderedDict κ ν) (key other : κ) :
    (dict.erase key).get? other = if other = key then none else dict.get? other := by
  rw [erase, get?_restrict]
  by_cases same : other = key <;> simp [same]

theorem erase_of_not_held {dict : OrderedDict κ ν} {key : κ} (absent : dict.get? key = none) :
    dict.erase key = dict := by
  have others : ∀ entry ∈ dict.entries, ¬ entry.1 = key := by
    have notFound := List.find?_eq_none.mp (Option.map_eq_none_iff.mp absent)
    simpa using notFound
  apply ext
  simp only [erase, restrict]
  exact List.filter_eq_self.mpr fun entry member => decide_eq_true (others entry member)

theorem get?_place (dict : OrderedDict κ ν) (key other : κ) (value : ν) :
    (dict.place key value).get? other = if other = key then some value else dict.get? other := by
  have erased := dict.get?_erase key other
  simp only [get?, place, List.find?_append, List.find?_singleton] at erased ⊢
  by_cases same : other = key
  · subst same
    simp only [if_true] at erased
    simp [Option.map_eq_none_iff.mp erased]
  · simp only [same, if_false] at erased ⊢
    simpa [Ne.symm same] using erased

theorem get?_overwrite (dict : OrderedDict κ ν) (key other : κ) (value : ν) :
    (dict.overwrite key value).get? other =
      if other = key then (dict.get? other).map fun _ => value else dict.get? other := by
  simp only [get?, overwrite, List.find?_map]
  have sameTest : ((fun entry : κ × ν => decide (entry.1 = other)) ∘
      fun entry => if entry.1 = key then (key, value) else entry) =
      fun entry => decide (entry.1 = other) := by
    funext entry
    by_cases isKey : entry.1 = key <;> simp [isKey]
  rw [sameTest]
  cases found : dict.entries.find? fun entry => decide (entry.1 = other) with
  | none => simp
  | some entry =>
    have isOther : entry.1 = other := by simpa using List.find?_some found
    by_cases same : other = key <;> simp [same, isOther]

@[simp] theorem get?_set (dict : OrderedDict κ ν) (key other : κ) (value : ν) :
    (dict.set key value).get? other = if other = key then some value else dict.get? other := by
  rw [set]
  split
  · rename_i held
    rw [get?_overwrite]
    by_cases same : other = key
    · subst same
      obtain ⟨old, lookup⟩ := Option.isSome_iff_exists.mp held
      simp [lookup]
    · simp [same]
  · exact dict.get?_place key other value

@[simp] theorem get?_moveToEnd (dict : OrderedDict κ ν) (key other : κ) :
    (dict.moveToEnd key).get? other = dict.get? other := by
  rw [moveToEnd]
  split
  · rename_i value lookup
    rw [get?_place]
    by_cases same : other = key <;> simp [same, lookup]
  · rfl

/-! ## Restriction commutes with every update -/

theorem restrict_erase (keep : κ → Bool) (dict : OrderedDict κ ν) (key : κ) :
    (dict.erase key).restrict keep = (dict.restrict keep).erase key := by
  apply ext
  simp [erase, restrict, List.filter_filter, Bool.and_comm]

theorem restrict_erase_of_dropped {keep : κ → Bool} {key : κ} (dropped : keep key = false)
    (dict : OrderedDict κ ν) : (dict.erase key).restrict keep = dict.restrict keep := by
  apply ext
  simp only [erase, restrict, List.filter_filter]
  apply List.filter_congr
  intro entry _
  by_cases isKey : entry.1 = key <;> simp [isKey, dropped]

theorem restrict_place {keep : κ → Bool} {key : κ} (kept : keep key = true)
    (dict : OrderedDict κ ν) (value : ν) :
    (dict.place key value).restrict keep = (dict.restrict keep).place key value := by
  have erased := congrArg OrderedDict.entries (restrict_erase keep dict key)
  apply ext
  simp only [restrict, place, List.filter_append] at erased ⊢
  rw [erased]
  simp [kept]

theorem restrict_place_of_dropped {keep : κ → Bool} {key : κ} (dropped : keep key = false)
    (dict : OrderedDict κ ν) (value : ν) :
    (dict.place key value).restrict keep = dict.restrict keep := by
  have erased := congrArg OrderedDict.entries (restrict_erase_of_dropped dropped dict)
  apply ext
  simp only [restrict, place, List.filter_append] at erased ⊢
  rw [erased]
  simp [dropped]

theorem restrict_set {keep : κ → Bool} {key : κ} (kept : keep key = true)
    (dict : OrderedDict κ ν) (value : ν) :
    (dict.set key value).restrict keep = (dict.restrict keep).set key value := by
  have sameHeld : (dict.restrict keep).contains key = dict.contains key := by
    simp [contains, get?_restrict, kept]
  unfold set
  rw [sameHeld]
  split
  · apply ext
    simp only [restrict, overwrite, List.filter_map]
    congr 1
    apply List.filter_congr
    intro entry _
    by_cases isKey : entry.1 = key <;> simp [isKey]
  · exact restrict_place kept dict value

theorem restrict_set_of_dropped {keep : κ → Bool} {key : κ} (dropped : keep key = false)
    (dict : OrderedDict κ ν) (value : ν) :
    (dict.set key value).restrict keep = dict.restrict keep := by
  rw [set]
  split
  · apply ext
    simp only [restrict, overwrite, List.filter_map]
    have untouched : ∀ entry ∈ dict.entries.filter fun entry => keep entry.1,
        (if entry.1 = key then (key, value) else entry) = entry := by
      intro entry member
      have isKept := (List.mem_filter.mp member).2
      have notKey : entry.1 ≠ key := fun isKey => by simp [isKey, dropped] at isKept
      simp [notKey]
    have sameTest : ((fun entry : κ × ν => keep entry.1) ∘
        fun entry => if entry.1 = key then (key, value) else entry) = fun entry => keep entry.1 := by
      funext entry
      by_cases isKey : entry.1 = key <;> simp [isKey]
    rw [sameTest]
    exact (List.map_congr_left untouched).trans (List.map_id _)
  · exact restrict_place_of_dropped dropped dict value

theorem restrict_moveToEnd {keep : κ → Bool} {key : κ} (kept : keep key = true)
    (dict : OrderedDict κ ν) :
    (dict.moveToEnd key).restrict keep = (dict.restrict keep).moveToEnd key := by
  unfold moveToEnd
  rw [get?_restrict, kept]
  cases dict.get? key with
  | none => rfl
  | some value => exact restrict_place kept dict value

theorem restrict_moveToEnd_of_dropped {keep : κ → Bool} {key : κ} (dropped : keep key = false)
    (dict : OrderedDict κ ν) : (dict.moveToEnd key).restrict keep = dict.restrict keep := by
  rw [moveToEnd]
  cases dict.get? key with
  | none => rfl
  | some value => exact restrict_place_of_dropped dropped dict value

theorem set_of_not_held {dict : OrderedDict κ ν} {key : κ} (missing : dict.get? key = none) (value : ν) :
    dict.set key value = dict.place key value := by
  simp [set, contains, missing]

/-- A key not held goes to the end. -/
theorem entries_set_of_not_held {dict : OrderedDict κ ν} {key : κ} (missing : dict.get? key = none) (value : ν) :
    (dict.set key value).entries = dict.entries ++ [(key, value)] := by
  have placed : (dict.place key value).entries = (dict.erase key).entries ++ [(key, value)] := rfl
  rw [set_of_not_held missing, placed, erase_of_not_held missing]

/-- Distinct keys, none of them held, go to the end one after the other. -/
theorem entries_setAll {dict : OrderedDict κ ν} {entries : List (κ × ν)} (distinct : (entries.map Prod.fst).Nodup)
    (missing : ∀ entry ∈ entries, dict.get? entry.1 = none) :
    (dict.setAll entries).entries = dict.entries ++ entries := by
  induction entries generalizing dict with
  | nil => simp [setAll]
  | cons entry entries inductionHypothesis =>
    rw [List.map_cons, List.nodup_cons] at distinct
    have stillMissing : ∀ later ∈ entries, (dict.set entry.1 entry.2).get? later.1 = none := by
      intro later member
      have different : later.1 ≠ entry.1 := fun same => distinct.1 (same ▸ List.mem_map_of_mem member)
      rw [get?_set, if_neg different]
      exact missing later (List.mem_cons_of_mem _ member)
    have behind := inductionHypothesis distinct.2 stillMissing
    rw [entries_set_of_not_held (missing entry List.mem_cons_self), List.append_assoc] at behind
    exact behind

/-- Assigning to a key and renewing its place is placing it, whether it was held or not. -/
theorem moveToEnd_set (dict : OrderedDict κ ν) (key : κ) (value : ν) :
    (dict.set key value).moveToEnd key = dict.place key value := by
  have lookup : (dict.set key value).get? key = some value := by simp
  have others : (dict.set key value).erase key = dict.erase key := restrict_set_of_dropped (by simp) dict value
  rw [moveToEnd]
  rw [lookup]
  apply ext
  simp only [place, others]

end Keyed

/-! ## Sizes and trimming -/

theorem size_restrict_le (keep : κ → Bool) (dict : OrderedDict κ ν) :
    (dict.restrict keep).size ≤ dict.size := List.length_filter_le _ _

theorem trim_of_le {ceiling : Nat} {dict : OrderedDict κ ν} (fits : dict.size ≤ ceiling) :
    dict.trim ceiling = ([], dict) := by
  have nothing : dict.size - ceiling = 0 := by omega
  rw [trim]
  rw [nothing]
  rfl

theorem trim_zero (dict : OrderedDict κ ν) : (dict.trim 0).2 = .empty :=
  ext List.drop_length

@[simp] theorem length_trim (ceiling : Nat) (dict : OrderedDict κ ν) :
    (dict.trim ceiling).1.length = dict.size - ceiling := by
  rw [trim, List.length_take]
  exact Nat.min_eq_left (Nat.sub_le _ _)

/-- A part of a dictionary that fits needs no trimming. -/
theorem trim_restrict_of_le {ceiling : Nat} {dict : OrderedDict κ ν} (fits : dict.size ≤ ceiling) (keep : κ → Bool) :
    (dict.restrict keep).trim ceiling = ([], dict.restrict keep) :=
  trim_of_le (Nat.le_trans (size_restrict_le keep dict) fits)

/-- Trimming forgets exactly the keys it pops. -/
theorem get?_trim [DecidableEq κ] (ceiling : Nat) (dict : OrderedDict κ ν) (key : κ) :
    (dict.trim ceiling).2.get? key =
      if key ∈ (dict.trim ceiling).1.map Prod.fst then none else dict.get? key := by
  have split := List.take_append_drop (dict.size - ceiling) dict.entries
  have distinct := dict.nodup
  rw [← split, List.map_append] at distinct
  have disjoint := (List.nodup_append'.mp distinct).2.2
  by_cases popped : key ∈ (dict.trim ceiling).1.map Prod.fst
  · have notLeft : (dict.entries.drop (dict.size - ceiling)).find? (fun entry => decide (entry.1 = key)) = none := by
      apply List.find?_eq_none.mpr
      intro entry member
      simp only [decide_eq_true_eq]
      rintro rfl
      exact disjoint popped (List.mem_map_of_mem member)
    rw [if_pos popped, get?, trim, dropFirst, notLeft]
    rfl
  · have notPopped : (dict.entries.take (dict.size - ceiling)).find?
        (fun entry => decide (entry.1 = key)) = none := by
      apply List.find?_eq_none.mpr
      intro entry member
      simp only [decide_eq_true_eq]
      rintro rfl
      exact popped (List.mem_map_of_mem member)
    have same : dict.entries.find? (fun entry => decide (entry.1 = key)) =
        (dict.entries.drop (dict.size - ceiling)).find? fun entry => decide (entry.1 = key) := by
      conv_lhs => rw [← split]
      rw [List.find?_append, notPopped, Option.none_or]
    rw [if_neg popped, get?, get?, same, trim, dropFirst]

theorem get?_eraseAll {μ : Type} [DecidableEq κ] (popped : List (κ × μ)) (dict : OrderedDict κ ν) (key : κ) :
    (popped.foldl (fun dict entry => dict.erase entry.1) dict).get? key =
      if key ∈ popped.map Prod.fst then none else dict.get? key := by
  induction popped generalizing dict with
  | nil => rfl
  | cons entry popped inductionHypothesis =>
    rw [List.foldl_cons, inductionHypothesis, get?_erase, List.map_cons]
    by_cases first : key = entry.1
    · simp [first]
    · simp only [List.mem_cons, first, false_or, if_false]

/-! ## What holds of every key -/

/-- Every key held has the property. -/
def AllKeys [DecidableEq κ] (holds : κ → Prop) (dict : OrderedDict κ ν) : Prop :=
  ∀ key, dict.contains key = true → holds key

namespace AllKeys

variable [DecidableEq κ] {holds : κ → Prop} {dict : OrderedDict κ ν}

theorem empty (holds : κ → Prop) : (OrderedDict.empty : OrderedDict κ ν).AllKeys holds := by
  intro key held
  cases held

theorem set (all : dict.AllKeys holds) {key : κ} (own : holds key) (value : ν) :
    (dict.set key value).AllKeys holds := by
  intro other held
  rw [contains, get?_set] at held
  by_cases isKey : other = key
  · rw [isKey]
    exact own
  · rw [if_neg isKey] at held
    exact all other held

theorem moveToEnd (all : dict.AllKeys holds) (key : κ) : (dict.moveToEnd key).AllKeys holds := by
  intro other held
  rw [contains, get?_moveToEnd] at held
  exact all other held

/-- Dropping keys leaves the property to the others. -/
theorem of_dropped (all : dict.AllKeys holds) {rest : OrderedDict κ ν} {dropped : κ → Prop} [DecidablePred dropped]
    (lookup : ∀ key, rest.get? key = if dropped key then none else dict.get? key) : rest.AllKeys holds := by
  intro key held
  rw [contains, lookup] at held
  split at held
  · cases held
  · exact all key held

theorem trim (all : dict.AllKeys holds) (ceiling : Nat) : (dict.trim ceiling).2.AllKeys holds :=
  all.of_dropped (get?_trim ceiling dict)

theorem erase (all : dict.AllKeys holds) (key : κ) : (dict.erase key).AllKeys holds :=
  all.of_dropped (get?_erase dict key)

theorem eraseAll {μ : Type} (all : dict.AllKeys holds) (popped : List (κ × μ)) :
    (popped.foldl (fun dict entry => dict.erase entry.1) dict).AllKeys holds :=
  all.of_dropped (get?_eraseAll popped dict)

end AllKeys

end OrderedDict

end Netflume.Library
