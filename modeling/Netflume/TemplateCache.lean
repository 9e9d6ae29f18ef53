import Netflume.Library.Machine
import Netflume.Library.Recency
import Netflume.TemplateStore

/-! # The template store is a least-recently-used cache

What the store holds after any run of operations, said in terms of the run
alone: the keys used most recently, each with what was last put under it. -/

namespace Netflume

open Library

/-- What a caller does with a store. -/
inductive StoreOp where
  | put (key : TemplateKey) (fields : List Field) (options : Bool)
  | get (key : TemplateKey)
  | takeEvents
  deriving DecidableEq, Repr

inductive StoreAnswer where
  | put (learned : Bool)
  | get (fields : Option (List Field)) (options : Bool)
  | takeEvents (events : List TemplateLearned)
  deriving DecidableEq, Repr

/-- What an operation puts under a key, if it puts anything there. -/
def StoreOp.files (key : TemplateKey) : StoreOp → Option Template
  | .put own fields options => if own = key then some ⟨fields, options⟩ else none
  | .get _ | .takeEvents => none

/-- What the last put of a key put there. -/
def lastPut (key : TemplateKey) (ops : List StoreOp) : Option Template :=
  (ops.filterMap (StoreOp.files key)).getLast?

namespace TemplateStore

def perform (store : TemplateStore) : StoreOp → StoreAnswer × TemplateStore
  | .put key fields options =>
    let (learned, store) := store.put key fields options
    (.put learned, store)
  | .get key =>
    let ((fields, options), store) := store.get key
    (.get fields options, store)
  | .takeEvents =>
    let (events, store) := store.takeEvents
    (.takeEvents events, store)

/-- The key an operation uses: a put its own, a get the one it finds. -/
def used (store : TemplateStore) : StoreOp → List TemplateKey
  | .put key _ _ => [key]
  | .get key => if (store.get key).1.1.isSome then [key] else []
  | .takeEvents => []

/-- The key an operation puts although it is not held at that moment. -/
def added (store : TemplateStore) : StoreOp → List TemplateKey
  | .put key _ _ => if store.templates.contains key then [] else [key]
  | .get _ | .takeEvents => []

/-- The uses of a run, the latest last. -/
def uses (store : TemplateStore) (ops : List StoreOp) : List TemplateKey := collect perform used store ops

theorem uses_append (store : TemplateStore) (first second : List StoreOp) :
    store.uses (first ++ second) = store.uses first ++ (stateAfter perform store first).uses second :=
  collect_append used store first second

/-- An operation uses one key at most. -/
theorem used_eq_of_mem {store : TemplateStore} {op : StoreOp} {key : TemplateKey} (isUse : key ∈ store.used op) :
    store.used op = [key] := by
  cases op with
  | put own fields options =>
    have isOwn : key = own := by simpa [used] using isUse
    rw [used, isOwn]
  | get own =>
    simp only [used] at isUse ⊢
    split at isUse
    · rename_i found
      have isOwn : key = own := by simpa using isUse
      rw [if_pos found, isOwn]
    · cases isUse
  | takeEvents => cases isUse

/-! ## What one operation does to the templates held -/

variable {store : TemplateStore} {key : TemplateKey}

theorem get_of_held {template : Template} (held : store.templates.get? key = some template) :
    store.get key = ((some template.fields, template.options),
      { store with templates := store.templates.moveToEnd key }) := by
  simp only [get, held]

theorem get_of_missing (missing : store.templates.get? key = none) : store.get key = ((none, false), store) := by
  simp only [get, missing]

theorem found_iff : (store.get key).1.1.isSome = (store.templates.get? key).isSome := by
  cases held : store.templates.get? key with
  | none => rw [get_of_missing held]; rfl
  | some template => rw [get_of_held held]; rfl

theorem put_placed (store : TemplateStore) (key : TemplateKey) (fields : List Field) (options : Bool) :
    (store.put key fields options).2.templates =
      ((store.templates.place key ⟨fields, options⟩).trim store.maxTemplates).2 := by
  rw [put_templates, file, OrderedDict.moveToEnd_set]

theorem put_evicted (store : TemplateStore) (key : TemplateKey) (fields : List Field) (options : Bool) :
    (store.put key fields options).2.evicted =
      store.evicted + ((store.templates.place key ⟨fields, options⟩).size - store.maxTemplates) := by
  have filed : (store.put key fields options).2.evicted = (store.file key ⟨fields, options⟩).evicted := by
    simp only [put]
    split <;> rfl
  rw [filed, file, OrderedDict.moveToEnd_set, OrderedDict.length_trim]

theorem put_maxTemplates (store : TemplateStore) (key : TemplateKey) (fields : List Field) (options : Bool) :
    (store.put key fields options).2.maxTemplates = store.maxTemplates := by
  simp only [put]
  split <;> rfl

theorem perform_maxTemplates (store : TemplateStore) (op : StoreOp) :
    (store.perform op).2.maxTemplates = store.maxTemplates := by
  cases op with
  | put key fields options => exact put_maxTemplates store key fields options
  | get key =>
    cases held : store.templates.get? key with
    | none => simp only [perform, get_of_missing held]
    | some template => simp only [perform, get_of_held held]
  | takeEvents => rfl

/-- A use renews its key; what the ceiling has no room for is the key used longest ago. -/
theorem perform_keys {uses : List TemplateKey} (recent : store.templates.keys = mostRecent store.maxTemplates uses)
    (op : StoreOp) :
    (store.perform op).2.templates.keys = mostRecent store.maxTemplates (uses ++ store.used op) := by
  cases op with
  | put key fields options =>
    simp only [perform, used, put_placed]
    exact OrderedDict.keys_trim_place recent key _
  | get key =>
    simp only [perform, used, found_iff]
    cases held : store.templates.get? key with
    | none => simpa [get_of_missing held] using recent
    | some template =>
      rw [get_of_held held]
      exact OrderedDict.keys_moveToEnd_of_held recent (by rw [held]; rfl)
  | takeEvents =>
    simp only [perform, used, List.append_nil]
    exact recent

/-- What a key holds is what was last put there. -/
theorem perform_held {ops : List StoreOp}
    (last : ∀ key template, store.templates.get? key = some template → lastPut key ops = some template)
    (op : StoreOp) (key : TemplateKey) (template : Template)
    (held : (store.perform op).2.templates.get? key = some template) :
    lastPut key (ops ++ [op]) = some template := by
  have unfiled : op.files key = none → lastPut key (ops ++ [op]) = lastPut key ops := by
    intro silent
    simp [lastPut, silent]
  cases op with
  | put own fields options =>
    by_cases isOwn : own = key
    · subst isOwn
      rcases store.get?_put own own fields options with gone | kept
      · simp only [perform, gone] at held
        cases held
      · simp only [perform, kept, if_true] at held
        simpa [lastPut, StoreOp.files] using held
    · rw [unfiled (by simp [StoreOp.files, isOwn])]
      rcases store.get?_put own key fields options with gone | kept
      · simp only [perform, gone] at held
        cases held
      · simp only [perform, kept, if_neg (Ne.symm isOwn)] at held
        exact last key template held
  | get own =>
    rw [unfiled rfl]
    simp only [perform, get?_get] at held
    exact last key template held
  | takeEvents =>
    rw [unfiled rfl]
    exact last key template held

/-- Every key put anew is still held, or was evicted since. -/
theorem perform_evicted (store : TemplateStore) (op : StoreOp) :
    (store.perform op).2.evicted + (store.perform op).2.templates.size =
      store.evicted + store.templates.size + (store.added op).length := by
  cases op with
  | put key fields options =>
    have grown := OrderedDict.size_place store.templates key (⟨fields, options⟩ : Template)
    simp only [perform, added, put_placed, put_evicted, OrderedDict.size_trim]
    split at grown
    · rename_i held
      rw [if_pos held, List.length_nil]
      omega
    · rename_i missing
      rw [if_neg missing, List.length_singleton]
      omega
  | get key =>
    cases held : store.templates.get? key with
    | none => simp only [perform, get_of_missing held, added, List.length_nil, Nat.add_zero]
    | some template =>
      have same := OrderedDict.size_place store.templates key template
      rw [if_pos (by simp [OrderedDict.contains, held])] at same
      simp only [perform, get_of_held held, added, OrderedDict.moveToEnd, held, same, List.length_nil, Nat.add_zero]
  | takeEvents => rfl

/-! ## Runs on a fresh store -/

/-- What holds of a store after any run of operations on a fresh one. -/
structure Caches (maxTemplates : Nat) (start : TemplateStore) (ops : List StoreOp) (store : TemplateStore) : Prop where
  ceiling : store.maxTemplates = maxTemplates
  recent : store.templates.keys = mostRecent maxTemplates (start.uses ops)
  last : ∀ key template, store.templates.get? key = some template → lastPut key ops = some template
  evicted : store.evicted + store.templates.size = (collect perform added start ops).length

theorem caches_run (maxTemplates maxPending : Nat) (ops : List StoreOp) :
    Caches maxTemplates (new maxTemplates maxPending) ops (stateAfter perform (new maxTemplates maxPending) ops) := by
  induction ops using List.reverseRecOn with
  | nil =>
    refine ⟨rfl, ?_, fun key template held => ?_, rfl⟩
    · simp [new, stateAfter, uses, collect, mostRecent, OrderedDict.keys, OrderedDict.empty]
    · cases held
  | append_singleton ops op inductionHypothesis =>
    obtain ⟨ceiling, recent, last, evicted⟩ := inductionHypothesis
    have added := perform_evicted (stateAfter perform (new maxTemplates maxPending) ops) op
    have used := perform_keys (recent.trans (by rw [ceiling])) op
    rw [ceiling] at used
    rw [stateAfter_snoc]
    constructor
    · rw [perform_maxTemplates]
      exact ceiling
    · rw [used, uses, uses, collect_snoc]
    · exact perform_held last op
    · rw [collect_snoc, List.length_append, added, evicted]

end TemplateStore

/-- The store is an exact least-recently-used cache, after every run of operations on a fresh one. -/
theorem store_holds_most_recently_used (maxTemplates maxPending : Nat) (ops : List StoreOp) :
    let start := TemplateStore.new maxTemplates maxPending
    let store := stateAfter TemplateStore.perform start ops
    store.templates.keys = mostRecent maxTemplates (start.uses ops) ∧
      (∀ key, key ∈ store.templates.keys → ∃ template, lastPut key ops = some template ∧
        (store.get key).1 = (some template.fields, template.options)) ∧
      (∀ key, key ∉ store.templates.keys → store.get key = ((none, false), store)) ∧
      store.evicted + store.templates.size = (collect TemplateStore.perform TemplateStore.added start ops).length ∧
      ∀ before op since key, ops = before ++ op :: since →
        key ∈ (stateAfter TemplateStore.perform start before).used op →
        (((stateAfter TemplateStore.perform start (before ++ [op])).uses since).filter (· ≠ key)).dedup.length <
          maxTemplates →
        key ∈ store.templates.keys := by
  intro start store
  obtain ⟨_, recent, last, evicted⟩ := TemplateStore.caches_run maxTemplates maxPending ops
  refine ⟨recent, fun key held => ?_, fun key missing => ?_, evicted, fun before op since key split isUse few => ?_⟩
  · obtain ⟨template, lookup⟩ := Option.isSome_iff_exists.mp ((store.templates.mem_keys_iff key).mp held)
    exact ⟨template, last key template lookup, by rw [TemplateStore.get_of_held lookup]⟩
  · have lookup : store.templates.get? key = none := by
      simpa using (store.templates.mem_keys_iff key).not.mp missing
    exact TemplateStore.get_of_missing lookup
  · have ownUse : start.uses (before ++ [op]) = start.uses before ++ [key] := by
      rw [TemplateStore.uses_append, ← TemplateStore.used_eq_of_mem isUse]
      simp [TemplateStore.uses, collect]
    have history : start.uses ops = start.uses before ++
        key :: (stateAfter TemplateStore.perform start (before ++ [op])).uses since := by
      rw [split, List.append_cons, TemplateStore.uses_append, ownUse, List.append_assoc]
      rfl
    rw [recent, history]
    exact mem_mostRecent _ few

end Netflume
