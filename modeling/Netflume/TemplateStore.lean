import Netflume.Events

/-! # The template store

Templates are scoped per exporter and observation domain, and options templates
share the key space of data templates, so which kind a template is travels with
its layout. -/

namespace Netflume

open Library

def maxTemplates : Nat := 10000

def maxPendingTemplates : Nat := 10000

structure TemplateKey where
  exporter : Exporter
  domain : Nat
  templateId : Nat
  deriving DecidableEq, Repr

/-- What is held under a key: the layout, and whether it is an options template. -/
structure Template where
  fields : List Field
  options : Bool
  deriving DecidableEq, Repr

/-- `deque(maxlen).append`: the oldest events fall out of a full queue. -/
def boundedAppend {α : Type} (maxlen : Nat) (queue : List α) (item : α) : List α :=
  (queue ++ [item]).drop (queue.length + 1 - maxlen)

structure TemplateStore where
  templates : OrderedDict TemplateKey Template
  learned : Nat
  evicted : Nat
  dropped : Nat
  maxTemplates : Nat
  maxPending : Nat
  events : List TemplateLearned
  deriving DecidableEq

namespace TemplateStore

/-- `TemplateStore(max_templates, max_pending)`. -/
def new (maxTemplates maxPending : Nat) : TemplateStore where
  templates := .empty
  learned := 0
  evicted := 0
  dropped := 0
  maxTemplates := maxTemplates
  maxPending := maxPending
  events := []

/-- The half of `put` that files the template: assign, renew its place, evict. -/
def file (store : TemplateStore) (key : TemplateKey) (template : Template) : TemplateStore :=
  let trimmed := ((store.templates.set key template).moveToEnd key).trim store.maxTemplates
  { store with templates := trimmed.2, evicted := store.evicted + trimmed.1.length }

/-- The half of `put` that raises an event for a template that is new or changed. -/
def learn (store : TemplateStore) (event : TemplateLearned) : TemplateStore :=
  { store with
    learned := store.learned + 1
    dropped := if store.events.length = store.maxPending then store.dropped + 1 else store.dropped
    events := boundedAppend store.maxPending store.events event }

/-- Record a template.  True when it is new or has changed, its kind included. -/
def put (store : TemplateStore) (key : TemplateKey) (fields : List Field) (options : Bool) :
    Bool × TemplateStore :=
  let old := store.templates.get? key
  let filed := store.file key ⟨fields, options⟩
  if old = some ⟨fields, options⟩ then (false, filed)
  else
    (true, filed.learn ⟨key.exporter, key.domain, key.templateId, fields, options,
      old.map Template.fields, old.map Template.options⟩)

/-- `(fields, is_options)`, or `(None, False)` when the key is not held.  Reading
counts as use. -/
def get (store : TemplateStore) (key : TemplateKey) :
    (Option (List Field) × Bool) × TemplateStore :=
  match store.templates.get? key with
  | none => ((none, false), store)
  | some template =>
    ((some template.fields, template.options),
      { store with templates := store.templates.moveToEnd key })

/-- `take_events`. -/
def takeEvents (store : TemplateStore) : List TemplateLearned × TemplateStore :=
  (store.events, { store with events := [] })

/-! ## What `put` and `get` do to the templates held -/

theorem put_templates (store : TemplateStore) (key : TemplateKey) (fields : List Field) (options : Bool) :
    (store.put key fields options).2.templates = (store.file key ⟨fields, options⟩).templates := by
  simp only [put]
  split <;> rfl

/-- After `put`, a key holds what it was given or held before, unless it was evicted. -/
theorem get?_put (store : TemplateStore) (key other : TemplateKey) (fields : List Field) (options : Bool) :
    (store.put key fields options).2.templates.get? other = none ∨
      (store.put key fields options).2.templates.get? other =
        if other = key then some ⟨fields, options⟩ else store.templates.get? other := by
  rw [put_templates, file, OrderedDict.get?_trim]
  split
  · exact .inl rfl
  · right
    rw [OrderedDict.get?_moveToEnd, OrderedDict.get?_set]

@[simp] theorem get?_get (store : TemplateStore) (key other : TemplateKey) :
    (store.get key).2.templates.get? other = store.templates.get? other := by
  rw [get]
  split
  · rfl
  · exact OrderedDict.get?_moveToEnd _ _ _

end TemplateStore

end Netflume
