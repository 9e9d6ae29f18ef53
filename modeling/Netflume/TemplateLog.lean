import Netflume.Library.BoundedQueue
import Netflume.TemplateCache

/-! # Template events are a change log

An event says what a key answered before a put and what it answers after it.
The queue hands events over in the order they were raised, and drops from its
front only when it is full. -/

namespace Netflume

open Library

/-- The event that a key's answer has changed from `before` to `after`. -/
def changeEvent (key : TemplateKey) (before after : Option (List Field) × Bool) : TemplateLearned where
  exporter := key.exporter
  domain := key.domain
  templateId := key.templateId
  fields := after.1.getD []
  options := after.2
  previous := before.1
  wasOptions := before.1.map fun _ => before.2

namespace TemplateStore

/-- The event of an operation that changes what `get` answers for its key. -/
def raised (store : TemplateStore) : StoreOp → List TemplateLearned
  | .put key fields options =>
    let before := (store.get key).1
    let after := ((store.put key fields options).2.get key).1
    if before = after then [] else [changeEvent key before after]
  | .get _ | .takeEvents => []

/-- The oldest event of a full queue, when an operation raises another. -/
def displaced (store : TemplateStore) (op : StoreOp) : List TemplateLearned :=
  if store.raised op ≠ [] ∧ store.events.length = store.maxPending then store.events.take 1 else []

def handedOver (store : TemplateStore) : StoreOp → List TemplateLearned
  | .takeEvents => store.takeEvents.1
  | .put _ _ _ | .get _ => []

variable {store : TemplateStore}

theorem get_answer (store : TemplateStore) (key : TemplateKey) :
    (store.get key).1 = ((store.templates.get? key).map Template.fields,
      ((store.templates.get? key).map Template.options).getD false) := by
  cases held : store.templates.get? key with
  | none => rw [get_of_missing held]; rfl
  | some template => rw [get_of_held held]; rfl

/-- What was put last is the last to be evicted. -/
theorem put_held (room : 1 ≤ store.maxTemplates) (key : TemplateKey) (fields : List Field) (options : Bool) :
    (store.put key fields options).2.templates.get? key = some ⟨fields, options⟩ := by
  rw [put_placed]
  exact OrderedDict.get?_trim_place room _ key _

/-- A put answers whether it changes what `get` answers for its key. -/
theorem put_learned_iff (room : 1 ≤ store.maxTemplates) (key : TemplateKey) (fields : List Field) (options : Bool) :
    (store.put key fields options).1 = true ↔
      (store.get key).1 ≠ ((store.put key fields options).2.get key).1 := by
  rw [get_answer, get_answer, put_held room key]
  cases held : store.templates.get? key with
  | none => simp [put, held]
  | some template =>
    obtain ⟨heldFields, heldOptions⟩ := template
    simp only [put, held, Option.some.injEq, Template.mk.injEq]
    split <;> simp_all

/-- A put either raises nothing and leaves the log alone, or raises the event of the change it makes. -/
theorem put_log (room : 1 ≤ store.maxTemplates) (key : TemplateKey) (fields : List Field) (options : Bool) :
    let after := (store.put key fields options).2
    after.maxPending = store.maxPending ∧
      (store.raised (.put key fields options) = [] ∧ after.learned = store.learned ∧
          after.dropped = store.dropped ∧ after.events = store.events ∨
        ∃ event, store.raised (.put key fields options) = [event] ∧ after.learned = store.learned + 1 ∧
          after.dropped = (if store.events.length = store.maxPending then store.dropped + 1 else store.dropped) ∧
          after.events = boundedAppend store.maxPending store.events event) := by
  have learned := put_learned_iff room key fields options
  simp only [raised, get_answer, put_held room key] at learned ⊢
  by_cases same : store.templates.get? key = some ⟨fields, options⟩
  · have unchanged : store.put key fields options = (false, store.file key ⟨fields, options⟩) := by
      simp only [put, same, if_true]
    rw [unchanged]
    refine ⟨rfl, .inl ⟨?_, rfl, rfl, rfl⟩⟩
    rw [same]
    exact if_pos rfl
  · have changed : store.put key fields options = (true, (store.file key ⟨fields, options⟩).learn
        (changeEvent key (store.get key).1 (some fields, options))) := by
      simp only [put, if_neg same, changeEvent, get_answer]
      cases store.templates.get? key <;> rfl
    rw [changed] at learned ⊢
    rw [if_neg (by simpa using learned)]
    exact ⟨rfl, .inr ⟨_, rfl, rfl, rfl, by rw [get_answer]; rfl⟩⟩

theorem put_answer (room : 1 ≤ store.maxTemplates) (key : TemplateKey) (fields : List Field) (options : Bool) :
    ((store.put key fields options).2.get key).1 = (some fields, options) := by
  rw [get_answer, put_held room key]
  rfl

/-- The queue after a put: as it was, or with the event of the change appended. -/
theorem put_events (room : 1 ≤ store.maxTemplates) (key : TemplateKey) (fields : List Field) (options : Bool) :
    (store.put key fields options).2.events =
      if (store.get key).1 = ((store.put key fields options).2.get key).1 then store.events
      else boundedAppend store.maxPending store.events
        (changeEvent key (store.get key).1 ((store.put key fields options).2.get key).1) := by
  obtain ⟨_, log⟩ := put_log room key fields options
  rcases log with ⟨silent, _, _, events⟩ | ⟨event, raises, _, _, events⟩
  · simp only [raised, ite_eq_left_iff, reduceCtorEq, imp_false, not_not] at silent
    rw [if_pos silent, events]
  · simp only [raised, ite_eq_iff, List.cons.injEq, and_true] at raises
    obtain ⟨_, impossible⟩ | ⟨different, isEvent⟩ := raises
    · cases impossible
    · rw [if_neg different, events, isEvent]

/-! ## The log of a run -/

/-- A queue that respects its bound, in a store that has room for a template. -/
structure Queues (maxPending : Nat) (store : TemplateStore) : Prop where
  room : 1 ≤ store.maxTemplates
  slot : 1 ≤ maxPending
  limit : store.maxPending = maxPending
  bounded : store.events.length ≤ maxPending

/-- What one operation does to the log: what was pending or is raised now is displaced, handed over or pending. -/
structure Logs (maxPending : Nat) (store : TemplateStore) (op : StoreOp) (after : TemplateStore) : Prop where
  queues : Queues maxPending after
  events : store.events ++ store.raised op = store.displaced op ++ (store.handedOver op ++ after.events)
  learned : after.learned = store.learned + (store.raised op).length
  dropped : after.dropped = store.dropped + (store.displaced op).length

theorem perform_logs {maxPending : Nat} (queues : Queues maxPending store) (op : StoreOp) :
    Logs maxPending store op (store.perform op).2 := by
  obtain ⟨room, slot, rfl, bounded⟩ := queues
  have ceiling := perform_maxTemplates store op
  cases op with
  | put key fields options =>
    obtain ⟨samePending, log⟩ := put_log room key fields options
    simp only [perform] at ceiling ⊢
    rcases log with ⟨silent, learned, dropped, events⟩ | ⟨event, raised, learned, dropped, events⟩
    · refine ⟨⟨by omega, slot, samePending, by rw [events]; exact bounded⟩, ?_, ?_, ?_⟩
      · simp [silent, displaced, handedOver, events]
      · simp [silent, learned]
      · simp [silent, displaced, dropped]
    · by_cases full : store.events.length = store.maxPending
      · obtain ⟨oldest, rest, split⟩ := List.exists_cons_of_length_pos (show 0 < store.events.length by omega)
        have shifted : boundedAppend store.maxPending store.events event = rest ++ [event] := by
          rw [boundedAppend, ← full, Nat.add_sub_cancel_left, split]
          rfl
        rw [shifted] at events
        have oldestOut : store.displaced (.put key fields options) = [oldest] := by
          rw [displaced, if_pos ⟨by simp [raised], full⟩, split]
          rfl
        refine ⟨⟨by omega, slot, samePending, ?_⟩, ?_, ?_, ?_⟩
        · rw [events, ← full, split]
          simp
        · rw [raised, oldestOut, split, events]
          rfl
        · rw [raised, learned, List.length_singleton]
        · rw [oldestOut, dropped, if_pos full, List.length_singleton]
      · have appended : boundedAppend store.maxPending store.events event = store.events ++ [event] := by
          rw [boundedAppend, Nat.sub_eq_zero_of_le (by omega), List.drop_zero]
        rw [appended] at events
        have noneOut : store.displaced (.put key fields options) = [] := by
          rw [displaced, if_neg fun both => full both.2]
        refine ⟨⟨by omega, slot, samePending, ?_⟩, ?_, ?_, ?_⟩
        · rw [events, List.length_append, List.length_singleton]
          omega
        · rw [raised, noneOut, events]
          rfl
        · rw [raised, learned, List.length_singleton]
        · rw [noneOut, dropped, if_neg full, List.length_nil, Nat.add_zero]
  | get key =>
    have same : (store.perform (.get key)).2.events = store.events ∧
        (store.perform (.get key)).2.maxPending = store.maxPending ∧
        (store.perform (.get key)).2.learned = store.learned ∧
        (store.perform (.get key)).2.dropped = store.dropped := by
      cases held : store.templates.get? key with
      | none => simp only [perform, get_of_missing held, and_self]
      | some template => simp only [perform, get_of_held held, and_self]
    obtain ⟨events, samePending, learned, dropped⟩ := same
    refine ⟨⟨by omega, slot, samePending, by rw [events]; exact bounded⟩, ?_, ?_, ?_⟩
    · simp [raised, displaced, handedOver, events]
    · simp [raised, learned]
    · simp [raised, displaced, dropped]
  | takeEvents =>
    refine ⟨⟨room, slot, rfl, Nat.zero_le _⟩, ?_, rfl, ?_⟩
    · simp [raised, displaced, handedOver, takeEvents, perform]
    · simp [raised, displaced, takeEvents, perform]

/-- Over a run every event raised is one template learned. -/
theorem logs_run {maxPending : Nat} (queues : Queues maxPending store) (ops : List StoreOp) :
    Queues maxPending (stateAfter perform store ops) ∧
      (stateAfter perform store ops).learned = store.learned + (collect perform raised store ops).length := by
  induction ops generalizing store with
  | nil => exact ⟨queues, rfl⟩
  | cons op ops inductionHypothesis =>
    have log := perform_logs queues op
    obtain ⟨kept, learned⟩ := inductionHypothesis log.queues
    refine ⟨kept, learned.trans ?_⟩
    rw [log.learned, collect, List.length_append, Nat.add_assoc]

/-- While the queue has room for them all, the events of a run wait in it in order. -/
theorem events_run {maxPending : Nat} (queues : Queues maxPending store) {ops : List StoreOp}
    (untaken : ∀ op ∈ ops, op ≠ .takeEvents)
    (room : store.events.length + (collect perform raised store ops).length ≤ maxPending) :
    (stateAfter perform store ops).events = store.events ++ collect perform raised store ops := by
  induction ops generalizing store with
  | nil => exact (List.append_nil _).symm
  | cons op ops inductionHypothesis =>
    obtain ⟨first, rest⟩ := List.forall_mem_cons.mp untaken
    have log := perform_logs queues op
    rw [collect, List.length_append] at room
    have nothingTaken : store.handedOver op = [] := by
      cases op with
      | put key fields options => rfl
      | get key => rfl
      | takeEvents => exact absurd rfl first
    have nothingLost : store.displaced op = [] := by
      rw [displaced]
      apply if_neg
      rintro ⟨raises, full⟩
      have some := List.length_pos_of_ne_nil raises
      rw [queues.limit] at full
      omega
    have events : (store.perform op).2.events = store.events ++ store.raised op := by
      simpa [nothingTaken, nothingLost] using log.events.symm
    have later := inductionHypothesis log.queues rest (by rw [events, List.length_append]; omega)
    rw [events, List.append_assoc] at later
    exact later

/-- What left the queue during a run, in order, each event with whether it was handed over. -/
structure Accounts (maxPending : Nat) (start : TemplateStore) (ops : List StoreOp) (store : TemplateStore)
    (past : List (TemplateLearned × Bool)) : Prop where
  queues : Queues maxPending store
  raised : collect perform raised start ops = past.map Prod.fst ++ store.events
  handedOver : collect perform handedOver start ops = (past.filter Prod.snd).map Prod.fst
  displaced : collect perform displaced start ops = (past.filter fun left => !left.2).map Prod.fst
  learned : store.learned = (collect perform TemplateStore.raised start ops).length
  dropped : store.dropped = (collect perform TemplateStore.displaced start ops).length

theorem accounts_run {maxTemplates maxPending : Nat} (room : 1 ≤ maxTemplates) (slot : 1 ≤ maxPending)
    (ops : List StoreOp) :
    ∃ past, Accounts maxPending (new maxTemplates maxPending) ops
      (stateAfter perform (new maxTemplates maxPending) ops) past := by
  generalize start : new maxTemplates maxPending = fresh
  induction ops using List.reverseRecOn with
  | nil =>
    subst start
    exact ⟨[], ⟨room, slot, rfl, Nat.zero_le _⟩, rfl, rfl, rfl, rfl, rfl⟩
  | append_singleton ops op inductionHypothesis =>
    obtain ⟨past, queues, raised, handed, displaced, learned, dropped⟩ := inductionHypothesis
    have log := perform_logs queues op
    have extended : ∀ note : TemplateStore → StoreOp → List TemplateLearned,
        collect perform note fresh (ops ++ [op]) =
          collect perform note fresh ops ++ note (stateAfter perform fresh ops) op :=
      fun note => collect_snoc note fresh ops op
    simp only [stateAfter_snoc]
    generalize stateAfter perform fresh ops = store at *
    obtain ⟨longer, raisedNow, handedNow, displacedNow⟩ := History.step ⟨raised, handed, displaced⟩ log.events
    refine ⟨longer, log.queues, ?_, ?_, ?_, ?_, ?_⟩
    · rw [extended]
      exact raisedNow
    · rw [extended]
      exact handedNow
    · rw [extended]
      exact displacedNow
    · rw [extended, List.length_append, log.learned, learned]
    · rw [extended, List.length_append, log.dropped, dropped]

end TemplateStore

/-- Template events are a faithful change log, at every point of every run on a fresh store; taking them hands over
all that are pending and leaves none. -/
theorem template_events_log_changes (maxTemplates maxPending : Nat) (room : 1 ≤ maxTemplates) (slot : 1 ≤ maxPending)
    (ops : List StoreOp) :
    let start := TemplateStore.new maxTemplates maxPending
    let store := stateAfter TemplateStore.perform start ops
    (∀ key fields options,
      let put := store.put key fields options
      let before := (store.get key).1
      let after := (put.2.get key).1
      after = (some fields, options) ∧ (put.1 = true ↔ before ≠ after) ∧
        put.2.events = if before = after then store.events
          else boundedAppend maxPending store.events (changeEvent key before after)) ∧
      (store.perform .takeEvents = (.takeEvents store.events, store.takeEvents.2) ∧ store.takeEvents.2.events = []) ∧
      store.learned = (collect TemplateStore.perform TemplateStore.handedOver start ops).length +
        store.events.length + store.dropped ∧
      store.dropped = (collect TemplateStore.perform TemplateStore.displaced start ops).length ∧
      ∃ past : List (TemplateLearned × Bool),
        collect TemplateStore.perform TemplateStore.raised start ops = past.map Prod.fst ++ store.events ∧
        collect TemplateStore.perform TemplateStore.handedOver start ops = (past.filter Prod.snd).map Prod.fst ∧
        collect TemplateStore.perform TemplateStore.displaced start ops =
          (past.filter fun left => !left.2).map Prod.fst := by
  intro start store
  obtain ⟨past, queues, raised, handed, displaced, learned, dropped⟩ :
      ∃ past, TemplateStore.Accounts maxPending start ops store past := TemplateStore.accounts_run room slot ops
  have accounted : past.length = (past.filter Prod.snd).length + (past.filter fun left => !left.2).length :=
    List.length_eq_length_filter_add _
  refine ⟨fun key fields options => ⟨?_, ?_, ?_⟩, ⟨rfl, rfl⟩, ?_, dropped, past, raised, handed, displaced⟩
  · exact TemplateStore.put_answer queues.room key fields options
  · exact TemplateStore.put_learned_iff queues.room key fields options
  · rw [← queues.limit]
    exact TemplateStore.put_events queues.room key fields options
  · rw [raised, List.length_append, List.length_map, accounted] at learned
    rw [displaced, List.length_map] at dropped
    rw [handed, List.length_map, dropped, learned]
    omega

/-- Two layouts for one ID, the second handed over, the third redefinition displacing it in a queue of one. -/
theorem template_events_log_redefinitions :
    let start := TemplateStore.new 1 1
    let key : TemplateKey := ⟨.obj 7, 3, 300⟩
    let ops : List StoreOp := [.put key [⟨"src_port", .uint, 2⟩] false, .takeEvents, .put key [⟨"src_port", .uint, 2⟩] true,
      .put key [⟨"dst_port", .uint, 2⟩] true]
    let store := stateAfter TemplateStore.perform start ops
    (∀ key fields options,
      let put := store.put key fields options
      let before := (store.get key).1
      let after := (put.2.get key).1
      after = (some fields, options) ∧ (put.1 = true ↔ before ≠ after) ∧
        put.2.events = if before = after then store.events
          else boundedAppend 1 store.events (changeEvent key before after)) ∧
      (store.perform .takeEvents = (.takeEvents store.events, store.takeEvents.2) ∧ store.takeEvents.2.events = []) ∧
      store.learned = (collect TemplateStore.perform TemplateStore.handedOver start ops).length +
        store.events.length + store.dropped ∧
      store.dropped = (collect TemplateStore.perform TemplateStore.displaced start ops).length ∧
      ∃ past : List (TemplateLearned × Bool),
        collect TemplateStore.perform TemplateStore.raised start ops = past.map Prod.fst ++ store.events ∧
        collect TemplateStore.perform TemplateStore.handedOver start ops = (past.filter Prod.snd).map Prod.fst ∧
        collect TemplateStore.perform TemplateStore.displaced start ops =
          (past.filter fun left => !left.2).map Prod.fst :=
  template_events_log_changes 1 1 (by decide) (by decide) _

end Netflume
