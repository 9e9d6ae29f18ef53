import Netflume.LearnedTemplates
import Netflume.ParseInvariant
import Netflume.ParseSafety
import Netflume.TemplateLog

/-! # The calls of a parse

A parse touches the template store through the calls it records, and the counters
through a few keys only.  Replaying the calls gives the store back, and the events
they raise are as many as the templates counted.  A template takes at least eight
bytes of its datagram, so one datagram cannot raise many. -/

namespace Netflume

open Library

def StoreCall.op : StoreCall → StoreOp
  | .put key fields options => .put key fields options
  | .get key => .get key

/-- The events the calls raise, made in order on the store. -/
def learnedBy (store : TemplateStore) (calls : List StoreCall) : List TemplateLearned :=
  collect TemplateStore.perform TemplateStore.raised store (calls.map StoreCall.op)

theorem op_ne_takeEvents (call : StoreCall) : call.op ≠ .takeEvents := by
  cases call <;> exact StoreOp.noConfusion

/-- The counters without the three a parse adds to. -/
def Stats.outcomes (stats : Stats) : Stats := { stats with templatesNew := 0, deferred := 0, truncated := 0 }

/-- The sink is where the calls made so far have led, from a store and counters it started with. -/
structure Sink.Replays (store : TemplateStore) (stats : Stats) (sink : Sink) : Prop where
  replayed : sink.store = stateAfter TemplateStore.perform store (sink.calls.map StoreCall.op)
  outcomes : sink.stats.outcomes = stats.outcomes
  counted : sink.stats.templatesNew = stats.templatesNew + (learnedBy store sink.calls).length

theorem learnedBy_snoc (store : TemplateStore) (calls : List StoreCall) (call : StoreCall) :
    learnedBy store (calls ++ [call]) = learnedBy store calls ++
      (stateAfter TemplateStore.perform store (calls.map StoreCall.op)).raised call.op := by
  unfold learnedBy
  rw [List.map_append]
  exact collect_snoc _ _ _ _

section Replay

variable {maxPending : Nat} {store : TemplateStore} {stats : Stats}

/-- A put counts a template exactly when it raises an event. -/
theorem replays_put (queues : TemplateStore.Queues maxPending store) {sink : Sink}
    (replays : sink.Replays store stats) (key : TemplateKey) (fields : List Field) (options : Bool) :
    (sink.put key fields options).Replays store stats := by
  obtain ⟨replayed, outcomes, counted⟩ := replays
  have room : 1 ≤ sink.store.maxTemplates := by
    rw [replayed]
    exact (TemplateStore.logs_run queues _).1.room
  refine ⟨?_, ?_, ?_⟩
  · simp only [Sink.put, List.map_append, List.map_cons, List.map_nil, stateAfter_snoc]
    rw [← replayed]
    rfl
  · simp only [Sink.put]
    split <;> exact outcomes
  · have calls : (sink.put key fields options).calls = sink.calls ++ [.put key fields options] := rfl
    have answers := TemplateStore.put_learned_iff room key fields options
    rw [calls, learnedBy_snoc, ← replayed, List.length_append, ← Nat.add_assoc, ← counted]
    simp only [Sink.put, StoreCall.op, TemplateStore.raised]
    split
    · rename_i learned
      rw [if_neg (answers.mp learned)]
      rfl
    · rename_i known
      rw [if_pos (not_not.mp fun changed => known (answers.mpr changed))]
      rfl

theorem replays_invariant (queues : TemplateStore.Queues maxPending store) (stats : Stats) :
    SinkInvariant (Sink.Replays store stats) where
  put := fun _ key fields options _ replays => replays_put queues replays key fields options
  get := by
    rintro sink key ⟨replayed, outcomes, counted⟩
    refine ⟨?_, outcomes, ?_⟩
    · simp only [Sink.get, List.map_append, List.map_cons, List.map_nil, stateAfter_snoc]
      rw [← replayed]
      rfl
    · have calls : (sink.get key).2.calls = sink.calls ++ [.get key] := rfl
      rw [calls, learnedBy_snoc]
      exact counted.trans (by simp [StoreCall.op, TemplateStore.raised])
  append := by
    rintro sink isOptions _ _ rec _ _ ⟨replayed, outcomes, counted⟩
    cases isOptions <;> exact ⟨replayed, outcomes, counted⟩
  deferred := fun _ ⟨replayed, outcomes, counted⟩ => ⟨replayed, outcomes, counted⟩
  markTruncated := fun _ ⟨replayed, outcomes, counted⟩ => ⟨replayed, outcomes, counted⟩
  close := by
    rintro sink ⟨replayed, outcomes, counted⟩
    rw [Sink.close]
    split <;> exact ⟨replayed, outcomes, counted⟩

end Replay

/-! ## How many templates fit in a datagram -/

/-- The fewest bytes of a template: its header and one field. -/
def minTemplateSize : Nat := 8

theorem wireTemplates_size_le (ipfix : Bool) (bytes : Bytes) :
    minTemplateSize * (wireTemplates ipfix bytes).length ≤ bytes.length := by
  fun_induction wireTemplates ipfix bytes with
  | case1 | case3 => simp
  | case2 bytes long empty inductionHypothesis =>
    rw [List.length_drop] at inductionHypothesis
    omega
  | case4 bytes long filled fields rest read inductionHypothesis =>
    obtain ⟨_, front, split, frontLong⟩ := wireSpecs_suffix read
    have lengths := congrArg List.length split
    rw [List.length_drop, List.length_append] at lengths
    rw [List.length_cons, minTemplateSize] at *
    omega

theorem wireOptionsIpfix_size_le (bytes : Bytes) :
    minTemplateSize * (wireOptionsIpfix bytes).length ≤ bytes.length := by
  fun_induction wireOptionsIpfix bytes with
  | case1 | case2 | case3 => simp
  | case4 bytes long filled fields rest read inductionHypothesis =>
    obtain ⟨_, front, split, frontLong⟩ := wireSpecs_suffix read
    have lengths := congrArg List.length split
    rw [List.length_drop, List.length_append] at lengths
    rw [List.length_cons, minTemplateSize] at *
    omega

theorem wireOptionsV9_size_le (bytes : Bytes) :
    minTemplateSize * (wireOptionsV9 bytes).length ≤ bytes.length := by
  fun_induction wireOptionsV9 bytes with
  | case1 | case2 | case4 | case5 => simp
  | case3 bytes long scopeLen optLen rest whole misaligned inductionHypothesis =>
    have lengths : rest.length = bytes.length - (6 + scopeLen + optLen) := List.length_drop
    omega
  | case6 bytes long scopeLen optLen rest whole aligned field fields last read inductionHypothesis =>
    have lengths : rest.length = bytes.length - (6 + scopeLen + optLen) := List.length_drop
    have some := (wireSpecs_suffix read).1
    rw [List.length_cons] at some
    rw [List.length_cons, minTemplateSize] at *
    omega

section Message

variable (exporter : Exporter) (domain : Nat) (ipfix : Bool)

theorem applySet_puts_le (sink : Sink) (set : RawSet) :
    minTemplateSize * (applySet exporter domain ipfix sink set).puts.length ≤
      minTemplateSize * sink.puts.length + set.content.length := by
  have marked : (if set.cut then sink.markTruncated else sink).puts = sink.puts := by
    split <;> rfl
  unfold applySet applyContent
  split
  · have few := wireTemplates_size_le ipfix set.content
    rw [puts_putAll, List.length_append, List.length_map, marked, Nat.mul_add]
    omega
  · split
    · have few : minTemplateSize * (wireOptions ipfix set.content).length ≤ set.content.length := by
        cases ipfix with
        | true => exact wireOptionsIpfix_size_le set.content
        | false => exact wireOptionsV9_size_le set.content
      rw [puts_putAll, List.length_append, List.length_map, marked, Nat.mul_add]
      omega
    · split
      · rw [puts_dataSet, marked]
        exact Nat.le_add_right _ _
      · rw [marked]
        exact Nat.le_add_right _ _

end Message

theorem sinkMeasure_puts : SinkMeasure fun sink => minTemplateSize * sink.puts.length where
  set := applySet_puts_le
  markTruncated := fun _ => rfl
  close := by
    intro sink
    rw [Sink.close]
    split <;> rfl

/-- The events of a run are no more than the puts in it. -/
theorem length_learnedBy_le (store : TemplateStore) (calls : List StoreCall) :
    (learnedBy store calls).length ≤ (calls.filter StoreCall.isPut).length := by
  unfold learnedBy
  induction calls generalizing store with
  | nil => exact Nat.le_refl 0
  | cons call calls inductionHypothesis =>
    have later := inductionHypothesis (store.perform call.op).2
    rw [List.map_cons, collect, List.length_append]
    cases call with
    | put key fields options =>
      have few : (store.raised (.put key fields options)).length ≤ 1 := by
        simp only [TemplateStore.raised]
        split <;> simp
      rw [List.filter_cons_of_pos rfl, List.length_cons]
      simp only [StoreCall.op] at later ⊢
      omega
    | get key =>
      rw [List.filter_cons_of_neg (by simp [StoreCall.isPut])]
      simpa [StoreCall.op, TemplateStore.raised] using later

/-! ## What a parse leaves -/

/-- The store and the counters after the parse of a supported datagram, by the calls it made. -/
structure ParseRun.Replays (store : TemplateStore) (stats : Stats) (data : Bytes) (run : ParseRun) : Prop where
  replayed : run.store = stateAfter TemplateStore.perform store (run.calls.map StoreCall.op)
  outcomes : run.stats.outcomes = stats.outcomes
  counted : run.stats.templatesNew = stats.templatesNew + (learnedBy store run.calls).length
  few : minTemplateSize * (learnedBy store run.calls).length ≤ data.length

theorem runV5_replays (data : Bytes) (exporter : Exporter) (store : TemplateStore) (stats : Stats) :
    (runV5 data exporter store stats).Replays store stats data := by
  obtain ⟨reads, _, run⟩ := runV5_spec data exporter store stats
  have truncatedOnly : (applyV5 data exporter stats).2.outcomes = stats.outcomes ∧
      (applyV5 data exporter stats).2.templatesNew = stats.templatesNew := by
    rw [applyV5]
    split
    · exact ⟨rfl, rfl⟩
    · dsimp only
      split <;> exact ⟨rfl, rfl⟩
  rw [run]
  exact ⟨rfl, truncatedOnly.1, truncatedOnly.2, Nat.zero_le _⟩

theorem runV9OrIpfix_replays {maxPending : Nat} {store : TemplateStore} (queues : store.Queues maxPending)
    (data : Bytes) (exporter : Exporter) (stats : Stats) :
    (runV9OrIpfix data exporter store stats).Replays store stats data := by
  obtain ⟨reads, _, run⟩ := runV9OrIpfix_spec data exporter store stats
  have start : Sink.Replays store stats { store, stats } := ⟨rfl, rfl, rfl⟩
  obtain ⟨replayed, outcomes, counted⟩ := (replays_invariant queues stats).applyMessage data exporter start
  have puts := sinkMeasure_puts.applyMessage_le data exporter { store, stats }
  have none : Sink.puts { store, stats } = [] := rfl
  have learned := length_learnedBy_le store (applyMessage data exporter { store, stats }).2.calls
  rw [run]
  refine ⟨replayed, outcomes, counted, ?_⟩
  rw [none, List.length_nil, Nat.mul_zero, Nat.zero_add] at puts
  exact Nat.le_trans (Nat.mul_le_mul_left _ learned) puts

end Netflume
