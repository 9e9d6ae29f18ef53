import Netflume.Library.Totals
import Netflume.SequenceStream

/-! # The books of the watch

Three dictionaries are kept by stream, and a stream that is evicted leaves all of
them.  What one message writes is said once; that the books are coherent, and
that every loss returned is still booked or went with an evicted stream, follows
for every run. -/

namespace Netflume

open Library

/-- The streams of the messages that carry a counter, in the order they came. -/
def streamUses (run : List Observation) : List StreamKey := (run.filter fun obs => obs.seq.isSome).map Observation.key

namespace SequenceWatch

/-- The losses booked on the streams a message evicts. -/
def evictedLosses (watch : SequenceWatch) (obs : Observation) : List Nat :=
  watch.missed.valuesOf fun key => watch.streams.contains key && !(watch.observe obs).2.streams.contains key

/-- What a message writes for a stream that is held: its entry is renewed, and the loss it shows, if any,
is booked on it. -/
structure Writes (watch : SequenceWatch) (key : StreamKey) (state : StreamState) (seq : Nat) (entry : StreamState)
    (lost : Nat) (after : SequenceWatch) : Prop where
  streams : after.streams = (watch.streams.moveToEnd key).set key entry
  limit : after.maxStreams = watch.maxStreams
  counter : entry.seq = seq ∨ entry.seq = state.seq
  mode : ∀ mode, state.mode = some mode → entry.mode = some mode
  steady : state.backwards < resyncAfter → entry.backwards < resyncAfter
  books : lost = 0 ∧ after.missed = watch.missed ∧ after.units = watch.units ∧ after.warned = watch.warned ∨
    0 < lost ∧ ∃ mode, entry.mode = some mode ∧
      after.missed = watch.missed.set key ((watch.missed.get? key).getD 0 + lost) ∧
      after.units = watch.units.set key (unit mode key.version) ∧
      after.warned = if watch.warned.contains key.exporter then watch.warned else watch.warned.set key.exporter ()

theorem recordLoss_books (watch : SequenceWatch) (key : StreamKey) (mode : Mode) (gap : Nat) :
    (watch.recordLoss key mode gap).missed = watch.missed.set key ((watch.missed.get? key).getD 0 + gap) ∧
      (watch.recordLoss key mode gap).units = watch.units.set key (unit mode key.version) ∧
      (watch.recordLoss key mode gap).warned =
        if watch.warned.contains key.exporter then watch.warned else watch.warned.set key.exporter () := by
  rw [recordLoss]
  split <;> exact ⟨rfl, rfl, rfl⟩

theorem judge_writes (watch : SequenceWatch) (key : StreamKey) {state : StreamState} {mode : Mode}
    (learned : state.mode = some mode) (seq records : Nat) :
    ∃ entry, Writes watch key state seq entry
      ({ watch with streams := watch.streams.moveToEnd key }.judge key state mode seq records).1
      ({ watch with streams := watch.streams.moveToEnd key }.judge key state mode seq records).2 := by
  by_cases stale : state.Stale mode seq
  · rw [judge_stale stale]
    exact ⟨_, rfl, rfl, .inr rfl, fun _ same => same, fun _ => stale.2.2, .inl ⟨rfl, rfl, rfl, rfl⟩⟩
  · have reset : (0 : Nat) < resyncAfter := by decide
    by_cases restarts : state.Restarts mode seq
    · rw [judge_restart stale restarts]
      exact ⟨_, rfl, rfl, .inl rfl, fun _ same => same, fun _ => reset, .inl ⟨rfl, rfl, rfl, rfl⟩⟩
    · obtain ⟨ahead, few⟩ := distance_eq_loss restarts
      rw [judge_ahead few ahead]
      by_cases nothing : state.loss mode seq = 0
      · simp only [if_pos nothing]
        exact ⟨_, rfl, rfl, .inl rfl, fun _ same => same, fun _ => reset, .inl ⟨nothing, rfl, rfl, rfl⟩⟩
      · simp only [if_neg nothing]
        refine ⟨{ state with seq := seq, records := records, backwards := 0 }, ?_, ?_, .inl rfl, fun _ same => same,
          fun _ => reset, .inr ⟨Nat.pos_of_ne_zero nothing, mode, learned, ?_⟩⟩
        · exact (recordLoss_frame _ key mode _).1
        · exact (recordLoss_frame _ key mode _).2.2
        · exact recordLoss_books _ key mode _

/-- Everything a call of `observe` can do. -/
theorem observe_cases (watch : SequenceWatch) (obs : Observation) :
    (obs.seq = none ∧ watch.observe obs = (0, watch)) ∨
      ∃ seq, obs.seq = some seq ∧
        (watch.streams.get? obs.key = none ∧ watch.observe obs = (0, watch.firstSeen obs.key seq obs.records) ∨
          ∃ state entry, watch.streams.get? obs.key = some state ∧
            Writes watch obs.key state seq entry (watch.observe obs).1 (watch.observe obs).2) := by
  cases counted : obs.seq with
  | none =>
    left
    simp only [observe, counted, and_self]
  | some seq =>
    right
    refine ⟨seq, rfl, ?_⟩
    cases held : watch.streams.get? obs.key with
    | none => exact .inl ⟨rfl, observe_new counted held⟩
    | some state =>
      right
      cases mode : state.mode with
      | none =>
        rw [observe_unlearned counted held mode]
        refine ⟨state, _, rfl, rfl, rfl, .inl rfl, fun _ learned => ?_, fun steady => steady, .inl ⟨rfl, rfl, rfl, rfl⟩⟩
        rw [mode] at learned
        cases learned
      | some mode' =>
        rw [observe_learned counted held mode]
        obtain ⟨entry, writes⟩ := judge_writes watch obs.key mode seq obs.records
        exact ⟨state, entry, rfl, writes⟩

/-! ## What holds at every point of a run -/

/-- The books are kept by streams that are held, and agree with what the streams know. -/
structure Coherent (ceiling : Nat) (run : List Observation) (watch : SequenceWatch) : Prop where
  limit : watch.maxStreams = ceiling
  recent : watch.streams.keys = mostRecent ceiling (streamUses run)
  sameKeys : ∀ key, (watch.missed.get? key).isSome = (watch.units.get? key).isSome
  booked : ∀ key lost, watch.missed.get? key = some lost → 1 ≤ lost ∧ ∃ state mode,
    watch.streams.get? key = some state ∧ state.mode = some mode ∧ watch.units.get? key = some (unit mode key.version)
  states : ∀ key state, watch.streams.get? key = some state → state.backwards < resyncAfter ∧
    ∃ obs ∈ run, obs.key = key ∧ obs.seq = some state.seq

variable {ceiling : Nat} {run : List Observation} {watch : SequenceWatch} {obs : Observation}

theorem coherent_new (ceiling : Nat) : Coherent ceiling [] (new ceiling) where
  limit := rfl
  recent := by simp [new, OrderedDict.keys, OrderedDict.empty, streamUses, mostRecent, List.rtake]
  sameKeys := fun _ => rfl
  booked := fun _ _ held => by cases held
  states := fun _ _ held => by cases held

theorem Coherent.booked_held (coherent : Coherent ceiling run watch) {key : StreamKey}
    (booked : (watch.missed.get? key).isSome = true) : (watch.streams.get? key).isSome = true := by
  obtain ⟨lost, held⟩ := Option.isSome_iff_exists.mp booked
  obtain ⟨_, state, _, streamHeld, _⟩ := coherent.booked key lost held
  rw [streamHeld]
  rfl

theorem streamUses_snoc {seq : Nat} (counted : obs.seq = some seq) :
    streamUses (run ++ [obs]) = streamUses run ++ [obs.key] := by
  simp [streamUses, counted]

/-- A message of a stream not held: it is placed last, and the oldest streams may go, books and all. -/
theorem coherent_firstSeen (coherent : Coherent ceiling run watch) {seq : Nat} (counted : obs.seq = some seq)
    (unseen : watch.streams.get? obs.key = none) :
    Coherent ceiling (run ++ [obs]) (watch.firstSeen obs.key seq obs.records) := by
  obtain ⟨rfl, recent, sameKeys, booked, states⟩ := coherent
  simp only [firstSeen, setState, evict, OrderedDict.set_of_not_held unseen]
  refine ⟨rfl, ?_, fun key => ?_, fun key lost held => ?_, fun key state held => ?_⟩
  · rw [streamUses_snoc counted]
    exact OrderedDict.keys_trim_place recent _ _
  · simp only [OrderedDict.get?_eraseAll]
    split
    · rfl
    · exact sameKeys key
  · simp only [OrderedDict.get?_eraseAll, OrderedDict.get?_trim] at held ⊢
    split at held
    · cases held
    · rename_i kept
      obtain ⟨positive, state, mode, streamHeld, learned, counts⟩ := booked key lost held
      have different : key ≠ obs.key := by
        rintro rfl
        rw [unseen] at streamHeld
        cases streamHeld
      refine ⟨positive, state, mode, ?_, learned, ?_⟩
      · rw [if_neg kept, OrderedDict.get?_place, if_neg different]
        exact streamHeld
      · rw [if_neg kept]
        exact counts
  · simp only [OrderedDict.get?_trim] at held
    split at held
    · cases held
    · rw [OrderedDict.get?_place] at held
      split at held
      · cases held
        rename_i isKey
        exact ⟨Nat.succ_pos _, obs, by simp, isKey.symm, counted⟩
      · obtain ⟨steady, earlier, member, sameStream, sameCounter⟩ := states key state held
        exact ⟨steady, earlier, List.mem_append_left _ member, sameStream, sameCounter⟩

/-- A message of a stream that is held. -/
theorem coherent_writes (coherent : Coherent ceiling run watch) {seq lost : Nat} {state entry : StreamState}
    {after : SequenceWatch} (counted : obs.seq = some seq) (held : watch.streams.get? obs.key = some state)
    (writes : Writes watch obs.key state seq entry lost after) : Coherent ceiling (run ++ [obs]) after := by
  have streams : ∀ key, after.streams.get? key = if key = obs.key then some entry else watch.streams.get? key := by
    intro key
    rw [writes.streams, OrderedDict.get?_set, OrderedDict.get?_moveToEnd]
  obtain ⟨steady, earlier, member, sameStream, sameCounter⟩ := coherent.states obs.key state held
  refine ⟨writes.limit.trans coherent.limit, ?_, ?_, ?_, fun key other found => ?_⟩
  · have isHeld : (watch.streams.get? obs.key).isSome = true := by rw [held]; rfl
    rw [writes.streams, OrderedDict.keys_set_of_held (by rw [OrderedDict.get?_moveToEnd]; exact isHeld),
      streamUses_snoc counted]
    exact OrderedDict.keys_moveToEnd_of_held coherent.recent isHeld
  · intro key
    obtain ⟨_, missed, units, _⟩ | ⟨_, mode, _, missed, units, _⟩ := writes.books
    · rw [missed, units]
      exact coherent.sameKeys key
    · rw [missed, units, OrderedDict.get?_set, OrderedDict.get?_set]
      split
      · rfl
      · exact coherent.sameKeys key
  · have keeps : ∀ key lost, watch.missed.get? key = some lost → 1 ≤ lost ∧ ∃ state mode,
        after.streams.get? key = some state ∧ state.mode = some mode ∧
          watch.units.get? key = some (unit mode key.version) := by
      intro key lost booked
      obtain ⟨positive, other, mode, streamHeld, learned, counts⟩ := coherent.booked key lost booked
      rw [streams]
      split
      · rename_i isKey
        subst isKey
        rw [held] at streamHeld
        cases streamHeld
        exact ⟨positive, entry, mode, rfl, writes.mode mode learned, counts⟩
      · exact ⟨positive, other, mode, streamHeld, learned, counts⟩
    intro key amount booked
    obtain ⟨_, missed, units, _⟩ | ⟨positive, mode, learned, missed, units, _⟩ := writes.books
    · rw [missed] at booked
      rw [units]
      exact keeps key amount booked
    · rw [missed, OrderedDict.get?_set] at booked
      rw [units, OrderedDict.get?_set]
      split at booked
      · rename_i isKey
        cases booked
        rw [streams, if_pos isKey, if_pos isKey, isKey]
        exact ⟨by omega, entry, mode, rfl, learned, rfl⟩
      · rename_i different
        rw [if_neg different]
        exact keeps key amount booked
  · rw [streams] at found
    split at found
    · rename_i isKey
      cases found
      refine ⟨writes.steady steady, ?_⟩
      obtain fresh | old := writes.counter
      · exact ⟨obs, by simp, isKey.symm, by rw [counted, fresh]⟩
      · exact ⟨earlier, List.mem_append_left _ member, by rw [sameStream, isKey], by rw [sameCounter, old]⟩
    · obtain ⟨steadyOther, earlierOther, memberOther, sameOther, counterOther⟩ := coherent.states key other found
      exact ⟨steadyOther, earlierOther, List.mem_append_left _ memberOther, sameOther, counterOther⟩

theorem coherent_observe (coherent : Coherent ceiling run watch) (obs : Observation) :
    Coherent ceiling (run ++ [obs]) (watch.observe obs).2 := by
  obtain ⟨uncounted, same⟩ | ⟨seq, counted, ⟨unseen, placed⟩ | ⟨state, entry, held, writes⟩⟩ := watch.observe_cases obs
  · obtain ⟨limit, recent, sameKeys, booked, states⟩ := coherent
    rw [same]
    refine ⟨limit, ?_, sameKeys, booked, fun key state held => ?_⟩
    · simpa [streamUses, uncounted] using recent
    · obtain ⟨steady, earlier, member, sameStream, sameCounter⟩ := states key state held
      exact ⟨steady, earlier, List.mem_append_left _ member, sameStream, sameCounter⟩
  · rw [placed]
    exact coherent_firstSeen coherent counted unseen
  · exact coherent_writes coherent counted held writes

theorem coherent_run (ceiling : Nat) (run : List Observation) :
    Coherent ceiling run (stateAfter observe (new ceiling) run) := by
  induction run using List.reverseRecOn with
  | nil => exact coherent_new ceiling
  | append_singleton run obs inductionHypothesis =>
    rw [stateAfter_snoc]
    exact coherent_observe inductionHypothesis obs

/-- The rule of a stream lasts as long as the stream is held. -/
theorem mode_observe (watch : SequenceWatch) (obs : Observation) {key : StreamKey} {state later : StreamState}
    {mode : Mode} (held : watch.streams.get? key = some state) (learned : state.mode = some mode)
    (still : (watch.observe obs).2.streams.get? key = some later) : later.mode = some mode := by
  by_cases own : obs.key = key
  · subst own
    obtain ⟨_, same⟩ | ⟨seq, _, ⟨unseen, _⟩ | ⟨other, entry, alsoHeld, writes⟩⟩ := watch.observe_cases obs
    · rw [same, held] at still
      cases still
      exact learned
    · rw [held] at unseen
      cases unseen
    · rw [held] at alsoHeld
      cases alsoHeld
      rw [writes.streams, OrderedDict.get?_set, if_pos rfl] at still
      cases still
      exact writes.mode mode learned
  · obtain same | gone := (observe_untouched own watch).streams
    · rw [same, held] at still
      cases still
      exact learned
    · rw [gone] at still
      cases still

/-! ## Every loss returned is accounted for -/

/-- What is returned now is booked, and what goes from the books goes with a stream evicted now. -/
theorem total_observe (coherent : Coherent ceiling run watch) (obs : Observation) :
    watch.missed.total + (watch.observe obs).1 =
      (watch.observe obs).2.missed.total + (watch.evictedLosses obs).sum := by
  obtain ⟨_, same⟩ | ⟨seq, _, ⟨unseen, placed⟩ | ⟨state, entry, held, writes⟩⟩ := watch.observe_cases obs
  · have nothing : watch.evictedLosses obs = [] := OrderedDict.valuesOf_none fun key _ => by rw [same, Bool.and_not_self]
    rw [nothing, same]
    rfl
  · have popped : watch.evictedLosses obs = watch.missed.valuesOf fun key => decide (key ∈
        ((watch.streams.place obs.key ⟨seq, obs.records, none, 0⟩).trim watch.maxStreams).1.map Prod.fst) := by
      apply OrderedDict.valuesOf_congr
      intro key booked
      have streamHeld := coherent.booked_held booked
      have different : key ≠ obs.key := by
        rintro rfl
        rw [unseen] at streamHeld
        cases streamHeld
      rw [placed]
      simp only [firstSeen, setState, evict, OrderedDict.set_of_not_held unseen, OrderedDict.contains,
        OrderedDict.get?_trim, OrderedDict.get?_place, if_neg different, streamHeld, Bool.true_and]
      split
      · rename_i out
        exact (decide_eq_true out).symm
      · rename_i stays
        rw [streamHeld, decide_eq_false stays]
        rfl
    have split := watch.missed.total_restrict fun key => decide (key ∉
      ((watch.streams.place obs.key ⟨seq, obs.records, none, 0⟩).trim watch.maxStreams).1.map Prod.fst)
    simp only [decide_not, Bool.not_not] at split
    rw [popped, placed]
    simp only [firstSeen, setState, evict, OrderedDict.set_of_not_held unseen, OrderedDict.eraseAll_eq_restrict,
      decide_not]
    omega
  · have nothing : watch.evictedLosses obs = [] := by
      apply OrderedDict.valuesOf_none
      intro key _
      rw [writes.streams]
      simp only [OrderedDict.contains, OrderedDict.get?_set, OrderedDict.get?_moveToEnd]
      split
      · exact Bool.and_false _
      · exact Bool.and_not_self _
    obtain ⟨none, missed, _, _⟩ | ⟨_, mode, _, missed, _, _⟩ := writes.books
    · rw [nothing, none, missed]
      rfl
    · have added := watch.missed.total_set obs.key ((watch.missed.get? obs.key).getD 0 + (watch.observe obs).1)
      rw [nothing, missed, List.sum_nil]
      omega

theorem total_run (ceiling : Nat) (run : List Observation) :
    (outputs observe (new ceiling) run).sum =
      (stateAfter observe (new ceiling) run).missed.total +
        (collect observe evictedLosses (new ceiling) run).sum := by
  induction run using List.reverseRecOn with
  | nil => rfl
  | append_singleton run obs inductionHypothesis =>
    have step := total_observe (coherent_run ceiling run) obs
    rw [outputs_snoc, stateAfter_snoc, collect_snoc, List.sum_append, List.sum_append, inductionHypothesis,
      List.sum_singleton]
    omega

end SequenceWatch

/-- The books of the watch are coherent after every run of calls, and no loss returned is lost from sight. -/
theorem sequence_books_coherent (maxStreams : Nat) (run : List Observation) :
    let start := SequenceWatch.new maxStreams
    let watch := stateAfter SequenceWatch.observe start run
    watch.streams.size ≤ maxStreams ∧ watch.streams.keys = mostRecent maxStreams (streamUses run) ∧
      (∀ key, (watch.missed.get? key).isSome = (watch.units.get? key).isSome) ∧
      (∀ key lost, watch.missed.get? key = some lost → 1 ≤ lost ∧ ∃ state mode,
        watch.streams.get? key = some state ∧ state.mode = some mode ∧
          watch.units.get? key = some (SequenceWatch.unit mode key.version)) ∧
      (∀ obs key state mode later, watch.streams.get? key = some state → state.mode = some mode →
        (watch.observe obs).2.streams.get? key = some later → later.mode = some mode) ∧
      (∀ key state, watch.streams.get? key = some state → state.backwards < resyncAfter ∧
        ∃ obs ∈ run, obs.key = key ∧ obs.seq = some state.seq) ∧
      (outputs SequenceWatch.observe start run).sum =
        watch.missed.total + (collect SequenceWatch.observe SequenceWatch.evictedLosses start run).sum := by
  intro start watch
  have coherent : SequenceWatch.Coherent maxStreams run watch := SequenceWatch.coherent_run maxStreams run
  refine ⟨?_, coherent.recent, coherent.sameKeys, coherent.booked, ?_, coherent.states,
    SequenceWatch.total_run maxStreams run⟩
  · have few := length_mostRecent_le maxStreams (streamUses run)
    rw [← coherent.recent] at few
    simpa only [OrderedDict.size, OrderedDict.keys, List.length_map] using few
  · intro obs key state mode later held learned still
    exact SequenceWatch.mode_observe watch obs held learned still

end Netflume
