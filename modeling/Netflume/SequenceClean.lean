import Netflume.Sequence

/-! # A clean stream raises no alarm

What one call of `observe` does to the stream it is about, what it does to any
other, and the invariant the two keep while the messages of a stream arrive in
order with none lost: whatever is remembered of the stream is its last message. -/

namespace Netflume

open Library

/-- What a message adds to a counter that counts `rule`. -/
def Observation.units (obs : Observation) : Mode → Nat
  | .messages => 1
  | .records => obs.records

/-! ## The counter -/

theorem signedGap_ahead (expected : Nat) {lost : Nat} (few : lost < seqModulus / 2) :
    signedGap ((expected + lost) % seqModulus) (expected % seqModulus) = lost := by
  unfold signedGap seqModulus at *
  omega

/-- What a state expects next, and how it learns which of the two it is. -/
theorem expected_eq (state : StreamState) (rule : Mode) {obs : Observation}
    (sameRecords : state.records = obs.records) : state.expected rule = (state.seq + obs.units rule) % seqModulus := by
  cases rule with
  | messages => rfl
  | records => rw [StreamState.expected, StreamState.byRecords, sameRecords, Observation.units]

/-- An expected value is reduced already. -/
theorem expected_mod (state : StreamState) (rule : Mode) : state.expected rule % seqModulus = state.expected rule := by
  cases rule <;> exact Nat.mod_mod _ _

/-- A message that lands where the rule says teaches the rule or nothing. -/
theorem learnMode_expected {state : StreamState} (rule : Mode) (unlearned : state.mode = none) :
    state.learnMode (state.expected rule) = none ∨ state.learnMode (state.expected rule) = some rule := by
  rw [StreamState.learnMode]
  by_cases ambiguous : state.byMessages = state.byRecords
  · simp [ambiguous, unlearned]
  · rw [if_pos ambiguous]
    cases rule with
    | messages => simp [StreamState.expected]
    | records => simp [StreamState.expected, Ne.symm ambiguous]

namespace SequenceWatch

/-! ## What one call does -/

variable {watch : SequenceWatch} {obs : Observation} {seq : Nat} {state : StreamState}

theorem observe_new (counted : obs.seq = some seq) (unseen : watch.streams.get? obs.key = none) :
    watch.observe obs = (0, watch.firstSeen obs.key seq obs.records) := by
  simp only [observe, counted, unseen]

theorem observe_unlearned (counted : obs.seq = some seq) (held : watch.streams.get? obs.key = some state)
    (unlearned : state.mode = none) :
    watch.observe obs = (0, { watch with streams := watch.streams.moveToEnd obs.key }.setState obs.key
      { state with seq := seq, records := obs.records, mode := state.learnMode seq }) := by
  simp only [observe, counted, held, unlearned]

theorem observe_learned {mode : Mode} (counted : obs.seq = some seq) (held : watch.streams.get? obs.key = some state)
    (learned : state.mode = some mode) :
    watch.observe obs =
      { watch with streams := watch.streams.moveToEnd obs.key }.judge obs.key state mode seq obs.records := by
  simp only [observe, counted, held, learned]

/-- A message of a learned stream at or behind the expected counter value by a plausible loss. -/
theorem judge_ahead {key : StreamKey} {mode : Mode} {records lost : Nat} (few : lost ≤ maxPlausibleGap)
    (gap : signedGap seq (state.expected mode) = lost) :
    watch.judge key state mode seq records =
      let moved := watch.setState key { state with seq := seq, records := records, backwards := 0 }
      (lost, if lost = 0 then moved else moved.recordLoss key mode lost) := by
  rw [judge]
  simp only [gap]
  rw [if_neg (by omega)]
  by_cases none : lost = 0
  · simp [none]
  · rw [if_neg (by omega), if_neg (by omega), if_neg none, Int.toNat_natCast]

/-! ## What one call leaves alone -/

/-- Booking a loss moves no stream. -/
theorem recordLoss_frame (watch : SequenceWatch) (key : StreamKey) (mode : Mode) (gap : Nat) :
    (watch.recordLoss key mode gap).streams = watch.streams ∧
      (watch.recordLoss key mode gap).evicted = watch.evicted ∧
      (watch.recordLoss key mode gap).maxStreams = watch.maxStreams := by
  rw [recordLoss]
  split <;> exact ⟨rfl, rfl, rfl⟩

theorem get?_recordLoss_missed (watch : SequenceWatch) (key other : StreamKey) (mode : Mode) (gap : Nat) :
    (watch.recordLoss key mode gap).missed.get? other =
      if other = key then some ((watch.missed.get? key).getD 0 + gap) else watch.missed.get? other := by
  rw [recordLoss]
  split <;> simp

theorem get?_evict_streams (watch : SequenceWatch) (key : StreamKey) :
    watch.evict.streams.get? key = watch.streams.get? key ∨ watch.evict.streams.get? key = none := by
  have trimmed := OrderedDict.get?_trim watch.maxStreams watch.streams key
  simp only [evict]
  rw [trimmed]
  split
  · exact .inr rfl
  · exact .inl rfl

/-- Eviction forgets the losses of the streams it forgets. -/
theorem get?_evict_missed (watch : SequenceWatch) (key : StreamKey) :
    watch.evict.missed.get? key = watch.missed.get? key ∨
      watch.evict.missed.get? key = none ∧ watch.evict.streams.get? key = none := by
  have trimmed := OrderedDict.get?_trim watch.maxStreams watch.streams key
  simp only [evict]
  rw [trimmed, OrderedDict.get?_eraseAll]
  split
  · exact .inr ⟨rfl, rfl⟩
  · exact .inl rfl

/-- A stream's entries survive a call, or the stream was evicted. -/
structure Untouched (key : StreamKey) (before after : SequenceWatch) : Prop where
  streams : after.streams.get? key = before.streams.get? key ∨ after.streams.get? key = none
  missed : after.missed.get? key = before.missed.get? key ∨
    after.missed.get? key = none ∧ after.streams.get? key = none

theorem judge_untouched {key other : StreamKey} (different : key ≠ other) (watch : SequenceWatch) (state : StreamState)
    (mode : Mode) (seq records : Nat) : Untouched key watch (watch.judge other state mode seq records).2 := by
  rw [judge]
  simp only
  split
  · split <;> exact ⟨.inl (by simp [setState, different]), .inl rfl⟩
  · split
    · exact ⟨.inl (by simp [setState, different]), .inl rfl⟩
    · split
      · exact ⟨.inl (by simp [setState, different]), .inl rfl⟩
      · refine ⟨.inl ?_, .inl ?_⟩
        · rw [(recordLoss_frame _ _ _ _).1]
          simp [setState, different]
        · rw [get?_recordLoss_missed, if_neg different]
          rfl

/-- Another stream may be pushed out, and is then as good as unseen. -/
theorem observe_untouched {key : StreamKey} (different : obs.key ≠ key) (watch : SequenceWatch) :
    Untouched key watch (watch.observe obs).2 := by
  cases counted : obs.seq with
  | none =>
    simp only [observe, counted]
    exact ⟨.inl rfl, .inl rfl⟩
  | some seq =>
    cases held : watch.streams.get? obs.key with
    | none =>
      rw [observe_new counted held]
      have added : (watch.setState obs.key ⟨seq, obs.records, none, 0⟩).streams.get? key = watch.streams.get? key := by
        simp [setState, Ne.symm different]
      have streams := get?_evict_streams (watch.setState obs.key ⟨seq, obs.records, none, 0⟩) key
      rw [added] at streams
      exact ⟨streams, get?_evict_missed (watch.setState obs.key ⟨seq, obs.records, none, 0⟩) key⟩
    | some state =>
      cases mode : state.mode with
      | none =>
        rw [observe_unlearned counted held mode]
        exact ⟨.inl (by simp [setState, Ne.symm different]), .inl rfl⟩
      | some mode' =>
        rw [observe_learned counted held mode]
        have judged := judge_untouched (Ne.symm different) { watch with streams := watch.streams.moveToEnd obs.key }
          state mode' seq obs.records
        obtain ⟨streams, missed⟩ := judged
        exact ⟨by simpa only [OrderedDict.get?_moveToEnd] using streams, missed⟩

end SequenceWatch

/-! ## Clean streams -/

/-- A message counted by `rule`, in order behind the previous message of its stream. -/
def Observation.InOrder (rule : Mode) (previous : Option Observation) (obs : Observation) : Prop :=
  ∃ seq < seqModulus, obs.seq = some seq ∧ ∀ last before, previous = some last → last.seq = some before →
    seq = (before + last.units rule) % seqModulus

/-- The messages of one stream, in order, none lost or repeated. -/
def Clean (rule : Mode) : (previous : Option Observation) → List Observation → Prop
  | _, [] => True
  | previous, obs :: rest => obs.InOrder rule previous ∧ Clean rule (some obs) rest

/-- What is remembered of a stream is its last message. -/
def StreamState.Recalls (rule : Mode) (last : Observation) (state : StreamState) : Prop :=
  last.seq = some state.seq ∧ state.records = last.records ∧ (state.mode = none ∨ state.mode = some rule)

/-- No loss is booked on a stream, and it is remembered by its last message, if at all. -/
structure Unalarmed (key : StreamKey) (rule : Mode) (last : Option Observation) (watch : SequenceWatch) : Prop where
  missed : watch.missed.get? key = none
  recalls : ∀ state, watch.streams.get? key = some state → ∃ obs, last = some obs ∧ state.Recalls rule obs

namespace Unalarmed

variable {key : StreamKey} {rule : Mode} {last : Option Observation} {watch : SequenceWatch} {obs : Observation}

theorem observe_other (unalarmed : Unalarmed key rule last watch) (different : obs.key ≠ key) :
    Unalarmed key rule last (watch.observe obs).2 := by
  obtain ⟨streams, missed⟩ := SequenceWatch.observe_untouched different watch
  constructor
  · rcases missed with same | ⟨gone, _⟩
    · rw [same]
      exact unalarmed.missed
    · exact gone
  · intro state held
    rcases streams with same | gone
    · exact unalarmed.recalls state (same ▸ held)
    · rw [gone] at held
      cases held

/-- The next message of the stream itself: no gap, and the watch has moved on to it. -/
theorem observe_own (unalarmed : Unalarmed obs.key rule last watch) (inOrder : obs.InOrder rule last) :
    (watch.observe obs).1 = 0 ∧ (watch.observe obs).2.resyncs = watch.resyncs ∧
      (watch.observe obs).2.backwards = watch.backwards ∧
      Unalarmed obs.key rule (some obs) (watch.observe obs).2 := by
  obtain ⟨seq, _, counted, follows⟩ := inOrder
  cases held : watch.streams.get? obs.key with
  | none =>
    rw [SequenceWatch.observe_new counted held]
    refine ⟨rfl, rfl, rfl, ?_, ?_⟩
    · rcases SequenceWatch.get?_evict_missed (watch.setState obs.key ⟨seq, obs.records, none, 0⟩) obs.key with
        same | ⟨gone, _⟩
      · exact same.trans unalarmed.missed
      · exact gone
    · intro state kept
      rcases SequenceWatch.get?_evict_streams (watch.setState obs.key ⟨seq, obs.records, none, 0⟩) obs.key with
        same | gone
      · have isNew := same.symm.trans kept
        simp only [SequenceWatch.setState, OrderedDict.get?_set, if_true, Option.some.injEq] at isNew
        subst isNew
        exact ⟨obs, rfl, counted, rfl, .inl rfl⟩
      · have nothing := gone.symm.trans kept
        cases nothing
  | some state =>
    obtain ⟨previous, rfl, recalled, sameRecords, mode⟩ := unalarmed.recalls state held
    have lands : seq = state.expected rule := by
      rw [expected_eq state rule sameRecords]
      exact follows previous state.seq rfl recalled
    have recalls : ∀ mode backwards, mode = none ∨ mode = some rule → ∀ after : StreamState,
        ((watch.streams.moveToEnd obs.key).set obs.key ⟨seq, obs.records, mode, backwards⟩).get? obs.key = some after →
        ∃ last, some obs = some last ∧ after.Recalls rule last := by
      intro mode backwards ruled after found
      simp only [OrderedDict.get?_set, if_true, Option.some.injEq] at found
      subst found
      exact ⟨obs, rfl, counted, rfl, ruled⟩
    rcases mode with unlearned | learned
    · rw [SequenceWatch.observe_unlearned counted held unlearned]
      refine ⟨rfl, rfl, rfl, unalarmed.missed, recalls (state.learnMode seq) state.backwards ?_⟩
      rw [lands]
      exact learnMode_expected rule unlearned
    · have noGap : signedGap seq (state.expected rule) = (0 : Nat) := by
        rw [lands, expected_eq state rule sameRecords]
        have nothing : 0 < seqModulus / 2 := by decide
        exact signedGap_ahead _ nothing
      rw [SequenceWatch.observe_learned counted held learned, SequenceWatch.judge_ahead (Nat.zero_le _) noGap]
      exact ⟨rfl, rfl, rfl, unalarmed.missed, recalls state.mode 0 (.inr learned)⟩

end Unalarmed

/-- A run of observations keeps the invariant of a stream whose share of it is clean. -/
theorem unalarmed_observeAll {key : StreamKey} {rule : Mode} (before rest : List Observation)
    {watch : SequenceWatch} {last : Option Observation} (unalarmed : Unalarmed key rule last watch)
    (clean : Clean rule last ((before ++ rest).filter fun obs => obs.key = key)) :
    ∃ last, Unalarmed key rule last (watch.observeAll before) ∧
      Clean rule last (rest.filter fun obs => obs.key = key) := by
  induction before generalizing watch last with
  | nil => exact ⟨last, unalarmed, clean⟩
  | cons obs before inductionHypothesis =>
    by_cases own : obs.key = key
    · subst own
      simp only [List.cons_append, List.filter_cons, decide_true, if_true] at clean
      obtain ⟨inOrder, cleanRest⟩ := clean
      exact inductionHypothesis (unalarmed.observe_own inOrder).2.2.2 cleanRest
    · simp only [List.cons_append, List.filter_cons, own, decide_false, Bool.false_eq_true, if_false] at clean
      exact inductionHypothesis (unalarmed.observe_other own) clean

theorem unalarmed_new (key : StreamKey) (rule : Mode) (maxStreams : Nat) :
    Unalarmed key rule none (.new maxStreams) := by
  constructor
  · rfl
  · intro state held
    cases held

/-- No false alarm: at every point of a run in which the messages of `key` are clean, whatever other
streams say in between and whatever is evicted. -/
theorem no_false_alarm (maxStreams : Nat) (key : StreamKey) (rule : Mode) (before after : List Observation)
    (obs : Observation) (clean : Clean rule none ((before ++ obs :: after).filter fun obs => obs.key = key)) :
    let watch := (SequenceWatch.new maxStreams).observeAll before
    let seen := watch.observe obs
    (obs.key = key → seen.1 = 0 ∧ seen.2.resyncs = watch.resyncs ∧ seen.2.backwards = watch.backwards) ∧
      seen.2.missed.get? key = none ∧
      ∀ state, seen.2.streams.get? key = some state → state.mode = none ∨ state.mode = some rule := by
  obtain ⟨last, unalarmed, cleanRest⟩ :=
    unalarmed_observeAll before (obs :: after) (unalarmed_new key rule maxStreams) clean
  have ruled : ∀ last watch, Unalarmed key rule last watch → watch.missed.get? key = none ∧
      ∀ state, watch.streams.get? key = some state → state.mode = none ∨ state.mode = some rule := by
    intro last watch unalarmed
    refine ⟨unalarmed.missed, fun state held => ?_⟩
    obtain ⟨_, _, recalls⟩ := unalarmed.recalls state held
    exact recalls.2.2
  by_cases own : obs.key = key
  · subst own
    simp only [List.filter_cons, decide_true, if_true] at cleanRest
    obtain ⟨noGap, noResync, noBackward, kept⟩ := unalarmed.observe_own cleanRest.1
    exact ⟨fun _ => ⟨noGap, noResync, noBackward⟩, ruled _ _ kept⟩
  · exact ⟨fun same => absurd same own, ruled _ _ (unalarmed.observe_other own)⟩

/-- Three records a message, across the wrap, with another stream in between. -/
theorem no_false_alarm_across_wrap :
    let before : List Observation := [⟨.obj 1, 0, 10, some 4294967295, 2, 1⟩, ⟨.obj 2, 0, 10, some 9, 1, 0⟩]
    let watch := (SequenceWatch.new 10).observeAll before
    let seen := watch.observe ⟨.obj 1, 0, 10, some 2, 5, 0⟩
    ((⟨.obj 1, 0, 10⟩ : StreamKey) = ⟨.obj 1, 0, 10⟩ →
        seen.1 = 0 ∧ seen.2.resyncs = watch.resyncs ∧ seen.2.backwards = watch.backwards) ∧
      seen.2.missed.get? ⟨.obj 1, 0, 10⟩ = none ∧
      ∀ state, seen.2.streams.get? ⟨.obj 1, 0, 10⟩ = some state → state.mode = none ∨ state.mode = some .records :=
  no_false_alarm 10 ⟨.obj 1, 0, 10⟩ .records
    [⟨.obj 1, 0, 10, some 4294967295, 2, 1⟩, ⟨.obj 2, 0, 10, some 9, 1, 0⟩] [] ⟨.obj 1, 0, 10, some 2, 5, 0⟩
    (by
      simp [Clean, Observation.InOrder, Observation.key, Observation.units, Observation.records, seqModulus]
      rintro last before rfl counted
      cases counted
      rfl)

end Netflume
