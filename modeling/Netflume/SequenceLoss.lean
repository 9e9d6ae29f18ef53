import Netflume.SequenceClean

/-! # Losses are counted exactly

A stream whose rule is known, followed over messages that arrive or get lost.
Between two calls about the stream the watch remembers the last message received;
the counter of the next one stands ahead of it by the units lost in between. -/

namespace Netflume

open Library

/-- What becomes of a message: it is lost or received, or belongs to another stream and arrives. -/
inductive Passage where
  | lost (obs : Observation)
  | received (obs : Observation)
  | elsewhere (obs : Observation)

/-- The exporter's counter, message by message, lost or not. -/
def Continues (key : StreamKey) (rule : Mode) : (next : Nat) → List Passage → Prop
  | _, [] => True
  | next, .lost obs :: rest | next, .received obs :: rest =>
    obs.key = key ∧ obs.seq = some next ∧ Continues key rule ((next + obs.units rule) % seqModulus) rest
  | next, .elsewhere obs :: rest => obs.key ≠ key ∧ Continues key rule next rest

/-- The units lost before each message received. -/
def lostBefore (rule : Mode) : (pending : Nat) → List Passage → List Nat
  | _, [] => []
  | pending, .lost obs :: rest => lostBefore rule (pending + obs.units rule) rest
  | pending, .received _ :: rest => pending :: lostBefore rule 0 rest
  | pending, .elsewhere _ :: rest => lostBefore rule pending rest

namespace SequenceWatch

def arrive (watch : SequenceWatch) : Passage → SequenceWatch
  | .lost _ => watch
  | .received obs | .elsewhere obs => (watch.observe obs).2

/-- What `observe` returns for the messages of the stream. -/
def returned (watch : SequenceWatch) : List Passage → List Nat
  | [] => []
  | .received obs :: rest => (watch.observe obs).1 :: returned (watch.observe obs).2 rest
  | passage :: rest => returned (watch.arrive passage) rest

/-- No other stream's message evicts this one. -/
def Retains (key : StreamKey) (watch : SequenceWatch) : List Passage → Prop
  | [] => True
  | .elsewhere obs :: rest => (watch.observe obs).2.streams.get? key ≠ none ∧ Retains key (watch.observe obs).2 rest
  | passage :: rest => Retains key (watch.arrive passage) rest

/-- The stream is held, its rule is known, and its counter stands `pending` units past what is expected. -/
structure Awaits (watch : SequenceWatch) (key : StreamKey) (rule : Mode) (pending next : Nat) : Prop where
  state : ∃ state, watch.streams.get? key = some state ∧ state.mode = some rule ∧
    next = (state.expected rule + pending) % seqModulus

variable {watch : SequenceWatch} {key : StreamKey} {rule : Mode} {pending next : Nat} {obs : Observation}

theorem awaits_lost (awaits : watch.Awaits key rule pending next) (units : Nat) :
    watch.Awaits key rule (pending + units) ((next + units) % seqModulus) := by
  obtain ⟨state, held, learned, rfl⟩ := awaits.state
  refine ⟨state, held, learned, ?_⟩
  rw [Nat.mod_add_mod, Nat.add_assoc]

theorem awaits_elsewhere (awaits : watch.Awaits key rule pending next) (different : obs.key ≠ key)
    (retained : (watch.observe obs).2.streams.get? key ≠ none) :
    (watch.observe obs).2.Awaits key rule pending next ∧
      (watch.observe obs).2.missed.get? key = watch.missed.get? key := by
  obtain ⟨state, held, learned, ahead⟩ := awaits.state
  obtain ⟨streams, missed⟩ := observe_untouched different watch
  have same := streams.resolve_right retained
  exact ⟨⟨state, same.trans held, learned, ahead⟩, missed.resolve_right fun gone => retained gone.2⟩

/-- A message ahead of what is expected by a plausible loss: the loss is returned, and booked on its stream alone. -/
theorem judge_ahead_after {key : StreamKey} {state : StreamState} {mode : Mode} {seq lost : Nat} (records : Nat)
    (few : lost ≤ maxPlausibleGap) (gap : signedGap seq (state.expected mode) = lost) (watch : SequenceWatch) :
    let judged := watch.judge key state mode seq records
    judged.1 = lost ∧ judged.2.streams.get? key = some ⟨seq, records, state.mode, 0⟩ ∧
      (judged.2.missed.get? key).getD 0 = (watch.missed.get? key).getD 0 + lost ∧
      ∀ other, other ≠ key → judged.2.missed.get? other = watch.missed.get? other := by
  rw [judge_ahead few gap]
  generalize moved : watch.setState key { state with seq := seq, records := records, backwards := 0 } = after
  have streams : after.streams.get? key = some ⟨seq, records, state.mode, 0⟩ := by
    rw [← moved]
    simp [setState]
  have missed : after.missed = watch.missed := by
    rw [← moved]
    rfl
  by_cases nothing : lost = 0
  · simp only [if_pos nothing]
    exact ⟨trivial, streams, by rw [missed, nothing, Nat.add_zero], fun other _ => by rw [missed]⟩
  · simp only [if_neg nothing]
    refine ⟨trivial, ?_, ?_, fun other different => ?_⟩
    · rw [(recordLoss_frame after key mode lost).1]
      exact streams
    · rw [get?_recordLoss_missed, if_pos rfl, Option.getD_some, missed]
    · rw [get?_recordLoss_missed, if_neg different, missed]

/-- A message of the stream itself: its gap is what is pending, and is booked on its stream alone. -/
theorem awaits_received (awaits : watch.Awaits obs.key rule pending next) (counted : obs.seq = some next)
    (few : pending ≤ maxPlausibleGap) :
    (watch.observe obs).1 = pending ∧
      (watch.observe obs).2.Awaits obs.key rule 0 ((next + obs.units rule) % seqModulus) ∧
      ((watch.observe obs).2.missed.get? obs.key).getD 0 = (watch.missed.get? obs.key).getD 0 + pending ∧
      ∀ other, other ≠ obs.key → (watch.observe obs).2.missed.get? other = watch.missed.get? other := by
  obtain ⟨state, held, learned, ahead⟩ := awaits.state
  have gap : signedGap next (state.expected rule) = pending := by
    have apart := signedGap_ahead (state.expected rule) (Nat.lt_of_le_of_lt few (by decide))
    rw [expected_mod, ← ahead] at apart
    exact apart
  have expected : (next + obs.units rule) % seqModulus =
      ((⟨next, obs.records, state.mode, 0⟩ : StreamState).expected rule + 0) % seqModulus := by
    rw [Nat.add_zero, expected_mod, expected_eq _ rule rfl]
  rw [observe_learned counted held learned]
  obtain ⟨answer, streams, booked, others⟩ :=
    judge_ahead_after obs.records few gap { watch with streams := watch.streams.moveToEnd obs.key }
  exact ⟨answer, ⟨_, streams, learned, expected⟩, booked, others⟩

/-- The calls about the stream leave the losses of every other stream as they were. -/
def OthersKept (key : StreamKey) (watch : SequenceWatch) (passages : List Passage) : Prop :=
  ∀ before obs after, passages = before ++ .received obs :: after → ∀ other, other ≠ key →
    ((before.foldl arrive watch).observe obs).2.missed.get? other = (before.foldl arrive watch).missed.get? other

theorem othersKept_cons {passage : Passage} {rest : List Passage}
    (first : ∀ obs, passage = .received obs → ∀ other, other ≠ key →
      (watch.observe obs).2.missed.get? other = watch.missed.get? other)
    (later : OthersKept key (watch.arrive passage) rest) : OthersKept key watch (passage :: rest) := by
  intro before obs after split
  cases before with
  | nil =>
    cases split
    exact first obs rfl
  | cons head before =>
    cases split
    exact later before obs after rfl

/-- The run from any point of it, with the units lost so far and not yet noticed. -/
theorem loss_from (passages : List Passage) (awaits : watch.Awaits key rule pending next)
    (continues : Continues key rule next passages) (retained : watch.Retains key passages)
    (modest : ∀ lost ∈ lostBefore rule pending passages, lost ≤ maxPlausibleGap) :
    watch.returned passages = lostBefore rule pending passages ∧
      ((passages.foldl arrive watch).missed.get? key).getD 0 =
        (watch.missed.get? key).getD 0 + (lostBefore rule pending passages).sum ∧
      OthersKept key watch passages := by
  induction passages generalizing watch pending next with
  | nil =>
    refine ⟨rfl, rfl, fun before obs after split => ?_⟩
    simp at split
  | cons passage rest inductionHypothesis =>
    cases passage with
    | lost obs =>
      obtain ⟨_, _, continuesRest⟩ := continues
      obtain ⟨gaps, booked, others⟩ :=
        inductionHypothesis (awaits_lost awaits _) continuesRest retained modest
      exact ⟨gaps, booked, othersKept_cons (fun _ received => by cases received) others⟩
    | received obs =>
      obtain ⟨rfl, counted, continuesRest⟩ := continues
      have few := modest pending List.mem_cons_self
      obtain ⟨gap, moved, ownMissed, otherMissed⟩ := awaits_received awaits counted few
      obtain ⟨gaps, booked, others⟩ := inductionHypothesis moved continuesRest retained
        fun lost member => modest lost (List.mem_cons_of_mem _ member)
      refine ⟨?_, ?_, othersKept_cons (fun _ received => ?_) others⟩
      · rw [returned, gap, gaps, lostBefore]
      · rw [List.foldl_cons, lostBefore, List.sum_cons, ← Nat.add_assoc, ← ownMissed]
        exact booked
      · cases received
        exact otherMissed
    | elsewhere obs =>
      obtain ⟨different, continuesRest⟩ := continues
      obtain ⟨kept, retainedRest⟩ := retained
      obtain ⟨same, sameMissed⟩ := awaits_elsewhere awaits different kept
      obtain ⟨gaps, booked, others⟩ := inductionHypothesis same continuesRest retainedRest modest
      refine ⟨gaps, ?_, othersKept_cons (fun _ received => by cases received) others⟩
      rw [List.foldl_cons, ← sameMissed]
      exact booked

end SequenceWatch

/-- Exact loss accounting on a stream whose rule is known, over any interleaving that does not evict it. -/
theorem exact_loss (watch : SequenceWatch) (key : StreamKey) (rule : Mode) (state : StreamState)
    (passages : List Passage) (held : watch.streams.get? key = some state) (learned : state.mode = some rule)
    (continues : Continues key rule (state.expected rule) passages) (retained : watch.Retains key passages)
    (modest : ∀ lost ∈ lostBefore rule 0 passages, lost ≤ maxPlausibleGap) :
    watch.returned passages = lostBefore rule 0 passages ∧
      ((passages.foldl SequenceWatch.arrive watch).missed.get? key).getD 0 =
        (watch.missed.get? key).getD 0 + (lostBefore rule 0 passages).sum ∧
      ∀ before obs after, passages = before ++ .received obs :: after → ∀ other, other ≠ key →
        ((before.foldl SequenceWatch.arrive watch).observe obs).2.missed.get? other =
          (before.foldl SequenceWatch.arrive watch).missed.get? other := by
  have awaits : watch.Awaits key rule 0 (state.expected rule) := by
    refine ⟨state, held, learned, ?_⟩
    rw [Nat.add_zero, expected_mod]
  exact SequenceWatch.loss_from passages awaits continues retained modest

/-- Two messages of three records lost across the wrap, another stream's in between. -/
theorem exact_loss_across_wrap :
    let key : StreamKey := ⟨.obj 1, 0, 10⟩
    let watch : SequenceWatch := { SequenceWatch.new 10 with
      streams := OrderedDict.empty.set key ⟨4294967290, 4, some .records, 0⟩ }
    let passages : List Passage := [.lost ⟨.obj 1, 0, 10, some 4294967294, 2, 1⟩,
      .elsewhere ⟨.obj 2, 0, 10, some 9, 1, 0⟩, .lost ⟨.obj 1, 0, 10, some 1, 3, 0⟩,
      .received ⟨.obj 1, 0, 10, some 4, 1, 0⟩]
    watch.returned passages = lostBefore .records 0 passages ∧
      ((passages.foldl SequenceWatch.arrive watch).missed.get? key).getD 0 =
        (watch.missed.get? key).getD 0 + (lostBefore .records 0 passages).sum ∧
      ∀ before obs after, passages = before ++ .received obs :: after → ∀ other, other ≠ key →
        ((before.foldl SequenceWatch.arrive watch).observe obs).2.missed.get? other =
          (before.foldl SequenceWatch.arrive watch).missed.get? other :=
  exact_loss _ _ .records ⟨4294967290, 4, some .records, 0⟩ _ (by decide) rfl
    (by simp [Continues, StreamState.expected, StreamState.byRecords, Observation.key, Observation.units,
      Observation.records, seqModulus])
    ⟨by decide, trivial⟩ (by decide)

end Netflume
