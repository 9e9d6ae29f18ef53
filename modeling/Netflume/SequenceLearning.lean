import Netflume.Projection
import Netflume.SequenceLoss
import Netflume.SequenceStabilise

/-! # What a watch learns while messages are lost

A stream is followed from its first message, with its rule still to be learned.
The rule is taken from the first message that stands one message, or the records of
the message before it, behind that message, and is never reconsidered.  A loss just
before it can make the wrong reading fit. -/

namespace Netflume

open Library

/-- The units of the messages lost. -/
def lostUnits (rule : Mode) : List Passage → Nat
  | [] => 0
  | .lost obs :: rest => obs.units rule + lostUnits rule rest
  | .received _ :: rest | .elsewhere _ :: rest => lostUnits rule rest

/-- What there is to learn from: each message received behind another, as the message before it and the units
lost in between. -/
def lessons (rule : Mode) : (last : Option (Observation × Nat)) → List Passage → List (Observation × Nat)
  | _, [] => []
  | last, .lost obs :: rest => lessons rule (last.map fun lesson => (lesson.1, lesson.2 + obs.units rule)) rest
  | last, .received obs :: rest => last.toList ++ lessons rule (some (obs, 0)) rest
  | last, .elsewhere _ :: rest => lessons rule last rest

/-- The two readings differ, and the counter has moved as one of them says. -/
def Teaches (rule : Mode) (lesson : Observation × Nat) : Prop :=
  lesson.1.records % seqModulus ≠ 1 ∧
    ((lesson.1.units rule + lesson.2) % seqModulus = 1 ∨
      (lesson.1.units rule + lesson.2) % seqModulus = lesson.1.records % seqModulus)

instance (rule : Mode) (lesson : Observation × Nat) : Decidable (Teaches rule lesson) :=
  inferInstanceAs (Decidable (_ ∧ _))

/-- The first lesson that teaches is one before which nothing was lost. -/
def TaughtRightly (rule : Mode) (lessons : List (Observation × Nat)) : Prop :=
  ∀ lesson, lessons.find? (fun lesson => decide (Teaches rule lesson)) = some lesson → lesson.2 % seqModulus = 0

theorem taughtRightly_cons_of_teaches {rule : Mode} {lesson : Observation × Nat} (teaches : Teaches rule lesson)
    (rest : List (Observation × Nat)) : TaughtRightly rule (lesson :: rest) ↔ lesson.2 % seqModulus = 0 := by
  rw [TaughtRightly]
  simp [teaches]

theorem taughtRightly_cons_of_not {rule : Mode} {lesson : Observation × Nat} (untaught : ¬ Teaches rule lesson)
    (rest : List (Observation × Nat)) : TaughtRightly rule (lesson :: rest) ↔ TaughtRightly rule rest := by
  unfold TaughtRightly
  simp [untaught]

/-- What is learned from a counter that has moved on by `moved`. -/
theorem learnMode_moved (state : StreamState) (moved : Nat) :
    state.learnMode ((state.seq + moved) % seqModulus) =
      if state.records % seqModulus = 1 then state.mode
      else if moved % seqModulus = 1 then some .messages
      else if moved % seqModulus = state.records % seqModulus then some .records
      else state.mode := by
  have apart : state.byMessages ≠ state.byRecords ↔ ¬ state.records % seqModulus = 1 := by
    rw [StreamState.byMessages, StreamState.byRecords, seqModulus]
    omega
  have oneOn : (state.seq + moved) % seqModulus = state.byMessages ↔ moved % seqModulus = 1 := by
    rw [StreamState.byMessages, seqModulus]
    omega
  have recordsOn : (state.seq + moved) % seqModulus = state.byRecords ↔
      moved % seqModulus = state.records % seqModulus := by
    rw [StreamState.byRecords, seqModulus]
    omega
  rw [StreamState.learnMode]
  simp only [apart, oneOn, recordsOn, ite_not]

/-- Behind the message `last` and so many units lost: what the next one teaches. -/
theorem learnMode_lesson {state : StreamState} {rule : Mode} {last : Observation} {lost seq : Nat}
    (sameRecords : state.records = last.records) (unlearned : state.mode = none)
    (lands : seq = (state.seq + (last.units rule + lost)) % seqModulus) :
    (¬ Teaches rule (last, lost) → state.learnMode seq = none) ∧
      (Teaches rule (last, lost) →
        ∃ mode, state.learnMode seq = some mode ∧ (mode = rule ↔ lost % seqModulus = 0)) := by
  have learned := learnMode_moved state (last.units rule + lost)
  rw [← lands, sameRecords, unlearned] at learned
  rw [learned]
  rw [Teaches]
  by_cases single : last.records % seqModulus = 1
  · rw [if_pos single]
    exact ⟨fun _ => rfl, fun teaches => absurd single teaches.1⟩
  · rw [if_neg single]
    by_cases oneOn : (last.units rule + lost) % seqModulus = 1
    · rw [if_pos oneOn]
      refine ⟨fun untaught => absurd ⟨single, .inl oneOn⟩ untaught, fun _ => ⟨.messages, rfl, ?_⟩⟩
      cases rule with
      | messages =>
        simp only [Observation.units, true_iff] at oneOn ⊢
        unfold seqModulus at *
        omega
      | records =>
        simp only [Observation.units, reduceCtorEq, false_iff] at oneOn ⊢
        unfold seqModulus at *
        omega
    · rw [if_neg oneOn]
      by_cases recordsOn : (last.units rule + lost) % seqModulus = last.records % seqModulus
      · rw [if_pos recordsOn]
        refine ⟨fun untaught => absurd ⟨single, .inr recordsOn⟩ untaught, fun _ => ⟨.records, rfl, ?_⟩⟩
        cases rule with
        | messages =>
          simp only [Observation.units, reduceCtorEq, false_iff] at oneOn ⊢
          unfold seqModulus at *
          omega
        | records =>
          simp only [Observation.units, true_iff] at recordsOn ⊢
          unfold seqModulus at *
          omega
      · rw [if_neg recordsOn]
        exact ⟨fun _ => rfl, fun teaches => absurd teaches.2 (not_or.mpr ⟨oneOn, recordsOn⟩)⟩

namespace SequenceWatch

/-- A stream once held stays held when other streams' messages arrive. -/
def Spares (key : StreamKey) (watch : SequenceWatch) : List Passage → Prop
  | [] => True
  | .elsewhere obs :: rest =>
    (watch.streams.get? key ≠ none → (watch.observe obs).2.streams.get? key ≠ none) ∧
      Spares key (watch.observe obs).2 rest
  | passage :: rest => Spares key (watch.arrive passage) rest

/-- No more is reported lost than was, and no rule is taken for another. -/
def InventsNothing (watch : SequenceWatch) (key : StreamKey) (rule : Mode) (passages : List Passage) : Prop :=
  (watch.returned passages).sum ≤ lostUnits rule passages ∧
    ∀ state, (passages.foldl arrive watch).streams.get? key = some state → state.mode = none ∨ state.mode = some rule

variable {watch : SequenceWatch} {key : StreamKey} {rule : Mode} {obs : Observation} {next lost : Nat}
  {state : StreamState}

/-- The stream is held and its rule known, right or wrong. -/
def Rules (watch : SequenceWatch) (key : StreamKey) (mode : Mode) : Prop :=
  ∃ state, watch.streams.get? key = some state ∧ state.mode = some mode

theorem spares_elsewhere (different : obs.key ≠ key) (spared : watch.streams.get? key ≠ none →
    (watch.observe obs).2.streams.get? key ≠ none) :
    (watch.observe obs).2.streams.get? key = watch.streams.get? key := by
  rcases (observe_untouched different watch).streams with same | gone
  · exact same
  · by_contra changed
    exact spared (fun unseen => changed (gone.trans unseen.symm)) gone

/-- A message of a stream whose rule is known: set aside as stale, or taken as the new base. -/
theorem observe_ruled (counted : obs.seq = some next) (held : watch.streams.get? obs.key = some state)
    (learned : state.mode = some rule) :
    (state.Stale rule next ∧ (watch.observe obs).1 = 0 ∧
        (watch.observe obs).2.streams.get? obs.key = some { state with backwards := state.backwards + 1 }) ∨
      (¬ state.Stale rule next ∧ (watch.observe obs).1 = state.loss rule next ∧
        (watch.observe obs).2.streams.get? obs.key = some ⟨next, obs.records, some rule, 0⟩) := by
  have keeps : watch.Keeps obs.key := .inr (by rw [held]; rfl)
  obtain ⟨_, answer, viewed⟩ := view_observe keeps
  have after : (watch.observe obs).2.streams.get? obs.key = ((watch.view obs.key).observe obs).2.state :=
    congrArg StreamView.state viewed
  rw [answer, after]
  by_cases stale : state.Stale rule next
  · rw [StreamView.observe_stale counted (show (watch.view obs.key).state = some state from held) learned stale]
    exact .inl ⟨stale, rfl, rfl⟩
  · rw [StreamView.observe_taken counted (show (watch.view obs.key).state = some state from held) learned stale]
    exact .inr ⟨stale, rfl, by rw [learned]⟩

theorem rules_elsewhere {mode : Mode} (rules : watch.Rules key mode) (different : obs.key ≠ key)
    (spared : watch.streams.get? key ≠ none → (watch.observe obs).2.streams.get? key ≠ none) :
    (watch.observe obs).2.Rules key mode := by
  obtain ⟨state, held, learned⟩ := rules
  exact ⟨state, (spares_elsewhere different spared).trans held, learned⟩

theorem rules_received {mode : Mode} (rules : watch.Rules obs.key mode) (counted : obs.seq = some next) :
    (watch.observe obs).2.Rules obs.key mode := by
  obtain ⟨state, held, learned⟩ := rules
  rcases observe_ruled counted held learned with ⟨_, _, after⟩ | ⟨_, _, after⟩
  · exact ⟨_, after, learned⟩
  · exact ⟨_, after, rfl⟩

/-- A rule once learned is never reconsidered. -/
theorem rules_run {mode : Mode} {passages : List Passage} (rules : watch.Rules key mode)
    (continues : Continues key rule next passages) (spared : watch.Spares key passages) :
    (passages.foldl arrive watch).Rules key mode := by
  induction passages generalizing watch next with
  | nil => exact rules
  | cons passage rest inductionHypothesis =>
    cases passage with
    | lost obs => exact inductionHypothesis rules continues.2.2 spared
    | received obs =>
      obtain ⟨rfl, counted, continuesRest⟩ := continues
      exact inductionHypothesis (rules_received rules counted) continuesRest spared
    | elsewhere obs =>
      obtain ⟨different, continuesRest⟩ := continues
      obtain ⟨kept, sparedRest⟩ := spared
      exact inductionHypothesis (rules_elsewhere rules different kept) continuesRest sparedRest

/-! ## The rule is right -/

/-- The rule is known and right, and the counter stands `lost` units that are lost, and `stale` that were set
aside, past what is expected.  Only a loss near a whole turn of the counter leads to the latter. -/
def Owes (watch : SequenceWatch) (key : StreamKey) (rule : Mode) (lost next : Nat) : Prop :=
  ∃ state stale, watch.streams.get? key = some state ∧ state.mode = some rule ∧
    next = (state.expected rule + lost + stale) % seqModulus ∧ (stale = 0 ∨ maxPlausibleGap ≤ lost)

/-- Past what is expected by what is owed: no more than was lost is reported. -/
theorem loss_le_owed {stale : Nat} (ahead : next = (state.expected rule + lost + stale) % seqModulus)
    (owed : stale = 0 ∨ maxPlausibleGap ≤ lost) :
    state.loss rule next ≤ lost ∧ (state.Stale rule next → maxPlausibleGap ≤ lost) := by
  rw [StreamState.Stale, StreamState.loss, StreamState.distance, signedGap]
  unfold seqModulus maxPlausibleGap maxReorder at *
  constructor
  · split <;> omega
  · rintro ⟨behind, near, _⟩
    omega

theorem Owes.lost_more (owes : watch.Owes key rule lost next) (units : Nat) :
    watch.Owes key rule (lost + units) ((next + units) % seqModulus) := by
  obtain ⟨state, stale, held, learned, rfl, owed⟩ := owes
  refine ⟨state, stale, held, learned, ?_, owed.imp id fun enough => Nat.le_add_right_of_le enough⟩
  rw [Nat.mod_add_mod]
  congr 1
  omega

theorem Owes.elsewhere (owes : watch.Owes key rule lost next) (different : obs.key ≠ key)
    (spared : watch.streams.get? key ≠ none → (watch.observe obs).2.streams.get? key ≠ none) :
    (watch.observe obs).2.Owes key rule lost next := by
  obtain ⟨state, stale, held, rest⟩ := owes
  exact ⟨state, stale, (spares_elsewhere different spared).trans held, rest⟩

/-- What a message reports is taken off what is owed. -/
theorem Owes.received (owes : watch.Owes obs.key rule lost next) (counted : obs.seq = some next) :
    ∃ left, (watch.observe obs).1 + left ≤ lost ∧
      (watch.observe obs).2.Owes obs.key rule left ((next + obs.units rule) % seqModulus) := by
  obtain ⟨state, stale, held, learned, ahead, owed⟩ := owes
  obtain ⟨little, farBehind⟩ := loss_le_owed ahead owed
  rcases observe_ruled counted held learned with ⟨behind, answer, after⟩ | ⟨_, answer, after⟩
  · refine ⟨lost, by rw [answer, Nat.zero_add], ?_⟩
    refine ⟨{ state with backwards := state.backwards + 1 }, stale + obs.units rule, after, learned, ?_,
      .inr (farBehind behind)⟩
    rw [ahead, Nat.mod_add_mod, Nat.add_assoc]
    cases rule <;> rfl
  · refine ⟨0, by rw [answer]; exact little, _, 0, after, rfl, ?_, .inl rfl⟩
    rw [Nat.add_zero, expected_mod, expected_eq _ rule rfl]

/-- With the right rule, no more is reported than is owed and gets lost. -/
theorem Owes.run {passages : List Passage} (owes : watch.Owes key rule lost next)
    (continues : Continues key rule next passages) (spared : watch.Spares key passages) :
    (watch.returned passages).sum ≤ lost + lostUnits rule passages := by
  induction passages generalizing watch lost next with
  | nil => exact Nat.zero_le _
  | cons passage rest inductionHypothesis =>
    cases passage with
    | lost obs =>
      obtain ⟨_, _, continuesRest⟩ := continues
      have reported := inductionHypothesis (owes.lost_more (obs.units rule)) continuesRest spared
      rw [lostUnits, ← Nat.add_assoc]
      exact reported
    | received obs =>
      obtain ⟨rfl, counted, continuesRest⟩ := continues
      obtain ⟨left, taken, owesNext⟩ := owes.received counted
      have reported := inductionHypothesis owesNext continuesRest spared
      rw [returned, List.sum_cons, lostUnits]
      omega
    | elsewhere obs =>
      obtain ⟨different, continuesRest⟩ := continues
      obtain ⟨kept, sparedRest⟩ := spared
      exact inductionHypothesis (owes.elsewhere different kept) continuesRest sparedRest

/-! ## The rule is not known yet -/

/-- The stream is new, or held by the last message received, the counter standing the units lost since past it. -/
def Learns (watch : SequenceWatch) (key : StreamKey) (rule : Mode) (last : Option (Observation × Nat)) (next : Nat) :
    Prop :=
  match last with
  | none => watch.streams.get? key = none ∧ 1 ≤ watch.maxStreams
  | some (last, lost) => ∃ state, watch.streams.get? key = some state ∧ state.mode = none ∧
    state.records = last.records ∧ next = (state.seq + (last.units rule + lost)) % seqModulus

theorem observe_maxStreams (watch : SequenceWatch) (obs : Observation) :
    (watch.observe obs).2.maxStreams = watch.maxStreams := by
  cases counted : obs.seq with
  | none => simp only [observe, counted]
  | some seq =>
    cases held : watch.streams.get? obs.key with
    | none =>
      rw [observe_new counted held]
      rfl
    | some state =>
      obtain ⟨_, _, same⟩ := observe_uniform counted state
      exact (same watch held).2.2.2

variable {last : Option (Observation × Nat)}

theorem Learns.lost_more (learns : watch.Learns key rule last next) (units : Nat) :
    watch.Learns key rule (last.map fun lesson => (lesson.1, lesson.2 + units)) ((next + units) % seqModulus) := by
  cases last with
  | none => exact learns
  | some lesson =>
    obtain ⟨state, held, unlearned, sameRecords, rfl⟩ := learns
    refine ⟨state, held, unlearned, sameRecords, ?_⟩
    rw [Nat.mod_add_mod]
    simp only [Nat.add_assoc]

theorem Learns.elsewhere (learns : watch.Learns key rule last next) (different : obs.key ≠ key)
    (spared : watch.streams.get? key ≠ none → (watch.observe obs).2.streams.get? key ≠ none) :
    (watch.observe obs).2.Learns key rule last next := by
  have same := spares_elsewhere different spared
  cases last with
  | none => exact ⟨same.trans learns.1, by rw [observe_maxStreams]; exact learns.2⟩
  | some lesson =>
    obtain ⟨state, held, rest⟩ := learns
    exact ⟨state, same.trans held, rest⟩

/-- The first message of the stream teaches nothing. -/
theorem Learns.received_first (learns : watch.Learns obs.key rule none next) (counted : obs.seq = some next) :
    (watch.observe obs).1 = 0 ∧
      (watch.observe obs).2.Learns obs.key rule (some (obs, 0)) ((next + obs.units rule) % seqModulus) := by
  obtain ⟨unseen, room⟩ := learns
  have viewed := congrArg StreamView.state (view_firstSeen room unseen next obs.records)
  rw [observe_new counted unseen]
  exact ⟨rfl, ⟨next, obs.records, none, 0⟩, viewed, rfl, rfl, rfl⟩

/-- A later one teaches the right rule, a wrong one, or none. -/
theorem Learns.received {lesson : Observation × Nat} (learns : watch.Learns obs.key rule (some lesson) next)
    (counted : obs.seq = some next) :
    (watch.observe obs).1 = 0 ∧
      (¬ Teaches rule lesson →
        (watch.observe obs).2.Learns obs.key rule (some (obs, 0)) ((next + obs.units rule) % seqModulus)) ∧
      (Teaches rule lesson → lesson.2 % seqModulus = 0 →
        (watch.observe obs).2.Owes obs.key rule 0 ((next + obs.units rule) % seqModulus)) ∧
      (Teaches rule lesson → lesson.2 % seqModulus ≠ 0 →
        ∃ mode, mode ≠ rule ∧ (watch.observe obs).2.Rules obs.key mode) := by
  obtain ⟨state, held, unlearned, sameRecords, lands⟩ := learns
  obtain ⟨nothing, something⟩ := learnMode_lesson sameRecords unlearned lands
  have observed := observe_unlearned counted held unlearned
  have after : (watch.observe obs).2.streams.get? obs.key =
      some ⟨next, obs.records, state.learnMode next, state.backwards⟩ := by
    rw [observed]
    simp [setState]
  refine ⟨by rw [observed], fun untaught => ?_, fun teaches whole => ?_, fun teaches broken => ?_⟩
  · exact ⟨_, after, nothing untaught, rfl, rfl⟩
  · obtain ⟨mode, learned, right⟩ := something teaches
    refine ⟨_, 0, after, learned.trans (congrArg some (right.mpr whole)), ?_, .inl rfl⟩
    rw [Nat.add_zero, expected_mod, expected_eq _ rule rfl]
  · obtain ⟨mode, learned, right⟩ := something teaches
    exact ⟨mode, fun same => broken (right.mp same), _, after, learned⟩

/-- From any point of the run at which the rule is not known. -/
theorem Learns.run {passages : List Passage} (learns : watch.Learns key rule last next)
    (continues : Continues key rule next passages) (spared : watch.Spares key passages) :
    (TaughtRightly rule (lessons rule last passages) → watch.InventsNothing key rule passages) ∧
      (¬ TaughtRightly rule (lessons rule last passages) →
        ∃ mode, mode ≠ rule ∧ (passages.foldl arrive watch).Rules key mode) := by
  induction passages generalizing watch last next with
  | nil =>
    refine ⟨fun _ => ⟨Nat.le_refl 0, fun state held => .inl ?_⟩, fun wrongly => ?_⟩
    · cases last with
      | none => exact absurd (learns.1.symm.trans held) (by simp)
      | some lesson =>
        obtain ⟨state', held', unlearned, _⟩ := learns
        cases held'.symm.trans held
        exact unlearned
    · exact absurd (fun lesson found => by cases found) wrongly
  | cons passage rest inductionHypothesis =>
    cases passage with
    | lost obs =>
      obtain ⟨_, _, continuesRest⟩ := continues
      obtain ⟨rightly, wrongly⟩ := inductionHypothesis (learns.lost_more (obs.units rule)) continuesRest spared
      refine ⟨fun taught => ?_, wrongly⟩
      obtain ⟨few, ruled⟩ := rightly taught
      exact ⟨Nat.le_add_left_of_le few, ruled⟩
    | elsewhere obs =>
      obtain ⟨different, continuesRest⟩ := continues
      obtain ⟨kept, sparedRest⟩ := spared
      exact inductionHypothesis (learns.elsewhere different kept) continuesRest sparedRest
    | received obs =>
      obtain ⟨rfl, counted, continuesRest⟩ := continues
      have goesOn : (watch.observe obs).1 = 0 → (watch.observe obs).2.InventsNothing obs.key rule rest →
          watch.InventsNothing obs.key rule (.received obs :: rest) := by
        intro silent later
        refine ⟨?_, later.2⟩
        rw [returned, List.sum_cons, silent, Nat.zero_add]
        exact later.1
      cases last with
      | none =>
        obtain ⟨silent, learnsNext⟩ := learns.received_first counted
        obtain ⟨rightly, wrongly⟩ := inductionHypothesis learnsNext continuesRest spared
        exact ⟨fun taught => goesOn silent (rightly taught), wrongly⟩
      | some lesson =>
        obtain ⟨silent, untaughtNext, rightNext, wrongNext⟩ := learns.received counted
        simp only [lessons, Option.toList_some, List.singleton_append]
        by_cases teaches : Teaches rule lesson
        · rw [taughtRightly_cons_of_teaches teaches]
          refine ⟨fun whole => goesOn silent ?_, fun broken => ?_⟩
          · have owes := rightNext teaches whole
            refine ⟨?_, fun state held => ?_⟩
            · have reported := owes.run continuesRest spared
              rwa [Nat.zero_add] at reported
            · obtain ⟨before, _, heldBefore, learnedBefore, _⟩ := owes
              obtain ⟨after, heldAfter, learned⟩ :=
                rules_run ⟨before, heldBefore, learnedBefore⟩ continuesRest spared
              cases heldAfter.symm.trans held
              exact .inr learned
          · obtain ⟨mode, wrong, rules⟩ := wrongNext teaches broken
            have kept := rules_run rules continuesRest spared
            exact ⟨mode, wrong, kept⟩
        · rw [taughtRightly_cons_of_not teaches]
          obtain ⟨rightly, wrongly⟩ := inductionHypothesis (untaughtNext teaches) continuesRest spared
          exact ⟨fun taught => goesOn silent (rightly taught), wrongly⟩

/-- A watch without room forgets each stream at once, and reports nothing. -/
theorem unkept_run {passages : List Passage} (full : watch.maxStreams = 0) (unseen : watch.streams.get? key = none)
    (continues : Continues key rule next passages) : watch.InventsNothing key rule passages := by
  induction passages generalizing watch next with
  | nil => exact ⟨Nat.le_refl 0, fun state held => absurd (unseen.symm.trans held) (by simp)⟩
  | cons passage rest inductionHypothesis =>
    cases passage with
    | lost obs =>
      obtain ⟨few, ruled⟩ := inductionHypothesis full unseen continues.2.2
      exact ⟨Nat.le_add_left_of_le few, ruled⟩
    | received obs =>
      obtain ⟨rfl, counted, continuesRest⟩ := continues
      have fullAfter := (observe_maxStreams watch obs).trans full
      have forgotten : (watch.observe obs).2.streams.get? obs.key = none := by
        rw [observe_new counted unseen, (firstSeen_frame _ _ _ _).1, full, OrderedDict.trim_zero, OrderedDict.get?_empty]
      obtain ⟨few, ruled⟩ := inductionHypothesis fullAfter forgotten continuesRest
      refine ⟨?_, ruled⟩
      have silent : (watch.observe obs).1 = 0 := by rw [observe_new counted unseen]
      rw [returned, List.sum_cons, silent, Nat.zero_add]
      exact few
    | elsewhere obs =>
      obtain ⟨different, continuesRest⟩ := continues
      have unseenAfter : (watch.observe obs).2.streams.get? key = none :=
        (observe_untouched different watch).streams.elim (fun same => same.trans unseen) id
      exact inductionHypothesis ((observe_maxStreams watch obs).trans full) unseenAfter continuesRest

end SequenceWatch

/-- A stream followed from its first message: neither loss nor rule is invented exactly when nothing was lost just
before the message that teaches the rule. -/
theorem learning_invents_nothing_iff (watch : SequenceWatch) (key : StreamKey) (rule : Mode) (start : Nat)
    (passages : List Passage) (unseen : watch.streams.get? key = none) (continues : Continues key rule start passages)
    (spared : watch.Spares key passages) :
    ((watch.returned passages).sum ≤ lostUnits rule passages ∧
      ∀ state, (passages.foldl SequenceWatch.arrive watch).streams.get? key = some state →
        state.mode = none ∨ state.mode = some rule) ↔
      watch.maxStreams = 0 ∨ ∀ lesson,
        (lessons rule none passages).find? (fun lesson => decide (Teaches rule lesson)) = some lesson →
          lesson.2 % seqModulus = 0 := by
  by_cases full : watch.maxStreams = 0
  · exact iff_of_true (SequenceWatch.unkept_run full unseen continues) (.inl full)
  · have learns : watch.Learns key rule none start := ⟨unseen, Nat.one_le_iff_ne_zero.mpr full⟩
    obtain ⟨rightly, wrongly⟩ := learns.run continues spared
    refine ⟨fun nothing => .inr ?_, fun taught => rightly (taught.resolve_left full)⟩
    by_contra broken
    obtain ⟨mode, wrong, state, held, learned⟩ := wrongly broken
    rcases nothing.2 state held with unlearned | right
    · exact absurd (learned.symm.trans unlearned) (by simp)
    · exact wrong (Option.some.inj (learned.symm.trans right))

/-- Records counted across the wrap: the first message says nothing of its own, the second teaches the rule, and two
records are lost behind it. -/
theorem learning_invents_nothing_iff_across_wrap :
    let key : StreamKey := ⟨.obj 50, 0, 10⟩
    let passages : List Passage := [.received ⟨.obj 50, 0, 10, some 4294967292, 3, 0⟩,
      .elsewhere ⟨.obj 49, 0, 10, some 1, 1, 0⟩, .received ⟨.obj 50, 0, 10, some 4294967295, 4, 0⟩,
      .lost ⟨.obj 50, 0, 10, some 3, 2, 0⟩, .received ⟨.obj 50, 0, 10, some 5, 1, 0⟩]
    (((SequenceWatch.new 4).returned passages).sum ≤ lostUnits .records passages ∧
      ∀ state, (passages.foldl SequenceWatch.arrive (SequenceWatch.new 4)).streams.get? key = some state →
        state.mode = none ∨ state.mode = some .records) ↔
      (SequenceWatch.new 4).maxStreams = 0 ∨ ∀ lesson,
        (lessons .records none passages).find? (fun lesson => decide (Teaches .records lesson)) = some lesson →
          lesson.2 % seqModulus = 0 :=
  learning_invents_nothing_iff _ _ .records 4294967292 _ rfl
    (by simp [Continues, Observation.key, Observation.units, Observation.records, seqModulus])
    ⟨fun _ => by decide, trivial⟩

/-- Two messages lost behind one of three records: a count of messages is taken for one of records. -/
theorem learning_invents_loss : ¬ ∀ (watch : SequenceWatch) (key : StreamKey) (rule : Mode) (start : Nat)
    (passages : List Passage), 1 ≤ watch.maxStreams → watch.streams.get? key = none →
    Continues key rule start passages → watch.Spares key passages →
    (watch.returned passages).sum ≤ lostUnits rule passages ∧
      ∀ state, (passages.foldl SequenceWatch.arrive watch).streams.get? key = some state →
        state.mode = none ∨ state.mode = some rule := by
  intro always
  have booked := always (SequenceWatch.new 3) ⟨.obj 51, 4, 9⟩ .messages 10
    [.received ⟨.obj 51, 4, 9, some 10, 3, 0⟩, .lost ⟨.obj 51, 4, 9, some 11, 0, 0⟩,
      .lost ⟨.obj 51, 4, 9, some 12, 0, 0⟩, .received ⟨.obj 51, 4, 9, some 13, 0, 0⟩,
      .received ⟨.obj 51, 4, 9, some 14, 0, 0⟩, .received ⟨.obj 51, 4, 9, some 15, 0, 0⟩,
      .received ⟨.obj 51, 4, 9, some 16, 0, 0⟩]
    (by decide) rfl (by simp [Continues, Observation.key, Observation.units, seqModulus])
    (by simp [SequenceWatch.Spares])
  exact absurd booked.1 (by decide)

end Netflume
