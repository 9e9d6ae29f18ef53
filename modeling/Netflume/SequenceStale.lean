import Netflume.SequenceStabilise

/-! # Stale datagrams change nothing

Two runs of one stream, one with stale messages inserted.  The watch of the longer
run has more steps back pending; as long as it never takes them for a restart, no
decision depends on how many they are. -/

namespace Netflume

open Library

/-- Never so many messages in a row behind the value expected that they look like a restart. -/
def FewBehind (distances : List Int) : Prop :=
  ∀ before behind after, distances = before ++ behind ++ after → (∀ distance ∈ behind, distance < 0) →
    behind.length < resyncAfter

/-- The streams differ in the steps back pending at most, and `crowded` has the more. -/
structure Twins (rule : Mode) (pending : Nat) (crowded plain : StreamView) : Prop where
  states : ∃ state backwards, crowded.state = some state ∧ plain.state = some { state with backwards := backwards } ∧
    state.mode = some rule ∧ backwards ≤ state.backwards ∧ state.backwards ≤ pending
  missed : crowded.missed = plain.missed
  unit : crowded.unit = plain.unit
  resyncs : crowded.resyncs = plain.resyncs

/-- The messages in a row behind the value expected, after one more. -/
def pendingAfter (pending : Nat) : Option Int → Nat
  | none => pending
  | some distance => if distance < 0 then pending + 1 else 0

namespace Twins

variable {rule : Mode} {pending : Nat} {crowded plain : StreamView} {obs : Observation}

/-- The twins judge a message alike, unless `crowded` takes it for the last of too many. -/
theorem observe (twins : Twins rule pending crowded plain)
    (few : ∀ distance ∈ crowded.distance obs, distance < 0 → pending + 1 < resyncAfter) :
    (crowded.observe obs).1 = (plain.observe obs).1 ∧
      Twins rule (pendingAfter pending (crowded.distance obs)) (crowded.observe obs).2 (plain.observe obs).2 := by
  obtain ⟨⟨state, backwards, held, heldPlain, learned, fewer, within⟩, missed, unit, resyncs⟩ := id twins
  cases counted : obs.seq with
  | none =>
    have skipped : ∀ view : StreamView, view.observe obs = (0, view) ∧ view.distance obs = none := by
      intro view
      simp [StreamView.observe, StreamView.distance, counted]
    rw [(skipped crowded).1, (skipped plain).1, (skipped crowded).2]
    exact ⟨rfl, twins⟩
  | some seq =>
    have apart : crowded.distance obs = some (state.distance rule seq) := by
      simp [StreamView.distance, counted, held, learned]
    rw [apart] at few ⊢
    have room := few _ rfl
    by_cases stale : state.Stale rule seq
    · have stalePlain : StreamState.Stale { state with backwards := backwards } rule seq :=
        ⟨stale.1, stale.2.1, Nat.lt_of_le_of_lt (Nat.succ_le_succ fewer) stale.2.2⟩
      rw [StreamView.observe_stale counted held learned stale,
        StreamView.observe_stale counted heldPlain learned stalePlain, pendingAfter, if_pos stale.1]
      exact ⟨rfl, ⟨_, _, rfl, rfl, learned, Nat.succ_le_succ fewer, Nat.succ_le_succ within⟩, missed, unit, resyncs⟩
    · have takenPlain : ¬ StreamState.Stale { state with backwards := backwards } rule seq := fun stalePlain =>
        stale ⟨stalePlain.1, stalePlain.2.1, Nat.lt_of_le_of_lt (Nat.succ_le_succ within) (room stalePlain.1)⟩
      rw [StreamView.observe_taken counted held learned stale,
        StreamView.observe_taken counted heldPlain learned takenPlain]
      refine ⟨rfl, ⟨_, 0, rfl, rfl, learned, Nat.le_refl 0, Nat.zero_le _⟩, ?_, ?_, ?_⟩
      · exact congrArg (· + state.loss rule seq) missed
      · simp only [unit]
        rfl
      · simp only [resyncs]
        rfl

/-- A stale message changes nothing but the steps back pending. -/
theorem insert (twins : Twins rule pending crowded plain) {distance : Int} (apart : crowded.distance obs = some distance)
    (behind : distance < 0) (near : -(maxReorder : Int) ≤ distance) (few : pending + 1 < resyncAfter) :
    Twins rule (pending + 1) (crowded.observe obs).2 plain := by
  obtain ⟨⟨state, backwards, held, heldPlain, learned, fewer, within⟩, missed, unit, resyncs⟩ := twins
  obtain ⟨seq, counted⟩ : ∃ seq, obs.seq = some seq := by
    cases counted : obs.seq with
    | none => simp [StreamView.distance, counted] at apart
    | some seq => exact ⟨seq, rfl⟩
  obtain rfl : state.distance rule seq = distance := by
    simpa [StreamView.distance, counted, held, learned] using apart
  have stale : state.Stale rule seq := ⟨behind, near, Nat.lt_of_le_of_lt (Nat.succ_le_succ within) few⟩
  rw [StreamView.observe_stale counted held learned stale]
  exact ⟨⟨_, backwards, rfl, heldPlain, learned, Nat.le_succ_of_le fewer, Nat.succ_le_succ within⟩, missed, unit, resyncs⟩

end Twins

theorem fewBehind_of_short {distances : List Int} (short : distances.length < resyncAfter) : FewBehind distances := by
  intro before behind after split _
  rw [split, List.length_append, List.length_append] at short
  omega

theorem FewBehind.of_append {front back : List Int} (few : FewBehind (front ++ back)) : FewBehind back := by
  intro before behind after split allBehind
  exact few (front ++ before) behind after (by rw [split]; simp) allBehind

/-- The messages in a row behind the value expected, followed over one more message. -/
theorem FewBehind.next {behind rest : List Int} {distance : Option Int} (allBehind : ∀ distance ∈ behind, distance < 0)
    (few : FewBehind (behind ++ (distance.toList ++ rest))) :
    (∀ apart ∈ distance, apart < 0 → behind.length + 1 < resyncAfter) ∧
      ∃ next : List Int, next.length = pendingAfter behind.length distance ∧ (∀ apart ∈ next, apart < 0) ∧
        FewBehind (next ++ rest) := by
  cases distance with
  | none => exact ⟨by simp, behind, rfl, allBehind, few⟩
  | some distance =>
    have longer : distance < 0 → ∀ apart ∈ behind ++ [distance], apart < 0 := by
      intro isBehind
      simpa [or_imp, forall_and, isBehind] using allBehind
    constructor
    · rintro apart ⟨⟩ isBehind
      have short := few [] (behind ++ [distance]) rest (by simp) (longer isBehind)
      simpa using short
    · by_cases isBehind : distance < 0
      · refine ⟨behind ++ [distance], by simp [pendingAfter, isBehind], longer isBehind, ?_⟩
        simpa using few
      · refine ⟨[], by simp [pendingAfter, isBehind], by simp, ?_⟩
        rw [← List.append_assoc] at few
        exact few.of_append

/-- Twins stay twins over a run in which `crowded` sees stale messages that `plain` does not. -/
theorem Twins.run {rule : Mode} {crowded plain : StreamView} {behind : List Int} {tagged : List (Observation × Bool)}
    (twins : Twins rule behind.length crowded plain) (allBehind : ∀ distance ∈ behind, distance < 0)
    (few : FewBehind (behind ++ crowded.distances (tagged.map Prod.fst)))
    (stale : ∀ before obs after, tagged = before ++ (obs, true) :: after →
      ∃ distance, (stateAfter StreamView.observe crowded (before.map Prod.fst)).distance obs = some distance ∧
        -(maxReorder : Int) ≤ distance ∧ distance ≤ -1) :
    ((tagged.zip (outputs StreamView.observe crowded (tagged.map Prod.fst))).filter fun answered =>
        !answered.1.2).map Prod.snd =
      outputs StreamView.observe plain ((tagged.filter fun entry => !entry.2).map Prod.fst) ∧
      ∃ pending, Twins rule pending (stateAfter StreamView.observe crowded (tagged.map Prod.fst))
        (stateAfter StreamView.observe plain ((tagged.filter fun entry => !entry.2).map Prod.fst)) := by
  induction tagged generalizing crowded plain behind with
  | nil => exact ⟨rfl, behind.length, twins⟩
  | cons entry tagged inductionHypothesis =>
    obtain ⟨obs, inserted⟩ := entry
    obtain ⟨room, next, length, allNext, fewNext⟩ := few.next allBehind
    have staleNext : ∀ before obs' after, tagged = before ++ (obs', true) :: after →
        ∃ distance, (stateAfter StreamView.observe (crowded.observe obs).2 (before.map Prod.fst)).distance obs' =
          some distance ∧ -(maxReorder : Int) ≤ distance ∧ distance ≤ -1 := by
      intro before obs' after split
      exact stale ((obs, inserted) :: before) obs' after (by rw [split]; rfl)
    cases inserted with
    | true =>
      obtain ⟨distance, apart, near, isBehind⟩ := stale [] obs tagged rfl
      have isBehind : distance < 0 := by omega
      have twinsNext := twins.insert apart isBehind near (room distance apart isBehind)
      simp only [List.map_nil, stateAfter, List.foldl_nil] at apart
      rw [apart, pendingAfter, if_pos isBehind] at length
      rw [← length] at twinsNext
      exact inductionHypothesis twinsNext allNext fewNext staleNext
    | false =>
      obtain ⟨answer, twinsNext⟩ := twins.observe room
      rw [← length] at twinsNext
      obtain ⟨answers, last⟩ := inductionHypothesis twinsNext allNext fewNext staleNext
      refine ⟨?_, last⟩
      simp only [List.map_cons, outputs, List.zip_cons_cons, List.filter_cons, Bool.not_false, if_true]
      rw [answers, answer]

/-- Stale datagrams are transparent: with any number of them inserted anywhere, the other messages are answered
as they would be without, and what is held of the stream ends up the same. -/
theorem stale_datagrams_transparent (watch : SequenceWatch) (key : StreamKey) (rule : Mode) (state : StreamState)
    (tagged : List (Observation × Bool)) (held : watch.streams.get? key = some state) (learned : state.mode = some rule)
    (calm : state.backwards = 0) (own : ∀ entry ∈ tagged, entry.1.key = key)
    (stale : ∀ before obs after, tagged = before ++ (obs, true) :: after →
      ∃ distance, ((stateAfter SequenceWatch.observe watch (before.map Prod.fst)).view key).distance obs = some distance ∧
        -(maxReorder : Int) ≤ distance ∧ distance ≤ -1)
    (few : FewBehind (watch.distances key (tagged.map Prod.fst))) :
    let crowded := stateAfter SequenceWatch.observe watch (tagged.map Prod.fst)
    let plain := stateAfter SequenceWatch.observe watch ((tagged.filter fun entry => !entry.2).map Prod.fst)
    ((tagged.zip (outputs SequenceWatch.observe watch (tagged.map Prod.fst))).filter fun answered =>
        !answered.1.2).map Prod.snd =
      outputs SequenceWatch.observe watch ((tagged.filter fun entry => !entry.2).map Prod.fst) ∧
      (crowded.missed.get? key).getD 0 = (plain.missed.get? key).getD 0 ∧
      crowded.units.get? key = plain.units.get? key ∧
      crowded.resyncs = plain.resyncs ∧
      ∃ last backwards, crowded.streams.get? key = some last ∧
        plain.streams.get? key = some { last with backwards := backwards } := by
  intro crowded plain
  have keeps : watch.Keeps key := .inr (by rw [held]; rfl)
  have ownCrowded : ∀ obs ∈ tagged.map Prod.fst, obs.key = key := List.forall_mem_map.mpr own
  have ownPlain : ∀ obs ∈ (tagged.filter fun entry => !entry.2).map Prod.fst, obs.key = key :=
    List.forall_mem_map.mpr fun entry member => own entry (List.mem_of_mem_filter member)
  have staleView : ∀ before obs after, tagged = before ++ (obs, true) :: after →
      ∃ distance, (stateAfter StreamView.observe (watch.view key) (before.map Prod.fst)).distance obs = some distance ∧
        -(maxReorder : Int) ≤ distance ∧ distance ≤ -1 := by
    intro before obs after split
    have ownBefore : ∀ obs ∈ before.map Prod.fst, obs.key = key := fun obs member =>
      ownCrowded obs (by rw [split, List.map_append]; exact List.mem_append_left _ member)
    rw [← (SequenceWatch.view_run keeps ownBefore).2.2]
    exact stale before obs after split
  have twins : Twins rule ([] : List Int).length (watch.view key) (watch.view key) :=
    ⟨⟨state, 0, held, by rw [← calm]; exact held, learned, Nat.zero_le _, Nat.le_of_eq calm⟩, rfl, rfl, rfl⟩
  rw [SequenceWatch.distances_run keeps ownCrowded] at few
  obtain ⟨answers, _, ⟨last, backwards, heldCrowded, heldPlain, _⟩, missed, unit, resyncs⟩ :=
    twins.run (by simp) few staleView
  obtain ⟨_, outputsCrowded, viewCrowded⟩ := SequenceWatch.view_run keeps ownCrowded
  obtain ⟨_, outputsPlain, viewPlain⟩ := SequenceWatch.view_run keeps ownPlain
  rw [← viewCrowded] at heldCrowded missed unit resyncs
  rw [← viewPlain] at heldPlain missed unit resyncs
  exact ⟨by rw [outputsCrowded, outputsPlain]; exact answers, missed, unit, resyncs, last, backwards, heldCrowded, heldPlain⟩

/-- A repeat inserted before a message that is ahead of the one expected. -/
theorem stale_datagrams_transparent_repeat :
    let key : StreamKey := ⟨.obj 31, 4, 5⟩
    let watch : SequenceWatch := { SequenceWatch.new 2 with
      streams := OrderedDict.empty.set key ⟨100, 10, some .records, 0⟩ }
    let tagged : List (Observation × Bool) := [(⟨.obj 31, 4, 5, some 100, 10, 0⟩, true),
      (⟨.obj 31, 4, 5, some 130, 7, 0⟩, false)]
    let crowded := stateAfter SequenceWatch.observe watch (tagged.map Prod.fst)
    let plain := stateAfter SequenceWatch.observe watch ((tagged.filter fun entry => !entry.2).map Prod.fst)
    ((tagged.zip (outputs SequenceWatch.observe watch (tagged.map Prod.fst))).filter fun answered =>
        !answered.1.2).map Prod.snd =
      outputs SequenceWatch.observe watch ((tagged.filter fun entry => !entry.2).map Prod.fst) ∧
      (crowded.missed.get? key).getD 0 = (plain.missed.get? key).getD 0 ∧
      crowded.units.get? key = plain.units.get? key ∧
      crowded.resyncs = plain.resyncs ∧
      ∃ last backwards, crowded.streams.get? key = some last ∧
        plain.streams.get? key = some { last with backwards := backwards } :=
  stale_datagrams_transparent _ _ .records ⟨100, 10, some .records, 0⟩ _ (by decide) rfl rfl (by decide)
    (by
      intro before obs after split
      cases before with
      | nil =>
        cases split
        exact ⟨-10, by decide, by decide, by decide⟩
      | cons head before =>
        cases before with
        | nil => cases split
        | cons second before => simp at split)
    (fewBehind_of_short (by decide))

end Netflume
