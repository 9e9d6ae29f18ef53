import Netflume.Exporting
import Netflume.SequenceLoss

/-! # Losses that are not losses

An IPFIX exporter counts the records it sends and the sequence watch the records
that were decoded.  Where a data set is deferred the two differ, and the
difference is booked as exports missing before the next message. -/

namespace Netflume

open Library

/-! ## What is expected of the next message -/

/-- With this rule known, a message of so many records leaves the right count, `whole` saying that all of
them were decoded. -/
def CountsRight (rule : Option Mode) (sent : Nat) (whole : Prop) : Prop :=
  match rule with
  | none => True
  | some .messages => sent ≤ 1
  | some .records => whole

/-- What is remembered of a stream is its last message, up to its records, and `next` counts on from it. -/
structure StreamState.Tracks (state : StreamState) (sent decoded next : Nat) : Prop where
  wrapped : state.seq < seqModulus
  counter : (state.seq + sent) % seqModulus = next % seqModulus
  within : decoded ≤ sent
  few : sent < 65536
  records : state.mode ≠ some .messages → state.records = decoded

/-- What is remembered of a message taken over as the last of its stream. -/
theorem StreamState.tracks_current {sent decoded : Nat} (within : decoded ≤ sent) (few : sent < 65536) (next : Nat)
    (mode : Option Mode) (backwards : Nat) :
    (⟨next % seqModulus, decoded, mode, backwards⟩ : StreamState).Tracks sent decoded (next + sent) := by
  have positive : 0 < seqModulus := by decide
  exact ⟨Nat.mod_lt _ positive, Nat.mod_add_mod _ _ _, within, few, fun _ => rfl⟩

theorem signedGap_behind {seq : Nat} (_ : seq < seqModulus) : signedGap seq ((seq + 1) % seqModulus) = -1 := by
  unfold signedGap seqModulus at *
  omega

namespace SequenceWatch

variable {watch : SequenceWatch} {obs : Observation} {state : StreamState}

/-- A message one behind what is expected: nothing is reported, and the stream stays at its counter value. -/
theorem judge_behind_after {key : StreamKey} {mode : Mode} (records : Nat)
    (gap : signedGap state.seq (state.expected mode) = -1) (watch : SequenceWatch) :
    (watch.judge key state mode state.seq records).1 = 0 ∧
      ∃ after, (watch.judge key state mode state.seq records).2.streams.get? key = some after ∧
        after.seq = state.seq ∧ after.mode = state.mode := by
  rw [judge]
  simp only [gap]
  rw [if_pos (by decide)]
  split
  · exact ⟨rfl, { state with backwards := state.backwards + 1 }, by simp [setState], rfl, rfl⟩
  · exact ⟨rfl, { state with records := records, backwards := 0 }, by simp [setState], rfl, rfl⟩

/-- A stream known to count records: what the last message sent and did not yield is the gap. -/
theorem judge_tracked_records {key : StreamKey} {sent decoded next : Nat} (known : state.mode = some .records)
    (tracks : state.Tracks sent decoded next) (records : Nat) (watch : SequenceWatch) :
    ((watch.judge key state .records (next % seqModulus) records).1 = 0 ↔ decoded = sent) ∧
      (watch.judge key state .records (next % seqModulus) records).2.streams.get? key =
        some ⟨next % seqModulus, records, state.mode, 0⟩ := by
  have few := tracks.few
  have modulus : seqModulus = 4294967296 := rfl
  have limit : maxPlausibleGap = 1000000 := rfl
  obtain ⟨lost, rfl⟩ := Nat.exists_eq_add_of_le tracks.within
  have recalled : state.expected .records = (state.seq + decoded) % seqModulus := by
    rw [StreamState.expected, StreamState.byRecords, tracks.records (by simp [known])]
  have gap : signedGap (next % seqModulus) (state.expected .records) = lost := by
    rw [recalled, ← tracks.counter, ← Nat.add_assoc]
    exact signedGap_ahead _ (by omega)
  obtain ⟨answer, after, _⟩ := judge_ahead_after records (by omega) gap watch
  refine ⟨?_, after⟩
  rw [answer]
  omega

/-- A stream thought to count messages: all the records of the last message but one are the gap. -/
theorem judge_tracked_messages {key : StreamKey} {sent decoded next decodedNow sentNow : Nat}
    (known : state.mode = some .messages) (tracks : state.Tracks sent decoded next) (within : decodedNow ≤ sentNow)
    (fewNow : sentNow < 65536) (watch : SequenceWatch) :
    ((watch.judge key state .messages (next % seqModulus) decodedNow).1 = 0 ↔ sent ≤ 1) ∧
      ∃ after, (watch.judge key state .messages (next % seqModulus) decodedNow).2.streams.get? key = some after ∧
        after.Tracks sentNow decodedNow (next + sentNow) := by
  have few := tracks.few
  have modulus : seqModulus = 4294967296 := rfl
  have limit : maxPlausibleGap = 1000000 := rfl
  by_cases nothing : sent = 0
  · have still : next % seqModulus = state.seq := by
      rw [← tracks.counter, nothing, Nat.add_zero, Nat.mod_eq_of_lt tracks.wrapped]
    have gap : signedGap state.seq (state.expected .messages) = -1 := by
      rw [StreamState.expected, StreamState.byMessages]
      exact signedGap_behind tracks.wrapped
    obtain ⟨answer, after, heldAfter, sameSeq, sameMode⟩ := judge_behind_after decodedNow gap watch
    rw [still]
    refine ⟨iff_of_true answer (by omega), after, heldAfter,
      ⟨?_, ?_, within, fewNow, fun notMessages => absurd (sameMode.trans known) notMessages⟩⟩
    · rw [sameSeq]
      exact tracks.wrapped
    · rw [sameSeq, ← still, Nat.mod_add_mod]
  · obtain ⟨lost, rfl⟩ := Nat.exists_eq_add_of_le (Nat.one_le_iff_ne_zero.mpr nothing)
    have gap : signedGap (next % seqModulus) (state.expected .messages) = lost := by
      rw [← tracks.counter, ← Nat.add_assoc]
      exact signedGap_ahead _ (by omega)
    obtain ⟨answer, after, _⟩ := judge_ahead_after decodedNow (by omega) gap watch
    refine ⟨?_, _, after, StreamState.tracks_current within fewNow next _ _⟩
    rw [answer]
    omega

/-- A message of the exporter, counted from the last: its gap is zero exactly when the last left the right count. -/
theorem observe_tracked {sent decoded next sentNow : Nat} (held : watch.streams.get? obs.key = some state)
    (tracks : state.Tracks sent decoded next) (counted : obs.seq = some (next % seqModulus))
    (decodedNow : obs.records ≤ sentNow) (fewNow : sentNow < 65536) :
    ((watch.observe obs).1 = 0 ↔ CountsRight state.mode sent (decoded = sent)) ∧
      ∃ after, (watch.observe obs).2.streams.get? obs.key = some after ∧
        after.Tracks sentNow obs.records (next + sentNow) ∧
        (decoded = sent → state.mode ≠ some .messages → after.mode ≠ some .messages) := by
  have current := StreamState.tracks_current decodedNow fewNow next
  cases known : state.mode with
  | none =>
    rw [observe_unlearned counted held known]
    refine ⟨iff_of_true rfl trivial,
      ⟨next % seqModulus, obs.records, state.learnMode (next % seqModulus), state.backwards⟩, by simp [setState],
      current _ _, fun whole _ => ?_⟩
    have lands : next % seqModulus = state.expected .records := by
      rw [StreamState.expected, StreamState.byRecords, tracks.records (by simp [known]), whole, tracks.counter]
    rw [lands]
    rcases learnMode_expected .records known with nothing | records
    · simp [nothing]
    · simp [records]
  | some rule =>
    rw [observe_learned counted held known]
    generalize ({ watch with streams := watch.streams.moveToEnd obs.key } : SequenceWatch) = moved
    cases rule with
    | records =>
      obtain ⟨answer, after⟩ := judge_tracked_records known tracks obs.records moved
      exact ⟨answer, _, after, current _ _, fun _ _ => by simp [known]⟩
    | messages =>
      obtain ⟨answer, after, heldAfter, tracksAfter⟩ :=
        judge_tracked_messages known tracks decodedNow fewNow moved
      exact ⟨answer, after, heldAfter, tracksAfter, fun _ notMessages => absurd rfl notMessages⟩

/-- The first message of a stream, to a watch with room for one. -/
theorem observe_first {next sentNow : Nat} (unheard : watch.streams = .empty) (room : 1 ≤ watch.maxStreams)
    (counted : obs.seq = some (next % seqModulus)) (decodedNow : obs.records ≤ sentNow) (fewNow : sentNow < 65536) :
    (watch.observe obs).1 = 0 ∧
      ∃ after, (watch.observe obs).2.streams.get? obs.key = some after ∧
        after.Tracks sentNow obs.records (next + sentNow) ∧ after.mode = none := by
  have fits : (watch.streams.set obs.key ⟨next % seqModulus, obs.records, none, 0⟩).size ≤ watch.maxStreams := by
    rw [unheard]
    exact room
  have unseen : watch.streams.get? obs.key = none := by rw [unheard]; rfl
  rw [observe_new counted unseen]
  refine ⟨rfl, ⟨next % seqModulus, obs.records, none, 0⟩, ?_, ?_, rfl⟩
  · simp only [firstSeen, evict, setState, OrderedDict.trim_of_le fits, OrderedDict.get?_set, if_true]
  · exact StreamState.tracks_current decodedNow fewNow next none 0

end SequenceWatch

/-! ## One message -/

def SequenceWatch.rule (watch : SequenceWatch) (key : StreamKey) : Option Mode :=
  (watch.streams.get? key).bind StreamState.mode

namespace Core

/-- The rule known of a stream. -/
def rule (core : Core) (key : StreamKey) : Option Mode := core.sequence.bind fun watch => watch.rule key

theorem rule_of_held {core : Core} {watch : SequenceWatch} {key : StreamKey} {state : StreamState}
    (tracked : core.sequence = some watch) (held : watch.streams.get? key = some state) :
    core.rule key = state.mode := by
  rw [rule, tracked, Option.bind_some, SequenceWatch.rule, held, Option.bind_some]

/-- The watch awaits the message counted `next`, be it the first of its stream or the one behind a message
of so many records. -/
def Awaits (core : Core) (key : StreamKey) (sent decoded next : Nat) : Prop :=
  ∃ watch, core.sequence = some watch ∧
    ((watch.streams = .empty ∧ 1 ≤ watch.maxStreams) ∨
      ∃ state, watch.streams.get? key = some state ∧ state.Tracks sent decoded next)

theorem Awaits.observe {core : Core} {obs : Observation} {sent decoded next sentNow : Nat}
    (awaits : core.Awaits obs.key sent decoded next) (counted : obs.seq = some (next % seqModulus))
    (decodedNow : obs.records ≤ sentNow) (fewNow : sentNow < 65536) :
    ((core.observe obs).1 = 0 ↔ CountsRight (core.rule obs.key) sent (decoded = sent)) ∧
      (core.observe obs).2.Awaits obs.key sentNow obs.records (next + sentNow) ∧
      (decoded = sent → core.rule obs.key ≠ some .messages → (core.observe obs).2.rule obs.key ≠ some .messages) := by
  obtain ⟨templates, sequence, sampling⟩ := core
  obtain ⟨watch, rfl, first | later⟩ := awaits
  · obtain ⟨unheard, room⟩ := first
    obtain ⟨answer, after, heldAfter, tracks, unlearned⟩ :=
      SequenceWatch.observe_first unheard room counted decodedNow fewNow
    have unknown : rule ⟨templates, some watch, sampling⟩ obs.key = none := by
      simp only [rule, SequenceWatch.rule, Option.bind_some, unheard, OrderedDict.get?_empty, Option.bind_none]
    rw [unknown]
    refine ⟨iff_of_true answer trivial, ⟨_, rfl, .inr ⟨after, heldAfter, tracks⟩⟩, fun _ _ => ?_⟩
    have knownAfter : (Core.observe ⟨templates, some watch, sampling⟩ obs).2.rule obs.key = after.mode :=
      @rule_of_held _ (watch.observe obs).2.takeEvents.2 _ _ rfl heldAfter
    rw [knownAfter, unlearned]
    simp
  · obtain ⟨state, held, tracks⟩ := later
    obtain ⟨answer, after, heldAfter, tracksAfter, honest⟩ :=
      SequenceWatch.observe_tracked held tracks counted decodedNow fewNow
    have known : rule ⟨templates, some watch, sampling⟩ obs.key = state.mode := rule_of_held rfl held
    have knownAfter : (Core.observe ⟨templates, some watch, sampling⟩ obs).2.rule obs.key = after.mode :=
      @rule_of_held _ (watch.observe obs).2.takeEvents.2 _ _ rfl heldAfter
    rw [known, knownAfter]
    exact ⟨answer, ⟨_, rfl, .inr ⟨after, heldAfter, tracksAfter⟩⟩, honest⟩

/-- The decoder has followed an exporter up to the message counted `next`. -/
structure Follows (core : Core) (exporter : Exporter) (domain : Nat) (layouts : Layouts) (sent decoded next : Nat) :
    Prop where
  mirrors : core.templates.Mirrors exporter domain layouts
  awaits : core.Awaits ⟨exporter, domain, 10⟩ sent decoded next

/-- One message: the gap before it is zero exactly when the last message left the right count. -/
theorem Follows.step {core : Core} {sender : Exporter} {domain : UInt32} {layouts : Layouts}
    {sent decoded next : Nat} (follows : core.Follows (exporterKey sender) domain.toNat layouts sent decoded next)
    {message : Export} (stamped : message.sequence.toNat = next % 2 ^ 32)
    (laidOut : LaidOutAll layouts message.sets) :
    (core.gapBefore (message.datagram sender domain) ((message.header domain).parsed (exporterKey sender)) = 0 ↔
        CountsRight (core.rule ⟨exporterKey sender, domain.toNat, 10⟩) sent (decoded = sent)) ∧
      ∃ decodedNow,
        (decodedNow = message.sent ↔ AllHeld (exporterKey sender) domain.toNat core.templates message.sets) ∧
        (core.step (message.datagram sender domain)).2.Follows (exporterKey sender) domain.toNat
          (announceAll layouts message.sets) message.sent decodedNow (next + message.sent) ∧
        (decoded = sent → core.rule ⟨exporterKey sender, domain.toNat, 10⟩ ≠ some .messages →
          (core.step (message.datagram sender domain)).2.rule ⟨exporterKey sender, domain.toNat, 10⟩ ≠
            some .messages) := by
  obtain ⟨mirrors, lost, read, held⟩ := message.read_sent sender (exporterKey sender) domain follows.mirrors laidOut
  have headed := message.datagram_header sender domain
  have few := Export.sent_lt laidOut
  generalize parsed : readDatagram (message.datagram sender domain).data (exporterKey sender) core.templates = reading
    at mirrors read
  obtain ⟨⟨header, flows, options⟩, store⟩ := reading
  generalize made : (⟨exporterKey sender, domain.toNat, 10, some message.sequence.toNat, flows.length,
    options.length⟩ : Observation) = obs
  have sameObs : Decoder.observation (exporterKey sender) (num (message.datagram sender domain).data 0 2)
      ((message.header domain).parsed (exporterKey sender)) flows.length options.length = obs := by
    rw [message.version sender domain, ← made]
    rfl
  have key : obs.key = ⟨exporterKey sender, domain.toNat, 10⟩ := by rw [← made]; rfl
  have decodedNow : obs.records = flows.length + options.length := by rw [← made]; rfl
  have counted : obs.seq = some (next % seqModulus) := by rw [← made, stamped]; rfl
  have awaits : (core.afterRead (message.datagram sender domain)).Awaits obs.key sent decoded next := by
    rw [key]
    exact follows.awaits
  have decodedLess : obs.records ≤ message.sent := by
    rw [decodedNow, ← read]
    exact Nat.le_add_right _ _
  obtain ⟨gap, awaitsNext, honest⟩ := awaits.observe counted decodedLess few
  rw [key] at gap awaitsNext honest
  have address : (message.datagram sender domain).exporter = sender := rfl
  have stepped := step_headed headed core
  rw [address, parsed] at stepped
  simp only at stepped
  obtain ⟨sameTemplates, sameSequence, _⟩ := note_frame
    ((core.afterRead (message.datagram sender domain)).observe obs).2
    ⟨exporterKey sender, ((message.header domain).parsed (exporterKey sender)).domain⟩ options
  refine ⟨?_, obs.records, ?_, ⟨?_, ?_⟩, ?_⟩
  · rw [gapBefore, address, parsed]
    simp only [sameObs]
    exact gap
  · rw [← held]
    simp only at read
    omega
  · rw [stepped, deliver_after, sameObs, sameTemplates, observe_templates, afterRead, address, parsed]
    exact mirrors
  · rw [stepped, deliver_after, sameObs, Awaits, sameSequence]
    exact awaitsNext
  · rw [stepped, deliver_after, sameObs, rule, rule, sameSequence]
    exact honest

/-- The messages before a point of the run have been followed, and the rest is still to come. -/
theorem Follows.run {core : Core} {sender : Exporter} {domain : UInt32} {layouts : Layouts} {sent decoded next : Nat}
    (follows : core.Follows (exporterKey sender) domain.toNat layouts sent decoded next) {before rest : List Export}
    (exported : Exported next layouts (before ++ rest)) :
    ∃ layouts sent decoded next, (stateAfter Core.step core (before.map (Export.datagram sender domain))).Follows
      (exporterKey sender) domain.toNat layouts sent decoded next ∧ Exported next layouts rest := by
  induction before generalizing core layouts sent decoded next with
  | nil => exact ⟨layouts, sent, decoded, next, follows, exported⟩
  | cons message before inductionHypothesis =>
    obtain ⟨stamped, laidOut, exportedRest⟩ := exported
    obtain ⟨_, _, _, followsNext, _⟩ := follows.step stamped laidOut
    exact inductionHypothesis followsNext exportedRest

end Core

/-! ## Runs -/

namespace Decoder

/-- The call returns no message with a gap, and no missed exports have been counted. -/
def InventsNoLoss (decoder : Decoder) (datagram : Datagram) : Prop :=
  (∀ message, (decoder.decodeDatagram datagram).1 = .ok (some message) → message.gap = 0) ∧
    (decoder.decodeDatagram datagram).2.stats.missedExports = 0

theorem inventsNoLoss_iff {datagram : Datagram} {header : Header} (read : datagram.header = some header)
    (decoder : Decoder) :
    decoder.InventsNoLoss datagram ↔ decoder.stats.missedExports = 0 ∧ decoder.core.gapBefore datagram header = 0 := by
  have missed := decode_missed read decoder
  constructor
  · rintro ⟨_, none⟩
    omega
  · rintro ⟨none, noGap⟩
    refine ⟨fun message answer => ?_, by omega⟩
    rw [(decode_core decoder datagram).1, Core.step_headed read] at answer
    exact (Core.deliver_gap answer).trans noGap

end Decoder

/-- The decoder after a run of messages of one exporter and domain, from a fresh one. -/
def heard (trackSampling : Bool) (sender : Exporter) (domain : UInt32) (run : List Export) : Decoder :=
  (Decoder.new true trackSampling).decodeAll (run.map (Export.datagram sender domain))

section Run

variable {trackSampling : Bool} {sender : Exporter} {domain : UInt32} {start : Nat} {layouts : Layouts}

theorem heard_append (before : List Export) (message : Export) :
    heard trackSampling sender domain (before ++ [message]) =
      ((heard trackSampling sender domain before).decodeDatagram (message.datagram sender domain)).2 := by
  rw [heard, List.map_append]
  exact stateAfter_append _ _ _

theorem follows_fresh :
    (heard trackSampling sender domain []).core.Follows (exporterKey sender) domain.toNat layouts 0 0 start := by
  refine ⟨fun id template held => ?_, _, rfl, .inl ⟨rfl, by decide⟩⟩
  cases held

theorem heard_core_append (before : List Export) (message : Export) :
    (heard trackSampling sender domain (before ++ [message])).core =
      ((heard trackSampling sender domain before).core.step (message.datagram sender domain)).2 := by
  rw [heard_append]
  exact (Decoder.decode_core _ _).2

theorem heard_follows {before rest : List Export} (exported : Exported start layouts (before ++ rest)) :
    ∃ layouts sent decoded next, (heard trackSampling sender domain before).core.Follows (exporterKey sender)
      domain.toNat layouts sent decoded next ∧ Exported next layouts rest := by
  rw [heard, ((Decoder.new true trackSampling).results_core _).2]
  exact follows_fresh.run exported

/-- The gap before a message, by what the message before it left. -/
theorem gap_eq_zero_iff {before rest : List Export} {previous message : Export}
    (exported : Exported start layouts (before ++ previous :: message :: rest)) :
    (heard trackSampling sender domain (before ++ [previous])).core.gapBefore (message.datagram sender domain)
        ((message.header domain).parsed (exporterKey sender)) = 0 ↔
      CountsRight ((heard trackSampling sender domain (before ++ [previous])).core.rule
          ⟨exporterKey sender, domain.toNat, 10⟩) previous.sent
        (AllHeld (exporterKey sender) domain.toNat (heard trackSampling sender domain before).templates
          previous.sets) := by
  obtain ⟨_, _, _, _, follows, stamped, laidOut, exportedRest⟩ :=
    @heard_follows trackSampling sender domain _ _ _ _ exported
  obtain ⟨stampedNext, laidOutNext, _⟩ := exportedRest
  obtain ⟨_, decoded, whole, followsNext, _⟩ := follows.step stamped laidOut
  obtain ⟨gap, _⟩ := followsNext.step stampedNext laidOutNext
  rw [whole] at gap
  rw [heard_core_append]
  exact gap

/-- No gap is found before the first message heard. -/
theorem gap_first {message : Export} {rest : List Export} (exported : Exported start layouts (message :: rest)) :
    (heard trackSampling sender domain []).core.gapBefore (message.datagram sender domain)
      ((message.header domain).parsed (exporterKey sender)) = 0 := by
  obtain ⟨_, _, _, _, follows, stamped, laidOut, _⟩ := @heard_follows trackSampling sender domain _ _ [] _ exported
  exact (follows.step stamped laidOut).1.mpr trivial

end Run

/-- A run of an exporter's messages, heard from some point on, invents no loss exactly when every message
but the last leaves the right count: nothing is known of the stream yet, or it is known to count records and
every record of the message finds its template held, or it is thought to count messages and the message
carries at most one record. -/
theorem invents_no_loss_iff (trackSampling : Bool) (sender : Exporter) (domain : UInt32) (start : Nat)
    (layouts : Layouts) (run : List Export) (exported : Exported start layouts run) :
    (∀ before message rest, run = before ++ message :: rest →
      (heard trackSampling sender domain before).InventsNoLoss (message.datagram sender domain)) ↔
    ∀ before previous message rest, run = before ++ previous :: message :: rest →
      CountsRight ((heard trackSampling sender domain (before ++ [previous])).core.rule
          ⟨exporterKey sender, domain.toNat, 10⟩) previous.sent
        (AllHeld (exporterKey sender) domain.toNat (heard trackSampling sender domain before).templates
          previous.sets) := by
  constructor
  · intro invents before previous message rest split
    have answered := invents (before ++ [previous]) message rest (by rw [split, List.append_assoc]; rfl)
    rw [Decoder.inventsNoLoss_iff (message.datagram_header sender domain)] at answered
    exact (gap_eq_zero_iff (split ▸ exported)).mp answered.2
  · intro counts
    have gaps : ∀ before message rest, run = before ++ message :: rest →
        (heard trackSampling sender domain before).core.gapBefore (message.datagram sender domain)
          ((message.header domain).parsed (exporterKey sender)) = 0 := by
      intro before message rest split
      rcases List.eq_nil_or_concat' before with rfl | ⟨front, previous, rfl⟩
      · exact gap_first (split ▸ exported)
      · rw [List.append_assoc] at split
        exact (gap_eq_zero_iff (split ▸ exported)).mpr (counts front previous message rest split)
    have missed : ∀ before rest, run = before ++ rest →
        (heard trackSampling sender domain before).stats.missedExports = 0 := by
      intro before
      induction before using List.reverseRecOn with
      | nil => exact fun _ _ => rfl
      | append_singleton front message inductionHypothesis =>
        intro rest split
        rw [List.append_assoc] at split
        have booked := Decoder.decode_missed (message.datagram_header sender domain)
          (heard trackSampling sender domain front)
        rw [heard_append, booked, inductionHypothesis _ split, gaps front message rest split]
    intro before message rest split
    rw [Decoder.inventsNoLoss_iff (message.datagram_header sender domain)]
    exact ⟨missed before _ split, gaps before message rest split⟩

/-- As long as every record sent finds its template held, no loss is invented. -/
theorem no_invented_loss_while_held (trackSampling : Bool) (sender : Exporter) (domain : UInt32) (start : Nat)
    (layouts : Layouts) (run : List Export) (exported : Exported start layouts run)
    (held : ∀ before message rest, run = before ++ message :: rest →
      AllHeld (exporterKey sender) domain.toNat (heard trackSampling sender domain before).templates message.sets) :
    ∀ before message rest, run = before ++ message :: rest →
      (heard trackSampling sender domain before).InventsNoLoss (message.datagram sender domain) := by
  have followed : ∀ before rest, run = before ++ rest → ∃ layouts sent next,
      (heard trackSampling sender domain before).core.Follows (exporterKey sender) domain.toNat layouts sent sent next ∧
        (heard trackSampling sender domain before).core.rule ⟨exporterKey sender, domain.toNat, 10⟩ ≠ some .messages ∧
        Exported next layouts rest := by
    intro before
    induction before using List.reverseRecOn with
    | nil =>
      rintro rest rfl
      exact ⟨layouts, 0, start, follows_fresh, (fun known => by cases known), exported⟩
    | append_singleton front message inductionHypothesis =>
      intro rest split
      rw [List.append_assoc] at split
      obtain ⟨_, _, _, follows, notMessages, stamped, laidOut, exportedRest⟩ := inductionHypothesis _ split
      obtain ⟨_, decoded, whole, followsNext, honest⟩ := follows.step stamped laidOut
      cases whole.mpr (held front message rest split)
      rw [heard_core_append]
      exact ⟨_, _, _, followsNext, honest rfl notMessages, exportedRest⟩
  apply (invents_no_loss_iff trackSampling sender domain start layouts run exported).mpr
  intro before previous message rest split
  obtain ⟨_, _, _, _, notMessages, _⟩ := followed (before ++ [previous]) (message :: rest)
    (by rw [split, List.append_assoc]; rfl)
  unfold CountsRight
  split
  · trivial
  · contradiction
  · exact held before previous (message :: rest) split

/-- A port, as a record laid out by template 300 or 301. -/
def portRecord : RecordData true [.named 11 none 2] := .cons ⟨[0, 53], false, by decide⟩ .nil

/-- A template, and two records laid out by it. -/
def opening : Export where
  exportTime := 0
  sequence := 0
  sets := [⟨.templates [⟨300, [.ipfix ⟨11, by decide⟩ 2 none], by decide⟩] [0, 0] (by decide), by decide⟩,
    ⟨.data 300 (by decide) [.named 11 none 2] [portRecord, portRecord] [] (by decide), by decide⟩]
  fits := by decide

/-- Three records laid out by a template announced before the run. -/
def early : Export where
  exportTime := 0
  sequence := 2
  sets := [⟨.data 301 (by decide) [.named 11 none 2] [portRecord, portRecord, portRecord] [] (by decide), by decide⟩]
  fits := by decide

def closing : Export where
  exportTime := 0
  sequence := 5
  sets := []
  fits := by decide

/-- The layouts of an exporter that has announced template 301. -/
def announcedEarly : Layouts := Function.update (fun _ => none) 301 (some [.named 11 none 2])

theorem exported_early : Exported 0 announcedEarly [opening, early, closing] := by
  refine ⟨by decide, ⟨trivial, ⟨rfl, ?_⟩, trivial⟩, by decide, ⟨⟨rfl, ?_⟩, trivial⟩, by decide, trivial, trivial⟩
  · exact ⟨_, List.mem_singleton_self _, by decide⟩
  · exact ⟨_, List.mem_singleton_self _, by decide⟩

theorem invents_no_loss_iff_early :
    (∀ before message rest, [opening, early, closing] = before ++ message :: rest →
      (heard true (.obj 1) 7 before).InventsNoLoss (message.datagram (.obj 1) 7)) ↔
    ∀ before previous message rest, [opening, early, closing] = before ++ previous :: message :: rest →
      CountsRight ((heard true (.obj 1) 7 (before ++ [previous])).core.rule ⟨.obj 1, 7, 10⟩) previous.sent
        (AllHeld (.obj 1) 7 (heard true (.obj 1) 7 before).templates previous.sets) :=
  invents_no_loss_iff true (.obj 1) 7 0 announcedEarly [opening, early, closing] exported_early

/-- The three records of `early` arrive, and are counted as missing. -/
theorem loss_invented : ¬ ∀ sender domain start layouts run, Exported start layouts run →
    ∀ before message rest, run = before ++ message :: rest →
      (heard true sender domain before).InventsNoLoss (message.datagram sender domain) := by
  intro invents
  have counted := (invents (.obj 1) 7 0 announcedEarly _ exported_early [opening, early] closing [] rfl).2
  have missed : ((heard true (.obj 1) 7 [opening, early]).decodeDatagram
      (closing.datagram (.obj 1) 7)).2.stats.missedExports = 3 := by decide +kernel
  omega

end Netflume
