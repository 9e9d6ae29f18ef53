import Mathlib.Algebra.Order.BigOperators.Group.List
import Netflume.DecoderLedger
import Netflume.FieldNames
import Netflume.TableKeys

/-! # Reporting the gaps

`gaps`, `report` and `watched` of the sequence watch, and `export_gaps` of the
decoder.  While no stream is evicted the rows are the gaps stated on the messages,
summed stream by stream.  A label names one stream: the domain and the version are
added exactly where the bare address would not do. -/

namespace Netflume

open Library

/-- `str` of an exporter. -/
def Exporter.format (text : Nat → String) : Exporter → String
  | .str address => address
  | .obj identity => text identity

def ExportGap.stream (gap : ExportGap) : StreamKey := ⟨gap.exporter, gap.domain, gap.version⟩

/-- The stream a message is counted in. -/
def Message.stream (message : Message) : StreamKey :=
  ⟨message.header.exporter, message.header.domain, message.header.version⟩

namespace SequenceWatch

/-- What the exports missing on a stream are counted in. -/
def unitOf (watch : SequenceWatch) (key : StreamKey) : String := (watch.units.get? key).getD "exports"

/-- `gaps`. -/
def gaps (watch : SequenceWatch) : List ExportGap :=
  watch.missed.mostCommon.map fun entry =>
    ⟨entry.1.exporter, entry.1.domain, entry.1.version, entry.2, watch.unitOf entry.1⟩

def streamsPerExporter (watch : SequenceWatch) (exporter : Exporter) : Nat :=
  (watch.missed.keys.map StreamKey.exporter).count exporter

/-- How a row of the report names its stream. -/
def label (text : Nat → String) (watch : SequenceWatch) (key : StreamKey) : Exporter :=
  if watch.streamsPerExporter key.exporter > 1 then
    .str (key.exporter.format text ++ " v" ++ Nat.repr key.version ++ " domain " ++ Nat.repr key.domain)
  else key.exporter

/-- `report`. -/
def report (text : Nat → String) (watch : SequenceWatch) : List (Exporter × Nat × String) :=
  watch.missed.mostCommon.map fun entry => (watch.label text entry.1, entry.2, watch.unitOf entry.1)

/-- `watched`. -/
def watched (watch : SequenceWatch) : Bool := watch.streams.entries.any fun entry => entry.2.mode.isSome

end SequenceWatch

/-- `export_gaps`. -/
def Decoder.exportGaps (decoder : Decoder) : List ExportGap :=
  match decoder.sequence with
  | none => []
  | some watch => watch.gaps

/-- The reading of its counter the watch has learned for a stream. -/
def Decoder.learnedMode (decoder : Decoder) (key : StreamKey) : Option Mode :=
  decoder.sequence.bind fun watch => (watch.streams.get? key).bind StreamState.mode

/-! ## The rows -/

namespace SequenceWatch

theorem mem_gaps {watch : SequenceWatch} {row : ExportGap} :
    row ∈ watch.gaps ↔ watch.missed.get? row.stream = some row.missed ∧ row.unit = watch.unitOf row.stream := by
  rw [gaps, List.mem_map]
  constructor
  · rintro ⟨⟨key, lost⟩, member, rfl⟩
    exact ⟨OrderedDict.get?_eq_some_iff.mpr (watch.missed.mostCommon_perm.mem_iff.mp member), rfl⟩
  · rintro ⟨booked, isUnit⟩
    refine ⟨(row.stream, row.missed), ?_, ?_⟩
    · exact watch.missed.mostCommon_perm.mem_iff.mpr (OrderedDict.get?_eq_some_iff.mp booked)
    · obtain ⟨exporter, domain, version, missed, unit⟩ := row
      exact congrArg (ExportGap.mk exporter domain version missed) isUnit.symm

/-- One row a stream, the worst first. -/
theorem gaps_rows (watch : SequenceWatch) :
    (watch.gaps.map ExportGap.stream).Nodup ∧
      (watch.gaps.Pairwise fun first second => second.missed ≤ first.missed) ∧
      (watch.gaps.map ExportGap.missed).sum = watch.missed.total := by
  have streams : watch.gaps.map ExportGap.stream = watch.missed.mostCommon.map Prod.fst := by
    rw [gaps, List.map_map]
    rfl
  have losses : watch.gaps.map ExportGap.missed = watch.missed.mostCommon.map Prod.snd := by
    rw [gaps, List.map_map]
    rfl
  refine ⟨?_, List.pairwise_map.mpr watch.missed.mostCommon_sorted, ?_⟩
  · rw [streams]
    exact (watch.missed.mostCommon_perm.map Prod.fst).nodup_iff.mpr watch.missed.nodup
  · rw [losses, OrderedDict.total]
    exact (watch.missed.mostCommon_perm.map Prod.snd).sum_eq

/-- While nothing is evicted, a call books on its own stream what it returns. -/
theorem missed_observe {watch : SequenceWatch} {obs : Observation} (quiet : (watch.observe obs).2.evicted = 0) :
    (watch.observe obs).2.missed = if (watch.observe obs).1 = 0 then watch.missed
      else watch.missed.set obs.key ((watch.missed.get? obs.key).getD 0 + (watch.observe obs).1) := by
  obtain ⟨_, same⟩ | ⟨seq, _, ⟨_, placed⟩ | ⟨state, entry, _, writes⟩⟩ := watch.observe_cases obs
  · rw [same]
    rfl
  · obtain ⟨_, evicted, _⟩ := watch.firstSeen_frame obs.key seq obs.records
    rw [placed] at quiet ⊢
    have fits : (watch.streams.set obs.key ⟨seq, obs.records, none, 0⟩).size ≤ watch.maxStreams := by
      rw [evicted] at quiet
      omega
    simp only [firstSeen, setState, evict, OrderedDict.trim_of_le fits, List.foldl_nil, if_true]
  · obtain ⟨nothing, missed, _, _⟩ | ⟨lost, mode, _, missed, _, _⟩ := writes.books
    · rw [if_pos nothing]
      exact missed
    · rw [if_neg (Nat.ne_of_gt lost)]
      exact missed

end SequenceWatch

/-! ## The rows against the messages -/

/-- The gaps stated on the messages of a stream. -/
def lossOn (key : StreamKey) (messages : List Message) : Nat :=
  ((messages.filter fun message => message.stream = key).map Message.gap).sum

/-- The books of the watch are the gaps of the messages. -/
structure Booked (messages : List Message) (watch : SequenceWatch) : Prop where
  coherent : ∃ run, watch.Coherent maxStreams run
  each : ∀ key, (watch.missed.get? key).getD 0 = lossOn key messages
  total : watch.missed.total = (messages.map Message.gap).sum

theorem Booked.observe {messages : List Message} {watch : SequenceWatch} (booked : Booked messages watch)
    {obs : Observation} (quiet : (watch.observe obs).2.evicted = 0) {message : Message}
    (stream : message.stream = obs.key) (gap : message.gap = (watch.observe obs).1) :
    Booked (messages ++ [message]) (watch.observe obs).2 := by
  obtain ⟨⟨run, coherent⟩, each, total⟩ := booked
  have missed := SequenceWatch.missed_observe quiet
  have losses (key : StreamKey) :
      lossOn key (messages ++ [message]) = lossOn key messages + if obs.key = key then message.gap else 0 := by
    rw [lossOn, List.filter_append, List.map_append, List.sum_append, ← stream]
    by_cases own : message.stream = key <;> simp [own, lossOn]
  refine ⟨⟨run ++ [obs], SequenceWatch.coherent_observe coherent obs⟩, fun key => ?_, ?_⟩
  · rw [losses key, missed, gap, ← each key]
    by_cases nothing : (watch.observe obs).1 = 0
    · rw [if_pos nothing, nothing, ite_self, Nat.add_zero]
    · rw [if_neg nothing, OrderedDict.get?_set]
      by_cases own : obs.key = key
      · subst own
        simp
      · rw [if_neg own, if_neg (fun same => own same.symm), Nat.add_zero]
  · rw [missed, List.map_append, List.sum_append, List.map_singleton, List.sum_singleton, gap, ← total]
    by_cases nothing : (watch.observe obs).1 = 0
    · rw [if_pos nothing, nothing, Nat.add_zero]
    · have added := watch.missed.total_set obs.key ((watch.missed.get? obs.key).getD 0 + (watch.observe obs).1)
      rw [if_neg nothing]
      omega

/-! ## Runs -/

theorem Decoder.Datagram.header_version {datagram : Decoder.Datagram} {header : Header}
    (read : datagram.header = some header) : header.version = num datagram.data 0 2 := by
  have known := not_not.mp (not_or.mp (header_supported read)).2
  have parsed := header_read read
  rw [datagramHeader, messageHeader] at parsed
  split at parsed
  · rename_i isV5
    split at parsed
    · cases parsed
    · cases parsed
      exact isV5.symm
  · rename_i notV5
    split at parsed
    · cases parsed
    · split at parsed
      · rename_i isIpfix
        split at parsed <;> cases parsed
        exact isIpfix.symm
      · rename_i notIpfix
        split at parsed <;> cases parsed
        simp only [supportedVersions, List.mem_cons, List.not_mem_nil, or_false] at known
        show 9 = num datagram.data 0 2
        omega

namespace Decoder

/-- A call that returns leaves the watch as it was and gives no message, or makes one observation of the message
it returns. -/
theorem decode_observes {decoder : Decoder} {datagram : Datagram} {result : Option Message}
    (answer : (decoder.decodeDatagram datagram).1 = .ok result) :
    result = none ∧ (decoder.decodeDatagram datagram).2.sequence = decoder.sequence ∨
      ∃ obs message, result = some message ∧ message.stream = obs.key ∧
        message.gap = (decoder.core.observe obs).1 ∧
        (decoder.decodeDatagram datagram).2.sequence = (decoder.core.observe obs).2.sequence := by
  obtain ⟨sameAnswer, sameCore⟩ := decode_core decoder datagram
  rw [sameAnswer] at answer
  have sequence : (decoder.decodeDatagram datagram).2.sequence = (decoder.core.step datagram).2.sequence :=
    congrArg Core.sequence sameCore
  rw [sequence]
  cases read : datagram.header with
  | none =>
    obtain ⟨nothing, same | same⟩ := Core.step_headerless read decoder.core
    · rw [answer] at nothing
      exact .inl ⟨Except.ok.inj nothing, by rw [same]; rfl⟩
    · rw [answer] at nothing
      exact .inl ⟨Except.ok.inj nothing, by rw [same]; rfl⟩
  | some header =>
    right
    rw [Core.step_headed read] at answer ⊢
    have observed (obs : Observation) : ((decoder.core.afterRead datagram).observe obs).1 = (decoder.core.observe obs).1 ∧
        ((decoder.core.afterRead datagram).observe obs).2.sequence = (decoder.core.observe obs).2.sequence := by
      simp only [Core.observe, Core.afterRead]
      cases tracked : decoder.core.sequence with
      | none => exact ⟨rfl, tracked.symm⟩
      | some watch => exact ⟨rfl, rfl⟩
    obtain ⟨rate, noted⟩ := Core.deliver_noted answer
    rw [Core.deliver_after, (Core.note_frame _ _ _).2.1, (observed _).2]
    cases result with
    | none =>
      simp only [Core.deliver] at answer
      generalize Core.note _ _ _ = noting at answer noted
      obtain ⟨outcome, after⟩ := noting
      cases noted
      cases answer
    | some message =>
      obtain ⟨rate, rfl⟩ := Core.deliver_message answer
      refine ⟨_, _, rfl, ?_, (observed _).1, rfl⟩
      simp only [Message.stream, Observation.key, observation, Datagram.header_exporter read,
        Datagram.header_version read]

theorem booked_run (trackSampling : Bool) (run : List Datagram)
    (returned : ∀ result ∈ (new true trackSampling).results run, ∃ message, result = .ok message) :
    ∃ watch, ((new true trackSampling).decodeAll run).sequence = some watch ∧
      (watch.evicted = 0 → Booked (((new true trackSampling).results run).filterMap message?) watch) := by
  induction run using List.reverseRecOn with
  | nil => exact ⟨.new maxStreams, rfl, fun _ => ⟨⟨[], SequenceWatch.coherent_new maxStreams⟩, fun _ => rfl, rfl⟩⟩
  | append_singleton run datagram inductionHypothesis =>
    rw [results, outputs_snoc] at returned ⊢
    obtain ⟨held, before, books⟩ := inductionHypothesis fun result member =>
      returned result (List.mem_append_left _ member)
    obtain ⟨result, answer⟩ := returned _ (List.mem_append_right _ (List.mem_singleton_self _))
    rw [decodeAll] at before ⊢
    rw [stateAfter_snoc, List.filterMap_append, List.filterMap_cons, List.filterMap_nil, answer]
    obtain ⟨rfl, same⟩ | ⟨obs, message, rfl, stream, gap, after⟩ := decode_observes answer
    · simp only [message?, List.append_nil]
      exact ⟨held, same.trans before, books⟩
    · have tracked : (stateAfter decodeDatagram (new true trackSampling) run).core.sequence = some held := before
      simp only [Core.observe, tracked] at after gap
      refine ⟨_, after, fun quiet => ?_⟩
      obtain ⟨⟨calls, limit, recent, sameKeys, booked, states⟩, each, total⟩ :=
        (books (SequenceWatch.observe_quiet quiet).1).observe quiet stream gap
      exact ⟨⟨calls, limit, recent, sameKeys, booked, states⟩, each, total⟩

/-- The rows of `export_gaps` are the gaps stated on the messages, summed stream by stream, the worst first. -/
theorem export_gaps_of_messages (trackSampling : Bool) {run : List Datagram}
    (returned : ∀ result ∈ (new true trackSampling).results run, ∃ message, result = .ok message)
    (quiet : ∀ watch, ((new true trackSampling).decodeAll run).sequence = some watch → watch.evicted = 0) :
    let decoder := (new true trackSampling).decodeAll run
    let messages := ((new true trackSampling).results run).filterMap message?
    (decoder.exportGaps.map ExportGap.stream).Nodup ∧
      (decoder.exportGaps.Pairwise fun first second => second.missed ≤ first.missed) ∧
      (∀ row ∈ decoder.exportGaps, 0 < row.missed ∧ row.missed = lossOn row.stream messages ∧
        ∃ mode, decoder.learnedMode row.stream = some mode ∧ row.unit = SequenceWatch.unit mode row.version) ∧
      (∀ message ∈ messages, 0 < message.gap → message.stream ∈ decoder.exportGaps.map ExportGap.stream) ∧
      (decoder.exportGaps.map ExportGap.missed).sum = decoder.stats.missedExports ∧
      (decoder.exportGaps ≠ [] → decoder.sequence.any SequenceWatch.watched = true) := by
  intro decoder messages
  obtain ⟨watch, tracked, books⟩ := booked_run trackSampling run returned
  obtain ⟨⟨calls, coherent⟩, each, total⟩ := books (quiet watch tracked)
  obtain ⟨distinct, sorted, sum⟩ := watch.gaps_rows
  have rows : decoder.exportGaps = watch.gaps := by
    rw [exportGaps, tracked]
  have missed : decoder.stats.missedExports = (messages.map Message.gap).sum :=
    (addsUp_run true trackSampling run returned).1.missedExports
  rw [rows, missed, ← total]
  have learned (row : ExportGap) (member : row ∈ watch.gaps) : ∃ state mode,
      watch.streams.get? row.stream = some state ∧ state.mode = some mode ∧
        watch.units.get? row.stream = some (SequenceWatch.unit mode row.version) :=
    (coherent.booked row.stream row.missed (SequenceWatch.mem_gaps.mp member).1).2
  refine ⟨distinct, sorted, fun row member => ?_, fun message member lost => ?_, sum, fun some => ?_⟩
  · obtain ⟨booked, isUnit⟩ := SequenceWatch.mem_gaps.mp member
    obtain ⟨state, mode, held, known, unit⟩ := learned row member
    have loss := each row.stream
    rw [booked] at loss
    refine ⟨(coherent.booked row.stream row.missed booked).1, loss, mode, ?_, ?_⟩
    · rw [learnedMode, tracked, Option.bind_some, held, Option.bind_some, known]
    · rw [isUnit, SequenceWatch.unitOf, unit]
      rfl
  · have one : message.gap ≤ lossOn message.stream messages :=
      List.le_sum_of_mem (List.mem_map_of_mem (List.mem_filter.mpr ⟨member, by simp⟩))
    rw [← each] at one
    cases booked : watch.missed.get? message.stream with
    | none =>
      rw [booked, Option.getD_none] at one
      omega
    | some count =>
      have isRow := @SequenceWatch.mem_gaps watch ⟨message.stream.exporter, message.stream.domain,
        message.stream.version, count, watch.unitOf message.stream⟩
      exact List.mem_map.mpr ⟨_, isRow.mpr ⟨booked, rfl⟩, rfl⟩
  · obtain ⟨row, member⟩ := List.exists_mem_of_ne_nil _ some
    obtain ⟨state, mode, held, known, _⟩ := learned row member
    have entry := OrderedDict.get?_eq_some_iff.mp held
    rw [tracked, Option.any_some, SequenceWatch.watched, List.any_eq_true]
    exact ⟨_, entry, by rw [known]; rfl⟩

theorem export_gaps_of_messages_lossy :
    let numbered (sequence : UInt8) : Datagram := ⟨[0, 5] ++ List.replicate 17 0 ++ [sequence, 0, 0, 0, 0], .obj 1⟩
    let run := [numbered 1, numbered 2, numbered 9]
    let decoder := (new true true).decodeAll run
    let messages := ((new true true).results run).filterMap message?
    (decoder.exportGaps.map ExportGap.stream).Nodup ∧
      (decoder.exportGaps.Pairwise fun first second => second.missed ≤ first.missed) ∧
      (∀ row ∈ decoder.exportGaps, 0 < row.missed ∧ row.missed = lossOn row.stream messages ∧
        ∃ mode, decoder.learnedMode row.stream = some mode ∧ row.unit = SequenceWatch.unit mode row.version) ∧
      (∀ message ∈ messages, 0 < message.gap → message.stream ∈ decoder.exportGaps.map ExportGap.stream) ∧
      (decoder.exportGaps.map ExportGap.missed).sum = decoder.stats.missedExports ∧
      (decoder.exportGaps ≠ [] → decoder.sequence.any SequenceWatch.watched = true) := by
  intro numbered run
  have returned : ∀ result ∈ (new true true).results run, result.isOk = true := by decide +kernel
  have quiet : (((new true true).decodeAll run).sequence.all fun watch => watch.evicted = 0) = true := by
    decide +kernel
  apply export_gaps_of_messages
  · intro result member
    cases result with
    | error stop => cases returned _ member
    | ok message => exact ⟨message, rfl⟩
  · intro watch tracked
    simpa [tracked] using quiet

end Decoder

/-! ## The labels -/

/-- Two texts that are the same up to and behind their first separator. -/
theorem append_separator_inj {α : Type} {separator : α} {front other back rest : List α} (clear : separator ∉ front)
    (alsoClear : separator ∉ other) (same : front ++ separator :: back = other ++ separator :: rest) :
    front = other ∧ back = rest := by
  induction front generalizing other with
  | nil =>
    cases other with
    | nil => exact ⟨rfl, (List.cons.inj same).2⟩
    | cons char other =>
      obtain ⟨isSeparator, _⟩ := List.cons.inj same
      exact absurd (isSeparator ▸ List.mem_cons_self) alsoClear
  | cons char front inductionHypothesis =>
    cases other with
    | nil =>
      obtain ⟨isSeparator, _⟩ := List.cons.inj same
      exact absurd (isSeparator ▸ List.mem_cons_self) clear
    | cons first other =>
      obtain ⟨rfl, tails⟩ := List.cons.inj same
      obtain ⟨rfl, rfl⟩ := inductionHypothesis (fun member => clear (List.mem_cons_of_mem _ member))
        (fun member => alsoClear (List.mem_cons_of_mem _ member)) tails
      exact ⟨rfl, rfl⟩

/-- The exporter is known by a text without a blank, as an address is. -/
def Exporter.Unbroken (exporter : Exporter) : Prop := ∃ address, exporter = .str address ∧ ' ' ∉ address.toList

/-- Folding an address to its dotted quad puts no blank in it. -/
theorem Exporter.Unbroken.key {exporter : Exporter} (unbroken : exporter.Unbroken) :
    (exporterKey exporter).Unbroken := by
  obtain same | ⟨raw, quad⟩ := exporterKey_forms exporter
  · rw [same]
    exact unbroken
  · refine ⟨_, quad, fun member => ?_⟩
    rw [inetNtoa, String.toList_intercalate, List.map_map] at member
    obtain same | ⟨part, isPart, inside⟩ := mem_intercalate member
    · cases same
    · obtain ⟨byte, _, rfl⟩ := List.mem_map.mp isPart
      exact not_mem_repr rfl byte.toNat inside

/-- The label of a stream named in full. -/
def fullLabel (address : String) (key : StreamKey) : String :=
  address ++ " v" ++ Nat.repr key.version ++ " domain " ++ Nat.repr key.domain

theorem toList_fullLabel (address : String) (key : StreamKey) :
    (fullLabel address key).toList = address.toList ++ ' ' :: 'v' :: ((Nat.repr key.version).toList ++
      ' ' :: ("domain ".toList ++ (Nat.repr key.domain).toList)) := by
  have version : " v".toList = [' ', 'v'] := rfl
  have domain : " domain ".toList = ' ' :: "domain ".toList := rfl
  simp only [fullLabel, String.toList_append, version, domain, List.append_assoc, List.cons_append, List.nil_append]

/-- A full label gives its stream back. -/
theorem fullLabel_injective {address other : String} (unbroken : ' ' ∉ address.toList)
    (alsoUnbroken : ' ' ∉ other.toList) {first second : StreamKey}
    (same : fullLabel address first = fullLabel other second) :
    address = other ∧ first.version = second.version ∧ first.domain = second.domain := by
  have chars := congrArg String.toList same
  rw [toList_fullLabel, toList_fullLabel] at chars
  obtain ⟨addresses, rest⟩ := append_separator_inj unbroken alsoUnbroken chars
  obtain ⟨versions, domains⟩ := append_separator_inj (not_mem_repr rfl first.version) (not_mem_repr rfl second.version)
    (List.cons.inj rest).2
  exact ⟨String.toList_inj.mp addresses, repr_injective (String.toList_inj.mp versions),
    repr_injective (String.toList_inj.mp (List.append_cancel_left domains))⟩

theorem fullLabel_ne {address other : String} (unbroken : ' ' ∉ other.toList) (key : StreamKey) :
    fullLabel address key ≠ other := by
  rintro rfl
  apply unbroken
  rw [toList_fullLabel]
  simp

namespace SequenceWatch

variable {text : Nat → String} {watch : SequenceWatch}

theorem streamsPerExporter_eq (watch : SequenceWatch) (exporter : Exporter) :
    watch.streamsPerExporter exporter = (watch.missed.keys.filter fun key => key.exporter = exporter).length := by
  rw [streamsPerExporter, List.count, List.countP_map, List.countP_eq_length_filter]
  exact congrArg List.length (List.filter_congr fun key _ => by simp [beq_eq_decide])

/-- An exporter with one row has one stream with loss. -/
theorem unique_of_streamsPerExporter {first second : StreamKey} (few : ¬ watch.streamsPerExporter first.exporter > 1)
    (lost : (watch.missed.get? first).isSome = true) (alsoLost : (watch.missed.get? second).isSome = true)
    (same : second.exporter = first.exporter) : second = first := by
  by_contra different
  have pair : [second, first] ⊆ watch.missed.keys.filter fun key => key.exporter = first.exporter := by
    intro key member
    simp only [List.mem_cons, List.not_mem_nil, or_false] at member
    obtain rfl | rfl := member
    · exact List.mem_filter.mpr ⟨(watch.missed.mem_keys_iff _).mpr alsoLost, by simpa using same⟩
    · exact List.mem_filter.mpr ⟨(watch.missed.mem_keys_iff _).mpr lost, by simp⟩
  have distinct : [second, first].Nodup := by simpa using different
  have two := (List.Nodup.subperm distinct pair).length_le
  apply few
  rw [streamsPerExporter_eq]
  exact two

/-- An exporter with one stream with loss has one row. -/
theorem streamsPerExporter_le {key : StreamKey}
    (unique : ∀ other, (watch.missed.get? other).isSome = true → other.exporter = key.exporter → other = key) :
    ¬ watch.streamsPerExporter key.exporter > 1 := by
  have covered : (watch.missed.keys.filter fun other => other.exporter = key.exporter) ⊆ [key] := by
    intro other member
    obtain ⟨held, same⟩ := List.mem_filter.mp member
    rw [unique other ((watch.missed.mem_keys_iff other).mp held) (by simpa using same)]
    exact List.mem_singleton_self key
  have distinct : (watch.missed.keys.filter fun other => other.exporter = key.exporter).Nodup :=
    List.Nodup.filter _ watch.missed.nodup
  have one := (List.Nodup.subperm distinct covered).length_le
  rw [streamsPerExporter_eq]
  exact Nat.not_lt.mpr one

/-- The bare address is the label of a stream exactly where its exporter lost on no other. -/
theorem label_eq_exporter_iff {key : StreamKey} (unbroken : key.exporter.Unbroken)
    (lost : (watch.missed.get? key).isSome = true) :
    watch.label text key = key.exporter ↔
      ∀ other, (watch.missed.get? other).isSome = true → other.exporter = key.exporter → other = key := by
  obtain ⟨address, isAddress, clear⟩ := unbroken
  constructor
  · intro bare other alsoLost same
    refine unique_of_streamsPerExporter (fun many => ?_) lost alsoLost same
    rw [label, if_pos many, isAddress] at bare
    exact fullLabel_ne clear key (Exporter.str.inj bare)
  · intro unique
    rw [label, if_neg (streamsPerExporter_le unique)]

/-- The label tells the stream. -/
theorem label_injective
    (unbroken : ∀ key, (watch.missed.get? key).isSome = true → key.exporter.Unbroken) {first second : StreamKey}
    (lost : (watch.missed.get? first).isSome = true) (alsoLost : (watch.missed.get? second).isSome = true)
    (same : watch.label text first = watch.label text second) : first = second := by
  obtain ⟨address, isAddress, clear⟩ := unbroken first lost
  obtain ⟨other, isOther, alsoClear⟩ := unbroken second alsoLost
  rw [label, label, isAddress, isOther] at same
  by_cases many : watch.streamsPerExporter (.str address) > 1 <;>
    by_cases alsoMany : watch.streamsPerExporter (.str other) > 1
  · rw [if_pos many, if_pos alsoMany] at same
    obtain ⟨addresses, versions, domains⟩ :=
      @fullLabel_injective address other clear alsoClear first second (Exporter.str.inj same)
    obtain ⟨exporter, domain, version⟩ := first
    obtain ⟨exporter', domain', version'⟩ := second
    simp_all
  · rw [if_pos many, if_neg alsoMany] at same
    exact absurd (Exporter.str.inj same) (fullLabel_ne alsoClear first)
  · rw [if_neg many, if_pos alsoMany] at same
    exact absurd (Exporter.str.inj same).symm (fullLabel_ne clear second)
  · rw [if_neg many, if_neg alsoMany] at same
    rw [← isOther] at alsoMany
    exact unique_of_streamsPerExporter alsoMany alsoLost lost (by rw [isAddress, isOther, same])

end SequenceWatch

namespace Decoder

/-- After any run the streams with loss are of exporters that sent something. -/
theorem unbroken_run (trackSequence trackSampling : Bool) {run : List Datagram}
    (addresses : ∀ datagram ∈ run, datagram.exporter.Unbroken) :
    ((new trackSequence trackSampling).decodeAll run).core.KeyedBy Exporter.Unbroken := by
  induction run using List.reverseRecOn with
  | nil => exact keyedBy_new _ trackSequence trackSampling
  | append_singleton run datagram inductionHypothesis =>
    rw [decodeAll, stateAfter_snoc]
    have keyed := inductionHypothesis fun other member => addresses other (List.mem_append_left _ member)
    have own := (addresses datagram (List.mem_append_right _ (List.mem_singleton_self _))).key
    rw [(decode_core _ datagram).2]
    exact keyed.step own

/-- The report names each stream with loss once, and in full exactly where its exporter lost on others too. -/
theorem report_names_streams (text : Nat → String) (trackSequence trackSampling : Bool) {run : List Datagram}
    (addresses : ∀ datagram ∈ run, datagram.exporter.Unbroken) {watch : SequenceWatch}
    (tracked : ((new trackSequence trackSampling).decodeAll run).sequence = some watch) :
    ((watch.report text).map Prod.fst).Nodup ∧
      (watch.report text).map Prod.snd = watch.gaps.map (fun row => (row.missed, row.unit)) ∧
      (watch.report text).map Prod.fst = watch.gaps.map (fun row => watch.label text row.stream) ∧
      ∀ row ∈ watch.gaps, watch.label text row.stream = row.exporter ↔
        ∀ other ∈ watch.gaps, other.exporter = row.exporter → other.stream = row.stream := by
  have keyed := (unbroken_run trackSequence trackSampling addresses).sequence watch tracked
  have unbroken (key : StreamKey) (lost : (watch.missed.get? key).isSome = true) : key.exporter.Unbroken :=
    keyed.missed key lost
  have labels : (watch.report text).map Prod.fst = (watch.missed.mostCommon.map Prod.fst).map (watch.label text) := by
    rw [SequenceWatch.report, List.map_map, List.map_map]
    rfl
  have held (key : StreamKey) (member : key ∈ watch.missed.mostCommon.map Prod.fst) :
      (watch.missed.get? key).isSome = true :=
    (watch.missed.mem_keys_iff key).mp ((watch.missed.mostCommon_perm.map Prod.fst).mem_iff.mp member)
  have booked {row : ExportGap} (isRow : row ∈ watch.gaps) : (watch.missed.get? row.stream).isSome = true := by
    rw [(SequenceWatch.mem_gaps.mp isRow).1]
    rfl
  refine ⟨?_, ?_, ?_, fun row isRow => (SequenceWatch.label_eq_exporter_iff (unbroken _ (booked isRow))
    (booked isRow)).trans ⟨fun unique other isOther => unique other.stream (booked isOther), ?_⟩⟩
  · rw [labels]
    apply List.Nodup.map_on
    · exact fun first isFirst second isSecond =>
        SequenceWatch.label_injective unbroken (held first isFirst) (held second isSecond)
    · exact (watch.missed.mostCommon_perm.map Prod.fst).nodup_iff.mpr watch.missed.nodup
  · rw [SequenceWatch.report, SequenceWatch.gaps, List.map_map, List.map_map]
    rfl
  · rw [SequenceWatch.report, SequenceWatch.gaps, List.map_map, List.map_map]
    rfl
  · intro unique key lost same
    obtain ⟨count, isBooked⟩ := Option.isSome_iff_exists.mp lost
    have isGap := @SequenceWatch.mem_gaps watch ⟨key.exporter, key.domain, key.version, count, watch.unitOf key⟩
    exact unique _ (isGap.mpr ⟨isBooked, rfl⟩) same

theorem report_names_streams_lossy :
    let numbered (engine sequence : UInt8) : Datagram :=
      ⟨[0, 5] ++ List.replicate 17 0 ++ [sequence, 0, engine, 0, 0], .str "192.0.2.1"⟩
    let run := [numbered 1 1, numbered 1 2, numbered 1 9, numbered 2 1, numbered 2 2, numbered 2 5]
    ∃ watch, ((new true true).decodeAll run).sequence = some watch ∧
      ((watch.report Nat.repr).map Prod.fst).Nodup ∧
        (watch.report Nat.repr).map Prod.snd = watch.gaps.map (fun row => (row.missed, row.unit)) ∧
        (watch.report Nat.repr).map Prod.fst = watch.gaps.map (fun row => watch.label Nat.repr row.stream) ∧
        ∀ row ∈ watch.gaps, watch.label Nat.repr row.stream = row.exporter ↔
          ∀ other ∈ watch.gaps, other.exporter = row.exporter → other.stream = row.stream := by
  intro numbered run
  have tracks : ((new true true).decodeAll run).sequence.isSome = true := by decide +kernel
  obtain ⟨watch, tracked⟩ := Option.isSome_iff_exists.mp tracks
  have addresses (datagram : Datagram) (member : datagram ∈ run) : datagram.exporter.Unbroken := by
    simp only [run, List.mem_cons, List.not_mem_nil, or_false] at member
    obtain rfl | rfl | rfl | rfl | rfl | rfl := member <;> exact ⟨"192.0.2.1", rfl, by decide⟩
  exact ⟨watch, tracked, report_names_streams Nat.repr true true addresses tracked⟩

end Decoder

end Netflume
