import Netflume.Schema

/-! # Flows as plain data

`Flow.as_dict` of every flow a consumer can come by.  The dict has the record's
entries and the metadata beside them, and no two flows share one: what it leaves out
is made of what it holds. -/

namespace Netflume

open Library

/-- `MODELLED_FIELDS`. -/
def modelledNames : List String := ["exporter", "version", "domain", "start", "duration", "src_addr", "dst_addr",
  "src_port", "dst_port", "proto", "octets", "packets", "tcp_flags", "in_if", "out_if", "sampling_rate"]

/-- Of a type in `_JSON_SAFE`: everything but an exporter that has to become its `text`. -/
def Plain.JsonSafe (text : Nat → Option String) : Plain → Prop
  | .exporter (.obj identity) => text identity = Option.none
  | _ => True

theorem Plain.jsonSafe_jsonable (text : Nat → Option String) (plain : Plain) :
    (plain.jsonable text).JsonSafe text := by
  cases plain with
  | exporter exporter =>
    cases exporter with
    | str address => trivial
    | obj identity =>
      rw [jsonable]
      cases written : text identity with
      | none => exact written
      | some _ => trivial
  | field _ | number _ | none => trivial

namespace Flow

section Arithmetic

variable (round : Rat → Rat)

/-- Made by the typed view of a message of some run. -/
def Decoded (flow : Flow) : Prop :=
  ∃ trackSequence trackSampling run message flows now clock,
    .ok (some message) ∈ (Decoder.new trackSequence trackSampling).results run ∧
      message.typedFlows round now clock = .ok flows ∧ flow ∈ flows

/-- The fields a flow reads off its record. -/
structure ReadOff (flow : Flow) : Prop where
  endpoints : (flow.srcAddr, flow.dstAddr) = flowEndpoints flow.raw
  ports : (flow.srcPort, flow.dstPort, flow.proto) =
    (flow.raw.get? "src_port", flow.raw.get? "dst_port", flow.raw.get? "proto")
  counts : (flow.octets, flow.packets) =
    (firstOf flow.raw ["octets", "octets_total"], firstOf flow.raw ["packets", "packets_total"])
  rest : (flow.tcpFlags, flow.inIf, flow.outIf) =
    (flow.raw.get? "tcp_flags", flow.raw.get? "in_if", flow.raw.get? "out_if")

variable {round} {flow : Flow}

theorem readOff_fromRecord {rec : Rec} {header : Header} {samplingRate : Nat} {now : Option Number} {clock : Rat}
    (made : Flow.fromRecord round rec header samplingRate now clock = .ok flow) : flow.ReadOff := by
  obtain ⟨start, _, rest⟩ := bind_eq_ok.mp made
  obtain ⟨duration, _, same⟩ := bind_eq_ok.mp rest
  cases same
  exact ⟨rfl, rfl, rfl, rfl⟩

theorem Decoded.readOff (decoded : flow.Decoded round) : flow.ReadOff := by
  obtain ⟨_, _, run, message, flows, now, clock, _, typed, member⟩ := decoded
  obtain ⟨rec, _, made⟩ := mem_of_mapM typed member
  exact readOff_fromRecord made

theorem Decoded.sourced (decoded : flow.Decoded round) : flow.raw.Sourced := by
  obtain ⟨_, _, run, message, flows, now, clock, returned, typed, member⟩ := decoded
  obtain ⟨rec, isRecord, made⟩ := mem_of_mapM typed member
  rw [raw_fromRecord round made]
  exact Decoder.messages_sourced returned rec (List.mem_append_left _ isRecord)

/-- No name of the record is a metadata key. -/
theorem Decoded.apart (decoded : flow.Decoded round) : ∀ entry ∈ flow.raw.entries, entry.1 ∉ metadataKeys :=
  fun entry held => (decoded.sourced entry.1 entry.2 (OrderedDict.get?_eq_some_iff.mpr held)).not_metadata

end Arithmetic

/-! ## Reading a dict -/

variable {text : Nat → Option String} {flow first second : Flow}

/-- An entry of a dict is one of the record or one of the metadata. -/
theorem get?_asDict (apart : ∀ entry ∈ flow.raw.entries, entry.1 ∉ metadataKeys) {key : String} {plain : Plain} :
    (flow.asDict text true).get? key = some plain ↔
      (∃ value, flow.raw.get? key = some value ∧ plain = .field value) ∨ (key, plain) ∈ flow.metadata := by
  rw [OrderedDict.get?_eq_some_iff, flow.entries_asDict text apart, List.mem_append]
  refine or_congr ?_ Iff.rfl
  constructor
  · intro member
    obtain ⟨entry, held, same⟩ := List.mem_map.mp member
    cases same
    exact ⟨entry.2, OrderedDict.get?_eq_some_iff.mpr held, rfl⟩
  · rintro ⟨value, held, rfl⟩
    exact List.mem_map.mpr ⟨(key, value), OrderedDict.get?_eq_some_iff.mp held, rfl⟩

theorem key_of_metadata {key : String} {plain : Plain} (member : (key, plain) ∈ flow.metadata) :
    key ∈ metadataKeys := by
  rw [← flow.metadata_keys]
  exact List.mem_map_of_mem member

/-- One dict holds what the other does. -/
def SameDict (text : Nat → Option String) (first second : Flow) : Prop :=
  ∀ key, (first.asDict text true).get? key = (second.asDict text true).get? key

/-- Equal as `dataclass` compares them: the records as mappings, the fields one by one. -/
structure Equal (first second : Flow) : Prop where
  raw : ∀ key, first.raw.get? key = second.raw.get? key
  fields : { first with raw := second.raw } = second

theorem Equal.metadata (equal : first.Equal second) : first.metadata = second.metadata := by
  rw [← equal.fields]
  rfl

/-- A record is told from its dict. -/
theorem raw_of_sameDict (isFirst : ∀ entry ∈ first.raw.entries, entry.1 ∉ metadataKeys)
    (isSecond : ∀ entry ∈ second.raw.entries, entry.1 ∉ metadataKeys) (same : SameDict text first second) {key : String}
    {value : Value} (held : first.raw.get? key = some value) : second.raw.get? key = some value := by
  have entry : (first.asDict text true).get? key = some (.field value) :=
    (get?_asDict isFirst).mpr (.inl ⟨value, held, rfl⟩)
  rw [same key] at entry
  obtain ⟨other, alsoHeld, isField⟩ | metadata := (get?_asDict isSecond).mp entry
  · rw [alsoHeld, Plain.field.inj isField]
  · exact absurd (key_of_metadata metadata) (isFirst (key, value) (OrderedDict.get?_eq_some_iff.mp held))

theorem metadata_of_sameDict (isFirst : ∀ entry ∈ first.raw.entries, entry.1 ∉ metadataKeys)
    (isSecond : ∀ entry ∈ second.raw.entries, entry.1 ∉ metadataKeys) (same : SameDict text first second) {key : String}
    {plain : Plain} (member : (key, plain) ∈ first.metadata) : (key, plain) ∈ second.metadata := by
  have entry : (first.asDict text true).get? key = some plain := (get?_asDict isFirst).mpr (.inr member)
  rw [same key] at entry
  obtain ⟨value, held, _⟩ | metadata := (get?_asDict isSecond).mp entry
  · exact absurd (key_of_metadata member) (isSecond (key, value) (OrderedDict.get?_eq_some_iff.mp held))
  · exact metadata

/-- Fields read off records that hold the same are the same. -/
theorem ReadOff.agree (isFirst : first.ReadOff) (isSecond : second.ReadOff)
    (raw : ∀ key, first.raw.get? key = second.raw.get? key) :
    { second with
      exporter := first.exporter, version := first.version, domain := first.domain, start := first.start,
      duration := first.duration, samplingRate := first.samplingRate } = { first with raw := second.raw } := by
  have ends : flowEndpoints first.raw = flowEndpoints second.raw := by
    simp [flowEndpoints, Rec.getTruthy, raw]
  have counts (keys : List String) : firstOf first.raw keys = firstOf second.raw keys := by
    rw [firstOf, funext raw]
    rfl
  have sameEnds := isSecond.endpoints.trans (ends.symm.trans isFirst.endpoints.symm)
  have samePorts := isSecond.ports
  rw [← raw, ← raw, ← raw, ← isFirst.ports] at samePorts
  have sameCounts := isSecond.counts
  rw [← counts, ← counts, ← isFirst.counts] at sameCounts
  have sameRest := isSecond.rest
  rw [← raw, ← raw, ← raw, ← isFirst.rest] at sameRest
  simp only [Prod.mk.injEq] at sameEnds samePorts sameCounts sameRest
  simp only [sameEnds, samePorts, sameCounts, sameRest]

theorem equal_of_sameDict {round : Rat → Rat} (isFirst : first.Decoded round) (isSecond : second.Decoded round)
    (same : SameDict text first second) : first.Equal second := by
  have raw (key : String) : first.raw.get? key = second.raw.get? key :=
    Option.ext fun value => ⟨raw_of_sameDict isFirst.apart isSecond.apart same,
      raw_of_sameDict isSecond.apart isFirst.apart fun key => (same key).symm⟩
  have moved {key : String} {plain : Plain} (member : (key, plain) ∈ first.metadata) : (key, plain) ∈ second.metadata :=
    metadata_of_sameDict isFirst.apart isSecond.apart same member
  have exporter : first.exporter = second.exporter := by
    simpa [metadata] using @moved "_exporter" (.exporter first.exporter) (by simp [metadata])
  have version : first.version = second.version := by
    simpa [metadata] using @moved "_version" (.number (.int first.version)) (by simp [metadata])
  have start : first.start = second.start := by
    simpa [metadata] using @moved "_timestamp" (.number first.start) (by simp [metadata])
  have domain : first.domain = second.domain := by
    simpa [metadata] using @moved "_domain" (.number (.int first.domain)) (by simp [metadata])
  have rate : first.samplingRate = second.samplingRate := by
    simpa [metadata] using @moved "_sampling_rate" (.number (.int first.samplingRate)) (by simp [metadata])
  have duration : first.duration = second.duration := by
    have elim := @moved "_duration" (first.duration.elim .none .number) (by simp [metadata])
    simp only [metadata, List.mem_cons, Prod.mk.injEq, String.reduceEq, false_and, true_and, false_or,
      List.not_mem_nil, or_false] at elim
    cases own : first.duration <;> cases other : second.duration <;> simp_all
  refine ⟨raw, ?_⟩
  rw [← isFirst.readOff.agree isSecond.readOff raw, exporter, version, domain, start, duration, rate]

theorem sameDict_of_equal (isFirst : ∀ entry ∈ first.raw.entries, entry.1 ∉ metadataKeys)
    (isSecond : ∀ entry ∈ second.raw.entries, entry.1 ∉ metadataKeys) (equal : first.Equal second) :
    SameDict text first second := by
  intro key
  apply Option.ext
  intro plain
  rw [get?_asDict isFirst, get?_asDict isSecond, equal.raw, equal.metadata]

/-! ## What a consumer stores -/

theorem entries_modelled (text : Nat → Option String) (flow : Flow) :
    (flow.asDict text false).entries = flow.modelledFields.map fun entry => (entry.1, entry.2.jsonable text) := by
  rw [asDict, if_neg (by simp), OrderedDict.entries_setAll]
  · rfl
  · rw [List.map_map]
    show modelledNames.Nodup
    decide
  · exact fun _ _ => rfl

/-- No two flows a consumer can come by share a dict. -/
theorem as_dict_lossless (round : Rat → Rat) (text : Nat → Option String) {first second : Flow}
    (isFirst : first.Decoded round) (isSecond : second.Decoded round) :
    (first.asDict text true).entries =
        (first.raw.entries.map fun entry => (entry.1, Plain.field entry.2)) ++ first.metadata ∧
      (SameDict text first second ↔ first.Equal second) ∧
      ((∀ entry ∈ (first.asDict text true).entries, entry.2.JsonSafe text) ↔
        ∀ identity, first.exporter = .obj identity → text identity = none) ∧
      (first.asDict text false).entries.map Prod.fst = modelledNames ∧
      ∀ entry ∈ (first.asDict text false).entries, entry.2.JsonSafe text := by
  have entries := first.entries_asDict text isFirst.apart
  refine ⟨entries, ⟨equal_of_sameDict isFirst isSecond, sameDict_of_equal isFirst.apart isSecond.apart⟩, ?_, ?_, ?_⟩
  · rw [entries, List.forall_mem_append]
    constructor
    · rintro ⟨_, safe⟩ identity isObject
      have own := safe ("_exporter", .exporter first.exporter) (by simp [metadata])
      rw [isObject] at own
      exact own
    · intro native
      refine ⟨fun entry member => ?_, ?_⟩
      · obtain ⟨held, _, rfl⟩ := List.mem_map.mp member
        trivial
      · have own : (Plain.exporter first.exporter).JsonSafe text := by
          cases isExporter : first.exporter with
          | str address => trivial
          | obj identity => exact native identity isExporter
        simp only [metadata, List.forall_mem_cons]
        refine ⟨own, trivial, trivial, trivial, ?_, trivial, by simp⟩
        cases first.duration <;> trivial
  · rw [entries_modelled, List.map_map]
    rfl
  · rw [entries_modelled]
    intro entry member
    obtain ⟨held, _, rfl⟩ := List.mem_map.mp member
    exact held.2.jsonSafe_jsonable text

/-- Two flows a millisecond apart. -/
theorem as_dict_lossless_apart :
    let flow (millis : Nat) : Flow := {
      raw := recordOf [("flow_start_ms", .int millis)], exporter := .obj 61, version := 10, domain := 7
      start := .float ((millis : Rat) / 1000), srcAddr := none, dstAddr := none, srcPort := none, dstPort := none
      proto := none, octets := none, packets := none, tcpFlags := none, inIf := none, outIf := none, duration := none
      samplingRate := 1 }
    let text : Nat → Option String := fun identity => some (Nat.repr identity)
    let first := flow 1700000000123
    let second := flow 1700000000124
    (first.asDict text true).entries =
        (first.raw.entries.map fun entry => (entry.1, Plain.field entry.2)) ++ first.metadata ∧
      (SameDict text first second ↔ first.Equal second) ∧
      ((∀ entry ∈ (first.asDict text true).entries, entry.2.JsonSafe text) ↔
        ∀ identity, first.exporter = .obj identity → text identity = none) ∧
      (first.asDict text false).entries.map Prod.fst = modelledNames ∧
      ∀ entry ∈ (first.asDict text false).entries, entry.2.JsonSafe text := by
  intro flow text first second
  have isFirst : first.Decoded id :=
    ⟨false, false, [startTime 152 (toBytes 8 1700000000123)], startMessage "flow_start_ms" (.int 1700000000123),
      [first], none, 1700000001, by decide +kernel, by decide +kernel, List.mem_cons_self⟩
  have isSecond : second.Decoded id :=
    ⟨false, false, [startTime 152 (toBytes 8 1700000000124)], startMessage "flow_start_ms" (.int 1700000000124),
      [second], none, 1700000001, by decide +kernel, by decide +kernel, List.mem_cons_self⟩
  exact as_dict_lossless id text isFirst isSecond

end Flow

end Netflume
