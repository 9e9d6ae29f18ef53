import Netflume.FieldNames
import Netflume.FlowTotal
import Netflume.Spelling

/-! # One schema

Whatever version a record came in, each of its names is an information element's, and
the value under it is what some bytes decode to as that element.  So the table promises
a type for every name it lists, and every other name is generated and holds a bare
value. -/

namespace Netflume

open Library

/-! ## What a name promises -/

/-- A value read without knowing what it is: a small integer, or hex digits. -/
def Value.Bare : Value → Prop
  | .int number => number < 2 ^ 64
  | .str text => ∀ char ∈ text.toList, ∃ digit < 16, char = digit.digitChar
  | .float _ => False

/-- What a field of this kind decodes to.  An address or a timestamp of the wrong width is left bare. -/
def Kind.Promises : Kind → Value → Prop
  | .uint, value => ∃ number, value = .int number
  | .mac, value | .string, value => ∃ text, value = .str text
  | .ipv4, value | .ipv6, value =>
    (∃ text address, value = .str text ∧ ipAddress text = some address) ∨ value.Bare
  | .ntp, value => (∃ seconds, value = .float seconds) ∨ value.Bare
  | .auto, value => value.Bare

theorem fallbackValue_bare (raw : Bytes) : (fallbackValue raw).Bare := by
  rw [fallbackValue]
  split
  · rename_i small
    have bound := beNat_lt raw
    have most : 256 ^ raw.length ≤ 256 ^ 8 := Nat.pow_le_pow_right (by omega) small.2
    show beNat raw < 2 ^ 64
    omega
  · intro char member
    rw [hexString, String.toList_ofList] at member
    obtain ⟨byte, _, inside⟩ := List.mem_flatMap.mp member
    have bound := byte.toNat_lt
    simp only [hexByte, List.mem_cons, List.not_mem_nil, or_false] at inside
    obtain rfl | rfl := inside
    · exact ⟨_, by omega, rfl⟩
    · exact ⟨_, Nat.mod_lt _ (by omega), rfl⟩

/-- Decoding keeps the promise of the kind, whatever the bytes. -/
theorem decodeValue_promises (raw : Bytes) (kind : Kind) : kind.Promises (decodeValue raw kind) := by
  cases kind with
  | uint => exact ⟨_, rfl⟩
  | mac | string => exact ⟨_, rfl⟩
  | auto => exact fallbackValue_bare raw
  | ipv4 =>
    by_cases sized : raw.length = 4
    · obtain ⟨text, value, address⟩ := ipAddress_decodeValue (.inl ⟨rfl, sized⟩)
      exact .inl ⟨text, _, value, address⟩
    · simpa [decodeValue, sized] using .inr (fallbackValue_bare raw)
  | ipv6 =>
    by_cases sized : raw.length = 16
    · obtain ⟨text, value, address⟩ := ipAddress_decodeValue (.inr ⟨rfl, sized⟩)
      exact .inl ⟨text, _, value, address⟩
    · simpa [decodeValue, sized] using .inr (fallbackValue_bare raw)
  | ntp =>
    by_cases sized : raw.length = 8
    · simp only [decodeValue, if_pos sized, ntpValue]
      split
      · exact .inr (show 0 < 2 ^ 64 by decide)
      · exact .inl ⟨_, rfl⟩
    · simpa [decodeValue, sized] using .inr (fallbackValue_bare raw)

/-- Hex digits are no address. -/
theorem ipAddress_bare {text : String} (bare : (Value.str text).Bare) : ipAddress text = none := by
  have clear {separator : Char} (isSeparator : separator ∈ [':', '.', '%', '/']) : separator ∉ text.toList := by
    intro member
    obtain ⟨digit, small, rfl⟩ := bare separator member
    exact digitChar_ne digit small isSeparator
  have whole {separator : Char} (isSeparator : separator ∈ [':', '.', '%', '/']) :
      splitOn separator text.toList = [text.toList] := by
    have single := @splitOn_intercalate separator [text.toList] (by simp) fun part member => by
      rw [List.mem_singleton.mp member]
      exact clear isSeparator
    rw [List.intercalate_singleton] at single
    exact single
  have narrow : parseIpv4 text.toList = none := by
    rw [parseIpv4, whole (by decide), List.map_singleton]
    cases parseOctet text.toList <;> rfl
  have wide : parseIpv6 text.toList = none := by
    simp [parseIpv6, clear, whole, ipIntFromString]
  rw [ipAddress, narrow, wide]
  rfl

/-! ## Elements -/

/-- The value under a name is what some bytes decode to as the element of that name. -/
def Sourced (name : String) (value : Value) : Prop :=
  ∃ element enterprise raw, name = (fieldName element enterprise).1 ∧
    value = decodeValue raw (fieldName element enterprise).2

theorem ieTable_lookup : ∀ entry ∈ ieTable, ieTable.lookup entry.1 = some entry.2 := by decide +kernel

/-- Aliases are of one kind, or are the two families of one address. -/
theorem aliasPairs_kinds : ∀ pair ∈ aliasPairs, (fieldName pair.1 none).2 = (fieldName pair.2 none).2 ∨
    (fieldName pair.1 none).2 = .ipv4 ∧ (fieldName pair.2 none).2 = .ipv6 := by decide +kernel

theorem Aliases.promises {first second : Nat} (aliases : Aliases first second) (value : Value) :
    (fieldName first none).2.Promises value ↔ (fieldName second none).2.Promises value := by
  obtain listed | listed := aliases
  · obtain same | ⟨narrow, wide⟩ := aliasPairs_kinds _ listed
    · rw [same]
    · rw [narrow, wide]
      exact Iff.rfl
  · obtain same | ⟨narrow, wide⟩ := aliasPairs_kinds _ listed
    · rw [same]
    · rw [narrow, wide]
      exact Iff.rfl

namespace Sourced

variable {name : String} {value : Value}

/-- A name of the table keeps the promise of its kind. -/
theorem promises (sourced : Sourced name value) {entry : Nat × String × Kind} (listed : entry ∈ ieTable)
    (isName : name = entry.2.1) : entry.2.2.Promises value := by
  obtain ⟨element, enterprise, raw, named, rfl⟩ := sourced
  have own : (fieldName entry.1 none) = entry.2 := by simp [fieldName, ieTable_lookup entry listed]
  have kept := decodeValue_promises raw (fieldName element enterprise).2
  obtain same | ⟨rfl, _, aliases⟩ := names_determine (named ▸ fieldName_form element enterprise)
    (NameForm.listed entry listed isName)
  · obtain ⟨rfl, rfl⟩ := Prod.mk.inj same
    rw [own] at kept ⊢
    exact kept
  · rw [aliases.promises, own] at kept
    exact kept

/-- Any other name is generated, and its value is bare. -/
theorem bare (sourced : Sourced name value) (unlisted : ∀ entry ∈ ieTable, name ≠ entry.2.1) :
    value.Bare ∧ ∃ element, name = "ie" ++ Nat.repr element ∨
      ∃ number, name = "e" ++ Nat.repr number ++ "." ++ Nat.repr element := by
  obtain ⟨element, enterprise, raw, rfl, rfl⟩ := sourced
  cases enterprise with
  | some number => exact ⟨decodeValue_promises raw .auto, element, .inr ⟨number, rfl⟩⟩
  | none =>
    cases found : ieTable.lookup element with
    | none =>
      simp only [fieldName, found, Option.getD_none]
      exact ⟨decodeValue_promises raw .auto, element, .inl rfl⟩
    | some entry =>
      obtain ⟨front, back, split, _⟩ := List.lookup_eq_some_iff.mp found
      have listed : (element, entry) ∈ ieTable := by simp [split]
      exact absurd (by simp [fieldName, found]) (unlisted _ listed)

theorem not_metadata (sourced : Sourced name value) : name ∉ metadataKeys := by
  obtain ⟨element, enterprise, raw, rfl, _⟩ := sourced
  exact fieldName_not_metadata element enterprise

end Sourced

/-! ## Records -/

def Rec.Sourced (rec : Rec) : Prop := ∀ name value, rec.get? name = some value → Netflume.Sourced name value

theorem Rec.sourced_empty : Rec.Sourced .empty := by
  intro name value found
  cases found

theorem Rec.Sourced.assign {rec : Rec} (sourced : rec.Sourced) (dedupe : Bool) {field : Field} (named : field.IsNamed)
    (raw : Bytes) : (rec.assign dedupe field.name (decodeValue raw field.kind)).Sourced := by
  rw [Rec.assign]
  split
  · exact sourced
  · intro name value found
    rw [OrderedDict.get?_set] at found
    split at found
    · rename_i own
      obtain ⟨element, enterprise, length, rfl⟩ := named
      cases found
      exact ⟨element, enterprise, raw, own, rfl⟩
    · exact sourced name value found

theorem wireRecord_sourced {ipfix dedupe : Bool} {fields : List Field} (named : ∀ field ∈ fields, field.IsNamed)
    {start rec : Rec} {bytes rest : Bytes} (sourced : start.Sourced)
    (read : wireRecord ipfix dedupe fields start bytes = some (rec, rest)) : rec.Sourced := by
  induction fields generalizing start bytes with
  | nil =>
    cases read
    exact sourced
  | cons field fields inductionHypothesis =>
    obtain ⟨first, others⟩ := List.forall_mem_cons.mp named
    simp only [wireRecord] at read
    cases fieldRead : wireField ipfix field.length bytes with
    | none => simp [fieldRead] at read
    | some result =>
      simp only [fieldRead] at read
      exact inductionHypothesis others (sourced.assign dedupe first result.1) read

/-- What a record made entry by entry holds was put in. -/
theorem mem_of_get?_recordOf {entries : List (String × Value)} {name : String} {value : Value}
    (found : (recordOf entries).get? name = some value) : (name, value) ∈ entries := by
  induction entries using List.reverseRecOn with
  | nil => cases found
  | append_singleton entries entry inductionHypothesis =>
    rw [recordOf, List.foldl_append, List.foldl_cons, List.foldl_nil, OrderedDict.get?_set] at found
    split at found
    · rename_i own
      cases found
      exact List.mem_append_right _ (by simp [own])
    · exact List.mem_append_left _ (inductionHypothesis found)

/-- A number under the name of a numeric element. -/
theorem sourced_number {element : Nat} {name : String} (isNumber : fieldName element none = (name, .uint)) (number : Nat) :
    Sourced name (.int number) := by
  refine ⟨element, none, toBytes number number, by rw [isNumber], ?_⟩
  rw [isNumber, decodeValue, beNat_toBytes, Nat.mod_eq_of_lt (Nat.lt_pow_self (by decide))]

/-- An address under the name of an IPv4 element. -/
theorem sourced_ipv4 {element : Nat} {name : String} (isAddress : fieldName element none = (name, .ipv4)) {raw : Bytes}
    (sized : raw.length = 4) : Sourced name (.str (inetNtoa raw)) :=
  ⟨element, none, raw, by rw [isAddress], by rw [isAddress, decodeValue, if_pos sized]⟩

theorem recordOf_sourced {entries : List (String × Value)} (all : ∀ entry ∈ entries, Netflume.Sourced entry.1 entry.2) :
    (recordOf entries).Sourced :=
  fun _ _ found => all _ (mem_of_get?_recordOf found)

theorem v5Record_sourced {raw : Bytes} (sized : raw.length = v5RecordSize) : (v5Record raw).Sourced := by
  have quad (start : Nat) (inside : start + 4 ≤ 48) : (slice raw start (start + 4)).length = 4 := by
    rw [length_slice start (by rw [sized]; exact inside)]
    omega
  apply recordOf_sourced
  simp only [List.forall_mem_cons]
  exact
    ⟨@sourced_ipv4 8 _ rfl _ (quad 0 (by decide)), @sourced_ipv4 12 _ rfl _ (quad 4 (by decide)),
      @sourced_ipv4 15 _ rfl _ (quad 8 (by decide)), @sourced_number 10 _ rfl _, @sourced_number 14 _ rfl _,
      @sourced_number 2 _ rfl _, @sourced_number 1 _ rfl _, @sourced_number 22 _ rfl _, @sourced_number 21 _ rfl _,
      @sourced_number 7 _ rfl _, @sourced_number 11 _ rfl _, @sourced_number 6 _ rfl _, @sourced_number 4 _ rfl _,
      @sourced_number 5 _ rfl _, @sourced_number 16 _ rfl _, @sourced_number 17 _ rfl _, @sourced_number 9 _ rfl _,
      @sourced_number 13 _ rfl _, by simp⟩

theorem v5Options_sourced (sampling : Nat) : ∀ opt ∈ v5Options sampling, opt.Sourced := by
  rw [v5Options]
  split
  · refine List.forall_mem_singleton.mpr (recordOf_sourced ?_)
    simp only [List.forall_mem_cons]
    exact ⟨@sourced_number 34 _ rfl _, @sourced_number 35 _ rfl _, by simp⟩
  · simp

theorem wireV5_sourced (count : Nat) (bytes : Bytes) : ∀ rec ∈ wireV5 count bytes, rec.Sourced := by
  induction count generalizing bytes with
  | zero => simp [wireV5]
  | succ count inductionHypothesis =>
    rw [wireV5]
    split
    · simp
    · rename_i long
      refine List.forall_mem_cons.mpr ⟨v5Record_sourced ?_, inductionHypothesis _⟩
      rw [List.length_take, Nat.min_eq_left (Nat.not_lt.mp long)]

/-! ## The store and the records of a parse -/

/-- Every template held was read from field specifications. -/
def TemplateStore.Named (store : TemplateStore) : Prop :=
  ∀ key template, store.templates.get? key = some template → ∀ field ∈ template.fields, field.IsNamed

def Sink.Sourced (sink : Sink) : Prop := sink.store.Named ∧ ∀ rec ∈ sink.records ++ sink.options, rec.Sourced

theorem sinkInvariant_sourced : SinkInvariant Sink.Sourced where
  put := by
    rintro sink key fields options named ⟨store, recs⟩
    refine ⟨fun other template held => ?_, recs⟩
    obtain gone | kept := sink.store.get?_put key other fields options
    · cases gone.symm.trans held
    · have found := kept.symm.trans held
      split at found
      · cases found
        exact named
      · exact store other template found
  get := by
    rintro sink key ⟨store, recs⟩
    exact ⟨fun other template held => store other template ((sink.store.get?_get key other).symm.trans held), recs⟩
  append := by
    rintro sink isOptions key template rec held ⟨ipfix, bytes, rest, read⟩ ⟨store, recs⟩
    have sourced := wireRecord_sourced (store key template held) Rec.sourced_empty read
    refine ⟨by cases isOptions <;> exact store, fun other member => ?_⟩
    have known : other ∈ sink.records ++ sink.options ∨ other = rec := by
      cases isOptions <;> simp [Sink.append] at member ⊢ <;> tauto
    obtain before | rfl := known
    · exact recs other before
    · exact sourced
  deferred := fun _ sourced => sourced
  markTruncated := fun _ sourced => sourced
  close := by
    intro sink sourced
    rw [Sink.close]
    split <;> exact sourced

/-- A parse through a named store leaves one, and returns sourced records. -/
theorem readDatagram_sourced (data : Bytes) (exporter : Exporter) {store : TemplateStore} (named : store.Named) :
    (readDatagram data exporter store).2.Named ∧
      ∀ rec ∈ (readDatagram data exporter store).1.records ++ (readDatagram data exporter store).1.options,
        rec.Sourced := by
  rw [readDatagram]
  split
  · refine ⟨named, ?_⟩
    rw [applyV5]
    split
    · simp
    · exact List.forall_mem_append.mpr ⟨wireV5_sourced _ _, v5Options_sourced _⟩
  · have start : Sink.Sourced { store, stats := {} } := ⟨named, by simp⟩
    have after := sinkInvariant_sourced.applyMessage data exporter start
    obtain ⟨records, options⟩ := applyMessage_lists data exporter store {}
    simp only [records, options]
    exact after

/-! ## Runs -/

namespace Core

theorem deliver_records {core : Core} {exporter : Exporter} {version : Nat} {header : Header} {flows options : List Rec}
    {message : Message} (answer : (core.deliver exporter version header flows options).1 = .ok (some message)) :
    message.flows = flows ∧ message.options = options := by
  obtain ⟨rate, rfl⟩ := deliver_message answer
  exact ⟨rfl, rfl⟩

/-- A step through a named store returns sourced records and leaves a named store. -/
theorem step_sourced {core : Core} (named : core.templates.Named) (datagram : Decoder.Datagram) :
    (core.step datagram).2.templates.Named ∧ ∀ message, (core.step datagram).1 = .ok (some message) →
      ∀ rec ∈ message.flows ++ message.options, rec.Sourced := by
  cases read : datagram.header with
  | none =>
    obtain ⟨nothing, same | drained⟩ := step_headerless read core
    · rw [same, nothing]
      exact ⟨named, by simp⟩
    · rw [drained, nothing]
      exact ⟨named, by simp⟩
  | some header =>
    obtain ⟨after, sourced⟩ := readDatagram_sourced datagram.data (exporterKey datagram.exporter) named
    rw [step_headed read]
    refine ⟨?_, fun message answer => ?_⟩
    · rw [deliver_templates]
      exact after
    · obtain ⟨flows, options⟩ := deliver_records answer
      rw [flows, options]
      exact sourced

end Core

namespace Decoder

/-- Every record of every message of a run is sourced. -/
theorem messages_sourced {trackSequence trackSampling : Bool} {run : List Datagram} {message : Message}
    (returned : .ok (some message) ∈ (new trackSequence trackSampling).results run) :
    ∀ rec ∈ message.flows ++ message.options, rec.Sourced := by
  have start : (new trackSequence trackSampling).core.templates.Named := by
    intro key template held
    cases held
  rw [(results_core _ run).1] at returned
  have all := (@forall_mem_outputs _ _ _ Core.step (fun result => ∀ message : Message, result = .ok (some message) →
    ∀ rec ∈ message.flows ++ message.options, rec.Sourced) (new trackSequence trackSampling).core run).mpr
    fun before datagram after _ => by
      have named := @invariant_stateAfter _ _ _ Core.step (fun core => core.templates.Named)
        (fun _ input held => (Core.step_sourced held input).1) _ start before
      exact (Core.step_sourced named datagram).2
  exact all _ returned message rfl

/-- Every name is an element's, the table's names keep the promise of their kinds, and every other value is bare. -/
theorem messages_follow_schema (trackSequence trackSampling : Bool) (run : List Datagram) {message : Message}
    (returned : .ok (some message) ∈ (new trackSequence trackSampling).results run) :
    ∀ rec ∈ message.flows ++ message.options, ∀ name value, rec.get? name = some value →
      Sourced name value ∧ (∀ entry ∈ ieTable, name = entry.2.1 → entry.2.2.Promises value) ∧
        ((∀ entry ∈ ieTable, name ≠ entry.2.1) → value.Bare ∧ ∃ element, name = "ie" ++ Nat.repr element ∨
          ∃ number, name = "e" ++ Nat.repr number ++ "." ++ Nat.repr element) := by
  intro rec member name value found
  have sourced := messages_sourced returned rec member name value found
  exact ⟨sourced, fun _ listed isName => sourced.promises listed isName, sourced.bare⟩

/-- An address, an enterprise-specific element and an address of the wrong width. -/
theorem messages_follow_schema_mixed :
    let message : Message := {
      header := ⟨10, none, 0, 0, 0, .obj 61⟩
      flows := [recordOf [("src_addr", .str "192.0.2.7"), ("e9.33", .int 258), ("dst_addr", .int 197121)]]
      options := []
      gap := 0
      samplingRate := 1 }
    ∀ rec ∈ message.flows ++ message.options, ∀ name value, rec.get? name = some value →
      Sourced name value ∧ (∀ entry ∈ ieTable, name = entry.2.1 → entry.2.2.Promises value) ∧
        ((∀ entry ∈ ieTable, name ≠ entry.2.1) → value.Bare ∧ ∃ element, name = "ie" ++ Nat.repr element ∨
          ∃ number, name = "e" ++ Nat.repr number ++ "." ++ Nat.repr element) := by
  intro message
  let template : Bytes := [0, 2, 0, 24, 1, 0, 0, 3, 0, 8, 0, 4, 128, 33, 0, 2, 0, 0, 0, 9, 0, 28, 0, 3]
  let run : List Datagram := [⟨[0, 10, 0, 53] ++ List.replicate 12 0 ++ template ++
    [1, 0, 0, 13, 192, 0, 2, 7, 1, 2, 3, 2, 1], .obj 61⟩]
  exact @messages_follow_schema true true run message (by decide +kernel)

end Decoder

end Netflume
