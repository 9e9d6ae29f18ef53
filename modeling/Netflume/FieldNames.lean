import Netflume.Flow
import Netflume.LearnedTemplates
import Netflume.RepeatedNames

/-! # Names keep fields apart

A field is named by the table, by its element ID, or by its enterprise and
element numbers.  The three forms never meet, and within each only the aliases of
the table share a name.  So a template free of aliases loses no field to its
names, neither in the records decoded through it nor in the dicts of their flows. -/

namespace Netflume

open Library

/-! ## The forms of a name -/

/-- The elements the table gives one name. -/
def aliasPairs : List (Nat × Nat) := [(8, 27), (12, 28), (9, 29), (13, 30), (15, 62), (176, 178), (177, 179)]

def Aliases (first second : Nat) : Prop := (first, second) ∈ aliasPairs ∨ (second, first) ∈ aliasPairs

instance (first second : Nat) : Decidable (Aliases first second) :=
  inferInstanceAs (Decidable ((first, second) ∈ aliasPairs ∨ (second, first) ∈ aliasPairs))

theorem Aliases.symm {first second : Nat} (aliases : Aliases first second) : Aliases second first :=
  Or.symm aliases

/-- Entries of the table that share a name are aliases. -/
def SameNameAliases (first second : Nat × String × Kind) : Prop :=
  first.2.1 = second.2.1 → first.1 = second.1 ∨ Aliases first.1 second.1

instance (first second : Nat × String × Kind) : Decidable (SameNameAliases first second) :=
  inferInstanceAs (Decidable (first.2.1 = second.2.1 → first.1 = second.1 ∨ Aliases first.1 second.1))

theorem ieTable_pairwise : ieTable.Pairwise SameNameAliases := by decide +kernel

theorem ieTable_sameName {first second : Nat × String × Kind} (isFirst : first ∈ ieTable) (isSecond : second ∈ ieTable)
    (same : first.2.1 = second.2.1) : first.1 = second.1 ∨ Aliases first.1 second.1 := by
  have turned : ieTable.Pairwise (flip SameNameAliases) :=
    ieTable_pairwise.imp fun related same => (related same.symm).imp Eq.symm Aliases.symm
  exact ieTable_pairwise.forall_of_forall_of_flip (fun _ _ _ => .inl rfl) turned isFirst isSecond same

/-- Neither of the generated forms: no full stop, and no `ie` to begin with.  Nor does an underscore begin it. -/
def tabular (name : List Char) : Bool :=
  name.all (fun char => char != '.') && !(['i', 'e'].isPrefixOf name) && name.head? != some '_'

theorem ieTable_tabular : ∀ entry ∈ ieTable, tabular entry.2.1.toList = true := by decide +kernel

/-- How a field gets its name. -/
inductive NameForm : Option Nat → Nat → String → Prop where
  | listed {name : String} (entry : Nat × String × Kind) (member : entry ∈ ieTable) (isName : name = entry.2.1) :
    NameForm none entry.1 name
  | numbered {name : String} (element : Nat) (isName : name = "ie" ++ Nat.repr element) : NameForm none element name
  | enterprise {name : String} (number element : Nat)
    (isName : name = "e" ++ Nat.repr number ++ "." ++ Nat.repr element) : NameForm (some number) element name

theorem fieldName_form (element : Nat) (enterprise : Option Nat) :
    NameForm enterprise element (fieldName element enterprise).1 := by
  cases enterprise with
  | some number => exact .enterprise number element rfl
  | none =>
    cases found : ieTable.lookup element with
    | none => exact .numbered element (by simp only [fieldName, found, Option.getD_none])
    | some value =>
      obtain ⟨before, after, split, _⟩ := List.lookup_eq_some_iff.mp found
      have member : (element, value) ∈ ieTable := split ▸ List.mem_append_right _ List.mem_cons_self
      exact .listed (element, value) member (by simp only [fieldName, found, Option.getD_some])

/-! ## Numbers in names -/

theorem repr_injective {first second : Nat} (same : Nat.repr first = Nat.repr second) : first = second := by
  have digits := congrArg (fun text => Nat.ofDigitChars 10 text.toList 0) same
  simpa using digits

theorem dot_not_mem_repr (number : Nat) : '.' ∉ (Nat.repr number).toList := not_mem_repr rfl number

theorem toList_numbered (element : Nat) : ("ie" ++ Nat.repr element).toList = 'i' :: 'e' :: (Nat.repr element).toList := by
  rw [String.toList_append]
  rfl

theorem toList_enterprise (number element : Nat) :
    ("e" ++ Nat.repr number ++ "." ++ Nat.repr element).toList =
      'e' :: ((Nat.repr number).toList ++ '.' :: (Nat.repr element).toList) := by
  simp only [String.toList_append, List.append_assoc]
  rfl

theorem numbered_not_tabular (element : Nat) : tabular ("ie" ++ Nat.repr element).toList = false := by
  rw [toList_numbered]
  simp [tabular, List.isPrefixOf]

theorem dot_not_mem_of_tabular {name : List Char} (plain : tabular name = true) : '.' ∉ name := by
  intro member
  simp only [tabular, Bool.and_eq_true, List.all_eq_true] at plain
  simpa using plain.1.1 '.' member

/-- Only the names of enterprise-specific fields have a full stop. -/
theorem NameForm.dot_mem_iff {enterprise : Option Nat} {element : Nat} {name : String}
    (form : NameForm enterprise element name) : '.' ∈ name.toList ↔ enterprise.isSome = true := by
  cases form with
  | listed entry member isName =>
    subst isName
    simpa using dot_not_mem_of_tabular (ieTable_tabular entry member)
  | numbered _ isName =>
    subst isName
    rw [toList_numbered]
    have digits := dot_not_mem_repr element
    simpa using digits
  | enterprise number _ isName =>
    subst isName
    rw [toList_enterprise]
    simp

/-- The first full stop ends the enterprise number. -/
theorem enterprise_injective {number element number' element' : Nat}
    (same : "e" ++ Nat.repr number ++ "." ++ Nat.repr element = "e" ++ Nat.repr number' ++ "." ++ Nat.repr element') :
    number = number' ∧ element = element' := by
  have chars := congrArg String.toList same
  rw [toList_enterprise, toList_enterprise, List.cons.injEq] at chars
  obtain ⟨numbers, _, elements⟩ :=
    (List.append_cons_inj_of_notMem (dot_not_mem_repr number') (dot_not_mem_repr element')).mp chars.2.symm
  exact ⟨(repr_injective (String.toList_inj.mp numbers)).symm, (repr_injective (String.toList_inj.mp elements)).symm⟩

/-! ## A name tells its field -/

theorem unaffiliated_determine {element other : Nat} {name : String} (isFirst : NameForm none element name)
    (isSecond : NameForm none other name) : element = other ∨ Aliases element other := by
  cases isFirst with
  | listed entry member isName =>
    subst isName
    cases isSecond with
    | listed another member' same => exact ieTable_sameName member member' same
    | numbered _ same =>
      have plain := ieTable_tabular entry member
      rw [same, numbered_not_tabular] at plain
      cases plain
  | numbered _ isName =>
    subst isName
    cases isSecond with
    | listed another member' same =>
      have plain := ieTable_tabular another member'
      rw [← same, numbered_not_tabular] at plain
      cases plain
    | numbered _ same => exact .inl (repr_injective ((String.append_right_inj _).mp same))

/-- One name for two fields makes them one, or aliases. -/
theorem names_determine {first second : Option Nat} {element other : Nat} {name : String}
    (isFirst : NameForm first element name) (isSecond : NameForm second other name) :
    (first, element) = (second, other) ∨ first = none ∧ second = none ∧ Aliases element other := by
  have dots := isFirst.dot_mem_iff.symm.trans isSecond.dot_mem_iff
  cases first with
  | none =>
    cases second with
    | none =>
      obtain rfl | aliases := unaffiliated_determine isFirst isSecond
      · exact .inl rfl
      · exact .inr ⟨rfl, rfl, aliases⟩
    | some _ => simp at dots
  | some number =>
    cases second with
    | none => simp at dots
    | some number' =>
      cases isFirst with
      | enterprise _ _ isName =>
        cases isSecond with
        | enterprise _ _ isName' =>
          obtain ⟨rfl, rfl⟩ := enterprise_injective (isName.symm.trans isName')
          exact .inl rfl

theorem NameForm.head {enterprise : Option Nat} {element : Nat} {name : String} (form : NameForm enterprise element name) :
    name.toList.head? ≠ some '_' := by
  cases form with
  | listed entry member isName =>
    subst isName
    have plain := ieTable_tabular entry member
    simp only [tabular, Bool.and_eq_true] at plain
    simpa using plain.2
  | numbered element isName =>
    subst isName
    rw [toList_numbered]
    simp
  | enterprise number element isName =>
    subst isName
    rw [toList_enterprise]
    simp

theorem metadataKeys_underscored : ∀ key ∈ metadataKeys, key.toList.head? = some '_' := by decide

theorem fieldName_not_metadata (element : Nat) (enterprise : Option Nat) :
    (fieldName element enterprise).1 ∉ metadataKeys :=
  fun member => (fieldName_form element enterprise).head (metadataKeys_underscored _ member)

/-! ## Templates without aliases -/

section Templates

variable {ipfix : Bool}

/-- The enterprise number and element ID of a specification. -/
def FieldSpec.identity : FieldSpec ipfix → Option Nat × Nat
  | .v9 element _ => (none, element.toNat)
  | .ipfix element _ enterprise => (enterprise.map UInt32.toNat, element.val)

theorem FieldSpec.field_name (spec : FieldSpec ipfix) :
    spec.field.name = (fieldName spec.identity.2 spec.identity.1).1 := by
  cases spec <;> rfl

/-- No pair of enterprise number and element ID occurs twice, and no two are aliases of the table. -/
structure Distinguished (specs : List (FieldSpec ipfix)) : Prop where
  once : (specs.map FieldSpec.identity).Nodup
  unaliased : ∀ pair ∈ aliasPairs,
    (none, pair.1) ∈ specs.map FieldSpec.identity → (none, pair.2) ∉ specs.map FieldSpec.identity

namespace Distinguished

variable {specs : List (FieldSpec ipfix)}

theorem not_aliases (distinguished : Distinguished specs) {element other : Nat}
    (isFirst : (none, element) ∈ specs.map FieldSpec.identity) (isSecond : (none, other) ∈ specs.map FieldSpec.identity) :
    ¬ Aliases element other := by
  intro aliases
  obtain listed | listed := aliases
  · exact distinguished.unaliased _ listed isFirst isSecond
  · exact distinguished.unaliased _ listed isSecond isFirst

theorem names_nodup (distinguished : Distinguished specs) : ((specs.map FieldSpec.field).map Field.name).Nodup := by
  have named : (specs.map FieldSpec.field).map Field.name =
      (specs.map FieldSpec.identity).map fun identity => (fieldName identity.2 identity.1).1 := by
    simp [FieldSpec.field_name]
  rw [named]
  apply distinguished.once.map_on
  intro first isFirst second isSecond same
  have forms := fieldName_form second.2 second.1
  rw [← same] at forms
  obtain equal | ⟨unaffiliated, unaffiliated', aliases⟩ := names_determine (fieldName_form first.2 first.1) forms
  · exact equal
  · obtain ⟨enterprise, element⟩ := first
    obtain ⟨enterprise', other⟩ := second
    subst unaffiliated unaffiliated'
    exact absurd aliases (distinguished.not_aliases isFirst isSecond)

end Distinguished

theorem name_not_metadata {specs : List (FieldSpec ipfix)} {field : Field} (member : field ∈ specs.map FieldSpec.field) :
    field.name ∉ metadataKeys := by
  obtain ⟨spec, _, rfl⟩ := List.mem_map.mp member
  rw [spec.field_name]
  exact fieldName_not_metadata _ _

end Templates

/-! ## Records and dicts under distinct names -/

/-- The entry a field makes of its bytes. -/
def decodedEntry (entry : Field × Bytes) : String × Value := (entry.1.name, decodeValue entry.2 entry.1.kind)

section Records

variable {ipfix : Bool} {fields : List Field}

theorem decodeFrom_setAll (record : RecordData ipfix fields) (rec : Rec) :
    record.decodeFrom false rec = rec.setAll (record.slices.map decodedEntry) := by
  induction record generalizing rec with
  | nil => rfl
  | cons data rest inductionHypothesis => exact inductionHypothesis _

theorem decodedEntries_keys (record : RecordData ipfix fields) :
    (record.slices.map decodedEntry).map Prod.fst = fields.map Field.name := by
  conv_rhs => rw [← record.slices_fields]
  simp [decodedEntry]

/-- Distinct names make one entry for each field, in template order. -/
theorem entries_decoded (record : RecordData ipfix fields) (distinct : (fields.map Field.name).Nodup) :
    record.decoded.entries = record.slices.map decodedEntry := by
  have single : repeatsName fields = false := by simpa [repeatsName] using distinct
  rw [RecordData.decoded, single, decodeFrom_setAll,
    OrderedDict.entries_setAll (by rw [decodedEntries_keys]; exact distinct) fun _ _ => rfl]
  rfl

end Records

theorem Flow.metadata_keys (flow : Flow) : flow.metadata.map Prod.fst = metadataKeys := rfl

/-- Beside the metadata a dict holds the record's entries, as they are. -/
theorem Flow.entries_asDict (text : Nat → Option String) (flow : Flow)
    (apart : ∀ entry ∈ flow.raw.entries, entry.1 ∉ metadataKeys) :
    (flow.asDict text true).entries =
      (flow.raw.entries.map fun entry => (entry.1, Plain.field entry.2)) ++ flow.metadata := by
  rw [asDict, if_pos rfl, OrderedDict.entries_setAll]
  · rfl
  · rw [metadata_keys]
    decide
  · intro entry member
    have isKey : entry.1 ∈ metadataKeys := by
      rw [← flow.metadata_keys]
      exact List.mem_map_of_mem member
    cases found : (flow.raw.mapValues fun value => Plain.jsonable text (.field value)).get? entry.1 with
    | none => rfl
    | some plain =>
      obtain ⟨held, isHeld, same⟩ := List.mem_map.mp (OrderedDict.get?_eq_some_iff.mp found)
      rw [Prod.mk.injEq] at same
      exact absurd (same.1 ▸ isKey) (apart held isHeld)

/-! ## Templates of a datagram -/

theorem slice_infix (data : Bytes) (lo hi : Nat) : slice data lo hi <:+: data :=
  (List.drop_suffix _ _).isInfix.trans (List.take_prefix _ _).isInfix

theorem Framed.content_infix {body : Bytes} {sets : List RawSet} (framed : Framed body sets) {set : RawSet}
    (member : set ∈ sets) : set.content <:+: body := by
  induction framed with
  | ends few => cases member
  | unframed id declared rest short => cases member
  | @whole first rest later behind inductionHypothesis =>
    obtain rfl | later := List.mem_cons.mp member
    · exact ⟨toBytes 2 first.id.toNat ++ toBytes 2 (4 + first.content.length), rest, by
        simp only [FramedSet.bytes, FramedSet.raw, List.append_assoc]⟩
    · exact (inductionHypothesis later).trans (List.suffix_append _ _).isInfix
  | cut id declared content overruns =>
    obtain rfl := List.mem_singleton.mp member
    exact ⟨toBytes 2 id.toNat ++ toBytes 2 declared.toNat, [], by simp⟩

/-- A template stored is the one a complete record of the datagram declares. -/
theorem record_of_put {data : Bytes} {exporter : Exporter} {store : TemplateStore} {stats : Stats} {key : TemplateKey}
    {fields : List Field} {options : Bool}
    (stored : StoreCall.put key fields options ∈ (runV9OrIpfix data exporter store stats).calls) :
    ∃ (declared : Declared (decide (num data 0 2 = 10))) (record : Bytes),
      CompleteRecord _ options declared record ∧ record <:+: data ∧
        fields = declared.specs.map FieldSpec.field := by
  obtain ⟨reads, _, ran⟩ := runV9OrIpfix_spec data exporter store stats
  rw [ran] at stored
  have isPut : StoreCall.put key fields options ∈ (applyMessage data exporter { store, stats }).2.puts :=
    List.mem_filter.mpr ⟨stored, rfl⟩
  cases read : messageHeader data exporter with
  | none =>
    rw [applyMessage_headerless read] at isPut
    cases isPut
  | some header =>
    obtain ⟨sets, framed⟩ := framed_exists (messageBody data)
    obtain ⟨learned, declare⟩ := allDeclare_exists (decide (num data 0 2 = 10)) sets
    rw [puts_applyMessage rfl read framed declare] at isPut
    obtain ⟨set, isSet, _, declared, before, record, after, inside, complete, _, isFields⟩ :=
      declared_of_put declare isPut
    have inBody : messageBody data <:+: data := by
      rw [messageBody]
      split <;> exact slice_infix _ _ _
    have inSet : record <:+: set.content := ⟨before, after, inside.symm⟩
    exact ⟨declared, record, complete, (inSet.trans (framed.content_infix isSet)).trans inBody, isFields⟩

/-- No field is dropped or merged by its name: the names are distinct and none is a metadata key, and a record decoded
through the template, by either version, has the entry of each field and no other, as has its dict beside the metadata. -/
structure KeepsFields (fields : List Field) : Prop where
  distinct : (fields.map Field.name).Nodup
  notMetadata : ∀ field ∈ fields, field.name ∉ metadataKeys
  entries : ∀ (data : Bytes) (off setEnd : Nat) (ipfix : Bool) (state : Traced Sink) (rec : Rec) (next : Nat),
    off ≤ setEnd → setEnd ≤ data.length →
    (parseDataRecord data setEnd ipfix (repeatsName fields) fields off .empty state).1 = .ok (some rec, next) →
      ∃ record : RecordData ipfix fields, slice data off next = record.bytes ∧
        record.slices.map Prod.fst = fields ∧ rec.entries = record.slices.map decodedEntry ∧
        ∀ (text : Nat → Option String) (flow : Flow), flow.raw = rec →
          (flow.asDict text true).entries =
            (rec.entries.map fun entry => (entry.1, Plain.field entry.2)) ++ flow.metadata ∧
          flow.metadata.map Prod.fst = metadataKeys

theorem Distinguished.keepsFields {ipfix : Bool} {specs : List (FieldSpec ipfix)} (distinguished : Distinguished specs) :
    KeepsFields (specs.map FieldSpec.field) where
  distinct := distinguished.names_nodup
  notMetadata _ member := name_not_metadata member
  entries data off setEnd ipfix state rec next below inside decoded := by
    obtain ⟨record, covered, isRecord⟩ := record_of_parse below inside decoded
    obtain rfl : rec = record.decoded := isRecord
    have entries := entries_decoded record distinguished.names_nodup
    refine ⟨record, covered, record.slices_fields, entries, fun text flow raw => ⟨?_, flow.metadata_keys⟩⟩
    rw [← raw] at entries ⊢
    apply flow.entries_asDict text
    intro entry member
    rw [entries] at member
    have isName : entry.1 ∈ (specs.map FieldSpec.field).map Field.name := by
      rw [← decodedEntries_keys record]
      exact List.mem_map_of_mem member
    obtain ⟨field, isField, same⟩ := List.mem_map.mp isName
    rw [← same]
    exact name_not_metadata isField

/-- A template read from a datagram keeps its fields, unless it specifies one twice or two aliases of one name. -/
theorem no_field_lost_by_naming (data : Bytes) (exporter : Exporter) (store : TemplateStore) (stats : Stats)
    (key : TemplateKey) (fields : List Field) (options : Bool)
    (stored : StoreCall.put key fields options ∈ (runV9OrIpfix data exporter store stats).calls) :
    ∃ (declared : Declared (decide (num data 0 2 = 10))) (bytes : Bytes),
      CompleteRecord _ options declared bytes ∧ bytes <:+: data ∧ fields = declared.specs.map FieldSpec.field ∧
        (Distinguished declared.specs → KeepsFields fields) := by
  obtain ⟨declared, bytes, complete, inside, rfl⟩ := record_of_put stored
  exact ⟨declared, bytes, complete, inside, rfl, Distinguished.keepsFields⟩

/-- An address, an enterprise-specific element and one the table does not list. -/
theorem no_field_lost_by_naming_mixed :
    let data : Bytes := [0, 10, 0, 40] ++ List.replicate 12 0 ++
      [0, 2, 0, 24, 1, 0, 0, 3, 0, 8, 0, 4, 128, 33, 0, 2, 0, 0, 0, 9, 39, 15, 0, 2]
    let fields : List Field := [⟨"src_addr", .ipv4, 4⟩, ⟨"e9.33", .auto, 2⟩, ⟨"ie9999", .auto, 2⟩]
    ∃ (declared : Declared (decide (num data 0 2 = 10))) (bytes : Bytes),
      CompleteRecord _ false declared bytes ∧ bytes <:+: data ∧ fields = declared.specs.map FieldSpec.field ∧
        (Distinguished declared.specs → KeepsFields fields) :=
  no_field_lost_by_naming _ (.obj 1) (TemplateStore.new 10 10) {} ⟨.obj 1, 0, 256⟩ _ false (by decide +kernel)

example : @Distinguished true [.ipfix 8 4 none, .ipfix 33 2 (some 9), .ipfix 9999 2 none] := ⟨by decide, by decide⟩

end Netflume
