import Netflume.RoundTrip

/-! # The records of a data set tile its front

What the parser takes for a record is a record of the template, prefix and field
by field, and it stops only where no complete one that takes up space begins.
The guard by the minimum length agrees with the bounds of the single reads.  What
a record holds under a name is settled by the fields of that name. -/

namespace Netflume

open Library

/-! ## Fields and records back from their bytes -/

section Tiling

variable {ipfix : Bool}

/-- The field read at the front is there, with the prefix it carries. -/
theorem wireField_data {field : Field} {bytes raw rest : Bytes}
    (read : wireField ipfix field.length bytes = some (raw, rest)) :
    ∃ data : FieldData ipfix field, data.raw = raw ∧ bytes = data.bytes ++ rest := by
  rw [wireField] at read
  split at read
  · rename_i varying
    split at read
    · cases read
    · split at read
      · rename_i marker
        split at read
        · cases read
        · split at read
          · cases read
          · cases read
            have width : (slice bytes 3 (3 + num bytes 1 2)).length = num bytes 1 2 := by
              rw [length_slice 3 (by omega), Nat.add_sub_cancel_left]
            have small : num bytes 1 2 < 65536 := num_lt bytes _ _
            refine ⟨⟨slice bytes 3 (3 + num bytes 1 2), true, by simp [varying, width, small]⟩, rfl, ?_⟩
            have first : toBytes 1 255 = slice bytes 0 1 := by
              rw [← marker]
              exact toBytes_num (by omega)
            have second : toBytes 2 (num bytes 1 2) = slice bytes 1 3 := toBytes_num (by omega)
            rw [FieldData.bytes, if_pos varying, if_pos rfl]
            dsimp only
            rw [width, first, second, ← List.append_assoc, slice_split bytes (by omega) (by omega),
              slice_split bytes (by omega) (by omega)]
            exact (List.take_append_drop _ _).symm
      · rename_i marker
        split at read
        · cases read
        · cases read
          have width : (slice bytes 1 (1 + num bytes 0 1)).length = num bytes 0 1 := by
            rw [length_slice 1 (by omega), Nat.add_sub_cancel_left]
          have small : num bytes 0 1 < 256 := num_lt bytes _ _
          have short : num bytes 0 1 < 255 := by omega
          refine ⟨⟨slice bytes 1 (1 + num bytes 0 1), false, by simp [varying, width, short]⟩, rfl, ?_⟩
          have first : toBytes 1 (num bytes 0 1) = slice bytes 0 1 := toBytes_num (by omega)
          rw [FieldData.bytes, if_pos varying, if_neg Bool.false_ne_true]
          dsimp only
          rw [width, first, slice_split bytes (by omega) (by omega)]
          exact (List.take_append_drop _ _).symm
  · rename_i fixed
    split at read
    · cases read
    · cases read
      have width : (bytes.take field.length).length = field.length := List.length_take_of_le (by omega)
      refine ⟨⟨bytes.take field.length, false, by rw [if_neg fixed]; exact width⟩, rfl, ?_⟩
      rw [FieldData.bytes, if_neg fixed]
      exact (List.take_append_drop _ _).symm

/-- The record read at the front is there, field by field in template order. -/
theorem wireRecord_data {dedupe : Bool} {fields : List Field} {start rec : Rec} {bytes rest : Bytes}
    (read : wireRecord ipfix dedupe fields start bytes = some (rec, rest)) :
    ∃ record : RecordData ipfix fields, bytes = record.bytes ++ rest ∧ rec = record.decodeFrom dedupe start := by
  induction fields generalizing start bytes with
  | nil =>
    cases read
    exact ⟨.nil, rfl, rfl⟩
  | cons field fields inductionHypothesis =>
    simp only [wireRecord] at read
    cases fieldRead : wireField ipfix field.length bytes with
    | none => simp [fieldRead] at read
    | some result =>
      obtain ⟨raw, behind⟩ := result
      simp only [fieldRead] at read
      obtain ⟨data, rfl, rfl⟩ := wireField_data fieldRead
      obtain ⟨record, rfl, rfl⟩ := inductionHypothesis read
      exact ⟨.cons data record, (List.append_assoc _ _ _).symm, rfl⟩

/-- No complete record that takes up space begins here. -/
def Exhausted (ipfix : Bool) (fields : List Field) (bytes : Bytes) : Prop :=
  ∀ (record : RecordData ipfix fields) (rest : Bytes), bytes = record.bytes ++ rest → record.bytes = []

/-- A record that takes up space is no shorter than the guard allows. -/
theorem recordMinLength_le_of_bytes {fields : List Field} {record : RecordData ipfix fields}
    (occupied : record.bytes ≠ []) : recordMinLength fields ≤ record.bytes.length := by
  have positive := List.length_pos_of_ne_nil occupied
  have least := minimum_le_length record
  rw [recordMinLength]
  omega

/-- The records of a data set, each taking up space, one behind the other from its first byte on. -/
theorem wireRecords_tile (ipfix : Bool) (fields : List Field) (bytes : Bytes) :
    ∃ (records : List (RecordData ipfix fields)) (remainder : Bytes),
      bytes = records.flatMap RecordData.bytes ++ remainder ∧ (∀ record ∈ records, record.bytes ≠ []) ∧
        wireRecords ipfix fields bytes = records.map RecordData.decoded ∧ Exhausted ipfix fields remainder := by
  fun_induction wireRecords ipfix fields bytes with
  | case1 bytes short =>
    refine ⟨[], bytes, rfl, by simp, rfl, ?_⟩
    rintro record rest rfl
    by_contra occupied
    have least := recordMinLength_le_of_bytes occupied
    rw [List.length_append] at short
    omega
  | case2 bytes long unread =>
    refine ⟨[], bytes, rfl, by simp, rfl, ?_⟩
    rintro record rest rfl
    rw [wireRecord_bytes] at unread
    cases unread
  | case3 bytes long rec rest read shorter inductionHypothesis =>
    obtain ⟨record, rfl, rfl⟩ := wireRecord_data read
    obtain ⟨records, remainder, rfl, occupied, decoded, exhausted⟩ := inductionHypothesis
    have takesUp : record.bytes ≠ [] := by
      intro empty
      simp [empty] at shorter
    refine ⟨record :: records, remainder, by simp, List.forall_mem_cons.mpr ⟨takesUp, occupied⟩, ?_, exhausted⟩
    rw [decoded]
    rfl
  | case4 bytes long rec rest read stuck =>
    refine ⟨[], bytes, rfl, by simp, rfl, ?_⟩
    rintro record behind rfl
    rw [wireRecord_bytes] at read
    cases read
    rw [List.length_append] at stuck
    exact List.eq_nil_of_length_eq_zero (by omega)

/-- The fields of a record and their bytes, in template order. -/
def RecordData.slices {fields : List Field} : RecordData ipfix fields → List (Field × Bytes)
  | nil => []
  | @cons _ field _ data rest => (field, data.raw) :: rest.slices

theorem RecordData.slices_fields {fields : List Field} (record : RecordData ipfix fields) :
    record.slices.map Prod.fst = fields := by
  induction record with
  | nil => rfl
  | cons data rest inductionHypothesis => rw [slices, List.map_cons, inductionHypothesis]

end Tiling

/-! ## The value that settles a name -/

/-- The last populated value, or the first of all when none is. -/
def settled (values : List Value) : Option Value :=
  (values.filter fun value => !value.unspecified).getLast?.or values.head?

theorem mem_of_settled {values : List Value} {value : Value} (settles : settled values = some value) :
    value ∈ values := by
  rw [settled, Option.or_eq_some_iff] at settles
  obtain last | ⟨_, first⟩ := settles
  · exact (List.mem_filter.mp (List.mem_of_getLast? last)).1
  · exact List.mem_of_head? first

theorem settled_isSome {values : List Value} (some : values ≠ []) : (settled values).isSome = true := by
  obtain ⟨first, rest, rfl⟩ := List.exists_cons_of_ne_nil some
  rw [settled, Option.isSome_or]
  simp

/-- One more value: a populated one settles the name, an unspecified one only if it is the first. -/
theorem settled_snoc (values : List Value) (value : Value) :
    settled (values ++ [value]) =
      if value.unspecified && (settled values).isSome then settled values else some value := by
  cases populated : value.unspecified with
  | false => simp [settled, List.filter_append, populated]
  | true =>
    cases values with
    | nil => simp [settled, populated]
    | cons first rest =>
      rw [settled_isSome (List.cons_ne_nil first rest)]
      simp [settled, populated]

/-! ## The fold over a record -/

/-- What the fields of a name decode to, in template order. -/
def valuesNamed (name : String) (slices : List (Field × Bytes)) : List Value :=
  (slices.filter fun entry => entry.1.name = name).map fun entry => decodeValue entry.2 entry.1.kind

theorem get?_assign (rec : Rec) (name other : String) (value : Value) :
    (rec.assign true name value).get? other =
      if other = name then if value.unspecified && (rec.get? name).isSome then rec.get? name else some value
      else rec.get? other := by
  rw [Rec.assign, OrderedDict.contains, Bool.true_and]
  by_cases same : other = name
  · subst same
    rw [if_pos rfl]
    split
    · rfl
    · rw [OrderedDict.get?_set, if_pos rfl]
  · rw [if_neg same]
    split
    · rfl
    · rw [OrderedDict.get?_set, if_neg same]

section Folding

variable {ipfix : Bool} {fields : List Field}

/-- From a record in which the values `before` have settled the name. -/
theorem get?_decodeFrom (record : RecordData ipfix fields) {rec : Rec} {name : String} {before : List Value}
    (held : rec.get? name = settled before) :
    (record.decodeFrom true rec).get? name = settled (before ++ valuesNamed name record.slices) := by
  induction record generalizing rec before with
  | nil =>
    rw [RecordData.decodeFrom]
    simpa [valuesNamed, RecordData.slices] using held
  | @cons field fields data rest inductionHypothesis =>
    have assigned := get?_assign rec field.name name (decodeValue data.raw field.kind)
    rw [RecordData.decodeFrom]
    by_cases same : field.name = name
    · subst same
      rw [if_pos rfl, held, ← settled_snoc] at assigned
      rw [inductionHypothesis assigned]
      simp [valuesNamed, RecordData.slices]
    · rw [if_neg (Ne.symm same), held] at assigned
      rw [inductionHypothesis assigned]
      simp [valuesNamed, RecordData.slices, same]

theorem assign_of_absent {rec : Rec} {name : String} (absent : rec.get? name = none) (value : Value) :
    rec.assign true name value = rec.assign false name value := by
  simp [Rec.assign, OrderedDict.contains, absent]

/-- Assigning one name leaves the others absent. -/
theorem absent_assign {rec : Rec} {field : Field} (distinct : ((field :: fields).map Field.name).Nodup)
    (absent : ∀ other ∈ field :: fields, rec.get? other.name = none) (value : Value) :
    ∀ other ∈ fields, (rec.assign false field.name value).get? other.name = none := by
  intro other member
  have fresh := (List.nodup_cons.mp distinct).1
  have different : other.name ≠ field.name := by
    intro same
    exact fresh (same ▸ List.mem_map_of_mem member)
  simp only [Rec.assign, Bool.false_and, Bool.false_eq_true, if_false]
  rw [OrderedDict.get?_set, if_neg different]
  exact absent other (List.mem_cons_of_mem _ member)

theorem decodeFrom_distinct (record : RecordData ipfix fields) (distinct : (fields.map Field.name).Nodup) {rec : Rec}
    (absent : ∀ field ∈ fields, rec.get? field.name = none) :
    record.decodeFrom true rec = record.decodeFrom false rec := by
  induction record generalizing rec with
  | nil => rfl
  | @cons field fields data rest inductionHypothesis =>
    rw [RecordData.decodeFrom, RecordData.decodeFrom, assign_of_absent (absent field List.mem_cons_self)]
    exact inductionHypothesis (List.nodup_cons.mp distinct).2 (absent_assign distinct absent _)

/-- Whether names repeat or not, the value of each is settled by its fields. -/
theorem get?_decoded (record : RecordData ipfix fields) (name : String) :
    record.decoded.get? name = settled (valuesNamed name record.slices) := by
  have deduped : (record.decodeFrom true .empty).get? name = settled (valuesNamed name record.slices) :=
    @get?_decodeFrom _ _ record .empty name [] rfl
  rw [RecordData.decoded]
  cases repeats : repeatsName fields with
  | true => exact deduped
  | false =>
    have distinct : (fields.map Field.name).Nodup := by simpa [repeatsName] using repeats
    rw [← decodeFrom_distinct record distinct fun _ _ => rfl]
    exact deduped

end Folding

/-! ## What a data set appends -/

theorem appendAll_lists (isOptions : Bool) (records : List Rec) (sink : Sink) :
    (appendAll isOptions sink records).records = sink.records ++ (if isOptions then [] else records) ∧
      (appendAll isOptions sink records).options = sink.options ++ if isOptions then records else [] := by
  induction records generalizing sink with
  | nil => cases isOptions <;> exact ⟨(List.append_nil _).symm, (List.append_nil _).symm⟩
  | cons rec records inductionHypothesis =>
    obtain ⟨flows, options⟩ := inductionHypothesis (sink.append isOptions rec)
    cases isOptions with
    | true => exact ⟨flows, options.trans (List.append_assoc _ _ _)⟩
    | false => exact ⟨flows.trans (List.append_assoc _ _ _), options⟩

theorem wireRecords_of_no_fields (ipfix : Bool) (content : Bytes) : wireRecords ipfix [] content = [] := by
  rw [wireRecords]
  simp [wireRecord]

/-- A data set appends its records to the list its template's kind selects. -/
theorem applyData_lists (ipfix : Bool) (content : Bytes) {key : TemplateKey} {sink : Sink} {template : Template}
    (held : sink.store.templates.get? key = some template) :
    let after := applyData ipfix content (sink.get key).1 (sink.get key).2
    let decoded := wireRecords ipfix template.fields content
    after.records = sink.records ++ (if template.options then [] else decoded) ∧
      after.options = sink.options ++ if template.options then decoded else [] := by
  have answer : (sink.get key).1 = (some template.fields, template.options) := by
    simp only [Sink.get, TemplateStore.get, held]
  intro after decoded
  have lists := appendAll_lists template.options decoded (sink.get key).2
  cases fields : template.fields with
  | nil =>
    have nothing : decoded = [] := by
      show wireRecords ipfix template.fields content = []
      rw [fields, wireRecords_of_no_fields]
    have same : after = (sink.get key).2.deferred := by
      show applyData ipfix content (sink.get key).1 (sink.get key).2 = _
      rw [answer, fields]
      rfl
    rw [nothing, ite_self, same]
    exact ⟨(List.append_nil _).symm, (List.append_nil _).symm⟩
  | cons field rest =>
    have same : after = appendAll template.options (sink.get key).2 decoded := by
      show applyData ipfix content (sink.get key).1 (sink.get key).2 = appendAll _ _ (wireRecords _ _ _)
      rw [answer, fields]
      rfl
    rw [same]
    exact lists

/-- The records of a data set are the greedy tiling of its body by records of the template held for its ID. -/
theorem data_set_tiled (data : Bytes) (exporter : Exporter) (domain : Nat) (ipfix : Bool) (setId body setEnd : Nat)
    (state : Traced Sink) (template : Template) (isData : 256 ≤ setId) (below : body ≤ setEnd)
    (inside : setEnd ≤ data.length)
    (held : state.out.store.templates.get? ⟨exporter, domain, setId⟩ = some template) :
    ∃ (records : List (RecordData ipfix template.fields)) (remainder : Bytes) (reads : List Read) (sink : Sink),
      decodeSet data exporter domain ipfix setId body setEnd state = (.ok (), ⟨sink, state.reads ++ reads⟩) ∧
        slice data body setEnd = records.flatMap RecordData.bytes ++ remainder ∧
        (∀ record ∈ records, record.bytes ≠ []) ∧ Exhausted ipfix template.fields remainder ∧
        sink.records = state.out.records ++ (if template.options then [] else records.map RecordData.decoded) ∧
        sink.options = state.out.options ++ (if template.options then records.map RecordData.decoded else []) ∧
        ∀ record ∈ records, record.slices.map Prod.fst = template.fields ∧
          (∀ name value, record.decoded.get? name = some value →
            ∃ entry ∈ record.slices, entry.1.name = name ∧ value = decodeValue entry.2 entry.1.kind) ∧
          ∀ name, record.decoded.get? name = settled (valuesNamed name record.slices) := by
  obtain ⟨reads, ran, _⟩ := decodeSet_runs exporter domain ipfix inside setId body below state
  obtain ⟨records, remainder, split, occupied, decoded, exhausted⟩ :=
    wireRecords_tile ipfix template.fields (slice data body setEnd)
  have fewTemplates : templateSetId ipfix < 256 := by cases ipfix <;> decide
  have fewOptions : optionsSetId ipfix < 256 := by cases ipfix <;> decide
  simp only [applyContent, if_neg (show setId ≠ templateSetId ipfix by omega),
    if_neg (show setId ≠ optionsSetId ipfix by omega), if_pos isData] at ran
  obtain ⟨flows, options⟩ := applyData_lists ipfix (slice data body setEnd) held
  rw [decoded] at flows options
  refine ⟨records, remainder, reads, _, ran, split, occupied, exhausted, flows, options, fun record _ => ?_⟩
  refine ⟨record.slices_fields, fun name value found => ?_, get?_decoded record⟩
  rw [get?_decoded record] at found
  obtain ⟨entry, member, decoded⟩ := List.mem_map.mp (mem_of_settled found)
  obtain ⟨isSlice, named⟩ := List.mem_filter.mp member
  exact ⟨entry, isSlice, by simpa using named, decoded.symm⟩

/-- Two records, the text of the first behind one byte of length and of the second behind three, and a byte of
padding. -/
theorem data_set_tiled_with_prefixes :
    let data : Bytes := [0, 80, 2, 65, 66, 0, 81, 255, 0, 1, 67, 0]
    let template : Template := ⟨[⟨"src_port", .uint, 2⟩, ⟨"if_name", .string, 65535⟩], false⟩
    let store : TemplateStore := { TemplateStore.new 10 10 with
      templates := OrderedDict.empty.place ⟨.obj 1, 0, 300⟩ template }
    let state : Traced Sink := ⟨{ store, stats := {} }, []⟩
    ∃ (records : List (RecordData true template.fields)) (remainder : Bytes) (reads : List Read) (sink : Sink),
      decodeSet data (.obj 1) 0 true 300 0 12 state = (.ok (), ⟨sink, state.reads ++ reads⟩) ∧
        slice data 0 12 = records.flatMap RecordData.bytes ++ remainder ∧
        (∀ record ∈ records, record.bytes ≠ []) ∧ Exhausted true template.fields remainder ∧
        sink.records = state.out.records ++ (if template.options then [] else records.map RecordData.decoded) ∧
        sink.options = state.out.options ++ (if template.options then records.map RecordData.decoded else []) ∧
        ∀ record ∈ records, record.slices.map Prod.fst = template.fields ∧
          (∀ name value, record.decoded.get? name = some value →
            ∃ entry ∈ record.slices, entry.1.name = name ∧ value = decodeValue entry.2 entry.1.kind) ∧
          ∀ name, record.decoded.get? name = settled (valuesNamed name record.slices) :=
  data_set_tiled _ (.obj 1) 0 true 300 0 12 _ _ (by decide) (by decide) (by decide) rfl

end Netflume
