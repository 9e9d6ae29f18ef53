import Mathlib.Algebra.Order.BigOperators.Group.List
import Netflume.Repacketisation
import Netflume.TemplateGrammar

/-! # Decode undoes encode

Templates, records and sets read back one by one; a message of them delivers the
records of its data sets and leaves the store its template sets describe. -/

namespace Netflume

open Library

/-! ## Template sets -/

section Templates

variable {ipfix : Bool}

theorem FieldSpec.four_le_length (spec : FieldSpec ipfix) : 4 ≤ spec.bytes.length := by
  cases spec with
  | v9 element length => simp [FieldSpec.bytes]
  | ipfix element length enterprise =>
    cases enterprise with
    | none => simp [FieldSpec.bytes]
    | some number => simp [FieldSpec.bytes]

theorem specs_length_le (specs : List (FieldSpec ipfix)) :
    4 * specs.length ≤ (specs.flatMap FieldSpec.bytes).length := by
  induction specs with
  | nil => simp
  | cons spec specs inductionHypothesis =>
    have first := spec.four_le_length
    simp only [List.length_cons, List.flatMap_cons, List.length_append]
    omega

theorem length_le_flatMap {α : Type} {item : α} {items : List α} (encode : α → Bytes) (member : item ∈ items) :
    (encode item).length ≤ (items.flatMap encode).length :=
  (List.sublist_flatten_of_mem (List.mem_map_of_mem member)).length_le

/-- The record of a template is complete when its header can count the specifications. -/
theorem TemplateDef.complete (template : TemplateDef ipfix) (counted : template.specs.length < 65536) :
    CompleteRecord ipfix false ⟨template.id, template.specs⟩ template.bytes :=
  .template template.id template.specs template.nonempty counted

theorem OptionsDef.complete (template : OptionsDef ipfix)
    (counted : 4 * (template.scopes.length + template.options.length) < 65536) :
    CompleteRecord ipfix true ⟨template.id, template.scopes ++ template.options⟩ template.bytes := by
  cases ipfix with
  | true =>
    have few : template.scopes.length < 65536 := by omega
    have scopeCount : (UInt16.ofNatLT template.scopes.length few).toNat = template.scopes.length :=
      UInt16.toNat_ofNatLT
    have complete := CompleteRecord.ipfixOptions template.id (.ofNatLT template.scopes.length few) _
      template.nonempty (by rw [List.length_append]; omega)
    rw [scopeCount, List.length_append] at complete
    exact complete
  | false =>
    have fewScopes : 4 * template.scopes.length < 65536 := by omega
    have fewOptions : 4 * template.options.length < 65536 := by omega
    have scopeLen : (UInt16.ofNatLT (4 * template.scopes.length) fewScopes).toNat = 4 * template.scopes.length :=
      UInt16.toNat_ofNatLT
    have optLen : (UInt16.ofNatLT (4 * template.options.length) fewOptions).toNat = 4 * template.options.length :=
      UInt16.toNat_ofNatLT
    have complete := CompleteRecord.v9Options template.id _ _ _ _ scopeLen optLen template.nonempty
    rw [scopeLen, optLen] at complete
    exact complete

theorem wireTemplates_bytes (defs : List (TemplateDef ipfix)) {padding : Bytes} (short : padding.length < 4)
    (counts : ∀ template ∈ defs, template.specs.length < 65536) :
    wireTemplates ipfix (defs.flatMap TemplateDef.bytes ++ padding) =
      defs.map fun template => (template.id.toNat, template.fields) := by
  have read := wireDeclared_of_declares
    (declares_flatMap (fun template member => TemplateDef.complete template (counts template member)) short)
  rwa [List.map_map] at read

theorem wireOptions_bytes (defs : List (OptionsDef ipfix)) {padding : Bytes} (short : padding.length < 6)
    (counts : ∀ template ∈ defs, 4 * (template.scopes.length + template.options.length) < 65536) :
    wireOptions ipfix (defs.flatMap OptionsDef.bytes ++ padding) =
      defs.map fun template => (template.id.toNat, template.fields) := by
  have read := wireDeclared_of_declares
    (declares_flatMap (fun template member => OptionsDef.complete template (counts template member)) short)
  rwa [List.map_map] at read

end Templates

/-! ## Data sets -/

section Records

variable {ipfix : Bool}

theorem wireField_bytes {field : Field} (data : FieldData ipfix field) (rest : Bytes) :
    wireField ipfix field.length (data.bytes ++ rest) = some (data.raw, rest) := by
  have fits := data.fits
  rw [FieldData.bytes, wireField]
  by_cases varying : ipfix = true ∧ field.length = variableLength
  · rw [if_pos varying] at fits
    simp only [if_pos varying]
    cases form : data.long with
    | true =>
      have lengthWord : data.raw.length < 256 ^ 2 := by simpa [form] using fits
      simp only [if_true, List.append_assoc]
      generalize whole : toBytes 1 255 ++ (toBytes 2 data.raw.length ++ (data.raw ++ rest)) = bytes
      have length : bytes.length = 3 + (data.raw.length + rest.length) := by
        rw [← whole]
        simp only [List.length_append, length_toBytes]
        omega
      have marker : num bytes 0 1 = 255 := by rw [← whole, num_front (by decide)]
      have width : num bytes 1 2 = data.raw.length := by simp [← whole, num_behind, num_front lengthWord]
      have content : bytes.drop 3 = data.raw ++ rest := by simp [← whole, drop_behind]
      rw [if_neg (by omega), if_pos marker, if_neg (by omega), width, if_neg (by omega), ← List.drop_drop, slice,
        List.drop_take, content, Nat.add_sub_cancel_left, List.take_left, List.drop_left]
    | false =>
      have lengthByte : data.raw.length < 255 := by simpa [form] using fits
      simp only [Bool.false_eq_true, if_false, List.append_assoc]
      generalize whole : toBytes 1 data.raw.length ++ (data.raw ++ rest) = bytes
      have length : bytes.length = 1 + (data.raw.length + rest.length) := by
        rw [← whole]
        simp only [List.length_append, length_toBytes]
      have width : num bytes 0 1 = data.raw.length := by rw [← whole, num_front (by omega)]
      have content : bytes.drop 1 = data.raw ++ rest := by rw [← whole, List.drop_left' (by simp)]
      rw [if_neg (by omega), width, if_neg (by omega), if_neg (by omega), ← List.drop_drop, slice,
        List.drop_take, content, Nat.add_sub_cancel_left, List.take_left, List.drop_left]
  · rw [if_neg varying] at fits
    simp only [if_neg varying]
    rw [if_neg (by rw [List.length_append]; omega), ← fits, List.take_left, List.drop_left]

theorem wireRecord_bytes (dedupe : Bool) {fields : List Field} (record : RecordData ipfix fields) (start : Rec)
    (rest : Bytes) :
    wireRecord ipfix dedupe fields start (record.bytes ++ rest) = some (record.decodeFrom dedupe start, rest) := by
  induction record generalizing start with
  | nil => rfl
  | cons data record inductionHypothesis =>
    simp only [RecordData.bytes, wireRecord, List.append_assoc, wireField_bytes]
    exact inductionHypothesis _

/-- The bytes a field costs at least, and hence a record. -/
theorem minimum_le_length {fields : List Field} (record : RecordData ipfix fields) :
    (fields.map fun field => if field.length = variableLength then 1 else field.length).sum ≤ record.bytes.length := by
  induction record with
  | nil => simp
  | @cons field fields data record inductionHypothesis =>
    have first : (if field.length = variableLength then 1 else field.length) ≤ data.bytes.length := by
      have fits := data.fits
      rw [FieldData.bytes]
      by_cases varying : ipfix = true ∧ field.length = variableLength
      · rw [if_pos varying, if_pos varying.2]
        split <;> simp
      · rw [if_neg varying] at fits ⊢
        split
        · rename_i declared
          rw [fits, declared]
          decide
        · exact Nat.le_of_eq fits.symm
    rw [List.map_cons, List.sum_cons, RecordData.bytes, List.length_append]
    omega

/-- A template with a field of non-zero length: its records take up space. -/
def Occupied (fields : List Field) : Prop := ∃ field ∈ fields, field.length ≠ 0

theorem recordMinLength_le {fields : List Field} (occupied : Occupied fields) (record : RecordData ipfix fields) :
    recordMinLength fields ≤ record.bytes.length := by
  obtain ⟨field, member, nonzero⟩ := occupied
  have positive : 0 < if field.length = variableLength then 1 else field.length := by
    split <;> omega
  have counted := List.le_sum_of_mem
    (List.mem_map_of_mem (f := fun field : Field => if field.length = variableLength then 1 else field.length) member)
  have bounded := minimum_le_length record
  rw [recordMinLength]
  omega

/-- Every record takes up space, so the parser never stops for want of progress. -/
theorem wireRecords_bytes {fields : List Field} (occupied : Occupied fields)
    (records : List (RecordData ipfix fields)) {padding : Bytes} (short : padding.length < recordMinLength fields) :
    wireRecords ipfix fields (records.flatMap RecordData.bytes ++ padding) = records.map RecordData.decoded := by
  induction records with
  | nil =>
    rw [wireRecords, List.flatMap_nil, List.nil_append, if_pos short]
    rfl
  | cons record records inductionHypothesis =>
    have enough := recordMinLength_le occupied record
    have positive : 0 < recordMinLength fields := by
      rw [recordMinLength]
      omega
    have length : (record.bytes ++ (records.flatMap RecordData.bytes ++ padding)).length =
        record.bytes.length + (records.flatMap RecordData.bytes ++ padding).length := List.length_append
    rw [List.flatMap_cons, List.append_assoc, wireRecords, if_neg (by omega), wireRecord_bytes]
    simp only
    rw [if_pos (by omega), inductionHypothesis, List.map_cons, RecordData.decoded]

end Records

/-! ## What a message delivers -/

/-- What a message has delivered so far: the store as its templates leave it, how many
of them were new or changed, and the records decoded against it. -/
structure Delivery where
  store : TemplateStore
  learned : Nat
  records : List Rec
  options : List Rec

namespace Delivery

def put (delivery : Delivery) (key : TemplateKey) (fields : List Field) (options : Bool) : Delivery :=
  { delivery with
    store := (delivery.store.put key fields options).2
    learned := delivery.learned + if (delivery.store.put key fields options).1 then 1 else 0 }

/-- Records of a template of one kind or the other. -/
def add (delivery : Delivery) (isOptions : Bool) (records : List Rec) : Delivery :=
  if isOptions then { delivery with options := delivery.options ++ records }
  else { delivery with records := delivery.records ++ records }

end Delivery

section Deliver

variable (exporter : Exporter) (domain : Nat) {ipfix : Bool}

def SetBody.deliver (delivery : Delivery) : SetBody ipfix → Delivery
  | .templates defs _ _ => defs.foldl
      (fun delivery template => delivery.put ⟨exporter, domain, template.id.toNat⟩ template.fields false) delivery
  | .optionsTemplates defs _ _ => defs.foldl
      (fun delivery template => delivery.put ⟨exporter, domain, template.id.toNat⟩ template.fields true) delivery
  | .data id _ _ records _ _ =>
    let held := delivery.store.get ⟨exporter, domain, id.toNat⟩
    { delivery with store := held.2 }.add held.1.2 (records.map RecordData.decoded)

/-- A data set is laid out as the template in force for its ID, and its records take up space. -/
def SetBody.InForce (store : TemplateStore) : SetBody ipfix → Prop
  | .data id _ layout _ _ _ =>
    (store.templates.get? ⟨exporter, domain, id.toNat⟩).map Template.fields = some layout ∧ Occupied layout
  | _ => True

def deliverAll (delivery : Delivery) (sets : List (WireSet ipfix)) : Delivery :=
  sets.foldl (fun delivery set => set.body.deliver exporter domain delivery) delivery

/-- Each data set finds its template in force where it stands in the message. -/
def AllInForce : Delivery → List (WireSet ipfix) → Prop
  | _, [] => True
  | delivery, set :: sets =>
    set.body.InForce exporter domain delivery.store ∧ AllInForce (set.body.deliver exporter domain delivery) sets

/-- The sink of a parse that has delivered so much, having found the counters at `stats`. -/
structure Delivers (stats : Stats) (delivery : Delivery) (sink : Sink) : Prop where
  store : sink.store = delivery.store
  stats : sink.stats = { stats with templatesNew := stats.templatesNew + delivery.learned }
  records : sink.records = delivery.records
  options : sink.options = delivery.options

variable {stats : Stats} {delivery : Delivery} {sink : Sink}

theorem Delivers.put (delivers : Delivers stats delivery sink) (key : TemplateKey) (fields : List Field)
    (options : Bool) : Delivers stats (delivery.put key fields options) (sink.put key fields options) := by
  obtain ⟨store, counters, records, opts⟩ := delivers
  refine ⟨?_, ?_, records, opts⟩
  · simp only [Sink.put, Delivery.put, store]
  · simp only [Sink.put, Delivery.put, store, counters]
    split <;> simp [Nat.add_assoc]

theorem Delivers.putAll (delivers : Delivers stats delivery sink) (options : Bool)
    (templates : List (Nat × List Field)) :
    Delivers stats
      (templates.foldl (fun delivery template => delivery.put ⟨exporter, domain, template.1⟩ template.2 options)
        delivery)
      (putAll exporter domain options sink templates) := by
  induction templates generalizing delivery sink with
  | nil => exact delivers
  | cons template templates inductionHypothesis => exact inductionHypothesis (delivers.put _ _ _)

theorem Delivers.get (delivers : Delivers stats delivery sink) (key : TemplateKey) :
    Delivers stats { delivery with store := (delivery.store.get key).2 } (sink.get key).2 := by
  obtain ⟨store, counters, records, opts⟩ := delivers
  exact ⟨by simp only [Sink.get, store], counters, records, opts⟩

theorem Delivers.add (delivers : Delivers stats delivery sink) (isOptions : Bool) (records : List Rec) :
    Delivers stats (delivery.add isOptions records) (appendAll isOptions sink records) := by
  induction records generalizing delivery sink with
  | nil =>
    have nothing : delivery.add isOptions [] = delivery := by cases isOptions <;> simp [Delivery.add]
    rw [nothing]
    exact delivers
  | cons rec records inductionHypothesis =>
    obtain ⟨store, counters, flows, opts⟩ := delivers
    have appended : Delivers stats (delivery.add isOptions [rec]) (sink.append isOptions rec) := by
      cases isOptions with
      | true => exact ⟨store, counters, flows, by simp [Delivery.add, Sink.append, opts]⟩
      | false => exact ⟨store, counters, by simp [Delivery.add, Sink.append, flows], opts⟩
    have split : delivery.add isOptions (rec :: records) = (delivery.add isOptions [rec]).add isOptions records := by
      cases isOptions <;> simp [Delivery.add]
    rw [split]
    exact inductionHypothesis appended

/-- What `get` answers for a template in force. -/
theorem get_of_inForce {store : TemplateStore} {key : TemplateKey} {layout : List Field}
    (held : (store.templates.get? key).map Template.fields = some layout) : (store.get key).1.1 = some layout := by
  obtain ⟨template, found, rfl⟩ := Option.map_eq_some_iff.mp held
  simp [TemplateStore.get, found]

/-- A template set, its bytes read back. -/
theorem Delivers.templates (delivers : Delivers stats delivery sink) (defs : List (TemplateDef ipfix))
    {padding : Bytes} (short : padding.length < 4)
    (fits : 4 + (SetBody.templates defs padding short).content.length < 65536) :
    Delivers stats ((SetBody.templates defs padding short).deliver exporter domain delivery)
      (applyContent exporter domain ipfix (SetBody.templates defs padding short).id.toNat
        (SetBody.templates defs padding short).content sink) := by
  have counts : ∀ template ∈ defs, template.specs.length < 65536 := by
    intro template member
    have whole := length_le_flatMap TemplateDef.bytes member
    have specs := specs_length_le template.specs
    simp only [SetBody.content, List.length_append, TemplateDef.bytes, length_toBytes] at fits whole
    omega
  have isTemplates : (SetBody.templates defs padding short).id.toNat = templateSetId ipfix := by
    cases ipfix <;> rfl
  rw [applyContent, if_pos isTemplates, SetBody.content, wireTemplates_bytes defs short counts]
  have filed := delivers.putAll exporter domain false (defs.map fun template => (template.id.toNat, template.fields))
  rw [List.foldl_map] at filed
  exact filed

/-- An options-template set, its bytes read back. -/
theorem Delivers.optionsTemplates (delivers : Delivers stats delivery sink) (defs : List (OptionsDef ipfix))
    {padding : Bytes} (short : padding.length < 6)
    (fits : 4 + (SetBody.optionsTemplates defs padding short).content.length < 65536) :
    Delivers stats ((SetBody.optionsTemplates defs padding short).deliver exporter domain delivery)
      (applyContent exporter domain ipfix (SetBody.optionsTemplates defs padding short).id.toNat
        (SetBody.optionsTemplates defs padding short).content sink) := by
  have counts : ∀ template ∈ defs, 4 * (template.scopes.length + template.options.length) < 65536 := by
    intro template member
    have whole := length_le_flatMap OptionsDef.bytes member
    have specs := specs_length_le (template.scopes ++ template.options)
    simp only [SetBody.content, List.length_append, OptionsDef.bytes, length_toBytes] at fits whole specs
    omega
  have notTemplates : (SetBody.optionsTemplates defs padding short).id.toNat ≠ templateSetId ipfix := by
    cases ipfix with
    | false => exact (by decide : (1 : UInt16).toNat ≠ 0)
    | true => exact (by decide : (3 : UInt16).toNat ≠ 2)
  have isOptions : (SetBody.optionsTemplates defs padding short).id.toNat = optionsSetId ipfix := by
    cases ipfix <;> rfl
  rw [applyContent, if_neg notTemplates, if_pos isOptions, SetBody.content, wireOptions_bytes defs short counts]
  have filed := delivers.putAll exporter domain true (defs.map fun template => (template.id.toNat, template.fields))
  rw [List.foldl_map] at filed
  exact filed

/-- An ID of 256 or above is that of a data set in both versions. -/
theorem dataId_ne_setIds {id : Nat} (isData : 256 ≤ id) (ipfix : Bool) :
    id ≠ templateSetId ipfix ∧ id ≠ optionsSetId ipfix := by
  rw [templateSetId, optionsSetId]
  constructor
  · split <;> omega
  · split <;> omega

/-- A data set whose template is in force, its bytes read back. -/
theorem Delivers.data (delivers : Delivers stats delivery sink) {id : UInt16} (isData : 256 ≤ id.toNat)
    {layout : List Field} (records : List (RecordData ipfix layout)) {padding : Bytes}
    (short : padding.length < recordMinLength layout)
    (inForce : (SetBody.data id isData layout records padding short).InForce exporter domain delivery.store) :
    Delivers stats ((SetBody.data id isData layout records padding short).deliver exporter domain delivery)
      (applyContent exporter domain ipfix id.toNat (SetBody.data id isData layout records padding short).content
        sink) := by
  obtain ⟨held, occupied⟩ := inForce
  obtain ⟨notTemplates, notOptions⟩ := dataId_ne_setIds isData ipfix
  have answer : (sink.get ⟨exporter, domain, id.toNat⟩).1.1 = some layout := by
    simp only [Sink.get, delivers.store]
    exact get_of_inForce held
  have kind : (sink.get ⟨exporter, domain, id.toNat⟩).1.2 =
      (delivery.store.get ⟨exporter, domain, id.toNat⟩).1.2 := by
    simp only [Sink.get, delivers.store]
  rw [applyContent, if_neg notTemplates, if_neg notOptions, if_pos isData]
  simp only [applyData, answer, kind]
  cases layout with
  | nil => exact absurd occupied (by simp [Occupied])
  | cons field fields =>
    simp only [SetBody.content, wireRecords_bytes occupied records short]
    exact (delivers.get _).add _ _

/-- One set, its bytes read back. -/
theorem applySet_framed (delivers : Delivers stats delivery sink) (set : WireSet ipfix)
    (inForce : set.body.InForce exporter domain delivery.store) :
    Delivers stats (set.body.deliver exporter domain delivery)
      (applySet exporter domain ipfix sink set.framed.raw) := by
  obtain ⟨body, fits⟩ := set
  change Delivers stats _ (applyContent exporter domain ipfix body.id.toNat body.content sink)
  cases body with
  | templates defs padding short => exact delivers.templates exporter domain defs short fits
  | optionsTemplates defs padding short => exact delivers.optionsTemplates exporter domain defs short fits
  | data id isData layout records padding short => exact delivers.data exporter domain isData records short inForce

theorem applySets_framed (delivers : Delivers stats delivery sink) (sets : List (WireSet ipfix))
    (inForce : AllInForce exporter domain delivery sets) :
    Delivers stats (deliverAll exporter domain delivery sets)
      (((sets.map WireSet.framed).map FramedSet.raw).foldl (applySet exporter domain ipfix) sink) := by
  induction sets generalizing delivery sink with
  | nil => exact delivers
  | cons set sets inductionHypothesis =>
    obtain ⟨first, rest⟩ := inForce
    exact inductionHypothesis (applySet_framed exporter domain delivers set first) rest

end Deliver

/-- Decoding an encoded message gives its header, its records and the store its templates make;
nothing is deferred or counted as truncated. -/
theorem decode_encode (header : ExportHeader) (sets : List (WireSet header.isIpfix)) (exporter : Exporter)
    (store : TemplateStore) (stats : Stats) (fits : header.Fits (encodeSets sets))
    (inForce : AllInForce exporter header.domain ⟨store, 0, [], []⟩ sets) :
    let run := runV9OrIpfix (header.message (encodeSets sets)) exporter store stats
    let delivery := deliverAll exporter header.domain ⟨store, 0, [], []⟩ sets
    run.outcome = .ok ⟨some (header.parsed exporter), delivery.records, delivery.options⟩ ∧
      run.store = delivery.store ∧
      run.stats = { stats with templatesNew := stats.templatesNew + delivery.learned } := by
  obtain ⟨_, run⟩ := runV9OrIpfix_framed header exporter (sets.map WireSet.framed) store stats fits
  have start : Delivers stats ⟨store, 0, [], []⟩ { store, stats } := ⟨rfl, by simp, rfl, rfl⟩
  have delivered : Delivers stats (deliverAll exporter header.domain ⟨store, 0, [], []⟩ sets)
      (framedSink header exporter (sets.map WireSet.framed) store stats) :=
    applySets_framed exporter header.domain start sets inForce
  rw [encodeSets]
  simp only [run, delivered.store, delivered.stats, delivered.records, delivered.options, and_self]

/-- A template of a port and a name, an options template of a sampling interval, and records laid out by both:
one name is behind the long prefix, and every set ends in padding. -/
def portSets : List (WireSet true) := [
  ⟨.templates [⟨256, [.ipfix 7 2 none, .ipfix 82 65535 none], by decide⟩] [0, 0, 0] (by decide), by decide⟩,
  ⟨.optionsTemplates [⟨257, [.ipfix 149 4 none], [.ipfix 305 4 none, .ipfix 90 2 (some 9)], by decide⟩] [0, 0]
    (by decide), by decide⟩,
  ⟨.data 256 (by decide) [.named 7 none 2, .named 82 none 65535]
    [.cons ⟨[0, 80], false, by decide⟩ (.cons ⟨[101, 48], true, by decide⟩ .nil),
      .cons ⟨[1, 187], false, by decide⟩ (.cons ⟨[], false, by decide⟩ .nil)] [0, 0] (by decide), by decide⟩,
  ⟨.data 257 (by decide) [.named 149 none 4, .named 305 none 4, .named 90 (some 9) 2]
    [.cons ⟨[0, 0, 0, 7], false, by decide⟩ (.cons ⟨[0, 0, 0, 100], false, by decide⟩
      (.cons ⟨[1, 2], false, by decide⟩ .nil))] [0] (by decide), by decide⟩]

theorem decode_encode_ports :
    let header := ExportHeader.ipfix 0 4 7
    let store := TemplateStore.new 10 10
    let run := runV9OrIpfix (header.message (encodeSets portSets)) (.str "a") store {}
    let delivery := deliverAll (.str "a") header.domain ⟨store, 0, [], []⟩ portSets
    (delivery.records.length = 2 ∧ delivery.options.length = 1 ∧ delivery.learned = 2) ∧
      run.outcome = .ok ⟨some (header.parsed (.str "a")), delivery.records, delivery.options⟩ ∧
      run.store = delivery.store ∧ run.stats = { ({} : Stats) with templatesNew := 0 + delivery.learned } := by
  have inForce : AllInForce (.str "a") 7 ⟨.new 10 10, 0, [], []⟩ portSets := by
    refine ⟨trivial, trivial, ⟨by decide, .named 7 none 2, by simp, by decide⟩, ?_, trivial⟩
    exact ⟨by decide, .named 149 none 4, by simp, by decide⟩
  have sent : (deliverAll (.str "a") 7 ⟨.new 10 10, 0, [], []⟩ portSets).records.length = 2 ∧
      (deliverAll (.str "a") 7 ⟨.new 10 10, 0, [], []⟩ portSets).options.length = 1 ∧
      (deliverAll (.str "a") 7 ⟨.new 10 10, 0, [], []⟩ portSets).learned = 2 := by
    decide +kernel
  exact ⟨sent, decode_encode (.ipfix 0 4 7) portSets (.str "a") (.new 10 10) {} (by decide) inForce⟩

end Netflume
