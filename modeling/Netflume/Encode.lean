import Mathlib.Data.Nat.Bitwise
import Netflume.Framing

/-! # The exporter's side of the wire format

Field specifications, templates, options templates, records and sets as values,
and the bytes an exporter sends for them.  A value that the format cannot carry
cannot be built: an IPFIX specification has a 15-bit element and perhaps an
enterprise number, a v9 one neither limit nor enterprise; a record's fields have
the widths its layout declares. -/

namespace Netflume

open Library

/-! ## Templates -/

/-- A field specification of v9 (`false`) or IPFIX (`true`). -/
inductive FieldSpec : Bool → Type where
  | v9 (element length : UInt16) : FieldSpec false
  | ipfix (element : Fin 0x8000) (length : UInt16) (enterprise : Option UInt32) : FieldSpec true

namespace FieldSpec

variable {ipfix : Bool}

def field : FieldSpec ipfix → Field
  | .v9 element length => .named element.toNat none length.toNat
  | .ipfix element length enterprise => .named element.val (enterprise.map UInt32.toNat) length.toNat

/-- The enterprise bit is set exactly when an enterprise number follows. -/
def bytes : FieldSpec ipfix → Bytes
  | .v9 element length => toBytes 2 element.toNat ++ toBytes 2 length.toNat
  | .ipfix element length none => toBytes 2 element.val ++ toBytes 2 length.toNat
  | .ipfix element length (some enterprise) =>
    toBytes 2 (element.val + 0x8000) ++ (toBytes 2 length.toNat ++ toBytes 4 enterprise.toNat)

end FieldSpec

/-- A template: an ID and its specifications. -/
structure TemplateDef (ipfix : Bool) where
  id : UInt16
  specs : List (FieldSpec ipfix)
  nonempty : specs ≠ []

namespace TemplateDef

variable {ipfix : Bool}

def fields (template : TemplateDef ipfix) : List Field := template.specs.map FieldSpec.field

def bytes (template : TemplateDef ipfix) : Bytes :=
  toBytes 2 template.id.toNat ++ (toBytes 2 template.specs.length ++ template.specs.flatMap FieldSpec.bytes)

end TemplateDef

/-- An options template: its scope fields come first. -/
structure OptionsDef (ipfix : Bool) where
  id : UInt16
  scopes : List (FieldSpec ipfix)
  options : List (FieldSpec ipfix)
  nonempty : scopes ++ options ≠ []

namespace OptionsDef

variable {ipfix : Bool}

def fields (template : OptionsDef ipfix) : List Field := (template.scopes ++ template.options).map FieldSpec.field

/-- The two lengths of the header: field counts in IPFIX, byte lengths in v9. -/
def lengths (template : OptionsDef ipfix) : Nat × Nat :=
  if ipfix then (template.scopes.length + template.options.length, template.scopes.length)
  else (4 * template.scopes.length, 4 * template.options.length)

def bytes (template : OptionsDef ipfix) : Bytes :=
  toBytes 2 template.id.toNat ++ (toBytes 2 template.lengths.1 ++ (toBytes 2 template.lengths.2 ++
    (template.scopes ++ template.options).flatMap FieldSpec.bytes))

end OptionsDef

/-! ## Records -/

/-- The bytes of one field, of the width its specification declares; `long` picks
the three-byte form of a variable length. -/
structure FieldData (ipfix : Bool) (field : Field) where
  raw : Bytes
  long : Bool
  fits : if ipfix ∧ field.length = variableLength then raw.length < (if long then 65536 else 255)
    else raw.length = field.length

def FieldData.bytes {ipfix : Bool} {field : Field} (data : FieldData ipfix field) : Bytes :=
  if ipfix ∧ field.length = variableLength then
    if data.long then toBytes 1 255 ++ (toBytes 2 data.raw.length ++ data.raw)
    else toBytes 1 data.raw.length ++ data.raw
  else data.raw

/-- The data of a record, field by field. -/
inductive RecordData (ipfix : Bool) : List Field → Type where
  | nil : RecordData ipfix []
  | cons {field : Field} {fields : List Field} (data : FieldData ipfix field) (rest : RecordData ipfix fields) :
    RecordData ipfix (field :: fields)

namespace RecordData

variable {ipfix : Bool}

def bytes {fields : List Field} : RecordData ipfix fields → Bytes
  | nil => []
  | cons data rest => data.bytes ++ rest.bytes

/-- The record from what is decoded of it so far. -/
def decodeFrom (dedupe : Bool) {fields : List Field} : RecordData ipfix fields → Rec → Rec
  | nil, rec => rec
  | @cons _ field _ data rest, rec =>
    rest.decodeFrom dedupe (rec.assign dedupe field.name (decodeValue data.raw field.kind))

/-- The record these data decode to. -/
def decoded {fields : List Field} (data : RecordData ipfix fields) : Rec :=
  data.decodeFrom (repeatsName fields) .empty

end RecordData

/-! ## Sets -/

/-- What a set carries.  Each kind may end in padding too short to be read as another entry. -/
inductive SetBody (ipfix : Bool) where
  | templates (defs : List (TemplateDef ipfix)) (padding : Bytes) (short : padding.length < 4)
  | optionsTemplates (defs : List (OptionsDef ipfix)) (padding : Bytes) (short : padding.length < 6)
  | data (id : UInt16) (isData : 256 ≤ id.toNat) (layout : List Field) (records : List (RecordData ipfix layout))
    (padding : Bytes) (short : padding.length < recordMinLength layout)

namespace SetBody

variable {ipfix : Bool}

def id : SetBody ipfix → UInt16
  | .templates .. => if ipfix then 2 else 0
  | .optionsTemplates .. => if ipfix then 3 else 1
  | .data id .. => id

def content : SetBody ipfix → Bytes
  | .templates defs padding _ => defs.flatMap TemplateDef.bytes ++ padding
  | .optionsTemplates defs padding _ => defs.flatMap OptionsDef.bytes ++ padding
  | .data _ _ _ records padding _ => records.flatMap RecordData.bytes ++ padding

end SetBody

/-- A set whose content the 16-bit length can cover. -/
structure WireSet (ipfix : Bool) where
  body : SetBody ipfix
  fits : 4 + body.content.length < 65536

def WireSet.framed {ipfix : Bool} (set : WireSet ipfix) : FramedSet := ⟨set.body.id, set.body.content, set.fits⟩

/-- The sets of a message body, on the wire. -/
def encodeSets {ipfix : Bool} (sets : List (WireSet ipfix)) : Bytes := bodyBytes (sets.map WireSet.framed)

/-! ## Reading it back -/

section Specs

variable {ipfix : Bool}

/-- A 16-bit word whose top bit is clear, and the same word with the bit set. -/
theorem enterpriseBit {element : Nat} (small : element < 0x8000) :
    element &&& 0x8000 = 0 ∧ (element + 0x8000) &&& 0x8000 ≠ 0 ∧ (element + 0x8000) &&& 0x7FFF = element := by
  have low : (0x7FFF : Nat) = 2 ^ 15 - 1 := rfl
  have high : (0x8000 : Nat) = 2 ^ 15 := rfl
  have clear : element.testBit 15 = false := Nat.testBit_lt_two_pow small
  refine ⟨?_, ?_, ?_⟩
  · rw [high, Nat.and_two_pow, clear]
    rfl
  · rw [high, Nat.and_two_pow, Nat.add_comm, Nat.testBit_two_pow_add_eq, clear]
    decide
  · rw [low, Nat.and_two_pow_sub_one_eq_mod]
    omega

theorem wireSpec_bytes (spec : FieldSpec ipfix) (rest : Bytes) :
    wireSpec ipfix (spec.bytes ++ rest) = some (spec.field, rest) := by
  have word : ∀ value : UInt16, value.toNat < 256 ^ 2 := fun value => by simpa using value.toNat_lt
  cases spec with
  | v9 element length =>
    have long : ¬ (toBytes 2 element.toNat ++ toBytes 2 length.toNat ++ rest).length < 4 := by simp; omega
    rw [FieldSpec.bytes, wireSpec, if_neg long, if_neg (by simp), List.append_assoc, num_front (word element),
      num_second (word length), drop_behind _ (by simp), drop_behind _ (by simp)]
    simp [FieldSpec.field]
  | ipfix element length enterprise =>
    have elementWord : element.val < 256 ^ 2 := by have := element.isLt; omega
    cases enterprise with
    | none =>
      have long : ¬ (toBytes 2 element.val ++ toBytes 2 length.toNat ++ rest).length < 4 := by simp; omega
      have plain : ¬ (true = true ∧ element.val &&& 0x8000 ≠ 0) := by simp [(enterpriseBit element.isLt).1]
      rw [FieldSpec.bytes, wireSpec, if_neg long, List.append_assoc, num_front elementWord, if_neg plain,
        num_second (word length), drop_behind _ (by simp), drop_behind _ (by simp)]
      simp [FieldSpec.field]
    | some number =>
      have markedWord : element.val + 0x8000 < 256 ^ 2 := by have := element.isLt; omega
      have numberWord : number.toNat < 256 ^ 4 := by simpa using number.toNat_lt
      have long : ¬ (toBytes 2 (element.val + 0x8000) ++ (toBytes 2 length.toNat ++ toBytes 4 number.toNat) ++
          rest).length < 4 := by simp; omega
      have longer : ¬ (toBytes 2 (element.val + 0x8000) ++ (toBytes 2 length.toNat ++ (toBytes 4 number.toNat ++
          rest))).length < 8 := by simp; omega
      rw [FieldSpec.bytes, wireSpec, if_neg long, List.append_assoc, List.append_assoc, num_front markedWord,
        if_pos ⟨rfl, (enterpriseBit element.isLt).2.1⟩, if_neg longer, (enterpriseBit element.isLt).2.2,
        num_second (word length)]
      simp [FieldSpec.field, num_behind, num_front numberWord, drop_behind]

theorem wireSpecs_bytes (specs : List (FieldSpec ipfix)) (rest : Bytes) :
    wireSpecs ipfix specs.length (specs.flatMap FieldSpec.bytes ++ rest) = some (specs.map FieldSpec.field, rest) := by
  induction specs with
  | nil => rfl
  | cons spec specs inductionHypothesis =>
    simp only [List.length_cons, List.flatMap_cons, List.append_assoc, wireSpecs, wireSpec_bytes, inductionHypothesis,
      Option.map_some, List.map_cons]

end Specs

end Netflume
