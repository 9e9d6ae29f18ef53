import Netflume.ParseRefinement

/-! # Framing

Messages as an exporter frames them: a header, then sets whose declared lengths
delimit them.  Reading one back gives the header's own fields and the sets. -/

namespace Netflume

open Library

/-! ## Numbers on the wire -/

theorem num_front {width value : Nat} (small : value < 256 ^ width) (rest : Bytes) :
    num (toBytes width value ++ rest) 0 width = value := by
  have whole : slice (toBytes width value ++ rest) 0 (0 + width) = toBytes width value := by
    rw [slice_append_left rest (by simp), slice, List.drop_zero, List.take_of_length_le (by simp)]
  rw [num, whole, beNat_toBytes, Nat.mod_eq_of_lt small]

theorem num_behind {front : Bytes} (rest : Bytes) {start : Nat} (width : Nat) (behind : front.length ≤ start) :
    num (front ++ rest) start width = num rest (start - front.length) width := by
  obtain ⟨offset, rfl⟩ := Nat.exists_eq_add_of_le behind
  rw [Nat.add_sub_cancel_left, num, num, Nat.add_assoc, slice_append_right]

theorem drop_behind {front : Bytes} (rest : Bytes) {count : Nat} (behind : front.length ≤ count) :
    (front ++ rest).drop count = rest.drop (count - front.length) := by
  rw [List.drop_append, List.drop_eq_nil_of_le behind, List.nil_append]

/-- The 16-bit number two bytes in, behind another. -/
theorem num_second {first second : Nat} (small : second < 65536) (rest : Bytes) :
    num (toBytes 2 first ++ (toBytes 2 second ++ rest)) 2 2 = second := by
  rw [num_behind _ 2 (by simp), length_toBytes]
  exact num_front small rest

/-! ## Sets -/

/-- A set: an ID, and a content that the 16-bit length can cover. -/
structure FramedSet where
  id : UInt16
  content : Bytes
  fits : 4 + content.length < 65536

namespace FramedSet

def bytes (set : FramedSet) : Bytes :=
  toBytes 2 set.id.toNat ++ (toBytes 2 (4 + set.content.length) ++ set.content)

def raw (set : FramedSet) : RawSet := ⟨set.id.toNat, set.content, false⟩

@[simp] theorem length_bytes (set : FramedSet) : set.bytes.length = 4 + set.content.length := by
  simp only [bytes, List.length_append, length_toBytes]
  omega

end FramedSet

def bodyBytes (sets : List FramedSet) : Bytes := sets.flatMap FramedSet.bytes

@[simp] theorem bodyBytes_append (front back : List FramedSet) :
    bodyBytes (front ++ back) = bodyBytes front ++ bodyBytes back := List.flatMap_append

theorem wireSets_nil : wireSets [] = [] := by
  rw [wireSets]
  rfl

/-- A set in front is read whole, and what follows it is read as if it stood alone. -/
theorem wireSets_framed (set : FramedSet) (rest : Bytes) : wireSets (set.bytes ++ rest) = set.raw :: wireSets rest := by
  have id : num (set.bytes ++ rest) 0 2 = set.id.toNat := by
    rw [FramedSet.bytes, List.append_assoc]
    exact num_front (by simpa using set.id.toNat_lt) _
  have declared : num (set.bytes ++ rest) 2 2 = set.bytes.length := by
    rw [FramedSet.bytes, List.append_assoc, List.append_assoc, ← FramedSet.bytes, FramedSet.length_bytes]
    exact num_second set.fits _
  have content : (set.bytes.take set.bytes.length).drop 4 = set.content := by
    rw [List.take_length, FramedSet.bytes, ← List.append_assoc]
    exact List.drop_left' (by simp)
  have long : set.bytes.length ≤ (set.bytes ++ rest).length := by simp
  have header := FramedSet.length_bytes set
  rw [wireSets, declared, id, if_neg (by omega), if_neg (by omega), decide_eq_false (by omega),
    List.take_append_of_le_length (Nat.le_refl _), content, List.drop_left]
  rfl

theorem wireSets_bodyBytes (sets : List FramedSet) : wireSets (bodyBytes sets) = sets.map FramedSet.raw := by
  induction sets with
  | nil => exact wireSets_nil
  | cons set sets inductionHypothesis =>
    have split : bodyBytes (set :: sets) = set.bytes ++ bodyBytes sets := rfl
    rw [split, wireSets_framed, inductionHypothesis, List.map_cons]

/-- An IPFIX template set: template 256 is a two-byte source port. -/
def portTemplateSet : FramedSet := ⟨2, [1, 0, 0, 1, 0, 7, 0, 2], by decide⟩

/-- Two records for template 256. -/
def portDataSet : FramedSet := ⟨256, [0, 80, 1, 187], by decide⟩

/-! ## Messages -/

/-- The fields of a v9 or IPFIX header that the exporter chooses. -/
inductive ExportHeader where
  | v9 (count : UInt16) (sysUptime unixSecs sequence domain : UInt32)
  | ipfix (exportTime sequence domain : UInt32)
  deriving DecidableEq

namespace ExportHeader

def isIpfix : ExportHeader → Bool
  | v9 .. => false
  | ipfix .. => true

def domain : ExportHeader → Nat
  | v9 _ _ _ _ domain => domain.toNat
  | ipfix _ _ domain => domain.toNat

/-- The header dict this header parses to. -/
def parsed (exporter : Exporter) : ExportHeader → Header
  | v9 _ sysUptime unixSecs sequence domain =>
    ⟨9, some sysUptime.toNat, unixSecs.toNat, sequence.toNat, domain.toNat, exporter⟩
  | ipfix exportTime sequence domain =>
    ⟨10, none, exportTime.toNat, sequence.toNat, domain.toNat, exporter⟩

/-- A message: IPFIX declares its own total length, v9 does not. -/
def message (body : Bytes) : ExportHeader → Bytes
  | v9 count sysUptime unixSecs sequence domain =>
    toBytes 2 9 ++ (toBytes 2 count.toNat ++ (toBytes 4 sysUptime.toNat ++ (toBytes 4 unixSecs.toNat ++
      (toBytes 4 sequence.toNat ++ (toBytes 4 domain.toNat ++ body)))))
  | ipfix exportTime sequence domain =>
    toBytes 2 10 ++ (toBytes 2 (ipfixHeaderSize + body.length) ++ (toBytes 4 exportTime.toNat ++
      (toBytes 4 sequence.toNat ++ (toBytes 4 domain.toNat ++ body))))

/-- The body is short enough for the length an IPFIX header declares. -/
def Fits (header : ExportHeader) (body : Bytes) : Prop :=
  header.isIpfix = true → ipfixHeaderSize + body.length < 65536

instance (header : ExportHeader) (body : Bytes) : Decidable (header.Fits body) :=
  inferInstanceAs (Decidable (_ → _))

@[simp] theorem parsed_exporter (exporter : Exporter) (header : ExportHeader) :
    (header.parsed exporter).exporter = exporter := by cases header <;> rfl

@[simp] theorem parsed_domain (exporter : Exporter) (header : ExportHeader) :
    (header.parsed exporter).domain = header.domain := by cases header <;> rfl

theorem message_ipfix_length (exportTime sequence domain : UInt32) (body : Bytes) :
    ((ipfix exportTime sequence domain).message body).length = ipfixHeaderSize + body.length := by
  simp only [message, List.length_append, length_toBytes, ipfixHeaderSize]
  omega

theorem message_v9_length (count : UInt16) (sysUptime unixSecs sequence domain : UInt32) (body : Bytes) :
    ((v9 count sysUptime unixSecs sequence domain).message body).length = v9HeaderSize + body.length := by
  simp only [message, List.length_append, length_toBytes, v9HeaderSize]
  omega

theorem applyMessage_ipfix (exportTime sequence domain : UInt32) {body : Bytes}
    (fits : ipfixHeaderSize + body.length < 65536) (exporter : Exporter) (sink : Sink) :
    applyMessage ((ipfix exportTime sequence domain).message body) exporter sink =
      finishMessage ((ipfix exportTime sequence domain).parsed exporter) true body sink := by
  have length := message_ipfix_length exportTime sequence domain body
  have word : ∀ field : UInt32, field.toNat < 256 ^ 4 := fun field => by simpa using field.toNat_lt
  have version : num ((ipfix exportTime sequence domain).message body) 0 2 = 10 := num_front (by decide) _
  have declared : num ((ipfix exportTime sequence domain).message body) 2 2 = ipfixHeaderSize + body.length :=
    num_second fits _
  have time : num ((ipfix exportTime sequence domain).message body) 4 4 = exportTime.toNat := by
    simp [message, num_behind, num_front (word exportTime)]
  have counter : num ((ipfix exportTime sequence domain).message body) 8 4 = sequence.toNat := by
    simp [message, num_behind, num_front (word sequence)]
  have domainField : num ((ipfix exportTime sequence domain).message body) 12 4 = domain.toNat := by
    simp [message, num_behind, num_front (word domain)]
  have header : ipfixHeader ((ipfix exportTime sequence domain).message body) exporter =
      (ipfix exportTime sequence domain).parsed exporter := by
    rw [ipfixHeader, time, counter, domainField, parsed]
  have size : ipfixHeaderSize = 16 := rfl
  have wholeBody : slice ((ipfix exportTime sequence domain).message body) ipfixHeaderSize
      (ipfixEnd ((ipfix exportTime sequence domain).message body)) = body := by
    rw [ipfixEnd, if_pos (by omega), declared, length, Nat.min_self, ← length, slice_full]
    simp [message, drop_behind, ipfixHeaderSize]
  rw [applyMessage_of_ipfix version (by omega), if_neg (by omega), header, wholeBody]

theorem applyMessage_v9 (count : UInt16) (sysUptime unixSecs sequence domain : UInt32) (body : Bytes)
    (exporter : Exporter) (sink : Sink) :
    applyMessage ((v9 count sysUptime unixSecs sequence domain).message body) exporter sink =
      finishMessage ((v9 count sysUptime unixSecs sequence domain).parsed exporter) false body sink := by
  have length := message_v9_length count sysUptime unixSecs sequence domain body
  have word : ∀ field : UInt32, field.toNat < 256 ^ 4 := fun field => by simpa using field.toNat_lt
  have version : num ((v9 count sysUptime unixSecs sequence domain).message body) 0 2 = 9 := num_front (by decide) _
  have uptime : num ((v9 count sysUptime unixSecs sequence domain).message body) 4 4 = sysUptime.toNat := by
    simp [message, num_behind, num_front (word sysUptime)]
  have secs : num ((v9 count sysUptime unixSecs sequence domain).message body) 8 4 = unixSecs.toNat := by
    simp [message, num_behind, num_front (word unixSecs)]
  have counter : num ((v9 count sysUptime unixSecs sequence domain).message body) 12 4 = sequence.toNat := by
    simp [message, num_behind, num_front (word sequence)]
  have domainField : num ((v9 count sysUptime unixSecs sequence domain).message body) 16 4 = domain.toNat := by
    simp [message, num_behind, num_front (word domain)]
  have header : v9Header ((v9 count sysUptime unixSecs sequence domain).message body) exporter =
      (v9 count sysUptime unixSecs sequence domain).parsed exporter := by
    rw [v9Header, uptime, secs, counter, domainField, parsed]
  have wholeBody : slice ((v9 count sysUptime unixSecs sequence domain).message body) v9HeaderSize
      ((v9 count sysUptime unixSecs sequence domain).message body).length = body := by
    rw [slice_full]
    simp [message, drop_behind, v9HeaderSize]
  rw [applyMessage_of_v9 (by omega) (by omega), header, wholeBody]

/-- A framed message reads back as its header and its body. -/
theorem applyMessage_message (header : ExportHeader) {body : Bytes} (fits : header.Fits body) (exporter : Exporter)
    (sink : Sink) :
    applyMessage (header.message body) exporter sink =
      finishMessage (header.parsed exporter) header.isIpfix body sink := by
  cases header with
  | v9 count sysUptime unixSecs sequence domain =>
    exact applyMessage_v9 count sysUptime unixSecs sequence domain body exporter sink
  | ipfix exportTime sequence domain => exact applyMessage_ipfix exportTime sequence domain (fits rfl) exporter sink

end ExportHeader

/-- A message of framed sets applies them in order. -/
theorem finishMessage_framed (header : Header) (ipfix : Bool) (sets : List FramedSet) (sink : Sink) :
    finishMessage header ipfix (bodyBytes sets) sink =
      let after := ((sets.map FramedSet.raw).foldl (applySet header.exporter header.domain ipfix) sink).close
      (⟨some header, after.records, after.options⟩, after) := by
  rw [finishMessage, applyBody, wireSets_bodyBytes]

end Netflume
