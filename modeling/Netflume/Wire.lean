import Netflume.Parse

/-! # The wire format

What the bytes of a set mean, read from the front: which templates a template
set completes, which records a data set holds, which sets a message body is made
of.  There are no offsets here and nothing can fail, so that a set's meaning
depends on its own bytes by construction.  `Netflume.ParseRefinement` proves that the
parser computes exactly this. -/

namespace Netflume

open Library

theorem num_append {bytes : Bytes} (more : Bytes) {start width : Nat}
    (inside : start + width ≤ bytes.length) : num (bytes ++ more) start width = num bytes start width := by
  unfold num
  rw [slice_append_left more inside]

theorem num_lt (raw : Bytes) (start width : Nat) : num raw start width < 256 ^ width := by
  have inside : (slice raw start (start + width)).length ≤ width := by
    simp only [slice, List.length_drop, List.length_take]
    omega
  exact Nat.lt_of_lt_of_le (beNat_lt _) (Nat.pow_le_pow_right (by decide) inside)

theorem toBytes_num {bytes : Bytes} {start width : Nat} (inside : start + width ≤ bytes.length) :
    toBytes width (num bytes start width) = slice bytes start (start + width) := by
  have spelled := toBytes_beNat (slice bytes start (start + width))
  rw [length_slice start inside, Nat.add_sub_cancel_left] at spelled
  exact spelled

/-! ## Field specifications -/

/-- The specification at the front, and the bytes behind it. -/
def wireSpec (ipfix : Bool) (bytes : Bytes) : Option (Field × Bytes) :=
  if bytes.length < 4 then none
  else if ipfix ∧ num bytes 0 2 &&& 0x8000 ≠ 0 then
    if bytes.length < 8 then none
    else some (.named (num bytes 0 2 &&& 0x7FFF) (some (num bytes 4 4)) (num bytes 2 2), bytes.drop 8)
  else some (.named (num bytes 0 2) none (num bytes 2 2), bytes.drop 4)

def wireSpecs (ipfix : Bool) : Nat → Bytes → Option (List Field × Bytes)
  | 0, bytes => some ([], bytes)
  | count + 1, bytes =>
    match wireSpec ipfix bytes with
    | none => none
    | some (field, rest) => (wireSpecs ipfix count rest).map fun (fields, rest) => (field :: fields, rest)

theorem wireSpec_suffix {ipfix : Bool} {bytes rest : Bytes} {field : Field}
    (read : wireSpec ipfix bytes = some (field, rest)) :
    ∃ front, bytes = front ++ rest ∧ 4 ≤ front.length := by
  rw [wireSpec] at read
  split at read
  · cases read
  · rename_i long
    split at read
    · split at read
      · cases read
      · cases read
        exact ⟨bytes.take 8, (List.take_append_drop 8 bytes).symm, by simp; omega⟩
    · cases read
      exact ⟨bytes.take 4, (List.take_append_drop 4 bytes).symm, by simp; omega⟩

theorem wireSpecs_suffix {ipfix : Bool} {count : Nat} {bytes rest : Bytes} {fields : List Field}
    (read : wireSpecs ipfix count bytes = some (fields, rest)) :
    fields.length = count ∧ ∃ front, bytes = front ++ rest ∧ 4 * count ≤ front.length := by
  induction count generalizing bytes fields with
  | zero =>
    cases read
    exact ⟨rfl, [], rfl, Nat.le_refl _⟩
  | succ count inductionHypothesis =>
    simp only [wireSpecs] at read
    cases spec : wireSpec ipfix bytes with
    | none => simp [spec] at read
    | some head =>
      obtain ⟨field, middle⟩ := head
      simp only [spec, Option.map_eq_some_iff, Prod.exists, Prod.mk.injEq] at read
      obtain ⟨tail, last, tailRead, rfl, rfl⟩ := read
      obtain ⟨front, rfl, frontLong⟩ := wireSpec_suffix spec
      obtain ⟨tailLength, back, rfl, backLong⟩ := inductionHypothesis tailRead
      refine ⟨by simp [tailLength], front ++ back, by simp, ?_⟩
      rw [List.length_append]
      omega

theorem wireSpecs_length_le {ipfix : Bool} {count : Nat} {bytes rest : Bytes} {fields : List Field}
    (read : wireSpecs ipfix count bytes = some (fields, rest)) : rest.length ≤ bytes.length := by
  obtain ⟨_, front, rfl, _⟩ := wireSpecs_suffix read
  simp

/-- Bytes behind a specification do not change how it reads. -/
theorem wireSpec_append {ipfix : Bool} {bytes rest : Bytes} {field : Field}
    (read : wireSpec ipfix bytes = some (field, rest)) (more : Bytes) :
    wireSpec ipfix (bytes ++ more) = some (field, rest ++ more) := by
  unfold wireSpec at read ⊢
  split at read
  · cases read
  · rename_i long
    have first : num (bytes ++ more) 0 2 = num bytes 0 2 := num_append more (by omega)
    have second : num (bytes ++ more) 2 2 = num bytes 2 2 := num_append more (by omega)
    rw [if_neg (by rw [List.length_append]; omega), first, second]
    split at read
    · rename_i special
      rw [if_pos special]
      split at read
      · cases read
      · rename_i longer
        cases read
        rw [if_neg (by rw [List.length_append]; omega), num_append more (by omega),
          List.drop_append_of_le_length (by omega)]
    · rename_i plain
      cases read
      rw [if_neg plain, List.drop_append_of_le_length (by omega)]

theorem wireSpecs_append {ipfix : Bool} {count : Nat} {bytes rest : Bytes} {fields : List Field}
    (read : wireSpecs ipfix count bytes = some (fields, rest)) (more : Bytes) :
    wireSpecs ipfix count (bytes ++ more) = some (fields, rest ++ more) := by
  induction count generalizing bytes fields with
  | zero =>
    cases read
    rfl
  | succ count inductionHypothesis =>
    simp only [wireSpecs] at read ⊢
    cases spec : wireSpec ipfix bytes with
    | none => simp [spec] at read
    | some head =>
      simp only [spec, Option.map_eq_some_iff, Prod.exists, Prod.mk.injEq] at read
      obtain ⟨tail, last, tailRead, rfl, rfl⟩ := read
      simp only [wireSpec_append spec more, inductionHypothesis tailRead, Option.map_some]

theorem wireSpecs_add {ipfix : Bool} {first second : Nat} {bytes middle rest : Bytes}
    {front back : List Field} (frontRead : wireSpecs ipfix first bytes = some (front, middle))
    (backRead : wireSpecs ipfix second middle = some (back, rest)) :
    wireSpecs ipfix (first + second) bytes = some (front ++ back, rest) := by
  induction first generalizing bytes front with
  | zero =>
    cases frontRead
    rw [Nat.zero_add]
    exact backRead
  | succ first inductionHypothesis =>
    rw [Nat.succ_add]
    simp only [wireSpecs] at frontRead ⊢
    cases spec : wireSpec ipfix bytes with
    | none => simp [spec] at frontRead
    | some head =>
      simp only [spec, Option.map_eq_some_iff, Prod.exists, Prod.mk.injEq] at frontRead
      obtain ⟨tail, last, tailRead, rfl, rfl⟩ := frontRead
      simp [inductionHypothesis tailRead]

/-! ## Template sets -/

/-- The complete templates of a template set, up to the first truncated one. -/
def wireTemplates (ipfix : Bool) (bytes : Bytes) : List (Nat × List Field) :=
  if bytes.length < 4 then []
  else if num bytes 2 2 = 0 then wireTemplates ipfix (bytes.drop 4)
  else
    match _read : wireSpecs ipfix (num bytes 2 2) (bytes.drop 4) with
    | none => []
    | some (fields, rest) => (num bytes 0 2, fields) :: wireTemplates ipfix rest
termination_by bytes.length
decreasing_by
  · simp; omega
  · have shorter := wireSpecs_length_le _read
    simp at shorter
    omega

theorem wireTemplates_eq (ipfix : Bool) (bytes : Bytes) : wireTemplates ipfix bytes =
    if bytes.length < 4 then []
    else if num bytes 2 2 = 0 then wireTemplates ipfix (bytes.drop 4)
    else
      match wireSpecs ipfix (num bytes 2 2) (bytes.drop 4) with
      | none => []
      | some (fields, rest) => (num bytes 0 2, fields) :: wireTemplates ipfix rest := by
  rw [wireTemplates]
  congr 2
  split <;> simp_all

/-- The options templates of an IPFIX set: field counts, a zero count ending the set. -/
def wireOptionsIpfix (bytes : Bytes) : List (Nat × List Field) :=
  if bytes.length < 6 then []
  else if num bytes 2 2 = 0 then []
  else
    match _read : wireSpecs true (num bytes 2 2) (bytes.drop 6) with
    | none => []
    | some (fields, rest) => (num bytes 0 2, fields) :: wireOptionsIpfix rest
termination_by bytes.length
decreasing_by
  have shorter := wireSpecs_length_le _read
  simp at shorter
  omega

theorem wireOptionsIpfix_eq (bytes : Bytes) : wireOptionsIpfix bytes =
    if bytes.length < 6 then []
    else if num bytes 2 2 = 0 then []
    else
      match wireSpecs true (num bytes 2 2) (bytes.drop 6) with
      | none => []
      | some (fields, rest) => (num bytes 0 2, fields) :: wireOptionsIpfix rest := by
  rw [wireOptionsIpfix]
  congr 2
  split <;> simp_all

/-- The options templates of a v9 set: byte lengths of the two halves.  Misaligned
ones are skipped, one that overruns the set or declares nothing ends it. -/
def wireOptionsV9 (bytes : Bytes) : List (Nat × List Field) :=
  if bytes.length < 6 then []
  else
    let scopeLen := num bytes 2 2
    let optLen := num bytes 4 2
    let rest := bytes.drop (6 + scopeLen + optLen)
    if bytes.length < 6 + scopeLen + optLen then []
    else if scopeLen % 4 ≠ 0 ∨ optLen % 4 ≠ 0 then wireOptionsV9 rest
    else
      match wireSpecs false ((scopeLen + optLen) / 4) (bytes.drop 6) with
      | none => []
      | some ([], _) => []
      | some (field :: fields, _) => (num bytes 0 2, field :: fields) :: wireOptionsV9 rest
termination_by bytes.length
decreasing_by all_goals simp; omega

def wireOptions (ipfix : Bool) (bytes : Bytes) : List (Nat × List Field) :=
  if ipfix then wireOptionsIpfix bytes else wireOptionsV9 bytes

/-! ## Data sets -/

/-- The bytes of the next field, its length prefix read and dropped. -/
def wireField (ipfix : Bool) (flen : Nat) (bytes : Bytes) : Option (Bytes × Bytes) :=
  if ipfix ∧ flen = variableLength then
    if bytes.length < 1 then none
    else if num bytes 0 1 = 255 then
      if bytes.length < 3 then none
      else if bytes.length < 3 + num bytes 1 2 then none
      else some (slice bytes 3 (3 + num bytes 1 2), bytes.drop (3 + num bytes 1 2))
    else if bytes.length < 1 + num bytes 0 1 then none
    else some (slice bytes 1 (1 + num bytes 0 1), bytes.drop (1 + num bytes 0 1))
  else if bytes.length < flen then none
  else some (bytes.take flen, bytes.drop flen)

/-- One record, from what is decoded of it so far, and the bytes behind it. -/
def wireRecord (ipfix dedupe : Bool) : List Field → Rec → Bytes → Option (Rec × Bytes)
  | [], rec, bytes => some (rec, bytes)
  | field :: fields, rec, bytes =>
    match wireField ipfix field.length bytes with
    | none => none
    | some (raw, rest) =>
      wireRecord ipfix dedupe fields (rec.assign dedupe field.name (decodeValue raw field.kind)) rest

/-- The records of a data set. -/
def wireRecords (ipfix : Bool) (fields : List Field) (bytes : Bytes) : List Rec :=
  if bytes.length < recordMinLength fields then []
  else
    match wireRecord ipfix (repeatsName fields) fields .empty bytes with
    | none => []
    | some (rec, rest) =>
      if rest.length < bytes.length then rec :: wireRecords ipfix fields rest else []
termination_by bytes.length

/-! ## Messages -/

/-- A set of a message body: its ID, the bytes behind its header, and whether it
declares more than the body carries. -/
structure RawSet where
  id : Nat
  content : Bytes
  cut : Bool
  deriving DecidableEq

/-- The sets of a message body. -/
def wireSets (bytes : Bytes) : List RawSet :=
  if bytes.length < 4 then []
  else if num bytes 2 2 < 4 then []
  else
    ⟨num bytes 0 2, (bytes.take (num bytes 2 2)).drop 4, decide (bytes.length < num bytes 2 2)⟩ ::
      wireSets (bytes.drop (num bytes 2 2))
termination_by bytes.length
decreasing_by simp; omega

def putAll (exporter : Exporter) (domain : Nat) (options : Bool) (sink : Sink)
    (templates : List (Nat × List Field)) : Sink :=
  templates.foldl (fun sink template => sink.put ⟨exporter, domain, template.1⟩ template.2 options) sink

def appendAll (isOptions : Bool) (sink : Sink) (records : List Rec) : Sink :=
  records.foldl (fun sink rec => sink.append isOptions rec) sink

/-- What a data set adds, given the template its ID looked up. -/
def applyData (ipfix : Bool) (content : Bytes) (held : Option (List Field) × Bool) (sink : Sink) : Sink :=
  match held.1 with
  | none | some [] => sink.deferred
  | some (field :: fields) => appendAll held.2 sink (wireRecords ipfix (field :: fields) content)

/-- What one set does. -/
def applyContent (exporter : Exporter) (domain : Nat) (ipfix : Bool) (setId : Nat) (content : Bytes)
    (sink : Sink) : Sink :=
  if setId = templateSetId ipfix then putAll exporter domain false sink (wireTemplates ipfix content)
  else if setId = optionsSetId ipfix then putAll exporter domain true sink (wireOptions ipfix content)
  else if 256 ≤ setId then
    let held := sink.get ⟨exporter, domain, setId⟩
    applyData ipfix content held.1 held.2
  else sink

def applySet (exporter : Exporter) (domain : Nat) (ipfix : Bool) (sink : Sink) (set : RawSet) : Sink :=
  applyContent exporter domain ipfix set.id set.content (if set.cut then sink.markTruncated else sink)

/-- What a message body does. -/
def applyBody (exporter : Exporter) (domain : Nat) (ipfix : Bool) (sink : Sink) (body : Bytes) : Sink :=
  (wireSets body).foldl (applySet exporter domain ipfix) sink

/-- The end of a message: truncation is booked, and the lists are handed over. -/
def finishMessage (header : Header) (ipfix : Bool) (body : Bytes) (sink : Sink) : Parsed × Sink :=
  let after := (applyBody header.exporter header.domain ipfix sink body).close
  (⟨some header, after.records, after.options⟩, after)

def ipfixHeader (data : Bytes) (exporter : Exporter) : Header where
  version := 10
  sysUptime := none
  unixSecs := num data 4 4
  sequence := num data 8 4
  domain := num data 12 4
  exporter := exporter

def v9Header (data : Bytes) (exporter : Exporter) : Header where
  version := 9
  sysUptime := some (num data 4 4)
  unixSecs := num data 8 4
  sequence := num data 12 4
  domain := num data 16 4
  exporter := exporter

/-- Where an IPFIX message ends: at its declared length, if it declares one. -/
def ipfixEnd (data : Bytes) : Nat :=
  if num data 2 2 ≠ 0 then min (num data 2 2) data.length else data.length

/-- What a v9 or IPFIX datagram means. -/
def applyMessage (data : Bytes) (exporter : Exporter) (sink : Sink) : Parsed × Sink :=
  if data.length < 2 then (⟨none, [], []⟩, sink)
  else if num data 0 2 = 10 then
    if data.length < ipfixHeaderSize then (⟨none, [], []⟩, sink)
    else finishMessage (ipfixHeader data exporter) true (slice data ipfixHeaderSize (ipfixEnd data))
      (if num data 2 2 > data.length then sink.markTruncated else sink)
  else
    if data.length < v9HeaderSize then (⟨none, [], []⟩, sink)
    else finishMessage (v9Header data exporter) false (slice data v9HeaderSize data.length) sink

theorem applyMessage_of_ipfix {data : Bytes} (version : num data 0 2 = 10) (long : ipfixHeaderSize ≤ data.length)
    (exporter : Exporter) (sink : Sink) : applyMessage data exporter sink =
      finishMessage (ipfixHeader data exporter) true (slice data ipfixHeaderSize (ipfixEnd data))
        (if num data 2 2 > data.length then sink.markTruncated else sink) := by
  have size : ipfixHeaderSize = 16 := rfl
  rw [applyMessage, if_neg (by omega), if_pos version, if_neg (by omega)]

theorem applyMessage_of_v9 {data : Bytes} (version : num data 0 2 ≠ 10) (long : v9HeaderSize ≤ data.length)
    (exporter : Exporter) (sink : Sink) : applyMessage data exporter sink =
      finishMessage (v9Header data exporter) false (slice data v9HeaderSize data.length) sink := by
  have size : v9HeaderSize = 20 := rfl
  rw [applyMessage, if_neg (by omega), if_neg version, if_neg (by omega)]

/-! ## NetFlow v5 -/

/-- At most `count` records from the front: a partial one ends them. -/
def wireV5 : (count : Nat) → Bytes → List Rec
  | 0, _ => []
  | count + 1, bytes =>
    if bytes.length < v5RecordSize then []
    else v5Record (bytes.take v5RecordSize) :: wireV5 count (bytes.drop v5RecordSize)

def v5Header (data : Bytes) (exporter : Exporter) : Header where
  version := 5
  sysUptime := some (num data 4 4)
  unixSecs := num data 8 4
  sequence := num data 16 4
  domain := num data 21 1
  exporter := exporter

/-- What a v5 datagram means. -/
def applyV5 (data : Bytes) (exporter : Exporter) (stats : Stats) : Parsed × Stats :=
  if data.length < v5HeaderSize then (⟨none, [], []⟩, stats)
  else
    let records := wireV5 (num data 2 2) (slice data v5HeaderSize data.length)
    (⟨some (v5Header data exporter), records, v5Options (num data 22 2)⟩,
      if records.length < num data 2 2 then { stats with truncated := stats.truncated + 1 } else stats)

end Netflume
