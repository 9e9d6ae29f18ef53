import Netflume.Library.BoundedReads
import Netflume.Text
import Netflume.Ie
import Netflume.TemplateStore

/-! # The parsing layer

`decode_value`, `parse_v5`, `parse_v9_or_ipfix` and `parse_message`, offset by
offset.  A read outside the datagram stops the computation with the exception
Python would raise, and every `while` loop runs on fuel, so that neither safety
nor termination is assumed: both are theorems about these definitions.

The sets of a message are processed inside `Proc.within`, which labels their
reads with the extent the set declares. -/

namespace Netflume

open Library

/-- A Python exception: the name of its type, and its text. -/
structure PyError where
  typeName : String
  text : String
  deriving DecidableEq, Repr

/-- Why a computation stopped: an exception, or a loop that outran its fuel. -/
inductive Stop where
  | raised (error : PyError)
  | outOfFuel
  deriving DecidableEq, Repr

abbrev Parse (σ : Type) := Proc Stop σ

/-- The keys of the `stats` counter, a missing key being zero. -/
structure Stats where
  packets : Nat := 0
  bytesRx : Nat := 0
  malformed : Nat := 0
  unsupportedVersion : Nat := 0
  parseErrors : Nat := 0
  v5Msgs : Nat := 0
  v9Msgs : Nat := 0
  v10Msgs : Nat := 0
  flows : Nat := 0
  optionRecords : Nat := 0
  missedExports : Nat := 0
  templatesNew : Nat := 0
  deferred : Nat := 0
  truncated : Nat := 0
  eventsDropped : Nat := 0
  rejected : Nat := 0
  deriving DecidableEq, Repr

/-- The header dict of an export message; only v5 and v9 carry an uptime. -/
structure Header where
  version : Nat
  sysUptime : Option Nat
  unixSecs : Nat
  sequence : Nat
  domain : Nat
  exporter : Exporter
  deriving DecidableEq, Repr

/-! ## Field values -/

/-- Seconds between the NTP epoch and the UNIX epoch. -/
def ntpEpoch : Int := 2208988800

/-- Small buffers are almost always integers, otherwise hex. -/
def fallbackValue (raw : Bytes) : Value :=
  if 0 < raw.length ∧ raw.length ≤ 8 then .int (beNat raw) else .str (hexString raw)

def ntpValue (word : Nat) : Value :=
  if word = 0 then .int 0
  else .float (((word / 2 ^ 32 : Nat) - ntpEpoch : Int) + ((word % 2 ^ 32 : Nat) : Rat) / 4294967296)

/-- `decode_value`. -/
def decodeValue (raw : Bytes) (kind : Kind) : Value :=
  match kind with
  | .ipv4 => if raw.length = 4 then .str (inetNtoa raw) else fallbackValue raw
  | .ipv6 => if raw.length = 16 then .str (ipv6String raw) else fallbackValue raw
  | .ntp => if raw.length = 8 then ntpValue (beNat raw) else fallbackValue raw
  | .mac => .str (":".intercalate (raw.map fun byte => String.ofList (hexByte byte)))
  | .string => .str (decodeText raw)
  | .uint => .int (beNat raw)
  | .auto => fallbackValue raw

/-- Membership in `UNSPECIFIED`; a float zero equals the integer. -/
def Value.unspecified : Value → Bool
  | .int number => number == 0
  | .str text => text == "" || text == "0.0.0.0" || text == "::"
  | .float number => number == 0

/-! ## Reading the datagram -/

/-- The unsigned number in bytes `[at, at + width)` of an unpacked buffer. -/
def num (raw : Bytes) (start width : Nat) : Nat := beNat (slice raw start (start + width))

def structError (off width size : Nat) : PyError where
  typeName := "error"
  text := "unpack_from requires a buffer of at least " ++ Nat.repr (off + width) ++
    " bytes for unpacking " ++ Nat.repr width ++ " bytes at offset " ++ Nat.repr off ++
    " (actual buffer size is " ++ Nat.repr size ++ ")"

section Reading

variable {σ : Type}

/-- The bytes a `Struct.unpack_from` of `width` bytes reads at `off`. -/
def unpackFrom (data : Bytes) (off width : Nat) : Parse σ Bytes := do
  Proc.access data.length off width (.raised (structError off width data.length))
  pure (slice data off (off + width))

/-- `data[off]`. -/
def indexByte (data : Bytes) (off : Nat) : Parse σ Nat := do
  Proc.access data.length off 1 (.raised ⟨"IndexError", "index out of range"⟩)
  pure (num data off 1)

/-- `data[off:off + length]`. -/
def readSlice (data : Bytes) (off length : Nat) : Parse σ Bytes := do
  Proc.glance off length
  pure (slice data off (off + length))

/-! ## Templates -/

/-- One field specification, or `none` where the set ends inside an enterprise one. -/
def readSpec (data : Bytes) (off fin : Nat) (ipfix : Bool) : Parse σ (Option Field × Nat) := do
  let raw ← unpackFrom data off 4
  let eid := num raw 0 2
  let flen := num raw 2 2
  if ipfix ∧ eid &&& 0x8000 ≠ 0 then
    let eid := eid &&& 0x7FFF
    if off + 4 + 4 > fin then pure (none, off + 4)
    else do
      let enterprise := num (← unpackFrom data (off + 4) 4) 0 4
      pure (some (Field.named eid (some enterprise) flen), off + 8)
  else pure (some (Field.named eid none flen), off + 4)

/-- The loop of `read_template_fields`; without a count a template swallows the ones behind it. -/
def readTemplateFieldsLoop (data : Bytes) (fin : Nat) (ipfix : Bool) (count : Option Nat) :
    (fuel off : Nat) → (fields : List Field) → Parse σ (List Field × Nat)
  | 0, _, _ => Proc.raise .outOfFuel
  | fuel + 1, off, fields =>
    if off + 4 ≤ fin then
      if count.any (· ≤ fields.length) then pure (fields, off)
      else do
        match ← readSpec data off fin ipfix with
        | (none, off) => pure (fields, off)
        | (some field, off) => readTemplateFieldsLoop data fin ipfix count fuel off (fields ++ [field])
    else pure (fields, off)

/-- `read_template_fields`: the fields before `fin`, at most `count` of them, and
the offset behind them. -/
def readTemplateFields (data : Bytes) (off fin : Nat) (ipfix : Bool) (count : Option Nat) :
    Parse σ (List Field × Nat) :=
  readTemplateFieldsLoop data fin ipfix count (fin - off + 1) off []

/-- `record_min_length`: the fewest bytes a record of the template can occupy. -/
def recordMinLength (fields : List Field) : Nat :=
  max (fields.map fun field => if field.length = variableLength then 1 else field.length).sum 1

/-! ## Data records -/

/-- `rec[name] = value`, unless `dedupe` protects what is there. -/
def Rec.assign (dedupe : Bool) (rec : Rec) (name : String) (value : Value) : Rec :=
  if dedupe && value.unspecified && rec.contains name then rec else rec.set name value

/-- The width of the next field and where its bytes start, or `none` where the
set ends inside a length prefix.  A prefix of 255 announces the three-byte form. -/
def fieldExtent (data : Bytes) (off setEnd : Nat) (ipfix : Bool) (flen : Nat) :
    Parse σ (Option (Nat × Nat)) :=
  if ipfix ∧ flen = variableLength then
    if setEnd ≤ off then pure none
    else do
      let length ← indexByte data off
      if length = 255 then
        if off + 1 + 2 > setEnd then pure none
        else do
          let raw ← unpackFrom data (off + 1) 2
          pure (some (num raw 0 2, off + 3))
      else pure (some (length, off + 1))
  else pure (some (flen, off))

/-- `parse_data_record`, from the record decoded so far; one that reaches past its set is dropped whole. -/
def parseDataRecord (data : Bytes) (setEnd : Nat) (ipfix dedupe : Bool) :
    (fields : List Field) → (off : Nat) → (rec : Rec) → Parse σ (Option Rec × Nat)
  | [], off, rec => pure (some rec, off)
  | field :: fields, off, rec => do
    match ← fieldExtent data off setEnd ipfix field.length with
    | none => pure (none, setEnd)
    | some (length, off) =>
      if off + length > setEnd then pure (none, setEnd)
      else do
        let raw ← readSlice data off length
        parseDataRecord data setEnd ipfix dedupe fields (off + length)
          (rec.assign dedupe field.name (decodeValue raw field.kind))

end Reading

/-! ## NetFlow v5 -/

def v5HeaderSize : Nat := 24

def v5RecordSize : Nat := 48

def recordOf (entries : List (String × Value)) : Rec :=
  entries.foldl (fun rec entry => rec.set entry.1 entry.2) .empty

/-- The flow record made of the 48 bytes of one v5 record. -/
def v5Record (raw : Bytes) : Rec := recordOf [
  ("src_addr", .str (inetNtoa (slice raw 0 4))), ("dst_addr", .str (inetNtoa (slice raw 4 8))),
  ("next_hop", .str (inetNtoa (slice raw 8 12))),
  ("in_if", .int (num raw 12 2)), ("out_if", .int (num raw 14 2)),
  ("packets", .int (num raw 16 4)), ("octets", .int (num raw 20 4)),
  ("first_switched", .int (num raw 24 4)), ("last_switched", .int (num raw 28 4)),
  ("src_port", .int (num raw 32 2)), ("dst_port", .int (num raw 34 2)),
  ("tcp_flags", .int (num raw 37 1)), ("proto", .int (num raw 38 1)), ("tos", .int (num raw 39 1)),
  ("src_as", .int (num raw 40 2)), ("dst_as", .int (num raw 42 2)),
  ("src_mask", .int (num raw 44 1)), ("dst_mask", .int (num raw 45 1))]

/-- The records of a v5 datagram: at most `count`, from `off` on, and fewer if fewer arrived. -/
def v5RecordLoop {σ : Type} (data : Bytes) : (count off : Nat) → Parse σ (List Rec)
  | 0, _ => pure []
  | count + 1, off =>
    if off + v5RecordSize > data.length then pure []
    else do
      let raw ← unpackFrom data off v5RecordSize
      let rest ← v5RecordLoop data count (off + v5RecordSize)
      pure (v5Record raw :: rest)

/-- The sampling word as an option record: only actual sampling is reported. -/
def v5Options (sampling : Nat) : List Rec :=
  if sampling >>> 14 ≠ 0 ∧ sampling &&& 0x3FFF > 1 then
    [recordOf [("sampling_interval", .int (sampling &&& 0x3FFF)),
      ("sampling_algorithm", .int (sampling >>> 14))]]
  else []

/-- What a parse returns: the header, if there was one, flows and options. -/
structure Parsed where
  header : Option Header
  records : List Rec
  options : List Rec
  deriving DecidableEq

/-- `parse_v5`. -/
def parseV5 (data : Bytes) (exporter : Exporter) : Parse Stats Parsed :=
  if data.length < v5HeaderSize then pure ⟨none, [], []⟩
  else do
    let raw ← unpackFrom data 0 v5HeaderSize
    let count := num raw 2 2
    let header : Header :=
      { version := 5, sysUptime := some (num raw 4 4), unixSecs := num raw 8 4,
        sequence := num raw 16 4, domain := num raw 21 1, exporter }
    let records ← v5RecordLoop data count v5HeaderSize
    Proc.update fun stats =>
      ((), if records.length < count then { stats with truncated := stats.truncated + 1 } else stats)
    pure ⟨some header, records, v5Options (num raw 22 2)⟩

/-! ## NetFlow v9 and IPFIX -/

/-- A call the parser makes on the template store. -/
inductive StoreCall where
  | put (key : TemplateKey) (fields : List Field) (options : Bool)
  | get (key : TemplateKey)
  deriving DecidableEq, Repr

/-- What one parse works on: the caller's store and counters, the calls made on
the store, and the parser's own lists and truncation flag. -/
structure Sink where
  store : TemplateStore
  stats : Stats
  calls : List StoreCall := []
  records : List Rec := []
  options : List Rec := []
  truncated : Bool := false

namespace Sink

/-- `if store.put(...): stats["templates_new"] += 1`. -/
def put (sink : Sink) (key : TemplateKey) (fields : List Field) (options : Bool) : Sink :=
  let (learned, store) := sink.store.put key fields options
  { sink with
    store := store
    calls := sink.calls ++ [.put key fields options]
    stats := if learned then { sink.stats with templatesNew := sink.stats.templatesNew + 1 }
      else sink.stats }

def get (sink : Sink) (key : TemplateKey) : (Option (List Field) × Bool) × Sink :=
  let (held, store) := sink.store.get key
  (held, { sink with store := store, calls := sink.calls ++ [.get key] })

def deferred (sink : Sink) : Sink :=
  { sink with stats := { sink.stats with deferred := sink.stats.deferred + 1 } }

/-- `sink.append(rec)`, to the list the template's kind selects. -/
def append (sink : Sink) (isOptions : Bool) (rec : Rec) : Sink :=
  if isOptions then { sink with options := sink.options ++ [rec] }
  else { sink with records := sink.records ++ [rec] }

def markTruncated (sink : Sink) : Sink := { sink with truncated := true }

/-- The end of the parse: truncation is counted once per message. -/
def close (sink : Sink) : Sink :=
  if sink.truncated then
    { sink with stats := { sink.stats with truncated := sink.stats.truncated + 1 } }
  else sink

end Sink

def act (change : Sink → Sink) : Parse Sink Unit := Proc.update fun sink => ((), change sink)

section Sets

variable (data : Bytes) (exporter : Exporter) (domain : Nat) (ipfix : Bool)

/-- The body of a template set.  A header that declares no fields is followed by the next one; a set that ends
mid-template is left there. -/
def templateSetLoop (setEnd : Nat) : (fuel body : Nat) → Parse Sink Unit
  | 0, _ => Proc.raise .outOfFuel
  | fuel + 1, body =>
    if body + 4 ≤ setEnd then do
      let raw ← unpackFrom data body 4
      let tid := num raw 0 2
      let fieldCount := num raw 2 2
      if fieldCount = 0 then templateSetLoop setEnd fuel (body + 4)
      else do
        let (fields, next) ← readTemplateFields data (body + 4) setEnd ipfix (some fieldCount)
        if fields.length ≠ fieldCount then pure ()
        else do
          act fun sink => sink.put ⟨exporter, domain, tid⟩ fields false
          templateSetLoop setEnd fuel next
    else pure ()

/-- The body of an options-template set: field counts in IPFIX, byte lengths in v9.  A template without fields ends
the set; a v9 one that is malformed or overruns is skipped by the lengths it declares. -/
def optionsTemplateSetLoop (setEnd : Nat) : (fuel body : Nat) → Parse Sink Unit
  | 0, _ => Proc.raise .outOfFuel
  | fuel + 1, body =>
    if body + 6 ≤ setEnd then do
      let raw ← unpackFrom data body 6
      let tid := num raw 0 2
      if ipfix then do
        let fieldCount := num raw 2 2
        let (fields, next) ← readTemplateFields data (body + 6) setEnd true (some fieldCount)
        if fields.length ≠ fieldCount then pure ()
        else if fields = [] then pure ()
        else do
          act fun sink => sink.put ⟨exporter, domain, tid⟩ fields true
          optionsTemplateSetLoop setEnd fuel next
      else do
        let scopeLen := num raw 2 2
        let optLen := num raw 4 2
        let start := body + 6
        let next := min (start + scopeLen + optLen) setEnd
        if scopeLen % 4 ≠ 0 ∨ optLen % 4 ≠ 0 ∨ start + scopeLen + optLen > setEnd then
          optionsTemplateSetLoop setEnd fuel next
        else do
          let (sfields, _) ← readTemplateFields data start (start + scopeLen) false none
          let (ofields, _) ← readTemplateFields data (start + scopeLen) next false none
          if sfields ++ ofields = [] then pure ()
          else do
            act fun sink => sink.put ⟨exporter, domain, tid⟩ (sfields ++ ofields) true
            optionsTemplateSetLoop setEnd fuel next
    else pure ()

/-- `len(set(names)) != len(names)`: whether a template repeats a name. -/
def repeatsName (fields : List Field) : Bool :=
  decide ¬ (fields.map Field.name).Nodup

/-- The records of a data set, up to one of no bytes, which would be read for ever. -/
def dataLoop (setEnd : Nat) (fields : List Field) (isOptions : Bool) :
    (fuel body : Nat) → Parse Sink Unit
  | 0, _ => Proc.raise .outOfFuel
  | fuel + 1, body =>
    if body + recordMinLength fields ≤ setEnd then do
      match ← parseDataRecord data setEnd ipfix (repeatsName fields) fields body .empty with
      | (none, _) => pure ()
      | (some rec, newBody) =>
        if newBody ≤ body then pure ()
        else do
          act fun sink => sink.append isOptions rec
          dataLoop setEnd fields isOptions fuel newBody
    else pure ()

/-- A data set: deferred when no template, or an empty one, is held for its ID. -/
def dataSet (setId body setEnd : Nat) : Parse Sink Unit := do
  let (fields, isOptions) ← Proc.update fun sink => sink.get ⟨exporter, domain, setId⟩
  match fields with
  | none | some [] => act Sink.deferred
  | some (field :: fields) =>
    dataLoop data ipfix setEnd (field :: fields) isOptions (setEnd - body + 1) body

def templateSetId : Nat := if ipfix then 2 else 0

def optionsSetId : Nat := if ipfix then 3 else 1

/-- One set, its ID deciding what its body holds. -/
def decodeSet (setId body setEnd : Nat) : Parse Sink Unit :=
  if setId = templateSetId ipfix then
    templateSetLoop data exporter domain ipfix setEnd (setEnd - body + 1) body
  else if setId = optionsSetId ipfix then
    optionsTemplateSetLoop data exporter domain ipfix setEnd (setEnd - body + 1) body
  else if 256 ≤ setId then dataSet data exporter domain ipfix setId body setEnd
  else pure ()

/-- The loop over the sets of a message, up to one shorter than its own header.  A set that overruns the message marks
it as cut, which in v9 is the only sign of a cut there is. -/
def setLoop (msgEnd : Nat) : (fuel off : Nat) → Parse Sink Unit
  | 0, _ => Proc.raise .outOfFuel
  | fuel + 1, off =>
    if off + 4 ≤ msgEnd then do
      let raw ← unpackFrom data off 4
      let setId := num raw 0 2
      let setLen := num raw 2 2
      if setLen < 4 then pure ()
      else do
        act fun sink => if off + setLen > msgEnd then sink.markTruncated else sink
        let setEnd := min (off + setLen) msgEnd
        Proc.within off (off + setLen) (decodeSet data exporter domain ipfix setId (off + 4) setEnd)
        setLoop msgEnd fuel setEnd
    else pure ()

end Sets

def v9HeaderSize : Nat := 20

def ipfixHeaderSize : Nat := 16

/-- The sets of a message from `off` to `msgEnd`, and what the parse returns. -/
def parseSets (data : Bytes) (header : Header) (ipfix : Bool) (off msgEnd : Nat) :
    Parse Sink Parsed := do
  setLoop data header.exporter header.domain ipfix msgEnd (msgEnd - off + 1) off
  act Sink.close
  Proc.update fun sink => (⟨some header, sink.records, sink.options⟩, sink)

/-- `parse_v9_or_ipfix`; an IPFIX message that declares no length ends with the datagram. -/
def parseV9OrIpfix (data : Bytes) (exporter : Exporter) : Parse Sink Parsed :=
  if data.length < 2 then pure ⟨none, [], []⟩
  else do
    let version := num (← unpackFrom data 0 2) 0 2
    if version = 10 then
      if data.length < ipfixHeaderSize then pure ⟨none, [], []⟩
      else do
        let raw ← unpackFrom data 0 ipfixHeaderSize
        let msgLen := num raw 2 2
        let header : Header :=
          { version := 10, unixSecs := num raw 4 4, sequence := num raw 8 4,
            domain := num raw 12 4, exporter, sysUptime := none }
        let msgEnd := if msgLen ≠ 0 then min msgLen data.length else data.length
        act fun sink => if msgLen > data.length then sink.markTruncated else sink
        parseSets data header true ipfixHeaderSize msgEnd
    else
      if data.length < v9HeaderSize then pure ⟨none, [], []⟩
      else do
        let raw ← unpackFrom data 0 v9HeaderSize
        let header : Header :=
          { version := 9, unixSecs := num raw 8 4, sequence := num raw 12 4,
            domain := num raw 16 4, exporter, sysUptime := some (num raw 4 4) }
        parseSets data header false v9HeaderSize data.length

/-! ## Running a parse on the caller's store and counters -/

/-- The outcome of a parse, the store and counters it leaves, the calls it made
on the store and the reads it made of the datagram. -/
structure ParseRun where
  outcome : Except Stop Parsed
  store : TemplateStore
  stats : Stats
  calls : List StoreCall
  reads : List Read

def runV5 (data : Bytes) (exporter : Exporter) (store : TemplateStore) (stats : Stats) : ParseRun :=
  let (outcome, after) := parseV5 data exporter ⟨stats, []⟩
  ⟨outcome, store, after.out, [], after.reads⟩

def runV9OrIpfix (data : Bytes) (exporter : Exporter) (store : TemplateStore) (stats : Stats) :
    ParseRun :=
  let (outcome, after) := parseV9OrIpfix data exporter ⟨{ store, stats }, []⟩
  ⟨outcome, after.out.store, after.out.stats, after.out.calls, after.reads⟩

/-- `parse_message` with a store. -/
def parseMessage (data : Bytes) (exporter : Exporter) (store : TemplateStore) (stats : Stats) :
    ParseRun :=
  if data.length < 2 then ⟨.ok ⟨none, [], []⟩, store, stats, [], []⟩
  else
    let version := num data 0 2
    if version = 5 then runV5 data exporter store stats
    else if version = 9 ∨ version = 10 then runV9OrIpfix data exporter store stats
    else
      ⟨.error (.raised ⟨"ValueError", "unsupported export version " ++ Nat.repr version⟩),
        store, stats, [], [⟨0, 2, none⟩]⟩

end Netflume
