import Mathlib.Algebra.Order.Ring.Rat
import Netflume.Decoder

/-! # The typed view

`Flow`, made of a decoded record and the header it arrived under.  A record may
hold an integer of any size, a float or text under any name, so every arithmetic
step can raise what Python raises for its operands.

How the arithmetic of floats rounds is a parameter: the identity makes it exact. -/

namespace Netflume

open Library

/-! ## Numbers -/

/-- A number as Python has them; `nonFinite` stands for the infinities and NaN. -/
inductive Number where
  | int (value : Int)
  | float (value : Rat)
  | nonFinite
  deriving DecidableEq, Repr

def unsupportedOperands (operator left right : String) : PyError where
  typeName := "TypeError"
  text := "unsupported operand type(s) for " ++ operator ++ ": '" ++ left ++ "' and '" ++ right ++ "'"

def notComparable (operator left right : String) : PyError where
  typeName := "TypeError"
  text := "'" ++ operator ++ "' not supported between instances of '" ++ left ++ "' and '" ++ right ++ "'"

/-- The integer rounds to a double. -/
def fitsDouble (value : Int) : Bool := !quotientOverflows value.natAbs 1

section Arithmetic

variable (round : Rat → Rat)

namespace Number

/-- The operand as a float. -/
def toFloat : Number → Except PyError Number
  | .int value =>
    if fitsDouble value then .ok (.float (round value))
    else .error ⟨"OverflowError", "int too large to convert to float"⟩
  | .float value => .ok (.float value)
  | .nonFinite => .ok .nonFinite

/-- `left - right` of floats. -/
def floatSub : Number → Number → Number
  | .float left, .float right => .float (round (left - right))
  | _, _ => .nonFinite

/-- `left - right`: of two integers exact, else in floats. -/
def sub : Number → Number → Except PyError Number
  | .int left, .int right => .ok (.int (left - right))
  | left, right => do pure (floatSub round (← left.toFloat round) (← right.toFloat round))

/-- `left + right` of floats. -/
def floatAdd : Number → Number → Number
  | .float left, .float right => .float (round (left + right))
  | _, _ => .nonFinite

/-- `left + right`: of two integers exact, else in floats. -/
def add : Number → Number → Except PyError Number
  | .int left, .int right => .ok (.int (left + right))
  | left, right => do pure (floatAdd round (← left.toFloat round) (← right.toFloat round))

/-- `number / divisor` of floats. -/
def floatDiv (divisor : Rat) : Number → Number
  | .float value => .float (round (value / divisor))
  | _ => .nonFinite

/-- `number / divisor`, the divisor a float. -/
def div (number : Number) (divisor : Rat) : Except PyError Number := do
  pure (floatDiv round divisor (← number.toFloat round))

/-- `abs(number) < bound`. -/
def within (bound : Rat) : Number → Bool
  | .int value => decide (|(value : Rat)| < bound)
  | .float value => decide (|value| < bound)
  | .nonFinite => false

end Number

namespace Value

def typeName : Value → String
  | .int _ => "int"
  | .str _ => "str"
  | .float _ => "float"

/-- The number, unless the value is text. -/
def number : Value → Option Number
  | .int number => some (.int number)
  | .float number => some (.float (round number))
  | .str _ => none

/-- `left - right`. -/
def sub (left right : Value) : Except PyError Number :=
  match left.number round, right.number round with
  | some first, some second => first.sub round second
  | _, _ => .error (unsupportedOperands "-" left.typeName right.typeName)

/-- `value / divisor`, the divisor a float. -/
def div (value : Value) (divisor : Rat) : Except PyError Number :=
  match value.number round with
  | some number => number.div round divisor
  | none => .error (unsupportedOperands "/" value.typeName "float")

/-- `left >= right`: numbers by their exact values, texts by code points. -/
def atLeast : Value → Value → Except PyError Bool
  | .int left, .int right => .ok (decide (right ≤ left))
  | .int left, .float right => .ok (decide (round right ≤ left))
  | .float left, .int right => .ok (decide ((right : Rat) ≤ round left))
  | .float left, .float right => .ok (decide (round right ≤ round left))
  | .str left, .str right => .ok (decide (right ≤ left))
  | left, right => .error (notComparable ">=" left.typeName right.typeName)

end Value

/-! ## Flows -/

/-- `flow_endpoints`. -/
def flowEndpoints (rec : Rec) : Option Value × Option Value :=
  ((rec.getTruthy "src_addr").or (rec.get? "post_nat_src_addr"),
    (rec.getTruthy "dst_addr").or (rec.get? "post_nat_dst_addr"))

/-- The absolute start times, and what each is divided by. -/
def startKeys : List (String × Rat) :=
  [("flow_start_ms", 1000), ("flow_start_s", 1), ("flow_start_us", 1), ("flow_start_ns", 1)]

/-- The first absolute start time that is set. -/
def startStamp (rec : Rec) : Option (Value × Rat) :=
  startKeys.findSome? fun key => (rec.getTruthy key.1).map fun value => (value, key.2)

/-- `base or now`. -/
def exportTime (header : Header) (now : Number) : Number :=
  if header.unixSecs ≠ 0 then .int header.unixSecs else now

/-- `flow_timestamp`; `clock` is what `time.time()` reads.  A wrapped uptime counter lands more than a day away. -/
def flowTimestamp (rec : Rec) (header : Header) (now : Option Number) (clock : Rat) : Except PyError Number :=
  match startStamp rec with
  | some (value, divisor) => value.div round divisor
  | none =>
    let now := now.getD (.float clock)
    match rec.get? "first_switched", header.sysUptime with
    | some first, some uptime =>
      if header.unixSecs ≠ 0 then do
        let elapsed ← (← Value.sub round (.int uptime) first).div round 1000
        let candidate ← Number.sub round (.int header.unixSecs) elapsed
        if (← candidate.sub round now).within 86400 then pure candidate else pure (exportTime header now)
      else pure (exportTime header now)
    | _, _ => pure (exportTime header now)

/-- The pairs of start and end times, and what their difference is divided by. -/
def durationKeys : List (String × String × Rat) := [
  ("flow_start_ms", "flow_end_ms", 1000), ("flow_start_s", "flow_end_s", 1),
  ("flow_start_us", "flow_end_us", 1), ("flow_start_ns", "flow_end_ns", 1),
  ("first_switched", "last_switched", 1000)]

/-- The loop of `flow_duration`. -/
def flowDurationLoop (rec : Rec) : List (String × String × Rat) → Except PyError (Option Number)
  | [] => .ok none
  | (startKey, endKey, divisor) :: keys =>
    match rec.getTruthy startKey, rec.getTruthy endKey with
    | some first, some last => do
      if ← last.atLeast round first then pure (some (← (← last.sub round first).div round divisor))
      else flowDurationLoop rec keys
    | _, _ => flowDurationLoop rec keys

/-- `flow_duration`. -/
def flowDuration (rec : Rec) : Except PyError (Option Number) := flowDurationLoop round rec durationKeys

/-- `_first`. -/
def firstOf (rec : Rec) (keys : List String) : Option Value := keys.findSome? rec.get?

/-- `Flow`. -/
structure Flow where
  raw : Rec
  exporter : Exporter
  version : Nat
  domain : Nat
  start : Number
  srcAddr : Option Value
  dstAddr : Option Value
  srcPort : Option Value
  dstPort : Option Value
  proto : Option Value
  octets : Option Value
  packets : Option Value
  tcpFlags : Option Value
  inIf : Option Value
  outIf : Option Value
  duration : Option Number
  samplingRate : Nat
  deriving DecidableEq

/-- `Flow.from_record`. -/
def Flow.fromRecord (rec : Rec) (header : Header) (samplingRate : Nat) (now : Option Number) (clock : Rat) :
    Except PyError Flow := do
  let (src, dst) := flowEndpoints rec
  let start ← flowTimestamp round rec header now clock
  let duration ← flowDuration round rec
  pure
    { raw := rec
      exporter := header.exporter
      version := header.version
      domain := header.domain
      start := start
      srcAddr := src
      dstAddr := dst
      srcPort := rec.get? "src_port"
      dstPort := rec.get? "dst_port"
      proto := rec.get? "proto"
      octets := firstOf rec ["octets", "octets_total"]
      packets := firstOf rec ["packets", "packets_total"]
      tcpFlags := rec.get? "tcp_flags"
      inIf := rec.get? "in_if"
      outIf := rec.get? "out_if"
      duration := duration
      samplingRate := samplingRate }

/-- `Flow.end`. -/
def Flow.endTime (flow : Flow) : Except PyError (Option Number) :=
  match flow.duration with
  | none => .ok none
  | some duration => do pure (some (← flow.start.add round duration))

/-- `Message.typed_flows`: the clock is read once, and only for a message with flows. -/
def Message.typedFlows (message : Message) (now : Option Number) (clock : Rat) : Except PyError (List Flow) :=
  let now := if now = none ∧ message.flows ≠ [] then some (.float clock) else now
  message.flows.mapM fun rec => Flow.fromRecord round rec message.header message.samplingRate now clock

end Arithmetic

/-! ## Plain data -/

/-- What the dict of a flow holds: a field of its record, a number, the exporter, or `None`. -/
inductive Plain where
  | field (value : Value)
  | number (value : Number)
  | exporter (exporter : Exporter)
  | none
  deriving DecidableEq

/-- `_jsonable`: only an exporter can be of a type outside `_JSON_SAFE`, and then becomes its `text`.  One that is
a number, a truth value or `None` has none, and stays as it is. -/
def Plain.jsonable (text : Nat → Option String) : Plain → Plain
  | .exporter (.obj identity) => (text identity).elim (.exporter (.obj identity)) fun text => .field (.str text)
  | plain => plain

/-- `METADATA_KEYS`. -/
def metadataKeys : List String := ["_exporter", "_version", "_timestamp", "_domain", "_duration", "_sampling_rate"]

namespace Flow

/-- What `as_dict` adds to the record's own entries. -/
def metadata (flow : Flow) : List (String × Plain) := [
  ("_exporter", .exporter flow.exporter), ("_version", .number (.int flow.version)),
  ("_timestamp", .number flow.start), ("_domain", .number (.int flow.domain)),
  ("_duration", flow.duration.elim .none .number), ("_sampling_rate", .number (.int flow.samplingRate))]

/-- `MODELLED_FIELDS`, with the flow's attribute of each name. -/
def modelledFields (flow : Flow) : List (String × Plain) := [
  ("exporter", .exporter flow.exporter), ("version", .number (.int flow.version)),
  ("domain", .number (.int flow.domain)), ("start", .number flow.start),
  ("duration", flow.duration.elim .none .number), ("src_addr", flow.srcAddr.elim .none .field),
  ("dst_addr", flow.dstAddr.elim .none .field), ("src_port", flow.srcPort.elim .none .field),
  ("dst_port", flow.dstPort.elim .none .field), ("proto", flow.proto.elim .none .field),
  ("octets", flow.octets.elim .none .field), ("packets", flow.packets.elim .none .field),
  ("tcp_flags", flow.tcpFlags.elim .none .field), ("in_if", flow.inIf.elim .none .field),
  ("out_if", flow.outIf.elim .none .field), ("sampling_rate", .number (.int flow.samplingRate))]

/-- `Flow.as_dict`. -/
def asDict (text : Nat → Option String) (includeRaw : Bool) (flow : Flow) : OrderedDict String Plain :=
  if includeRaw then
    (flow.raw.mapValues fun value => Plain.jsonable text (.field value)).setAll flow.metadata
  else OrderedDict.empty.setAll (flow.modelledFields.map fun entry => (entry.1, entry.2.jsonable text))

end Flow

end Netflume
