import Netflume.Library.TrueDivision
import Netflume.Parse

/-! # The sampling watch

The rate an option record states, and the last statement each observation domain
made. -/

namespace Netflume

open Library

def maxSamplingStreams : Nat := 10000

/-- The truth of a value in a condition. -/
def Value.truthy : Value → Bool
  | .int number => number != 0
  | .str text => text != ""
  | .float number => number != 0

/-- The integer behind a value.  Every element that names one of these fields
decodes to an integer, so what Python would make of a string or a float here is
not modelled: either counts as an error. -/
def Value.asInt : Value → Except PyError Nat
  | .int number => .ok number
  | .str _ => .error ⟨"TypeError", "unsupported operand type(s): 'str'"⟩
  | .float _ => .error ⟨"TypeError", "unsupported operand type(s): 'float'"⟩

/-- `max(1, int(round(numerator / denominator)))`. -/
def roundedRatio (numerator denominator : Nat) : Except PyError (Option Nat) :=
  match trueDiv numerator denominator with
  | none => .error ⟨"OverflowError", "integer division result too large for a float"⟩
  | some quotient => .ok (some (max 1 quotient.round))

/-- `rec.get(key)` when it is there and truthy. -/
def Rec.getTruthy (rec : Rec) (name : String) : Option Value :=
  (rec.get? name).filter Value.truthy

/-- The interval given directly: the first of the two elements that is not zero. -/
def statedInterval (rec : Rec) : Option Value :=
  (rec.getTruthy "sampling_interval").or (rec.getTruthy "sampler_interval")

/-- `sampling_rate`: `none` is silence, `some 1` an unsampled exporter.  A packet space of zero is a statement, a
missing one is silence. -/
def samplingRate (rec : Rec) : Except PyError (Option Nat) :=
  match statedInterval rec with
  | some value => do pure (some (max 1 (← value.asInt)))
  | none =>
    match rec.getTruthy "sampling_packet_interval", rec.get? "sampling_packet_space" with
    | some interval, some space => do
      let interval ← interval.asInt
      roundedRatio (interval + (← space.asInt)) interval
    | _, _ =>
      match rec.getTruthy "sampling_size", rec.getTruthy "sampling_population" with
      | some size, some population => do
        let size ← size.asInt
        let population ← population.asInt
        if size ≤ population then roundedRatio population size else pure none
      | _, _ => pure none

structure SamplingKey where
  exporter : Exporter
  domain : Nat
  deriving DecidableEq, Repr

structure SamplingWatch where
  rates : OrderedDict SamplingKey Nat
  evicted : Nat
  maxStreams : Nat
  events : List SamplingChange
  deriving DecidableEq

namespace SamplingWatch

/-- `SamplingWatch(max_streams)`. -/
def new (maxStreams : Nat) : SamplingWatch where
  rates := .empty
  evicted := 0
  maxStreams := maxStreams
  events := []

def announce (watch : SamplingWatch) (change : SamplingChange) :
    Option SamplingChange × SamplingWatch :=
  (some change, { watch with events := watch.events ++ [change] })

/-- A domain states that it samples nothing out: what was remembered is stale. -/
def clear (watch : SamplingWatch) (key : SamplingKey) : Option SamplingChange × SamplingWatch :=
  match watch.rates.get? key with
  | none => (none, watch)
  | some previous =>
    let popped := { watch with rates := watch.rates.erase key }
    if previous ≠ 0 then popped.announce ⟨key.exporter, key.domain, 1, some previous⟩
    else (none, popped)

/-- A domain states a rate above one. -/
def restate (watch : SamplingWatch) (key : SamplingKey) (rate : Nat) :
    Option SamplingChange × SamplingWatch :=
  let previous := watch.rates.get? key
  if previous = some rate then (none, { watch with rates := watch.rates.moveToEnd key })
  else
    let trimmed := ((watch.rates.set key rate).moveToEnd key).trim watch.maxStreams
    { watch with rates := trimmed.2, evicted := watch.evicted + trimmed.1.length }.announce
      ⟨key.exporter, key.domain, rate, previous⟩

/-- `note`: fold in one option record. -/
def note (watch : SamplingWatch) (key : SamplingKey) (rec : Rec) :
    Except PyError (Option SamplingChange) × SamplingWatch :=
  match samplingRate rec with
  | .error error => (.error error, watch)
  | .ok none => (.ok none, watch)
  | .ok (some rate) =>
    let (change, watch) := if rate = 1 then watch.clear key else watch.restate key rate
    (.ok change, watch)

/-- `rate_for`: of one domain, or of the exporter when its domains agree. -/
def rateFor (watch : SamplingWatch) (exporter : Exporter) (domain : Option Nat) : Nat :=
  match domain with
  | some domain => (watch.rates.get? ⟨exporter, domain⟩).getD 1
  | none =>
    match ((watch.rates.entries.filter fun entry => entry.1.exporter = exporter).map Prod.snd).dedup with
    | [rate] => rate
    | _ => 1

/-- `take_events`. -/
def takeEvents (watch : SamplingWatch) : List SamplingChange × SamplingWatch :=
  (watch.events, { watch with events := [] })

end SamplingWatch

end Netflume
