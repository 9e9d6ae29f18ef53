import Netflume.Events

/-! # The sequence watch

Gaps in the counters exporters stamp on their messages.  Each stream is watched
until one reading of its counter lands exactly on the next message; that reading
becomes the rule for the stream, and until one does nothing is reported. -/

namespace Netflume

open Library

def seqModulus : Nat := 0x100000000

def maxPlausibleGap : Nat := 1000000

def maxReorder : Nat := 1000

def resyncAfter : Nat := 5

def maxStreams : Nat := 10000

structure StreamKey where
  exporter : Exporter
  domain : Nat
  version : Nat
  deriving DecidableEq, Repr

/-- What the counter of a stream counts. -/
inductive Mode where
  | messages | records
  deriving DecidableEq, Repr

structure StreamState where
  seq : Nat
  records : Nat
  mode : Option Mode
  backwards : Nat
  deriving DecidableEq, Repr

structure SequenceWatch where
  streams : OrderedDict StreamKey StreamState
  missed : OrderedDict StreamKey Nat
  units : OrderedDict StreamKey String
  resyncs : Nat
  backwards : Nat
  evicted : Nat
  maxStreams : Nat
  warned : OrderedDict Exporter Unit
  events : List ExportGap
  deriving DecidableEq

/-- The arguments of one call of `observe`. -/
structure Observation where
  exporter : Exporter
  domain : Nat
  version : Nat
  seq : Option Nat
  flows : Nat
  options : Nat
  deriving DecidableEq, Repr

namespace Observation

def key (obs : Observation) : StreamKey := ⟨obs.exporter, obs.domain, obs.version⟩

/-- IPFIX counts option records too: they are data records. -/
def records (obs : Observation) : Nat :=
  if obs.version = 10 then obs.flows + obs.options else obs.flows

end Observation

namespace StreamState

def byMessages (state : StreamState) : Nat := (state.seq + 1) % seqModulus

def byRecords (state : StreamState) : Nat := (state.seq + state.records) % seqModulus

/-- Which reading, if exactly one, lands on `seq`. -/
def learnMode (state : StreamState) (seq : Nat) : Option Mode :=
  if state.byMessages ≠ state.byRecords then
    if seq = state.byMessages then some .messages
    else if seq = state.byRecords then some .records
    else state.mode
  else state.mode

def expected (state : StreamState) : Mode → Nat
  | .messages => state.byMessages
  | .records => state.byRecords

end StreamState

/-- The distance from `expected` to `seq`, centred on half the modulus. -/
def signedGap (seq expected : Nat) : Int :=
  ((seq : Int) - expected + (seqModulus / 2 : Nat)) % (seqModulus : Int) - (seqModulus / 2 : Nat)

namespace SequenceWatch

/-- `SequenceWatch(max_streams)`. -/
def new (maxStreams : Nat) : SequenceWatch where
  streams := .empty
  missed := .empty
  units := .empty
  resyncs := 0
  backwards := 0
  evicted := 0
  maxStreams := maxStreams
  warned := .empty
  events := []

/-- `_evict`: drop the least recently seen streams, and everything keyed by them. -/
def evict (watch : SequenceWatch) : SequenceWatch :=
  let (popped, streams) := watch.streams.trim watch.maxStreams
  { watch with
    streams := streams
    missed := popped.foldl (fun missed entry => missed.erase entry.1) watch.missed
    units := popped.foldl (fun units entry => units.erase entry.1) watch.units
    evicted := watch.evicted + popped.length
    warned := (watch.warned.trim watch.maxStreams).2 }

/-- `_unit`. -/
def unit (mode : Mode) (version : Nat) : String :=
  match mode with
  | .messages => "export messages"
  | .records => if version = 5 then "flow records" else "data records"

def setState (watch : SequenceWatch) (key : StreamKey) (state : StreamState) : SequenceWatch :=
  { watch with streams := watch.streams.set key state }

/-- A stream seen for the first time. -/
def firstSeen (watch : SequenceWatch) (key : StreamKey) (seq records : Nat) : SequenceWatch :=
  (watch.setState key ⟨seq, records, none, 0⟩).evict

/-- Book a loss, and warn of the first one of an exporter. -/
def recordLoss (watch : SequenceWatch) (key : StreamKey) (mode : Mode) (gap : Nat) : SequenceWatch :=
  let booked := { watch with
    missed := watch.missed.set key ((watch.missed.get? key).getD 0 + gap)
    units := watch.units.set key (unit mode key.version) }
  if watch.warned.contains key.exporter then booked
  else { booked with
    warned := watch.warned.set key.exporter ()
    events := watch.events ++
      [⟨key.exporter, key.domain, key.version, gap, unit mode key.version⟩] }

/-- A message of a stream whose rule is known.  A short step back is a repeat or a reordering, and leaves the
high-water mark; a long one, a run of them, or a step too far ahead is a restart. -/
def judge (watch : SequenceWatch) (key : StreamKey) (state : StreamState) (mode : Mode)
    (seq records : Nat) : Nat × SequenceWatch :=
  let gap := signedGap seq (state.expected mode)
  if gap < 0 then
    if -(maxReorder : Int) ≤ gap ∧ state.backwards + 1 < resyncAfter then
      (0, { watch.setState key { state with backwards := state.backwards + 1 } with
        backwards := watch.backwards + 1 })
    else
      (0, { watch.setState key { state with seq := seq, records := records, backwards := 0 } with
        resyncs := watch.resyncs + 1 })
  else
    let moved := watch.setState key { state with seq := seq, records := records, backwards := 0 }
    if gap = 0 then (0, moved)
    else if (maxPlausibleGap : Int) < gap then (0, { moved with resyncs := watch.resyncs + 1 })
    else (gap.toNat, moved.recordLoss key mode gap.toNat)

/-- `observe`: fold in one message, and return how many exports are missing.  A stream still learning is silent: the
wrong rule would invent a loss on every message. -/
def observe (watch : SequenceWatch) (obs : Observation) : Nat × SequenceWatch :=
  match obs.seq with
  | none => (0, watch)
  | some seq =>
    match watch.streams.get? obs.key with
    | none => (0, watch.firstSeen obs.key seq obs.records)
    | some state =>
      let watch := { watch with streams := watch.streams.moveToEnd obs.key }
      match state.mode with
      | none =>
        (0, watch.setState obs.key
          { state with seq := seq, records := obs.records, mode := state.learnMode seq })
      | some mode => watch.judge obs.key state mode seq obs.records

/-- `take_events`. -/
def takeEvents (watch : SequenceWatch) : List ExportGap × SequenceWatch :=
  (watch.events, { watch with events := [] })

/-- The watch after a run of observations. -/
def observeAll (watch : SequenceWatch) (run : List Observation) : SequenceWatch :=
  run.foldl (fun watch obs => (watch.observe obs).2) watch

end SequenceWatch

end Netflume
