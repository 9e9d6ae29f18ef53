import Netflume.Library.Machine
import Netflume.Sequence
import Netflume.Sampling

/-! # The decoder

The parsing layer with its state attached.  Only the parse runs inside the `try`
of `decode`: the sequence watch, the sampling watch and the rate arithmetic come
after it, so what they raise reaches the caller. -/

namespace Netflume

open Library

def supportedVersions : List Nat := [5, 9, 10]

def maxPendingEvents : Nat := 10000

/-- One export datagram, decoded. -/
structure Message where
  header : Header
  flows : List Rec
  options : List Rec
  gap : Nat
  samplingRate : Nat
  deriving DecidableEq

structure Decoder where
  templates : TemplateStore
  stats : Stats
  sequence : Option SequenceWatch
  sampling : Option SamplingWatch
  events : List Event

namespace Decoder

/-- `Decoder(track_sequence, track_sampling)`. -/
def new (trackSequence trackSampling : Bool) : Decoder where
  templates := .new maxTemplates maxPendingTemplates
  stats := {}
  sequence := if trackSequence then some (.new maxStreams) else none
  sampling := if trackSampling then some (.new maxSamplingStreams) else none
  events := []

/-- `Decoder()`. -/
def fresh : Decoder := new true true

/-- Add one event, the oldest dropped past the ceiling. -/
def queueOne (decoder : Decoder) (event : Event) : Decoder :=
  if maxPendingEvents ≤ decoder.events.length then
    { decoder with
      events := decoder.events.tail ++ [event]
      stats := { decoder.stats with eventsDropped := decoder.stats.eventsDropped + 1 } }
  else { decoder with events := decoder.events ++ [event] }

/-- `_queue`. -/
def queue (decoder : Decoder) (events : List Event) : Decoder := events.foldl queueOne decoder

/-- `take_events`. -/
def takeEvents (decoder : Decoder) : List Event × Decoder :=
  (decoder.events, { decoder with events := [] })

def tally (decoder : Decoder) (change : Stats → Stats) : Decoder :=
  { decoder with stats := change decoder.stats }

/-- What `decode` returns or raises, and the decoder it leaves. -/
abbrev Outcome := Except Stop (Option Message) × Decoder

/-- `_fail`. -/
def fail (decoder : Decoder) (exporter : Exporter) (reason detail : String) (counted : Bool) : Outcome :=
  let decoder := if counted then decoder
    else decoder.tally fun stats => { stats with malformed := stats.malformed + 1 }
  (.ok none, decoder.queue [.decodeError ⟨exporter, reason, detail⟩])

/-- `self._queue(self.templates.take_events())`. -/
def drainTemplates (decoder : Decoder) : Decoder :=
  let (learned, templates) := decoder.templates.takeEvents
  { decoder with templates := templates }.queue (learned.map .templateLearned)

/-- The parse `decode` makes inside its `try`. -/
def parse (decoder : Decoder) (data : Bytes) (exporter : Exporter) (version : Nat) : ParseRun :=
  if version = 5 then runV5 data exporter decoder.templates decoder.stats
  else runV9OrIpfix data exporter decoder.templates decoder.stats

/-- `self.stats[f"v{version}_msgs"] += 1`, and the record totals. -/
def countMessage (version flows options : Nat) (stats : Stats) : Stats :=
  let stats :=
    if version = 5 then { stats with v5Msgs := stats.v5Msgs + 1 }
    else if version = 9 then { stats with v9Msgs := stats.v9Msgs + 1 }
    else { stats with v10Msgs := stats.v10Msgs + 1 }
  { stats with flows := stats.flows + flows, optionRecords := stats.optionRecords + options }

/-- The observation a decoded message makes on the sequence watch. -/
def observation (exporter : Exporter) (version : Nat) (header : Header) (flows options : Nat) :
    Observation :=
  ⟨exporter, header.domain, version, some header.sequence, flows, options⟩

/-- The sequence watch's turn: the gap before this message. -/
def watchSequence (decoder : Decoder) (obs : Observation) : Nat × Decoder :=
  match decoder.sequence with
  | none => (0, decoder)
  | some watch =>
    let (gap, watch) := watch.observe obs
    let decoder := if gap ≠ 0 then
        decoder.tally fun stats => { stats with missedExports := stats.missedExports + gap }
      else decoder
    let (gaps, watch) := watch.takeEvents
    (gap, { decoder with sequence := some watch }.queue (gaps.map .exportGap))

/-- `for opt in opts: self.sampling.note(exporter, domain, opt)`. -/
def noteAll (key : SamplingKey) : SamplingWatch → List Rec → Except PyError Unit × SamplingWatch
  | watch, [] => (.ok (), watch)
  | watch, opt :: opts =>
    match watch.note key opt with
    | (.error error, watch) => (.error error, watch)
    | (.ok _, watch) => noteAll key watch opts

/-- The sampling watch's turn: the rate in force. -/
def watchSampling (decoder : Decoder) (key : SamplingKey) (opts : List Rec) :
    Except PyError Nat × Decoder :=
  match decoder.sampling with
  | none => (.ok 1, decoder)
  | some watch =>
    match noteAll key watch opts with
    | (.error error, watch) => (.error error, { decoder with sampling := some watch })
    | (.ok (), watch) =>
      let (changes, watch) := watch.takeEvents
      (.ok (watch.rateFor key.exporter (some key.domain)),
        { decoder with sampling := some watch }.queue (changes.map .samplingChange))

/-- What `decode` does with a parsed message.  No `try` surrounds it: an error of the rate arithmetic is the
caller's. -/
def deliver (decoder : Decoder) (exporter : Exporter) (version : Nat) (header : Header)
    (flows options : List Rec) : Outcome :=
  let decoder := decoder.tally (countMessage version flows.length options.length)
  let (gap, decoder) :=
    decoder.watchSequence (observation exporter version header flows.length options.length)
  match decoder.watchSampling ⟨exporter, header.domain⟩ options with
  | (.error error, decoder) => (.error (.raised error), decoder)
  | (.ok rate, decoder) => (.ok (some ⟨header, flows, options, gap, rate⟩), decoder)

/-- What `decode` does once the parse is over.  What the sets before a failing one taught is kept, and announced
first. -/
def afterParse (decoder : Decoder) (exporter : Exporter) (version : Nat) (run : ParseRun) : Outcome :=
  let decoder := { decoder with templates := run.store, stats := run.stats }
  match run.outcome with
  | .error .outOfFuel => (.error .outOfFuel, decoder)
  | .error (.raised error) =>
    let decoder := decoder.tally fun stats => { stats with parseErrors := stats.parseErrors + 1 }
    decoder.drainTemplates.fail exporter "malformed" (error.typeName ++ ": " ++ error.text) true
  | .ok parsed =>
    match parsed.header with
    | none => decoder.drainTemplates.fail exporter "short" "truncated header" false
    | some header =>
      decoder.drainTemplates.deliver exporter version header parsed.records parsed.options

/-- `decode`. -/
def decode (decoder : Decoder) (data : Bytes) (exporter : Exporter) : Outcome :=
  let exporter := exporterKey exporter
  let decoder := decoder.tally fun stats =>
    { stats with packets := stats.packets + 1, bytesRx := stats.bytesRx + data.length }
  if data.length < 2 then decoder.fail exporter "short" "fewer than two bytes" false
  else
    let version := num data 0 2
    if version ∉ supportedVersions then
      (decoder.tally fun stats => { stats with unsupportedVersion := stats.unsupportedVersion + 1 }).fail
        exporter "unsupported" ("version " ++ Nat.repr version) true
    else decoder.afterParse exporter version (decoder.parse data exporter version)

/-- A datagram and the address it came from. -/
structure Datagram where
  data : Bytes
  exporter : Exporter
  deriving DecidableEq

def decodeDatagram (decoder : Decoder) (datagram : Datagram) : Outcome :=
  decoder.decode datagram.data datagram.exporter

/-- The decoder after a run of datagrams. -/
def decodeAll (decoder : Decoder) (run : List Datagram) : Decoder := stateAfter decodeDatagram decoder run

/-- What each call of a run returns or raises. -/
def results (decoder : Decoder) (run : List Datagram) : List (Except Stop (Option Message)) :=
  outputs decodeDatagram decoder run

end Decoder

end Netflume
