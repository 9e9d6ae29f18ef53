import Netflume.Decoder

/-! # The collector

What a collector does with a datagram its socket handed over.  The accept filter
comes before the decoder, and is shown the address the decoder would key by. -/

namespace Netflume

open Library

/-- A decoder, and a predicate on the exporter address, which may raise; without one everything is taken. -/
structure Collector where
  decoder : Decoder
  accept : Option (Exporter → Except PyError Bool)

namespace Collector

/-- What `_decode` returns or raises, and the collector it leaves. -/
abbrev Outcome := Except Stop (Option Message) × Collector

/-- `self.accept is None or self.accept(exporter)`. -/
def accepts (collector : Collector) (exporter : Exporter) : Except PyError Bool :=
  match collector.accept with
  | none => .ok true
  | some accept => accept exporter

/-- `_decode`; the address is the host the socket reported.  Nothing catches what the predicate raises. -/
def decode (collector : Collector) (data : Bytes) (address : Exporter) : Outcome :=
  let exporter := exporterKey address
  match collector.accepts exporter with
  | .error error => (.error (.raised error), collector)
  | .ok false =>
    (.ok none, { collector with
      decoder := collector.decoder.tally fun stats => { stats with rejected := stats.rejected + 1 } })
  | .ok true =>
    let (result, decoder) := collector.decoder.decode data exporter
    (result, { collector with decoder := decoder })

def decodeDatagram (collector : Collector) (datagram : Decoder.Datagram) : Outcome :=
  collector.decode datagram.data datagram.exporter

/-- The collector after a run of datagrams. -/
def decodeAll (collector : Collector) (run : List Decoder.Datagram) : Collector :=
  stateAfter decodeDatagram collector run

/-- What each call of a run returns or raises. -/
def results (collector : Collector) (run : List Decoder.Datagram) : List (Except Stop (Option Message)) :=
  outputs decodeDatagram collector run

end Collector

end Netflume
