import Netflume.DecoderLedger
import Netflume.Library.Layout
import Netflume.SamplingOverflow
import Netflume.SamplingV5
import Netflume.Spelling

/-! # The v5 format, there and back

A v5 datagram as an exporter fills it in, and the bytes it sends.  Any decoder, in
whatever state, gives back the header, the flows in order and the sampling, and no
two sets of flows are read alike. -/

namespace Netflume

open Library

/-! ## The exporter's side -/

/-- One flow record of 48 bytes, its padding included. -/
structure V5Flow where
  srcAddr : UInt32
  dstAddr : UInt32
  nextHop : UInt32
  inIf : UInt16
  outIf : UInt16
  packets : UInt32
  octets : UInt32
  firstSwitched : UInt32
  lastSwitched : UInt32
  srcPort : UInt16
  dstPort : UInt16
  pad1 : UInt8
  tcpFlags : UInt8
  proto : UInt8
  tos : UInt8
  srcAs : UInt16
  dstAs : UInt16
  srcMask : UInt8
  dstMask : UInt8
  pad2 : UInt16
  deriving DecidableEq

namespace V5Flow

/-- `V5_REC`, filled in. -/
def layout (flow : V5Flow) : Layout := [
  (4, flow.srcAddr.toNat), (4, flow.dstAddr.toNat), (4, flow.nextHop.toNat), (2, flow.inIf.toNat),
  (2, flow.outIf.toNat), (4, flow.packets.toNat), (4, flow.octets.toNat), (4, flow.firstSwitched.toNat),
  (4, flow.lastSwitched.toNat), (2, flow.srcPort.toNat), (2, flow.dstPort.toNat), (1, flow.pad1.toNat),
  (1, flow.tcpFlags.toNat), (1, flow.proto.toNat), (1, flow.tos.toNat), (2, flow.srcAs.toNat), (2, flow.dstAs.toNat),
  (1, flow.srcMask.toNat), (1, flow.dstMask.toNat), (2, flow.pad2.toNat)]

def bytes (flow : V5Flow) : Bytes := flow.layout.pack

def dotted (address : UInt32) : Value := .str (inetNtoa (toBytes 4 address.toNat))

/-- The record a consumer should find, in the order of the source. -/
def entries (flow : V5Flow) : List (String × Value) := [
  ("src_addr", dotted flow.srcAddr), ("dst_addr", dotted flow.dstAddr), ("next_hop", dotted flow.nextHop),
  ("in_if", .int flow.inIf.toNat), ("out_if", .int flow.outIf.toNat), ("packets", .int flow.packets.toNat),
  ("octets", .int flow.octets.toNat), ("first_switched", .int flow.firstSwitched.toNat),
  ("last_switched", .int flow.lastSwitched.toNat), ("src_port", .int flow.srcPort.toNat),
  ("dst_port", .int flow.dstPort.toNat), ("tcp_flags", .int flow.tcpFlags.toNat), ("proto", .int flow.proto.toNat),
  ("tos", .int flow.tos.toNat), ("src_as", .int flow.srcAs.toNat), ("dst_as", .int flow.dstAs.toNat),
  ("src_mask", .int flow.srcMask.toNat), ("dst_mask", .int flow.dstMask.toNat)]

def record (flow : V5Flow) : Rec := recordOf flow.entries

/-- The flow without its padding. -/
def unpadded (flow : V5Flow) : V5Flow := { flow with pad1 := 0, pad2 := 0 }

end V5Flow

/-- An export datagram; the sampling word is two bits of mode above fourteen of interval. -/
structure V5Datagram where
  sysUptime : UInt32
  unixSecs : UInt32
  unixNsecs : UInt32
  sequence : UInt32
  engineType : UInt8
  engineId : UInt8
  samplingMode : Fin 4
  samplingInterval : Fin 0x4000
  flows : List V5Flow
  counted : flows.length < 65536

namespace V5Datagram

def samplingWord (datagram : V5Datagram) : Nat := 0x4000 * datagram.samplingMode + datagram.samplingInterval

/-- `V5_HDR`, filled in. -/
def layout (datagram : V5Datagram) : Layout := [
  (2, 5), (2, datagram.flows.length), (4, datagram.sysUptime.toNat), (4, datagram.unixSecs.toNat),
  (4, datagram.unixNsecs.toNat), (4, datagram.sequence.toNat), (1, datagram.engineType.toNat),
  (1, datagram.engineId.toNat), (2, datagram.samplingWord)]

def bytes (datagram : V5Datagram) : Bytes := datagram.layout.pack ++ datagram.flows.flatMap V5Flow.bytes

def header (datagram : V5Datagram) (exporter : Exporter) : Header where
  version := 5
  sysUptime := some datagram.sysUptime.toNat
  unixSecs := datagram.unixSecs.toNat
  sequence := datagram.sequence.toNat
  domain := datagram.engineId.toNat
  exporter := exporter

/-- The sampling put in, if the mode and the interval amount to one. -/
def sampled (datagram : V5Datagram) : Option (Fin 4 × Fin 0x4000) :=
  if datagram.samplingMode.val ≠ 0 ∧ datagram.samplingInterval.val > 1 then
    some (datagram.samplingMode, datagram.samplingInterval)
  else none

def optionRecord (sampling : Fin 4 × Fin 0x4000) : Rec :=
  recordOf [("sampling_interval", .int sampling.2.val), ("sampling_algorithm", .int sampling.1.val)]

/-- The option records a consumer should find: one if the flows are sampled. -/
def options (datagram : V5Datagram) : List Rec := datagram.sampled.toList.map optionRecord

end V5Datagram

/-! ## One record -/

namespace V5Flow

variable (flow : V5Flow)

/-- The widths are the format's, whatever the numbers. -/
def widths : List Nat := [4, 4, 4, 2, 2, 4, 4, 4, 4, 2, 2, 1, 1, 1, 1, 2, 2, 1, 1, 2]

theorem layout_widths : flow.layout.widths = widths := rfl

@[simp] theorem length_bytes : flow.bytes.length = v5RecordSize := by
  rw [bytes, Layout.length_pack, layout_widths]
  rfl

theorem fits : ∀ field ∈ flow.layout, field.2 < 256 ^ field.1 := by
  have wide (word : UInt32) : word.toNat < 256 ^ 4 := word.toNat_lt
  have half (word : UInt16) : word.toNat < 256 ^ 2 := word.toNat_lt
  have byte (word : UInt8) : word.toNat < 256 ^ 1 := word.toNat_lt
  simp only [layout, List.forall_mem_cons]
  exact ⟨wide _, wide _, wide _, half _, half _, wide _, wide _, wide _, wide _, half _, half _, byte _, byte _, byte _,
    byte _, half _, half _, byte _, byte _, half _, List.forall_mem_nil _⟩

/-- A number of the record, where the numbers before it end. -/
theorem num_bytes {index start width value : Nat} (field : flow.layout[index]? = some (width, value))
    (place : (widths.take index).sum = start) : num flow.bytes start width = value := by
  have read := Layout.beNat_slice_pack field (flow.fits _ (List.mem_of_getElem? field)) place []
  rwa [List.append_nil] at read

theorem slice_bytes {index start width value : Nat} (field : flow.layout[index]? = some (width, value))
    (place : (widths.take index).sum = start) : slice flow.bytes start (start + width) = toBytes width value := by
  have read := Layout.slice_pack field place []
  rwa [List.append_nil] at read

theorem v5Record_bytes : v5Record flow.bytes = flow.record := by
  have src : slice flow.bytes 0 4 = _ := @slice_bytes flow 0 0 4 _ rfl rfl
  have dst : slice flow.bytes 4 8 = _ := @slice_bytes flow 1 4 4 _ rfl rfl
  have hop : slice flow.bytes 8 12 = _ := @slice_bytes flow 2 8 4 _ rfl rfl
  have inIf : num flow.bytes 12 2 = _ := @num_bytes flow 3 12 2 _ rfl rfl
  have outIf : num flow.bytes 14 2 = _ := @num_bytes flow 4 14 2 _ rfl rfl
  have packets : num flow.bytes 16 4 = _ := @num_bytes flow 5 16 4 _ rfl rfl
  have octets : num flow.bytes 20 4 = _ := @num_bytes flow 6 20 4 _ rfl rfl
  have first : num flow.bytes 24 4 = _ := @num_bytes flow 7 24 4 _ rfl rfl
  have last : num flow.bytes 28 4 = _ := @num_bytes flow 8 28 4 _ rfl rfl
  have srcPort : num flow.bytes 32 2 = _ := @num_bytes flow 9 32 2 _ rfl rfl
  have dstPort : num flow.bytes 34 2 = _ := @num_bytes flow 10 34 2 _ rfl rfl
  have flags : num flow.bytes 37 1 = _ := @num_bytes flow 12 37 1 _ rfl rfl
  have proto : num flow.bytes 38 1 = _ := @num_bytes flow 13 38 1 _ rfl rfl
  have tos : num flow.bytes 39 1 = _ := @num_bytes flow 14 39 1 _ rfl rfl
  have srcAs : num flow.bytes 40 2 = _ := @num_bytes flow 15 40 2 _ rfl rfl
  have dstAs : num flow.bytes 42 2 = _ := @num_bytes flow 16 42 2 _ rfl rfl
  have srcMask : num flow.bytes 44 1 = _ := @num_bytes flow 17 44 1 _ rfl rfl
  have dstMask : num flow.bytes 45 1 = _ := @num_bytes flow 18 45 1 _ rfl rfl
  rw [v5Record, src, dst, hop, inIf, outIf, packets, octets, first, last, srcPort, dstPort, flags, proto, tos, srcAs,
    dstAs, srcMask, dstMask]
  rfl

/-- Two flows whose records are the same differ in their padding at most. -/
theorem record_inj {first second : V5Flow} (same : first.record = second.record) :
    first.unpadded = second.unpadded := by
  have listed (flow : V5Flow) : flow.record.entries = flow.entries := by
    have distinct : (flow.entries.map Prod.fst).Nodup := by
      simp [V5Flow.entries]
    exact (OrderedDict.entries_setAll distinct fun _ _ => OrderedDict.get?_empty _).trans (List.nil_append _)
  have entries := (listed first).symm.trans ((congrArg OrderedDict.entries same).trans (listed second))
  have address (word other : UInt32) (alike : dotted word = dotted other) : word = other := by
    have quad := inetNtoa_inj (length_toBytes 4 _) (length_toBytes 4 _) (Value.str.inj alike)
    have number := congrArg beNat quad
    rw [beNat_toBytes, beNat_toBytes] at number
    have small : word.toNat < 256 ^ 4 := word.toNat_lt
    have smallToo : other.toNat < 256 ^ 4 := other.toNat_lt
    rw [Nat.mod_eq_of_lt small, Nat.mod_eq_of_lt smallToo] at number
    exact UInt32.toNat_inj.mp number
  simp only [V5Flow.entries, List.cons.injEq, Prod.mk.injEq, true_and, Value.int.injEq, UInt32.toNat_inj,
    UInt16.toNat_inj, UInt8.toNat_inj, and_true] at entries
  obtain ⟨src, dst, hop, rest⟩ := entries
  simp only [unpadded, address _ _ src, address _ _ dst, address _ _ hop, rest]

theorem records_inj {first second : List V5Flow} (same : first.map record = second.map record) :
    first.map unpadded = second.map unpadded := by
  induction first generalizing second with
  | nil =>
    rw [List.map_nil, eq_comm, List.map_eq_nil_iff] at same
    rw [same]
  | cons flow flows inductionHypothesis =>
    cases second with
    | nil => cases same
    | cons other others =>
      obtain ⟨head, tail⟩ := List.cons.inj same
      rw [List.map_cons, List.map_cons, record_inj head, inductionHypothesis tail]

end V5Flow

/-! ## One datagram -/

/-- As many records are read as the header counts, whatever follows them. -/
theorem wireV5_bytes (flows : List V5Flow) (trailing : Bytes) :
    wireV5 flows.length (flows.flatMap V5Flow.bytes ++ trailing) = flows.map V5Flow.record := by
  induction flows with
  | nil => rfl
  | cons flow flows inductionHypothesis =>
    have sized : flow.bytes.length = v5RecordSize := flow.length_bytes
    rw [List.flatMap_cons, List.append_assoc, List.length_cons, wireV5, if_neg (by simp), ← sized, List.take_left,
      List.drop_left, inductionHypothesis, flow.v5Record_bytes, List.map_cons]

namespace V5Datagram

variable (datagram : V5Datagram) (trailing : Bytes)

def widths : List Nat := [2, 2, 4, 4, 4, 4, 1, 1, 2]

theorem layout_widths : datagram.layout.widths = widths := rfl

theorem fits : ∀ field ∈ datagram.layout, field.2 < 256 ^ field.1 := by
  have wide (word : UInt32) : word.toNat < 256 ^ 4 := word.toNat_lt
  have byte (word : UInt8) : word.toNat < 256 ^ 1 := word.toNat_lt
  have five : 5 < 256 ^ 2 := by decide
  have word : datagram.samplingWord < 256 ^ 2 := by
    have mode := datagram.samplingMode.isLt
    have interval := datagram.samplingInterval.isLt
    rw [samplingWord]
    omega
  simp only [layout, List.forall_mem_cons]
  exact ⟨five, datagram.counted, wide _, wide _, wide _, wide _, byte _, byte _, word, List.forall_mem_nil _⟩

theorem num_bytes {index start width value : Nat} (field : datagram.layout[index]? = some (width, value))
    (place : (widths.take index).sum = start) : num (datagram.bytes ++ trailing) start width = value := by
  rw [bytes, List.append_assoc]
  exact Layout.beNat_slice_pack field (datagram.fits _ (List.mem_of_getElem? field)) place _

theorem length_layout : datagram.layout.pack.length = v5HeaderSize := by
  rw [Layout.length_pack, layout_widths]
  rfl

theorem headed : v5HeaderSize ≤ (datagram.bytes ++ trailing).length := by
  rw [bytes, List.length_append, List.length_append, length_layout]
  omega

theorem isV5 : num (datagram.bytes ++ trailing) 0 2 = 5 := @num_bytes datagram trailing 0 0 2 _ rfl rfl

/-- The sampling word taken apart gives the option record of what was put in it. -/
theorem v5Options_samplingWord : v5Options datagram.samplingWord = datagram.options := by
  have bound := datagram.samplingInterval.isLt
  have mode : datagram.samplingWord >>> 14 = datagram.samplingMode := by
    rw [Nat.shiftRight_eq_div_pow, samplingWord]
    omega
  have interval : datagram.samplingWord &&& 0x3FFF = datagram.samplingInterval := by
    have low : (0x3FFF : Nat) = 2 ^ 14 - 1 := rfl
    rw [low, Nat.and_two_pow_sub_one_eq_mod, samplingWord]
    omega
  rw [v5Options, mode, interval, options, sampled]
  split <;> rfl

theorem optionRecord_inj {first second : Fin 4 × Fin 0x4000} (same : optionRecord first = optionRecord second) :
    first = second := by
  have interval := congrArg (fun rec => rec.get? "sampling_interval") same
  have mode := congrArg (fun rec => rec.get? "sampling_algorithm") same
  simp [optionRecord, recordOf] at interval mode
  exact Prod.ext (Fin.ext mode) (Fin.ext interval)

/-- Two samplings that are reported alike are the same. -/
theorem sampled_inj {datagram other : V5Datagram} (same : datagram.options = other.options) :
    datagram.sampled = other.sampled := by
  have injective : Function.Injective optionRecord := fun _ _ => optionRecord_inj
  have listed := injective.list_map same
  simpa using congrArg List.head? listed

/-- Reading a datagram back gives what was put in it, and counts nothing as cut short. -/
theorem applyV5_bytes (exporter : Exporter) (stats : Stats) :
    applyV5 (datagram.bytes ++ trailing) exporter stats =
      (⟨some (datagram.header exporter), datagram.flows.map V5Flow.record, datagram.options⟩, stats) := by
  have count : num (datagram.bytes ++ trailing) 2 2 = _ := @num_bytes datagram trailing 1 2 2 _ rfl rfl
  have uptime : num (datagram.bytes ++ trailing) 4 4 = _ := @num_bytes datagram trailing 2 4 4 _ rfl rfl
  have secs : num (datagram.bytes ++ trailing) 8 4 = _ := @num_bytes datagram trailing 3 8 4 _ rfl rfl
  have sequence : num (datagram.bytes ++ trailing) 16 4 = _ := @num_bytes datagram trailing 5 16 4 _ rfl rfl
  have engine : num (datagram.bytes ++ trailing) 21 1 = _ := @num_bytes datagram trailing 7 21 1 _ rfl rfl
  have sampling : num (datagram.bytes ++ trailing) 22 2 = _ := @num_bytes datagram trailing 8 22 2 _ rfl rfl
  have body : slice (datagram.bytes ++ trailing) v5HeaderSize (datagram.bytes ++ trailing).length =
      datagram.flows.flatMap V5Flow.bytes ++ trailing := by
    rw [slice_full, bytes, List.append_assoc, ← datagram.length_layout, List.drop_left]
  have whole : ¬ (datagram.flows.map V5Flow.record).length < datagram.flows.length := by simp
  rw [applyV5, if_neg (Nat.not_lt.mpr (datagram.headed trailing)), body, count, wireV5_bytes, sampling,
    v5Options_samplingWord, v5Header, uptime, secs, sequence, engine]
  simp only [if_neg whole]
  rfl

/-- A datagram by its header and its flows: the padding, the nanoseconds and the engine type are dropped, and the
sampling is reported beside them. -/
def reported : V5Datagram :=
  { datagram with
    unixNsecs := 0
    engineType := 0
    samplingMode := 0
    samplingInterval := 0
    flows := datagram.flows.map V5Flow.unpadded
    counted := by
      rw [List.length_map]
      exact datagram.counted }

theorem reported_inj {datagram other : V5Datagram} {exporter : Exporter}
    (headers : datagram.header exporter = other.header exporter)
    (records : datagram.flows.map V5Flow.record = other.flows.map V5Flow.record) :
    datagram.reported = other.reported := by
  have flows := V5Flow.records_inj records
  obtain ⟨sysUptime, unixSecs, unixNsecs, sequence, engineType, engineId, mode, interval, ownFlows, counted⟩ := datagram
  obtain ⟨sysUptime', unixSecs', unixNsecs', sequence', engineType', engineId', mode', interval', otherFlows, counted'⟩ :=
    other
  simp only [header, Header.mk.injEq, Option.some.injEq, UInt32.toNat_inj, UInt8.toNat_inj] at headers
  obtain ⟨_, rfl, rfl, rfl, rfl, _⟩ := headers
  simp only [reported, flows]

end V5Datagram

/-! ## Any decoder -/

/-- The option record of a v5 header never stops the sampling watch. -/
theorem noteAll_v5Options (key : SamplingKey) (sampling : Nat) (watch : SamplingWatch) :
    (Decoder.noteAll key watch (v5Options sampling)).1 = .ok () := by
  refine (noteAll_ok_iff key _ watch).mpr fun opt member => ?_
  by_cases unsampled : statedRate sampling = 1
  · rw [v5Options_unsampled unsampled] at member
    cases member
  · obtain ⟨rec, listed, stated⟩ := v5Options_sampled unsampled
    rw [listed, List.mem_singleton] at member
    exact ⟨_, member ▸ stated⟩

theorem note_v5Options (core : Core) (key : SamplingKey) (sampling : Nat) :
    ∃ rate after, core.note key (v5Options sampling) = (.ok rate, after) := by
  rw [Core.note]
  cases core.sampling with
  | none => exact ⟨1, core, rfl⟩
  | some watch =>
    have noted := noteAll_v5Options key sampling watch
    dsimp only
    generalize Decoder.noteAll key watch (v5Options sampling) = outcome at noted ⊢
    obtain ⟨result, after⟩ := outcome
    cases noted
    exact ⟨_, _, rfl⟩

/-- Any decoder gives back a v5 datagram as it was filled in, whatever follows the records, and leaves its templates
alone. -/
theorem decode_v5_encode (decoder : Decoder) (datagram : V5Datagram) (trailing : Bytes) (exporter : Exporter) :
    ∃ gap rate after, decoder.decode (datagram.bytes ++ trailing) exporter =
        (.ok (some ⟨datagram.header (exporterKey exporter), datagram.flows.map V5Flow.record,
          datagram.options, gap, rate⟩), after) ∧
      after.templates.templates = decoder.templates.templates ∧
      after.stats.truncated = decoder.stats.truncated ∧ after.stats.v5Msgs = decoder.stats.v5Msgs + 1 ∧
      after.stats.flows = decoder.stats.flows + datagram.flows.length ∧
      ∀ other : V5Datagram, datagram.header (exporterKey exporter) = other.header (exporterKey exporter) →
        datagram.flows.map V5Flow.record = other.flows.map V5Flow.record →
          datagram.reported = other.reported ∧
            (datagram.options = other.options → datagram.sampled = other.sampled) := by
  generalize counted : decoder.receive (datagram.bytes ++ trailing) = receiving
  have long := datagram.headed trailing
  have size : v5HeaderSize = 24 := rfl
  have isV5 := datagram.isV5 trailing
  obtain ⟨reads, _, parsed⟩ := runV5_spec (datagram.bytes ++ trailing) (exporterKey exporter) receiving.templates
    receiving.stats
  rw [datagram.applyV5_bytes] at parsed
  have decoded : decoder.decode (datagram.bytes ++ trailing) exporter = receiving.drainTemplates.deliver
      (exporterKey exporter) 5 (datagram.header (exporterKey exporter)) (datagram.flows.map V5Flow.record)
      datagram.options := by
    rw [Decoder.receive] at counted
    rw [Decoder.decode, counted, if_neg (by omega), if_neg (by simp [isV5, supportedVersions]), Decoder.parse,
      if_pos isV5, isV5, parsed]
    rfl
  have answer := (receiving.drainTemplates.deliver_core (exporterKey exporter) 5
    (datagram.header (exporterKey exporter)) (datagram.flows.map V5Flow.record) datagram.options).1
  have ledger := receiving.drainTemplates.deliver_ledger (exporterKey exporter) 5
    (datagram.header (exporterKey exporter)) (datagram.flows.map V5Flow.record) datagram.options
  have store := receiving.drainTemplates.deliver_templates (exporterKey exporter) 5
    (datagram.header (exporterKey exporter)) (datagram.flows.map V5Flow.record) datagram.options
  obtain ⟨rate, _, noted⟩ := note_v5Options (receiving.drainTemplates.core.observe (Decoder.observation
    (exporterKey exporter) 5 (datagram.header (exporterKey exporter)) (datagram.flows.map V5Flow.record).length
    datagram.options.length)).2 ⟨exporterKey exporter, datagram.engineId.toNat⟩
    datagram.samplingWord
  rw [datagram.v5Options_samplingWord] at noted
  rw [Core.deliver_of_note noted] at answer
  rw [receiving.drainTemplates_ledger] at ledger
  subst counted
  refine ⟨_, rate, _, decoded.trans (Prod.ext answer rfl), ?_, ?_, ?_, ?_, fun other headers records => ?_⟩
  · rw [store]
    exact congrArg (fun core => core.templates.templates) (decoder.receive _).drainTemplates_core
  · exact (congrArg Stats.truncated ledger :)
  · exact (congrArg Stats.v5Msgs ledger :)
  · have flows := (congrArg Stats.flows ledger :)
    rw [← List.length_map V5Flow.record]
    exact flows
  · exact ⟨V5Datagram.reported_inj headers records, V5Datagram.sampled_inj⟩

end Netflume
