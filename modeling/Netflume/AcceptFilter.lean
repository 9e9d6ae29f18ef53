import Netflume.Collector
import Netflume.Library.Fallible
import Netflume.TableKeys

/-! # The accept filter

A datagram turned away costs one count and nothing else, and a decoder neither
reads nor writes that count.  A collector therefore runs as a decoder does that
is given only what the predicate accepts; the address it was shown is the one
that decoder keys by, since normalising it again changes nothing. -/

namespace Netflume

open Library

/-! ## The count of the rejected -/

def Stats.withRejected (stats : Stats) (count : Nat) : Stats := { stats with rejected := count }

def Sink.withRejected (sink : Sink) (count : Nat) : Sink := { sink with stats := sink.stats.withRejected count }

def Decoder.withRejected (decoder : Decoder) (count : Nat) : Decoder :=
  { decoder with stats := decoder.stats.withRejected count }

theorem sinkSimulation_withRejected (exporter : Exporter) (domain count : Nat) :
    SinkSimulation exporter domain fun first second => second = first.withRejected count where
  put := by
    rintro first _ rfl id fields options _
    have counted := apply_ite (Stats.withRejected · count)
      ((first.store.put ⟨exporter, domain, id⟩ fields options).1 = true)
      { first.stats with templatesNew := first.stats.templatesNew + 1 } first.stats
    simp only [Sink.put, Sink.withRejected, counted]
    rfl
  data := by
    rintro first _ rfl ipfix id content
    refine @applyData_related (fun first second => second = first.withRejected count) _ _ ?_ ?_ ipfix content _ rfl
    · rintro first _ rfl isOptions rec
      cases isOptions <;> rfl
    · rintro first _ rfl
      rfl
  markTruncated := by
    rintro first _ rfl
    rfl
  close := by
    rintro first _ rfl
    obtain ⟨store, stats, calls, records, options, truncated⟩ := first
    cases truncated <;> rfl

theorem applyMessage_withRejected (data : Bytes) (exporter : Exporter) (sink : Sink) (count : Nat) :
    applyMessage data exporter (sink.withRejected count) =
      ((applyMessage data exporter sink).1, (applyMessage data exporter sink).2.withRejected count) := by
  cases read : messageHeader data exporter with
  | none => rw [applyMessage_headerless read, applyMessage_headerless read]
  | some header =>
    have after := (sinkSimulation_withRejected exporter header.domain count).applyMessage read
      (rfl : sink.withRejected count = _)
    apply Prod.ext
    · rw [applyMessage_parsed read, applyMessage_parsed read, after]
      rfl
    · exact after

theorem applyV5_withRejected (data : Bytes) (exporter : Exporter) (stats : Stats) (count : Nat) :
    applyV5 data exporter (stats.withRejected count) =
      ((applyV5 data exporter stats).1, (applyV5 data exporter stats).2.withRejected count) := by
  unfold applyV5
  by_cases short : data.length < v5HeaderSize
  · simp only [if_pos short]
  · simp only [if_neg short]
    by_cases fewer : (wireV5 (num data 2 2) (slice data v5HeaderSize data.length)).length < num data 2 2
    · simp only [if_pos fewer]
      rfl
    · simp only [if_neg fewer]

namespace Decoder

variable (decoder : Decoder) (count : Nat)

theorem withRejected_queue (events : List Event) :
    (decoder.withRejected count).queue events = (decoder.queue events).withRejected count := by
  induction events generalizing decoder with
  | nil => rfl
  | cons event events inductionHypothesis =>
    have first : (decoder.withRejected count).queueOne event = (decoder.queueOne event).withRejected count := by
      by_cases full : maxPendingEvents ≤ decoder.events.length
      · have alsoFull : maxPendingEvents ≤ (decoder.withRejected count).events.length := full
        rw [queueOne, queueOne, if_pos full, if_pos alsoFull]
        rfl
      · have alsoRoom : ¬ maxPendingEvents ≤ (decoder.withRejected count).events.length := full
        rw [queueOne, queueOne, if_neg full, if_neg alsoRoom]
        rfl
    rw [queue, queue, List.foldl_cons, List.foldl_cons, first]
    exact inductionHypothesis (decoder.queueOne event)

theorem withRejected_fail (exporter : Exporter) (reason detail : String) (counted : Bool) :
    (decoder.withRejected count).fail exporter reason detail counted =
      ((decoder.fail exporter reason detail counted).1,
        (decoder.fail exporter reason detail counted).2.withRejected count) := by
  cases counted with
  | true => exact congrArg (Prod.mk _) (withRejected_queue decoder count _)
  | false =>
    exact congrArg (Prod.mk _)
      (withRejected_queue (decoder.tally fun stats => { stats with malformed := stats.malformed + 1 }) count _)

theorem withRejected_drainTemplates :
    (decoder.withRejected count).drainTemplates = decoder.drainTemplates.withRejected count :=
  withRejected_queue { decoder with templates := decoder.templates.takeEvents.2 } count _

theorem withRejected_watchSequence (obs : Observation) :
    (decoder.withRejected count).watchSequence obs =
      ((decoder.watchSequence obs).1, (decoder.watchSequence obs).2.withRejected count) := by
  obtain ⟨templates, stats, sequence, sampling, events⟩ := decoder
  cases sequence with
  | none => rfl
  | some watch =>
    simp only [watchSequence, withRejected]
    generalize watch.observe obs = observed
    obtain ⟨gap, after⟩ := observed
    by_cases lost : gap = 0
    · subst lost
      exact congrArg (Prod.mk _)
        (withRejected_queue ⟨templates, stats, some after.takeEvents.2, sampling, events⟩ count _)
    · simp only [if_pos lost]
      exact congrArg (Prod.mk _) (withRejected_queue ⟨templates,
        { stats with missedExports := stats.missedExports + gap }, some after.takeEvents.2, sampling, events⟩ count _)

theorem withRejected_watchSampling (key : SamplingKey) (opts : List Rec) :
    (decoder.withRejected count).watchSampling key opts =
      ((decoder.watchSampling key opts).1, (decoder.watchSampling key opts).2.withRejected count) := by
  obtain ⟨templates, stats, sequence, sampling, events⟩ := decoder
  cases sampling with
  | none => rfl
  | some watch =>
    simp only [watchSampling, withRejected]
    generalize noteAll key watch opts = noted
    obtain ⟨outcome, after⟩ := noted
    cases outcome with
    | error error => rfl
    | ok done =>
      exact congrArg (Prod.mk _)
        (withRejected_queue ⟨templates, stats, sequence, some after.takeEvents.2, events⟩ count _)

theorem withRejected_deliver (exporter : Exporter) (version : Nat) (header : Header) (flows options : List Rec) :
    (decoder.withRejected count).deliver exporter version header flows options =
      ((decoder.deliver exporter version header flows options).1,
        (decoder.deliver exporter version header flows options).2.withRejected count) := by
  have tallied : (decoder.withRejected count).tally (countMessage version flows.length options.length) =
      (decoder.tally (countMessage version flows.length options.length)).withRejected count := by
    simp only [tally, withRejected, countMessage]
    split
    · rfl
    · split <;> rfl
  simp only [deliver, tallied, withRejected_watchSequence, withRejected_watchSampling]
  generalize ((decoder.tally _).watchSequence _).2.watchSampling _ _ = noting
  obtain ⟨outcome, after⟩ := noting
  cases outcome <;> rfl

/-- A parse, beside the same parse counting from another number of rejected. -/
theorem withRejected_parse (data : Bytes) (exporter : Exporter) (version : Nat) :
    let run := decoder.parse data exporter version
    let counting := (decoder.withRejected count).parse data exporter version
    counting.outcome = run.outcome ∧ counting.store = run.store ∧ counting.stats = run.stats.withRejected count := by
  simp only [parse]
  split
  · obtain ⟨_, _, first⟩ := runV5_spec data exporter decoder.templates decoder.stats
    obtain ⟨_, _, second⟩ := runV5_spec data exporter decoder.templates (decoder.stats.withRejected count)
    simp only [withRejected, first, second, applyV5_withRejected, and_self]
  · obtain ⟨_, _, first⟩ := runV9OrIpfix_spec data exporter decoder.templates decoder.stats
    obtain ⟨_, _, second⟩ := runV9OrIpfix_spec data exporter decoder.templates (decoder.stats.withRejected count)
    have applied := applyMessage_withRejected data exporter { store := decoder.templates, stats := decoder.stats } count
    simp only [Sink.withRejected] at applied
    simp only [withRejected, first, second, applied, and_self]

theorem withRejected_afterParse (exporter : Exporter) (version : Nat) {run counting : ParseRun}
    (outcome : counting.outcome = run.outcome) (store : counting.store = run.store)
    (stats : counting.stats = run.stats.withRejected count) :
    (decoder.withRejected count).afterParse exporter version counting =
      ((decoder.afterParse exporter version run).1,
        (decoder.afterParse exporter version run).2.withRejected count) := by
  have parsed : ({ decoder.withRejected count with templates := counting.store, stats := counting.stats } : Decoder) =
      ({ decoder with templates := run.store, stats := run.stats } : Decoder).withRejected count := by
    rw [store, stats]
    rfl
  simp only [afterParse, parsed, outcome]
  generalize ({ decoder with templates := run.store, stats := run.stats } : Decoder) = parsing
  cases run.outcome with
  | error stop =>
    cases stop with
    | outOfFuel => rfl
    | raised error =>
      have tallied : (parsing.withRejected count).tally (fun stats =>
            { stats with parseErrors := stats.parseErrors + 1 }) =
          (parsing.tally fun stats => { stats with parseErrors := stats.parseErrors + 1 }).withRejected count := rfl
      simp only [tallied, withRejected_drainTemplates, withRejected_fail]
  | ok parsed =>
    cases header : parsed.header with
    | none => simp only [withRejected_drainTemplates, withRejected_fail, header]
    | some header => simp only [withRejected_drainTemplates, withRejected_deliver, header]

/-- A decoder neither reads nor writes the count of the rejected. -/
theorem withRejected_decode (data : Bytes) (exporter : Exporter) :
    (decoder.withRejected count).decode data exporter =
      ((decoder.decode data exporter).1, (decoder.decode data exporter).2.withRejected count) := by
  have tallied : (decoder.withRejected count).tally (fun stats =>
        { stats with packets := stats.packets + 1, bytesRx := stats.bytesRx + data.length }) =
      (decoder.tally fun stats =>
        { stats with packets := stats.packets + 1, bytesRx := stats.bytesRx + data.length }).withRejected count := rfl
  simp only [decode, tallied]
  generalize (decoder.tally fun stats =>
    { stats with packets := stats.packets + 1, bytesRx := stats.bytesRx + data.length }) = receiving
  split
  · exact withRejected_fail receiving count _ _ _ _
  · split
    · exact withRejected_fail (receiving.tally fun stats =>
        { stats with unsupportedVersion := stats.unsupportedVersion + 1 }) count _ _ _ _
    · obtain ⟨outcome, store, stats⟩ :=
        withRejected_parse receiving count data (exporterKey exporter) (num data 0 2)
      exact withRejected_afterParse receiving count _ _ outcome store stats

/-- The address may be normalised before the call. -/
theorem decode_exporterKey (data : Bytes) (address : Exporter) :
    decoder.decode data (exporterKey address) = decoder.decode data address := by
  simp only [decode, exporterKey_exporterKey]

theorem rejected_decodeDatagram (datagram : Datagram) :
    (decoder.decodeDatagram datagram).2.stats.rejected = decoder.stats.rejected := by
  have same := withRejected_decode decoder decoder.stats.rejected datagram.data datagram.exporter
  exact congrArg (fun outcome : Outcome => outcome.2.stats.rejected) same

end Decoder

/-! ## One call of the collector -/

namespace Collector

/-- The predicate accepts the address the datagram is filed under. -/
def admits (collector : Collector) (datagram : Decoder.Datagram) : Bool :=
  decide (collector.accepts (exporterKey datagram.exporter) = .ok true)

variable {collector : Collector} {datagram : Decoder.Datagram}

theorem admits_congr {start : Collector} (same : collector.accept = start.accept) (datagram : Decoder.Datagram) :
    collector.admits datagram = start.admits datagram := by
  rw [admits, admits, accepts, accepts, same]

/-- Everything a call can do: decode, as the decoder does that is given the address as it came, count, or raise what
the predicate raised. -/
theorem decode_cases (collector : Collector) (datagram : Decoder.Datagram) :
    (collector.admits datagram = true ∧ collector.decodeDatagram datagram =
        ((collector.decoder.decodeDatagram datagram).1,
          { collector with decoder := (collector.decoder.decodeDatagram datagram).2 })) ∨
      (collector.admits datagram = false ∧ collector.decodeDatagram datagram = (.ok none, { collector with
        decoder := collector.decoder.withRejected (collector.decoder.stats.rejected + 1) })) ∨
      ∃ error, collector.admits datagram = false ∧
        collector.decodeDatagram datagram = (.error (.raised error), collector) := by
  simp only [decodeDatagram, decode, admits]
  cases collector.accepts (exporterKey datagram.exporter) with
  | error error => exact .inr (.inr ⟨error, rfl, rfl⟩)
  | ok accepted =>
    cases accepted with
    | true => exact .inl ⟨rfl, by simp only [Decoder.decode_exporterKey, Decoder.decodeDatagram]⟩
    | false => exact .inr (.inl ⟨rfl, rfl⟩)

/-- A call leaves the predicate, and a datagram not admitted changes no more of the decoder than a count. -/
theorem decode_frame (collector : Collector) (datagram : Decoder.Datagram) :
    (collector.decodeDatagram datagram).2.accept = collector.accept ∧ (collector.admits datagram = false →
      ∃ count, (collector.decodeDatagram datagram).2.decoder = collector.decoder.withRejected count) := by
  obtain ⟨admitted, decoded⟩ | ⟨_, counted⟩ | ⟨error, _, raised⟩ := collector.decode_cases datagram
  · rw [decoded]
    refine ⟨rfl, fun turnedAway => ?_⟩
    rw [admitted] at turnedAway
    cases turnedAway
  · rw [counted]
    exact ⟨rfl, fun _ => ⟨_, rfl⟩⟩
  · rw [raised]
    exact ⟨rfl, fun _ => ⟨collector.decoder.stats.rejected, rfl⟩⟩

theorem decode_of_admitted (admitted : collector.admits datagram = true) :
    (collector.decodeDatagram datagram).1 = (collector.decoder.decodeDatagram datagram).1 ∧
      (collector.decodeDatagram datagram).2.decoder = (collector.decoder.decodeDatagram datagram).2 := by
  obtain ⟨_, decoded⟩ | ⟨refused, _⟩ | ⟨_, refused, _⟩ := collector.decode_cases datagram
  · rw [decoded]
    exact ⟨rfl, rfl⟩
  · rw [refused] at admitted
    cases admitted
  · rw [refused] at admitted
    cases admitted

/-- A call that returns either decoded its datagram or counted it. -/
theorem rejected_decode {message : Option Message} (returned : (collector.decodeDatagram datagram).1 = .ok message) :
    (collector.decodeDatagram datagram).2.decoder.stats.rejected =
        collector.decoder.stats.rejected + (!collector.admits datagram).toNat ∧
      (collector.admits datagram = false → (collector.decodeDatagram datagram).1 = .ok none) := by
  obtain ⟨admitted, decoded⟩ | ⟨refused, counted⟩ | ⟨error, _, raised⟩ := collector.decode_cases datagram
  · rw [decoded, admitted]
    exact ⟨Decoder.rejected_decodeDatagram _ _, fun turnedAway => by cases turnedAway⟩
  · rw [counted, refused]
    exact ⟨rfl, fun _ => rfl⟩
  · rw [raised] at returned
    cases returned

/-! ## Runs of the collector -/

/-- The collector kept its predicate, and its decoder is the one given but for the count of the rejected. -/
structure Follows (start : Collector) (plain : Decoder) (collector : Collector) : Prop where
  accept : collector.accept = start.accept
  decoder : ∃ count, collector.decoder = plain.withRejected count

namespace Follows

variable {start : Collector} {plain : Decoder}

theorem admitted (follows : Follows start plain collector) (admitted : start.admits datagram = true) :
    (plain.decodeDatagram datagram).1 = (collector.decodeDatagram datagram).1 ∧
      Follows start (plain.decodeDatagram datagram).2 (collector.decodeDatagram datagram).2 := by
  obtain ⟨accept, count, same⟩ := follows
  have kept := (collector.decode_frame datagram).1
  obtain ⟨result, after⟩ := decode_of_admitted ((admits_congr accept datagram).trans admitted)
  have decoded := Decoder.withRejected_decode plain count datagram.data datagram.exporter
  rw [same] at result after
  exact ⟨(result.trans (congrArg Prod.fst decoded)).symm, kept.trans accept, count,
    after.trans (congrArg Prod.snd decoded)⟩

theorem turnedAway (follows : Follows start plain collector) (turnedAway : start.admits datagram = false) :
    Follows start plain (collector.decodeDatagram datagram).2 := by
  obtain ⟨accept, count, same⟩ := follows
  obtain ⟨kept, unchanged⟩ := collector.decode_frame datagram
  obtain ⟨rejected, after⟩ := unchanged ((admits_congr accept datagram).trans turnedAway)
  rw [same] at after
  exact ⟨kept.trans accept, rejected, after⟩

/-- A collector answers what it admits as a decoder does that is given nothing else, and keeps to that decoder. -/
theorem run (follows : Follows start plain collector) (run : List Decoder.Datagram) :
    plain.results (run.filter start.admits) =
        ((run.zip (collector.results run)).filter fun answered => start.admits answered.1).map Prod.snd ∧
      Follows start (plain.decodeAll (run.filter start.admits)) (collector.decodeAll run) :=
  @unwinding _ _ _ _ decodeDatagram Decoder.decodeDatagram start.admits (Follows start) (fun _ => True)
    (fun _ _ _ => trivial) (fun _ _ _ admitted follows _ => follows.admitted admitted)
    (fun _ _ _ turnedAway follows _ => follows.turnedAway turnedAway) plain collector follows run trivial

end Follows

/-- As long as the predicate does not raise, every datagram it turns away is counted, and answered with `none`. -/
theorem rejected_run {run : List Decoder.Datagram}
    (returned : ∀ result ∈ collector.results run, ∃ message, result = .ok message) :
    (collector.decodeAll run).decoder.stats.rejected =
        collector.decoder.stats.rejected + (run.filter fun datagram => !collector.admits datagram).length ∧
      ∀ answered ∈ run.zip (collector.results run), collector.admits answered.1 = false → answered.2 = .ok none := by
  induction run generalizing collector with
  | nil => exact ⟨rfl, fun _ member => by cases member⟩
  | cons datagram run inductionHypothesis =>
    obtain ⟨⟨message, first⟩, rest⟩ := List.forall_mem_cons.mp returned
    obtain ⟨counted, refused⟩ := rejected_decode first
    obtain ⟨total, answers⟩ := inductionHypothesis rest
    have same : (collector.decodeDatagram datagram).2.admits = collector.admits :=
      funext (admits_congr (collector.decode_frame datagram).1)
    rw [same] at total answers
    constructor
    · have next : (collector.decodeAll (datagram :: run)).decoder.stats.rejected =
          ((collector.decodeDatagram datagram).2.decodeAll run).decoder.stats.rejected := rfl
      rw [next, total, counted, List.filter_cons]
      cases collector.admits datagram with
      | true => rfl
      | false =>
        simp only [Bool.not_false, Bool.toNat_true, if_true, List.length_cons]
        omega
    · exact List.forall_mem_cons.mpr ⟨refused, answers⟩

/-! ## The tables -/

/-- The collector kept its predicate, and its tables are keyed by exporters that predicate accepts. -/
structure KeyedByAccepted (start collector : Collector) : Prop where
  accept : collector.accept = start.accept
  keyed : collector.decoder.core.KeyedBy fun exporter => start.accepts exporter = .ok true

theorem KeyedByAccepted.decode {start collector : Collector} (keyed : KeyedByAccepted start collector)
    (datagram : Decoder.Datagram) : KeyedByAccepted start (collector.decodeDatagram datagram).2 := by
  obtain ⟨accept, keyed⟩ := keyed
  obtain ⟨kept, unchanged⟩ := collector.decode_frame datagram
  refine ⟨kept.trans accept, ?_⟩
  cases admitted : collector.admits datagram with
  | true =>
    have accepted := of_decide_eq_true ((admits_congr accept datagram).symm.trans admitted)
    rw [(decode_of_admitted admitted).2, (Decoder.decode_core _ _).2]
    exact keyed.step accepted
  | false =>
    obtain ⟨count, after⟩ := unchanged admitted
    rw [after]
    exact keyed

theorem KeyedByAccepted.run {start collector : Collector} (keyed : KeyedByAccepted start collector)
    (run : List Decoder.Datagram) : KeyedByAccepted start (collector.decodeAll run) :=
  invariant_stateAfter (fun _ datagram keyed => keyed.decode datagram) keyed run

end Collector

/-- A collector that filters runs as a decoder that is given only what the predicate accepts: the same results, the same
tables and pending events, the same counters but for the rejected, which are the others; and every key of the tables
names an exporter that the predicate accepts. -/
theorem accept_filter_transparent (accept : Option (Exporter → Except PyError Bool))
    (trackSequence trackSampling : Bool) (run : List Decoder.Datagram)
    (returned : ∀ result ∈ Collector.results ⟨Decoder.new trackSequence trackSampling, accept⟩ run,
      ∃ message, result = .ok message) :
    let fresh := Decoder.new trackSequence trackSampling
    let collector : Collector := ⟨fresh, accept⟩
    let after := (collector.decodeAll run).decoder
    let accepted := run.filter collector.admits
    let others := run.filter fun datagram => !collector.admits datagram
    let plain := fresh.decodeAll accepted
    let answered := run.zip (collector.results run)
    (answered.filter fun answer => collector.admits answer.1).map Prod.snd = fresh.results accepted ∧
      (∀ answer ∈ answered, collector.admits answer.1 = false → answer.2 = .ok none) ∧
      after.templates = plain.templates ∧ after.sequence = plain.sequence ∧ after.sampling = plain.sampling ∧
      after.events = plain.events ∧ after.stats = { plain.stats with rejected := others.length } ∧
      after.core.KeyedBy fun exporter => collector.accepts exporter = .ok true := by
  intro fresh collector after accepted others plain answered
  have start : Collector.Follows collector fresh collector := ⟨rfl, 0, rfl⟩
  obtain ⟨answers, _, count, decoder⟩ := start.run run
  obtain ⟨total, refused⟩ := Collector.rejected_run returned
  have counted : count = others.length := by
    have inPlace : after.stats.rejected = count := by
      show (collector.decodeAll run).decoder.stats.rejected = count
      rw [decoder]
      rfl
    rw [← inPlace]
    exact total.trans (Nat.zero_add _)
  subst counted
  have same : after = plain.withRejected others.length := decoder
  have empty : Collector.KeyedByAccepted collector collector :=
    ⟨rfl, Decoder.keyedBy_new _ trackSequence trackSampling⟩
  have keyed : after.core.KeyedBy fun exporter => collector.accepts exporter = .ok true := (empty.run run).keyed
  rw [same] at keyed ⊢
  exact ⟨answers.symm, refused, rfl, rfl, rfl, rfl, rfl, keyed⟩

/-- An allow list of one dotted quad: its exporter in two mapped spellings, one it does not name, and a source that
is no address at all. -/
theorem accept_filter_transparent_mapped :
    let quad : Exporter := .str "192.168.1.10"
    let accept : Option (Exporter → Except PyError Bool) := some fun exporter => .ok (decide (exporter = quad))
    let message : Bytes := [0, 5] ++ List.replicate 22 0
    let run : List Decoder.Datagram := [⟨message, .str "::ffff:c0a8:10a"⟩, ⟨message, .str "10.0.0.1"⟩,
      ⟨[0], .obj 1⟩, ⟨message, .str "::FFFF:192.168.1.10"⟩]
    let fresh := Decoder.new true true
    let collector : Collector := ⟨fresh, accept⟩
    let after := (collector.decodeAll run).decoder
    let accepted := run.filter collector.admits
    let others := run.filter fun datagram => !collector.admits datagram
    let plain := fresh.decodeAll accepted
    let answered := run.zip (collector.results run)
    (answered.filter fun answer => collector.admits answer.1).map Prod.snd = fresh.results accepted ∧
      (∀ answer ∈ answered, collector.admits answer.1 = false → answer.2 = .ok none) ∧
      after.templates = plain.templates ∧ after.sequence = plain.sequence ∧ after.sampling = plain.sampling ∧
      after.events = plain.events ∧ after.stats = { plain.stats with rejected := others.length } ∧
      after.core.KeyedBy fun exporter => collector.accepts exporter = .ok true :=
  accept_filter_transparent _ true true _ (by decide +kernel)

end Netflume
