import Netflume.Isolation
import Netflume.LearnedTemplates

/-! # A late start catches up

Exporters send their templates again and again.  Two decoders with different pasts,
fed the same datagrams from here on, read a domain alike once every template that
either holds for it has been sent again, as long as neither store evicts anything. -/

namespace Netflume

open Library

/-! ## Templates sent -/

def StoreCall.key : StoreCall → TemplateKey
  | .put key _ _ => key
  | .get key => key

/-- The keys a parse has stored templates under. -/
def Sink.putKeys (sink : Sink) : List TemplateKey := sink.puts.map StoreCall.key

/-- The keys of the templates in a message. -/
def templateKeys (data : Bytes) (exporter : Exporter) : List TemplateKey :=
  if num data 0 2 = 5 then []
  else (applyMessage data exporter { store := .new maxTemplates maxPendingTemplates, stats := {} }).2.putKeys

/-- The keys of the templates a datagram sends. -/
def Decoder.Datagram.sends (datagram : Decoder.Datagram) : List TemplateKey :=
  match datagram.header with
  | none => []
  | some _ => templateKeys datagram.data (exporterKey datagram.exporter)

/-! ## Stores that agree -/

namespace TemplateStore

/-- Both hold the same under these keys. -/
def AgreeOn (known : TemplateKey → Prop) (first second : TemplateStore) : Prop :=
  ∀ key, known key → first.templates.get? key = second.templates.get? key

theorem AgreeOn.weaken {known fewer : TemplateKey → Prop} {first second : TemplateStore}
    (agree : first.AgreeOn known second) (covered : ∀ key, fewer key → known key) : first.AgreeOn fewer second :=
  fun key isKnown => agree key (covered key isKnown)

theorem put_evicted_le (store : TemplateStore) (key : TemplateKey) (fields : List Field) (options : Bool) :
    store.evicted ≤ (store.put key fields options).2.evicted := by
  rw [(store.put_frame key fields options).2]
  exact Nat.le_add_right _ _

/-- A `put` that evicts nothing changes what its own key holds. -/
theorem get?_put_of_kept {store : TemplateStore} {key : TemplateKey} {fields : List Field} {options : Bool}
    (kept : (store.put key fields options).2.evicted = store.evicted) (other : TemplateKey) :
    (store.put key fields options).2.templates.get? other =
      if other = key then some ⟨fields, options⟩ else store.templates.get? other := by
  rw [(store.put_frame key fields options).2] at kept
  rw [put_of_fits (by omega), OrderedDict.get?_place]

theorem get_alike {first second : TemplateStore} {key : TemplateKey}
    (same : first.templates.get? key = second.templates.get? key) : (first.get key).1 = (second.get key).1 := by
  rw [get, get, same]
  cases second.templates.get? key <;> rfl

end TemplateStore

/-! ## One parse -/

/-- Two sinks that have stored the same templates: while nothing is evicted they agree on the keys known before
and on those stored since, and if all of the domain were known before, they have read the same records. -/
structure Sink.CatchesUp (known : TemplateKey → Prop) (exporter : Exporter) (domain firstEvicted secondEvicted : Nat)
    (first second : Sink) : Prop where
  firstGrown : firstEvicted ≤ first.store.evicted
  secondGrown : secondEvicted ≤ second.store.evicted
  putKeys : first.putKeys = second.putKeys
  agree : first.store.evicted = firstEvicted → second.store.evicted = secondEvicted →
    first.store.AgreeOn (fun key => known key ∨ key ∈ first.putKeys) second.store
  reading : first.store.evicted = firstEvicted → second.store.evicted = secondEvicted →
    (∀ id, known ⟨exporter, domain, id⟩) → first.records = second.records ∧ first.options = second.options

theorem Sink.putKeys_put (sink : Sink) (key : TemplateKey) (fields : List Field) (options : Bool) :
    (sink.put key fields options).putKeys = sink.putKeys ++ [key] := by
  show ((sink.calls ++ [StoreCall.put key fields options]).filter StoreCall.isPut).map StoreCall.key = _
  rw [List.filter_append, List.map_append]
  rfl

theorem Sink.putKeys_data (sink : Sink) (key : TemplateKey) (ipfix : Bool) (content : Bytes) :
    (applyData ipfix content (sink.get key).1 (sink.get key).2).putKeys = sink.putKeys :=
  congrArg (List.map StoreCall.key) (puts_dataSet content key sink)

theorem sinkSimulation_catchesUp (known : TemplateKey → Prop) (exporter : Exporter)
    (domain firstEvicted secondEvicted : Nat) :
    SinkSimulation exporter domain (Sink.CatchesUp known exporter domain firstEvicted secondEvicted) where
  put := by
    intro first second catches id fields options _
    have firstPut := first.store.put_evicted_le ⟨exporter, domain, id⟩ fields options
    have secondPut := second.store.put_evicted_le ⟨exporter, domain, id⟩ fields options
    have firstGrown := catches.firstGrown
    have secondGrown := catches.secondGrown
    refine ⟨Nat.le_trans firstGrown firstPut, Nat.le_trans secondGrown secondPut, ?_, ?_, ?_⟩
    · rw [Sink.putKeys_put, Sink.putKeys_put, catches.putKeys]
    · intro firstKept secondKept key isKnown
      change (first.store.put _ _ _).2.evicted = _ at firstKept
      change (second.store.put _ _ _).2.evicted = _ at secondKept
      show (first.store.put _ _ _).2.templates.get? key = (second.store.put _ _ _).2.templates.get? key
      rw [TemplateStore.get?_put_of_kept (by omega), TemplateStore.get?_put_of_kept (by omega)]
      by_cases own : key = ⟨exporter, domain, id⟩
      · rw [if_pos own, if_pos own]
      · rw [if_neg own, if_neg own]
        rw [Sink.putKeys_put, List.mem_append, List.mem_singleton] at isKnown
        apply catches.agree (by omega) (by omega) key
        tauto
    · intro firstKept secondKept
      change (first.store.put _ _ _).2.evicted = _ at firstKept
      change (second.store.put _ _ _).2.evicted = _ at secondKept
      exact catches.reading (by omega) (by omega)
  data := by
    intro first second catches ipfix id content
    have firstStore :=
      applyData_store ipfix content (first.get ⟨exporter, domain, id⟩).1 (first.get ⟨exporter, domain, id⟩).2
    have secondStore :=
      applyData_store ipfix content (second.get ⟨exporter, domain, id⟩).1 (second.get ⟨exporter, domain, id⟩).2
    obtain ⟨_, _, firstEvictions⟩ := first.store.get_frame ⟨exporter, domain, id⟩
    obtain ⟨_, _, secondEvictions⟩ := second.store.get_frame ⟨exporter, domain, id⟩
    have firstSame : (first.get ⟨exporter, domain, id⟩).2.store.evicted = first.store.evicted := firstEvictions
    have secondSame : (second.get ⟨exporter, domain, id⟩).2.store.evicted = second.store.evicted := secondEvictions
    refine ⟨?_, ?_, ?_, ?_, ?_⟩
    · rw [firstStore, firstSame]
      exact catches.firstGrown
    · rw [secondStore, secondSame]
      exact catches.secondGrown
    · rw [Sink.putKeys_data, Sink.putKeys_data, catches.putKeys]
    · rw [firstStore, secondStore, firstSame, secondSame, Sink.putKeys_data]
      intro firstKept secondKept key isKnown
      show (first.store.get _).2.templates.get? key = (second.store.get _).2.templates.get? key
      rw [TemplateStore.get?_get, TemplateStore.get?_get]
      exact catches.agree firstKept secondKept key isKnown
    · rw [firstStore, secondStore, firstSame, secondSame]
      intro firstKept secondKept own
      have held : (first.get ⟨exporter, domain, id⟩).1 = (second.get ⟨exporter, domain, id⟩).1 :=
        TemplateStore.get_alike (catches.agree firstKept secondKept _ (.inl (own id)))
      rw [held]
      exact @applyData_related (fun first second => first.records = second.records ∧ first.options = second.options)
        (first.get ⟨exporter, domain, id⟩).2 (second.get ⟨exporter, domain, id⟩).2
        (fun same isOptions rec => by cases isOptions <;> simp [Sink.append, same]) (fun same => same) ipfix content _
        (catches.reading firstKept secondKept own)
  markTruncated := fun catches =>
    ⟨catches.firstGrown, catches.secondGrown, catches.putKeys, catches.agree, catches.reading⟩
  close := by
    intro first second catches
    unfold Sink.close
    split <;> split <;>
      exact ⟨catches.firstGrown, catches.secondGrown, catches.putKeys, catches.agree, catches.reading⟩

/-- Two stores that agree on some keys agree after a message on those it sends besides, and read it alike if they
agreed on its whole domain. -/
theorem readDatagram_catchesUp {data : Bytes} {exporter : Exporter} {header : Header}
    (read : datagramHeader data exporter = some header) {known : TemplateKey → Prop} {first second : TemplateStore}
    (agree : first.AgreeOn known second) :
    first.evicted ≤ (readDatagram data exporter first).2.evicted ∧
      second.evicted ≤ (readDatagram data exporter second).2.evicted ∧
      ((readDatagram data exporter first).2.evicted = first.evicted →
        (readDatagram data exporter second).2.evicted = second.evicted →
        (readDatagram data exporter first).2.AgreeOn (fun key => known key ∨ key ∈ templateKeys data exporter)
            (readDatagram data exporter second).2 ∧
          ((∀ id, known ⟨exporter, header.domain, id⟩) →
            (readDatagram data exporter first).1 = (readDatagram data exporter second).1)) := by
  rw [datagramHeader] at read
  unfold readDatagram templateKeys
  by_cases isV5 : num data 0 2 = 5
  · simp only [if_pos isV5]
    refine ⟨Nat.le_refl _, Nat.le_refl _, fun _ _ => ⟨agree.weaken fun key isKnown => ?_, fun _ => trivial⟩⟩
    exact isKnown.resolve_right List.not_mem_nil
  · rw [if_neg isV5] at read
    simp only [if_neg isV5]
    have start (store other : TemplateStore) (known : TemplateKey → Prop) (agree : store.AgreeOn known other) :
        Sink.CatchesUp known exporter header.domain store.evicted other.evicted { store, stats := {} }
          { store := other, stats := {} } :=
      ⟨Nat.le_refl _, Nat.le_refl _, rfl, fun _ _ => agree.weaken fun _ isKnown => isKnown.resolve_right List.not_mem_nil,
        fun _ _ _ => ⟨rfl, rfl⟩⟩
    have catches := (sinkSimulation_catchesUp known exporter header.domain first.evicted second.evicted).applyMessage
      read (start first second known agree)
    have sent := ((sinkSimulation_catchesUp (fun _ => False) exporter header.domain first.evicted 0).applyMessage read
      (start first (.new maxTemplates maxPendingTemplates) _ (fun _ => False.elim))).putKeys
    refine ⟨catches.firstGrown, catches.secondGrown, fun firstKept secondKept => ⟨?_, fun own => ?_⟩⟩
    · rw [← sent]
      exact catches.agree firstKept secondKept
    · obtain ⟨records, options⟩ := catches.reading firstKept secondKept own
      rw [applyMessage_parsed read, applyMessage_parsed read, records, options]

theorem readDatagram_evicted_le {data : Bytes} {exporter : Exporter} {header : Header}
    (read : datagramHeader data exporter = some header) (store : TemplateStore) :
    store.evicted ≤ (readDatagram data exporter store).2.evicted :=
  (readDatagram_catchesUp read (fun _ (_ : False) => rfl : store.AgreeOn _ store)).1

/-! ## What a call answers -/

/-- What a message says of its datagram alone. -/
def Message.reading (message : Message) : Header × List Rec × List Rec :=
  (message.header, message.flows, message.options)

/-- A result, without the gap and the rate on its message. -/
def readingOf (result : Except Stop (Option Message)) : Except Stop (Option (Header × List Rec × List Rec)) :=
  result.map (Option.map Message.reading)

/-- Whether a note raises is up to its record. -/
theorem SamplingWatch.note_outcome (watch : SamplingWatch) (key : SamplingKey) (rec : Rec) :
    (watch.note key rec).1.map (fun _ => ()) = (samplingRate rec).map fun _ => () := by
  rw [note]
  cases samplingRate rec with
  | error error => rfl
  | ok stated => cases stated <;> rfl

theorem noteAll_outcome (first second : SamplingWatch) (key : SamplingKey) (opts : List Rec) :
    (Decoder.noteAll key first opts).1 = (Decoder.noteAll key second opts).1 := by
  induction opts generalizing first second with
  | nil => rfl
  | cons opt opts inductionHypothesis =>
    have same := (first.note_outcome key opt).trans (second.note_outcome key opt).symm
    rw [Decoder.noteAll, Decoder.noteAll]
    generalize first.note key opt = firstNoted at same ⊢
    generalize second.note key opt = secondNoted at same ⊢
    obtain ⟨firstOutcome, firstAfter⟩ := firstNoted
    obtain ⟨secondOutcome, secondAfter⟩ := secondNoted
    cases firstOutcome <;> cases secondOutcome <;> simp only [Except.map, reduceCtorEq, Except.error.injEq] at same
    · exact congrArg Except.error same
    · exact inductionHypothesis firstAfter secondAfter

namespace Core

theorem note_outcome {first second : Core} (alike : first.sampling.isSome = second.sampling.isSome) (key : SamplingKey)
    (opts : List Rec) : (first.note key opts).1.map (fun _ => ()) = (second.note key opts).1.map fun _ => () := by
  rw [note, note]
  cases isFirst : first.sampling with
  | none =>
    rw [isFirst, Option.isSome_none, eq_comm, Option.isSome_eq_false_iff, Option.isNone_iff_eq_none] at alike
    rw [alike]
  | some watch =>
    rw [isFirst, Option.isSome_some] at alike
    obtain ⟨other, isSecond⟩ := Option.isSome_iff_exists.mp alike.symm
    have same := noteAll_outcome watch other key opts
    rw [isSecond]
    simp only
    generalize Decoder.noteAll key watch opts = firstNoted at same ⊢
    generalize Decoder.noteAll key other opts = secondNoted at same ⊢
    obtain ⟨firstOutcome, firstAfter⟩ := firstNoted
    obtain ⟨secondOutcome, secondAfter⟩ := secondNoted
    cases same
    cases firstOutcome <;> rfl

/-- Two decoders that track sampling or do not alike deliver the same reading of the same records. -/
theorem deliver_reading {first second : Core} (alike : first.sampling.isSome = second.sampling.isSome)
    (exporter : Exporter) (version : Nat) (header : Header) (flows options : List Rec) :
    readingOf (first.deliver exporter version header flows options).1 =
      readingOf (second.deliver exporter version header flows options).1 := by
  have same := @note_outcome
    (first.observe (Decoder.observation exporter version header flows.length options.length)).2
    (second.observe (Decoder.observation exporter version header flows.length options.length)).2
    (by rw [observe_sampling, observe_sampling, alike]) ⟨exporter, header.domain⟩ options
  simp only [deliver]
  generalize (first.observe _).2.note _ _ = firstNoted at same ⊢
  generalize (second.observe _).2.note _ _ = secondNoted at same ⊢
  obtain ⟨firstOutcome, firstAfter⟩ := firstNoted
  obtain ⟨secondOutcome, secondAfter⟩ := secondNoted
  cases firstOutcome <;> cases secondOutcome <;> simp only [Except.map, reduceCtorEq, Except.error.injEq] at same
  · rw [same]
  · rfl

theorem note_isSome (core : Core) (key : SamplingKey) (opts : List Rec) :
    (core.note key opts).2.sampling.isSome = core.sampling.isSome := by
  rw [note]
  cases tracked : core.sampling with
  | none => rw [tracked]
  | some watch =>
    simp only
    generalize Decoder.noteAll key watch opts = noted
    obtain ⟨outcome, after⟩ := noted
    cases outcome <;> rfl

/-- What a step leaves of the store and of the sampling watch being there. -/
theorem step_frame (core : Core) (datagram : Decoder.Datagram) :
    (core.step datagram).2.sampling.isSome = core.sampling.isSome ∧
      ((core.step datagram).2.templates.templates, (core.step datagram).2.templates.evicted) =
        match datagram.header with
        | none => (core.templates.templates, core.templates.evicted)
        | some _ =>
          let store := (readDatagram datagram.data (exporterKey datagram.exporter) core.templates).2
          (store.templates, store.evicted) := by
  cases read : datagram.header with
  | none =>
    obtain ⟨_, same | same⟩ := step_headerless read core <;> rw [same] <;> exact ⟨rfl, rfl⟩
  | some header =>
    rw [step_headed read]
    constructor
    · rw [deliver_after, note_isSome, observe_sampling]
      rfl
    · rw [deliver_templates]
      rfl

/-- Two decoders whose stores agree on these keys, for as long as neither evicts. -/
structure CaughtUp (known : TemplateKey → Prop) (lateEvicted earlyEvicted : Nat) (late early : Core) : Prop where
  alike : late.sampling.isSome = early.sampling.isSome
  lateGrown : lateEvicted ≤ late.templates.evicted
  earlyGrown : earlyEvicted ≤ early.templates.evicted
  agree : late.templates.evicted = lateEvicted → early.templates.evicted = earlyEvicted →
    late.templates.AgreeOn known early.templates

variable {known : TemplateKey → Prop} {lateEvicted earlyEvicted : Nat} {late early : Core}

/-- A datagram adds the templates it sends to what two decoders agree on. -/
theorem CaughtUp.step (caughtUp : CaughtUp known lateEvicted earlyEvicted late early) (datagram : Decoder.Datagram) :
    CaughtUp (fun key => known key ∨ key ∈ datagram.sends) lateEvicted earlyEvicted (late.step datagram).2
      (early.step datagram).2 := by
  obtain ⟨lateTracks, lateStore⟩ := late.step_frame datagram
  obtain ⟨earlyTracks, earlyStore⟩ := early.step_frame datagram
  have lateGrown := caughtUp.lateGrown
  have earlyGrown := caughtUp.earlyGrown
  have alike := lateTracks.trans (caughtUp.alike.trans earlyTracks.symm)
  rw [Decoder.Datagram.sends]
  cases read : datagram.header with
  | none =>
    simp only [read, Prod.mk.injEq] at lateStore earlyStore
    obtain ⟨lateTemplates, lateEvictions⟩ := lateStore
    obtain ⟨earlyTemplates, earlyEvictions⟩ := earlyStore
    refine ⟨alike, by omega, by omega, fun lateKept earlyKept key isKnown => ?_⟩
    rw [lateTemplates, earlyTemplates]
    exact caughtUp.agree (by omega) (by omega) key (isKnown.resolve_right List.not_mem_nil)
  | some header =>
    simp only [read, Prod.mk.injEq] at lateStore earlyStore
    obtain ⟨lateTemplates, lateEvictions⟩ := lateStore
    obtain ⟨earlyTemplates, earlyEvictions⟩ := earlyStore
    have isHeader := Decoder.Datagram.header_read read
    have lateMore := readDatagram_evicted_le isHeader late.templates
    have earlyMore := readDatagram_evicted_le isHeader early.templates
    refine ⟨alike, by omega, by omega, fun lateKept earlyKept key isKnown => ?_⟩
    rw [lateTemplates, earlyTemplates]
    obtain ⟨_, _, caught⟩ := readDatagram_catchesUp isHeader (caughtUp.agree (by omega) (by omega))
    exact (caught (by omega) (by omega)).1 key isKnown

/-- Decoders that agree on a whole domain read its datagrams alike. -/
theorem CaughtUp.reading (caughtUp : CaughtUp known lateEvicted earlyEvicted late early) {exporter : Exporter}
    {domain : Nat} (own : ∀ id, known ⟨exporter, domain, id⟩) {datagram : Decoder.Datagram}
    (carries : datagram.carries exporter domain = true)
    (lateKept : (late.step datagram).2.templates.evicted = lateEvicted)
    (earlyKept : (early.step datagram).2.templates.evicted = earlyEvicted) :
    readingOf (late.step datagram).1 = readingOf (early.step datagram).1 := by
  rw [Decoder.Datagram.carries] at carries
  cases read : datagram.header with
  | none => simp [read] at carries
  | some header =>
    rw [read, Option.any_some, decide_eq_true_eq, Decoder.Datagram.header_exporter read] at carries
    obtain ⟨rfl, rfl⟩ := carries
    have lateStore := (late.step_frame datagram).2
    have earlyStore := (early.step_frame datagram).2
    simp only [read, Prod.mk.injEq] at lateStore earlyStore
    have isHeader := Decoder.Datagram.header_read read
    have lateGrown := caughtUp.lateGrown
    have earlyGrown := caughtUp.earlyGrown
    have lateMore := readDatagram_evicted_le isHeader late.templates
    have earlyMore := readDatagram_evicted_le isHeader early.templates
    obtain ⟨_, _, caught⟩ := readDatagram_catchesUp isHeader (caughtUp.agree (by omega) (by omega))
    have same := (caught (by omega) (by omega)).2 own
    rw [step_headed read, step_headed read, same]
    exact @deliver_reading (late.afterRead datagram) (early.afterRead datagram) caughtUp.alike _ _ _ _ _

/-- So does a run, with the templates of all its datagrams. -/
theorem CaughtUp.run (caughtUp : CaughtUp known lateEvicted earlyEvicted late early) (run : List Decoder.Datagram) :
    CaughtUp (fun key => known key ∨ key ∈ run.flatMap Decoder.Datagram.sends) lateEvicted earlyEvicted
      (stateAfter Core.step late run) (stateAfter Core.step early run) := by
  induction run generalizing known late early with
  | nil =>
    refine ⟨caughtUp.alike, caughtUp.lateGrown, caughtUp.earlyGrown, fun lateKept earlyKept => ?_⟩
    exact (caughtUp.agree lateKept earlyKept).weaken fun key isKnown => by simpa using isKnown
  | cons datagram run inductionHypothesis =>
    have after := inductionHypothesis (caughtUp.step datagram)
    refine ⟨after.alike, after.lateGrown, after.earlyGrown, fun lateKept earlyKept => ?_⟩
    refine (after.agree lateKept earlyKept).weaken fun key isKnown => ?_
    rw [List.flatMap_cons, List.mem_append] at isKnown
    tauto

end Core

/-! ## The run -/

theorem Decoder.evicted_le_later (decoder : Decoder) (first second : List Decoder.Datagram) :
    (decoder.decodeAll first).templates.evicted ≤ (decoder.decodeAll (first ++ second)).templates.evicted := by
  have start : Core.CaughtUp (fun _ => False) (decoder.decodeAll first).templates.evicted
      (decoder.decodeAll first).templates.evicted (decoder.decodeAll first).core (decoder.decodeAll first).core :=
    ⟨rfl, Nat.le_refl _, Nat.le_refl _, fun _ _ _ => False.elim⟩
  have later := (start.run second).lateGrown
  rw [(decoder.results_core first).2, ← stateAfter_append, ← (decoder.results_core (first ++ second)).2] at later
  exact later

/-- A decoder that started late reads a domain as one with any other past does, once every template that either
holds for it has been sent again, as long as neither evicts any template. -/
theorem Decoder.late_start_catches_up (late early : Decoder) (alike : late.sampling.isSome = early.sampling.isSome)
    (warm rest : List Decoder.Datagram) (exporter : Exporter) (domain : Nat)
    (lateKept : (late.decodeAll (warm ++ rest)).templates.evicted = late.templates.evicted)
    (earlyKept : (early.decodeAll (warm ++ rest)).templates.evicted = early.templates.evicted)
    (resent : ∀ held ∈ (late.decodeAll warm).templates.templates.entries ++
      (early.decodeAll warm).templates.templates.entries,
      held.1.within exporter domain → held.1 ∈ warm.flatMap Decoder.Datagram.sends)
    (before : List Decoder.Datagram) (datagram : Decoder.Datagram) (after : List Decoder.Datagram)
    (split : rest = before ++ datagram :: after) (carries : datagram.carries exporter domain = true) :
    readingOf ((late.decodeAll (warm ++ before)).decodeDatagram datagram).1 =
      readingOf ((early.decodeAll (warm ++ before)).decodeDatagram datagram).1 := by
  have lateAfter (run : List Decoder.Datagram) := (late.results_core run).2
  have earlyAfter (run : List Decoder.Datagram) := (early.results_core run).2
  have start : Core.CaughtUp (fun _ => False) late.templates.evicted early.templates.evicted late.core early.core :=
    ⟨alike, Nat.le_refl _, Nat.le_refl _, fun _ _ _ => False.elim⟩
  have warmed := start.run warm
  rw [← lateAfter, ← earlyAfter] at warmed
  have lateStill (first second : List Decoder.Datagram) (run : warm ++ rest = first ++ second) :
      (late.decodeAll first).templates.evicted = late.templates.evicted :=
    Nat.le_antisymm (lateKept ▸ run ▸ late.evicted_le_later first second) (late.evicted_le_later [] first)
  have earlyStill (first second : List Decoder.Datagram) (run : warm ++ rest = first ++ second) :
      (early.decodeAll first).templates.evicted = early.templates.evicted :=
    Nat.le_antisymm (earlyKept ▸ run ▸ early.evicted_le_later first second) (early.evicted_le_later [] first)
  have agree := warmed.agree (lateStill warm rest rfl) (earlyStill warm rest rfl)
  have caughtUp : Core.CaughtUp (fun key => ∃ id, key = ⟨exporter, domain, id⟩) late.templates.evicted
      early.templates.evicted (late.decodeAll warm).core (early.decodeAll warm).core := by
    refine ⟨warmed.alike, warmed.lateGrown, warmed.earlyGrown, fun _ _ => ?_⟩
    rintro key ⟨id, rfl⟩
    have sent {template : Template} (member : (⟨exporter, domain, id⟩, template) ∈
        (late.decodeAll warm).templates.templates.entries ++ (early.decodeAll warm).templates.templates.entries) :
        TemplateKey.mk exporter domain id ∈ warm.flatMap Decoder.Datagram.sends :=
      resent _ member (by simp [TemplateKey.within])
    cases lateHeld : (late.decodeAll warm).templates.templates.get? ⟨exporter, domain, id⟩ with
    | some template => exact agree _ (.inr (sent (List.mem_append_left _ (OrderedDict.get?_eq_some_iff.mp lateHeld))))
    | none =>
      cases earlyHeld : (early.decodeAll warm).templates.templates.get? ⟨exporter, domain, id⟩ with
      | some template =>
        exact agree _ (.inr (sent (List.mem_append_right _ (OrderedDict.get?_eq_some_iff.mp earlyHeld))))
      | none => exact lateHeld.trans earlyHeld.symm
  have reached := caughtUp.run before
  rw [lateAfter, earlyAfter, ← stateAfter_append, ← stateAfter_append, ← lateAfter, ← earlyAfter] at reached
  have upTo : warm ++ rest = (warm ++ (before ++ [datagram])) ++ after := by simp [split]
  have lateNow := lateStill _ _ upTo
  have earlyNow := earlyStill _ _ upTo
  rw [← List.append_assoc, Decoder.decodeAll, stateAfter_snoc] at lateNow earlyNow
  obtain ⟨lateAnswer, lateNext⟩ := (late.decodeAll (warm ++ before)).decode_core datagram
  obtain ⟨earlyAnswer, earlyNext⟩ := (early.decodeAll (warm ++ before)).decode_core datagram
  rw [lateAnswer, earlyAnswer]
  refine reached.reading (fun id => .inl ⟨id, rfl⟩) carries ?_ ?_
  · rw [← lateNext]
    exact lateNow
  · rw [← earlyNext]
    exact earlyNow

/-- The template a data set reads by changes its layout while the late decoder is not there yet. -/
theorem Decoder.late_start_catches_up_redefinition :
    let message (sets : List FramedSet) : Decoder.Datagram :=
      ⟨(ExportHeader.ipfix 0 4 7).message (bodyBytes sets), .obj 1⟩
    let older : FramedSet := ⟨2, [1, 0, 0, 1, 0, 11, 0, 4], by decide⟩
    let early := Decoder.fresh.decodeAll [message [older], message [portDataSet]]
    readingOf ((Decoder.fresh.decodeAll [message [portDataSet], message [portTemplateSet]]).decodeDatagram
        (message [portDataSet])).1 =
      readingOf ((early.decodeAll [message [portDataSet], message [portTemplateSet]]).decodeDatagram
        (message [portDataSet])).1 := by
  intro message older early
  exact Decoder.late_start_catches_up Decoder.fresh early (by decide +kernel)
    [message [portDataSet], message [portTemplateSet]] [message [portDataSet]] (.obj 1) 7 (by decide +kernel)
    (by decide +kernel) (by decide +kernel) [] _ [] rfl (by decide +kernel)

end Netflume
