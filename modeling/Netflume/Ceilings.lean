import Mathlib.Algebra.Order.BigOperators.Group.List
import Netflume.DecoderEvents
import Netflume.RoundTrip
import Netflume.TableKeys

/-! # The ceilings

Everything kept by a source address has a ceiling, since an address is whatever the
sender typed.  The tables stay within theirs over every run, also where a call
raises.  The exporters warned of are trimmed only when a stream is first seen, and
until then there are no more than twice as many as there may be streams. -/

namespace Netflume

open Library

/-! ## The template store -/

/-- No layout held has more fields than fit in so many bytes. -/
def TemplateStore.Fits (bytes : Nat) (store : TemplateStore) : Prop :=
  ∀ key template, store.templates.get? key = some template → 4 * template.fields.length ≤ bytes

structure TemplateStore.Within (ceiling : Nat) (store : TemplateStore) : Prop where
  limit : store.maxTemplates = ceiling
  held : store.templates.size ≤ ceiling

namespace TemplateStore

variable {ceiling : Nat} {store : TemplateStore}

theorem Within.put (within : store.Within ceiling) (key : TemplateKey) (fields : List Field) (options : Bool) :
    (store.put key fields options).2.Within ceiling where
  limit := (put_maxTemplates store key fields options).trans within.limit
  held := by
    rw [put_placed, OrderedDict.size_trim, within.limit]
    omega

theorem Within.get (within : store.Within ceiling) (key : TemplateKey) : (store.get key).2.Within ceiling := by
  obtain ⟨templates, limit, _⟩ := store.get_frame key
  refine ⟨limit.trans within.limit, ?_⟩
  rw [templates, OrderedDict.size_moveToEnd]
  exact within.held

theorem Fits.put {bytes : Nat} (fitting : store.Fits bytes) {fields : List Field} (fits : 4 * fields.length ≤ bytes)
    (key : TemplateKey) (options : Bool) : (store.put key fields options).2.Fits bytes := by
  intro other template held
  obtain dropped | kept := store.get?_put key other fields options
  · rw [dropped] at held
    cases held
  · rw [kept] at held
    split at held
    · cases held
      exact fits
    · exact fitting other template held

end TemplateStore

/-! ## What a datagram teaches -/

theorem CompleteRecord.fields_length_le {ipfix options : Bool} {declared : Declared ipfix} {record : Bytes}
    (complete : CompleteRecord ipfix options declared record) : 4 * declared.specs.length ≤ record.length := by
  cases complete with
  | template id specs nonempty counted =>
    have few := specs_length_le specs
    simp only [List.length_append]
    omega
  | ipfixOptions id scopeCount specs nonempty counted =>
    have few := specs_length_le specs
    simp only [List.length_append]
    omega
  | v9Options id scopeLen optLen scopes options scopeBytes optBytes nonempty =>
    have few := specs_length_le (scopes ++ options)
    rw [@List.length_append _ (toBytes 2 id.toNat)]
    simp only [List.length_append] at few ⊢
    omega

/-- A template a message files fits in the message. -/
theorem put_fits {data : Bytes} {exporter : Exporter} {sink : Sink} (silent : sink.puts = []) {key : TemplateKey}
    {fields : List Field} {options : Bool}
    (stored : .put key fields options ∈ (applyMessage data exporter sink).2.calls) :
    4 * fields.length ≤ data.length := by
  have isPut : StoreCall.put key fields options ∈ (applyMessage data exporter sink).2.puts :=
    List.mem_filter.mpr ⟨stored, rfl⟩
  cases read : messageHeader data exporter with
  | none =>
    rw [applyMessage_headerless read, silent] at isPut
    cases isPut
  | some header =>
    obtain ⟨sets, framed⟩ := framed_exists (messageBody data)
    obtain ⟨learned, declare⟩ := allDeclare_exists (decide (num data 0 2 = 10)) sets
    rw [puts_applyMessage rfl read framed declare, silent, List.nil_append] at isPut
    obtain ⟨set, isSet, _, declared, before, record, after, inside, complete, _, rfl⟩ := declared_of_put declare isPut
    have few := complete.fields_length_le
    have whole := congrArg List.length inside
    have within := wireSets_content_le (messageBody data)
    rw [wireSets_of_framed framed] at within
    have one : set.content.length ≤ (sets.map fun set => set.content.length).sum :=
      List.le_sum_of_mem (List.mem_map_of_mem isSet)
    have body : (messageBody data).length ≤ data.length := by
      rw [messageBody]
      split <;> simp [slice]
    simp only [List.length_append] at whole
    rw [List.length_map]
    omega

/-- The store a message leaves fits, if it did before and the templates the message files do. -/
theorem fits_invariant (size : Nat) :
    SinkInvariant fun sink =>
      (∀ key fields options, .put key fields options ∈ sink.calls → 4 * fields.length ≤ size) → sink.store.Fits size where
  put := by
    intro sink key fields options _ holds few
    have earlier : sink.store.Fits size := holds fun other others kind member =>
      few other others kind (List.mem_append_left _ member)
    exact earlier.put (few key fields options (List.mem_append_right _ (List.mem_singleton_self _))) key options
  get := by
    intro sink key holds few
    have earlier : sink.store.Fits size := holds fun other others kind member =>
      few other others kind (List.mem_append_left _ member)
    intro other template held
    exact earlier other template (by simpa [Sink.get] using held)
  append := by
    intro sink isOptions _ _ rec _ _ holds
    cases isOptions <;> exact holds
  deferred := fun _ holds => holds
  markTruncated := fun _ holds => holds
  close := by
    intro sink holds
    rw [Sink.close]
    split <;> exact holds

theorem within_invariant (ceiling : Nat) : SinkInvariant fun sink => sink.store.Within ceiling where
  put := fun _ key fields options _ within => within.put key fields options
  get := fun _ key within => within.get key
  append := by
    intro sink isOptions _ _ rec _ _ within
    cases isOptions <;> exact within
  deferred := fun _ within => within
  markTruncated := fun _ within => within
  close := by
    intro sink within
    rw [Sink.close]
    split <;> exact within

theorem readDatagram_within {ceiling : Nat} {store : TemplateStore} (within : store.Within ceiling) (data : Bytes)
    (exporter : Exporter) : (readDatagram data exporter store).2.Within ceiling := by
  rw [readDatagram]
  split
  · exact within
  · have start : ({ store, stats := {} } : Sink).store.Within ceiling := within
    exact (within_invariant ceiling).applyMessage data exporter start

theorem readDatagram_fits {size : Nat} {store : TemplateStore} (fitting : store.Fits size) {data : Bytes}
    (small : data.length ≤ size) (exporter : Exporter) : (readDatagram data exporter store).2.Fits size := by
  rw [readDatagram]
  split
  · exact fitting
  · apply (fits_invariant size).applyMessage data exporter fun _ => fitting
    intro key fields options stored
    exact Nat.le_trans (put_fits rfl stored) small

/-! ## The sequence watch -/

/-- The books are coherent, and the exporters warned of are some kept from the last trim and some whose streams
are held. -/
structure SequenceWatch.Within (ceiling : Nat) (watch : SequenceWatch) : Prop where
  coherent : ∃ run, watch.Coherent ceiling run
  warned : ∃ kept late, watch.warned.keys = kept ++ late ∧ kept.length ≤ ceiling ∧
    ∀ exporter ∈ late, ∃ key, (watch.streams.get? key).isSome = true ∧ key.exporter = exporter

namespace SequenceWatch

variable {ceiling : Nat} {watch : SequenceWatch}

theorem within_new (ceiling : Nat) : (new ceiling).Within ceiling :=
  ⟨⟨[], coherent_new ceiling⟩, [], [], rfl, Nat.zero_le _, nofun⟩

theorem Within.observe (within : watch.Within ceiling) (obs : Observation) : (watch.observe obs).2.Within ceiling := by
  obtain ⟨⟨run, coherent⟩, kept, late, split, few, seen⟩ := within
  refine ⟨⟨run ++ [obs], coherent_observe coherent obs⟩, ?_⟩
  obtain ⟨_, same⟩ | ⟨seq, _, ⟨_, placed⟩ | ⟨state, entry, held, writes⟩⟩ := watch.observe_cases obs
  · rw [same]
    exact ⟨kept, late, split, few, seen⟩
  · rw [placed]
    refine ⟨(watch.warned.trim ceiling).2.keys, [], ?_, ?_, nofun⟩
    · rw [List.append_nil, ← coherent.limit]
      rfl
    · rw [OrderedDict.keys_trim]
      exact length_rtake_le _ _
  · have still (key : StreamKey) (isHeld : (watch.streams.get? key).isSome = true) :
        ((watch.observe obs).2.streams.get? key).isSome = true := by
      rw [writes.streams, OrderedDict.get?_set, OrderedDict.get?_moveToEnd]
      split
      · rfl
      · exact isHeld
    have seenStill (exporter : Exporter) (member : exporter ∈ late) :
        ∃ key, ((watch.observe obs).2.streams.get? key).isSome = true ∧ key.exporter = exporter := by
      obtain ⟨key, isHeld, own⟩ := seen exporter member
      exact ⟨key, still key isHeld, own⟩
    obtain ⟨_, _, _, warned⟩ | ⟨_, mode, _, _, _, warned⟩ := writes.books
    · rw [warned]
      exact ⟨kept, late, split, few, seenStill⟩
    · rw [warned]
      by_cases known : watch.warned.contains obs.key.exporter = true
      · rw [if_pos known]
        exact ⟨kept, late, split, few, seenStill⟩
      · have missing : watch.warned.get? obs.key.exporter = none := by
          simpa [OrderedDict.contains] using known
        have added : (watch.warned.set obs.key.exporter ()).keys = watch.warned.keys ++ [obs.key.exporter] := by
          rw [OrderedDict.keys, OrderedDict.entries_set_of_not_held missing, List.map_append]
          rfl
        rw [if_neg known, added, split, List.append_assoc]
        refine ⟨kept, late ++ [obs.key.exporter], rfl, few, ?_⟩
        intro exporter member
        obtain earlier | own := List.mem_append.mp member
        · exact seenStill exporter earlier
        · rw [List.mem_singleton.mp own]
          exact ⟨obs.key, still obs.key (by rw [held]; rfl), rfl⟩

/-- Loss is booked on streams that are held, and so are the units it is counted in. -/
theorem Within.booked (within : watch.Within ceiling) (key : StreamKey) :
    ((watch.missed.get? key).isSome = true → (watch.streams.get? key).isSome = true) ∧
      ((watch.units.get? key).isSome = true → (watch.streams.get? key).isSome = true) := by
  obtain ⟨⟨run, coherent⟩, _⟩ := within
  exact ⟨coherent.booked_held, fun counted => coherent.booked_held ((coherent.sameKeys key).trans counted)⟩

/-- What the tables of a watch hold. -/
theorem Within.sizes (within : watch.Within ceiling) :
    watch.streams.size ≤ ceiling ∧ watch.missed.size ≤ watch.streams.size ∧
      watch.units.size ≤ watch.streams.size ∧ watch.warned.size ≤ 2 * ceiling := by
  have booked := within.booked
  obtain ⟨⟨run, coherent⟩, kept, late, split, few, seen⟩ := within
  have streams : watch.streams.size ≤ ceiling := by
    have recent := length_mostRecent_le ceiling (streamUses run)
    rw [← coherent.recent] at recent
    simpa [OrderedDict.keys, OrderedDict.size] using recent
  refine ⟨streams, OrderedDict.size_le_of_held fun key => (booked key).1,
    OrderedDict.size_le_of_held fun key => (booked key).2, ?_⟩
  · have distinct : late.Nodup := (List.nodup_append'.mp (split ▸ watch.warned.nodup : (kept ++ late).Nodup)).2.1
    have covered : late ⊆ watch.streams.keys.map StreamKey.exporter := by
      intro exporter member
      obtain ⟨key, held, own⟩ := seen exporter member
      exact List.mem_map.mpr ⟨key, (watch.streams.mem_keys_iff key).mpr held, own⟩
    have lateFew := (List.Nodup.subperm distinct covered).length_le
    have count := congrArg List.length split
    simp only [OrderedDict.keys, List.length_map, List.length_append] at lateFew count
    simp only [OrderedDict.size] at streams ⊢
    omega

end SequenceWatch

/-! ## The sampling watch -/

structure SamplingWatch.Within (ceiling : Nat) (watch : SamplingWatch) : Prop where
  limit : watch.maxStreams = ceiling
  held : watch.rates.size ≤ ceiling

namespace SamplingWatch

variable {ceiling : Nat} {watch : SamplingWatch}

theorem Within.clear (within : watch.Within ceiling) (key : SamplingKey) : (watch.clear key).2.Within ceiling := by
  obtain ⟨rates, _, limit⟩ := clear_frame watch key
  refine ⟨limit.trans within.limit, ?_⟩
  rw [rates]
  exact Nat.le_trans (OrderedDict.size_restrict_le _ _) within.held

theorem Within.restate (within : watch.Within ceiling) (key : SamplingKey) (rate : Nat) :
    (watch.restate key rate).2.Within ceiling := by
  rw [SamplingWatch.restate]
  dsimp only
  split
  · refine ⟨within.limit, ?_⟩
    rw [OrderedDict.size_moveToEnd]
    exact within.held
  · refine ⟨within.limit, ?_⟩
    simp only [announce, OrderedDict.size_trim, within.limit]
    omega

theorem Within.note (within : watch.Within ceiling) (key : SamplingKey) (opt : Rec) :
    (watch.note key opt).2.Within ceiling := by
  rw [SamplingWatch.note]
  cases samplingRate opt with
  | error error => exact within
  | ok stated =>
    cases stated with
    | none => exact within
    | some rate =>
      dsimp only
      split
      · exact within.clear key
      · exact within.restate key rate

theorem Within.noteAll (within : watch.Within ceiling) (key : SamplingKey) (opts : List Rec) :
    (Decoder.noteAll key watch opts).2.Within ceiling :=
  noteAll_invariant (fun _ opt within => within.note key opt) within opts

end SamplingWatch

/-! ## The decoder -/

/-- Every table is within its ceiling, and the store and the sequence watch hold no event back. -/
structure Core.Within (size : Nat) (core : Core) : Prop where
  templates : core.templates.Within maxTemplates
  fitting : core.templates.Fits size
  handedOver : core.templates.events = []
  sequence : ∀ watch, core.sequence = some watch → watch.Within maxStreams ∧ watch.events = []
  sampling : ∀ watch, core.sampling = some watch → watch.Within maxSamplingStreams

namespace Core

variable {size : Nat} {core : Core}

theorem Within.afterRead (within : core.Within size) {datagram : Decoder.Datagram}
    (small : datagram.data.length ≤ size) : (core.afterRead datagram).Within size := by
  have parsed := readDatagram_within within.templates datagram.data (exporterKey datagram.exporter)
  have fits := readDatagram_fits within.fitting small (exporterKey datagram.exporter)
  exact ⟨⟨parsed.limit, parsed.held⟩, fits, rfl, within.sequence, within.sampling⟩

theorem Within.observe (within : core.Within size) (obs : Observation) : (core.observe obs).2.Within size := by
  obtain ⟨templates, sequence, sampling⟩ := core
  cases sequence with
  | none => exact within
  | some watch =>
    refine ⟨within.templates, within.fitting, within.handedOver, fun after same => ?_, within.sampling⟩
    cases same
    obtain ⟨coherent, warned⟩ := (within.sequence watch rfl).1.observe obs
    obtain ⟨run, ⟨limit, recent, sameKeys, booked, states⟩⟩ := coherent
    exact ⟨⟨⟨run, limit, recent, sameKeys, booked, states⟩, warned⟩, rfl⟩

theorem Within.note (within : core.Within size) (key : SamplingKey) (opts : List Rec) :
    (core.note key opts).2.Within size := by
  obtain ⟨templates, sequence, sampling⟩ := core
  cases sampling with
  | none => exact within
  | some watch =>
    have all := (within.sampling watch rfl).noteAll key opts
    simp only [Core.note]
    generalize Decoder.noteAll key watch opts = noted at all ⊢
    obtain ⟨outcome, after⟩ := noted
    cases outcome with
    | error error =>
      refine ⟨within.templates, within.fitting, within.handedOver, within.sequence, fun other same => ?_⟩
      cases same
      exact all
    | ok done =>
      refine ⟨within.templates, within.fitting, within.handedOver, within.sequence, fun other same => ?_⟩
      cases same
      exact ⟨all.limit, all.held⟩

theorem Within.step (within : core.Within size) {datagram : Decoder.Datagram} (small : datagram.data.length ≤ size) :
    (core.step datagram).2.Within size := by
  cases read : datagram.header with
  | none =>
    obtain same | drained := (step_headerless read core).2
    · rw [same]
      exact within
    · rw [drained]
      exact ⟨⟨within.templates.limit, within.templates.held⟩, within.fitting, rfl, within.sequence, within.sampling⟩
  | some header =>
    rw [step_headed read, deliver_after]
    exact ((within.afterRead small).observe _).note _ _

end Core

namespace Decoder

theorem queue_bounded {decoder : Decoder} (bounded : decoder.events.length ≤ maxPendingEvents) (events : List Event) :
    (decoder.queue events).events.length ≤ maxPendingEvents := enqueued_bounded (queue_backlog bounded events)

theorem deliver_bounded {decoder : Decoder} (bounded : decoder.events.length ≤ maxPendingEvents) (exporter : Exporter)
    (version : Nat) (header : Header) (flows options : List Rec) :
    (decoder.deliver exporter version header flows options).2.events.length ≤ maxPendingEvents := by
  have watched (counting : Decoder) (bounded : counting.events.length ≤ maxPendingEvents) (obs : Observation) :
      (counting.watchSequence obs).2.events.length ≤ maxPendingEvents := by
    rw [watchSequence]
    split
    · exact bounded
    · apply queue_bounded
      dsimp only
      split <;> exact bounded
  have sampled (watching : Decoder) (bounded : watching.events.length ≤ maxPendingEvents) :
      (watching.watchSampling ⟨exporter, header.domain⟩ options).2.events.length ≤ maxPendingEvents := by
    rw [watchSampling]
    cases watching.sampling with
    | none => exact bounded
    | some watch =>
      dsimp only
      generalize noteAll ⟨exporter, header.domain⟩ watch options = noted
      obtain ⟨outcome, after⟩ := noted
      cases outcome with
      | error error => exact bounded
      | ok done => exact queue_bounded (by exact bounded) _
  have answered := sampled _ (watched (decoder.tally (countMessage version flows.length options.length)) bounded
    (observation exporter version header flows.length options.length))
  rw [deliver]
  dsimp only
  split
  · rename_i failed
    rw [failed] at answered
    exact answered
  · rename_i noted
    rw [noted] at answered
    exact answered

theorem decode_bounded {decoder : Decoder} (bounded : decoder.events.length ≤ maxPendingEvents) (datagram : Datagram) :
    (decoder.decodeDatagram datagram).2.events.length ≤ maxPendingEvents := by
  have left := decode_exit decoder datagram
  have parsedBounded (run : ParseRun) : (decoder.parsed run).events.length ≤ maxPendingEvents :=
    @queue_bounded { decoder with templates := run.store.takeEvents.2, stats := run.stats } bounded _
  generalize decoder.decodeDatagram datagram = outcome at left ⊢
  generalize decoder.raised datagram = events at left
  cases left with
  | short few => exact enqueued_bounded (fail_backlog (by exact bounded) _ _ _ _)
  | unsupported unknown => exact enqueued_bounded (fail_backlog (by exact bounded) _ _ _ _)
  | headerless isParse => exact enqueued_bounded (fail_backlog (parsedBounded _) _ _ _ _)
  | delivered isParse known => exact deliver_bounded (parsedBounded _) _ _ _ _ _

/-- Every table is within its ceiling, and so is the queue. -/
structure Within (decoder : Decoder) : Prop where
  core : decoder.core.Within maxDatagram
  bounded : decoder.events.length ≤ maxPendingEvents

theorem within_new (trackSequence trackSampling : Bool) : (new trackSequence trackSampling).Within := by
  refine ⟨⟨⟨rfl, Nat.zero_le _⟩, nofun, rfl, ?_, ?_⟩, Nat.zero_le _⟩
  · intro watch tracked
    cases trackSequence with
    | true =>
      cases tracked
      exact ⟨SequenceWatch.within_new maxStreams, rfl⟩
    | false => cases tracked
  · intro watch tracked
    cases trackSampling with
    | true =>
      cases tracked
      exact ⟨rfl, Nat.zero_le _⟩
    | false => cases tracked

theorem Within.perform {decoder : Decoder} (within : decoder.Within) {op : Op} (fits : op.Fits) :
    (decoder.perform op).2.Within := by
  cases op with
  | decode datagram =>
    refine ⟨?_, decode_bounded within.bounded datagram⟩
    have same := (decode_core decoder datagram).2
    exact same ▸ within.core.step fits
  | takeEvents => exact ⟨within.core, Nat.zero_le _⟩

theorem within_run (trackSequence trackSampling : Bool) {run : List Op} (fits : ∀ op ∈ run, op.Fits) :
    (stateAfter perform (new trackSequence trackSampling) run).Within := by
  induction run using List.reverseRecOn with
  | nil => exact within_new trackSequence trackSampling
  | append_singleton run op inductionHypothesis =>
    rw [stateAfter_snoc]
    exact (inductionHypothesis fun other member => fits other (List.mem_append_left _ member)).perform
      (fits op (List.mem_append_right _ (List.mem_singleton_self _)))

/-- No table outgrows its ceiling, whatever arrives and from whom, and whether or not the calls return. -/
theorem tables_within_ceilings (trackSequence trackSampling : Bool) {run : List Op} (fits : ∀ op ∈ run, op.Fits) :
    let decoder := stateAfter perform (new trackSequence trackSampling) run
    decoder.events.length ≤ maxPendingEvents ∧
      decoder.templates.templates.size ≤ maxTemplates ∧ decoder.templates.events = [] ∧
      (∀ key template, decoder.templates.templates.get? key = some template →
        4 * template.fields.length ≤ maxDatagram) ∧
      (∀ watch, decoder.sequence = some watch → watch.streams.size ≤ maxStreams ∧
        (∀ key, (watch.missed.get? key).isSome = true → (watch.streams.get? key).isSome = true) ∧
        (∀ key, (watch.units.get? key).isSome = true → (watch.streams.get? key).isSome = true) ∧
        watch.missed.size ≤ watch.streams.size ∧ watch.units.size ≤ watch.streams.size ∧
        watch.warned.size ≤ 2 * maxStreams ∧ watch.events = []) ∧
      ∀ watch, decoder.sampling = some watch → watch.rates.size ≤ maxSamplingStreams := by
  intro decoder
  obtain ⟨⟨templates, fitting, handedOver, sequence, sampling⟩, bounded⟩ :=
    within_run trackSequence trackSampling fits
  refine ⟨bounded, templates.held, handedOver, fitting, fun watch tracked => ?_, fun watch tracked => ?_⟩
  · obtain ⟨within, silent⟩ := sequence watch tracked
    obtain ⟨streams, missed, units, warned⟩ := within.sizes
    exact ⟨streams, fun key => (within.booked key).1, fun key => (within.booked key).2, missed, units, warned, silent⟩
  · exact (sampling watch tracked).held

theorem tables_within_ceilings_hostile :
    let layout : Datagram := ⟨[0, 9, 0, 1] ++ List.replicate 16 0 ++ [0, 0, 0, 12, 1, 5, 0, 1, 0, 8, 0, 4], .str "::1"⟩
    let numbered (sequence : UInt8) : Datagram :=
      ⟨[0, 5] ++ List.replicate 17 0 ++ [sequence, 0, 0, 64, 100], .str "192.0.2.1"⟩
    let run : List Op := [.decode layout, .decode (numbered 1), .decode (numbered 2), .takeEvents,
      .decode (numbered 9), .decode ⟨[], .str "::1"⟩]
    let decoder := stateAfter perform (new true true) run
    (decoder.templates.templates.size = 1 ∧
      (decoder.sequence.all fun watch => watch.streams.size = 2 ∧ watch.missed.size = 1) = true ∧
      (decoder.sampling.all fun watch => watch.rates.size = 1) = true) ∧
    decoder.events.length ≤ maxPendingEvents ∧
      decoder.templates.templates.size ≤ maxTemplates ∧ decoder.templates.events = [] ∧
      (∀ key template, decoder.templates.templates.get? key = some template →
        4 * template.fields.length ≤ maxDatagram) ∧
      (∀ watch, decoder.sequence = some watch → watch.streams.size ≤ maxStreams ∧
        (∀ key, (watch.missed.get? key).isSome = true → (watch.streams.get? key).isSome = true) ∧
        (∀ key, (watch.units.get? key).isSome = true → (watch.streams.get? key).isSome = true) ∧
        watch.missed.size ≤ watch.streams.size ∧ watch.units.size ≤ watch.streams.size ∧
        watch.warned.size ≤ 2 * maxStreams ∧ watch.events = []) ∧
      ∀ watch, decoder.sampling = some watch → watch.rates.size ≤ maxSamplingStreams := by
  intro layout numbered run
  refine ⟨by decide +kernel, ?_⟩
  apply tables_within_ceilings
  intro op member
  simp only [run, List.mem_cons, List.not_mem_nil, or_false] at member
  obtain rfl | rfl | rfl | rfl | rfl | rfl := member <;> simp [Op.Fits, layout, numbered, maxDatagram]

end Decoder

end Netflume
