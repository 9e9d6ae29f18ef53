import Netflume.DecoderCore

/-! # What `decode` raises

The parse never raises, and the fields a rate is read from always hold integers,
so that the one thing that reaches the caller is the division that turns a
sampling process into a rate: it overflows when the quotient is beyond every
double. -/

namespace Netflume

open Library

/-- The fields `sampling_rate` reads. -/
def samplingFields : List String := [
  "sampling_interval", "sampler_interval", "sampling_packet_interval", "sampling_packet_space",
  "sampling_size", "sampling_population"]

/-! ## The fields of a rate hold integers -/

def Field.Numeric (field : Field) : Prop := field.name ∈ samplingFields → field.kind = .uint

/-- The record holds an integer under each name a rate is read from. -/
def Rec.Numeric (rec : Rec) : Prop :=
  ∀ name ∈ samplingFields, ∀ value, rec.get? name = some value → ∃ number, value = .int number

theorem ieTable_numeric : ∀ entry ∈ ieTable, entry.2.1 ∈ samplingFields → entry.2.2 = .uint := by decide

/-- Names made of numbers start with `ie` or `e`: none can pass for a rate's. -/
theorem Field.IsNamed.numeric {field : Field} (named : field.IsNamed) : field.Numeric := by
  obtain ⟨element, enterprise, length, rfl⟩ := named
  have firstLetter : ∀ name ∈ samplingFields, name.toList.head? = some 's' := by decide
  intro isSampling
  have letter := firstLetter _ isSampling
  cases enterprise with
  | some number =>
    simp [Field.named, fieldName] at letter
  | none =>
    cases listed : ieTable.lookup element with
    | none => simp [Field.named, fieldName, listed] at letter
    | some entry =>
      obtain ⟨front, back, split, _⟩ := List.lookup_eq_some_iff.mp listed
      have member : (element, entry) ∈ ieTable := by simp [split]
      have typed := ieTable_numeric _ member
      simp only [Field.named, fieldName, listed, Option.getD_some] at isSampling ⊢
      exact typed isSampling

theorem Rec.Numeric.assign {rec : Rec} (numeric : rec.Numeric) (dedupe : Bool) {field : Field}
    (typed : field.Numeric) (raw : Bytes) : (rec.assign dedupe field.name (decodeValue raw field.kind)).Numeric := by
  unfold Rec.assign
  split
  · exact numeric
  · intro name isSampling value found
    rw [OrderedDict.get?_set] at found
    split at found
    · rename_i sameName
      cases found
      rw [typed (sameName ▸ isSampling)]
      exact ⟨_, rfl⟩
    · exact numeric name isSampling value found

theorem wireRecord_numeric {ipfix dedupe : Bool} {fields : List Field} (typed : ∀ field ∈ fields, field.Numeric)
    {start rec : Rec} {bytes rest : Bytes} (numeric : start.Numeric)
    (read : wireRecord ipfix dedupe fields start bytes = some (rec, rest)) : rec.Numeric := by
  induction fields generalizing start bytes with
  | nil =>
    cases read
    exact numeric
  | cons field fields inductionHypothesis =>
    obtain ⟨first, others⟩ := List.forall_mem_cons.mp typed
    simp only [wireRecord] at read
    cases fieldRead : wireField ipfix field.length bytes with
    | none => simp [fieldRead] at read
    | some result =>
      simp only [fieldRead] at read
      exact inductionHypothesis others (numeric.assign dedupe first result.1) read

/-! ## The store and the option records -/

def TemplateStore.Numeric (store : TemplateStore) : Prop :=
  ∀ key template, store.templates.get? key = some template → ∀ field ∈ template.fields, field.Numeric

def Sink.Numeric (sink : Sink) : Prop := sink.store.Numeric ∧ ∀ opt ∈ sink.options, opt.Numeric

theorem Rec.numeric_empty : Rec.Numeric .empty := by
  intro name _ value found
  cases found

theorem sinkInvariant_numeric : SinkInvariant Sink.Numeric where
  put := by
    rintro sink key fields options named ⟨store, opts⟩
    refine ⟨fun other template held => ?_, opts⟩
    rcases sink.store.get?_put key other fields options with gone | kept
    · cases gone.symm.trans held
    · have found := kept.symm.trans held
      split at found
      · cases found
        exact fun field member => (named field member).numeric
      · exact store other template found
  get := by
    rintro sink key ⟨store, opts⟩
    exact ⟨fun other template held => store other template ((sink.store.get?_get key other).symm.trans held), opts⟩
  append := by
    rintro sink isOptions key template rec held ⟨ipfix, bytes, rest, read⟩ ⟨store, opts⟩
    have numeric := wireRecord_numeric (store key template held) Rec.numeric_empty read
    cases isOptions with
    | true => exact ⟨store, List.forall_mem_append.mpr ⟨opts, List.forall_mem_singleton.mpr numeric⟩⟩
    | false => exact ⟨store, opts⟩
  deferred := fun _ numeric => numeric
  markTruncated := fun _ numeric => numeric
  close := by
    intro sink numeric
    rw [Sink.close]
    split <;> exact numeric

theorem v5Options_numeric (sampling : Nat) : ∀ opt ∈ v5Options sampling, opt.Numeric := by
  have set : ∀ (rec : Rec) name number, rec.Numeric → Rec.Numeric (rec.set name (.int number)) := by
    intro rec name number numeric other isSampling value found
    rw [OrderedDict.get?_set] at found
    split at found
    · exact ⟨number, by cases found; rfl⟩
    · exact numeric other isSampling value found
  rw [v5Options]
  split
  · have stated := set _ "sampling_algorithm" (sampling >>> 14)
      (set _ "sampling_interval" (sampling &&& 0x3FFF) Rec.numeric_empty)
    exact List.forall_mem_singleton.mpr stated
  · simp

/-- A parse of a store of numeric templates leaves one, and returns numeric option records. -/
theorem readDatagram_numeric (data : Bytes) (exporter : Exporter) {store : TemplateStore} (numeric : store.Numeric) :
    (readDatagram data exporter store).2.Numeric ∧
      ∀ opt ∈ (readDatagram data exporter store).1.options, opt.Numeric := by
  rw [readDatagram]
  split
  · refine ⟨numeric, ?_⟩
    rw [applyV5]
    split
    · simp
    · exact v5Options_numeric _
  · have start : Sink.Numeric { store, stats := {} } := ⟨numeric, by simp⟩
    have after := sinkInvariant_numeric.applyMessage data exporter start
    obtain ⟨_, options⟩ := applyMessage_lists data exporter store {}
    simp only [options]
    exact after

/-! ## The division -/

/-- The rate this record states is a quotient beyond every double. -/
def overflowingRate (rec : Rec) : Bool :=
  match statedInterval rec with
  | some _ => false
  | none =>
    match rec.getTruthy "sampling_packet_interval", rec.get? "sampling_packet_space" with
    | some (.int interval), some (.int space) => quotientOverflows (interval + space) interval
    | some _, some _ => false
    | _, _ =>
      match rec.getTruthy "sampling_size", rec.getTruthy "sampling_population" with
      | some (.int size), some (.int population) => decide (size ≤ population) && quotientOverflows population size
      | _, _ => false

theorem roundedRatio_ok_iff (numerator denominator : Nat) :
    (∃ rate, roundedRatio numerator denominator = .ok rate) ↔ quotientOverflows numerator denominator = false := by
  unfold roundedRatio
  cases divided : trueDiv numerator denominator with
  | none => simp [trueDiv_eq_none_iff.mp divided]
  | some quotient =>
    have fits : ¬ quotientOverflows numerator denominator = true := fun overflows => by
      rw [trueDiv_eq_none_iff.mpr overflows] at divided
      cases divided
    simp [fits]

/-- On a record of integers, a rate is read unless the division overflows. -/
theorem samplingRate_ok_iff {rec : Rec} (numeric : rec.Numeric) :
    (∃ rate, samplingRate rec = .ok rate) ↔ overflowingRate rec = false := by
  have truthy : ∀ name ∈ samplingFields, ∀ value, rec.getTruthy name = some value → ∃ number, value = .int number := by
    intro name isSampling value found
    exact numeric name isSampling value (Option.filter_eq_some_iff.mp found).1
  have intervals : ∀ value, statedInterval rec = some value → ∃ number, value = .int number := by
    intro value stated
    rcases Option.or_eq_some_iff.mp stated with first | ⟨_, second⟩
    · exact truthy _ (by decide) value first
    · exact truthy _ (by decide) value second
  have bySize (stated : statedInterval rec = none)
      (silent : rec.getTruthy "sampling_packet_interval" = none ∨ rec.get? "sampling_packet_space" = none) :
      (∃ rate, samplingRate rec = .ok rate) ↔ overflowingRate rec = false := by
    rw [samplingRate, overflowingRate]
    cases size : rec.getTruthy "sampling_size" with
    | none => rcases silent with silent | silent <;> simp [stated, silent, pure, Except.pure]
    | some sizeValue =>
      obtain ⟨taken, rfl⟩ := truthy _ (by decide) _ size
      cases population : rec.getTruthy "sampling_population" with
      | none => rcases silent with silent | silent <;> simp [stated, silent, pure, Except.pure]
      | some populationValue =>
        obtain ⟨outOf, rfl⟩ := truthy _ (by decide) _ population
        have ratio := roundedRatio_ok_iff outOf taken
        by_cases enough : taken ≤ outOf
        · rcases silent with silent | silent <;>
            simpa [stated, silent, enough, Value.asInt, bind, Except.bind] using ratio
        · rcases silent with silent | silent <;>
            simp [stated, silent, enough, Value.asInt, bind, Except.bind, pure, Except.pure]
  cases stated : statedInterval rec with
  | some value =>
    obtain ⟨number, rfl⟩ := intervals value stated
    simp [samplingRate, overflowingRate, stated, Value.asInt, bind, Except.bind, pure, Except.pure]
  | none =>
    cases interval : rec.getTruthy "sampling_packet_interval" with
    | none => exact bySize stated (.inl interval)
    | some intervalValue =>
      obtain ⟨packets, rfl⟩ := truthy _ (by decide) _ interval
      cases space : rec.get? "sampling_packet_space" with
      | none => exact bySize stated (.inr space)
      | some spaceValue =>
        obtain ⟨skipped, rfl⟩ := numeric _ (by decide) _ space
        have ratio := roundedRatio_ok_iff (packets + skipped) packets
        simpa [samplingRate, overflowingRate, stated, interval, space, Value.asInt, bind, Except.bind] using ratio

/-! ## The decoder -/

theorem note_ok_iff (watch : SamplingWatch) (key : SamplingKey) (rec : Rec) :
    (∃ change, (watch.note key rec).1 = .ok change) ↔ ∃ rate, samplingRate rec = .ok rate := by
  rw [SamplingWatch.note]
  cases samplingRate rec with
  | error error => simp
  | ok rate =>
    cases rate with
    | none => exact ⟨fun _ => ⟨_, rfl⟩, fun _ => ⟨_, rfl⟩⟩
    | some rate => exact ⟨fun _ => ⟨_, rfl⟩, fun _ => ⟨_, rfl⟩⟩

theorem noteAll_ok_iff (key : SamplingKey) (opts : List Rec) (watch : SamplingWatch) :
    (Decoder.noteAll key watch opts).1 = .ok () ↔ ∀ opt ∈ opts, ∃ rate, samplingRate opt = .ok rate := by
  induction opts generalizing watch with
  | nil => simp [Decoder.noteAll]
  | cons opt opts inductionHypothesis =>
    have first := note_ok_iff watch key opt
    rw [List.forall_mem_cons, ← first, Decoder.noteAll]
    generalize watch.note key opt = noted
    obtain ⟨outcome, after⟩ := noted
    cases outcome with
    | error error => simp
    | ok change => simp [inductionHypothesis]

/-- The option records in a datagram, read by the templates a store holds. -/
def optionRecords (store : TemplateStore) (datagram : Decoder.Datagram) : List Rec :=
  if datagram.data.length < 2 ∨ num datagram.data 0 2 ∉ supportedVersions then []
  else (readDatagram datagram.data (exporterKey datagram.exporter) store).1.options

theorem optionRecords_headed {datagram : Decoder.Datagram} {header : Header} (read : datagram.header = some header)
    (store : TemplateStore) :
    optionRecords store datagram = (readDatagram datagram.data (exporterKey datagram.exporter) store).1.options :=
  if_neg (Decoder.Datagram.header_supported read)

theorem optionRecords_headerless {datagram : Decoder.Datagram} (headerless : datagram.header = none)
    (store : TemplateStore) : optionRecords store datagram = [] := by
  rw [Decoder.Datagram.header] at headerless
  rw [optionRecords]
  split
  · rfl
  · rename_i supported
    rw [if_neg supported] at headerless
    rw [readDatagram_headerless headerless]

namespace Core

/-- The sampling watch is on, and every template held was read from the wire. -/
structure Tracking (core : Core) : Prop where
  sampling : core.sampling ≠ none
  numeric : core.templates.Numeric

theorem note_ok {core : Core} {watch : SamplingWatch} (sampling : core.sampling = some watch) (key : SamplingKey)
    (opts : List Rec) :
    (∃ rate, (core.note key opts).1 = .ok rate) ↔ ∀ opt ∈ opts, ∃ rate, samplingRate opt = .ok rate := by
  rw [← noteAll_ok_iff key opts watch]
  simp only [note, sampling]
  generalize Decoder.noteAll key watch opts = noted
  obtain ⟨outcome, after⟩ := noted
  cases outcome with
  | error error => simp
  | ok done => exact ⟨fun _ => rfl, fun _ => ⟨_, rfl⟩⟩

theorem deliver_ok_iff {core : Core} (tracked : core.sampling ≠ none) (exporter : Exporter) (version : Nat)
    (header : Header) (flows options : List Rec) :
    (∃ message, (core.deliver exporter version header flows options).1 = .ok message) ↔
      ∀ opt ∈ options, ∃ rate, samplingRate opt = .ok rate := by
  obtain ⟨templates, sequence, sampling⟩ := core
  obtain ⟨watch, rfl⟩ := Option.ne_none_iff_exists'.mp tracked
  have kept : ∀ obs, (Core.observe ⟨templates, sequence, some watch⟩ obs).2.sampling = some watch := by
    intro obs
    cases sequence <;> rfl
  have noted := note_ok (kept (Decoder.observation exporter version header flows.length options.length))
    ⟨exporter, header.domain⟩ options
  rw [← noted]
  simp only [deliver]
  generalize (Core.observe ⟨templates, sequence, some watch⟩
    (Decoder.observation exporter version header flows.length options.length)).2.note _ options = noting
  obtain ⟨outcome, after⟩ := noting
  cases outcome with
  | error error => simp
  | ok rate => exact ⟨fun _ => ⟨_, rfl⟩, fun _ => ⟨_, rfl⟩⟩

theorem deliver_tracking {core : Core} (tracking : core.Tracking) (exporter : Exporter) (version : Nat)
    (header : Header) (flows options : List Rec) :
    (core.deliver exporter version header flows options).2.Tracking := by
  rw [deliver_after]
  obtain ⟨templates, _, sampling⟩ := note_frame
    (core.observe (Decoder.observation exporter version header flows.length options.length)).2
    ⟨exporter, header.domain⟩ options
  rw [observe_templates] at templates
  rw [observe_sampling] at sampling
  exact ⟨sampling tracking.sampling, by rw [templates]; exact tracking.numeric⟩

/-- The core after a parse is still tracking. -/
theorem afterRead_tracking {core : Core} (tracking : core.Tracking) (datagram : Decoder.Datagram) :
    (core.afterRead datagram).Tracking :=
  ⟨tracking.sampling, (readDatagram_numeric datagram.data (exporterKey datagram.exporter) tracking.numeric).1⟩

/-- A step returns unless an option record of its datagram states a rate no double can hold. -/
theorem step_ok_iff {core : Core} (tracking : core.Tracking) (datagram : Decoder.Datagram) :
    (∃ message, (core.step datagram).1 = .ok message) ↔
      ∀ opt ∈ optionRecords core.templates datagram, overflowingRate opt = false := by
  cases read : datagram.header with
  | none =>
    rw [(step_headerless read core).1, optionRecords_headerless read]
    simp
  | some header =>
    have numeric := (readDatagram_numeric datagram.data (exporterKey datagram.exporter) tracking.numeric).2
    have delivered := deliver_ok_iff (afterRead_tracking tracking datagram).sampling (exporterKey datagram.exporter)
      (num datagram.data 0 2) header
    rw [step_headed read, optionRecords_headed read, delivered]
    exact forall₂_congr fun opt member => samplingRate_ok_iff (numeric opt member)

theorem step_tracking {core : Core} (tracking : core.Tracking) (datagram : Decoder.Datagram) :
    (core.step datagram).2.Tracking := by
  cases read : datagram.header with
  | none =>
    rcases (step_headerless read core).2 with same | drained
    · rw [same]
      exact tracking
    · rw [drained]
      exact ⟨tracking.sampling, tracking.numeric⟩
  | some header =>
    rw [step_headed read]
    exact deliver_tracking (afterRead_tracking tracking datagram) _ _ _ _ _

end Core

theorem tracking_fresh : Decoder.fresh.core.Tracking := by
  refine ⟨by simp [Decoder.fresh, Decoder.new, Decoder.core], fun key template held => ?_⟩
  cases held

/-- Every call of a run returns exactly when no datagram of it carries an option record whose rate
overflows. -/
theorem decode_returns_iff (run : List Decoder.Datagram) :
    (∀ result ∈ Decoder.fresh.results run, ∃ message, result = .ok message) ↔
      ∀ before datagram after, run = before ++ datagram :: after →
        ∀ opt ∈ optionRecords (Decoder.fresh.decodeAll before).templates datagram, overflowingRate opt = false := by
  have answers := (Decoder.results_core Decoder.fresh run).1
  rw [answers, forall_mem_outputs]
  refine forall_congr' fun before => forall_congr' fun datagram => forall_congr' fun after => forall_congr' fun _ => ?_
  have tracking := @invariant_stateAfter _ _ _ Core.step Core.Tracking
    (fun _ datagram tracking => Core.step_tracking tracking datagram) _ tracking_fresh before
  rw [Core.step_ok_iff tracking]
  have sameStore := congrArg Core.templates (Decoder.results_core Decoder.fresh before).2
  rw [← sameStore]
  rfl

/-- An options template of a one-byte packet interval and a 200-byte packet space, and a record that
states an interval of one and a space of `2 ^ 1592`. -/
def hugeSpace : Decoder.Datagram where
  data := toBytes 2 10 ++ toBytes 2 239 ++ toBytes 4 0 ++ toBytes 4 0 ++ toBytes 4 0 ++
    (toBytes 2 3 ++ toBytes 2 18 ++ toBytes 2 256 ++ toBytes 2 2 ++ toBytes 2 1 ++
      toBytes 2 305 ++ toBytes 2 1 ++ toBytes 2 306 ++ toBytes 2 200) ++
    (toBytes 2 256 ++ toBytes 2 205 ++ [1] ++ 1 :: List.replicate 199 0)
  exporter := .obj 1

/-- `decode` raises on a single datagram sent to a fresh decoder. -/
theorem decode_raises : ¬ ∀ run, ∀ result ∈ Decoder.fresh.results run, ∃ message, result = .ok message := by
  intro returns
  have raised : Decoder.fresh.results [hugeSpace] =
      [.error (.raised ⟨"OverflowError", "integer division result too large for a float"⟩)] := by
    decide +kernel
  obtain ⟨message, same⟩ := returns [hugeSpace] _ (by rw [raised]; exact List.mem_cons_self)
  cases same

end Netflume
