import Netflume.DecoderCore
import Netflume.SequenceClean

/-! # What one observation domain sees of the tables

Each of the three tables is keyed by exporter and domain.  While nothing is
evicted, the entries of one domain form a table of their own: a call about the
domain acts on that table alone, and any other call leaves it as it is. -/

namespace Netflume

open Library

def TemplateKey.within (exporter : Exporter) (domain : Nat) (key : TemplateKey) : Bool :=
  decide (key.exporter = exporter ∧ key.domain = domain)

def StreamKey.within (exporter : Exporter) (domain : Nat) (key : StreamKey) : Bool :=
  decide (key.exporter = exporter ∧ key.domain = domain)

def SamplingKey.within (exporter : Exporter) (domain : Nat) (key : SamplingKey) : Bool :=
  decide (key.exporter = exporter ∧ key.domain = domain)

section Tables

variable {exporter : Exporter} {domain : Nat}

/-! ## Templates -/

/-- `low` holds of `high` the templates of one domain. -/
structure TemplateStore.Projects (exporter : Exporter) (domain : Nat) (low high : TemplateStore) : Prop where
  templates : low.templates = high.templates.restrict (TemplateKey.within exporter domain)
  ceiling : low.maxTemplates = high.maxTemplates

namespace TemplateStore

theorem put_of_fits {store : TemplateStore} {key : TemplateKey} {fields : List Field} {options : Bool}
    (fits : (store.templates.place key ⟨fields, options⟩).size ≤ store.maxTemplates) :
    (store.put key fields options).2.templates = store.templates.place key ⟨fields, options⟩ := by
  rw [put_templates, file, OrderedDict.moveToEnd_set, OrderedDict.trim_of_le fits]

theorem put_frame (store : TemplateStore) (key : TemplateKey) (fields : List Field) (options : Bool) :
    (store.put key fields options).2.maxTemplates = store.maxTemplates ∧
      (store.put key fields options).2.evicted =
        store.evicted + ((store.templates.place key ⟨fields, options⟩).size - store.maxTemplates) := by
  unfold put
  simp only
  split <;> simp [file, learn, OrderedDict.moveToEnd_set]

/-- A `put` that evicts nothing, and what it leaves. -/
theorem put_quiet {store : TemplateStore} {key : TemplateKey} {fields : List Field} {options : Bool}
    (quiet : (store.put key fields options).2.evicted = 0) :
    store.evicted = 0 ∧ (store.templates.place key ⟨fields, options⟩).size ≤ store.maxTemplates ∧
      (store.put key fields options).2.templates = store.templates.place key ⟨fields, options⟩ := by
  rw [(store.put_frame key fields options).2] at quiet
  have fits : (store.templates.place key ⟨fields, options⟩).size ≤ store.maxTemplates := by omega
  exact ⟨by omega, fits, put_of_fits fits⟩

theorem get_frame (store : TemplateStore) (key : TemplateKey) :
    (store.get key).2.templates = store.templates.moveToEnd key ∧
      (store.get key).2.maxTemplates = store.maxTemplates ∧ (store.get key).2.evicted = store.evicted := by
  rw [get, OrderedDict.moveToEnd]
  cases store.templates.get? key with
  | none => exact ⟨rfl, rfl, rfl⟩
  | some template => exact ⟨rfl, rfl, rfl⟩

variable {low high : TemplateStore}

/-- The whole store had room for the template, so its part has. -/
theorem Projects.put_own (projects : Projects exporter domain low high) (id : Nat) (fields : List Field)
    (options : Bool) (quiet : (high.put ⟨exporter, domain, id⟩ fields options).2.evicted = 0) :
    Projects exporter domain (low.put ⟨exporter, domain, id⟩ fields options).2
      (high.put ⟨exporter, domain, id⟩ fields options).2 := by
  obtain ⟨_, fits, placed⟩ := put_quiet quiet
  have own : (TemplateKey.mk exporter domain id).within exporter domain = true := by simp [TemplateKey.within]
  have restricted := OrderedDict.restrict_place own high.templates ⟨fields, options⟩
  have lowFits : (low.templates.place ⟨exporter, domain, id⟩ ⟨fields, options⟩).size ≤ low.maxTemplates := by
    rw [projects.templates, projects.ceiling, ← restricted]
    exact Nat.le_trans (OrderedDict.size_restrict_le _ _) fits
  constructor
  · rw [placed, put_of_fits lowFits, restricted, projects.templates]
  · rw [(put_frame low _ _ _).1, (put_frame high _ _ _).1, projects.ceiling]

theorem Projects.put_other (projects : Projects exporter domain low high) {key : TemplateKey}
    (other : key.within exporter domain = false) (fields : List Field) (options : Bool)
    (quiet : (high.put key fields options).2.evicted = 0) :
    Projects exporter domain low (high.put key fields options).2 := by
  obtain ⟨_, _, placed⟩ := put_quiet quiet
  constructor
  · rw [placed, OrderedDict.restrict_place_of_dropped other, projects.templates]
  · rw [(put_frame high _ _ _).1, projects.ceiling]

theorem Projects.get_own (projects : Projects exporter domain low high) (id : Nat) :
    (low.get ⟨exporter, domain, id⟩).1 = (high.get ⟨exporter, domain, id⟩).1 ∧
      Projects exporter domain (low.get ⟨exporter, domain, id⟩).2 (high.get ⟨exporter, domain, id⟩).2 := by
  have own : (TemplateKey.mk exporter domain id).within exporter domain = true := by simp [TemplateKey.within]
  obtain ⟨lowTemplates, lowCeiling, _⟩ := low.get_frame ⟨exporter, domain, id⟩
  obtain ⟨highTemplates, highCeiling, _⟩ := high.get_frame ⟨exporter, domain, id⟩
  have sameHeld : low.templates.get? ⟨exporter, domain, id⟩ = high.templates.get? ⟨exporter, domain, id⟩ := by
    rw [projects.templates, OrderedDict.get?_restrict, if_pos own]
  refine ⟨?_, ?_, ?_⟩
  · unfold get
    rw [sameHeld]
    cases high.templates.get? ⟨exporter, domain, id⟩ <;> rfl
  · rw [lowTemplates, highTemplates, projects.templates, OrderedDict.restrict_moveToEnd own]
  · rw [lowCeiling, highCeiling, projects.ceiling]

theorem Projects.get_other (projects : Projects exporter domain low high) {key : TemplateKey}
    (other : key.within exporter domain = false) : Projects exporter domain low (high.get key).2 := by
  obtain ⟨templates, ceiling, _⟩ := high.get_frame key
  constructor
  · rw [templates, OrderedDict.restrict_moveToEnd_of_dropped other, projects.templates]
  · rw [ceiling, projects.ceiling]

end TemplateStore

/-! ## Streams -/

/-- `low` holds of `high` the streams of one domain. -/
structure SequenceWatch.Projects (exporter : Exporter) (domain : Nat) (low high : SequenceWatch) : Prop where
  streams : low.streams = high.streams.restrict (StreamKey.within exporter domain)
  ceiling : low.maxStreams = high.maxStreams

namespace SequenceWatch

/-- What a message of a learned stream does is decided by what is remembered of the stream. -/
theorem judge_uniform (key : StreamKey) (state : StreamState) (mode : Mode) (seq records : Nat) :
    ∃ gap next, ∀ watch : SequenceWatch, (watch.judge key state mode seq records).1 = gap ∧
      (watch.judge key state mode seq records).2.streams = watch.streams.set key next ∧
      (watch.judge key state mode seq records).2.evicted = watch.evicted ∧
      (watch.judge key state mode seq records).2.maxStreams = watch.maxStreams := by
  unfold judge
  simp only
  by_cases behind : signedGap seq (state.expected mode) < 0
  · simp only [if_pos behind]
    by_cases near : -(maxReorder : Int) ≤ signedGap seq (state.expected mode) ∧ state.backwards + 1 < resyncAfter
    · simp only [if_pos near]
      exact ⟨0, _, fun watch => ⟨rfl, rfl, rfl, rfl⟩⟩
    · simp only [if_neg near]
      exact ⟨0, _, fun watch => ⟨rfl, rfl, rfl, rfl⟩⟩
  · simp only [if_neg behind]
    by_cases none : signedGap seq (state.expected mode) = 0
    · simp only [if_pos none]
      exact ⟨0, _, fun watch => ⟨rfl, rfl, rfl, rfl⟩⟩
    · simp only [if_neg none]
      by_cases far : (maxPlausibleGap : Int) < signedGap seq (state.expected mode)
      · simp only [if_pos far]
        exact ⟨0, _, fun watch => ⟨rfl, rfl, rfl, rfl⟩⟩
      · simp only [if_neg far]
        exact ⟨_, _, fun watch => ⟨rfl, recordLoss_frame _ _ _ _⟩⟩

/-- What a message of a stream already seen does, told from what is remembered of it. -/
theorem observe_uniform {obs : Observation} {seq : Nat} (counted : obs.seq = some seq) (state : StreamState) :
    ∃ gap next, ∀ watch : SequenceWatch, watch.streams.get? obs.key = some state →
      (watch.observe obs).1 = gap ∧
      (watch.observe obs).2.streams = (watch.streams.moveToEnd obs.key).set obs.key next ∧
      (watch.observe obs).2.evicted = watch.evicted ∧ (watch.observe obs).2.maxStreams = watch.maxStreams := by
  cases mode : state.mode with
  | none =>
    refine ⟨0, { state with seq := seq, records := obs.records, mode := state.learnMode seq }, fun watch held => ?_⟩
    rw [observe_unlearned counted held mode]
    exact ⟨rfl, rfl, rfl, rfl⟩
  | some rule =>
    obtain ⟨gap, next, judged⟩ := judge_uniform obs.key state rule seq obs.records
    refine ⟨gap, next, fun watch held => ?_⟩
    rw [observe_learned counted held mode]
    exact judged { watch with streams := watch.streams.moveToEnd obs.key }

/-- What a message of a new stream does. -/
theorem firstSeen_frame (watch : SequenceWatch) (key : StreamKey) (seq records : Nat) :
    (watch.firstSeen key seq records).streams =
        ((watch.streams.set key ⟨seq, records, none, 0⟩).trim watch.maxStreams).2 ∧
      (watch.firstSeen key seq records).evicted =
        watch.evicted + ((watch.streams.set key ⟨seq, records, none, 0⟩).size - watch.maxStreams) ∧
      (watch.firstSeen key seq records).maxStreams = watch.maxStreams := by
  refine ⟨rfl, ?_, rfl⟩
  rw [← OrderedDict.length_trim]
  rfl

/-- A call that evicts nothing puts its own stream in place, if it counts at all. -/
theorem observe_quiet {watch : SequenceWatch} {obs : Observation} (quiet : (watch.observe obs).2.evicted = 0) :
    watch.evicted = 0 ∧ (watch.observe obs).2.maxStreams = watch.maxStreams ∧
      ∀ keep : StreamKey → Bool, keep obs.key = false →
        (watch.observe obs).2.streams.restrict keep = watch.streams.restrict keep := by
  cases counted : obs.seq with
  | none =>
    have same : watch.observe obs = (0, watch) := by simp only [observe, counted]
    rw [same] at quiet ⊢
    exact ⟨quiet, rfl, fun _ _ => rfl⟩
  | some seq =>
    cases held : watch.streams.get? obs.key with
    | none =>
      obtain ⟨streams, evicted, ceiling⟩ := watch.firstSeen_frame obs.key seq obs.records
      rw [observe_new counted held] at quiet ⊢
      simp only [evicted] at quiet
      have fits : (watch.streams.set obs.key ⟨seq, obs.records, none, 0⟩).size ≤ watch.maxStreams := by omega
      refine ⟨by omega, ceiling, fun keep dropped => ?_⟩
      rw [streams, OrderedDict.trim_of_le fits, OrderedDict.restrict_set_of_dropped dropped]
    | some state =>
      obtain ⟨gap, next, uniform⟩ := observe_uniform counted state
      obtain ⟨_, streams, evicted, ceiling⟩ := uniform watch held
      refine ⟨evicted.symm.trans quiet, ceiling, fun keep dropped => ?_⟩
      rw [streams, OrderedDict.restrict_set_of_dropped dropped, OrderedDict.restrict_moveToEnd_of_dropped dropped]

variable {low high : SequenceWatch} {obs : Observation}

theorem Projects.observe_other (projects : Projects exporter domain low high)
    (other : obs.key.within exporter domain = false) (quiet : (high.observe obs).2.evicted = 0) :
    Projects exporter domain low (high.observe obs).2 := by
  obtain ⟨_, ceiling, frame⟩ := observe_quiet quiet
  exact ⟨projects.streams.trans (frame _ other).symm, projects.ceiling.trans ceiling.symm⟩

theorem Projects.observe_own (projects : Projects exporter domain low high)
    (own : obs.key.within exporter domain = true) (quiet : (high.observe obs).2.evicted = 0) :
    (low.observe obs).1 = (high.observe obs).1 ∧ Projects exporter domain (low.observe obs).2 (high.observe obs).2 := by
  have sameHeld : low.streams.get? obs.key = high.streams.get? obs.key := by
    rw [projects.streams, OrderedDict.get?_restrict, if_pos own]
  cases counted : obs.seq with
  | none =>
    simp only [observe, counted]
    exact ⟨trivial, projects⟩
  | some seq =>
    cases held : high.streams.get? obs.key with
    | none =>
      have lowHeld := sameHeld.trans held
      rw [observe_new counted held] at quiet ⊢
      rw [observe_new counted lowHeld]
      obtain ⟨streams, evicted, ceiling⟩ := high.firstSeen_frame obs.key seq obs.records
      obtain ⟨lowStreams, _, lowCeiling⟩ := low.firstSeen_frame obs.key seq obs.records
      simp only [evicted] at quiet
      have fits : (high.streams.set obs.key ⟨seq, obs.records, none, 0⟩).size ≤ high.maxStreams := by omega
      refine ⟨rfl, ?_, by rw [lowCeiling, ceiling, projects.ceiling]⟩
      rw [lowStreams, streams, projects.streams, projects.ceiling, ← OrderedDict.restrict_set own,
        OrderedDict.trim_restrict_of_le fits, OrderedDict.trim_of_le fits]
    | some state =>
      obtain ⟨gap, next, uniform⟩ := observe_uniform counted state
      obtain ⟨gapHigh, streamsHigh, _, ceilingHigh⟩ := uniform high held
      obtain ⟨gapLow, streamsLow, _, ceilingLow⟩ := uniform low (sameHeld.trans held)
      refine ⟨gapLow.trans gapHigh.symm, ?_, by rw [ceilingLow, ceilingHigh, projects.ceiling]⟩
      rw [streamsLow, streamsHigh, projects.streams, OrderedDict.restrict_set own, OrderedDict.restrict_moveToEnd own]

end SequenceWatch

/-! ## Rates -/

/-- `low` holds of `high` the rate of one domain. -/
structure SamplingWatch.Projects (exporter : Exporter) (domain : Nat) (low high : SamplingWatch) : Prop where
  rates : low.rates = high.rates.restrict (SamplingKey.within exporter domain)
  ceiling : low.maxStreams = high.maxStreams

namespace SamplingWatch

theorem clear_frame (watch : SamplingWatch) (key : SamplingKey) :
    (watch.clear key).2.rates = watch.rates.erase key ∧ (watch.clear key).2.evicted = watch.evicted ∧
      (watch.clear key).2.maxStreams = watch.maxStreams := by
  rw [clear]
  cases held : watch.rates.get? key with
  | none => exact ⟨(OrderedDict.erase_of_not_held held).symm, rfl, rfl⟩
  | some previous =>
    simp only
    split <;> exact ⟨rfl, rfl, rfl⟩

theorem clear_answer (watch : SamplingWatch) (key : SamplingKey) :
    (watch.clear key).1 = ((watch.rates.get? key).filter (· ≠ 0)).map fun previous =>
      ⟨key.exporter, key.domain, 1, some previous⟩ := by
  rw [clear]
  cases watch.rates.get? key with
  | none => rfl
  | some previous =>
    simp only
    split <;> simp_all [announce]

theorem restate_frame (watch : SamplingWatch) (key : SamplingKey) (rate : Nat) :
    (watch.restate key rate).2.maxStreams = watch.maxStreams ∧ watch.evicted ≤ (watch.restate key rate).2.evicted := by
  rw [restate]
  simp only
  split
  · exact ⟨rfl, Nat.le_refl _⟩
  · exact ⟨rfl, Nat.le_add_right _ _⟩

/-- A statement that evicts nothing puts its rate in place. -/
theorem restate_quiet {watch : SamplingWatch} {key : SamplingKey} {rate : Nat}
    (quiet : (watch.restate key rate).2.evicted = 0) :
    (watch.restate key rate).2.rates = watch.rates.place key rate ∧
      (watch.rates.get? key ≠ some rate → (watch.rates.place key rate).size ≤ watch.maxStreams) := by
  unfold restate at quiet ⊢
  by_cases unchanged : watch.rates.get? key = some rate
  · refine ⟨?_, fun changed => absurd unchanged changed⟩
    simp only [unchanged, if_true, OrderedDict.moveToEnd]
  · simp only [if_neg unchanged, announce, OrderedDict.moveToEnd_set, OrderedDict.length_trim] at quiet ⊢
    have fits : (watch.rates.place key rate).size ≤ watch.maxStreams := by omega
    exact ⟨by rw [OrderedDict.trim_of_le fits], fun _ => fits⟩

variable {low high : SamplingWatch}

theorem note_evicted_le (watch : SamplingWatch) (key : SamplingKey) (rec : Rec) :
    watch.evicted ≤ (watch.note key rec).2.evicted := by
  rw [note]
  cases samplingRate rec with
  | error error => exact Nat.le_refl _
  | ok stated =>
    cases stated with
    | none => exact Nat.le_refl _
    | some rate =>
      simp only
      split
      · exact Nat.le_of_eq (clear_frame watch key).2.1.symm
      · exact (restate_frame watch key rate).2

/-- What every note keeps, the notes of a message keep, also when one of them raises. -/
theorem noteAll_invariant {holds : SamplingWatch → Prop} {key : SamplingKey}
    (kept : ∀ watch opt, holds watch → holds (watch.note key opt).2) {watch : SamplingWatch} (start : holds watch)
    (opts : List Rec) : holds (Decoder.noteAll key watch opts).2 := by
  induction opts generalizing watch with
  | nil => exact start
  | cons opt opts inductionHypothesis =>
    have first := kept watch opt start
    rw [Decoder.noteAll]
    generalize watch.note key opt = noted at first ⊢
    obtain ⟨outcome, after⟩ := noted
    cases outcome with
    | error error => exact first
    | ok change => exact inductionHypothesis first

theorem noteAll_evicted_le (watch : SamplingWatch) (key : SamplingKey) (opts : List Rec) :
    watch.evicted ≤ (Decoder.noteAll key watch opts).2.evicted :=
  @noteAll_invariant (fun after => watch.evicted ≤ after.evicted) key
    (fun after opt grown => Nat.le_trans grown (note_evicted_le after key opt)) watch (Nat.le_refl _) opts

theorem quiet_of_noteAll_cons {watch : SamplingWatch} {key : SamplingKey} {opt : Rec} {opts : List Rec}
    (quiet : (Decoder.noteAll key watch (opt :: opts)).2.evicted = 0) : (watch.note key opt).2.evicted = 0 := by
  rw [Decoder.noteAll] at quiet
  generalize watch.note key opt = noted at quiet ⊢
  obtain ⟨outcome, after⟩ := noted
  cases outcome with
  | error error => exact quiet
  | ok change => exact Nat.eq_zero_of_le_zero (quiet ▸ noteAll_evicted_le after _ opts)

theorem Projects.get_own (projects : Projects exporter domain low high) :
    low.rates.get? ⟨exporter, domain⟩ = high.rates.get? ⟨exporter, domain⟩ := by
  rw [projects.rates, OrderedDict.get?_restrict, if_pos (by simp [SamplingKey.within])]

theorem Projects.clear_own (projects : Projects exporter domain low high) :
    (low.clear ⟨exporter, domain⟩).1 = (high.clear ⟨exporter, domain⟩).1 ∧
      Projects exporter domain (low.clear ⟨exporter, domain⟩).2 (high.clear ⟨exporter, domain⟩).2 := by
  obtain ⟨lowRates, _, lowCeiling⟩ := clear_frame low ⟨exporter, domain⟩
  obtain ⟨highRates, _, highCeiling⟩ := clear_frame high ⟨exporter, domain⟩
  refine ⟨by rw [clear_answer, clear_answer, projects.get_own], ?_, ?_⟩
  · rw [lowRates, highRates, OrderedDict.restrict_erase, projects.rates]
  · rw [lowCeiling, highCeiling, projects.ceiling]

theorem Projects.restate_own (projects : Projects exporter domain low high) {rate : Nat}
    (quiet : (high.restate ⟨exporter, domain⟩ rate).2.evicted = 0) :
    (low.restate ⟨exporter, domain⟩ rate).1 = (high.restate ⟨exporter, domain⟩ rate).1 ∧
      Projects exporter domain (low.restate ⟨exporter, domain⟩ rate).2 (high.restate ⟨exporter, domain⟩ rate).2 := by
  have own : (SamplingKey.mk exporter domain).within exporter domain = true := by simp [SamplingKey.within]
  have restricted := OrderedDict.restrict_place own high.rates rate
  obtain ⟨highRates, fits⟩ := restate_quiet quiet
  have highCeiling := (restate_frame high ⟨exporter, domain⟩ rate).1
  have sameHeld := projects.get_own
  by_cases unchanged : high.rates.get? ⟨exporter, domain⟩ = some rate
  · have lowRates : (low.restate ⟨exporter, domain⟩ rate).2.rates = low.rates.place ⟨exporter, domain⟩ rate := by
      simp only [restate, sameHeld, unchanged, if_true, OrderedDict.moveToEnd]
    refine ⟨?_, ?_, (restate_frame low _ _).1.trans (projects.ceiling.trans highCeiling.symm)⟩
    · simp only [restate, sameHeld, unchanged, if_true]
    · rw [lowRates, highRates, restricted, projects.rates]
  · have lowFits : (low.rates.place ⟨exporter, domain⟩ rate).size ≤ low.maxStreams := by
      rw [projects.rates, projects.ceiling, ← restricted]
      exact Nat.le_trans (OrderedDict.size_restrict_le _ _) (fits unchanged)
    have lowRates : (low.restate ⟨exporter, domain⟩ rate).2.rates = low.rates.place ⟨exporter, domain⟩ rate := by
      simp only [restate, sameHeld, if_neg unchanged, announce, OrderedDict.moveToEnd_set,
        OrderedDict.trim_of_le lowFits]
    refine ⟨?_, ?_, (restate_frame low _ _).1.trans (projects.ceiling.trans highCeiling.symm)⟩
    · simp only [restate, sameHeld, if_neg unchanged, announce]
    · rw [lowRates, highRates, restricted, projects.rates]

theorem Projects.note_own (projects : Projects exporter domain low high) {rec : Rec}
    (quiet : (high.note ⟨exporter, domain⟩ rec).2.evicted = 0) :
    (low.note ⟨exporter, domain⟩ rec).1 = (high.note ⟨exporter, domain⟩ rec).1 ∧
      Projects exporter domain (low.note ⟨exporter, domain⟩ rec).2 (high.note ⟨exporter, domain⟩ rec).2 := by
  unfold note at quiet ⊢
  cases reads : samplingRate rec with
  | error error => exact ⟨rfl, projects⟩
  | ok stated =>
    cases stated with
    | none => exact ⟨rfl, projects⟩
    | some rate =>
      simp only [reads] at quiet ⊢
      split
      · obtain ⟨answer, after⟩ := projects.clear_own
        exact ⟨congrArg Except.ok answer, after⟩
      · rename_i sampled
        rw [if_neg sampled] at quiet
        obtain ⟨answer, after⟩ := projects.restate_own quiet
        exact ⟨congrArg Except.ok answer, after⟩

/-- The option records of one message of the domain. -/
theorem Projects.noteAll_own {opts : List Rec} (projects : Projects exporter domain low high)
    (quiet : (Decoder.noteAll ⟨exporter, domain⟩ high opts).2.evicted = 0) :
    (Decoder.noteAll ⟨exporter, domain⟩ low opts).1 = (Decoder.noteAll ⟨exporter, domain⟩ high opts).1 ∧
      Projects exporter domain (Decoder.noteAll ⟨exporter, domain⟩ low opts).2
        (Decoder.noteAll ⟨exporter, domain⟩ high opts).2 := by
  induction opts generalizing low high with
  | nil => exact ⟨rfl, projects⟩
  | cons opt opts inductionHypothesis =>
    obtain ⟨answer, after⟩ := projects.note_own (quiet_of_noteAll_cons quiet)
    rw [Decoder.noteAll] at quiet ⊢
    rw [Decoder.noteAll]
    generalize high.note ⟨exporter, domain⟩ opt = noted at quiet answer after ⊢
    generalize low.note ⟨exporter, domain⟩ opt = lowNoted at answer after ⊢
    obtain ⟨outcome, next⟩ := noted
    obtain ⟨lowOutcome, lowNext⟩ := lowNoted
    cases answer
    cases outcome with
    | error error => exact ⟨rfl, after⟩
    | ok change => exact inductionHypothesis after quiet

theorem Projects.note_other (projects : Projects exporter domain low high) {key : SamplingKey}
    (other : key.within exporter domain = false) {rec : Rec} (quiet : (high.note key rec).2.evicted = 0) :
    Projects exporter domain low (high.note key rec).2 := by
  unfold note at quiet ⊢
  cases reads : samplingRate rec with
  | error error => exact projects
  | ok stated =>
    cases stated with
    | none => exact projects
    | some rate =>
      simp only [reads] at quiet ⊢
      split
      · obtain ⟨rates, _, ceiling⟩ := clear_frame high key
        refine ⟨?_, projects.ceiling.trans ceiling.symm⟩
        rw [rates, OrderedDict.restrict_erase_of_dropped other, projects.rates]
      · rename_i sampled
        rw [if_neg sampled] at quiet
        refine ⟨?_, projects.ceiling.trans (restate_frame high key rate).1.symm⟩
        rw [(restate_quiet quiet).1, OrderedDict.restrict_place_of_dropped other, projects.rates]

theorem Projects.noteAll_other {opts : List Rec} {key : SamplingKey} (other : key.within exporter domain = false)
    (projects : Projects exporter domain low high) (quiet : (Decoder.noteAll key high opts).2.evicted = 0) :
    Projects exporter domain low (Decoder.noteAll key high opts).2 := by
  have kept : ∀ high opt, (high.evicted = 0 → Projects exporter domain low high) →
      (high.note key opt).2.evicted = 0 → Projects exporter domain low (high.note key opt).2 := by
    intro high opt projects quiet
    have before : high.evicted = 0 := Nat.eq_zero_of_le_zero (quiet ▸ note_evicted_le high key opt)
    exact (projects before).note_other other quiet
  exact noteAll_invariant kept (fun _ => projects) opts quiet

end SamplingWatch

end Tables

end Netflume
