import Netflume.DecoderCore

/-! # The rate of a v5 stream

A v5 header states its sampling with every datagram, and an unsampled one states
a rate of one.  The parser passes on only the rates above one, so that what the
watch remembers is the last of those. -/

namespace Netflume

open Library

/-- The rate a sampling word states. -/
def statedRate (sampling : Nat) : Nat :=
  if sampling >>> 14 ≠ 0 ∧ sampling &&& 0x3FFF > 1 then sampling &&& 0x3FFF else 1

/-- A datagram of version 5 from one engine, with all the records it declares. -/
structure WellFormedV5 (engine : Nat) (data : Bytes) : Prop where
  version : num data 0 2 = 5
  complete : data.length = v5HeaderSize + v5RecordSize * num data 2 2
  engine : num data 21 1 = engine

instance (engine : Nat) (data : Bytes) : Decidable (WellFormedV5 engine data) :=
  decidable_of_iff
    (num data 0 2 = 5 ∧ data.length = v5HeaderSize + v5RecordSize * num data 2 2 ∧ num data 21 1 = engine)
    ⟨fun ⟨version, complete, engine⟩ => ⟨version, complete, engine⟩,
      fun ⟨version, complete, engine⟩ => ⟨version, complete, engine⟩⟩

/-- The rate the header of a datagram states. -/
def Decoder.Datagram.statedRate (datagram : Decoder.Datagram) : Nat := Netflume.statedRate (num datagram.data 22 2)

/-- A record that holds an interval above one states it as the rate. -/
theorem samplingRate_of_interval {rec : Rec} {interval : Nat}
    (held : rec.get? "sampling_interval" = some (.int interval)) (above : 1 < interval) :
    samplingRate rec = .ok (some interval) := by
  have positive : (interval != 0) = true := bne_iff_ne.mpr (by omega)
  have truthy : rec.getTruthy "sampling_interval" = some (.int interval) := by
    rw [Rec.getTruthy, held]
    exact Option.filter_some_pos positive
  have stated : statedInterval rec = some (.int interval) := by rw [statedInterval, truthy, Option.some_or]
  have clamped : max 1 interval = interval := Nat.max_eq_right (by omega)
  rw [samplingRate, stated]
  simp only [Value.asInt, bind, Except.bind, clamped]
  rfl

theorem v5Options_sampled {sampling : Nat} (sampled : statedRate sampling ≠ 1) :
    ∃ rec, v5Options sampling = [rec] ∧ samplingRate rec = .ok (some (statedRate sampling)) := by
  unfold statedRate at sampled ⊢
  by_cases states : sampling >>> 14 ≠ 0 ∧ sampling &&& 0x3FFF > 1
  · refine ⟨_, if_pos states, ?_⟩
    rw [if_pos states]
    exact samplingRate_of_interval (by simp [recordOf]) states.2
  · rw [if_neg states] at sampled
    exact absurd rfl sampled

theorem v5Options_unsampled {sampling : Nat} (unsampled : statedRate sampling = 1) : v5Options sampling = [] := by
  rw [statedRate] at unsampled
  split at unsampled
  · omega
  · rename_i silent
    exact if_neg silent

/-! ## What the watch remembers -/

/-- The rate in force after a statement: a statement of one changes nothing. -/
def remembered (rate stated : Nat) : Nat := if stated = 1 then rate else stated

theorem remembered_eq_one_iff (rate stated : Nat) : remembered rate stated = 1 ↔ rate = 1 ∧ stated = 1 := by
  rw [remembered]
  split <;> simp_all

/-- One domain's rate, and nothing else, is remembered. -/
structure SamplingWatch.Remembers (watch : SamplingWatch) (key : SamplingKey) (rate : Nat) : Prop where
  ceiling : 1 ≤ watch.maxStreams
  entries : watch.rates.entries = if rate = 1 then [] else [(key, rate)]

namespace SamplingWatch

variable {watch : SamplingWatch} {key : SamplingKey} {rate : Nat}

theorem Remembers.rateFor (remembers : watch.Remembers key rate) :
    watch.rateFor key.exporter (some key.domain) = rate := by
  rw [SamplingWatch.rateFor, OrderedDict.get?]
  rw [remembers.entries]
  by_cases unsampled : rate = 1
  · simp [unsampled]
  · simp [unsampled]

theorem Remembers.place (remembers : watch.Remembers key rate) (stated : Nat) :
    (watch.rates.place key stated).entries = [(key, stated)] := by
  have forgotten : (watch.rates.erase key).entries = [] := by
    simp only [OrderedDict.erase, OrderedDict.restrict, remembers.entries]
    split <;> simp
  change (watch.rates.erase key).entries ++ [(key, stated)] = [(key, stated)]
  rw [forgotten, List.nil_append]

theorem Remembers.restate (remembers : watch.Remembers key rate) {stated : Nat} (sampled : stated ≠ 1) :
    (watch.restate key stated).2.Remembers key stated := by
  have placed := remembers.place stated
  have room := remembers.ceiling
  rw [SamplingWatch.restate]
  by_cases unchanged : watch.rates.get? key = some stated
  · refine ⟨?_, ?_⟩
    · simp only [if_pos unchanged]
      exact room
    · simp only [if_neg sampled, OrderedDict.moveToEnd, unchanged]
      exact placed
  · have fits : (watch.rates.place key stated).size ≤ watch.maxStreams := by
      rw [OrderedDict.size, placed]
      exact room
    simp only [if_neg unchanged, OrderedDict.moveToEnd_set, OrderedDict.trim_of_le fits, announce]
    refine ⟨room, ?_⟩
    rw [if_neg sampled]
    exact placed

/-- The sampling word of one header, folded in. -/
theorem Remembers.noteAll (remembers : watch.Remembers key rate) (sampling : Nat) :
    ∃ after, Decoder.noteAll key watch (v5Options sampling) = (.ok (), after) ∧
      after.Remembers key (remembered rate (statedRate sampling)) := by
  by_cases unsampled : statedRate sampling = 1
  · rw [v5Options_unsampled unsampled, unsampled]
    exact ⟨watch, rfl, remembers⟩
  · obtain ⟨rec, listed, stated⟩ := v5Options_sampled unsampled
    refine ⟨(watch.restate key (statedRate sampling)).2, ?_, ?_⟩
    · rw [listed]
      simp only [Decoder.noteAll, SamplingWatch.note, stated, if_neg unsampled]
    · rw [remembered, if_neg unsampled]
      exact remembers.restate unsampled

end SamplingWatch

namespace Core

/-- The sampling watch is on and remembers one rate, of one domain. -/
def Remembers (core : Core) (key : SamplingKey) (rate : Nat) : Prop :=
  ∃ watch, core.sampling = some watch ∧ watch.Remembers key rate

theorem note_remembers {core : Core} {key : SamplingKey} {rate : Nat} (remembers : core.Remembers key rate)
    (sampling : Nat) :
    ∃ after, core.note key (v5Options sampling) = (.ok (remembered rate (statedRate sampling)), after) ∧
      after.Remembers key (remembered rate (statedRate sampling)) := by
  obtain ⟨watch, tracked, remembers⟩ := remembers
  obtain ⟨after, noted, remembersAfter⟩ := remembers.noteAll sampling
  refine ⟨{ core with sampling := some after.takeEvents.2 }, ?_, _, rfl, remembersAfter.ceiling, remembersAfter.entries⟩
  simp only [note, tracked, noted, remembersAfter.rateFor]

theorem deliver_remembers {core : Core} {exporter : Exporter} {header : Header} {rate : Nat}
    (remembers : core.Remembers ⟨exporter, header.domain⟩ rate) (version : Nat) (flows : List Rec) (sampling : Nat) :
    ∃ message after, core.deliver exporter version header flows (v5Options sampling) = (.ok (some message), after) ∧
      message.samplingRate = remembered rate (statedRate sampling) ∧
      after.Remembers ⟨exporter, header.domain⟩ (remembered rate (statedRate sampling)) := by
  generalize listed : v5Options sampling = options
  have observed := core.observe_sampling (Decoder.observation exporter version header flows.length options.length)
  have watching : (core.observe (Decoder.observation exporter version header flows.length options.length)).2.Remembers
      ⟨exporter, header.domain⟩ rate := by
    rw [Remembers]
    rw [observed]
    exact remembers
  obtain ⟨after, noted, remembersAfter⟩ := note_remembers watching sampling
  rw [listed] at noted
  exact ⟨_, after, deliver_of_note noted, rfl, remembersAfter⟩

/-- A step on a well-formed datagram returns a message of the rate remembered. -/
theorem step_remembers {core : Core} {exporter : Exporter} {engine rate : Nat}
    (remembers : core.Remembers ⟨exporter, engine⟩ rate) {datagram : Decoder.Datagram}
    (sender : exporterKey datagram.exporter = exporter) (wellFormed : WellFormedV5 engine datagram.data) :
    ∃ message after, core.step datagram = (.ok (some message), after) ∧
      message.samplingRate = remembered rate datagram.statedRate ∧
      after.Remembers ⟨exporter, engine⟩ (remembered rate datagram.statedRate) := by
  obtain ⟨isV5, complete, rfl⟩ := wellFormed
  have long : ¬ datagram.data.length < v5HeaderSize := by omega
  have notShort : ¬ datagram.data.length < 2 := by
    have size : v5HeaderSize = 24 := rfl
    omega
  have supported : ¬ num datagram.data 0 2 ∉ supportedVersions := by simp [isV5, supportedVersions]
  subst sender
  simp only [step, if_neg notShort, if_neg supported, readDatagram, if_pos isV5, applyV5, if_neg long]
  exact deliver_remembers remembers _ _ _

end Core

/-! ## Runs -/

/-- The rate in force after a run of datagrams: the last one stated that was not one. -/
def lastSampled (rate : Nat) (run : List Decoder.Datagram) : Nat :=
  run.foldl (fun rate datagram => remembered rate datagram.statedRate) rate

theorem lastSampled_eq_one_iff (rate : Nat) (run : List Decoder.Datagram) :
    lastSampled rate run = 1 ↔ rate = 1 ∧ ∀ datagram ∈ run, datagram.statedRate = 1 := by
  induction run generalizing rate with
  | nil => simp [lastSampled]
  | cons datagram run inductionHypothesis =>
    have rest := inductionHypothesis (remembered rate datagram.statedRate)
    rw [remembered_eq_one_iff] at rest
    rw [List.forall_mem_cons, ← and_assoc]
    exact rest

/-- Datagrams of version 5 of one exporter and engine. -/
def FromEngine (exporter : Exporter) (engine : Nat) (run : List Decoder.Datagram) : Prop :=
  ∀ datagram ∈ run, exporterKey datagram.exporter = exporter ∧ WellFormedV5 engine datagram.data

instance (exporter : Exporter) (engine : Nat) (run : List Decoder.Datagram) :
    Decidable (FromEngine exporter engine run) :=
  inferInstanceAs (Decidable (∀ datagram ∈ run, _))

theorem Core.Remembers.run {core : Core} {exporter : Exporter} {engine rate : Nat} {run : List Decoder.Datagram}
    (remembers : core.Remembers ⟨exporter, engine⟩ rate) (fromEngine : FromEngine exporter engine run) :
    (stateAfter Core.step core run).Remembers ⟨exporter, engine⟩ (lastSampled rate run) := by
  induction run generalizing core rate with
  | nil => exact remembers
  | cons datagram run inductionHypothesis =>
    obtain ⟨⟨sender, wellFormed⟩, others⟩ := List.forall_mem_cons.mp fromEngine
    obtain ⟨message, after, stepped, _, remembersAfter⟩ := Core.step_remembers remembers sender wellFormed
    have rest := inductionHypothesis remembersAfter others
    change (stateAfter Core.step (core.step datagram).2 run).Remembers _ _
    rw [stepped]
    exact rest

/-- The call on this datagram returns a message of the rate its header states. -/
def Decoder.CarriesStatedRate (decoder : Decoder) (datagram : Decoder.Datagram) : Prop :=
  ∃ message, (decoder.decodeDatagram datagram).1 = .ok (some message) ∧ message.samplingRate = datagram.statedRate

/-- Every message of a v5 run carries the rate it states exactly when no header that states a rate of
one comes after one that states another. -/
theorem carries_stated_rate_iff (trackSequence : Bool) (exporter : Exporter) (engine : Nat)
    (run : List Decoder.Datagram) (fromEngine : FromEngine exporter engine run) :
    (∀ before datagram after, run = before ++ datagram :: after →
      ((Decoder.new trackSequence true).decodeAll before).CarriesStatedRate datagram) ↔
      ∀ before datagram after, run = before ++ datagram :: after → datagram.statedRate = 1 →
        ∀ earlier ∈ before, earlier.statedRate = 1 := by
  refine forall_congr' fun before => forall_congr' fun datagram => forall_congr' fun after =>
    forall_congr' fun split => ?_
  have start : (Decoder.new trackSequence true).core.Remembers ⟨exporter, engine⟩ 1 := ⟨_, rfl, by decide, rfl⟩
  rw [split] at fromEngine
  obtain ⟨past, present⟩ := List.forall_mem_append.mp fromEngine
  obtain ⟨sender, wellFormed⟩ := present datagram List.mem_cons_self
  have remembers := start.run past
  rw [← ((Decoder.new trackSequence true).results_core before).2] at remembers
  obtain ⟨message, next, stepped, rate, _⟩ := Core.step_remembers remembers sender wellFormed
  have answer := (Decoder.decode_core ((Decoder.new trackSequence true).decodeAll before) datagram).1
  rw [stepped] at answer
  have carries : ((Decoder.new trackSequence true).decodeAll before).CarriesStatedRate datagram ↔
      remembered (lastSampled 1 before) datagram.statedRate = datagram.statedRate := by
    rw [Decoder.CarriesStatedRate]
    rw [answer, ← rate]
    constructor
    · rintro ⟨other, same, stated⟩
      cases same
      exact stated
    · intro stated
      exact ⟨message, rfl, stated⟩
  rw [carries]
  rw [remembered]
  by_cases unsampled : datagram.statedRate = 1
  · rw [if_pos unsampled, unsampled, lastSampled_eq_one_iff]
    simp
  · simp [unsampled]

/-- A datagram of one record whose header states a sampling word. -/
def v5Stating (sampling : Nat) : Decoder.Datagram where
  data := toBytes 2 5 ++ toBytes 2 1 ++ List.replicate 18 0 ++ toBytes 2 sampling ++ List.replicate 48 0
  exporter := .obj 1

theorem carries_stated_rate_while_sampling :
    (∀ before datagram after, [v5Stating 0x4064, v5Stating 0x4065] = before ++ datagram :: after →
      (Decoder.fresh.decodeAll before).CarriesStatedRate datagram) ↔
      ∀ before datagram after, [v5Stating 0x4064, v5Stating 0x4065] = before ++ datagram :: after →
        datagram.statedRate = 1 → ∀ earlier ∈ before, earlier.statedRate = 1 :=
  carries_stated_rate_iff true (.obj 1) 0 [v5Stating 0x4064, v5Stating 0x4065] (by decide)

/-- Sampling is switched off between two datagrams, and the second carries the rate of the first. -/
theorem stale_rate_of_v5 :
    ¬ ∀ run, FromEngine (.obj 1) 0 run → ∀ before datagram after, run = before ++ datagram :: after →
      (Decoder.fresh.decodeAll before).CarriesStatedRate datagram := by
  intro carries
  have fromEngine : FromEngine (.obj 1) 0 [v5Stating 0x4064, v5Stating 0] := by decide
  obtain ⟨message, answer, rate⟩ := carries _ fromEngine [v5Stating 0x4064] (v5Stating 0) [] rfl
  have stale : (((Decoder.fresh.decodeAll [v5Stating 0x4064]).decodeDatagram (v5Stating 0)).1.toOption.bind id).map
      Message.samplingRate = some 100 := by decide +kernel
  have unsampled : (v5Stating 0).statedRate = 1 := by decide
  rw [answer] at stale
  simp [Except.toOption, rate, unsampled] at stale

end Netflume
