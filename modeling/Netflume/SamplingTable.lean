import Mathlib.Data.List.Dedup
import Netflume.Library.Fallible
import Netflume.Library.Machine
import Netflume.Projection

/-! # The sampling table against its history

The table keeps the rates above one and forgets a domain that states one, so what
it answers is the last statement of the domain asked about.  Of an exporter asked
about as a whole it knows only the domains that sample. -/

namespace Netflume

open Library

/-- What a record states about sampling, if it states anything and can be read. -/
def Rec.states (rec : Rec) : Option Nat :=
  match samplingRate rec with
  | .ok stated => stated
  | .error _ => none

/-- The last statement a domain made in a history of option records. -/
def lastStatement (key : SamplingKey) (calls : List (SamplingKey × Rec)) : Option Nat :=
  ((calls.filter fun call => call.1 = key).filterMap fun call => call.2.states).getLast?

theorem lastStatement_snoc (key : SamplingKey) (calls : List (SamplingKey × Rec)) (call : SamplingKey × Rec) :
    lastStatement key (calls ++ [call]) =
      if call.1 = key then call.2.states.or (lastStatement key calls) else lastStatement key calls := by
  unfold lastStatement
  by_cases own : call.1 = key
  · cases stated : call.2.states <;> simp [own, stated]
  · simp [own]

theorem one_le_roundedRatio {numerator denominator rate : Nat}
    (rounded : roundedRatio numerator denominator = .ok (some rate)) : 1 ≤ rate := by
  unfold roundedRatio at rounded
  split at rounded
  · cases rounded
  · cases rounded
    exact Nat.le_max_left _ _

/-- A statement is a rate, one or above. -/
theorem one_le_samplingRate {rec : Rec} {rate : Nat} (read : samplingRate rec = .ok (some rate)) : 1 ≤ rate := by
  rw [samplingRate] at read
  split at read
  · obtain ⟨number, _, rest⟩ := bind_eq_ok.mp read
    cases rest
    exact Nat.le_max_left _ _
  · split at read
    · obtain ⟨interval, _, rest⟩ := bind_eq_ok.mp read
      obtain ⟨space, _, rounded⟩ := bind_eq_ok.mp rest
      exact one_le_roundedRatio rounded
    · split at read
      · obtain ⟨size, _, rest⟩ := bind_eq_ok.mp read
        obtain ⟨population, _, rest⟩ := bind_eq_ok.mp rest
        split at rest
        · exact one_le_roundedRatio rest
        · cases rest
      · cases read

theorem one_le_states {rec : Rec} {rate : Nat} (stated : rec.states = some rate) : 1 ≤ rate := by
  cases read : samplingRate rec with
  | error error => simp [Rec.states, read] at stated
  | ok said =>
    simp only [Rec.states, read] at stated
    exact one_le_samplingRate (read.trans (congrArg Except.ok stated))

theorem one_le_lastStatement {key : SamplingKey} {calls : List (SamplingKey × Rec)} {rate : Nat}
    (last : lastStatement key calls = some rate) : 1 ≤ rate := by
  obtain ⟨call, _, stated⟩ := List.mem_filterMap.mp (List.mem_of_getLast? last)
  exact one_le_states stated

namespace SamplingWatch

def noteCall (watch : SamplingWatch) (call : SamplingKey × Rec) : Except PyError (Option SamplingChange) × SamplingWatch :=
  watch.note call.1 call.2

theorem note_of_silent {rec : Rec} (silent : rec.states = none) (watch : SamplingWatch) (key : SamplingKey) :
    watch.note key rec = ((samplingRate rec).map fun _ => none, watch) := by
  rw [note]
  cases read : samplingRate rec with
  | error error => rfl
  | ok stated =>
    cases stated with
    | none => rfl
    | some rate => simp [Rec.states, read] at silent

theorem note_of_stated {rec : Rec} {rate : Nat} (stated : rec.states = some rate) (watch : SamplingWatch)
    (key : SamplingKey) :
    watch.note key rec =
      let noted := if rate = 1 then watch.clear key else watch.restate key rate
      ((samplingRate rec).map fun _ => noted.1, noted.2) := by
  rw [note]
  cases read : samplingRate rec with
  | error error => simp [Rec.states, read] at stated
  | ok said =>
    simp only [Rec.states, read] at stated
    subst stated
    rfl

/-- What a call returns is what it queues. -/
theorem clear_events (watch : SamplingWatch) (key : SamplingKey) :
    (watch.clear key).2.events = watch.events ++ (watch.clear key).1.toList := by
  rw [clear]
  cases watch.rates.get? key with
  | none => simp
  | some previous =>
    simp only
    split <;> simp [announce]

theorem restate_events (watch : SamplingWatch) (key : SamplingKey) (rate : Nat) :
    (watch.restate key rate).2.events = watch.events ++ (watch.restate key rate).1.toList := by
  rw [restate]
  simp only
  split <;> simp [announce]

theorem restate_answer (watch : SamplingWatch) (key : SamplingKey) (rate : Nat) :
    (watch.restate key rate).1 = if watch.rates.get? key = some rate then none
      else some ⟨key.exporter, key.domain, rate, watch.rates.get? key⟩ := by
  rw [restate]
  simp only
  split <;> rfl

/-- What is held for a domain is its last statement, when that is above one. -/
def Recalls (calls : List (SamplingKey × Rec)) (watch : SamplingWatch) : Prop :=
  ∀ key, watch.rates.get? key = (lastStatement key calls).filter (1 < ·)

namespace Recalls

variable {calls : List (SamplingKey × Rec)} {watch : SamplingWatch} {key : SamplingKey} {rec : Rec}

theorem rateFor (recalls : watch.Recalls calls) (key : SamplingKey) :
    watch.rateFor key.exporter (some key.domain) = (lastStatement key calls).getD 1 := by
  have held := recalls key
  simp only [SamplingWatch.rateFor]
  rw [held]
  cases last : lastStatement key calls with
  | none => rfl
  | some rate =>
    have positive := one_le_lastStatement last
    by_cases above : 1 < rate
    · simp [Option.filter_some, above]
    · have one : rate = 1 := by omega
      simp [Option.filter_some, one]

theorem one_le_rateFor (recalls : watch.Recalls calls) (key : SamplingKey) :
    1 ≤ watch.rateFor key.exporter (some key.domain) := by
  rw [recalls.rateFor key]
  cases last : lastStatement key calls with
  | none => exact Nat.le_refl 1
  | some rate => exact one_le_lastStatement last

/-- A rate of one is represented by absence. -/
theorem held (recalls : watch.Recalls calls) (key : SamplingKey) :
    watch.rates.get? key = if watch.rateFor key.exporter (some key.domain) = 1 then none
      else some (watch.rateFor key.exporter (some key.domain)) := by
  have last := recalls key
  have answered : watch.rateFor key.exporter (some key.domain) = (watch.rates.get? key).getD 1 := rfl
  rw [answered]
  cases held : watch.rates.get? key with
  | none => rfl
  | some rate =>
    rw [held] at last
    have above : 1 < rate := by simpa using (Option.filter_eq_some_iff.mp last.symm).2
    rw [if_neg (by rw [Option.getD_some]; omega), Option.getD_some]

/-- A note that evicts nothing recalls its own statement and every earlier one. -/
theorem note (recalls : watch.Recalls calls) (quiet : (watch.note key rec).2.evicted = 0) :
    (watch.note key rec).2.Recalls (calls ++ [(key, rec)]) := by
  intro other
  rw [lastStatement_snoc]
  cases stated : rec.states with
  | none =>
    rw [note_of_silent stated, Option.none_or, ite_self]
    exact recalls other
  | some rate =>
    have positive := one_le_states stated
    rw [note_of_stated stated] at quiet ⊢
    simp only [Option.some_or]
    by_cases one : rate = 1
    · subst one
      rw [if_pos rfl, (clear_frame watch key).1, OrderedDict.get?_erase]
      by_cases own : key = other
      · simp [own, Option.filter_some]
      · rw [if_neg (Ne.symm own), if_neg own]
        exact recalls other
    · rw [if_neg one] at quiet ⊢
      rw [(restate_quiet quiet).1, OrderedDict.get?_place]
      by_cases own : key = other
      · have above : 1 < rate := by omega
        simp [own, Option.filter_some, above]
      · rw [if_neg (Ne.symm own), if_neg own]
        exact recalls other

/-- The change a note returns is the change of the rate of its own domain. -/
theorem note_answer (recalls : watch.Recalls calls) (quiet : (watch.note key rec).2.evicted = 0) :
    let previous := watch.rateFor key.exporter (some key.domain)
    let rate := (watch.note key rec).2.rateFor key.exporter (some key.domain)
    let change : Option SamplingChange := if rate = previous then none
      else some ⟨key.exporter, key.domain, rate, if previous = 1 then none else some previous⟩
    (watch.note key rec).1 = (samplingRate rec).map (fun _ => change) ∧
      (watch.note key rec).2.events = watch.events ++ change.toList := by
  intro previous rate change
  have after := (recalls.note quiet).rateFor key
  rw [lastStatement_snoc, if_pos rfl] at after
  have before := recalls.held key
  cases stated : rec.states with
  | none =>
    have same : rate = previous := by simp only [rate, note_of_silent stated, previous]
    simp only [change, if_pos same, note_of_silent stated, Option.toList_none, List.append_nil, and_self]
  | some said =>
    have isSaid : rate = said := by simpa [stated] using after
    have returned : change = if said = 1 then (watch.clear key).1 else (watch.restate key said).1 := by
      by_cases one : said = 1
      · rw [if_pos one, clear_answer, before]
        by_cases unsampled : previous = 1
        · rw [if_pos unsampled]
          exact if_pos (by omega)
        · have positive : 1 ≤ previous := recalls.one_le_rateFor key
          rw [if_neg unsampled, Option.filter_some, if_pos (decide_eq_true (by omega))]
          exact (if_neg (by omega)).trans (by rw [if_neg unsampled, isSaid, one]; rfl)
      · rw [if_neg one, restate_answer, before]
        by_cases unsampled : previous = 1
        · rw [if_pos unsampled, if_neg (by simp)]
          exact (if_neg (by omega)).trans (by rw [if_pos unsampled, isSaid])
        · rw [if_neg unsampled]
          by_cases same : previous = said
          · rw [if_pos (congrArg some same)]
            exact if_pos (by omega)
          · rw [if_neg (by simpa using same)]
            exact (if_neg (by omega)).trans (by rw [if_neg unsampled, isSaid])
    rw [returned, note_of_stated stated]
    by_cases one : said = 1
    · simp only [if_pos one]
      exact ⟨trivial, clear_events watch key⟩
    · simp only [if_neg one]
      exact ⟨trivial, restate_events watch key said⟩

/-- The statement of one domain is no other's. -/
theorem note_other (recalls : watch.Recalls calls) (quiet : (watch.note key rec).2.evicted = 0)
    {other : SamplingKey} (different : other ≠ key) :
    (watch.note key rec).2.rateFor other.exporter (some other.domain) =
      watch.rateFor other.exporter (some other.domain) := by
  rw [(recalls.note quiet).rateFor, recalls.rateFor, lastStatement_snoc, if_neg (Ne.symm different)]

end Recalls

/-- Nothing evicted at the end is nothing evicted on the way. -/
theorem quiet_of_append {watch : SamplingWatch} {before after : List (SamplingKey × Rec)}
    (quiet : (stateAfter noteCall watch (before ++ after)).evicted = 0) :
    (stateAfter noteCall watch before).evicted = 0 := by
  rw [stateAfter_append] at quiet
  have lasting : ∀ (watch : SamplingWatch) call, (watch.noteCall call).2.evicted = 0 → watch.evicted = 0 := by
    intro watch call quietNext
    have grown := note_evicted_le watch call.1 call.2
    rw [noteCall] at quietNext
    omega
  exact @start_of_stateAfter _ _ _ noteCall (fun watch => watch.evicted = 0) lasting _ _ quiet

theorem recalls_run {maxStreams : Nat} {calls : List (SamplingKey × Rec)}
    (quiet : (stateAfter noteCall (new maxStreams) calls).evicted = 0) :
    (stateAfter noteCall (new maxStreams) calls).Recalls calls := by
  induction calls using List.reverseRecOn with
  | nil => exact fun key => rfl
  | append_singleton calls call inductionHypothesis =>
    have recalls := inductionHypothesis (quiet_of_append quiet)
    rw [stateAfter_snoc] at quiet ⊢
    exact recalls.note quiet

end SamplingWatch

/-- The table answers with the last statement made, and its events are exactly its changes. -/
theorem sampling_table_is_last_statement (maxStreams : Nat) (calls : List (SamplingKey × Rec))
    (quiet : (stateAfter SamplingWatch.noteCall (SamplingWatch.new maxStreams) calls).evicted = 0) :
    (∀ exporter domain,
      (stateAfter SamplingWatch.noteCall (SamplingWatch.new maxStreams) calls).rateFor exporter (some domain) =
        (lastStatement ⟨exporter, domain⟩ calls).getD 1) ∧
      ∀ before key rec after, calls = before ++ (key, rec) :: after →
        let watch := stateAfter SamplingWatch.noteCall (SamplingWatch.new maxStreams) before
        let noted := watch.note key rec
        let previous := watch.rateFor key.exporter (some key.domain)
        let rate := noted.2.rateFor key.exporter (some key.domain)
        let change : Option SamplingChange := if rate = previous then none
          else some ⟨key.exporter, key.domain, rate, if previous = 1 then none else some previous⟩
        noted.1 = (samplingRate rec).map (fun _ => change) ∧ noted.2.events = watch.events ++ change.toList ∧
          ∀ other : SamplingKey, other ≠ key →
            noted.2.rateFor other.exporter (some other.domain) = watch.rateFor other.exporter (some other.domain) := by
  refine ⟨fun exporter domain => (SamplingWatch.recalls_run quiet).rateFor ⟨exporter, domain⟩, ?_⟩
  rintro before key rec after rfl
  have recalls := SamplingWatch.recalls_run (SamplingWatch.quiet_of_append quiet)
  rw [List.append_cons] at quiet
  have quietNoted := SamplingWatch.quiet_of_append quiet
  rw [stateAfter_snoc] at quietNoted
  obtain ⟨returned, queued⟩ := recalls.note_answer quietNoted
  exact ⟨returned, queued, fun other different => recalls.note_other quietNoted different⟩

/-- A rate stated, repeated behind a record about something else, and withdrawn, in one of two domains. -/
theorem sampling_table_is_last_statement_withdrawn :
    let domain : SamplingKey := ⟨.obj 8, 1⟩
    let calls : List (SamplingKey × Rec) := [(domain, recordOf [("sampling_interval", .int 500)]),
      (⟨.obj 8, 2⟩, recordOf [("sampler_interval", .int 64)]), (domain, recordOf [("if_name", .str "eth0")]),
      (domain, recordOf [("sampling_interval", .int 1)])]
    (∀ exporter domain,
      (stateAfter SamplingWatch.noteCall (SamplingWatch.new 9) calls).rateFor exporter (some domain) =
        (lastStatement ⟨exporter, domain⟩ calls).getD 1) ∧
      ∀ before key rec after, calls = before ++ (key, rec) :: after →
        let watch := stateAfter SamplingWatch.noteCall (SamplingWatch.new 9) before
        let noted := watch.note key rec
        let previous := watch.rateFor key.exporter (some key.domain)
        let rate := noted.2.rateFor key.exporter (some key.domain)
        let change : Option SamplingChange := if rate = previous then none
          else some ⟨key.exporter, key.domain, rate, if previous = 1 then none else some previous⟩
        noted.1 = (samplingRate rec).map (fun _ => change) ∧ noted.2.events = watch.events ++ change.toList ∧
          ∀ other : SamplingKey, other ≠ key →
            noted.2.rateFor other.exporter (some other.domain) = watch.rateFor other.exporter (some other.domain) :=
  sampling_table_is_last_statement 9 _ (by decide)

/-! ## An exporter asked about as a whole -/

namespace SamplingWatch

/-- A rate held for some domain of an exporter. -/
def Holds (watch : SamplingWatch) (exporter : Exporter) (rate : Nat) : Prop :=
  ∃ domain, watch.rates.get? ⟨exporter, domain⟩ = some rate

/-- The rates held for the domains of an exporter. -/
def exporterRates (watch : SamplingWatch) (exporter : Exporter) : List Nat :=
  (watch.rates.entries.filter fun entry => entry.1.exporter = exporter).map Prod.snd

theorem mem_exporterRates {watch : SamplingWatch} {exporter : Exporter} {rate : Nat} :
    rate ∈ watch.exporterRates exporter ↔ watch.Holds exporter rate := by
  simp only [exporterRates, List.mem_map, List.mem_filter, decide_eq_true_eq, Holds, OrderedDict.get?_eq_some_iff]
  constructor
  · rintro ⟨⟨⟨_, domain⟩, _⟩, ⟨member, rfl⟩, rfl⟩
    exact ⟨domain, member⟩
  · rintro ⟨domain, member⟩
    exact ⟨_, ⟨member, rfl⟩, rfl⟩

theorem rateFor_none (watch : SamplingWatch) (exporter : Exporter) :
    (∀ rate, (watch.exporterRates exporter).dedup = [rate] → watch.rateFor exporter none = rate) ∧
      ((∀ rate, (watch.exporterRates exporter).dedup ≠ [rate]) → watch.rateFor exporter none = 1) := by
  rw [rateFor, exporterRates]
  constructor
  · intro rate only
    simp only [only]
  · intro several
    simp only

/-- One rate, held wherever one is held. -/
theorem rateFor_of_unanimous {watch : SamplingWatch} {exporter : Exporter} {rate : Nat}
    (held : watch.Holds exporter rate) (unanimous : ∀ other, watch.Holds exporter other → other = rate) :
    watch.rateFor exporter none = rate := by
  apply (watch.rateFor_none exporter).1
  have member : rate ∈ (watch.exporterRates exporter).dedup := List.mem_dedup.mpr (mem_exporterRates.mpr held)
  have only : ∀ other ∈ (watch.exporterRates exporter).dedup, other = rate := fun other isHeld =>
    unanimous other (mem_exporterRates.mp (List.mem_dedup.mp isHeld))
  have distinct := List.nodup_dedup (watch.exporterRates exporter)
  generalize (watch.exporterRates exporter).dedup = rates at member only distinct
  match rates with
  | [] => cases member
  | [first] => rw [only first List.mem_cons_self]
  | first :: second :: rest =>
    have repeated : first = second := (only first (by simp)).trans (only second (by simp)).symm
    simp [repeated] at distinct

/-- Two rates, or none, leave nothing to answer with. -/
theorem rateFor_of_ambiguous {watch : SamplingWatch} {exporter : Exporter}
    (ambiguous : ∀ rate, watch.Holds exporter rate → ∃ other, watch.Holds exporter other ∧ other ≠ rate) :
    watch.rateFor exporter none = 1 := by
  apply (watch.rateFor_none exporter).2
  intro rate only
  have member : ∀ other, watch.Holds exporter other ↔ other = rate := by
    intro other
    rw [← mem_exporterRates, ← List.mem_dedup, only, List.mem_singleton]
  obtain ⟨other, held, different⟩ := ambiguous rate ((member rate).mpr rfl)
  exact different ((member other).mp held)

/-- What is answered for a whole exporter is one, or the rate held wherever one is held. -/
theorem rateFor_exporter (watch : SamplingWatch) (exporter : Exporter) :
    watch.rateFor exporter none = 1 ∨ ∃ rate, watch.Holds exporter rate ∧
      (∀ other, watch.Holds exporter other → other = rate) ∧ watch.rateFor exporter none = rate := by
  by_cases agreed : ∃ rate, watch.Holds exporter rate ∧ ∀ other, watch.Holds exporter other → other = rate
  · obtain ⟨rate, held, unanimous⟩ := agreed
    exact .inr ⟨rate, held, unanimous, rateFor_of_unanimous held unanimous⟩
  · push Not at agreed
    exact .inl (rateFor_of_ambiguous agreed)

end SamplingWatch

/-- The rate of an exporter as a whole is given when it is unambiguous, and only then. -/
def GivenWhenUnambiguous (calls : List (SamplingKey × Rec)) (watch : SamplingWatch) (exporter : Exporter) : Prop :=
  (∀ rate, 1 < rate → watch.rateFor exporter none = rate →
    ∀ domain stated, lastStatement ⟨exporter, domain⟩ calls = some stated → stated = rate) ∧
  ∀ first second stated other, lastStatement ⟨exporter, first⟩ calls = some stated →
    lastStatement ⟨exporter, second⟩ calls = some other → stated ≠ other → watch.rateFor exporter none = 1

namespace SamplingWatch.Recalls

variable {calls : List (SamplingKey × Rec)} {watch : SamplingWatch} {exporter : Exporter}

theorem holds_iff (recalls : watch.Recalls calls) (rate : Nat) :
    watch.Holds exporter rate ↔ ∃ domain, lastStatement ⟨exporter, domain⟩ calls = some rate ∧ 1 < rate := by
  refine exists_congr fun domain => ?_
  rw [recalls ⟨exporter, domain⟩, Option.filter_eq_some_iff, decide_eq_true_eq]

/-- The table cannot see a domain that samples nothing out: it goes wrong where the others agree. -/
theorem given_iff (recalls : watch.Recalls calls) :
    GivenWhenUnambiguous calls watch exporter ↔
      ∀ rate, watch.Holds exporter rate → (∀ other, watch.Holds exporter other → other = rate) →
        ∀ domain, lastStatement ⟨exporter, domain⟩ calls ≠ some 1 := by
  constructor
  · rintro ⟨agreed, -⟩ rate held unanimous domain off
    obtain ⟨_, _, above⟩ := (recalls.holds_iff rate).mp held
    have isOne := agreed rate above (rateFor_of_unanimous held unanimous) domain 1 off
    omega
  · intro seen
    have agreed : ∀ rate, 1 < rate → watch.rateFor exporter none = rate →
        ∀ domain stated, lastStatement ⟨exporter, domain⟩ calls = some stated → stated = rate := by
      intro rate above given domain stated last
      rcases watch.rateFor_exporter exporter with one | ⟨held, isHeld, unanimous, answered⟩
      · omega
      · obtain rfl : held = rate := answered.symm.trans given
        have positive := one_le_lastStatement last
        by_cases sampled : 1 < stated
        · exact unanimous stated ((recalls.holds_iff stated).mpr ⟨domain, last, sampled⟩)
        · obtain rfl : stated = 1 := by omega
          exact absurd last (seen held isHeld unanimous domain)
    refine ⟨agreed, fun first second stated other last lastToo apart => ?_⟩
    rcases watch.rateFor_exporter exporter with one | ⟨held, isHeld, _, answered⟩
    · exact one
    · obtain ⟨_, _, above⟩ := (recalls.holds_iff held).mp isHeld
      have isRate := agreed held above answered first stated last
      have isRateToo := agreed held above answered second other lastToo
      omega

end SamplingWatch.Recalls

/-- The answer for a whole exporter is right unless a domain last stated that it is unsampled while those
that sample agree on a rate. -/
theorem exporter_rate_given_iff (maxStreams : Nat) (calls : List (SamplingKey × Rec)) (exporter : Exporter)
    (quiet : (stateAfter SamplingWatch.noteCall (SamplingWatch.new maxStreams) calls).evicted = 0) :
    GivenWhenUnambiguous calls (stateAfter SamplingWatch.noteCall (SamplingWatch.new maxStreams) calls) exporter ↔
      ∀ unsampled, lastStatement ⟨exporter, unsampled⟩ calls = some 1 →
        (∀ domain stated, lastStatement ⟨exporter, domain⟩ calls = some stated → stated = 1) ∨
        ∃ first second stated other, lastStatement ⟨exporter, first⟩ calls = some stated ∧
          lastStatement ⟨exporter, second⟩ calls = some other ∧ 1 < stated ∧ 1 < other ∧ stated ≠ other := by
  have recalls := SamplingWatch.recalls_run quiet
  generalize stateAfter SamplingWatch.noteCall (SamplingWatch.new maxStreams) calls = watch at recalls ⊢
  rw [recalls.given_iff]
  constructor
  · intro seen unsampled off
    by_cases sampled : ∃ rate, watch.Holds exporter rate
    · obtain ⟨rate, held⟩ := sampled
      obtain ⟨other, heldToo, different⟩ : ∃ other, watch.Holds exporter other ∧ other ≠ rate := by
        by_contra agree
        push Not at agree
        exact seen rate held agree unsampled off
      obtain ⟨first, stated, above⟩ := (recalls.holds_iff rate).mp held
      obtain ⟨second, statedToo, aboveToo⟩ := (recalls.holds_iff other).mp heldToo
      exact .inr ⟨first, second, rate, other, stated, statedToo, above, aboveToo, Ne.symm different⟩
    · refine .inl fun domain stated last => ?_
      have positive := one_le_lastStatement last
      have notAbove : ¬ 1 < stated := fun above => sampled ⟨stated, (recalls.holds_iff stated).mpr ⟨domain, last, above⟩⟩
      omega
  · intro condition rate held unanimous unsampled off
    obtain ⟨domain, stated, above⟩ := (recalls.holds_iff rate).mp held
    rcases condition unsampled off with allOff | ⟨first, second, one, other, last, lastToo, isRate, isRateToo, apart⟩
    · have isOne := allOff domain rate stated
      omega
    · have same := unanimous one ((recalls.holds_iff one).mpr ⟨first, last, isRate⟩)
      have sameToo := unanimous other ((recalls.holds_iff other).mpr ⟨second, lastToo, isRateToo⟩)
      omega

/-- Two domains that sample alike, and one that has said nothing. -/
theorem exporter_rate_given_iff_alike :
    let calls : List (SamplingKey × Rec) := [(⟨.obj 12, 1⟩, recordOf [("sampling_interval", .int 40)]),
      (⟨.obj 12, 2⟩, recordOf [("sampler_interval", .int 40)]), (⟨.obj 12, 3⟩, recordOf [("if_name", .str "eth1")])]
    GivenWhenUnambiguous calls (stateAfter SamplingWatch.noteCall (SamplingWatch.new 6) calls) (.obj 12) ↔
      ∀ unsampled, lastStatement ⟨.obj 12, unsampled⟩ calls = some 1 →
        (∀ domain stated, lastStatement ⟨.obj 12, domain⟩ calls = some stated → stated = 1) ∨
        ∃ first second stated other, lastStatement ⟨.obj 12, first⟩ calls = some stated ∧
          lastStatement ⟨.obj 12, second⟩ calls = some other ∧ 1 < stated ∧ 1 < other ∧ stated ≠ other :=
  exporter_rate_given_iff 6 _ (.obj 12) (by decide)

/-- Domain 1 samples, domain 2 says that it does not, and the exporter as a whole is said to sample. -/
theorem exporter_rate_given_when_ambiguous : ¬ ∀ maxStreams calls exporter,
    (stateAfter SamplingWatch.noteCall (SamplingWatch.new maxStreams) calls).evicted = 0 →
      GivenWhenUnambiguous calls (stateAfter SamplingWatch.noteCall (SamplingWatch.new maxStreams) calls) exporter := by
  intro always
  have given := always 4 [(⟨.obj 15, 1⟩, recordOf [("sampling_interval", .int 100)]),
    (⟨.obj 15, 2⟩, recordOf [("sampling_interval", .int 1)])] (.obj 15) (by decide)
  have one := given.1 100 (by decide) (by decide) 2 1 (by decide)
  omega

end Netflume
