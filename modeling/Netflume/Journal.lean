import Netflume.DecoderEvents
import Netflume.GapReport
import Netflume.SamplingTable

/-! # The events as a journal

A listener hears the events of a decoder and nothing else.  Replaying all that was
handed over and all that is pending, it knows every template the store holds, every
rate a lookup would answer, the exporters that lost exports and the number of
datagrams that failed. -/

namespace Netflume

open Library

/-! ## A listener -/

/-- What a listener has gathered from the events. -/
structure Heard where
  templates : TemplateKey → Option Template
  rates : SamplingKey → Nat
  /-- How often an exporter was reported to have lost exports. -/
  warnings : Exporter → Nat
  failures : Nat

namespace Heard

def nothing : Heard where
  templates := fun _ => none
  rates := fun _ => 1
  warnings := fun _ => 0
  failures := 0

def learn (templates : TemplateKey → Option Template) (learned : TemplateLearned) : TemplateKey → Option Template :=
  Function.update templates ⟨learned.exporter, learned.domain, learned.templateId⟩
    (some ⟨learned.fields, learned.options⟩)

def change (rates : SamplingKey → Nat) (change : SamplingChange) : SamplingKey → Nat :=
  Function.update rates ⟨change.exporter, change.domain⟩ change.rate

def warn (warnings : Exporter → Nat) (gap : ExportGap) : Exporter → Nat :=
  Function.update warnings gap.exporter (warnings gap.exporter + 1)

def hear (heard : Heard) : Event → Heard
  | .templateLearned learned => { heard with templates := learn heard.templates learned }
  | .samplingChange changed => { heard with rates := change heard.rates changed }
  | .exportGap gap => { heard with warnings := warn heard.warnings gap }
  | .decodeError _ => { heard with failures := heard.failures + 1 }

def hearAll (heard : Heard) (events : List Event) : Heard := events.foldl hear heard

theorem hearAll_append (heard : Heard) (first second : List Event) :
    heard.hearAll (first ++ second) = (heard.hearAll first).hearAll second :=
  List.foldl_append

/-! Each kind of event bears on one part of what is gathered. -/

theorem hearAll_templates (heard : Heard) (events : List TemplateLearned) :
    heard.hearAll (events.map .templateLearned) = { heard with templates := events.foldl learn heard.templates } := by
  induction events generalizing heard with
  | nil => rfl
  | cons event events inductionHypothesis => exact inductionHypothesis _

theorem hearAll_changes (heard : Heard) (events : List SamplingChange) :
    heard.hearAll (events.map .samplingChange) = { heard with rates := events.foldl change heard.rates } := by
  induction events generalizing heard with
  | nil => rfl
  | cons event events inductionHypothesis => exact inductionHypothesis _

theorem hearAll_gaps (heard : Heard) (events : List ExportGap) :
    heard.hearAll (events.map .exportGap) = { heard with warnings := events.foldl warn heard.warnings } := by
  induction events generalizing heard with
  | nil => rfl
  | cons event events inductionHypothesis => exact inductionHypothesis _

theorem hearAll_failures (heard : Heard) (events : List Event) :
    (heard.hearAll events).failures = heard.failures + (events.filter Event.isDecodeError).length := by
  induction events generalizing heard with
  | nil => rfl
  | cons event events inductionHypothesis =>
    refine (inductionHypothesis (heard.hear event)).trans ?_
    cases event <;> simp [hear, List.filter_cons, Event.isDecodeError, Nat.add_comm, Nat.add_left_comm]

end Heard

/-! ## The templates -/

/-- Every template held was heard of, and, as long as none was evicted, no other. -/
structure TemplateStore.Told (told : TemplateKey → Option Template) (store : TemplateStore) : Prop where
  room : 1 ≤ store.maxTemplates
  held : ∀ key template, store.templates.get? key = some template → told key = some template
  all : store.evicted = 0 → ∀ key, told key = store.templates.get? key

namespace TemplateStore

variable {store : TemplateStore} {told : TemplateKey → Option Template}

/-- What is heard of a put, whether it changes anything or not. -/
theorem learn_put (room : 1 ≤ store.maxTemplates) {key : TemplateKey}
    (held : ∀ template, store.templates.get? key = some template → told key = some template) (fields : List Field)
    (options : Bool) :
    (store.raised (.put key fields options)).foldl Heard.learn told =
      Function.update told key (some ⟨fields, options⟩) := by
  simp only [raised, put_answer room]
  split
  · rename_i same
    rw [get_answer] at same
    have unchanged : store.templates.get? key = some ⟨fields, options⟩ := by
      cases found : store.templates.get? key with
      | none => simp [found] at same
      | some template =>
        obtain ⟨heldFields, heldOptions⟩ := template
        simpa [found] using same
    rw [← held _ unchanged]
    exact (Function.update_eq_self key told).symm
  · rfl

theorem Told.put (tells : store.Told told) (key : TemplateKey) (fields : List Field) (options : Bool) :
    (store.put key fields options).2.Told ((store.raised (.put key fields options)).foldl Heard.learn told) := by
  rw [learn_put tells.room (tells.held key)]
  refine ⟨?_, fun other template found => ?_, fun quiet other => ?_⟩
  · rw [(put_frame store key fields options).1]
    exact tells.room
  · obtain gone | kept := store.get?_put key other fields options
    · rw [gone] at found
      cases found
    · rw [kept] at found
      by_cases own : other = key
      · rw [if_pos own] at found
        rw [own, Function.update_self, found]
      · rw [if_neg own] at found
        rw [Function.update_of_ne own]
        exact tells.held other template found
  · obtain ⟨before, _, placed⟩ := put_quiet quiet
    rw [placed, OrderedDict.get?_place, Function.update_apply, tells.all before]

theorem Told.perform (tells : store.Told told) (op : StoreOp) :
    (store.perform op).2.Told ((store.raised op).foldl Heard.learn told) := by
  cases op with
  | put key fields options => exact tells.put key fields options
  | get key =>
    obtain ⟨_, limit, evicted⟩ := store.get_frame key
    refine ⟨limit ▸ tells.room, fun other template found => ?_, fun quiet other => ?_⟩
    · exact tells.held other template ((store.get?_get key other).symm.trans found)
    · exact (tells.all (evicted ▸ quiet) other).trans (store.get?_get key other).symm
  | takeEvents => exact ⟨tells.room, tells.held, tells.all⟩

theorem Told.run (tells : store.Told told) (ops : List StoreOp) :
    (stateAfter TemplateStore.perform store ops).Told
      ((collect TemplateStore.perform TemplateStore.raised store ops).foldl Heard.learn told) :=
  @told_run _ _ _ TemplateStore.perform _ _ _ Heard.learn (fun told store => store.Told told) (fun _ _ => True)
    (fun _ _ op _ tells => tells.perform op) _ _ tells ops fun _ _ _ _ => trivial

end TemplateStore

/-! ## The rates -/

/-- Every rate held was heard of, and, as long as none was evicted, what was heard is what a lookup answers. -/
structure SamplingWatch.Told (told : SamplingKey → Nat) (watch : SamplingWatch) : Prop where
  held : ∀ key rate, watch.rates.get? key = some rate → 1 < rate ∧ told key = rate
  all : watch.evicted = 0 → ∀ key, told key = (watch.rates.get? key).getD 1

namespace SamplingWatch

variable {watch : SamplingWatch} {told : SamplingKey → Nat} {key : SamplingKey}

/-- A statement with a rate of its own is heard as that rate, whether it changes anything or not. -/
theorem change_restate (held : ∀ rate, watch.rates.get? key = some rate → told key = rate) (rate : Nat) :
    (watch.restate key rate).1.toList.foldl Heard.change told = Function.update told key rate := by
  rw [restate_answer]
  split
  · rename_i same
    rw [← held rate same]
    exact (Function.update_eq_self key told).symm
  · rfl

/-- A domain that samples nothing out is heard of when it did before. -/
theorem change_clear (positive : ∀ rate, watch.rates.get? key = some rate → rate ≠ 0)
    (silent : watch.rates.get? key = none → told key = 1) :
    (watch.clear key).1.toList.foldl Heard.change told = Function.update told key 1 := by
  rw [clear_answer]
  cases found : watch.rates.get? key with
  | none =>
    rw [← silent found]
    exact (Function.update_eq_self key told).symm
  | some previous => simp [Option.filter_some, positive previous found, Heard.change]

theorem get?_restate (watch : SamplingWatch) (key other : SamplingKey) (rate : Nat) :
    (watch.restate key rate).2.rates.get? other = none ∨
      (watch.restate key rate).2.rates.get? other = if other = key then some rate else watch.rates.get? other := by
  rw [restate]
  dsimp only
  split
  · right
    rename_i same
    rw [OrderedDict.get?_moveToEnd]
    split
    · rename_i own
      rw [own, same]
    · rfl
  · simp only [announce, OrderedDict.get?_trim, OrderedDict.get?_moveToEnd, OrderedDict.get?_set]
    split
    · exact .inl rfl
    · exact .inr rfl

theorem Told.restate (tells : watch.Told told) {rate : Nat} (above : 1 < rate) :
    (watch.restate key rate).2.Told ((watch.restate key rate).1.toList.foldl Heard.change told) := by
  rw [change_restate (fun rate found => (tells.held key rate found).2)]
  refine ⟨fun other heldRate found => ?_, fun quiet other => ?_⟩
  · obtain gone | kept := watch.get?_restate key other rate
    · rw [gone] at found
      cases found
    · rw [kept] at found
      by_cases own : other = key
      · rw [if_pos own] at found
        cases found
        rw [own, Function.update_self]
        exact ⟨above, rfl⟩
      · rw [if_neg own] at found
        rw [Function.update_of_ne own]
        exact tells.held other heldRate found
  · have before : watch.evicted = 0 := Nat.eq_zero_of_le_zero (quiet ▸ (restate_frame watch key rate).2)
    rw [(restate_quiet quiet).1, OrderedDict.get?_place, Function.update_apply, tells.all before]
    split <;> rfl

/-- Once a rate was evicted the listener may take a domain for sampling that states it is not. -/
theorem Told.clear (tells : watch.Told told) (key : SamplingKey) :
    (watch.clear key).2.Told ((watch.clear key).1.toList.foldl Heard.change told) := by
  obtain ⟨rates, evicted, _⟩ := watch.clear_frame key
  have others : ∀ other, other ≠ key →
      (watch.clear key).1.toList.foldl Heard.change told other = told other := by
    intro other different
    rw [clear_answer]
    cases Option.filter _ (watch.rates.get? key) with
    | none => rfl
    | some previous => exact Function.update_of_ne different _ _
  refine ⟨fun other rate found => ?_, fun quiet other => ?_⟩
  · rw [rates, OrderedDict.get?_erase] at found
    split at found
    · cases found
    · rw [others other ‹_›]
      exact tells.held other rate found
  · have all := tells.all (evicted ▸ quiet)
    have heardOf := @change_clear watch told key (fun rate found => by have := (tells.held key rate found).1; omega)
      (fun missing => by rw [all, missing]; rfl)
    rw [heardOf, rates, OrderedDict.get?_erase, Function.update_apply, all]
    split <;> rfl

/-- What a note appends to the events, and what is heard of it. -/
theorem Told.note (tells : watch.Told told) (key : SamplingKey) (rec : Rec) :
    ∃ changes, (watch.note key rec).2.events = watch.events ++ changes ∧
      (watch.note key rec).2.Told (changes.foldl Heard.change told) := by
  cases stated : rec.states with
  | none =>
    rw [note_of_silent stated]
    exact ⟨[], (List.append_nil _).symm, tells⟩
  | some rate =>
    have positive := one_le_states stated
    rw [note_of_stated stated]
    by_cases one : rate = 1
    · simp only [if_pos one]
      exact ⟨_, clear_events watch key, tells.clear key⟩
    · simp only [if_neg one]
      exact ⟨_, restate_events watch key rate, tells.restate (by omega)⟩

theorem Told.noteAll (tells : watch.Told told) (key : SamplingKey) (opts : List Rec) :
    (Decoder.noteAll key watch opts).2.Told ((watch.raised key opts).foldl Heard.change told) := by
  suffices ∃ changes, (Decoder.noteAll key watch opts).2.events = watch.events ++ changes ∧
      (Decoder.noteAll key watch opts).2.Told (changes.foldl Heard.change told) by
    obtain ⟨changes, events, after⟩ := this
    rw [raised, events, List.drop_left]
    exact after
  induction opts generalizing watch told with
  | nil => exact ⟨[], (List.append_nil _).symm, tells⟩
  | cons opt opts inductionHypothesis =>
    obtain ⟨changes, events, first⟩ := tells.note key opt
    rw [Decoder.noteAll]
    generalize watch.note key opt = noted at events first ⊢
    obtain ⟨outcome, after⟩ := noted
    cases outcome with
    | error error => exact ⟨changes, events, first⟩
    | ok change =>
      obtain ⟨more, later, rest⟩ := inductionHypothesis first
      refine ⟨changes ++ more, ?_, ?_⟩
      · rw [later, events, List.append_assoc]
      · rw [List.foldl_append]
        exact rest

end SamplingWatch

/-! ## The gaps -/

/-- The exporters warned of are those with a loss booked on a stream that is held, and each was heard of once. -/
structure SequenceWatch.Told (told : Exporter → Nat) (watch : SequenceWatch) : Prop where
  once : ∀ exporter, told exporter = if watch.warned.contains exporter then 1 else 0
  lost : ∀ exporter, watch.warned.contains exporter = true ↔
    ∃ key, key.exporter = exporter ∧ (watch.missed.get? key).isSome = true
  held : ∀ key, (watch.missed.get? key).isSome = true → (watch.streams.get? key).isSome = true

theorem warn_count (told : Exporter → Nat) (rows : List ExportGap) (exporter : Exporter) :
    rows.foldl Heard.warn told exporter = told exporter + (rows.map ExportGap.exporter).count exporter := by
  induction rows generalizing told with
  | nil => rfl
  | cons row rows inductionHypothesis =>
    rw [List.foldl_cons, inductionHypothesis, List.map_cons, List.count_cons, Heard.warn, Function.update_apply]
    by_cases own : exporter = row.exporter
    · rw [if_pos own, own]
      simp only [beq_self_eq_true, if_true]
      omega
    · rw [if_neg own, if_neg (by simpa using Ne.symm own), Nat.add_zero]

namespace SequenceWatch

variable {watch : SequenceWatch} {told : Exporter → Nat}

theorem recordLoss_events (watch : SequenceWatch) (key : StreamKey) (mode : Mode) (gap : Nat) :
    (watch.recordLoss key mode gap).events = watch.events ++ if watch.warned.contains key.exporter then []
      else [⟨key.exporter, key.domain, key.version, gap, unit mode key.version⟩] := by
  rw [recordLoss]
  split
  · exact (List.append_nil _).symm
  · rfl

theorem judge_events (watch : SequenceWatch) (key : StreamKey) (state : StreamState) (mode : Mode) (seq records : Nat) :
    ∃ rows, (watch.judge key state mode seq records).2.events = watch.events ++ rows ∧
      rows.map ExportGap.exporter =
        if 0 < (watch.judge key state mode seq records).1 ∧ watch.warned.contains key.exporter = false
          then [key.exporter] else [] := by
  by_cases stale : state.Stale mode seq
  · rw [judge_stale stale]
    exact ⟨[], (List.append_nil _).symm, rfl⟩
  · by_cases restarts : state.Restarts mode seq
    · rw [judge_restart stale restarts]
      exact ⟨[], (List.append_nil _).symm, rfl⟩
    · obtain ⟨ahead, few⟩ := distance_eq_loss restarts
      rw [judge_ahead few ahead]
      by_cases nothing : state.loss mode seq = 0
      · simp only [nothing, if_true]
        exact ⟨[], (List.append_nil _).symm, rfl⟩
      · have positive : 0 < state.loss mode seq := Nat.pos_of_ne_zero nothing
        simp only [if_neg nothing, positive, true_and]
        refine ⟨_, recordLoss_events _ key mode _, ?_⟩
        show _ = if watch.warned.contains key.exporter = false then _ else _
        by_cases known : watch.warned.contains key.exporter = true
        · rw [if_pos (by exact known), if_neg (by simp [known])]
          rfl
        · rw [if_neg (by exact known), if_pos (by simpa using known)]
          rfl

/-- An exporter is reported when it loses exports and was not warned of. -/
theorem observe_events (watch : SequenceWatch) (obs : Observation) :
    ∃ rows, (watch.observe obs).2.events = watch.events ++ rows ∧
      rows.map ExportGap.exporter =
        if 0 < (watch.observe obs).1 ∧ watch.warned.contains obs.exporter = false then [obs.exporter] else [] := by
  cases counted : obs.seq with
  | none =>
    simp only [observe, counted]
    exact ⟨[], (List.append_nil _).symm, rfl⟩
  | some seq =>
    cases held : watch.streams.get? obs.key with
    | none =>
      rw [observe_new counted held]
      exact ⟨[], (List.append_nil _).symm, rfl⟩
    | some state =>
      cases mode : state.mode with
      | none =>
        rw [observe_unlearned counted held mode]
        exact ⟨[], (List.append_nil _).symm, rfl⟩
      | some rule =>
        rw [observe_learned counted held mode]
        exact judge_events { watch with streams := watch.streams.moveToEnd obs.key } obs.key state rule seq obs.records

theorem warn_raised (watch : SequenceWatch) (obs : Observation) (exporter : Exporter) :
    (watch.raised obs).foldl Heard.warn told exporter = told exporter +
      if 0 < (watch.observe obs).1 ∧ watch.warned.contains obs.exporter = false ∧ exporter = obs.exporter
        then 1 else 0 := by
  obtain ⟨rows, events, exporters⟩ := watch.observe_events obs
  rw [raised, events, List.drop_left, warn_count, exporters]
  congr 1
  by_cases reported : 0 < (watch.observe obs).1 ∧ watch.warned.contains obs.exporter = false
  · by_cases own : exporter = obs.exporter
    · simp [reported, own]
    · simp [reported, own, Ne.symm own]
  · rw [if_neg reported, if_neg fun all => reported ⟨all.1, all.2.1⟩]
    rfl

/-- A new stream that displaces none leaves the exporters warned of: there are no more of them than streams. -/
theorem Told.firstSeen (tells : watch.Told told) {key : StreamKey} {seq records : Nat}
    (quiet : (watch.firstSeen key seq records).evicted = 0) : (watch.firstSeen key seq records).Told told := by
  obtain ⟨_, evicted, _⟩ := watch.firstSeen_frame key seq records
  have fits : (watch.streams.set key ⟨seq, records, none, 0⟩).size ≤ watch.maxStreams := by omega
  have kept : ∀ other, (watch.streams.get? other).isSome = true →
      ((watch.streams.set key ⟨seq, records, none, 0⟩).get? other).isSome = true := by
    intro other isHeld
    rw [OrderedDict.get?_set]
    split
    · rfl
    · exact isHeld
  have few : watch.warned.size ≤ watch.streams.size := by
    refine OrderedDict.size_le_of_image StreamKey.exporter fun exporter known => ?_
    obtain ⟨stream, isStream, booked⟩ := (tells.lost exporter).mp known
    exact ⟨stream, tells.held stream booked, isStream⟩
  have spared : watch.warned.size ≤ watch.maxStreams :=
    Nat.le_trans few (Nat.le_trans (OrderedDict.size_le_of_held kept) fits)
  simp only [SequenceWatch.firstSeen, setState, evict, OrderedDict.trim_of_le fits, OrderedDict.trim_of_le spared,
    List.foldl_nil]
  exact ⟨tells.once, tells.lost, fun other booked => kept other (tells.held other booked)⟩

/-- A message of a stream that is held: its exporter is warned of from its first loss on. -/
theorem Told.writes (tells : watch.Told told) {obs : Observation} {state entry : StreamState} {seq : Nat}
    (streamHeld : watch.streams.get? obs.key = some state)
    (writes : Writes watch obs.key state seq entry (watch.observe obs).1 (watch.observe obs).2) :
    (watch.observe obs).2.Told ((watch.raised obs).foldl Heard.warn told) := by
  have streams : ∀ key, (watch.streams.get? key).isSome = true →
      ((watch.observe obs).2.streams.get? key).isSome = true := by
    intro key isHeld
    rw [writes.streams, OrderedDict.get?_set, OrderedDict.get?_moveToEnd]
    split
    · rfl
    · exact isHeld
  have exporter : obs.key.exporter = obs.exporter := rfl
  obtain ⟨nothing, missed, _, warned⟩ | ⟨lost, mode, _, missed, _, warned⟩ := writes.books
  · refine ⟨fun other => ?_, fun other => ?_, fun key booked => ?_⟩
    · rw [warn_raised, warned, nothing, if_neg (by simp), Nat.add_zero]
      exact tells.once other
    · rw [warned, missed]
      exact tells.lost other
    · rw [missed] at booked
      exact streams key (tells.held key booked)
  · have known : ∀ other, (watch.observe obs).2.warned.contains other =
        (decide (other = obs.exporter) || watch.warned.contains other) := by
      intro other
      rw [warned, exporter]
      split
      · rename_i already
        by_cases own : other = obs.exporter
        · rw [own, already, Bool.or_true]
        · simp [own]
      · rw [OrderedDict.contains, OrderedDict.get?_set, OrderedDict.contains]
        by_cases own : other = obs.exporter <;> simp [own]
    refine ⟨fun other => ?_, fun other => ?_, fun key booked => ?_⟩
    · rw [warn_raised, tells.once, known]
      by_cases own : other = obs.exporter
      · subst own
        cases watch.warned.contains obs.exporter <;> simp [lost]
      · simp [own]
    · rw [known, missed]
      constructor
      · intro reported
        obtain own | before := Bool.or_eq_true_iff.mp reported
        · refine ⟨obs.key, (of_decide_eq_true own).symm, ?_⟩
          rw [OrderedDict.get?_set, if_pos rfl]
          rfl
        · obtain ⟨key, isOther, booked⟩ := (tells.lost other).mp before
          refine ⟨key, isOther, ?_⟩
          rw [OrderedDict.get?_set]
          split
          · rfl
          · exact booked
      · rintro ⟨key, isOther, booked⟩
        rw [OrderedDict.get?_set] at booked
        split at booked
        · rename_i own
          rw [← isOther, own, exporter]
          simp
        · rw [(tells.lost other).mpr ⟨key, isOther, booked⟩, Bool.or_true]
    · rw [missed, OrderedDict.get?_set] at booked
      split at booked
      · rename_i own
        rw [own]
        exact streams obs.key (by rw [streamHeld]; rfl)
      · exact streams key (tells.held key booked)

theorem Told.observe (tells : watch.evicted = 0 → watch.Told told) (obs : Observation)
    (quiet : (watch.observe obs).2.evicted = 0) :
    (watch.observe obs).2.Told ((watch.raised obs).foldl Heard.warn told) := by
  have before := tells (observe_quiet quiet).1
  have silent : (watch.observe obs).1 = 0 → (watch.raised obs).foldl Heard.warn told = told := by
    intro nothing
    funext exporter
    rw [warn_raised, nothing, if_neg (by simp), Nat.add_zero]
  obtain ⟨_, same⟩ | ⟨seq, _, ⟨_, placed⟩ | ⟨state, entry, streamHeld, writes⟩⟩ := watch.observe_cases obs
  · rw [silent (congrArg Prod.fst same), same]
    exact before
  · rw [silent (congrArg Prod.fst placed), placed]
    rw [placed] at quiet
    exact before.firstSeen quiet
  · exact before.writes streamHeld writes

end SequenceWatch

/-! ## The core -/

/-- What was heard is true of the core. -/
structure Core.Told (heard : Heard) (core : Core) : Prop where
  templates : core.templates.Told heard.templates
  rates : ∀ watch, core.sampling = some watch → watch.Told heard.rates
  gaps : ∀ watch, core.sequence = some watch → watch.evicted = 0 → watch.Told heard.warnings

namespace Core

variable {core : Core} {heard : Heard}

theorem Told.failed (told : core.Told heard) : core.Told { heard with failures := heard.failures + 1 } :=
  ⟨told.templates, told.rates, told.gaps⟩

/-- A parse is heard through the templates it taught. -/
theorem Told.parsed {decoder : Decoder} {maxPending : Nat} (told : decoder.core.Told heard)
    (queues : decoder.templates.Queues maxPending) {data : Bytes} {exporter : Exporter} {run : ParseRun}
    (isParse : run = (decoder.receive data).parse data exporter (num data 0 2)) :
    (decoder.parsed run).core.Told (heard.hearAll (decoder.templatesRaised run)) := by
  have replayed := (Decoder.parse_replays queues data exporter).replayed
  rw [← isParse] at replayed
  have taught := TemplateStore.Told.run told.templates (run.calls.map StoreCall.op)
  rw [Decoder.parsed_core, Decoder.templatesRaised, Heard.hearAll_templates]
  refine ⟨?_, told.rates, told.gaps⟩
  show run.store.takeEvents.2.Told _
  rw [replayed]
  exact taught.perform .takeEvents

theorem Told.observe {decoder : Decoder} (told : core.Told heard) (same : decoder.sequence = core.sequence)
    (obs : Observation) : (core.observe obs).2.Told (heard.hearAll (decoder.gapsRaised obs)) := by
  rw [Decoder.gapsRaised, same, Core.observe]
  cases tracked : core.sequence with
  | none => exact told
  | some watch =>
    dsimp only
    rw [Heard.hearAll_gaps]
    refine ⟨told.templates, told.rates, fun after isAfter quiet => ?_⟩
    cases isAfter
    obtain ⟨once, lost, held⟩ := SequenceWatch.Told.observe (told.gaps watch tracked) obs quiet
    exact ⟨once, lost, held⟩

theorem Told.note {decoder : Decoder} (told : core.Told heard) (same : decoder.sampling = core.sampling)
    (key : SamplingKey) (opts : List Rec) :
    (core.note key opts).2.Told (heard.hearAll (decoder.changesRaised key opts)) := by
  rw [Decoder.changesRaised, same, Core.note]
  cases tracked : core.sampling with
  | none => exact told
  | some watch =>
    have noted := (told.rates watch tracked).noteAll key opts
    dsimp only
    rw [Heard.hearAll_changes]
    generalize Decoder.noteAll key watch opts = outcome at noted ⊢
    obtain ⟨result, after⟩ := outcome
    cases result with
    | error error =>
      refine ⟨told.templates, fun other isAfter => ?_, told.gaps⟩
      cases isAfter
      exact noted
    | ok done =>
      refine ⟨told.templates, fun other isAfter => ?_, told.gaps⟩
      cases isAfter
      exact ⟨noted.held, noted.all⟩

end Core

namespace Decoder

/-- One call of `decode`, heard event by event. -/
theorem told_decode {decoder : Decoder} {heard : Heard} {maxPending : Nat} (told : decoder.core.Told heard)
    (queues : decoder.templates.Queues maxPending) (datagram : Datagram) :
    (decoder.decodeDatagram datagram).2.core.Told (heard.hearAll (decoder.raised datagram)) := by
  have left := decode_exit decoder datagram
  generalize decoder.decodeDatagram datagram = outcome at left ⊢
  generalize decoder.raised datagram = events at left ⊢
  cases left with
  | short few =>
    rw [(fail_core _ _ _ _ _).2]
    exact told.failed
  | unsupported unknown =>
    rw [(fail_core _ _ _ _ _).2]
    exact told.failed
  | headerless isParse =>
    rw [(fail_core _ _ _ _ _).2, Heard.hearAll_append]
    exact (told.parsed queues isParse).failed
  | @delivered run header flows options isParse known =>
    have core := decoder.parsed_core run
    have parsed := told.parsed queues isParse
    rw [(deliver_core _ _ _ _ _ _).2, Core.deliver_after, Heard.hearAll_append, Heard.hearAll_append]
    have sequence : decoder.sequence = (decoder.parsed run).core.sequence := (congrArg Core.sequence core).symm
    have sampling : decoder.sampling = (decoder.parsed run).core.sampling := (congrArg Core.sampling core).symm
    exact (parsed.observe sequence _).note (sampling.trans (Core.observe_sampling _ _).symm) _ _

/-! ## Replaying the events -/

instance : DecidablePred Op.Fits
  | .decode datagram => inferInstanceAs (Decidable (datagram.data.length ≤ maxDatagram))
  | .takeEvents => .isTrue trivial

instance : DecidablePred Answer.Returned
  | .decoded (.ok message) => .isTrue ⟨message, rfl⟩
  | .decoded (.error _) => .isFalse (by simp [Answer.Returned])
  | .events _ => .isTrue trivial

/-- What a listener knows of a decoder. -/
structure Knows (heard : Heard) (decoder : Decoder) : Prop where
  /-- Every template held, also behind evictions. -/
  template : ∀ key template, decoder.templates.templates.get? key = some template → heard.templates key = some template
  templates : decoder.templates.evicted = 0 → ∀ key, heard.templates key = decoder.templates.templates.get? key
  rate : ∀ watch, decoder.sampling = some watch → ∀ key rate, watch.rates.get? key = some rate → heard.rates key = rate
  rates : ∀ watch, decoder.sampling = some watch → watch.evicted = 0 →
    ∀ exporter domain, heard.rates ⟨exporter, domain⟩ = watch.rateFor exporter (some domain)
  /-- An exporter is reported once, whatever it loses on how many streams. -/
  warnings : ∀ watch, decoder.sequence = some watch → watch.evicted = 0 →
    ∀ exporter, heard.warnings exporter = if exporter ∈ watch.gaps.map ExportGap.exporter then 1 else 0
  failures : heard.failures = decoder.stats.failures

theorem mem_gaps_exporter {watch : SequenceWatch} {exporter : Exporter} :
    exporter ∈ watch.gaps.map ExportGap.exporter ↔
      ∃ key, key.exporter = exporter ∧ (watch.missed.get? key).isSome = true := by
  rw [List.mem_map]
  constructor
  · rintro ⟨row, member, rfl⟩
    exact ⟨row.stream, rfl, by rw [(SequenceWatch.mem_gaps.mp member).1]; rfl⟩
  · rintro ⟨key, rfl, booked⟩
    obtain ⟨lost, isLost⟩ := Option.isSome_iff_exists.mp booked
    exact ⟨⟨key.exporter, key.domain, key.version, lost, watch.unitOf key⟩,
      SequenceWatch.mem_gaps.mpr ⟨isLost, rfl⟩, rfl⟩

theorem knows_of_told {heard : Heard} {decoder : Decoder} (told : decoder.core.Told heard)
    (failures : heard.failures = decoder.stats.failures) : Knows heard decoder where
  template := told.templates.held
  templates := told.templates.all
  rate := fun watch tracked key rate found => ((told.rates watch tracked).held key rate found).2
  rates := fun watch tracked quiet exporter domain => (told.rates watch tracked).all quiet ⟨exporter, domain⟩
  warnings := by
    intro watch tracked quiet exporter
    have gaps := told.gaps watch tracked quiet
    have reported := (gaps.lost exporter).trans mem_gaps_exporter.symm
    rw [gaps.once]
    by_cases warned : watch.warned.contains exporter = true
    · rw [if_pos warned, if_pos (reported.mp warned)]
    · rw [if_neg warned, if_neg fun member => warned (reported.mpr member)]
  failures := failures

theorem told_new (trackSequence trackSampling : Bool) : (new trackSequence trackSampling).core.Told .nothing where
  templates := by
    refine ⟨(settled_new trackSequence trackSampling).queues.room, fun key template found => ?_, fun _ _ => rfl⟩
    cases found
  rates := by
    intro watch tracked
    cases trackSampling with
    | true =>
      cases tracked
      refine ⟨fun key rate found => ?_, fun _ _ => rfl⟩
      cases found
    | false => cases tracked
  gaps := by
    intro watch tracked _
    cases trackSequence with
    | true =>
      cases tracked
      refine ⟨fun _ => rfl, fun exporter => ⟨fun warned => ?_, ?_⟩, fun key booked => ?_⟩
      · cases warned
      · rintro ⟨key, _, booked⟩
        cases booked
      · cases booked
    | false => cases tracked

theorem perform_failures {decoder : Decoder} {maxPending : Nat} (queues : decoder.templates.Queues maxPending) {op : Op}
    (returned : (decoder.perform op).1.Returned) :
    (decoder.perform op).2.stats.failures =
      decoder.stats.failures + ((decoder.raisedBy op).filter Event.isDecodeError).length := by
  cases op with
  | decode datagram =>
    obtain ⟨result, answer⟩ := returned
    have books := decode_books queues answer
    exact books.failures.trans (congrArg _ books.errors.symm)
  | takeEvents => rfl

/-- A listener that replays all that was handed over and all that is pending knows what the decoder knows, as long as
no event was dropped. -/
theorem replay_knows (trackSequence trackSampling : Bool) (run : List Op) (fits : ∀ op ∈ run, op.Fits)
    (returned : ∀ answer ∈ outputs perform (new trackSequence trackSampling) run, answer.Returned)
    (kept : (stateAfter perform (new trackSequence trackSampling) run).stats.eventsDropped = 0) :
    let start := new trackSequence trackSampling
    let decoder := stateAfter perform start run
    Knows (Heard.nothing.hearAll (collect perform handedOver start run ++ decoder.events)) decoder := by
  intro start decoder
  obtain ⟨past, history, _, dropped⟩ := history_run trackSequence trackSampling run fits returned
  have whole := history.raised_of_kept (List.length_eq_zero_iff.mp (dropped.symm.trans kept))
  have told := @told_run _ _ _ perform _ _ raisedBy Heard.hear
    (fun heard decoder => decoder.templates.Queues maxPendingTemplates ∧ decoder.core.Told heard ∧
      heard.failures = decoder.stats.failures)
    (fun decoder op => (decoder.perform op).1.Returned)
    (fun heard decoder op allowed ⟨queues, told, failures⟩ => by
      have counted := (Heard.hearAll_failures heard (decoder.raisedBy op)).trans (congrArg (· + _) failures)
      have same := counted.trans (perform_failures queues allowed).symm
      cases op with
      | decode datagram => exact ⟨decode_queues queues datagram, told_decode told queues datagram, same⟩
      | takeEvents => exact ⟨queues, told, same⟩)
    .nothing start ⟨(settled_new trackSequence trackSampling).queues, told_new trackSequence trackSampling, rfl⟩ run
    ((forall_mem_outputs start run).mp returned)
  rw [← whole]
  exact knows_of_told told.2.1 told.2.2

/-- A template learned and taken, a datagram that fails, and the template learned again in another layout. -/
theorem replay_knows_redefinition :
    let layout (element : UInt8) : Datagram :=
      ⟨[0, 9, 0, 1] ++ List.replicate 16 0 ++ [0, 0, 0, 12, 1, 4, 0, 1, 0, element, 0, 4], .obj 1⟩
    let run : List Op := [.decode (layout 8), .takeEvents, .decode ⟨[0], .obj 1⟩, .decode (layout 12)]
    let start := new true true
    let decoder := stateAfter perform start run
    Knows (Heard.nothing.hearAll (collect perform handedOver start run ++ decoder.events)) decoder :=
  replay_knows true true _ (by decide +kernel) (by decide +kernel) (by decide +kernel)

end Decoder

end Netflume
