import Netflume.Exporting
import Netflume.Isolation

/-! # Reading by a catalogue

A reader of a domain's messages knows some templates, learns those that arrive, and
gets the records of the data sets whose template it knows by then.  A parse against a
store that has what was learned reads the same, and one against a store that has
evicted some of it reads less, but nothing else. -/

namespace Netflume

open Library

/-! ## What a reader gets -/

/-- The templates of a domain, by ID. -/
abbrev Catalogue := Nat → Option Template

namespace SetBody

variable {ipfix : Bool}

/-- The catalogue after a set. -/
def teach (catalogue : Catalogue) : SetBody ipfix → Catalogue
  | .templates defs _ _ => defs.foldl
      (fun catalogue template => Function.update catalogue template.id.toNat (some ⟨template.fields, false⟩)) catalogue
  | .optionsTemplates defs _ _ => defs.foldl
      (fun catalogue template => Function.update catalogue template.id.toNat (some ⟨template.fields, true⟩)) catalogue
  | .data .. => catalogue

/-- The records of a set, each with whether it is an option record, if the catalogue has their template. -/
def read (catalogue : Catalogue) : SetBody ipfix → List (Bool × Rec)
  | .data id _ _ records _ _ =>
    match catalogue id.toNat with
    | none => []
    | some template => records.map fun record => (template.options, record.decoded)
  | _ => []

/-- Records take up space, and if the catalogue has their template they are laid out by it. -/
def Understood (catalogue : Catalogue) : SetBody ipfix → Prop
  | .data id _ layout _ _ _ => (∀ template ∈ catalogue id.toNat, template.fields = layout) ∧ Occupied layout
  | _ => True

end SetBody

section Sets

variable {ipfix : Bool}

def teachAll (catalogue : Catalogue) (sets : List (WireSet ipfix)) : Catalogue :=
  sets.foldl (fun catalogue set => set.body.teach catalogue) catalogue

/-- The records of a message that a reader gets who learns as it reads. -/
def readAll (catalogue : Catalogue) : List (WireSet ipfix) → List (Bool × Rec)
  | [] => []
  | set :: sets => set.body.read catalogue ++ readAll (set.body.teach catalogue) sets

def AllUnderstood (catalogue : Catalogue) : List (WireSet ipfix) → Prop
  | [] => True
  | set :: sets => set.body.Understood catalogue ∧ AllUnderstood (set.body.teach catalogue) sets

end Sets

def flowsOf (entries : List (Bool × Rec)) : List Rec := (entries.filter fun entry => !entry.1).map Prod.snd

def optionsOf (entries : List (Bool × Rec)) : List Rec := (entries.filter fun entry => entry.1).map Prod.snd

@[simp] theorem flowsOf_append (first second : List (Bool × Rec)) :
    flowsOf (first ++ second) = flowsOf first ++ flowsOf second := by
  simp [flowsOf]

@[simp] theorem optionsOf_append (first second : List (Bool × Rec)) :
    optionsOf (first ++ second) = optionsOf first ++ optionsOf second := by
  simp [optionsOf]

theorem flowsOf_ofKind (isOptions : Bool) (records : List Rec) :
    flowsOf (records.map fun rec => (isOptions, rec)) = if isOptions then [] else records := by
  cases isOptions <;> simp [flowsOf, List.filter_map, Function.comp_def]

theorem optionsOf_ofKind (isOptions : Bool) (records : List Rec) :
    optionsOf (records.map fun rec => (isOptions, rec)) = if isOptions then records else [] := by
  cases isOptions <;> simp [optionsOf, List.filter_map, Function.comp_def]

/-! ## A store and what it was taught -/

section Store

variable (exporter : Exporter) (domain : Nat)

/-- Of the domain the store holds only what the catalogue has, and all of that as long as nothing was evicted. -/
structure TemplateStore.Reflects (catalogue : Catalogue) (store : TemplateStore) : Prop where
  held : ∀ id template, store.templates.get? ⟨exporter, domain, id⟩ = some template → catalogue id = some template
  whole : store.evicted = 0 → ∀ id, store.templates.get? ⟨exporter, domain, id⟩ = catalogue id

variable {exporter domain} {catalogue : Catalogue} {store : TemplateStore}

namespace TemplateStore.Reflects

theorem put (reflects : store.Reflects exporter domain catalogue) (id : Nat) (fields : List Field) (options : Bool) :
    (store.put ⟨exporter, domain, id⟩ fields options).2.Reflects exporter domain
      (Function.update catalogue id (some ⟨fields, options⟩)) := by
  constructor
  · intro other template held
    rcases store.get?_put ⟨exporter, domain, id⟩ ⟨exporter, domain, other⟩ fields options with evicted | kept
    · cases evicted.symm.trans held
    · have found := kept.symm.trans held
      by_cases same : other = id
      · subst same
        rw [if_pos rfl] at found
        cases found
        exact Function.update_self _ _ _
      · rw [if_neg (by simp [same])] at found
        rw [Function.update_of_ne same]
        exact reflects.held other template found
  · intro quiet other
    obtain ⟨before, _, placed⟩ := put_quiet quiet
    rw [placed, OrderedDict.get?_place]
    by_cases same : other = id
    · subst same
      simp
    · rw [Function.update_of_ne same, if_neg (by simp [same])]
      exact reflects.whole before other

/-- A template of another domain is none of this one's business. -/
theorem put_other (reflects : store.Reflects exporter domain catalogue) {key : TemplateKey}
    (other : key.within exporter domain = false) (fields : List Field) (options : Bool) :
    (store.put key fields options).2.Reflects exporter domain catalogue := by
  have different (id : Nat) : TemplateKey.mk exporter domain id ≠ key := by
    rintro rfl
    simp [TemplateKey.within] at other
  constructor
  · intro id template held
    rcases store.get?_put key ⟨exporter, domain, id⟩ fields options with evicted | kept
    · cases evicted.symm.trans held
    · rw [kept, if_neg (different id)] at held
      exact reflects.held id template held
  · intro quiet id
    obtain ⟨before, _, placed⟩ := put_quiet quiet
    rw [placed, OrderedDict.get?_place, if_neg (different id)]
    exact reflects.whole before id

theorem get (reflects : store.Reflects exporter domain catalogue) (key : TemplateKey) :
    (store.get key).2.Reflects exporter domain catalogue := by
  obtain ⟨_, _, evictions⟩ := store.get_frame key
  refine ⟨fun id template held => ?_, fun quiet id => ?_⟩
  · rw [get?_get] at held
    exact reflects.held id template held
  · rw [evictions] at quiet
    rw [get?_get]
    exact reflects.whole quiet id

end TemplateStore.Reflects

/-! ## One set -/

section Sink

variable (exporter : Exporter) (domain : Nat)

/-- A parse that has learned this much, and has read these records but for what evictions lost. -/
structure Sink.Heard (catalogue : Catalogue) (entries : List (Bool × Rec)) (sink : Sink) : Prop where
  store : sink.store.Reflects exporter domain catalogue
  flows : sink.records.Sublist (flowsOf entries)
  options : sink.options.Sublist (optionsOf entries)
  whole : sink.store.evicted = 0 → sink.records = flowsOf entries ∧ sink.options = optionsOf entries

/-- A delivery of templates, next to the catalogue they make. -/
structure Delivery.Taught (sink : Sink) (catalogue : Catalogue) (delivery : Delivery) : Prop where
  store : delivery.store.Reflects exporter domain catalogue
  records : delivery.records = sink.records
  options : delivery.options = sink.options
  quiet : delivery.store.evicted = 0 → sink.store.evicted = 0

variable {exporter domain} {entries : List (Bool × Rec)} {sink : Sink} {ipfix : Bool}

theorem Delivery.Taught.put {delivery : Delivery} (taught : delivery.Taught exporter domain sink catalogue) (id : Nat)
    (fields : List Field) (options : Bool) :
    (delivery.put ⟨exporter, domain, id⟩ fields options).Taught exporter domain sink
      (Function.update catalogue id (some ⟨fields, options⟩)) :=
  ⟨taught.store.put id fields options, taught.records, taught.options,
    fun quiet => taught.quiet (TemplateStore.put_quiet quiet).1⟩

/-- A set of templates teaches them, whatever its kind. -/
theorem Sink.Heard.taught (heard : sink.Heard exporter domain catalogue entries) {stats : Stats} {after : Sink}
    {delivery : Delivery} {learned : Catalogue} (delivers : Delivers stats delivery after)
    (taught : delivery.Taught exporter domain sink learned) : after.Heard exporter domain learned entries := by
  constructor
  · rw [delivers.store]
    exact taught.store
  · rw [delivers.records, taught.records]
    exact heard.flows
  · rw [delivers.options, taught.options]
    exact heard.options
  · rw [delivers.store, delivers.records, delivers.options, taught.records, taught.options]
    exact fun quiet => heard.whole (taught.quiet quiet)

/-- Records delivered by a template held all go to the list of its kind. -/
theorem Delivers.added {stats : Stats} {after : Sink} {key : TemplateKey} {isOptions : Bool} {records : List Rec}
    (delivers : Delivers stats
      ((Delivery.mk (sink.store.get key).2 0 sink.records sink.options).add isOptions records) after) :
    after.store = (sink.store.get key).2 ∧
      after.records = sink.records ++ flowsOf (records.map fun rec => (isOptions, rec)) ∧
      after.options = sink.options ++ optionsOf (records.map fun rec => (isOptions, rec)) := by
  obtain ⟨store, _, flows, options⟩ := delivers
  rw [store, flows, options, flowsOf_ofKind, optionsOf_ofKind]
  cases isOptions <;> simp [Delivery.add]

/-- Records read by a template held are records heard. -/
theorem Sink.Heard.more (heard : sink.Heard exporter domain catalogue entries) {stats : Stats} {after : Sink}
    {key : TemplateKey} {isOptions : Bool} {records : List Rec}
    (delivers : Delivers stats
      ((Delivery.mk (sink.store.get key).2 0 sink.records sink.options).add isOptions records) after) :
    after.Heard exporter domain catalogue (entries ++ records.map fun rec => (isOptions, rec)) := by
  obtain ⟨stored, flows, options⟩ := delivers.added
  have quiet : (sink.store.get key).2.evicted = sink.store.evicted := (sink.store.get_frame key).2.2
  constructor
  · rw [stored]
    exact heard.store.get key
  · rw [flows, flowsOf_append]
    exact heard.flows.append (.refl _)
  · rw [options, optionsOf_append]
    exact heard.options.append (.refl _)
  · rw [stored, quiet, flows, options, flowsOf_append, optionsOf_append]
    intro none
    obtain ⟨sameFlows, sameOptions⟩ := heard.whole none
    rw [sameFlows, sameOptions]
    exact ⟨rfl, rfl⟩

/-- A set without its template adds nothing, and nothing is missing if the catalogue lacks it too. -/
theorem Sink.Heard.missing (heard : sink.Heard exporter domain catalogue entries) {after : Sink}
    (store : after.store = sink.store) (records : after.records = sink.records) (options : after.options = sink.options)
    {more : List (Bool × Rec)} (lost : sink.store.evicted = 0 → more = []) :
    after.Heard exporter domain catalogue (entries ++ more) := by
  constructor
  · rw [store]
    exact heard.store
  · rw [records, flowsOf_append]
    exact heard.flows.trans (List.sublist_append_left _ _)
  · rw [options, optionsOf_append]
    exact heard.options.trans (List.sublist_append_left _ _)
  · rw [store, records, options]
    intro quiet
    rw [lost quiet, List.append_nil]
    exact heard.whole quiet

/-- A data set whose template is missing is counted as deferred, and changes nothing else. -/
theorem applySet_untaught {id : UInt16} (isData : 256 ≤ id.toNat) {layout : List Field}
    (records : List (RecordData ipfix layout)) {padding : Bytes} (short : padding.length < recordMinLength layout)
    (fits : 4 + (SetBody.data id isData layout records padding short).content.length < 65536)
    (missing : sink.store.templates.get? ⟨exporter, domain, id.toNat⟩ = none) :
    let set : WireSet ipfix := ⟨.data id isData layout records padding short, fits⟩
    let after := applySet exporter domain ipfix sink set.framed.raw
    after.store = sink.store ∧ after.records = sink.records ∧ after.options = sink.options ∧
      after.stats.deferred = sink.stats.deferred + 1 := by
  obtain ⟨notTemplates, notOptions⟩ := dataId_ne_setIds isData ipfix
  have answer : sink.store.get ⟨exporter, domain, id.toNat⟩ = ((none, false), sink.store) := by
    simp only [TemplateStore.get, missing]
  intro set after
  have isAfter : after = applyContent exporter domain ipfix id.toNat set.body.content sink := rfl
  rw [isAfter, applyContent, if_neg notTemplates, if_neg notOptions, if_pos isData]
  simp only [Sink.get, answer, applyData]
  exact ⟨rfl, rfl, rfl, rfl⟩

/-- A set is heard as its records, as far as their template is known. -/
theorem Sink.Heard.applySet (heard : sink.Heard exporter domain catalogue entries) (set : WireSet ipfix)
    (understood : set.body.Understood catalogue) :
    (applySet exporter domain ipfix sink set.framed.raw).Heard exporter domain (set.body.teach catalogue)
      (entries ++ set.body.read catalogue) := by
  have start : Delivers sink.stats ⟨sink.store, 0, sink.records, sink.options⟩ sink := ⟨rfl, by simp, rfl, rfl⟩
  have untaught : (Delivery.mk sink.store 0 sink.records sink.options).Taught exporter domain sink catalogue :=
    ⟨heard.store, rfl, rfl, id⟩
  obtain ⟨body, fits⟩ := set
  cases body with
  | templates defs padding short =>
    have delivers := applySet_framed exporter domain start ⟨.templates defs padding short, fits⟩ trivial
    simp only [SetBody.read, List.append_nil]
    exact heard.taught delivers (List.foldl_rel untaught fun _ _ _ _ taught => taught.put _ _ _)
  | optionsTemplates defs padding short =>
    have delivers := applySet_framed exporter domain start ⟨.optionsTemplates defs padding short, fits⟩ trivial
    simp only [SetBody.read, List.append_nil]
    exact heard.taught delivers (List.foldl_rel untaught fun _ _ _ _ taught => taught.put _ _ _)
  | data id isData layout records padding short =>
    obtain ⟨laidOut, occupied⟩ := understood
    cases held : sink.store.templates.get? ⟨exporter, domain, id.toNat⟩ with
    | some template =>
      have known := heard.store.held id.toNat template held
      have inForce : (SetBody.data id isData layout records padding short).InForce exporter domain sink.store :=
        ⟨by rw [held, Option.map_some, laidOut template known], occupied⟩
      have delivers :=
        applySet_framed exporter domain start ⟨.data id isData layout records padding short, fits⟩ inForce
      have kind : (sink.store.get ⟨exporter, domain, id.toNat⟩).1.2 = template.options := by
        simp only [TemplateStore.get, held]
      have yielded : (SetBody.data id isData layout records padding short).read catalogue =
          (records.map RecordData.decoded).map fun rec => (template.options, rec) := by
        simp [SetBody.read, known]
      rw [SetBody.deliver, kind] at delivers
      rw [yielded]
      exact heard.more delivers
    | none =>
      obtain ⟨store, flows, options, _⟩ := applySet_untaught isData records short fits held
      apply heard.missing store flows options
      intro quiet
      have unknown := (heard.store.whole quiet id.toNat).symm.trans held
      simp [SetBody.read, unknown]

/-- The sets of a message are heard one after the other. -/
theorem Sink.Heard.applySets (heard : sink.Heard exporter domain catalogue entries) (sets : List (WireSet ipfix))
    (understood : AllUnderstood catalogue sets) :
    (((sets.map WireSet.framed).map FramedSet.raw).foldl (Netflume.applySet exporter domain ipfix) sink).Heard exporter
      domain (teachAll catalogue sets) (entries ++ readAll catalogue sets) := by
  induction sets generalizing sink catalogue entries with
  | nil =>
    rw [readAll, List.append_nil]
    exact heard
  | cons set sets inductionHypothesis =>
    obtain ⟨first, rest⟩ := understood
    rw [readAll, ← List.append_assoc]
    exact inductionHypothesis (heard.applySet set first) rest

end Sink

end Store

end Netflume
