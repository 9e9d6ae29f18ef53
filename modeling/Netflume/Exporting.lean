import Netflume.DecoderCore
import Netflume.ParseSafety
import Netflume.RoundTrip

/-! # An exporter and what is decoded of it

An IPFIX exporter lays its records out by its own templates and counts the
records it sends.  A decoder that hears every message holds no other templates,
but it may not hold them all: the records of a data set whose template is missing
are sent and not decoded. -/

namespace Netflume

open Library

/-- The layout of each template an exporter has announced, by ID. -/
abbrev Layouts := Nat → Option (List Field)

namespace SetBody

/-- The number of records a set carries. -/
def sent : SetBody true → Nat
  | .data _ _ _ records _ _ => records.length
  | _ => 0

/-- The layouts after a set. -/
def announce (layouts : Layouts) : SetBody true → Layouts
  | .templates defs _ _ =>
    defs.foldl (fun layouts template => Function.update layouts template.id.toNat (some template.fields)) layouts
  | .optionsTemplates defs _ _ =>
    defs.foldl (fun layouts template => Function.update layouts template.id.toNat (some template.fields)) layouts
  | .data .. => layouts

/-- Records are laid out as announced, and take up space. -/
def LaidOut (layouts : Layouts) : SetBody true → Prop
  | .data id _ layout _ _ _ => layouts id.toNat = some layout ∧ Occupied layout
  | _ => True

end SetBody

def announceAll (layouts : Layouts) (sets : List (WireSet true)) : Layouts :=
  sets.foldl (fun layouts set => set.body.announce layouts) layouts

def LaidOutAll : Layouts → List (WireSet true) → Prop
  | _, [] => True
  | layouts, set :: sets => set.body.LaidOut layouts ∧ LaidOutAll (set.body.announce layouts) sets

/-- An IPFIX message of one exporter. -/
structure Export where
  exportTime : UInt32
  sequence : UInt32
  sets : List (WireSet true)
  fits : ipfixHeaderSize + (encodeSets sets).length < 65536

namespace Export

def header (message : Export) (domain : UInt32) : ExportHeader := .ipfix message.exportTime message.sequence domain

def datagram (exporter : Exporter) (domain : UInt32) (message : Export) : Decoder.Datagram :=
  ⟨(message.header domain).message (encodeSets message.sets), exporter⟩

/-- The number of data records in the message, flow and option records alike. -/
def sent (message : Export) : Nat := (message.sets.map fun set => set.body.sent).sum

end Export

/-- The messages of a run, in order: each stamped with the number of records sent before it, counted from
`next`, and laid out by the templates announced by then. -/
def Exported : (next : Nat) → Layouts → List Export → Prop
  | _, _, [] => True
  | next, layouts, message :: rest =>
    message.sequence.toNat = next % 2 ^ 32 ∧ LaidOutAll layouts message.sets ∧
      Exported (next + message.sent) (announceAll layouts message.sets) rest

/-- Each record takes at least a byte of the content. -/
theorem sent_le_content {layouts : Layouts} {body : SetBody true} (laidOut : body.LaidOut layouts) :
    body.sent ≤ body.content.length := by
  cases body with
  | templates defs padding short => exact Nat.zero_le _
  | optionsTemplates defs padding short => exact Nat.zero_le _
  | data id isData layout records padding short =>
    have occupied : ∀ record ∈ records, 1 ≤ record.bytes.length := fun record _ =>
      Nat.le_trans (Nat.le_max_right _ _) (recordMinLength_le laidOut.2 record)
    have total := List.length_le_sum_of_one_le (records.map fun record => record.bytes.length)
      (List.forall_mem_map.mpr occupied)
    simp only [SetBody.sent, SetBody.content, List.length_append, List.length_flatMap]
    rw [List.length_map] at total
    omega

/-- A message is shorter than 65536 bytes, and carries fewer records. -/
theorem Export.sent_lt {layouts : Layouts} {message : Export} (laidOut : LaidOutAll layouts message.sets) :
    message.sent < 65536 := by
  have bounded : ∀ (sets : List (WireSet true)) (layouts : Layouts), LaidOutAll layouts sets →
      (sets.map fun set => set.body.sent).sum ≤ (encodeSets sets).length := by
    intro sets
    induction sets with
    | nil => exact fun _ _ => Nat.zero_le _
    | cons set sets inductionHypothesis =>
      rintro layouts ⟨first, rest⟩
      have later := inductionHypothesis _ rest
      have now := sent_le_content first
      have split : encodeSets (set :: sets) = set.framed.bytes ++ encodeSets sets := rfl
      have framed : set.framed.content = set.body.content := rfl
      rw [List.map_cons, List.sum_cons, split, List.length_append, FramedSet.length_bytes, framed]
      omega
  have whole := bounded message.sets layouts laidOut
  have fits := message.fits
  rw [Export.sent]
  omega

/-! ## The templates a decoder holds -/

section Held

variable (exporter : Exporter) (domain : Nat)

/-- Every template held for the domain is the one the exporter uses. -/
def TemplateStore.Mirrors (layouts : Layouts) (store : TemplateStore) : Prop :=
  ∀ id template, store.templates.get? ⟨exporter, domain, id⟩ = some template → layouts id = some template.fields

/-- The store after a set. -/
def SetBody.filed (store : TemplateStore) (body : SetBody true) : TemplateStore :=
  (body.deliver exporter domain ⟨store, 0, [], []⟩).store

/-- If the set carries records, the template they were laid out by is held. -/
def SetBody.Held (store : TemplateStore) : SetBody true → Prop
  | .data id _ _ records _ _ => records = [] ∨ store.templates.get? ⟨exporter, domain, id.toNat⟩ ≠ none
  | _ => True

/-- Every data set of a message with records in it finds its template held where it stands. -/
def AllHeld : TemplateStore → List (WireSet true) → Prop
  | _, [] => True
  | store, set :: sets =>
    set.body.Held exporter domain store ∧ AllHeld (set.body.filed exporter domain store) sets

variable {exporter domain}

/-- What is held is the layout just announced, or one that stands. -/
theorem TemplateStore.Mirrors.put {layouts : Layouts} {store : TemplateStore}
    (mirrors : store.Mirrors exporter domain layouts) (id : Nat) (fields : List Field) (options : Bool) :
    (store.put ⟨exporter, domain, id⟩ fields options).2.Mirrors exporter domain
      (Function.update layouts id (some fields)) := by
  intro other template held
  rcases store.get?_put ⟨exporter, domain, id⟩ ⟨exporter, domain, other⟩ fields options with evicted | kept
  · cases evicted.symm.trans held
  · have found := kept.symm.trans held
    by_cases same : other = id
    · subst same
      rw [if_pos rfl] at found
      cases found
      exact Function.update_self _ _ _
    · rw [if_neg (by simp [same])] at found
      rw [Function.update_of_ne same]
      exact mirrors other template found

/-- What a set files does not depend on what has been delivered. -/
theorem deliver_store (delivery : Delivery) (body : SetBody true) :
    (body.deliver exporter domain delivery).store = body.filed exporter domain delivery.store := by
  have put {first second : Delivery} (same : first.store = second.store) key fields options :
      (first.put key fields options).store = (second.put key fields options).store := by
    simp only [Delivery.put, same]
  cases body with
  | templates defs padding short =>
    exact List.foldl_rel (r := fun (first second : Delivery) => first.store = second.store) rfl
      fun _ _ _ _ same => put same _ _ _
  | optionsTemplates defs padding short =>
    exact List.foldl_rel (r := fun (first second : Delivery) => first.store = second.store) rfl
      fun _ _ _ _ same => put same _ _ _
  | data id isData layout records padding short =>
    simp only [SetBody.filed, SetBody.deliver, Delivery.add]
    split <;> rfl

theorem TemplateStore.Mirrors.filed {layouts : Layouts} {store : TemplateStore}
    (mirrors : store.Mirrors exporter domain layouts) (body : SetBody true) :
    (body.filed exporter domain store).Mirrors exporter domain (body.announce layouts) := by
  cases body with
  | templates defs padding short =>
    exact List.foldl_rel (r := fun (delivery : Delivery) layouts => delivery.store.Mirrors exporter domain layouts)
      mirrors fun _ _ _ _ mirrors => mirrors.put _ _ _
  | optionsTemplates defs padding short =>
    exact List.foldl_rel (r := fun (delivery : Delivery) layouts => delivery.store.Mirrors exporter domain layouts)
      mirrors fun _ _ _ _ mirrors => mirrors.put _ _ _
  | data id isData layout records padding short =>
    intro other template held
    simp only [SetBody.filed, SetBody.deliver, Delivery.add] at held
    apply mirrors other template
    split at held <;> exact (store.get?_get _ _).symm.trans held

/-! ## What a set yields -/

/-- The number of records delivered, of either kind. -/
def Delivery.yielded (delivery : Delivery) : Nat := delivery.records.length + delivery.options.length

theorem deliver_yields (delivery : Delivery) (body : SetBody true) :
    (body.deliver exporter domain delivery).yielded = delivery.yielded + body.sent := by
  cases body with
  | templates defs padding short =>
    exact List.foldlRecOn (motive := fun (after : Delivery) => after.yielded = delivery.yielded) defs _ rfl
      fun _ same _ _ => same
  | optionsTemplates defs padding short =>
    exact List.foldlRecOn (motive := fun (after : Delivery) => after.yielded = delivery.yielded) defs _ rfl
      fun _ same _ _ => same
  | data id isData layout records padding short =>
    simp only [SetBody.deliver, Delivery.add, SetBody.sent, Delivery.yielded]
    split
    · simp [Nat.add_assoc]
    · simp [Nat.add_right_comm]

/-- A set whose template is in force yields all its records. -/
theorem applySet_inForce {sink : Sink} {set : WireSet true} (inForce : set.body.InForce exporter domain sink.store) :
    (applySet exporter domain true sink set.framed.raw).store = set.body.filed exporter domain sink.store ∧
      (applySet exporter domain true sink set.framed.raw).yielded = sink.yielded + set.body.sent := by
  have start : Delivers sink.stats ⟨sink.store, 0, sink.records, sink.options⟩ sink := ⟨rfl, by simp, rfl, rfl⟩
  have delivered := applySet_framed exporter domain start set inForce
  refine ⟨delivered.store.trans (deliver_store _ _), ?_⟩
  have yields := @deliver_yields exporter domain ⟨sink.store, 0, sink.records, sink.options⟩ set.body
  rw [Sink.yielded, delivered.records, delivered.options]
  exact yields

/-- A data set whose template is missing yields nothing. -/
theorem applySet_missing {sink : Sink} {id : UInt16} {isData : 256 ≤ id.toNat} {layout : List Field}
    {records : List (RecordData true layout)} {padding : Bytes} {short : padding.length < recordMinLength layout}
    (fits : 4 + (SetBody.data id isData layout records padding short).content.length < 65536)
    (missing : sink.store.templates.get? ⟨exporter, domain, id.toNat⟩ = none) :
    let set : WireSet true := ⟨.data id isData layout records padding short, fits⟩
    (applySet exporter domain true sink set.framed.raw).store = set.body.filed exporter domain sink.store ∧
      (applySet exporter domain true sink set.framed.raw).yielded = sink.yielded := by
  obtain ⟨notTemplates, notOptions⟩ := dataId_ne_setIds isData true
  have answer : sink.store.get ⟨exporter, domain, id.toNat⟩ = ((none, false), sink.store) := by
    simp only [TemplateStore.get, missing]
  intro set
  change (applyContent exporter domain true id.toNat set.body.content sink).store = _ ∧
    (applyContent exporter domain true id.toNat set.body.content sink).yielded = _
  rw [applyContent, if_neg notTemplates, if_neg notOptions, if_pos isData]
  simp only [Sink.get, answer, applyData, set, SetBody.filed, SetBody.deliver, Delivery.add]
  exact ⟨rfl, rfl⟩

/-- A set laid out as announced yields its records, or, with its template missing, none of them. -/
theorem applySet_sent {layouts : Layouts} {sink : Sink} (mirrors : sink.store.Mirrors exporter domain layouts)
    (set : WireSet true) (laidOut : set.body.LaidOut layouts) :
    (applySet exporter domain true sink set.framed.raw).store = set.body.filed exporter domain sink.store ∧
      ∃ lost, (applySet exporter domain true sink set.framed.raw).yielded + lost = sink.yielded + set.body.sent ∧
        (lost = 0 ↔ set.body.Held exporter domain sink.store) := by
  have whole (inForce : set.body.InForce exporter domain sink.store)
      (held : set.body.Held exporter domain sink.store) :
      (applySet exporter domain true sink set.framed.raw).store = set.body.filed exporter domain sink.store ∧
        ∃ lost, (applySet exporter domain true sink set.framed.raw).yielded + lost = sink.yielded + set.body.sent ∧
          (lost = 0 ↔ set.body.Held exporter domain sink.store) := by
    obtain ⟨store, yielded⟩ := applySet_inForce inForce
    exact ⟨store, 0, yielded, iff_of_true rfl held⟩
  obtain ⟨body, fits⟩ := set
  cases body with
  | templates defs padding short => exact whole trivial trivial
  | optionsTemplates defs padding short => exact whole trivial trivial
  | data id isData layout records padding short =>
    obtain ⟨announced, occupied⟩ := laidOut
    cases held : sink.store.templates.get? ⟨exporter, domain, id.toNat⟩ with
    | none =>
      obtain ⟨store, yielded⟩ := applySet_missing fits held
      refine ⟨store, records.length, by rw [yielded]; rfl, ?_⟩
      simp only [SetBody.Held, List.length_eq_zero_iff, held, ne_eq, not_true_eq_false, or_false]
    | some template =>
      have sameLayout := (mirrors id.toNat template held).symm.trans announced
      refine whole ⟨?_, occupied⟩ (.inr ?_)
      · rw [held, Option.map_some, sameLayout]
      · rw [held]
        exact Option.some_ne_none template

theorem applySets_sent {layouts : Layouts} {sink : Sink} (mirrors : sink.store.Mirrors exporter domain layouts)
    (sets : List (WireSet true)) (laidOut : LaidOutAll layouts sets) :
    let after := ((sets.map WireSet.framed).map FramedSet.raw).foldl (applySet exporter domain true) sink
    after.store.Mirrors exporter domain (announceAll layouts sets) ∧
      ∃ lost, after.yielded + lost = sink.yielded + (sets.map fun set => set.body.sent).sum ∧
        (lost = 0 ↔ AllHeld exporter domain sink.store sets) := by
  induction sets generalizing layouts sink with
  | nil => exact ⟨mirrors, 0, rfl, iff_of_true rfl trivial⟩
  | cons set sets inductionHypothesis =>
    obtain ⟨first, rest⟩ := laidOut
    obtain ⟨store, lost, yielded, held⟩ := applySet_sent mirrors set first
    have mirrorsNext : (applySet exporter domain true sink set.framed.raw).store.Mirrors exporter domain
        (set.body.announce layouts) := by
      rw [store]
      exact mirrors.filed set.body
    obtain ⟨mirrorsLast, lostLater, yieldedLater, heldLater⟩ := inductionHypothesis mirrorsNext rest
    refine ⟨mirrorsLast, lost + lostLater, ?_, ?_⟩
    · simp only [List.map_cons, List.foldl_cons, List.sum_cons] at yieldedLater ⊢
      omega
    · rw [Nat.add_eq_zero_iff, held, heldLater, store]
      rfl

end Held

/-! ## What a message yields -/

namespace Export

variable (message : Export) (sender exporter : Exporter) (domain : UInt32)

theorem version : num (message.datagram sender domain).data 0 2 = 10 := num_front (by decide) _

/-- A message reads back as its header and its sets. -/
theorem read_datagram (store : TemplateStore) :
    readDatagram (message.datagram sender domain).data exporter store =
      let after := (((message.sets.map WireSet.framed).map FramedSet.raw).foldl
        (applySet exporter domain.toNat true) { store, stats := {} }).close
      (⟨some ((message.header domain).parsed exporter), after.records, after.options⟩, after.store) := by
  have notV5 : ¬ num (message.datagram sender domain).data 0 2 = 5 := by rw [message.version sender domain]; decide
  have framed := (message.header domain).applyMessage_message (fun _ => message.fits) exporter { store, stats := {} }
  have body : encodeSets message.sets = bodyBytes (message.sets.map WireSet.framed) := rfl
  rw [readDatagram, if_neg notV5]
  change ((applyMessage ((message.header domain).message (encodeSets message.sets)) exporter _).1,
    (applyMessage ((message.header domain).message (encodeSets message.sets)) exporter _).2.store) = _
  rw [framed, body, finishMessage_framed]
  rfl

theorem datagram_header :
    (message.datagram sender domain).header = some ((message.header domain).parsed (exporterKey sender)) := by
  have length := ExportHeader.message_ipfix_length message.exportTime message.sequence domain (encodeSets message.sets)
  have supported : ¬ ((message.datagram sender domain).data.length < 2 ∨
      num (message.datagram sender domain).data 0 2 ∉ supportedVersions) := by
    rw [message.version sender domain]
    have long : ¬ (message.datagram sender domain).data.length < 2 := by
      simp only [datagram, header, length, ipfixHeaderSize]
      omega
    simp [long, supportedVersions]
  have headed := readDatagram_header (message.datagram sender domain).data (exporterKey sender) (.new 0 0)
  rw [read_datagram] at headed
  rw [Decoder.Datagram.header, if_neg supported]
  exact headed.symm

/-- What is read of a message, of all that was sent. -/
theorem read_sent {layouts : Layouts} {store : TemplateStore} (mirrors : store.Mirrors exporter domain.toNat layouts)
    (laidOut : LaidOutAll layouts message.sets) :
    let read := readDatagram (message.datagram sender domain).data exporter store
    read.2.Mirrors exporter domain.toNat (announceAll layouts message.sets) ∧
      ∃ lost, read.1.records.length + read.1.options.length + lost = message.sent ∧
        (lost = 0 ↔ AllHeld exporter domain.toNat store message.sets) := by
  have start : ({ store, stats := {} } : Sink).store.Mirrors exporter domain.toNat layouts := mirrors
  obtain ⟨mirrorsAfter, lost, yielded, held⟩ := applySets_sent start message.sets laidOut
  intro read
  simp only [read, read_datagram]
  rw [← Sink.yielded_close] at yielded
  refine ⟨?_, lost, ?_, held⟩
  · rw [Sink.close]
    split <;> exact mirrorsAfter
  · simpa [Sink.yielded, sent] using yielded

end Export

end Netflume
