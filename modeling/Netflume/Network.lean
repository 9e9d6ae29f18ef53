import Netflume.Catalogue

/-! # Exporters over an unreliable network

What a decoder reads of a domain's messages when the network may lose, repeat and
reorder them, and anyone may send anything else: of each message that arrives, the
records of the data sets whose templates arrived before it, or before them in it.
A table that overflows only loses records. -/

namespace Netflume

open Library

/-! ## One message -/

/-- A v9 or IPFIX message, as its exporter sends it. -/
structure Sent where
  source : Exporter
  header : ExportHeader
  sets : List (WireSet header.isIpfix)
  fits : header.Fits (encodeSets sets)

namespace Sent

variable (message : Sent)

def datagram : Decoder.Datagram := ⟨message.header.message (encodeSets message.sets), message.source⟩

theorem version : num message.datagram.data 0 2 = 9 ∨ num message.datagram.data 0 2 = 10 := by
  obtain ⟨source, header, sets, fits⟩ := message
  cases header with
  | v9 count sysUptime unixSecs sequence domain => exact .inl (num_front (by decide) _)
  | ipfix exportTime sequence domain => exact .inr (num_front (by decide) _)

/-- A message reads back as its header and its sets. -/
theorem readDatagram_sent (exporter : Exporter) (store : TemplateStore) :
    readDatagram message.datagram.data exporter store =
      let after := (((message.sets.map WireSet.framed).map FramedSet.raw).foldl
        (applySet exporter message.header.domain message.header.isIpfix) { store, stats := {} }).close
      (⟨some (message.header.parsed exporter), after.records, after.options⟩, after.store) := by
  have notV5 : ¬ num message.datagram.data 0 2 = 5 := by
    have known := message.version
    omega
  have framed := message.header.applyMessage_message message.fits exporter { store, stats := {} }
  have body : encodeSets message.sets = bodyBytes (message.sets.map WireSet.framed) := rfl
  rw [readDatagram, if_neg notV5]
  change ((applyMessage (message.header.message (encodeSets message.sets)) exporter _).1,
    (applyMessage (message.header.message (encodeSets message.sets)) exporter _).2.store) = _
  rw [framed, body, finishMessage_framed, ExportHeader.parsed_exporter, ExportHeader.parsed_domain]

theorem datagram_header :
    message.datagram.header = some (message.header.parsed (exporterKey message.source)) := by
  have long : ¬ message.datagram.data.length < 2 := by
    obtain ⟨source, header, sets, fits⟩ := message
    cases header with
    | v9 count sysUptime unixSecs sequence domain =>
      simp only [datagram, ExportHeader.message_v9_length, v9HeaderSize]
      omega
    | ipfix exportTime sequence domain =>
      simp only [datagram, ExportHeader.message_ipfix_length, ipfixHeaderSize]
      omega
  have supported : num message.datagram.data 0 2 ∈ supportedVersions := by
    rcases message.version with v9 | ipfix
    · simp [v9, supportedVersions]
    · simp [ipfix, supportedVersions]
  have headed := readDatagram_header message.datagram.data (exporterKey message.source) (.new 0 0)
  rw [readDatagram_sent] at headed
  rw [Decoder.Datagram.header, if_neg (by simp [long, supported])]
  exact headed.symm

/-- What is read of a message whose templates may be missing. -/
theorem heard {catalogue : Catalogue} {store : TemplateStore} {exporter : Exporter}
    (reflects : store.Reflects exporter message.header.domain catalogue)
    (understood : AllUnderstood catalogue message.sets) :
    let read := readDatagram message.datagram.data exporter store
    read.2.Reflects exporter message.header.domain (teachAll catalogue message.sets) ∧
      read.1.records.Sublist (flowsOf (readAll catalogue message.sets)) ∧
      read.1.options.Sublist (optionsOf (readAll catalogue message.sets)) ∧
      (read.2.evicted = 0 → read.1.records = flowsOf (readAll catalogue message.sets) ∧
        read.1.options = optionsOf (readAll catalogue message.sets)) := by
  have start : ({ store, stats := {} } : Sink).Heard exporter message.header.domain catalogue [] :=
    ⟨reflects, .slnil, .slnil, fun _ => ⟨rfl, rfl⟩⟩
  have after := start.applySets message.sets understood
  intro read
  simp only [read, readDatagram_sent]
  rw [Sink.close]
  split <;> exact ⟨after.store, after.flows, after.options, after.whole⟩

end Sent

/-- Other datagrams, of another domain or of version 5, leave the templates of a domain alone. -/
theorem readDatagram_foreign {data : Bytes} {sender : Exporter} {header : Header}
    (read : datagramHeader data sender = some header) {exporter : Exporter} {domain : Nat} {catalogue : Catalogue}
    {store : TemplateStore} (reflects : store.Reflects exporter domain catalogue)
    (foreign : ¬ (sender = exporter ∧ header.domain = domain) ∨ num data 0 2 = 5) :
    (readDatagram data sender store).2.Reflects exporter domain catalogue := by
  rw [datagramHeader] at read
  unfold readDatagram
  by_cases isV5 : num data 0 2 = 5
  · simp only [if_pos isV5]
    exact reflects
  · rw [if_neg isV5] at read
    simp only [if_neg isV5]
    have other (id : Nat) : (TemplateKey.mk sender header.domain id).within exporter domain = false := by
      simpa [TemplateKey.within] using foreign.resolve_right isV5
    have simulation : SinkSimulation sender header.domain fun _ sink : Sink =>
        sink.store.Reflects exporter domain catalogue := by
      constructor
      · exact fun reflects id fields options _ => reflects.put_other (other id) fields options
      · intro first second reflects ipfix id content
        rw [applyData_store]
        exact reflects.get _
      · exact fun reflects => reflects
      · intro first second reflects
        rw [Sink.close]
        split <;> exact reflects
    exact simulation.kept read reflects

/-! ## A run -/

/-- What a decoder receives: a message of the domain in question, or any other datagram. -/
inductive Arrival where
  | sent (message : Sent)
  | other (datagram : Decoder.Datagram)

namespace Arrival

def datagram : Arrival → Decoder.Datagram
  | sent message => message.datagram
  | other datagram => datagram

def teach (catalogue : Catalogue) : Arrival → Catalogue
  | sent message => teachAll catalogue message.sets
  | other _ => catalogue

/-- A message is of this domain, and any other datagram that seems to be is of version 5, which has no templates. -/
def OfDomain (exporter : Exporter) (domain : Nat) : Arrival → Prop
  | sent message => exporterKey message.source = exporter ∧ message.header.domain = domain
  | other datagram => datagram.carries exporter domain = false ∨ num datagram.data 0 2 = 5

def Understood (catalogue : Catalogue) : Arrival → Prop
  | sent message => AllUnderstood catalogue message.sets
  | other _ => True

end Arrival

/-- The templates of a domain that have arrived. -/
def catalogueOf (arrivals : List Arrival) : Catalogue := arrivals.foldl Arrival.teach fun _ => none

namespace Core

theorem deliver_returns {core : Core} {exporter : Exporter} {version : Nat} {header : Header} {flows options : List Rec}
    {result : Option Message} (answer : (core.deliver exporter version header flows options).1 = .ok result) :
    ∃ message, result = some message ∧ message.header = header ∧ message.flows = flows ∧ message.options = options := by
  simp only [deliver] at answer
  generalize (core.observe (Decoder.observation exporter version header flows.length options.length)).2.note
    ⟨exporter, header.domain⟩ options = noted at answer
  obtain ⟨outcome, after⟩ := noted
  cases outcome with
  | error error => cases answer
  | ok rate =>
    cases answer
    exact ⟨_, rfl, rfl, rfl, rfl⟩

variable {core : Core} {exporter : Exporter} {domain : Nat} {catalogue : Catalogue}

/-- The store reflects what has arrived, whatever arrives next. -/
theorem step_reflects (reflects : core.templates.Reflects exporter domain catalogue) {arrival : Arrival}
    (ofDomain : arrival.OfDomain exporter domain) (understood : arrival.Understood catalogue) :
    (core.step arrival.datagram).2.templates.Reflects exporter domain (arrival.teach catalogue) := by
  cases arrival with
  | sent message =>
    obtain ⟨rfl, rfl⟩ := ofDomain
    have after := (message.heard reflects understood).1
    rw [Arrival.datagram, step_headed message.datagram_header, deliver_templates]
    exact ⟨after.held, after.whole⟩
  | other datagram =>
    rw [Arrival.datagram, Arrival.teach]
    cases read : datagram.header with
    | none =>
      rcases (step_headerless read core).2 with same | drained
      · rw [same]
        exact reflects
      · rw [drained]
        exact ⟨reflects.held, reflects.whole⟩
    | some header =>
      have isHeader := Decoder.Datagram.header_read read
      have foreign : ¬ (exporterKey datagram.exporter = exporter ∧ header.domain = domain) ∨
          num datagram.data 0 2 = 5 := by
        rw [Arrival.OfDomain, Decoder.Datagram.carries, read, Option.any_some, Decoder.Datagram.header_exporter read,
          decide_eq_false_iff_not] at ofDomain
        exact ofDomain
      have after := readDatagram_foreign isHeader reflects foreign
      rw [step_headed read, deliver_templates]
      exact ⟨after.held, after.whole⟩

end Core

namespace Decoder

variable {exporter : Exporter} {domain : Nat}

/-- So the store of a run reflects what has arrived. -/
theorem run_reflects (trackSequence trackSampling : Bool) {arrivals : List Arrival}
    (ofDomain : ∀ arrival ∈ arrivals, arrival.OfDomain exporter domain)
    (understood : ∀ before arrival after, arrivals = before ++ arrival :: after →
      arrival.Understood (catalogueOf before)) :
    ((Decoder.new trackSequence trackSampling).decodeAll (arrivals.map Arrival.datagram)).templates.Reflects exporter
      domain (catalogueOf arrivals) := by
  induction arrivals using List.reverseRecOn with
  | nil => exact ⟨fun _ _ held => (by cases held), fun _ _ => rfl⟩
  | append_singleton arrivals arrival inductionHypothesis =>
    have before := inductionHypothesis (fun other member => ofDomain other (List.mem_append_left _ member))
      fun first other rest split => understood first other (rest ++ [arrival]) (by rw [split, List.append_assoc]; rfl)
    have step := @Core.step_reflects
      ((Decoder.new trackSequence trackSampling).decodeAll (arrivals.map Arrival.datagram)).core _ _ _ before arrival
      (ofDomain arrival (List.mem_append_right _ List.mem_cons_self)) (understood arrivals arrival [] rfl)
    rw [List.map_append, List.map_singleton, decodeAll, stateAfter_snoc, catalogueOf, List.foldl_append]
    rw [← (decode_core _ arrival.datagram).2] at step
    exact step

/-- What a call says of a message, whose templates may not have arrived. -/
theorem decode_heard (trackSequence trackSampling : Bool) {before : List Arrival}
    (ofDomain : ∀ arrival ∈ before, arrival.OfDomain exporter domain)
    (understood : ∀ first arrival rest, before = first ++ arrival :: rest → arrival.Understood (catalogueOf first))
    {message : Sent} (own : exporterKey message.source = exporter ∧ message.header.domain = domain)
    (understoodNow : AllUnderstood (catalogueOf before) message.sets) {result : Option Message}
    (answer : (((Decoder.new trackSequence trackSampling).decodeAll (before.map Arrival.datagram)).decodeDatagram
      message.datagram).1 = .ok result) :
    ∃ reading, result = some reading ∧ reading.header = message.header.parsed exporter ∧
      reading.flows.Sublist (flowsOf (readAll (catalogueOf before) message.sets)) ∧
      reading.options.Sublist (optionsOf (readAll (catalogueOf before) message.sets)) ∧
      ((((Decoder.new trackSequence trackSampling).decodeAll (before.map Arrival.datagram)).decodeDatagram
        message.datagram).2.templates.evicted = 0 →
        reading.flows = flowsOf (readAll (catalogueOf before) message.sets) ∧
          reading.options = optionsOf (readAll (catalogueOf before) message.sets)) := by
  have reflects := run_reflects trackSequence trackSampling ofDomain understood
  generalize (Decoder.new trackSequence trackSampling).decodeAll (before.map Arrival.datagram) = decoder at *
  obtain ⟨sameAnswer, sameCore⟩ := decode_core decoder message.datagram
  obtain ⟨rfl, rfl⟩ := own
  obtain ⟨_, flows, options, whole⟩ := message.heard reflects understoodNow
  rw [sameAnswer, Core.step_headed message.datagram_header] at answer
  obtain ⟨reading, isReading, header, isFlows, isOptions⟩ := Core.deliver_returns answer
  refine ⟨reading, isReading, header, isFlows ▸ flows, isOptions ▸ options, fun quiet => ?_⟩
  change (decoder.decodeDatagram message.datagram).2.core.templates.evicted = 0 at quiet
  rw [sameCore, Core.step_headed message.datagram_header, Core.deliver_templates] at quiet
  rw [isFlows, isOptions]
  exact whole quiet

end Decoder

/-! ## Exporters that keep to one catalogue -/

namespace SetBody

variable {ipfix : Bool}

/-- A set keeps to a catalogue: its templates are in it, and its records laid out by it. -/
def Conforms (catalogue : Catalogue) : SetBody ipfix → Prop
  | .templates defs _ _ => ∀ template ∈ defs, catalogue template.id.toNat = some ⟨template.fields, false⟩
  | .optionsTemplates defs _ _ => ∀ template ∈ defs, catalogue template.id.toNat = some ⟨template.fields, true⟩
  | .data id _ layout _ _ _ => (catalogue id.toNat).map Template.fields = some layout ∧ Occupied layout

end SetBody

/-- The records of a message, by the catalogue they are sent by. -/
def Sent.records (catalogue : Catalogue) (message : Sent) : List (Bool × Rec) :=
  message.sets.flatMap fun set => set.body.read catalogue

def Arrival.Conforms (catalogue : Catalogue) : Arrival → Prop
  | .sent message => ∀ set ∈ message.sets, set.body.Conforms catalogue
  | .other _ => True

/-- A reader knows nothing but what is in the catalogue. -/
def Catalogue.Within (catalogue known : Catalogue) : Prop :=
  ∀ id template, known id = some template → catalogue id = some template

section Conforming

variable {catalogue known : Catalogue} {ipfix : Bool}

theorem Catalogue.Within.update (within : catalogue.Within known) {id : Nat} {template : Template}
    (listed : catalogue id = some template) : catalogue.Within (Function.update known id (some template)) := by
  intro other held found
  by_cases same : other = id
  · subst same
    rw [Function.update_self] at found
    exact listed.trans found
  · rw [Function.update_of_ne same] at found
    exact within other held found

theorem SetBody.Conforms.teach {body : SetBody ipfix} (conforms : body.Conforms catalogue)
    (within : catalogue.Within known) : catalogue.Within (body.teach known) := by
  cases body with
  | templates defs padding short =>
    exact List.foldlRecOn (motive := fun (known : Catalogue) => catalogue.Within known) defs _ within
      fun _ within template member => within.update (conforms template member)
  | optionsTemplates defs padding short =>
    exact List.foldlRecOn (motive := fun (known : Catalogue) => catalogue.Within known) defs _ within
      fun _ within template member => within.update (conforms template member)
  | data id isData layout records padding short => exact within

theorem SetBody.Conforms.understood {body : SetBody ipfix} (conforms : body.Conforms catalogue)
    (within : catalogue.Within known) : body.Understood known := by
  cases body with
  | templates defs padding short => trivial
  | optionsTemplates defs padding short => trivial
  | data id isData layout records padding short =>
    obtain ⟨laidOut, occupied⟩ := conforms
    refine ⟨fun template held => ?_, occupied⟩
    rw [within id.toNat template held] at laidOut
    exact Option.some.inj laidOut

/-- Whoever knows less reads less, and nothing else. -/
theorem SetBody.read_within (within : catalogue.Within known) (body : SetBody ipfix) :
    (body.read known).Sublist (body.read catalogue) := by
  cases body with
  | templates defs padding short => exact .slnil
  | optionsTemplates defs padding short => exact .slnil
  | data id isData layout records padding short =>
    simp only [SetBody.read]
    cases held : known id.toNat with
    | none => exact List.nil_sublist _
    | some template => rw [within id.toNat template held]

theorem conforming_sets {sets : List (WireSet ipfix)} (conforms : ∀ set ∈ sets, set.body.Conforms catalogue)
    (within : catalogue.Within known) :
    AllUnderstood known sets ∧ catalogue.Within (teachAll known sets) ∧
      (readAll known sets).Sublist (sets.flatMap fun set => set.body.read catalogue) := by
  induction sets generalizing known with
  | nil => exact ⟨trivial, within, .slnil⟩
  | cons set sets inductionHypothesis =>
    obtain ⟨first, rest⟩ := List.forall_mem_cons.mp conforms
    obtain ⟨understood, later, read⟩ := inductionHypothesis rest (first.teach within)
    exact ⟨⟨first.understood within, understood⟩, later, (set.body.read_within within).append read⟩

theorem conforming_catalogue {arrivals : List Arrival} (conforms : ∀ arrival ∈ arrivals, arrival.Conforms catalogue) :
    catalogue.Within (catalogueOf arrivals) := by
  refine List.foldlRecOn (motive := fun (known : Catalogue) => catalogue.Within known) arrivals _
    (fun _ _ known => by cases known) fun known within arrival member => ?_
  cases arrival with
  | sent message => exact (conforming_sets (conforms _ member) within).2.1
  | other datagram => exact within

end Conforming

/-- A network may lose, repeat and reorder the messages of a domain that never reuses a template ID, and deliver
whatever else it likes: of each message that arrives, decoding gives some of the records sent, in order, and no
others, and as long as no template was evicted exactly those whose templates arrived before them. -/
theorem Decoder.network_only_loses (trackSequence trackSampling : Bool) (exporter : Exporter) (domain : Nat)
    (catalogue : Catalogue) (arrivals : List Arrival)
    (fair : ∀ arrival ∈ arrivals, arrival.OfDomain exporter domain ∧ arrival.Conforms catalogue)
    (before : List Arrival) (message : Sent) (after : List Arrival) (split : arrivals = before ++ .sent message :: after)
    (result : Option Message)
    (answer : (((Decoder.new trackSequence trackSampling).decodeAll (before.map Arrival.datagram)).decodeDatagram
      message.datagram).1 = .ok result) :
    ∃ reading, result = some reading ∧ reading.header = message.header.parsed exporter ∧
      reading.flows.Sublist (flowsOf (message.records catalogue)) ∧
      reading.options.Sublist (optionsOf (message.records catalogue)) ∧
      ((((Decoder.new trackSequence trackSampling).decodeAll (before.map Arrival.datagram)).decodeDatagram
        message.datagram).2.templates.evicted = 0 →
        reading.flows = flowsOf (readAll (catalogueOf before) message.sets) ∧
          reading.options = optionsOf (readAll (catalogueOf before) message.sets)) := by
  have earlier : ∀ arrival ∈ before, arrival.OfDomain exporter domain ∧ arrival.Conforms catalogue :=
    fun arrival member => fair arrival (split ▸ List.mem_append_left _ member)
  obtain ⟨own, conforms⟩ := fair (.sent message) (split ▸ List.mem_append_right _ List.mem_cons_self)
  have understood : ∀ first arrival rest, before = first ++ arrival :: rest →
      arrival.Understood (catalogueOf first) := by
    rintro first arrival rest rfl
    have within := conforming_catalogue fun other member => (earlier other (List.mem_append_left _ member)).2
    have conforming := (earlier arrival (List.mem_append_right _ List.mem_cons_self)).2
    cases arrival with
    | sent message => exact (conforming_sets conforming within).1
    | other datagram => trivial
  obtain ⟨understoodNow, _, fewer⟩ :=
    conforming_sets conforms (conforming_catalogue fun arrival member => (earlier arrival member).2)
  obtain ⟨reading, isReading, header, flows, options, whole⟩ := decode_heard trackSequence trackSampling
    (fun arrival member => (earlier arrival member).1) understood own understoodNow answer
  refine ⟨reading, isReading, header, flows.trans ?_, options.trans ?_, whole⟩
  · exact (fewer.filter _).map _
  · exact (fewer.filter _).map _

/-- A template of the interface a flow came in by. -/
def interfaceTemplate : Sent :=
  ⟨.obj 1, .v9 1 0 4 1 7, [⟨.templates [⟨777, [.v9 10 2], by simp⟩] [0] (by decide), by decide⟩], by decide⟩

/-- A record laid out by the template. -/
def interfaceReport : Sent :=
  ⟨.obj 1, .v9 1 0 4 2 7, [⟨.data 777 (by decide) [.named 10 none 2] [.cons ⟨[0, 3], false, by decide⟩ .nil] [0]
    (by decide), by decide⟩], by decide⟩

def interfaceCatalogue : Catalogue := Function.update (fun _ => none) 777 (some ⟨[.named 10 none 2], false⟩)

theorem interfaceMessages_fair :
    ∀ arrival ∈ [Arrival.sent interfaceReport, .other ⟨[1], .obj 2⟩, .sent interfaceTemplate, .sent interfaceReport],
      arrival.OfDomain (.obj 1) 7 ∧ arrival.Conforms interfaceCatalogue := by
  have report : (Arrival.sent interfaceReport).Conforms interfaceCatalogue :=
    List.forall_mem_singleton.mpr ⟨by decide, .named 10 none 2, by simp, by decide⟩
  have announcement : (Arrival.sent interfaceTemplate).Conforms interfaceCatalogue :=
    List.forall_mem_singleton.mpr (List.forall_mem_singleton.mpr (by decide))
  have short : (Arrival.other ⟨[1], .obj 2⟩).OfDomain (.obj 1) 7 := .inl (by decide)
  simp only [List.forall_mem_cons]
  exact ⟨⟨⟨rfl, rfl⟩, report⟩, ⟨short, trivial⟩, ⟨⟨rfl, rfl⟩, announcement⟩, ⟨⟨rfl, rfl⟩, report⟩, by simp⟩

/-- The record overtakes its template, and comes again after it. -/
theorem Decoder.network_only_loses_reordered :
    let before := [Arrival.sent interfaceReport, .other ⟨[1], .obj 2⟩, .sent interfaceTemplate]
    let records := flowsOf (interfaceReport.records interfaceCatalogue)
    let reading : Message := ⟨interfaceReport.header.parsed (.obj 1), records, [], 0, 1⟩
    reading.flows.Sublist records ∧ reading.flows = flowsOf (readAll (catalogueOf before) interfaceReport.sets) := by
  intro before records reading
  obtain ⟨_, same, _, flows, _, whole⟩ := Decoder.network_only_loses true true (.obj 1) 7 interfaceCatalogue _
    interfaceMessages_fair before interfaceReport [] rfl (some reading) (by decide +kernel)
  cases same
  exact ⟨flows, (whole (by decide +kernel)).1⟩

/-! ## Messages that arrive in order -/

namespace SetBody

variable {ipfix : Bool}

/-- The records of a set, decoded. -/
def payload : SetBody ipfix → List Rec
  | .data _ _ _ records _ _ => records.map RecordData.decoded
  | _ => []

/-- The records of a set are laid out by the template last announced for its ID. -/
def Announced (catalogue : Catalogue) : SetBody ipfix → Prop
  | .data id _ layout _ _ _ => (catalogue id.toNat).map Template.fields = some layout ∧ Occupied layout
  | _ => True

end SetBody

def AllAnnounced {ipfix : Bool} (catalogue : Catalogue) : List (WireSet ipfix) → Prop
  | [] => True
  | set :: sets => set.body.Announced catalogue ∧ AllAnnounced (set.body.teach catalogue) sets

def Arrival.Announced (catalogue : Catalogue) : Arrival → Prop
  | .sent message => AllAnnounced catalogue message.sets
  | .other _ => True

/-- A run whose messages are laid out by the templates that arrived before them. -/
def InOrder : Catalogue → List Arrival → Prop
  | _, [] => True
  | catalogue, arrival :: arrivals => arrival.Announced catalogue ∧ InOrder (arrival.teach catalogue) arrivals

theorem InOrder.announced {before : List Arrival} {arrival : Arrival} {after : List Arrival} {catalogue : Catalogue}
    (inOrder : InOrder catalogue (before ++ arrival :: after)) :
    arrival.Announced (before.foldl Arrival.teach catalogue) := by
  induction before generalizing catalogue with
  | nil => exact inOrder.1
  | cons first before inductionHypothesis => exact inductionHypothesis inOrder.2

theorem announced_sets {ipfix : Bool} {catalogue : Catalogue} {sets : List (WireSet ipfix)}
    (announced : AllAnnounced catalogue sets) :
    AllUnderstood catalogue sets ∧ (readAll catalogue sets).map Prod.snd = sets.flatMap fun set => set.body.payload := by
  induction sets generalizing catalogue with
  | nil => exact ⟨trivial, rfl⟩
  | cons set sets inductionHypothesis =>
    obtain ⟨first, rest⟩ := announced
    obtain ⟨understood, read⟩ := inductionHypothesis rest
    obtain ⟨body, fits⟩ := set
    rw [readAll, List.map_append, read, List.flatMap_cons]
    cases body with
    | templates defs padding short => exact ⟨⟨trivial, understood⟩, rfl⟩
    | optionsTemplates defs padding short => exact ⟨⟨trivial, understood⟩, rfl⟩
    | data id isData layout records padding short =>
      obtain ⟨laidOut, occupied⟩ := first
      obtain ⟨template, held, rfl⟩ := Option.map_eq_some_iff.mp laidOut
      refine ⟨⟨⟨fun other same => ?_, occupied⟩, understood⟩, ?_⟩
      · rw [held] at same
        cases same
        rfl
      · simp [SetBody.read, SetBody.payload, held, Function.comp_def]

/-- Messages laid out by the templates announced by then, and delivered in order with anything else between them,
are read in full while no template is evicted: every record of every message, as the kind of its template. -/
theorem Decoder.in_order_reads_all (trackSequence trackSampling : Bool) (exporter : Exporter) (domain : Nat)
    (arrivals : List Arrival) (ofDomain : ∀ arrival ∈ arrivals, arrival.OfDomain exporter domain)
    (inOrder : InOrder (fun _ => none) arrivals)
    (before : List Arrival) (message : Sent) (after : List Arrival) (split : arrivals = before ++ .sent message :: after)
    (kept : (((Decoder.new trackSequence trackSampling).decodeAll (before.map Arrival.datagram)).decodeDatagram
      message.datagram).2.templates.evicted = 0)
    (result : Option Message)
    (answer : (((Decoder.new trackSequence trackSampling).decodeAll (before.map Arrival.datagram)).decodeDatagram
      message.datagram).1 = .ok result) :
    ∃ reading, result = some reading ∧ reading.header = message.header.parsed exporter ∧
      (readAll (catalogueOf before) message.sets).map Prod.snd = (message.sets.flatMap fun set => set.body.payload) ∧
      reading.flows = flowsOf (readAll (catalogueOf before) message.sets) ∧
      reading.options = optionsOf (readAll (catalogueOf before) message.sets) := by
  subst split
  have understood : ∀ first arrival rest, before = first ++ arrival :: rest →
      arrival.Understood (catalogueOf first) := by
    rintro first arrival rest rfl
    rw [List.append_assoc, List.cons_append] at inOrder
    have inPlace := inOrder.announced
    cases arrival with
    | sent message => exact (announced_sets inPlace).1
    | other datagram => trivial
  obtain ⟨understoodNow, entries⟩ := announced_sets inOrder.announced
  obtain ⟨reading, isReading, header, _, _, whole⟩ := decode_heard trackSequence trackSampling
    (fun arrival member => ofDomain arrival (List.mem_append_left _ member)) understood
    (ofDomain (.sent message) (List.mem_append_right _ List.mem_cons_self)) understoodNow answer
  obtain ⟨flows, options⟩ := whole kept
  exact ⟨reading, isReading, header, entries, flows, options⟩

/-- The same ID, now of an options template, and a record laid out by it. -/
def interfaceRedefinition : Sent :=
  ⟨.obj 1, .v9 1 0 4 3 7, [⟨.optionsTemplates [⟨777, [.v9 1 4], [.v9 34 4], by simp⟩] [0] (by decide), by decide⟩,
    ⟨.data 777 (by decide) [.named 1 none 4, .named 34 none 4]
      [.cons ⟨[0, 0, 0, 1], false, by decide⟩ (.cons ⟨[0, 0, 3, 232], false, by decide⟩ .nil)] [0] (by decide),
      by decide⟩], by decide⟩

theorem Decoder.in_order_reads_all_redefinition :
    let before := [Arrival.sent interfaceTemplate, .sent interfaceReport]
    let records := interfaceRedefinition.sets.flatMap fun set => set.body.payload
    let reading : Message := ⟨interfaceRedefinition.header.parsed (.obj 1), [], records, 0, 1000⟩
    (readAll (catalogueOf before) interfaceRedefinition.sets).map Prod.snd = reading.options ∧
      reading.options = optionsOf (readAll (catalogueOf before) interfaceRedefinition.sets) := by
  intro before records reading
  have ofDomain : ∀ arrival ∈ [Arrival.sent interfaceTemplate, .sent interfaceReport, .sent interfaceRedefinition],
      arrival.OfDomain (.obj 1) 7 := by
    simp only [List.forall_mem_cons]
    exact ⟨⟨rfl, rfl⟩, ⟨rfl, rfl⟩, ⟨rfl, rfl⟩, by simp⟩
  have inOrder :
      InOrder (fun _ => none) [.sent interfaceTemplate, .sent interfaceReport, .sent interfaceRedefinition] :=
    ⟨⟨trivial, trivial⟩, ⟨⟨by decide, .named 10 none 2, by simp, by decide⟩, trivial⟩,
      ⟨trivial, ⟨by decide, .named 1 none 4, by simp, by decide⟩, trivial⟩, trivial⟩
  obtain ⟨_, same, _, entries, _, options⟩ := Decoder.in_order_reads_all true true (.obj 1) 7 _ ofDomain inOrder before
    interfaceRedefinition [] rfl (by decide +kernel) (some reading) (by decide +kernel)
  cases same
  exact ⟨entries, options⟩

end Netflume
