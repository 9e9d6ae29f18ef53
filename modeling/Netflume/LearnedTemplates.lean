import Netflume.ParseSimulation
import Netflume.TemplateGrammar

/-! # Only complete templates are learned

What a whole datagram stores: the sets its body is framed into, the templates each
of them declares, and that the parser's calls on the store are exactly these. -/

namespace Netflume

open Library

/-! ## The sets of a body -/

/-- A body as sets one behind another, up to where no more can be framed. -/
inductive Framed : Bytes → List RawSet → Prop where
  | ends {bytes : Bytes} (few : bytes.length < 4) : Framed bytes []
  | unframed (id declared : UInt16) (rest : Bytes) (short : declared.toNat < 4) :
    Framed (toBytes 2 id.toNat ++ (toBytes 2 declared.toNat ++ rest)) []
  | whole (set : FramedSet) {rest : Bytes} {later : List RawSet} (behind : Framed rest later) :
    Framed (set.bytes ++ rest) (set.raw :: later)
  | cut (id declared : UInt16) (content : Bytes) (overruns : 4 + content.length < declared.toNat) :
    Framed (toBytes 2 id.toNat ++ (toBytes 2 declared.toNat ++ content)) [⟨id.toNat, content, true⟩]

theorem framed_exists (bytes : Bytes) : ∃ sets, Framed bytes sets := by
  induction sized : bytes.length using Nat.strongRecOn generalizing bytes with
  | ind size inductionHypothesis =>
    by_cases few : bytes.length < 4
    · exact ⟨[], .ends few⟩
    · obtain ⟨id, declared, rest, rfl⟩ := split_twoWords (Nat.not_lt.mp few)
      rw [List.length_append, List.length_append, length_toBytes, length_toBytes] at sized
      by_cases short : declared.toNat < 4
      · exact ⟨[], .unframed id declared rest short⟩
      · by_cases overruns : 4 + rest.length < declared.toNat
        · exact ⟨_, .cut id declared rest overruns⟩
        · have small := declared.toNat_lt
          have covers : 4 + (rest.take (declared.toNat - 4)).length = declared.toNat := by
            rw [List.length_take]
            omega
          obtain ⟨later, behind⟩ :=
            inductionHypothesis (rest.drop (declared.toNat - 4)).length (by rw [List.length_drop]; omega) _ rfl
          have fits : 4 + (rest.take (declared.toNat - 4)).length < 65536 := by omega
          have encoded : FramedSet.bytes ⟨id, rest.take (declared.toNat - 4), fits⟩ =
              toBytes 2 id.toNat ++ (toBytes 2 declared.toNat ++ rest.take (declared.toNat - 4)) := by
            simp only [FramedSet.bytes, covers]
          have framed := Framed.whole ⟨id, rest.take (declared.toNat - 4), fits⟩ behind
          rw [encoded, List.append_assoc, List.append_assoc, List.take_append_drop] at framed
          exact ⟨_, framed⟩

theorem wireSets_of_framed {bytes : Bytes} {sets : List RawSet} (framed : Framed bytes sets) : wireSets bytes = sets := by
  induction framed with
  | ends few => rw [wireSets, if_pos few]
  | unframed id declared rest short =>
    obtain ⟨_, _, declaredRead, _⟩ := read_twoWords (rfl : toBytes 2 id.toNat ++ (toBytes 2 declared.toNat ++ rest) = _)
    rw [wireSets, declaredRead, if_pos short, ite_self]
  | whole set _ inductionHypothesis => rw [wireSets_framed, inductionHypothesis]
  | cut id declared content overruns =>
    generalize whole : toBytes 2 id.toNat ++ (toBytes 2 declared.toNat ++ content) = bytes
    obtain ⟨length, idRead, declaredRead, behind⟩ := read_twoWords whole
    have all : bytes.take declared.toNat = bytes := List.take_of_length_le (by omega)
    have nothing : bytes.drop declared.toNat = [] := List.drop_eq_nil_of_le (by omega)
    rw [wireSets, declaredRead, idRead, if_neg (by omega), if_neg (by omega), decide_eq_true (by omega), all, nothing,
      behind, wireSets_nil]

/-! ## The templates of a set -/

/-- The ID of the sets that hold templates of a kind. -/
def definingId (ipfix options : Bool) : Nat := if options then optionsSetId ipfix else templateSetId ipfix

/-- The templates a set declares, with their kind.  Sets of other IDs declare none. -/
inductive SetDeclares (ipfix : Bool) : RawSet → List (Declared ipfix × Bool) → Prop where
  | defines {set : RawSet} {templates : List (Declared ipfix)} (options : Bool)
    (kind : set.id = definingId ipfix options) (declares : Declares ipfix options set.content templates) :
    SetDeclares ipfix set (templates.map fun declared => (declared, options))
  | other {set : RawSet} (neither : ∀ options, set.id ≠ definingId ipfix options) : SetDeclares ipfix set []

theorem setDeclares_exists (ipfix : Bool) (set : RawSet) : ∃ learned, SetDeclares ipfix set learned := by
  by_cases defining : ∃ options, set.id = definingId ipfix options
  · obtain ⟨options, kind⟩ := defining
    obtain ⟨templates, declares⟩ := declares_exists ipfix options set.content
    exact ⟨_, .defines options kind declares⟩
  · exact ⟨[], .other (not_exists.mp defining)⟩

theorem allDeclare_exists (ipfix : Bool) (sets : List RawSet) : ∃ learned, List.Forall₂ (SetDeclares ipfix) sets learned := by
  induction sets with
  | nil => exact ⟨[], .nil⟩
  | cons set sets inductionHypothesis =>
    obtain ⟨first, declares⟩ := setDeclares_exists ipfix set
    obtain ⟨later, rest⟩ := inductionHypothesis
    exact ⟨first :: later, .cons declares rest⟩

/-! ## The calls of a parse -/

def StoreCall.isPut : StoreCall → Bool
  | .put .. => true
  | .get .. => false

/-- The call that stores a template. -/
def putCall (exporter : Exporter) (domain : Nat) {ipfix : Bool} (learned : Declared ipfix × Bool) : StoreCall :=
  .put ⟨exporter, domain, learned.1.id.toNat⟩ learned.1.fields learned.2

/-- The templates a sink has been asked to store, in order. -/
def Sink.puts (sink : Sink) : List StoreCall := sink.calls.filter StoreCall.isPut

section Calls

variable (exporter : Exporter) (domain : Nat) {ipfix : Bool}

theorem puts_putAll (options : Bool) (templates : List (Nat × List Field)) (sink : Sink) :
    (putAll exporter domain options sink templates).puts =
      sink.puts ++ templates.map fun template => .put ⟨exporter, domain, template.1⟩ template.2 options := by
  induction templates generalizing sink with
  | nil => simp [putAll]
  | cons template templates inductionHypothesis =>
    have first : (sink.put ⟨exporter, domain, template.1⟩ template.2 options).puts =
        sink.puts ++ [.put ⟨exporter, domain, template.1⟩ template.2 options] := by
      simp [Sink.puts, Sink.put, StoreCall.isPut]
    have later := inductionHypothesis (sink.put ⟨exporter, domain, template.1⟩ template.2 options)
    rw [first, List.append_assoc] at later
    exact later

theorem puts_appendAll (isOptions : Bool) (records : List Rec) (sink : Sink) :
    (appendAll isOptions sink records).puts = sink.puts := by
  induction records generalizing sink with
  | nil => rfl
  | cons rec records inductionHypothesis =>
    have same : (sink.append isOptions rec).puts = sink.puts := by cases isOptions <;> rfl
    exact (inductionHypothesis (sink.append isOptions rec)).trans same

/-- A data set asks the store for its template, and stores nothing. -/
theorem puts_dataSet (content : Bytes) (key : TemplateKey) (sink : Sink) :
    (applyData ipfix content (sink.get key).1 (sink.get key).2).puts = sink.puts := by
  have got : (sink.get key).2.puts = sink.puts := by
    simp [Sink.puts, Sink.get, StoreCall.isPut]
  rw [applyData]
  split
  · exact got
  · exact got
  · exact (puts_appendAll _ _ _).trans got

/-- A set that defines templates has them stored. -/
theorem applyContent_defining {setId : Nat} (options : Bool) (kind : setId = definingId ipfix options) (content : Bytes)
    (sink : Sink) :
    applyContent exporter domain ipfix setId content sink =
      putAll exporter domain options sink (wireDeclared ipfix options content) := by
  subst kind
  cases options with
  | false => exact if_pos rfl
  | true =>
    have notTemplates : optionsSetId ipfix ≠ templateSetId ipfix := by cases ipfix <;> decide
    exact (if_neg notTemplates).trans (if_pos rfl)

theorem puts_applySet {set : RawSet} {learned : List (Declared ipfix × Bool)} (declares : SetDeclares ipfix set learned)
    (sink : Sink) :
    (applySet exporter domain ipfix sink set).puts = sink.puts ++ learned.map (putCall exporter domain) := by
  have marked : (if set.cut then sink.markTruncated else sink).puts = sink.puts := by
    split <;> rfl
  rw [applySet, ← marked]
  generalize (if set.cut then sink.markTruncated else sink) = before
  cases declares with
  | @defines templates options kind declares =>
    have stored := puts_putAll exporter domain options (wireDeclared ipfix options set.content) before
    rw [applyContent_defining exporter domain options kind, stored, wireDeclared_of_declares declares, List.map_map,
      List.map_map]
    rfl
  | other neither =>
    have notTemplates : set.id ≠ templateSetId ipfix := neither false
    have notOptions : set.id ≠ optionsSetId ipfix := neither true
    rw [applyContent, if_neg notTemplates, if_neg notOptions, List.map_nil, List.append_nil]
    split
    · exact puts_dataSet _ _ _
    · rfl

theorem puts_applySets {sets : List RawSet} {learned : List (List (Declared ipfix × Bool))}
    (declare : List.Forall₂ (SetDeclares ipfix) sets learned) (sink : Sink) :
    (sets.foldl (applySet exporter domain ipfix) sink).puts =
      sink.puts ++ learned.flatten.map (putCall exporter domain) := by
  induction declare generalizing sink with
  | nil => simp
  | cons first _ inductionHypothesis =>
    rw [List.foldl_cons, inductionHypothesis, puts_applySet exporter domain first, List.flatten_cons, List.map_append,
      List.append_assoc]

theorem puts_finishMessage (header : Header) {body : Bytes} {sets : List RawSet}
    {learned : List (List (Declared ipfix × Bool))} (framed : Framed body sets)
    (declare : List.Forall₂ (SetDeclares ipfix) sets learned) (sink : Sink) :
    (finishMessage header ipfix body sink).2.puts =
      sink.puts ++ learned.flatten.map (putCall header.exporter header.domain) := by
  have closed : ∀ after : Sink, after.close.puts = after.puts := by
    intro after
    rw [Sink.close]
    split <;> rfl
  rw [finishMessage, closed, applyBody, wireSets_of_framed framed]
  exact puts_applySets header.exporter header.domain declare sink

end Calls

/-! ## The learned templates of a datagram -/

/-- The bytes of a datagram that hold its sets. -/
def messageBody (data : Bytes) : Bytes :=
  if num data 0 2 = 10 then slice data ipfixHeaderSize (ipfixEnd data) else slice data v9HeaderSize data.length

/-- The calls of a message are those of the templates its sets declare. -/
theorem puts_applyMessage {data : Bytes} {exporter : Exporter} {header : Header} {ipfix : Bool}
    (version : decide (num data 0 2 = 10) = ipfix) (read : messageHeader data exporter = some header)
    {sets : List RawSet} {learned : List (List (Declared ipfix × Bool))} (framed : Framed (messageBody data) sets)
    (declare : List.Forall₂ (SetDeclares ipfix) sets learned) (sink : Sink) :
    (applyMessage data exporter sink).2.puts = sink.puts ++ learned.flatten.map (putCall exporter header.domain) := by
  rw [messageHeader] at read
  rw [messageBody] at framed
  split at read
  · cases read
  · split at read
    · rename_i isIpfix
      rw [if_pos isIpfix] at framed
      rw [decide_eq_true isIpfix] at version
      subst version
      split at read
      · cases read
      · rename_i long
        cases read
        have marked : (if num data 2 2 > data.length then sink.markTruncated else sink).puts = sink.puts := by
          split <;> rfl
        rw [applyMessage_of_ipfix isIpfix (Nat.not_lt.mp long), puts_finishMessage _ framed declare, marked]
        rfl
    · rename_i notIpfix
      rw [if_neg notIpfix] at framed
      rw [decide_eq_false notIpfix] at version
      subst version
      split at read
      · cases read
      · rename_i long
        cases read
        rw [applyMessage_of_v9 notIpfix (Nat.not_lt.mp long), puts_finishMessage _ framed declare]
        rfl

/-- A template declared in a content lies there as a complete record. -/
theorem Declares.record {ipfix options : Bool} {content : Bytes} {templates : List (Declared ipfix)}
    (declares : Declares ipfix options content templates) {declared : Declared ipfix} (member : declared ∈ templates) :
    ∃ before record after, content = before ++ record ++ after ∧ CompleteRecord ipfix options declared record := by
  induction declares with
  | @complete first record rest later complete _ inductionHypothesis =>
    rcases List.mem_cons.mp member with rfl | later
    · exact ⟨[], record, rest, rfl, complete⟩
    · obtain ⟨before, other, after, rfl, found⟩ := inductionHypothesis later
      exact ⟨record ++ before, other, after, by simp only [List.append_assoc], found⟩
  | @skipped record rest later _ _ inductionHypothesis =>
    obtain ⟨before, other, after, rfl, found⟩ := inductionHypothesis member
    exact ⟨record ++ before, other, after, by simp only [List.append_assoc], found⟩
  | ends _ => cases member

theorem CompleteRecord.nonempty {ipfix options : Bool} {declared : Declared ipfix} {record : Bytes}
    (complete : CompleteRecord ipfix options declared record) : declared.specs ≠ [] := by
  cases complete <;> assumption

/-- Every template of a framed body lies in one of its sets, of the kind that defines it. -/
theorem declared_in_set {ipfix : Bool} {sets : List RawSet} {learned : List (List (Declared ipfix × Bool))}
    (declare : List.Forall₂ (SetDeclares ipfix) sets learned) {declared : Declared ipfix} {options : Bool}
    (member : (declared, options) ∈ learned.flatten) :
    ∃ set ∈ sets, set.id = definingId ipfix options ∧ ∃ before record after,
      set.content = before ++ record ++ after ∧ CompleteRecord ipfix options declared record := by
  induction declare with
  | nil => cases member
  | @cons set first sets later declares _ inductionHypothesis =>
    rcases List.mem_append.mp (List.flatten_cons ▸ member) with own | other
    · cases declares with
      | defines kindOf kind declares =>
        obtain ⟨found, isMember, same⟩ := List.mem_map.mp own
        cases same
        exact ⟨set, List.mem_cons_self, kind, declares.record isMember⟩
      | other neither => cases own
    · obtain ⟨set, isSet, rest⟩ := inductionHypothesis other
      exact ⟨set, List.mem_cons_of_mem _ isSet, rest⟩

/-- A template stored is one that a set declares. -/
theorem declared_of_put {ipfix : Bool} {exporter : Exporter} {domain : Nat} {sets : List RawSet}
    {learned : List (List (Declared ipfix × Bool))} (declare : List.Forall₂ (SetDeclares ipfix) sets learned)
    {key : TemplateKey} {fields : List Field} {options : Bool}
    (stored : StoreCall.put key fields options ∈ learned.flatten.map (putCall exporter domain)) :
    ∃ set ∈ sets, set.id = definingId ipfix options ∧ ∃ (declared : Declared ipfix) (before record after : Bytes),
      set.content = before ++ record ++ after ∧ CompleteRecord ipfix options declared record ∧
        key = ⟨exporter, domain, declared.id.toNat⟩ ∧ fields = declared.specs.map FieldSpec.field := by
  obtain ⟨⟨declared, kind⟩, declares, same⟩ := List.mem_map.mp stored
  cases same
  obtain ⟨set, isSet, idMatches, before, record, after, inside, complete⟩ := declared_in_set declare declares
  exact ⟨set, isSet, idMatches, declared, before, record, after, inside, complete, rfl, rfl⟩

/-- What a parse stores: for every reading of its body as sets and of each set as records, of which there is one,
the complete templates in order, each from a record wholly inside a set of its kind. -/
theorem only_complete_templates_learned (data : Bytes) (exporter : Exporter) (store : TemplateStore) (stats : Stats) :
    let run := runV9OrIpfix data exporter store stats
    let ipfix := decide (num data 0 2 = 10)
    ∃ parsed, run.outcome = .ok parsed ∧ (parsed.header = none → run.calls.filter StoreCall.isPut = []) ∧
      ∀ header, parsed.header = some header →
        (∃ sets learned, Framed (messageBody data) sets ∧ List.Forall₂ (SetDeclares ipfix) sets learned) ∧
        ∀ sets learned, Framed (messageBody data) sets → List.Forall₂ (SetDeclares ipfix) sets learned →
          run.calls.filter StoreCall.isPut = learned.flatten.map (putCall exporter header.domain) ∧
          ∀ key fields options, StoreCall.put key fields options ∈ run.calls →
            ∃ set ∈ sets, set.id = definingId ipfix options ∧
              ∃ (declared : Declared ipfix) (before record after : Bytes),
                set.content = before ++ record ++ after ∧ CompleteRecord ipfix options declared record ∧
                key = ⟨exporter, header.domain, declared.id.toNat⟩ ∧
                fields = declared.specs.map FieldSpec.field ∧ fields ≠ [] := by
  intro run ipfix
  obtain ⟨reads, _, ran⟩ := runV9OrIpfix_spec data exporter store stats
  rw [show run = _ from ran]
  refine ⟨_, rfl, ?_⟩
  have empty : Sink.puts { store, stats } = [] := rfl
  cases read : messageHeader data exporter with
  | none =>
    rw [applyMessage_headerless read]
    exact ⟨fun _ => rfl, by simp⟩
  | some known =>
    have headed := congrArg Parsed.header (applyMessage_parsed read { store, stats })
    rw [headed]
    refine ⟨by simp, fun header found => ?_⟩
    cases found
    obtain ⟨sets, framed⟩ := framed_exists (messageBody data)
    obtain ⟨learned, declare⟩ := allDeclare_exists ipfix sets
    refine ⟨⟨sets, learned, framed, declare⟩, fun sets learned framed declare => ?_⟩
    have stored := puts_applyMessage rfl read framed declare { store, stats }
    rw [empty, List.nil_append] at stored
    refine ⟨stored, fun key fields options member => ?_⟩
    have isPut : StoreCall.put key fields options ∈ (applyMessage data exporter { store, stats }).2.puts :=
      List.mem_filter.mpr ⟨member, rfl⟩
    rw [stored] at isPut
    obtain ⟨set, isSet, idMatches, declared, before, record, after, inside, complete, rfl, rfl⟩ :=
      declared_of_put declare isPut
    refine ⟨set, isSet, idMatches, declared, before, record, after, inside, complete, rfl, rfl, ?_⟩
    exact fun none => complete.nonempty (List.map_eq_nil_iff.mp none)

end Netflume
