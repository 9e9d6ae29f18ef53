import Netflume.Library.Memo
import Netflume.PlainData

/-! # Naming field values

`service_name` and `addr_kind`, which remember their answers in tables of the module,
and the properties of a flow that ask them.  The services database, and what
`ipaddress` has to say about an address it has read, are parameters. -/

namespace Netflume

open Library

def ephemeralFloor : Nat := 49152

def maxServiceCache : Nat := 100000

/-- The ceiling written out in `addr_kind`. -/
def maxAddrKindCache : Nat := 100000

/-- `ADDR_KINDS`. -/
inductive AddrKind where
  | privateUse | publicUse | multicast | special | unknown
  deriving DecidableEq, Repr

/-- The properties of an `ipaddress` object that `addr_kind` asks for. -/
structure AddressTraits where
  isMulticast : Bool
  isLoopback : Bool
  isLinkLocal : Bool
  isReserved : Bool
  isUnspecified : Bool
  isPrivate : Bool

/-- `ipaddress.ip_address(addr)`: text is parsed, and an integer is the number of an address. -/
def Value.ipAddress : Value → Option (Kind × Nat)
  | .str text => Netflume.ipAddress text
  | .int number =>
    if number < 2 ^ 32 then some (.ipv4, number)
    else if number < 2 ^ 128 then some (.ipv6, number)
    else none
  | .float _ => none

/-- The key a dict holds a value under: a float that is a whole number shares the integer's. -/
def Value.key (round : Rat → Rat) : Value → Value
  | .float number =>
    if (round number).den = 1 ∧ 0 ≤ round number then .int (round number).num.toNat else .float (round number)
  | value => value

/-- `_service_cache` and `_addr_kind_cache`. -/
structure Tables where
  services : OrderedDict (Value × Option Value) (Option String)
  kinds : OrderedDict Value AddrKind

def Tables.empty : Tables := ⟨.empty, .empty⟩

section Questions

variable (round : Rat → Rat) (services : Nat → String → Option String) (traits : Kind × Nat → AddressTraits)

/-! ## The answers -/

/-- The protocols that have services. -/
def protoStr (proto : Option Value) : Option String :=
  match proto.map (Value.key round) with
  | some (.int 6) => some "tcp"
  | some (.int 17) => some "udp"
  | _ => none

/-- The port `service_name` looks up, unless it is one it never names. -/
def servicePort : Option Value → Except PyError (Option Value)
  | none => .ok none
  | some (.int port) => .ok (if port = 0 ∨ ephemeralFloor ≤ port then none else some (.int port))
  | some (.float port) =>
    .ok (if round port = 0 ∨ (ephemeralFloor : Rat) ≤ round port then none else some (.float port))
  | some (.str _) => .error (notComparable ">=" "str" "int")

/-- The name of a port and a protocol: `None` for a protocol without services, and where the database has none. -/
def lookUpService (pair : Value × Option Value) : Except PyError (Option String) :=
  match protoStr round pair.2, pair.1 with
  | none, _ => .ok none
  | some proto, .int port => .ok (services port proto)
  | some _, port => .error ⟨"TypeError", "'" ++ port.typeName ++ "' object cannot be interpreted as an integer"⟩

/-- `key`, the pair as a dict holds it. -/
def pairKey (pair : Value × Option Value) : Value × Option Value := (pair.1.key round, pair.2.map (Value.key round))

/-- What an address is. -/
def classify (addr : Value) : AddrKind :=
  match addr.ipAddress with
  | none => .unknown
  | some address =>
    let ip := traits address
    if ip.isMulticast then .multicast
    else if ip.isLoopback || ip.isLinkLocal || ip.isReserved || ip.isUnspecified then .special
    else if ip.isPrivate then .privateUse
    else .publicUse

/-- `service_name`. -/
def serviceName (tables : Tables) (port proto : Option Value) : Except PyError (Option String) × Tables :=
  match servicePort round port with
  | .error error => (.error error, tables)
  | .ok none => (.ok none, tables)
  | .ok (some port) =>
    let (name, held) :=
      Memo.fetch maxServiceCache (pairKey round) (lookUpService round services) tables.services (port, proto)
    (name, { tables with services := held })

/-- `addr_kind`. -/
def addrKind (tables : Tables) (addr : Value) : AddrKind × Tables :=
  let (kind, held) :=
    Memo.fetch maxAddrKindCache (Value.key round) (fun addr => .ok (classify traits addr)) tables.kinds addr
  (Memo.sure kind, { tables with kinds := held })

namespace Flow

/-- `service`. -/
def service (flow : Flow) (tables : Tables) : Except PyError (Option String) × Tables :=
  serviceName round services tables flow.dstPort flow.proto

/-- The kind of one end of a flow: an end that is not there, or is empty, is not asked about. -/
def endKind (tables : Tables) : Option Value → AddrKind × Tables
  | none => (.unknown, tables)
  | some addr => if addr.truthy then addrKind round traits tables addr else (.unknown, tables)

/-- `src_kind`. -/
def srcKind (flow : Flow) (tables : Tables) : AddrKind × Tables := endKind round traits tables flow.srcAddr

/-- `dst_kind`. -/
def dstKind (flow : Flow) (tables : Tables) : AddrKind × Tables := endKind round traits tables flow.dstAddr

/-- `is_external`. -/
def isExternal (flow : Flow) (tables : Tables) : Bool × Tables :=
  let (src, tables) := flow.srcKind round traits tables
  let (dst, tables) := flow.dstKind round traits tables
  (decide (.privateUse ∈ [src, dst] ∧ .publicUse ∈ [src, dst]), tables)

end Flow

/-! ## Asking -/

inductive Question where
  | serviceName (port proto : Option Value)
  | addrKind (addr : Value)
  | service (flow : Flow)
  | srcKind (flow : Flow)
  | dstKind (flow : Flow)
  | isExternal (flow : Flow)

/-- The values a question is about. -/
def Question.values : Question → List Value
  | .serviceName port proto => port.toList ++ proto.toList
  | .addrKind addr => [addr]
  | .service flow => flow.dstPort.toList ++ flow.proto.toList
  | .srcKind flow => flow.srcAddr.toList
  | .dstKind flow => flow.dstAddr.toList
  | .isExternal flow => flow.srcAddr.toList ++ flow.dstAddr.toList

inductive Reply where
  | name (name : Option String)
  | kind (kind : AddrKind)
  | external (external : Bool)
  deriving DecidableEq

/-- One question put to the tables. -/
def Tables.ask (tables : Tables) : Question → Except PyError Reply × Tables
  | .serviceName port proto =>
    let (name, tables) := serviceName round services tables port proto
    (name.map .name, tables)
  | .addrKind addr =>
    let (kind, tables) := addrKind round traits tables addr
    (.ok (.kind kind), tables)
  | .service flow =>
    let (name, tables) := flow.service round services tables
    (name.map .name, tables)
  | .srcKind flow =>
    let (kind, tables) := flow.srcKind round traits tables
    (.ok (.kind kind), tables)
  | .dstKind flow =>
    let (kind, tables) := flow.dstKind round traits tables
    (.ok (.kind kind), tables)
  | .isExternal flow =>
    let (external, tables) := flow.isExternal round traits tables
    (.ok (.external external), tables)

/-! ## Answering without tables -/

/-- The name of a port, were nothing remembered. -/
def plainName (port proto : Option Value) : Except PyError (Option String) := do
  match ← servicePort round port with
  | none => pure none
  | some port => lookUpService round services (port, proto)

/-- The kind of an end, were nothing remembered. -/
def plainKind : Option Value → AddrKind
  | none => .unknown
  | some addr => if addr.truthy then classify traits addr else .unknown

/-- The answer to a question, were nothing remembered. -/
def answer : Question → Except PyError Reply
  | .serviceName port proto => (plainName round services port proto).map .name
  | .addrKind addr => .ok (.kind (classify traits addr))
  | .service flow => (plainName round services flow.dstPort flow.proto).map .name
  | .srcKind flow => .ok (.kind (plainKind traits flow.srcAddr))
  | .dstKind flow => .ok (.kind (plainKind traits flow.dstAddr))
  | .isExternal flow =>
    let kinds := [plainKind traits flow.srcAddr, plainKind traits flow.dstAddr]
    .ok (.external (decide (.privateUse ∈ kinds ∧ .publicUse ∈ kinds)))

/-- Text or an integer. -/
def Value.Exact (value : Value) : Prop := ∀ number, value ≠ .float number

/-- No two values asked about are equal without being the same, as 5 and 5.0 are. -/
def Apart (asked : Value → Prop) : Prop :=
  ∀ first second, asked first → asked second → first.key round = second.key round → first = second

/-- A pair of values asked about. -/
def AskedPair (asked : Value → Prop) (pair : Value × Option Value) : Prop :=
  asked pair.1 ∧ ∀ proto ∈ pair.2, asked proto

/-- What both tables remember is right about the values asked about. -/
structure Tables.Faithful (asked : Value → Prop) (tables : Tables) : Prop where
  services : Memo.Faithful (pairKey round) (lookUpService round services) (AskedPair asked) tables.services
  kinds : @Memo.Faithful Value Value AddrKind Empty _ (Value.key round) (fun addr => .ok (classify traits addr)) asked
    tables.kinds

variable {round services traits} {asked : Value → Prop} {tables : Tables}

/-- Text and integers are equal only when they are the same. -/
theorem apart_of_exact (exact : ∀ value, asked value → value.Exact) : Apart round asked := by
  intro first second isFirst isSecond same
  cases first with
  | float number => exact absurd rfl (exact _ isFirst number)
  | int number =>
    cases second with
    | float other => exact absurd rfl (exact _ isSecond other)
    | int other | str other => exact same
  | str text =>
    cases second with
    | float other => exact absurd rfl (exact _ isSecond other)
    | int other | str other => exact same

theorem Apart.pair (apart : Apart round asked) {first second : Value × Option Value} (isFirst : AskedPair asked first)
    (isSecond : AskedPair asked second) (same : pairKey round first = pairKey round second) : first = second := by
  obtain ⟨port, proto⟩ := first
  obtain ⟨otherPort, otherProto⟩ := second
  obtain ⟨samePort, sameProto⟩ := Prod.mk.inj same
  have ports : port = otherPort := apart _ _ isFirst.1 isSecond.1 samePort
  have protos : proto = otherProto := by
    cases proto <;> cases otherProto <;> simp only [Option.map_none, Option.map_some, reduceCtorEq] at sameProto
    · rfl
    · rw [apart _ _ (isFirst.2 _ rfl) (isSecond.2 _ rfl) (Option.some.inj sameProto)]
  rw [ports, protos]

namespace Tables.Faithful

theorem serviceName (faithful : tables.Faithful round services traits asked) (apart : Apart round asked)
    {port proto : Option Value} (isAsked : ∀ value ∈ port.toList ++ proto.toList, asked value) :
    (serviceName round services tables port proto).1 = plainName round services port proto ∧
      (serviceName round services tables port proto).2.Faithful round services traits asked := by
  rw [Netflume.serviceName, plainName]
  cases isPort : servicePort round port with
  | error error => exact ⟨rfl, faithful⟩
  | ok looked =>
    cases looked with
    | none => exact ⟨rfl, faithful⟩
    | some looked =>
      have same : port = some looked := by
        cases port with
        | none => cases isPort
        | some value =>
          cases value <;> simp only [servicePort, Except.ok.injEq, reduceCtorEq] at isPort <;> split at isPort <;>
            simp_all
      subst same
      have pair : AskedPair asked (looked, proto) := by
        refine ⟨isAsked looked (by simp), fun value held => isAsked value ?_⟩
        rw [Option.mem_def.mp (show value ∈ proto from held)]
        simp
      obtain ⟨right, kept⟩ := @Memo.Faithful.fetch _ _ _ _ _ maxServiceCache _ _ _ (looked, proto) _ faithful.services
        (fun first second isFirst isSecond same => by rw [apart.pair isFirst isSecond same]) pair
      exact ⟨right, kept, faithful.kinds⟩

theorem addrKind (faithful : tables.Faithful round services traits asked) (apart : Apart round asked) {addr : Value}
    (isAsked : asked addr) :
    (addrKind round traits tables addr).1 = classify traits addr ∧
      (addrKind round traits tables addr).2.Faithful round services traits asked := by
  obtain ⟨right, kept⟩ := @Memo.Faithful.fetch _ _ _ _ _ maxAddrKindCache _ _ _ addr _ faithful.kinds
    (fun first second isFirst isSecond same => by rw [apart _ _ isFirst isSecond same]) isAsked
  exact ⟨congrArg Memo.sure right, faithful.services, kept⟩

theorem endKind (faithful : tables.Faithful round services traits asked) (apart : Apart round asked)
    {addr : Option Value} (isAsked : ∀ value ∈ addr.toList, asked value) :
    (Flow.endKind round traits tables addr).1 = plainKind traits addr ∧
      (Flow.endKind round traits tables addr).2.Faithful round services traits asked := by
  cases addr with
  | none => exact ⟨rfl, faithful⟩
  | some addr =>
    by_cases there : addr.truthy
    · simpa [Flow.endKind, plainKind, there] using faithful.addrKind apart (isAsked addr (by simp))
    · simpa [Flow.endKind, plainKind, there] using faithful

/-- A question about these values is answered as if nothing were remembered. -/
theorem ask (faithful : tables.Faithful round services traits asked) (apart : Apart round asked) {question : Question}
    (isAsked : ∀ value ∈ question.values, asked value) :
    (tables.ask round services traits question).1 = answer round services traits question ∧
      (tables.ask round services traits question).2.Faithful round services traits asked := by
  cases question with
  | serviceName port proto =>
    obtain ⟨right, kept⟩ := faithful.serviceName apart isAsked
    exact ⟨congrArg (Except.map Reply.name) right, kept⟩
  | addrKind addr =>
    obtain ⟨right, kept⟩ := faithful.addrKind apart (isAsked addr List.mem_cons_self)
    exact ⟨by simp only [Tables.ask, answer, right], kept⟩
  | service flow =>
    obtain ⟨right, kept⟩ := faithful.serviceName apart isAsked
    exact ⟨congrArg (Except.map Reply.name) right, kept⟩
  | srcKind flow =>
    obtain ⟨right, kept⟩ := faithful.endKind apart isAsked
    exact ⟨by simp only [Tables.ask, answer, Flow.srcKind, right], kept⟩
  | dstKind flow =>
    obtain ⟨right, kept⟩ := faithful.endKind apart isAsked
    exact ⟨by simp only [Tables.ask, answer, Flow.dstKind, right], kept⟩
  | isExternal flow =>
    obtain ⟨right, between⟩ := faithful.endKind apart fun value member => isAsked value (List.mem_append_left _ member)
    obtain ⟨rightToo, kept⟩ := between.endKind apart fun value member => isAsked value (List.mem_append_right _ member)
    refine ⟨?_, kept⟩
    simp only [Tables.ask, answer, Flow.isExternal, Flow.srcKind, Flow.dstKind, right, rightToo]

/-- A session about these values is answered as if nothing were remembered. -/
theorem session (apart : Apart round asked) {questions : List Question}
    (isAsked : ∀ question ∈ questions, ∀ value ∈ question.values, asked value) :
    outputs (Tables.ask round services traits) .empty questions = questions.map (answer round services traits) ∧
      (stateAfter (Tables.ask round services traits) .empty questions).Faithful round services traits asked := by
  induction questions using List.reverseRecOn with
  | nil => exact ⟨rfl, Memo.faithful_empty, Memo.faithful_empty⟩
  | append_singleton questions question inductionHypothesis =>
    obtain ⟨answers, faithful⟩ :=
      inductionHypothesis fun other member => isAsked other (List.mem_append_left _ member)
    obtain ⟨right, kept⟩ := @ask round services traits _ _ faithful apart question
      (isAsked question (List.mem_append_right _ List.mem_cons_self))
    rw [outputs_snoc, stateAfter_snoc, List.map_append, answers, right]
    exact ⟨rfl, kept⟩

end Tables.Faithful

end Questions

/-! ## What the database is asked -/

section Consulting

variable (round : Rat → Rat) (services : Nat → String → Option String) (traits : Kind × Nat → AddressTraits)

/-- The pair `service_name` looks up in its table. -/
def lookedUp (port proto : Option Value) : Option (Value × Option Value) :=
  match servicePort round port with
  | .ok (some port) => some (port, proto)
  | .ok none | .error _ => none

/-- The pair a question makes `service_name` look up. -/
def Question.pair : Question → Option (Value × Option Value)
  | .serviceName port proto => lookedUp round port proto
  | .service flow => lookedUp round flow.dstPort flow.proto
  | .addrKind _ | .srcKind _ | .dstKind _ | .isExternal _ => none

end Consulting

/-- A float shares the entry of the integer it equals, and so its answer. -/
example :
    outputs (Tables.ask id (fun _ _ => none) fun _ => ⟨false, false, false, false, false, true⟩) .empty
      [.addrKind (.int 5), .addrKind (.float 5)] = [.ok (.kind .privateUse), .ok (.kind .privateUse)] := by
  decide +kernel

/-! ## Flows a consumer can come by -/

/-- A number, as a decoded flow has it, is an integer. -/
theorem numeric_of_sourced {rec : Rec} (sourced : rec.Sourced) {entry : Nat × String × Kind} (listed : entry ∈ ieTable)
    (numeric : entry.2.2 = .uint) {value : Value} (held : rec.get? entry.2.1 = some value) :
    ∃ number, value = .int number := by
  have promised := (sourced _ value held).promises listed rfl
  rw [numeric] at promised
  exact promised

/-- An integer port raises nothing, whatever the protocol. -/
theorem plainName_ok (round : Rat → Rat) (services : Nat → String → Option String) {port : Option Value}
    (integer : ∀ value ∈ port, ∃ number, value = .int number) (proto : Option Value) :
    ∃ name, plainName round services port proto = .ok name := by
  cases port with
  | none => exact ⟨none, rfl⟩
  | some value =>
    obtain ⟨number, rfl⟩ := integer value rfl
    rw [plainName, servicePort]
    by_cases unnamed : number = 0 ∨ ephemeralFloor ≤ number
    · rw [if_pos unnamed]
      exact ⟨none, rfl⟩
    · rw [if_neg unnamed]
      show ∃ name, lookUpService round services (.int number, proto) = .ok name
      rw [lookUpService]
      cases protoStr round proto with
      | none => exact ⟨none, rfl⟩
      | some proto => exact ⟨_, rfl⟩

/-- An end of a flow is a readable address, or bare. -/
theorem endpoint_promises {rec : Rec} (sourced : rec.Sourced) {addr : Value}
    (isEnd : some addr ∈ [(flowEndpoints rec).1, (flowEndpoints rec).2]) : Kind.ipv4.Promises addr := by
  have promised {element : Nat} {name : String} (listed : (element, name, Kind.ipv4) ∈ ieTable)
      (held : rec.get? name = some addr) : Kind.ipv4.Promises addr :=
    (sourced name addr held).promises listed rfl
  have either {first second : String} (own : some addr = (rec.getTruthy first).or (rec.get? second)) :
      rec.get? first = some addr ∨ rec.get? second = some addr := by
    obtain found | ⟨_, found⟩ := Option.or_eq_some_iff.mp own.symm
    · exact .inl (Option.filter_eq_some_iff.mp found).1
    · exact .inr found
  simp only [List.mem_cons, List.not_mem_nil, or_false, flowEndpoints] at isEnd
  obtain own | own := isEnd
  · obtain found | found := either own
    · exact @promised 8 _ (by decide +kernel) found
    · exact @promised 225 _ (by decide +kernel) found
  · obtain found | found := either own
    · exact @promised 12 _ (by decide +kernel) found
    · exact @promised 226 _ (by decide +kernel) found

/-- A value that is read as an address is of some kind. -/
theorem classify_eq_unknown_iff (traits : Kind × Nat → AddressTraits) (addr : Value) :
    classify traits addr = .unknown ↔ addr.ipAddress = none := by
  rw [classify]
  cases addr.ipAddress with
  | none => simp
  | some address =>
    simp only [reduceCtorEq, iff_false]
    split
    · simp
    · split
      · simp
      · split <;> simp

/-- What no kind is found for: an end that is not there, the number zero, or the hex digits of a field too wide. -/
theorem plainKind_eq_unknown_iff (traits : Kind × Nat → AddressTraits) {addr : Value}
    (promised : Kind.ipv4.Promises addr) :
    plainKind traits (some addr) = .unknown ↔
      addr = .int 0 ∨ ∃ text, addr = .str text ∧ (Value.str text).Bare := by
  rw [plainKind]
  cases addr with
  | float _ => obtain ⟨_, _, isText, _⟩ | bare := promised <;> contradiction
  | int number =>
    have small : number < 2 ^ 64 := by
      obtain ⟨_, _, isText, _⟩ | bare := promised
      · cases isText
      · exact bare
    have read : (Value.int number).ipAddress ≠ none := by
      rw [Value.ipAddress]
      split
      · simp
      · rw [if_pos (by omega)]
        simp
    by_cases zero : number = 0
    · simp [zero, Value.truthy]
    · simpa [zero, Value.truthy, classify_eq_unknown_iff] using read
  | str text =>
    by_cases empty : text = ""
    · subst empty
      have bare : (Value.str "").Bare := by simp [Value.Bare]
      simp [Value.truthy, bare]
    · obtain ⟨_, address, isText, read⟩ | bare := promised
      · cases isText
        have legible : ¬ (Value.str text).Bare := fun bare => by simp [ipAddress_bare bare] at read
        simp [Value.truthy, empty, classify_eq_unknown_iff, Value.ipAddress, read, legible]
      · simp [Value.truthy, empty, classify_eq_unknown_iff, Value.ipAddress, ipAddress_bare bare, bare]

theorem exact_of_promises {value : Value} (promised : Kind.ipv4.Promises value) : value.Exact := by
  rintro number rfl
  obtain ⟨_, _, isText, _⟩ | bare := promised
  · cases isText
  · exact bare

namespace Flow.Decoded

variable {round : Rat → Rat} {flow : Flow}

theorem dstPort_integer (decoded : flow.Decoded round) :
    ∀ value ∈ flow.dstPort, ∃ number, value = .int number := by
  obtain ⟨_, ports, _, _⟩ := decoded.readOff
  simp only [Prod.mk.injEq] at ports
  rw [ports.2.1]
  intro value held
  exact @numeric_of_sourced _ decoded.sourced (11, "dst_port", .uint) (by decide +kernel) rfl value held

theorem proto_integer (decoded : flow.Decoded round) :
    ∀ value ∈ flow.proto, ∃ number, value = .int number := by
  obtain ⟨_, ports, _, _⟩ := decoded.readOff
  simp only [Prod.mk.injEq] at ports
  rw [ports.2.2]
  intro value held
  exact @numeric_of_sourced _ decoded.sourced (4, "proto", .uint) (by decide +kernel) rfl value held

theorem end_promises (decoded : flow.Decoded round) {addr : Value}
    (isEnd : some addr ∈ [flow.srcAddr, flow.dstAddr]) : Kind.ipv4.Promises addr := by
  obtain ⟨ends, _, _, _⟩ := decoded.readOff
  have src : flow.srcAddr = (flowEndpoints flow.raw).1 := congrArg Prod.fst ends
  have dst : flow.dstAddr = (flowEndpoints flow.raw).2 := congrArg Prod.snd ends
  rw [src, dst] at isEnd
  exact endpoint_promises decoded.sourced isEnd

/-- What a decoded flow is asked about is text or an integer. -/
theorem exact_values (decoded : flow.Decoded round) {question : Question}
    (own : question ∈ [Question.service flow, .srcKind flow, .dstKind flow, .isExternal flow]) {value : Value}
    (isAsked : value ∈ question.values) : value.Exact := by
  have integer (number : Nat) : (Value.int number).Exact := nofun
  have port (held : value ∈ flow.dstPort) : value.Exact := by
    obtain ⟨number, rfl⟩ := decoded.dstPort_integer value held
    exact integer number
  have proto (held : value ∈ flow.proto) : value.Exact := by
    obtain ⟨number, rfl⟩ := decoded.proto_integer value held
    exact integer number
  have src (held : value ∈ flow.srcAddr) : value.Exact :=
    exact_of_promises (decoded.end_promises (by simp [Option.mem_def.mp held]))
  have dst (held : value ∈ flow.dstAddr) : value.Exact :=
    exact_of_promises (decoded.end_promises (by simp [Option.mem_def.mp held]))
  simp only [List.mem_cons, List.not_mem_nil, or_false] at own
  obtain rfl | rfl | rfl | rfl := own
  · rcases List.mem_append.mp isAsked with held | held
    · exact port (by simpa using held)
    · exact proto (by simpa using held)
  · exact src (by simpa [Question.values] using isAsked)
  · exact dst (by simpa [Question.values] using isAsked)
  · rcases List.mem_append.mp isAsked with held | held
    · exact src (by simpa using held)
    · exact dst (by simpa using held)

end Flow.Decoded

/-- No question about a flow raises, whatever text and integers have been asked about, and a kind is found for each of
its ends that is there and is no zero or hex. -/
theorem flow_questions_answered (round : Rat → Rat) (services : Nat → String → Option String)
    (traits : Kind × Nat → AddressTraits) {flow : Flow} (decoded : flow.Decoded round) :
    (∀ question ∈ [Question.service flow, .srcKind flow, .dstKind flow, .isExternal flow],
        ∃ reply, answer round services traits question = .ok reply ∧
          ∀ before : List Question, (∀ asked ∈ before, ∀ value ∈ asked.values, value.Exact) →
            ((stateAfter (Tables.ask round services traits) .empty before).ask round services traits question).1 =
              .ok reply) ∧
      ∀ addr ∈ [flow.srcAddr, flow.dstAddr], plainKind traits addr = .unknown ↔
        addr = none ∨ addr = some (.int 0) ∨ ∃ text, addr = some (.str text) ∧ (Value.str text).Bare := by
  constructor
  · intro question own
    obtain ⟨reply, answered⟩ : ∃ reply, answer round services traits question = .ok reply := by
      obtain ⟨name, named⟩ := plainName_ok round services decoded.dstPort_integer flow.proto
      simp only [List.mem_cons, List.not_mem_nil, or_false] at own
      obtain rfl | rfl | rfl | rfl := own <;> simp [answer, named, Except.map]
    refine ⟨reply, answered, fun before exact => ?_⟩
    have apart : Apart round Value.Exact := apart_of_exact fun _ isExact => isExact
    have faithful := (@Tables.Faithful.session round services traits _ apart before exact).2
    exact (faithful.ask apart fun value isAsked => decoded.exact_values own isAsked).1.trans answered
  · intro addr isEnd
    cases addr with
    | none => simp [plainKind]
    | some addr => simpa using plainKind_eq_unknown_iff traits (decoded.end_promises isEnd)

/-- A flow of one address, and one of an address field three bytes wide. -/
theorem flow_questions_answered_narrow :
    let services : Nat → String → Option String := fun _ _ => none
    let traits : Kind × Nat → AddressTraits := fun _ => ⟨false, false, false, false, false, true⟩
    let flow (addr : Value) : Flow := {
      raw := recordOf [("src_addr", addr)], exporter := .obj 61, version := 10, domain := 7
      start := .int 1700000000, srcAddr := some addr, dstAddr := none, srcPort := none, dstPort := none
      proto := none, octets := none, packets := none, tcpFlags := none, inIf := none, outIf := none, duration := none
      samplingRate := 1 }
    ∀ addr ∈ [Value.str "192.0.2.7", .int 197121],
      (∀ question ∈ [Question.service (flow addr), .srcKind (flow addr), .dstKind (flow addr), .isExternal (flow addr)],
        ∃ reply, answer id services traits question = .ok reply ∧
          ∀ before : List Question, (∀ asked ∈ before, ∀ value ∈ asked.values, value.Exact) →
            ((stateAfter (Tables.ask id services traits) .empty before).ask id services traits question).1 =
              .ok reply) ∧
      ∀ one ∈ [(flow addr).srcAddr, (flow addr).dstAddr], plainKind traits one = .unknown ↔
        one = none ∨ one = some (.int 0) ∨ ∃ text, one = some (.str text) ∧ (Value.str text).Bare := by
  intro services traits flow addr isOne
  have decoded {raw : Bytes} (message : .ok (some (startMessage "src_addr" addr)) ∈
      (Decoder.new false false).results [startTime 8 raw])
      (typed : (startMessage "src_addr" addr).typedFlows id none 1700000001 = .ok [flow addr]) :
      (flow addr).Decoded id :=
    ⟨false, false, _, _, _, none, 1700000001, message, typed, List.mem_cons_self⟩
  simp only [List.mem_cons, List.not_mem_nil, or_false] at isOne
  obtain rfl | rfl := isOne
  · exact flow_questions_answered id services traits (@decoded [192, 0, 2, 7] (by decide +kernel) (by decide +kernel))
  · exact flow_questions_answered id services traits (@decoded [3, 2, 1] (by decide +kernel) (by decide +kernel))

end Netflume
