import Netflume.DecoderCore
import Netflume.Flow
import Netflume.Library.Fallible

/-! # When a message has a typed view

A record's time fields hold whatever the declared width made of them, and the typed
view divides and subtracts them.  It exists exactly when none of the values it comes
to is text or an integer beyond every double. -/

namespace Netflume

open Library

/-! ## Operands -/

/-- The number becomes a float without overflow. -/
def Number.Converts : Number → Prop
  | .int value => fitsDouble value = true
  | .float _ | .nonFinite => True

def Number.Floating : Number → Prop
  | .int _ => False
  | .float _ | .nonFinite => True

theorem Number.Floating.converts {number : Number} (floating : number.Floating) : number.Converts := by
  cases number with
  | int value => exact floating.elim
  | float value => trivial
  | nonFinite => trivial

/-- The value is a number that becomes a float without overflow. -/
def Value.Converts : Value → Prop
  | .int value => fitsDouble value = true
  | .float _ => True
  | .str _ => False

/-- The difference exists, and becomes a float without overflow. -/
def Subtracts : Value → Value → Prop
  | .int left, .int right => fitsDouble ((left : Int) - right) = true
  | left, right => left.Converts ∧ right.Converts

section Arithmetic

variable (round : Rat → Rat)

namespace Number

theorem returns_toFloat (number : Number) : Returns (number.toFloat round) ↔ number.Converts := by
  cases number with
  | int value =>
    rw [toFloat, Converts]
    by_cases fits : fitsDouble value = true
    · simp [fits]
    · simp [fits]
  | float value => exact iff_of_true (returns_ok _) trivial
  | nonFinite => exact iff_of_true (returns_ok _) trivial

theorem returns_div (number : Number) (divisor : Rat) : Returns (number.div round divisor) ↔ number.Converts := by
  rw [← number.returns_toFloat round]
  exact returns_bind_of_returns fun _ _ => returns_pure _

theorem div_floating {number quotient : Number} {divisor : Rat} (divided : number.div round divisor = .ok quotient) :
    quotient.Floating := by
  obtain ⟨operand, _, same⟩ := bind_eq_ok.mp divided
  cases same
  cases operand <;> trivial

/-- Unless both are integers, a difference is one of floats. -/
theorem sub_eq {left right : Number} (floating : left.Floating ∨ right.Floating) :
    left.sub round right =
      (left.toFloat round >>= fun first => right.toFloat round >>= fun second => pure (floatSub round first second)) := by
  cases left with
  | int left =>
    cases right with
    | int right => exact (floating.elim id id).elim
    | float right => rfl
    | nonFinite => rfl
  | float left => rfl
  | nonFinite => rfl

theorem returns_sub {left right : Number} (floating : left.Floating ∨ right.Floating) :
    Returns (left.sub round right) ↔ left.Converts ∧ right.Converts := by
  rw [sub_eq round floating, ← left.returns_toFloat round, ← right.returns_toFloat round]
  exact returns_both (floatSub round)

theorem sub_floating {left right difference : Number} (floating : left.Floating ∨ right.Floating)
    (subtracted : left.sub round right = .ok difference) : difference.Floating := by
  rw [sub_eq round floating] at subtracted
  obtain ⟨first, _, rest⟩ := bind_eq_ok.mp subtracted
  obtain ⟨second, _, same⟩ := bind_eq_ok.mp rest
  cases same
  cases first <;> cases second <;> trivial

/-- A difference in floats, divided. -/
theorem returns_sub_div {left right : Number} (floating : left.Floating ∨ right.Floating) (divisor : Rat) :
    Returns (left.sub round right >>= fun difference => difference.div round divisor) ↔
      left.Converts ∧ right.Converts := by
  rw [← returns_sub round floating]
  exact returns_bind_of_returns fun difference same =>
    (difference.returns_div round divisor).mpr (sub_floating round floating same).converts

end Number

theorem Value.returns_div (value : Value) (divisor : Rat) : Returns (value.div round divisor) ↔ value.Converts := by
  cases value with
  | int value => exact Number.returns_div round (.int value) divisor
  | float value => exact Number.returns_div round (.float (round value)) divisor
  | str text => simp [Value.div, Value.number, Value.Converts]

/-- A difference of values, divided. -/
theorem returns_span (left right : Value) (divisor : Rat) :
    Returns (left.sub round right >>= fun difference => difference.div round divisor) ↔ Subtracts left right := by
  cases left with
  | int left =>
    cases right with
    | int right =>
      have exact : Value.sub round (.int left) (.int right) = .ok (.int ((left : Int) - right)) := rfl
      rw [exact, ok_bind]
      exact Number.returns_div round _ divisor
    | float right =>
      have divides := @Number.returns_sub_div round (.int left) (.float (round right)) (.inr trivial) divisor
      exact divides
    | str right => simp [Value.sub, Value.number, Subtracts, Value.Converts, returns_bind]
  | float left =>
    cases right with
    | int right =>
      have divides := @Number.returns_sub_div round (.float (round left)) (.int right) (.inl trivial) divisor
      exact divides
    | float right =>
      have divides := @Number.returns_sub_div round (.float (round left)) (.float (round right)) (.inl trivial) divisor
      exact divides
    | str right => simp [Value.sub, Value.number, Subtracts, Value.Converts, returns_bind]
  | str left => simp [Value.sub, Value.number, Subtracts, Value.Converts, returns_bind]

/-! ## Durations -/

/-- The start and end times that are both set, pair by pair. -/
def spans (keys : List (String × String × Rat)) (rec : Rec) : List (Value × Value) :=
  keys.filterMap fun key =>
    (rec.getTruthy key.1).bind fun first => (rec.getTruthy key.2.1).map fun last => (first, last)

/-- The search for a duration ends at this pair: it is in order, or cannot be compared. -/
def settles (span : Value × Value) : Bool :=
  match span.2.atLeast round span.1 with
  | .ok ordered => ordered
  | .error _ => true

/-- Values that cannot be compared cannot be subtracted either. -/
theorem not_subtracts_of_error {left right : Value} {error : PyError} (failed : left.atLeast round right = .error error) :
    ¬ Subtracts left right := by
  cases left <;> cases right <;> simp_all [Value.atLeast, Subtracts, Value.Converts]

/-- A duration is found, or there is none, unless the pair that settles it has no difference. -/
theorem returns_flowDurationLoop (rec : Rec) (keys : List (String × String × Rat)) :
    Returns (flowDurationLoop round rec keys) ↔
      ∀ span, (spans keys rec).find? (settles round) = some span → Subtracts span.2 span.1 := by
  induction keys with
  | nil => exact iff_of_true (returns_ok _) fun span found => nomatch found
  | cons key keys inductionHypothesis =>
    obtain ⟨startKey, endKey, divisor⟩ := key
    rw [flowDurationLoop]
    cases first : rec.getTruthy startKey with
    | none => simpa [spans, first] using inductionHypothesis
    | some first' =>
      cases last : rec.getTruthy endKey with
      | none => simpa [spans, first, last] using inductionHypothesis
      | some last' =>
        have head : spans ((startKey, endKey, divisor) :: keys) rec = (first', last') :: spans keys rec := by
          simp [spans, first, last]
        have quotient : Returns (last'.sub round first' >>= fun difference =>
            difference.div round divisor >>= fun span => pure (some span)) ↔ Subtracts last' first' := by
          rw [← returns_span round last' first' divisor, returns_bind, returns_bind]
          exact exists_congr fun _ => and_congr_right fun _ => returns_bind_of_returns fun _ _ => returns_pure _
        rw [head, List.find?_cons]
        simp only [returns_bind]
        cases compared : last'.atLeast round first' with
        | error error =>
          have decisive : settles round (first', last') = true := by simp [settles, compared]
          simp only [decisive, Option.some.injEq, forall_eq']
          exact iff_of_false (by simp) (not_subtracts_of_error round compared)
        | ok ordered =>
          cases ordered with
          | true =>
            have decisive : settles round (first', last') = true := by simp [settles, compared]
            simp only [decisive, Option.some.injEq, forall_eq']
            rw [← quotient]
            simp
          | false =>
            have indecisive : settles round (first', last') = false := by simp [settles, compared]
            simp only [indecisive, ← inductionHypothesis]
            simp

/-! ## Start times -/

theorem fitsDouble_of_lt {value : Nat} (small : value < 2 ^ 32) : fitsDouble value = true := by
  have limit : 2 ^ 32 ≤ (2 ^ 1024 - 2 ^ 970) * 1 := by decide +kernel
  have fits : quotientOverflows value 1 = false := decide_eq_false (Nat.not_le.mpr (Nat.lt_of_lt_of_le small limit))
  rw [fitsDouble, Int.natAbs_natCast, fits]
  rfl

/-- The start time that an exporter gives relative to its boot. -/
theorem returns_reconstruction {base uptime : Nat} (recent : base < 2 ^ 32) (first : Value) (now otherwise : Number) :
    Returns ((Value.sub round (.int uptime) first >>= fun ticks => ticks.div round 1000) >>= fun elapsed =>
        Number.sub round (.int base) elapsed >>= fun candidate => candidate.sub round now >>= fun away =>
          if away.within 86400 = true then pure candidate else pure otherwise) ↔
      Subtracts (.int uptime) first ∧ now.Converts := by
  have baseConverts : (Number.int base).Converts := fitsDouble_of_lt recent
  rw [← returns_span round (.int uptime) first 1000]
  refine returns_bind_iff fun elapsed divided => ?_
  obtain ⟨ticks, _, quotient⟩ := bind_eq_ok.mp divided
  have floating := Number.div_floating round quotient
  obtain ⟨candidate, reckoned⟩ := (Number.returns_sub round (.inr floating)).mpr ⟨baseConverts, floating.converts⟩
  have candidateFloating := Number.sub_floating round (.inr floating) reckoned
  have judged := Number.returns_sub round (.inl candidateFloating : candidate.Floating ∨ now.Floating)
  rw [and_iff_right candidateFloating.converts] at judged
  rw [reckoned, ok_bind, ← judged]
  refine returns_bind_of_returns fun away _ => ?_
  split <;> exact returns_pure _

theorem returns_flowTimestamp {header : Header} (recent : header.unixSecs < 2 ^ 32) (rec : Rec) (now : Option Number)
    (clock : Rat) :
    Returns (flowTimestamp round rec header now clock) ↔
      (∀ stamp, startStamp rec = some stamp → stamp.1.Converts) ∧
        (startStamp rec = none → header.unixSecs ≠ 0 → ∀ first uptime, rec.get? "first_switched" = some first →
          header.sysUptime = some uptime → Subtracts (.int uptime) first ∧ (now.getD (.float clock)).Converts) := by
  rw [flowTimestamp]
  cases stamped : startStamp rec with
  | some stamp =>
    obtain ⟨value, divisor⟩ := stamp
    simpa using value.returns_div round divisor
  | none =>
    cases switched : rec.get? "first_switched" with
    | none => simp
    | some first =>
      cases booted : header.sysUptime with
      | none => simp
      | some uptime =>
        by_cases undated : header.unixSecs = 0
        · simp [undated]
        · have reckoned := @returns_reconstruction round _ uptime recent first (now.getD (.float clock))
            (exportTime header (now.getD (.float clock)))
          simp only [bind_assoc] at reckoned
          simp only [ne_eq, undated, not_false_eq_true, if_true]
          simpa using reckoned

/-! ## Messages -/

/-- The typed view of a record exists: its first absolute start time can be divided, without one the time since
boot can be reckoned, and the pair of times that settles its duration can be subtracted. -/
structure Datable (header : Header) (now : Number) (rec : Rec) : Prop where
  stamp : ∀ stamp, startStamp rec = some stamp → stamp.1.Converts
  sinceBoot : startStamp rec = none → header.unixSecs ≠ 0 → ∀ first uptime, rec.get? "first_switched" = some first →
    header.sysUptime = some uptime → Subtracts (.int uptime) first ∧ now.Converts
  span : ∀ span, (spans durationKeys rec).find? (settles round) = some span → Subtracts span.2 span.1

theorem returns_fromRecord {header : Header} (recent : header.unixSecs < 2 ^ 32) (rec : Rec) (samplingRate : Nat)
    (now : Option Number) (clock : Rat) :
    Returns (Flow.fromRecord round rec header samplingRate now clock) ↔
      Datable round header (now.getD (.float clock)) rec := by
  have dated := returns_flowTimestamp round recent rec now clock
  have measured := returns_flowDurationLoop round rec durationKeys
  have both : Returns (Flow.fromRecord round rec header samplingRate now clock) ↔
      Returns (flowTimestamp round rec header now clock) ∧ Returns (flowDuration round rec) :=
    returns_both _
  rw [both, dated, flowDuration, measured]
  exact ⟨fun ⟨⟨stamp, sinceBoot⟩, span⟩ => ⟨stamp, sinceBoot, span⟩,
    fun ⟨stamp, sinceBoot, span⟩ => ⟨⟨stamp, sinceBoot⟩, span⟩⟩

theorem Flow.raw_fromRecord {rec : Rec} {header : Header} {samplingRate : Nat} {now : Option Number} {clock : Rat}
    {flow : Flow} (made : Flow.fromRecord round rec header samplingRate now clock = .ok flow) : flow.raw = rec := by
  obtain ⟨start, _, rest⟩ := bind_eq_ok.mp made
  obtain ⟨duration, _, same⟩ := bind_eq_ok.mp rest
  cases same
  rfl

theorem returns_typedFlows {message : Message} (recent : message.header.unixSecs < 2 ^ 32) (now : Option Number)
    (clock : Rat) :
    (∃ flows, message.typedFlows round now clock = .ok flows ∧ flows.map Flow.raw = message.flows) ↔
      ∀ rec ∈ message.flows, Datable round message.header (now.getD (.float clock)) rec := by
  have reading : ∀ rec ∈ message.flows,
      (if now = none ∧ message.flows ≠ [] then some (.float clock) else now).getD (.float clock) =
        now.getD (.float clock) := by
    intro rec _
    split
    · rename_i unset
      rw [unset.1]
      rfl
    · rfl
  have whole : Returns (message.typedFlows round now clock) ↔
      ∀ rec ∈ message.flows, Datable round message.header (now.getD (.float clock)) rec := by
    rw [Message.typedFlows]
    rw [returns_mapM]
    refine forall₂_congr fun rec member => ?_
    rw [returns_fromRecord round recent, reading rec member]
  rw [← whole]
  refine ⟨fun ⟨flows, made, _⟩ => ⟨flows, made⟩, fun ⟨flows, made⟩ => ⟨flows, made, ?_⟩⟩
  exact map_of_mapM (fun _ _ => Flow.raw_fromRecord round) made

end Arithmetic

/-! ## Headers -/

theorem unixSecs_lt {data : Bytes} {exporter : Exporter} {header : Header}
    (read : datagramHeader data exporter = some header) : header.unixSecs < 2 ^ 32 := by
  rw [datagramHeader, messageHeader] at read
  split at read
  · split at read
    · cases read
    · cases read
      exact num_lt data 8 4
  · split at read
    · cases read
    · split at read
      · split at read
        · cases read
        · cases read
          exact num_lt data 4 4
      · split at read
        · cases read
        · cases read
          exact num_lt data 8 4

namespace Core

/-- A message carries the header of its datagram. -/
theorem step_header {core : Core} {datagram : Decoder.Datagram} {message : Message}
    (answer : (core.step datagram).1 = .ok (some message)) : datagram.header = some message.header := by
  cases read : datagram.header with
  | none =>
    rw [(step_headerless read core).1] at answer
    cases answer
  | some header =>
    rw [step_headed read] at answer
    obtain ⟨rate, rfl⟩ := deliver_message answer
    rfl

end Core

/-- The message a run returns has a typed view, a flow for each record, exactly when every record is datable. -/
theorem typed_flows_exist_iff (round : Rat → Rat) (decoder : Decoder) (run : List Decoder.Datagram) (message : Message)
    (returned : .ok (some message) ∈ decoder.results run) (now : Option Number) (clock : Rat) :
    (∃ flows, message.typedFlows round now clock = .ok flows ∧ flows.map Flow.raw = message.flows) ↔
      ∀ rec ∈ message.flows, Datable round message.header (now.getD (.float clock)) rec := by
  refine returns_typedFlows round ?_ now clock
  rw [(Decoder.results_core decoder run).1] at returned
  have recent : ∀ result ∈ outputs Core.step decoder.core run, ∀ message : Message, result = .ok (some message) →
      message.header.unixSecs < 2 ^ 32 :=
    (forall_mem_outputs decoder.core run).mpr fun _ _ _ _ _ answer =>
      unixSecs_lt (Decoder.Datagram.header_read (Core.step_header answer))
  exact recent _ returned message rfl

/-- A template of one start time and the data set of one record, in one message. -/
def startTime (element : Nat) (raw : Bytes) : Decoder.Datagram where
  data := toBytes 2 10 ++ toBytes 2 (32 + raw.length) ++ toBytes 4 1700000000 ++ toBytes 4 5 ++ toBytes 4 7 ++
    (toBytes 2 2 ++ toBytes 2 12 ++ toBytes 2 300 ++ toBytes 2 1 ++ toBytes 2 element ++ toBytes 2 raw.length) ++
    (toBytes 2 300 ++ toBytes 2 (4 + raw.length) ++ raw)
  exporter := .obj 61

/-- The message that such a datagram decodes to. -/
def startMessage (name : String) (value : Value) : Message where
  header := ⟨10, none, 1700000000, 5, 7, .obj 61⟩
  flows := [recordOf [(name, value)]]
  options := []
  gap := 0
  samplingRate := 1

/-- A start time in milliseconds, in the eight bytes it should have. -/
theorem typed_flows_exist_iff_milliseconds :
    (∃ flows, (startMessage "flow_start_ms" (.int 1700000000123)).typedFlows id none 1700000001 = .ok flows ∧
      flows.map Flow.raw = (startMessage "flow_start_ms" (.int 1700000000123)).flows) ↔
      ∀ rec ∈ (startMessage "flow_start_ms" (.int 1700000000123)).flows,
        Datable id (startMessage "flow_start_ms" (.int 1700000000123)).header (.float 1700000001) rec :=
  typed_flows_exist_iff id (Decoder.new false false) [startTime 152 (toBytes 8 1700000000123)] _
    (by decide +kernel) none 1700000001

/-- A start time in microseconds, declared nine bytes wide: it decodes to text, which cannot be divided. -/
theorem typed_flows_raise : ¬ ∀ (decoder : Decoder) (run : List Decoder.Datagram) (message : Message),
    .ok (some message) ∈ decoder.results run → ∀ (round : Rat → Rat) (now : Option Number) (clock : Rat),
      ∃ flows, message.typedFlows round now clock = .ok flows ∧ flows.map Flow.raw = message.flows := by
  intro always
  obtain ⟨flows, made, _⟩ := always (Decoder.new false false) [startTime 154 [1, 2, 3, 4, 5, 6, 7, 8, 9]]
    (startMessage "flow_start_us" (.str "010203040506070809")) (by decide +kernel) id none 1700000001
  have raised : (startMessage "flow_start_us" (.str "010203040506070809")).typedFlows id none 1700000001 =
      .error ⟨"TypeError", "unsupported operand type(s) for /: 'str' and 'float'"⟩ := by decide +kernel
  rw [raised] at made
  cases made

end Netflume
