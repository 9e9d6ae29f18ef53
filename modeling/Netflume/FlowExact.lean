import Mathlib.Tactic.Linarith
import Mathlib.Tactic.NormNum
import Netflume.FlowTotal

/-! # Where a flow lies in time

In exact arithmetic, times counted from the exporter's boot give back the instants
they were read at, unless the 32-bit counter wraps between them.  A start that
cannot be given back is replaced by the export time, while the duration, told from
two other readings, may stand. -/

namespace Netflume

open Library

/-! ## Exact arithmetic -/

theorem fitsDouble_of_natAbs_lt {value : Int} (small : value.natAbs < 2 ^ 64) : fitsDouble value = true := by
  have limit : 2 ^ 64 ≤ (2 ^ 1024 - 2 ^ 970) * 1 := by decide +kernel
  have fits : quotientOverflows value.natAbs 1 = false :=
    decide_eq_false (Nat.not_le.mpr (Nat.lt_of_lt_of_le small limit))
  rw [fitsDouble, fits]
  rfl

theorem Number.converts_int {value : Int} : (Number.int value).Converts ↔ fitsDouble value = true := Iff.rfl

theorem Value.converts_int {value : Nat} : (Value.int value).Converts ↔ (Number.int value).Converts := Iff.rfl

theorem subtracts_int {left right : Nat} :
    Subtracts (.int left) (.int right) ↔ (Number.int ((left : Int) - right)).Converts := Iff.rfl

namespace Number

/-- The rational that a finite number is. -/
def exact : Number → Option Rat
  | .int value => some value
  | .float value => some value
  | .nonFinite => none

variable {left right number : Number} {first second value : Rat}

theorem toFloat_exact (is : number.exact = some value) (converts : number.Converts) :
    number.toFloat id = .ok (.float value) := by
  cases number with
  | int number =>
    cases is
    rw [toFloat, if_pos (converts_int.mp converts)]
    rfl
  | float number =>
    cases is
    rfl
  | nonFinite => cases is

theorem div_exact (is : number.exact = some value) (converts : number.Converts) (divisor : Rat) :
    number.div id divisor = .ok (.float (value / divisor)) := by
  rw [div, toFloat_exact is converts]
  rfl

theorem sub_float (isLeft : left.exact = some first) (converts : left.Converts) (second : Rat) :
    left.sub id (.float second) = .ok (.float (first - second)) := by
  rw [@sub_eq id left (.float second) (.inr trivial), toFloat_exact isLeft converts]
  rfl

theorem float_sub (first : Rat) (isRight : right.exact = some second) (converts : right.Converts) :
    (Number.float first).sub id right = .ok (.float (first - second)) := by
  rw [@sub_eq id (.float first) right (.inl trivial), toFloat_exact isRight converts]
  rfl

theorem add_exact (isLeft : left.exact = some first) (leftConverts : left.Converts) (second : Rat) :
    left.add id (.float second) = .ok (.float (first + second)) := by
  have inFloats : left.add id (.float second) =
      (left.toFloat id >>= fun first => pure (floatAdd id first (.float second))) := by
    cases left <;> rfl
  rw [inFloats, toFloat_exact isLeft leftConverts]
  rfl

end Number

namespace Value

/-- The rational that a number is. -/
def exact : Value → Option Rat
  | .int number => some number
  | .float number => some number
  | .str _ => none

variable {left right value : Value} {first second number : Rat}

theorem div_exact (is : value.exact = some number) (converts : value.Converts) (divisor : Rat) :
    value.div id divisor = .ok (.float (number / divisor)) := by
  cases value with
  | int value =>
    cases is
    exact Number.div_exact rfl (converts_int.mp converts) divisor
  | float value =>
    cases is
    rfl
  | str text => cases is

theorem atLeast_exact (isLeft : left.exact = some first) (isRight : right.exact = some second) :
    left.atLeast id right = .ok (decide (second ≤ first)) := by
  cases left <;> cases right <;> cases isLeft <;> cases isRight <;> simp [atLeast]

theorem sub_numbers {round : Rat → Rat} {one other : Number} (isLeft : left.number round = some one)
    (isRight : right.number round = some other) : left.sub round right = one.sub round other := by
  rw [Value.sub, isLeft, isRight]

/-- The difference of two numbers, divided. -/
theorem span_exact (isLeft : left.exact = some first) (isRight : right.exact = some second)
    (subtracts : Subtracts left right) (divisor : Rat) :
    (left.sub id right >>= fun difference => difference.div id divisor) =
      .ok (.float ((first - second) / divisor)) := by
  cases left with
  | int left =>
    cases isLeft
    cases right with
    | int right =>
      cases isRight
      have exactly : (Number.int ((left : Int) - right)).exact = some ((left : Rat) - right) := by
        simp [Number.exact]
      rw [sub_numbers rfl rfl, Number.sub, ok_bind]
      exact Number.div_exact exactly (subtracts_int.mp subtracts) divisor
    | float right =>
      cases isRight
      rw [sub_numbers rfl rfl,
        Number.sub_float rfl (converts_int.mp subtracts.1)]
      rfl
    | str text => cases isRight
  | float left =>
    cases isLeft
    cases right with
    | int right =>
      cases isRight
      rw [sub_numbers rfl rfl,
        Number.float_sub _ rfl (converts_int.mp subtracts.2)]
      rfl
    | float right =>
      cases isRight
      rfl
    | str text => cases isRight
  | str text => cases isLeft

end Value

section Loops

variable {rec : Rec} {startKey endKey : String} {divisor : Rat} {keys : List (String × String × Rat)}

theorem flowDurationLoop_unset {round : Rat → Rat} (unset : rec.getTruthy startKey = none ∨ rec.getTruthy endKey = none) :
    flowDurationLoop round rec ((startKey, endKey, divisor) :: keys) = flowDurationLoop round rec keys := by
  rw [flowDurationLoop]
  obtain unset | unset := unset
  · rw [unset]
  · rw [unset]
    cases rec.getTruthy startKey <;> rfl

/-- A pair that is set settles the duration if it is in order. -/
theorem flowDurationLoop_set {start finish : Value} {first last : Rat} (isStart : rec.getTruthy startKey = some start)
    (isFinish : rec.getTruthy endKey = some finish) (isFirst : start.exact = some first) (isLast : finish.exact = some last)
    (subtracts : Subtracts finish start) :
    flowDurationLoop id rec ((startKey, endKey, divisor) :: keys) =
      if first ≤ last then .ok (some (.float ((last - first) / divisor))) else flowDurationLoop id rec keys := by
  rw [flowDurationLoop, isStart, isFinish]
  simp only [Value.atLeast_exact isLast isFirst, ok_bind, decide_eq_true_eq]
  split
  · have span := Value.span_exact isLast isFirst subtracts divisor
    rw [← bind_assoc, span]
    rfl
  · rfl

end Loops

/-! ## Uptimes -/

/-- The 32-bit millisecond counter of an exporter booted at `boot`. -/
def uptimeAt (boot instant : Int) : Nat := ((instant - boot) % 2 ^ 32).toNat

theorem uptimeAt_lt (boot instant : Int) : uptimeAt boot instant < 2 ^ 32 := by
  rw [uptimeAt]
  omega

/-- Less than one turn of the counter apart, two readings differ by the time between them, or by a turn less. -/
theorem uptimeAt_sub {boot earlier later : Int} (ordered : earlier ≤ later) (near : later - earlier < 2 ^ 32) :
    (uptimeAt boot later : Int) - uptimeAt boot earlier =
      if uptimeAt boot earlier ≤ uptimeAt boot later then later - earlier else later - earlier - 2 ^ 32 := by
  rw [uptimeAt, uptimeAt]
  split <;> omega

/-! ## Flows since boot -/

/-- A v5 or v9 record without an absolute start time, of a flow from `start` to `finish` that was exported within a day
of its start.  Instants are in milliseconds. -/
structure SinceBoot (rec : Rec) (header : Header) (boot start finish : Int) : Prop where
  unstamped : ∀ key ∈ startKeys, rec.getTruthy key.1 = none
  first : rec.get? "first_switched" = some (.int (uptimeAt boot start))
  last : rec.get? "last_switched" = some (.int (uptimeAt boot finish))
  uptime : header.sysUptime = some (uptimeAt boot (1000 * header.unixSecs))
  dated : 0 < header.unixSecs
  word : header.unixSecs < 2 ^ 32
  ordered : start ≤ finish
  ended : finish ≤ 1000 * header.unixSecs
  recent : 1000 * (header.unixSecs : Int) - start ≤ 86400000

/-- The start can be given back: the counter did not wrap before the export, and the guard lets it pass. -/
def Reconstructs (header : Header) (boot start : Int) (reading : Rat) : Prop :=
  uptimeAt boot start ≤ uptimeAt boot (1000 * header.unixSecs) ∧ |(start : Rat) / 1000 - reading| < 86400

instance (header : Header) (boot start : Int) (reading : Rat) : Decidable (Reconstructs header boot start reading) :=
  inferInstanceAs (Decidable (_ ∧ _))

/-- The duration can be told: neither counter reads zero, and none wrapped in between. -/
def Measures (boot start finish : Int) : Prop :=
  uptimeAt boot start ≠ 0 ∧ uptimeAt boot finish ≠ 0 ∧ uptimeAt boot start ≤ uptimeAt boot finish

instance (boot start finish : Int) : Decidable (Measures boot start finish) :=
  inferInstanceAs (Decidable (_ ∧ _))

theorem startStamp_none {rec : Rec} (unstamped : ∀ key ∈ startKeys, rec.getTruthy key.1 = none) :
    startStamp rec = none := by
  rw [startStamp, List.findSome?_eq_none_iff]
  intro key member
  rw [unstamped key member]
  rfl

theorem getTruthy_int {rec : Rec} {name : String} {number : Nat} (held : rec.get? name = some (.int number)) :
    rec.getTruthy name = if number = 0 then none else some (.int number) := by
  rw [Rec.getTruthy, held]
  by_cases zero : number = 0
  · simp [zero, Value.truthy]
  · simp [zero, Value.truthy]

namespace SinceBoot

variable {rec : Rec} {header : Header} {boot start finish : Int}

theorem flowDuration_eq (timed : SinceBoot rec header boot start finish) :
    flowDuration id rec =
      .ok (if Measures boot start finish then some (.float (((finish - start : Int) : Rat) / 1000)) else none) := by
  have unset := timed.unstamped
  have ordered := timed.ordered
  have ended := timed.ended
  have recent := timed.recent
  have difference := @uptimeAt_sub boot _ _ ordered (by omega)
  rw [flowDuration, durationKeys, flowDurationLoop_unset (.inl (unset ("flow_start_ms", 1000) (by simp [startKeys]))),
    flowDurationLoop_unset (.inl (unset ("flow_start_s", 1) (by simp [startKeys]))),
    flowDurationLoop_unset (.inl (unset ("flow_start_us", 1) (by simp [startKeys]))),
    flowDurationLoop_unset (.inl (unset ("flow_start_ns", 1) (by simp [startKeys])))]
  have first := getTruthy_int timed.first
  have last := getTruthy_int timed.last
  by_cases firstZero : uptimeAt boot start = 0
  · rw [if_pos firstZero] at first
    rw [flowDurationLoop_unset (.inl first), if_neg fun measures => measures.1 firstZero]
    rfl
  · by_cases lastZero : uptimeAt boot finish = 0
    · rw [if_pos lastZero] at last
      rw [flowDurationLoop_unset (.inr last), if_neg fun measures => measures.2.1 lastZero]
      rfl
    · rw [if_neg firstZero] at first
      rw [if_neg lastZero] at last
      have small := uptimeAt_lt boot start
      have small' := uptimeAt_lt boot finish
      have subtracts : Subtracts (.int (uptimeAt boot finish)) (.int (uptimeAt boot start)) :=
        fitsDouble_of_natAbs_lt (by omega)
      rw [flowDurationLoop_set first last rfl rfl subtracts]
      by_cases unwrapped : uptimeAt boot start ≤ uptimeAt boot finish
      · rw [if_pos unwrapped] at difference
        have exactly : (uptimeAt boot finish : Rat) - uptimeAt boot start = ((finish - start : Int) : Rat) := by
          exact_mod_cast difference
        rw [if_pos (by exact_mod_cast unwrapped), if_pos ⟨firstZero, lastZero, unwrapped⟩, exactly]
      · rw [if_neg (by exact_mod_cast unwrapped), if_neg fun measures => unwrapped measures.2.2]
        rfl

/-- A reading of the clock near the export time becomes a float. -/
theorem converts_of_near {now : Number} {reading : Rat} {base : Nat} (read : now.exact = some reading)
    (near : |reading - base| ≤ 86400) (word : base < 2 ^ 32) : now.Converts := by
  cases now with
  | int value =>
    cases read
    obtain ⟨below, above⟩ := abs_le.mp near
    have low : (-86400 : Int) ≤ value - base := by exact_mod_cast below
    have high : value - (base : Int) ≤ 86400 := by exact_mod_cast above
    exact Number.converts_int.mpr (fitsDouble_of_natAbs_lt (by omega))
  | float value => trivial
  | nonFinite => cases read

theorem flowTimestamp_eq (timed : SinceBoot rec header boot start finish) {now : Option Number} {clock reading : Rat}
    (read : (now.getD (.float clock)).exact = some reading) (near : |reading - header.unixSecs| ≤ 86400) :
    flowTimestamp id rec header now clock =
      .ok (if Reconstructs header boot start reading then .float ((start : Rat) / 1000) else .int header.unixSecs) := by
  have word := timed.word
  have ordered := timed.ordered
  have ended := timed.ended
  have recent := timed.recent
  have small := uptimeAt_lt boot start
  have small' := uptimeAt_lt boot (1000 * header.unixSecs)
  have difference := @uptimeAt_sub boot start (1000 * header.unixSecs) (by omega) (by omega)
  have subtracts : Subtracts (.int (uptimeAt boot (1000 * header.unixSecs))) (.int (uptimeAt boot start)) :=
    subtracts_int.mpr (Number.converts_int.mpr (fitsDouble_of_natAbs_lt (by omega)))
  have baseConverts : (Number.int header.unixSecs).Converts :=
    Number.converts_int.mpr (fitsDouble_of_natAbs_lt (by omega))
  have nowConverts := converts_of_near read near word
  rw [flowTimestamp, startStamp_none timed.unstamped, timed.first, timed.uptime]
  simp only [exportTime, if_pos timed.dated.ne', ne_eq]
  rw [← bind_assoc, Value.span_exact rfl rfl subtracts, ok_bind, Number.sub_float rfl baseConverts, ok_bind,
    Number.float_sub _ read nowConverts, ok_bind]
  by_cases unwrapped : uptimeAt boot start ≤ uptimeAt boot (1000 * header.unixSecs)
  · rw [if_pos unwrapped] at difference
    have elapsed : (uptimeAt boot (1000 * header.unixSecs) : Rat) - uptimeAt boot start = 1000 * header.unixSecs - start := by
      exact_mod_cast difference
    have candidate : (header.unixSecs : Rat) - (1000 * header.unixSecs - start) / 1000 = start / 1000 := by ring
    rw [elapsed]
    simp only [Int.cast_natCast, candidate, Number.within, Reconstructs, unwrapped, true_and, decide_eq_true_eq]
    split <;> rfl
  · rw [if_neg unwrapped] at difference
    have elapsed : (uptimeAt boot (1000 * header.unixSecs) : Rat) - uptimeAt boot start =
        1000 * header.unixSecs - start - 2 ^ 32 := by
      exact_mod_cast difference
    have recently : 1000 * (header.unixSecs : Rat) - start ≤ 86400000 := by exact_mod_cast recent
    have far : ¬ |(header.unixSecs : Rat) - (1000 * header.unixSecs - start - 2 ^ 32) / 1000 - reading| < 86400 := by
      intro close
      have above := (abs_lt.mp close).2
      have latest := (abs_le.mp near).2
      norm_num at above
      linarith
    rw [elapsed]
    simp only [Int.cast_natCast, Number.within, far, decide_false, Reconstructs, unwrapped, false_and, if_false,
      Bool.false_eq_true]
    rfl

end SinceBoot

/-! ## Flows and their ends -/

theorem Flow.fromRecord_times {round : Rat → Rat} {rec : Rec} {header : Header} {now : Option Number} {clock : Rat}
    {start : Number} {duration : Option Number} (timestamp : flowTimestamp round rec header now clock = .ok start)
    (lasted : flowDuration round rec = .ok duration) (samplingRate : Nat) :
    ∃ flow, Flow.fromRecord round rec header samplingRate now clock = .ok flow ∧ flow.start = start ∧
      flow.duration = duration := by
  rw [Flow.fromRecord, timestamp, lasted]
  exact ⟨_, rfl, rfl, rfl⟩

theorem Flow.endTime_exact {flow : Flow} {first span : Rat} (lasts : flow.duration = some (.float span))
    (begins : flow.start.exact = some first) (converts : flow.start.Converts) :
    flow.endTime id = .ok (some (.float (first + span))) := by
  rw [endTime, lasts]
  simp only [Number.add_exact begins converts, ok_bind]
  rfl

/-- A flow since boot starts when it did or at its export, lasts as long as it did or for a time unknown, and ends by
its export, unless a start was replaced while a duration stood. -/
theorem flow_ends_by_export_unless_replaced {rec : Rec} {header : Header} {boot start finish : Int}
    (timed : SinceBoot rec header boot start finish) (samplingRate : Nat) (now : Option Number) (clock reading : Rat)
    (read : (now.getD (.float clock)).exact = some reading) (near : |reading - header.unixSecs| ≤ 86400) :
    ∃ flow, Flow.fromRecord id rec header samplingRate now clock = .ok flow ∧
      (Reconstructs header boot start reading ∧ flow.start = .float ((start : Rat) / 1000) ∨
        ¬ Reconstructs header boot start reading ∧ flow.start = .int header.unixSecs) ∧
      (Measures boot start finish ∧ flow.duration = some (.float (((finish - start : Int) : Rat) / 1000)) ∨
        ¬ Measures boot start finish ∧ flow.duration = none) ∧
      (flow.endTime id = .ok none ∨ ∃ ending : Rat, flow.endTime id = .ok (some (.float ending)) ∧
        (ending ≤ header.unixSecs ∨ ¬ Reconstructs header boot start reading ∧ Measures boot start finish ∧
          start < finish ∧ ending = header.unixSecs + ((finish - start : Int) : Rat) / 1000)) := by
  obtain ⟨flow, made, begins, lasts⟩ :=
    Flow.fromRecord_times (timed.flowTimestamp_eq read near) timed.flowDuration_eq samplingRate
  have word := timed.word
  have ended : (finish : Rat) ≤ 1000 * header.unixSecs := by exact_mod_cast timed.ended
  refine ⟨flow, made, ?_, ?_, ?_⟩
  · by_cases reconstructs : Reconstructs header boot start reading
    · exact .inl ⟨reconstructs, by rw [begins, if_pos reconstructs]⟩
    · exact .inr ⟨reconstructs, by rw [begins, if_neg reconstructs]⟩
  · by_cases measures : Measures boot start finish
    · exact .inl ⟨measures, by rw [lasts, if_pos measures]⟩
    · exact .inr ⟨measures, by rw [lasts, if_neg measures]⟩
  · by_cases measures : Measures boot start finish
    · rw [if_pos measures] at lasts
      right
      by_cases reconstructs : Reconstructs header boot start reading
      · rw [if_pos reconstructs] at begins
        refine ⟨_, Flow.endTime_exact lasts (congrArg Number.exact begins) (begins ▸ trivial), .inl ?_⟩
        push_cast
        linarith
      · rw [if_neg reconstructs] at begins
        have converts : flow.start.Converts := by
          rw [begins]
          exact Number.converts_int.mpr (fitsDouble_of_natAbs_lt (by omega))
        refine ⟨_, Flow.endTime_exact lasts (congrArg Number.exact begins) converts, ?_⟩
        obtain later | instant := timed.ordered.lt_or_eq
        · exact .inr ⟨reconstructs, measures, later, rfl⟩
        · left
          simp [instant]
    · rw [if_neg measures] at lasts
      left
      rw [Flow.endTime, lasts]

/-- A flow of five seconds, exported ten seconds after it began. -/
theorem flow_ends_by_export_unless_replaced_unwrapped :
    let switched : Rec := recordOf [("first_switched", .int 90000), ("last_switched", .int 95000)]
    let header : Header :=
      { version := 5, sysUptime := some 100000, unixSecs := 1700000000, sequence := 0, domain := 0, exporter := .obj 1 }
    let boot : Int := 1699999900000
    let start : Int := 1699999990000
    let finish : Int := 1699999995000
    ∃ flow, Flow.fromRecord id switched header 1 (some (.int 1700000000)) 0 = .ok flow ∧
      (Reconstructs header boot start 1700000000 ∧ flow.start = .float ((start : Rat) / 1000) ∨
        ¬ Reconstructs header boot start 1700000000 ∧ flow.start = .int header.unixSecs) ∧
      (Measures boot start finish ∧ flow.duration = some (.float (((finish - start : Int) : Rat) / 1000)) ∨
        ¬ Measures boot start finish ∧ flow.duration = none) ∧
      (flow.endTime id = .ok none ∨ ∃ ending : Rat, flow.endTime id = .ok (some (.float ending)) ∧
        (ending ≤ header.unixSecs ∨ ¬ Reconstructs header boot start 1700000000 ∧ Measures boot start finish ∧
          start < finish ∧ ending = header.unixSecs + ((finish - start : Int) : Rat) / 1000)) :=
  flow_ends_by_export_unless_replaced
    (by constructor <;> decide) 1 (some (.int 1700000000)) 0 1700000000 rfl (by norm_num)

/-- The counter wraps between the end of a flow and its export: the start is replaced, and the duration stands. -/
theorem flow_extends_past_export :
    let wrapped : Rec := recordOf [("first_switched", .int 4294952296), ("last_switched", .int 4294962296)]
    let header : Header :=
      { version := 9, sysUptime := some 5000, unixSecs := 1700000000, sequence := 0, domain := 0, exporter := .obj 1 }
    SinceBoot wrapped header 1695705027704 1699999980000 1699999990000 ∧
      ∃ flow, Flow.fromRecord id wrapped header 1 (some (.int 1700000000)) 0 = .ok flow ∧
        flow.endTime id = .ok (some (.float 1700000010)) ∧ (header.unixSecs : Rat) < 1700000010 := by
  intro wrapped header
  have timed : SinceBoot wrapped header 1695705027704 1699999980000 1699999990000 := by
    constructor <;> decide
  refine ⟨timed, ?_⟩
  have near : |(1700000000 : Rat) - header.unixSecs| ≤ 86400 := by
    have same : (header.unixSecs : Rat) = 1700000000 := by norm_num [header]
    rw [same, sub_self]
    norm_num
  have replaced : ¬ Reconstructs header 1695705027704 1699999980000 1700000000 := fun kept => absurd kept.1 (by decide)
  have timestamp := @SinceBoot.flowTimestamp_eq _ _ _ _ _ timed (some (.int 1700000000)) 0 1700000000 rfl near
  have measured : Measures 1695705027704 1699999980000 1699999990000 := by decide
  rw [if_neg replaced] at timestamp
  have lasted := timed.flowDuration_eq
  rw [if_pos measured] at lasted
  obtain ⟨flow, made, begins, lasts⟩ := Flow.fromRecord_times timestamp lasted 1
  refine ⟨flow, made, ?_, by norm_num [header]⟩
  have converts : flow.start.Converts := by
    rw [begins]
    exact Number.converts_int.mpr (fitsDouble_of_natAbs_lt (by decide))
  rw [Flow.endTime_exact lasts (congrArg Number.exact begins) converts]
  norm_num [header]

end Netflume
