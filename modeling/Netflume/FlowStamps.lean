import Netflume.FlowExact

/-! # Absolute timestamps

One instant can be sent as seconds or milliseconds since 1970, or as an NTP
timestamp of seconds since 1900 in 32 bits, of either precision.  All four come to
the same start and duration until the NTP seconds turn over. -/

namespace Netflume

open Library

/-! ## Encodings -/

/-- How a record carries its start and end times. -/
inductive TimeEncoding where
  | seconds
  | milliseconds
  | microseconds
  | nanoseconds
  deriving DecidableEq

namespace TimeEncoding

/-- The element of the start time.  That of the end time is the next one. -/
def element : TimeEncoding → Nat
  | seconds => 150
  | milliseconds => 152
  | microseconds => 154
  | nanoseconds => 156

def isNtp : TimeEncoding → Bool
  | seconds | milliseconds => false
  | microseconds | nanoseconds => true

/-- What the times are divided by. -/
def divisor : TimeEncoding → Nat
  | milliseconds => 1000
  | seconds | microseconds | nanoseconds => 1

/-- Seconds since 1900, modulo the 32 bits an NTP timestamp has for them. -/
def ntpSeconds (instant : Nat) : Nat := (instant + 2208988800) % 2 ^ 32

/-- The bytes an exporter sends for a whole UNIX second. -/
def bytes (instant : Nat) : TimeEncoding → Bytes
  | seconds => toBytes 4 instant
  | milliseconds => toBytes 8 (1000 * instant)
  | microseconds | nanoseconds => toBytes 8 (ntpSeconds instant * 2 ^ 32)

variable (encoding : TimeEncoding)

def startName : String := (fieldName encoding.element none).1

def endName : String := (fieldName (encoding.element + 1) none).1

/-- What the field of a time decodes to. -/
def value (instant : Nat) : Value := decodeValue (encoding.bytes instant) (fieldName encoding.element none).2

theorem kind_start : (fieldName encoding.element none).2 = if encoding.isNtp then .ntp else .uint := by
  cases encoding <;> decide

theorem kind_end : (fieldName (encoding.element + 1) none).2 = (fieldName encoding.element none).2 := by
  cases encoding <;> decide

end TimeEncoding

/-- The keys of times. -/
def timeKeys : List String := durationKeys.flatMap fun key => [key.1, key.2.1]

/-- A record carries the two times in this encoding, and no other time. -/
structure Carries (encoding : TimeEncoding) (start finish : Nat) (rec : Rec) : Prop where
  start : rec.get? encoding.startName =
    some (decodeValue (encoding.bytes start) (fieldName encoding.element none).2)
  finish : rec.get? encoding.endName =
    some (decodeValue (encoding.bytes finish) (fieldName (encoding.element + 1) none).2)
  alone : ∀ name ∈ timeKeys, name ≠ encoding.startName → name ≠ encoding.endName → rec.get? name = none

/-! ## What a time decodes to -/

/-- The first whole UNIX second whose NTP seconds have turned over. -/
def ntpTurnover : Nat := 2085978496

namespace TimeEncoding

theorem ntpValue_whole (field : Nat) :
    ntpValue (field * 2 ^ 32) = if field = 0 then .int 0 else .float ((field : Rat) - 2208988800) := by
  rw [ntpValue]
  by_cases zero : field = 0
  · simp [zero]
  · have word : field * 2 ^ 32 ≠ 0 := by omega
    have high : field * 2 ^ 32 / 2 ^ 32 = field := Nat.mul_div_cancel _ (by decide)
    have low : field * 2 ^ 32 % 2 ^ 32 = 0 := Nat.mul_mod_left _ _
    rw [if_neg word, if_neg zero, high, low]
    simp [ntpEpoch]

theorem value_eq {instant : Nat} (fits : instant < 2 ^ 32) (encoding : TimeEncoding) :
    encoding.value instant =
      if encoding.isNtp then
        if ntpSeconds instant = 0 then .int 0 else .float ((ntpSeconds instant : Rat) - 2208988800)
      else .int (instant * encoding.divisor) := by
  have ntp : decodeValue (toBytes 8 (ntpSeconds instant * 2 ^ 32)) .ntp =
      if ntpSeconds instant = 0 then .int 0 else .float ((ntpSeconds instant : Rat) - 2208988800) := by
    have small : ntpSeconds instant < 2 ^ 32 := Nat.mod_lt _ (by decide)
    rw [decodeValue, if_pos (length_toBytes 8 _), beNat_toBytes, Nat.mod_eq_of_lt (by omega), ntpValue_whole]
  rw [value, kind_start]
  cases encoding with
  | seconds =>
    simp only [isNtp, bytes, divisor, Bool.false_eq_true, if_false, decodeValue, beNat_toBytes]
    rw [Nat.mod_eq_of_lt (by omega), Nat.mul_one]
  | milliseconds =>
    simp only [isNtp, bytes, divisor, Bool.false_eq_true, if_false, decodeValue, beNat_toBytes]
    rw [Nat.mod_eq_of_lt (by omega), Nat.mul_comm]
  | microseconds =>
    simp only [isNtp, bytes, if_true]
    exact ntp
  | nanoseconds =>
    simp only [isNtp, bytes, if_true]
    exact ntp

theorem divisor_of_ntp {encoding : TimeEncoding} (ntp : encoding.isNtp = true) : encoding.divisor = 1 := by
  cases encoding with
  | seconds => rfl
  | milliseconds => cases ntp
  | microseconds => rfl
  | nanoseconds => rfl

theorem divisor_pos (encoding : TimeEncoding) : 0 < encoding.divisor := by
  cases encoding <;> decide

theorem divisor_le (encoding : TimeEncoding) : encoding.divisor ≤ 1000 := by
  cases encoding <;> decide

/-- The time arrives as it was sent. -/
def Arrives (encoding : TimeEncoding) (instant : Nat) : Prop := encoding.isNtp = true → instant < ntpTurnover

section Arriving

variable {instant : Nat} {encoding : TimeEncoding}

/-- A time that arrives is what was sent, in its unit. -/
theorem value_of_arrives (fits : instant < 2 ^ 32) (arrives : encoding.Arrives instant) :
    encoding.value instant = if encoding.isNtp then .float instant else .int (instant * encoding.divisor) := by
  rw [value_eq fits]
  cases ntp : encoding.isNtp with
  | false => simp only [Bool.false_eq_true, if_false]
  | true =>
    have early := arrives ntp
    have whole : ntpSeconds instant = instant + 2208988800 := by
      rw [ntpSeconds]
      rw [ntpTurnover] at early
      omega
    rw [whole, if_pos rfl, if_pos rfl, if_neg (by omega), Nat.cast_add]
    norm_num

theorem exact_of_arrives (fits : instant < 2 ^ 32) (arrives : encoding.Arrives instant) :
    (encoding.value instant).exact = some ((instant : Rat) * encoding.divisor) := by
  rw [value_of_arrives fits arrives]
  cases ntp : encoding.isNtp with
  | false => simp [Value.exact]
  | true => simp [Value.exact, divisor_of_ntp ntp]

theorem truthy_of_arrives (positive : 0 < instant) (fits : instant < 2 ^ 32) (arrives : encoding.Arrives instant) :
    (encoding.value instant).truthy = true := by
  have unit := encoding.divisor_pos
  rw [value_of_arrives fits arrives]
  cases encoding.isNtp with
  | false => simp [Value.truthy, positive.ne', unit.ne']
  | true => simp [Value.truthy, positive.ne']

theorem subtracts_of_arrive {other : Nat} (fits : instant < 2 ^ 32) (fits' : other < 2 ^ 32)
    (arrives : encoding.Arrives instant) (arrives' : encoding.Arrives other) :
    Subtracts (encoding.value instant) (encoding.value other) ∧ (encoding.value other).Converts := by
  rw [value_of_arrives fits arrives, value_of_arrives fits' arrives']
  cases encoding.isNtp with
  | false =>
    have large : instant * encoding.divisor ≤ 2 ^ 32 * 1000 := Nat.mul_le_mul fits.le encoding.divisor_le
    have large' : other * encoding.divisor ≤ 2 ^ 32 * 1000 := Nat.mul_le_mul fits'.le encoding.divisor_le
    simp only [Bool.false_eq_true, if_false]
    exact ⟨subtracts_int.mpr (Number.converts_int.mpr (fitsDouble_of_natAbs_lt (by omega))),
      Value.converts_int.mpr (Number.converts_int.mpr (fitsDouble_of_natAbs_lt (by omega)))⟩
  | true => exact ⟨⟨trivial, trivial⟩, trivial⟩

end Arriving

/-- From the turnover on an NTP time reads as before 1970, or as unset. -/
theorem value_after {instant : Nat} (fits : instant < 2 ^ 32) (after : ntpTurnover ≤ instant) {encoding : TimeEncoding}
    (ntp : encoding.isNtp = true) :
    encoding.value instant = if instant = ntpTurnover then .int 0 else .float ((instant : Rat) - 2 ^ 32) := by
  have turned : ntpSeconds instant = instant - ntpTurnover := by
    rw [ntpSeconds]
    rw [ntpTurnover] at after ⊢
    omega
  rw [value_eq fits, if_pos ntp, turned]
  by_cases exactly : instant = ntpTurnover
  · rw [if_pos (by omega), if_pos exactly]
  · rw [if_neg (by omega), if_neg exactly, Nat.cast_sub after, ntpTurnover]
    norm_num
    ring

/-! ## Where a record's times are looked for -/

/-- A key of times in other encodings. -/
def Foreign (encoding : TimeEncoding) (name : String) : Prop :=
  name ∈ timeKeys ∧ name ≠ encoding.startName ∧ name ≠ encoding.endName

instance (encoding : TimeEncoding) (name : String) : Decidable (encoding.Foreign name) :=
  inferInstanceAs (Decidable (_ ∧ _))

/-- The place of the encoding among the keys. -/
def place : TimeEncoding → Nat
  | milliseconds => 0
  | seconds => 1
  | microseconds => 2
  | nanoseconds => 3

theorem startKeys_split (encoding : TimeEncoding) :
    ∃ before after, startKeys = before ++ (encoding.startName, (encoding.divisor : Rat)) :: after ∧
      ∀ key ∈ before, encoding.Foreign key.1 := by
  refine ⟨startKeys.take encoding.place, startKeys.drop (encoding.place + 1), ?_⟩
  cases encoding <;> decide

theorem durationKeys_split (encoding : TimeEncoding) :
    ∃ before after,
      durationKeys = before ++ (encoding.startName, encoding.endName, (encoding.divisor : Rat)) :: after ∧
        ∀ key ∈ before ++ after, encoding.Foreign key.1 := by
  refine ⟨durationKeys.take encoding.place, durationKeys.drop (encoding.place + 1), ?_⟩
  cases encoding <;> decide

end TimeEncoding

/-! ## Records with one encoding of times -/

/-- Pairs that are not set are passed over. -/
theorem flowDurationLoop_append {round : Rat → Rat} {rec : Rec} {before : List (String × String × Rat)}
    (unset : ∀ key ∈ before, rec.getTruthy key.1 = none) (keys : List (String × String × Rat)) :
    flowDurationLoop round rec (before ++ keys) = flowDurationLoop round rec keys := by
  induction before with
  | nil => rfl
  | cons key before inductionHypothesis =>
    obtain ⟨first, rest⟩ := List.forall_mem_cons.mp unset
    rw [List.cons_append, flowDurationLoop_unset (.inl first), inductionHypothesis rest]

theorem flowDurationLoop_none {round : Rat → Rat} {rec : Rec} {keys : List (String × String × Rat)}
    (unset : ∀ key ∈ keys, rec.getTruthy key.1 = none) : flowDurationLoop round rec keys = .ok none := by
  have skipped := @flowDurationLoop_append round _ _ unset []
  rw [List.append_nil] at skipped
  exact skipped

namespace Carries

variable {encoding : TimeEncoding} {start finish : Nat} {rec : Rec}

theorem unset (carries : Carries encoding start finish rec) {name : String} (foreign : encoding.Foreign name) :
    rec.getTruthy name = none := by
  rw [Rec.getTruthy, carries.alone name foreign.1 foreign.2.1 foreign.2.2]
  rfl

theorem getTruthy_start (carries : Carries encoding start finish rec) :
    rec.getTruthy encoding.startName = if (encoding.value start).truthy then some (encoding.value start) else none := by
  rw [Rec.getTruthy, carries.start]
  exact Option.filter_some ..

theorem getTruthy_finish (carries : Carries encoding start finish rec) :
    rec.getTruthy encoding.endName = if (encoding.value finish).truthy then some (encoding.value finish) else none := by
  rw [Rec.getTruthy, carries.finish, encoding.kind_end]
  exact Option.filter_some ..

/-- A start that is set is the one found. -/
theorem startStamp_eq (carries : Carries encoding start finish rec) (truthy : (encoding.value start).truthy = true) :
    startStamp rec = some (encoding.value start, (encoding.divisor : Rat)) := by
  obtain ⟨before, after, split, foreign⟩ := encoding.startKeys_split
  have skipped : (before.findSome? fun key => (rec.getTruthy key.1).map fun value => (value, key.2)) = none := by
    rw [List.findSome?_eq_none_iff]
    intro key member
    rw [carries.unset (foreign key member)]
    rfl
  have found := carries.getTruthy_start
  rw [if_pos truthy] at found
  rw [startStamp, split, List.findSome?_append, skipped, Option.none_or, List.findSome?_cons, found]
  rfl

/-- A duration is told from the one pair there is, or not at all. -/
theorem flowDuration_eq (carries : Carries encoding start finish rec) :
    flowDuration id rec =
      flowDurationLoop id rec [(encoding.startName, encoding.endName, (encoding.divisor : Rat))] := by
  obtain ⟨before, after, split, foreign⟩ := encoding.durationKeys_split
  have unset : ∀ key ∈ before ++ after, rec.getTruthy key.1 = none := fun key member => carries.unset (foreign key member)
  obtain ⟨unsetBefore, unsetAfter⟩ := List.forall_mem_append.mp unset
  rw [flowDuration, split, flowDurationLoop_append unsetBefore]
  simp only [flowDurationLoop, flowDurationLoop_none unsetAfter]

/-- Times that arrive give the start and the duration that were sent. -/
theorem agrees (carries : Carries encoding start finish rec) (positive : 0 < start) (ordered : start ≤ finish)
    (fits : finish < 2 ^ 32) (arrives : encoding.Arrives finish) (header : Header) (now : Option Number) (clock : Rat) :
    flowTimestamp id rec header now clock = .ok (.float start) ∧
      flowDuration id rec = .ok (some (.float ((finish : Rat) - start))) := by
  have startFits : start < 2 ^ 32 := by omega
  have startArrives : encoding.Arrives start := fun ntp => Nat.lt_of_le_of_lt ordered (arrives ntp)
  have startExact := TimeEncoding.exact_of_arrives startFits startArrives
  have finishExact := TimeEncoding.exact_of_arrives fits arrives
  have startTruthy := TimeEncoding.truthy_of_arrives positive startFits startArrives
  have finishTruthy := TimeEncoding.truthy_of_arrives (by omega : 0 < finish) fits arrives
  obtain ⟨subtracts, converts⟩ := TimeEncoding.subtracts_of_arrive fits startFits arrives startArrives
  have unit : (encoding.divisor : Rat) ≠ 0 := by exact_mod_cast encoding.divisor_pos.ne'
  constructor
  · rw [flowTimestamp, carries.startStamp_eq startTruthy]
    simp only
    rw [Value.div_exact startExact converts, mul_div_cancel_right₀ _ unit]
  · have found := carries.getTruthy_start
    have foundEnd := carries.getTruthy_finish
    rw [if_pos startTruthy] at found
    rw [if_pos finishTruthy] at foundEnd
    have inOrder : (start : Rat) * encoding.divisor ≤ finish * encoding.divisor := by
      exact_mod_cast Nat.mul_le_mul_right _ ordered
    rw [carries.flowDuration_eq, flowDurationLoop_set found foundEnd startExact finishExact subtracts, if_pos inOrder,
      ← sub_mul, mul_div_cancel_right₀ _ unit]

/-- Without a start or an end that is set there is no duration. -/
theorem flowDuration_none (carries : Carries encoding start finish rec)
    (unset : rec.getTruthy encoding.startName = none ∨ rec.getTruthy encoding.endName = none) :
    flowDuration id rec = .ok none := by
  rw [carries.flowDuration_eq, flowDurationLoop_unset unset]
  rfl

/-- An end after the turnover lies before any start that arrives, or is unset. -/
theorem flowDuration_turned (carries : Carries encoding start finish rec) (fits : finish < 2 ^ 32) (positive : 0 < start)
    (ntp : encoding.isNtp = true) (early : start < ntpTurnover) (turned : ntpTurnover ≤ finish) :
    flowDuration id rec = .ok none := by
  have finishValue := TimeEncoding.value_after fits turned ntp
  have foundEnd := carries.getTruthy_finish
  by_cases exactly : finish = ntpTurnover
  · rw [finishValue, if_pos exactly] at foundEnd
    exact carries.flowDuration_none (.inr foundEnd)
  · rw [if_neg exactly] at finishValue
    have startFits : start < 2 ^ 32 := by omega
    have startArrives : encoding.Arrives start := fun _ => early
    have startTruthy := TimeEncoding.truthy_of_arrives positive startFits startArrives
    have found := carries.getTruthy_start
    have startExact := TimeEncoding.exact_of_arrives startFits startArrives
    have startValue := TimeEncoding.value_of_arrives startFits startArrives
    rw [if_pos ntp] at startValue
    have negative : (finish : Rat) - 2 ^ 32 < 0 := by
      have small : (finish : Rat) < 2 ^ 32 := by exact_mod_cast fits
      linarith
    have finishTruthy : (encoding.value finish).truthy = true := by
      rw [finishValue]
      simp [Value.truthy, negative.ne]
    rw [if_pos startTruthy] at found
    rw [if_pos finishTruthy, finishValue] at foundEnd
    have subtracts : Subtracts (.float ((finish : Rat) - 2 ^ 32)) (encoding.value start) := by
      rw [startValue]
      exact ⟨trivial, trivial⟩
    rw [carries.flowDuration_eq, flowDurationLoop_set found foundEnd startExact rfl subtracts, if_neg]
    · rfl
    · have begins : (0 : Rat) ≤ start * encoding.divisor := by positivity
      linarith

/-- A start after the turnover reads as before 1970. -/
theorem flowTimestamp_turned (carries : Carries encoding start finish rec) (fits : start < 2 ^ 32)
    (ntp : encoding.isNtp = true) (turned : ntpTurnover < start) (header : Header) (now : Option Number) (clock : Rat) :
    flowTimestamp id rec header now clock = .ok (.float ((start : Rat) - 2 ^ 32)) := by
  have startValue := TimeEncoding.value_after fits turned.le ntp
  rw [if_neg turned.ne'] at startValue
  have negative : (start : Rat) - 2 ^ 32 < 0 := by
    have small : (start : Rat) < 2 ^ 32 := by exact_mod_cast fits
    linarith
  have truthy : (encoding.value start).truthy = true := by
    rw [startValue]
    simp [Value.truthy, negative.ne]
  rw [flowTimestamp, carries.startStamp_eq truthy, startValue, TimeEncoding.divisor_of_ntp ntp]
  simp only
  rw [@Value.div_exact (.float ((start : Rat) - 2 ^ 32)) _ rfl trivial, Nat.cast_one, div_one]

/-- NTP times that end after the turnover lose the duration, or come to another start. -/
theorem disagrees (carries : Carries encoding start finish rec) (fits : finish < 2 ^ 32) (positive : 0 < start)
    (ordered : start ≤ finish) (ntp : encoding.isNtp = true) (turned : ntpTurnover ≤ finish) (header : Header)
    (now : Option Number) (clock : Rat) :
    ¬ (flowTimestamp id rec header now clock = .ok (.float start) ∧
      flowDuration id rec = .ok (some (.float ((finish : Rat) - start)))) := by
  rintro ⟨timestamp, duration⟩
  have startFits : start < 2 ^ 32 := by omega
  obtain early | exactly | late := Nat.lt_trichotomy start ntpTurnover
  · rw [carries.flowDuration_turned fits positive ntp early turned] at duration
    cases duration
  · have found := carries.getTruthy_start
    rw [TimeEncoding.value_after startFits exactly.ge ntp, if_pos exactly] at found
    rw [carries.flowDuration_none (.inl found)] at duration
    cases duration
  · rw [carries.flowTimestamp_turned startFits ntp late, Except.ok.injEq, Number.float.injEq] at timestamp
    norm_num at timestamp

end Carries

/-- A record of the two times. -/
def TimeEncoding.record (encoding : TimeEncoding) (start finish : Nat) : Rec :=
  recordOf [(encoding.startName, encoding.value start), (encoding.endName, encoding.value finish)]

theorem carries_record (encoding : TimeEncoding) (start finish : Nat) :
    Carries encoding start finish (encoding.record start finish) := by
  have distinct : encoding.startName ≠ encoding.endName := by cases encoding <;> decide
  have lookup : ∀ name, (encoding.record start finish).get? name =
      if name = encoding.endName then some (encoding.value finish)
      else if name = encoding.startName then some (encoding.value start) else none := by
    intro name
    simp [TimeEncoding.record, recordOf]
  constructor
  · rw [lookup, if_neg distinct, if_pos rfl]
    rfl
  · rw [lookup, if_pos rfl, encoding.kind_end]
    rfl
  · intro name _ notStart notEnd
    rw [lookup, if_neg notEnd, if_neg notStart]

/-- The four encodings of two whole seconds come to the start and the duration that were sent exactly if the later of
them is before the turnover of the NTP seconds. -/
theorem absolute_times_agree_iff {start finish : Nat} (positive : 0 < start) (ordered : start ≤ finish)
    (fits : finish < 2 ^ 32) :
    (∀ (encoding : TimeEncoding) (rec : Rec), Carries encoding start finish rec →
      ∀ (header : Header) (now : Option Number) (clock : Rat),
        flowTimestamp id rec header now clock = .ok (.float start) ∧
          flowDuration id rec = .ok (some (.float ((finish : Rat) - start)))) ↔
      finish < ntpTurnover := by
  constructor
  · intro agree
    by_contra turned
    have carries := carries_record .microseconds start finish
    let header : Header := ⟨10, none, 0, 0, 0, .obj 0⟩
    exact carries.disagrees fits positive ordered rfl (Nat.not_lt.mp turned) header none 0
      (agree .microseconds _ carries header none 0)
  · intro before encoding rec carries header now clock
    exact carries.agrees positive ordered fits (fun _ => before) header now clock

/-- A flow of twelve seconds in November 2023. -/
theorem absolute_times_agree_iff_2023 :
    (∀ (encoding : TimeEncoding) (rec : Rec), Carries encoding 1700000000 1700000012 rec →
      ∀ (header : Header) (now : Option Number) (clock : Rat),
        flowTimestamp id rec header now clock = .ok (.float (1700000000 : Nat)) ∧
          flowDuration id rec = .ok (some (.float (((1700000012 : Nat) : Rat) - (1700000000 : Nat))))) ↔
      1700000012 < ntpTurnover :=
  absolute_times_agree_iff (by decide) (by decide) (by decide)

/-- In July 2036 seconds still arrive, and NTP seconds have turned over. -/
theorem absolute_times_disagree :
    Carries .seconds 2100000000 2100000000 (TimeEncoding.seconds.record 2100000000 2100000000) ∧
      Carries .microseconds 2100000000 2100000000 (TimeEncoding.microseconds.record 2100000000 2100000000) ∧
      ∀ (header : Header) (now : Option Number) (clock : Rat),
        flowTimestamp id (TimeEncoding.seconds.record 2100000000 2100000000) header now clock =
          .ok (.float 2100000000) ∧
        flowTimestamp id (TimeEncoding.microseconds.record 2100000000 2100000000) header now clock =
          .ok (.float (-2194967296)) := by
  have seconds := carries_record .seconds 2100000000 2100000000
  have microseconds := carries_record .microseconds 2100000000 2100000000
  refine ⟨seconds, microseconds, fun header now clock => ⟨?_, ?_⟩⟩
  · rw [(seconds.agrees (by decide) le_rfl (by decide) (fun ntp => nomatch ntp) header now clock).1]
    norm_num
  · rw [microseconds.flowTimestamp_turned (by decide) rfl (by decide)]
    norm_num

end Netflume
