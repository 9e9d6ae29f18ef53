import Netflume.Wire

/-! # The parser computes the wire format

Every loop of the parser, from any offset inside its set, runs to its end,
reads only between that offset and the set's end, and has the effect
`Netflume.Wire` assigns to the bytes between the two. -/

namespace Netflume

open Library

theorem num_slice (data : Bytes) {lo hi start width : Nat} (inside : lo + (start + width) ≤ hi) :
    num (slice data lo hi) start width = num data (lo + start) width := by
  unfold num
  rw [slice_slice data inside, Nat.add_assoc]

/-- A number of the header unpacked at `off`, against the bytes from `off` to the end. -/
theorem num_window (data : Bytes) {off size fin start width : Nat} (fits : off + size ≤ fin)
    (inside : start + width ≤ size) :
    num (slice data off (off + size)) start width = num (slice data off fin) start width := by
  rw [num_slice data (by omega), num_slice data (by omega)]

section Reading

variable {σ : Type} {data : Bytes} {fin : Nat}

theorem unpackFrom_runs (off width : Nat) {lo hi : Nat} (low : lo ≤ off) (high : off + width ≤ hi)
    (inside : hi ≤ data.length) :
    Runs (unpackFrom data off width : Parse σ Bytes) (Between lo hi)
      fun out => (slice data off (off + width), out) :=
  Runs.bindRead (Runs.access (Nat.le_trans high inside) ⟨low, high⟩) (Runs.pure _)

theorem indexByte_runs (off : Nat) {lo hi : Nat} (low : lo ≤ off) (high : off + 1 ≤ hi) (inside : hi ≤ data.length) :
    Runs (indexByte data off : Parse σ Nat) (Between lo hi) fun out => (num data off 1, out) :=
  Runs.bindRead (Runs.access (Nat.le_trans high inside) ⟨low, high⟩) (Runs.pure _)

/-! ## Field specifications -/

theorem readSpec_runs {off : Nat} (ipfix : Bool) (fits : off + 4 ≤ fin) (inside : fin ≤ data.length) :
    ∃ result next, Runs (readSpec data off fin ipfix : Parse σ _) (Between off fin)
        (fun out => ((result, next), out)) ∧
      off < next ∧ next ≤ fin ∧
      wireSpec ipfix (slice data off fin) = result.map fun field => (field, slice data next fin) := by
  have length := length_slice off inside
  have first := unpackFrom_runs (σ := σ) off 4 (Nat.le_refl off) fits inside
  have eid : num (slice data off (off + 4)) 0 2 = num (slice data off fin) 0 2 :=
    num_window data fits (by decide)
  have flen : num (slice data off (off + 4)) 2 2 = num (slice data off fin) 2 2 :=
    num_window data fits (by decide)
  by_cases special : ipfix = true ∧ num (slice data off fin) 0 2 &&& 0x8000 ≠ 0
  · by_cases room : off + 4 + 4 > fin
    · refine ⟨none, off + 4, Runs.bindRead first ?_, by omega, fits, ?_⟩
      · rw [eid, if_pos special, if_pos room]
        exact Runs.pure _
      · rw [wireSpec, if_neg (by omega), if_pos special, if_pos (by omega)]
        rfl
    · have second := unpackFrom_runs (σ := σ) (off + 4) 4
        (by omega : off ≤ off + 4) (by omega : off + 4 + 4 ≤ fin) inside
      have enterprise : num (slice data (off + 4) (off + 4 + 4)) 0 4 =
          num (slice data off fin) 4 4 := by
        rw [num_slice data (by omega), num_slice data (by omega), Nat.add_zero]
      refine ⟨some (.named (num (slice data off fin) 0 2 &&& 0x7FFF) (some (num (slice data off fin) 4 4))
        (num (slice data off fin) 2 2)), off + 8, Runs.bindRead first ?_, by omega, by omega, ?_⟩
      · rw [eid, flen, if_pos special, if_neg room]
        apply Runs.bindRead second
        rw [enterprise]
        exact Runs.pure _
      · rw [wireSpec, if_neg (by omega), if_pos special, if_neg (by omega), drop_slice]
        rfl
  · refine ⟨some (.named (num (slice data off fin) 0 2) none (num (slice data off fin) 2 2)), off + 4,
      Runs.bindRead first ?_, by omega, fits, ?_⟩
    · rw [eid, flen, if_neg special]
      exact Runs.pure _
    · rw [wireSpec, if_neg (by omega), if_neg special, drop_slice]
      rfl

/-- Reading with a count: the specifications asked for, or fewer when the set ends first.  The induction is on the
fuel: each specification read brings the offset closer to `fin`. -/
theorem readTemplateFieldsLoop_runs (ipfix : Bool) (inside : fin ≤ data.length) (fuel off : Nat)
    (fields : List Field) (wanted : Nat) (below : off ≤ fin) (fueled : fin - off < fuel) :
    ∃ got next, Runs (readTemplateFieldsLoop data fin ipfix (some (fields.length + wanted)) fuel off fields :
        Parse σ _) (Between off fin) (fun out => ((fields ++ got, next), out)) ∧
      off ≤ next ∧ next ≤ fin ∧
      (wireSpecs ipfix wanted (slice data off fin) = some (got, slice data next fin) ∨
        wireSpecs ipfix wanted (slice data off fin) = none ∧ got.length < wanted) := by
  induction fuel generalizing off fields wanted with
  | zero => omega
  | succ fuel inductionHypothesis =>
    simp only [readTemplateFieldsLoop]
    cases wanted with
    | zero =>
      refine ⟨[], off, ?_, Nat.le_refl _, below, .inl rfl⟩
      split
      · rw [if_pos (by simp), List.append_nil]
        exact Runs.pure _
      · rw [List.append_nil]
        exact Runs.pure _
    | succ wanted =>
      by_cases fits : off + 4 ≤ fin
      · rw [if_pos fits, if_neg (by simp)]
        obtain ⟨result, next, specRuns, advanced, nextBelow, meaning⟩ :=
          readSpec_runs (σ := σ) ipfix fits inside
        cases result with
        | none =>
          refine ⟨[], next, Runs.bindRead specRuns ?_, by omega, nextBelow, .inr ⟨?_, by simp⟩⟩
          · rw [List.append_nil]
            exact Runs.pure _
          · simp only [wireSpecs, meaning, Option.map_none]
        | some field =>
          have counted : fields.length + (wanted + 1) = (fields ++ [field]).length + wanted := by
            rw [List.length_append, List.length_singleton]
            omega
          obtain ⟨got, last, loopRuns, lastAfter, lastBelow, tail⟩ :=
            inductionHypothesis next (fields ++ [field]) wanted nextBelow (by omega)
          refine ⟨field :: got, last, Runs.bindRead specRuns ?_, by omega, lastBelow, ?_⟩
          · rw [counted, List.append_cons fields field got]
            exact loopRuns.mono fun read granted => granted.widen (Nat.le_of_lt advanced) (Nat.le_refl _)
          · simp only [wireSpecs, meaning, Option.map_some]
            rcases tail with complete | ⟨truncated, short⟩
            · exact .inl (by simp [complete])
            · exact .inr ⟨by simp [truncated], by simpa using short⟩
      · rw [if_neg fits]
        refine ⟨[], off, ?_, Nat.le_refl _, below, .inr ⟨?_, by simp⟩⟩
        · rw [List.append_nil]
          exact Runs.pure _
        · have tooShort : wireSpec ipfix (slice data off fin) = none := by
            rw [wireSpec, if_pos (by rw [length_slice _ inside]; omega)]
          simp only [wireSpecs, tooShort]

/-- Reading a v9 half: whole 4-byte specifications to the end. -/
theorem readTemplateFieldsLoop_half_runs (inside : fin ≤ data.length) (fuel off : Nat) (fields : List Field)
    (count : Nat) (aligned : fin = off + 4 * count) (fueled : fin - off < fuel) :
    ∃ got, Runs (readTemplateFieldsLoop data fin false none fuel off fields : Parse σ _)
        (Between off fin) (fun out => ((fields ++ got, fin), out)) ∧
      wireSpecs false count (slice data off fin) = some (got, []) := by
  induction fuel generalizing off fields count with
  | zero => omega
  | succ fuel inductionHypothesis =>
    simp only [readTemplateFieldsLoop]
    cases count with
    | zero =>
      have atEnd : off = fin := by omega
      subst atEnd
      refine ⟨[], ?_, by rw [wireSpecs, slice_empty (Nat.le_refl _)]⟩
      rw [if_neg (by omega), List.append_nil]
      exact Runs.pure _
    | succ count =>
      have fits : off + 4 ≤ fin := by omega
      rw [if_pos fits, if_neg (by simp)]
      have spec : wireSpec false (slice data off fin) = some
          (.named (num (slice data off fin) 0 2) none (num (slice data off fin) 2 2),
            slice data (off + 4) fin) := by
        rw [wireSpec, if_neg (by rw [length_slice _ inside]; omega), if_neg (by simp), drop_slice]
      obtain ⟨result, next, specRuns, advanced, nextBelow, meaning⟩ :=
        readSpec_runs (σ := σ) false fits inside
      cases result with
      | none => simp [spec] at meaning
      | some field =>
        simp only [spec, Option.map_some, Option.some.injEq, Prod.mk.injEq] at meaning
        obtain ⟨rfl, sameRest⟩ := meaning
        have atNext : next = off + 4 := by
          have lengths := congrArg List.length sameRest
          rw [length_slice _ inside, length_slice _ inside] at lengths
          omega
        subst atNext
        obtain ⟨got, loopRuns, complete⟩ :=
          inductionHypothesis (off + 4) (fields ++ [_]) count (by omega) (by omega)
        refine ⟨_ :: got, Runs.bindRead specRuns ?_, by simp only [wireSpecs, spec, complete]; rfl⟩
        rw [List.append_cons fields _ got]
        exact loopRuns.mono fun read granted => granted.widen (Nat.le_add_right _ _) (Nat.le_refl _)

/-! ## Records -/

/-- Where a field's bytes lie, against the field at the front of the slice. -/
theorem fieldExtent_runs {off : Nat} (ipfix : Bool) (flen : Nat) (inside : fin ≤ data.length) (below : off ≤ fin) :
    ∃ result, Runs (fieldExtent data off fin ipfix flen : Parse σ _) (Between off fin)
        (fun out => (result, out)) ∧
      match result with
      | none => wireField ipfix flen (slice data off fin) = none
      | some (length, start) => off ≤ start ∧
        wireField ipfix flen (slice data off fin) =
          if start + length > fin then none
          else some (slice data start (start + length), slice data (start + length) fin) := by
  have length := length_slice off inside
  rw [fieldExtent, wireField]
  by_cases varying : ipfix = true ∧ flen = variableLength
  · simp only [if_pos varying]
    by_cases empty : fin ≤ off
    · exact ⟨none, by rw [if_pos empty]; exact Runs.pure _, by simp only; rw [if_pos (by omega)]⟩
    · have first : num (slice data off fin) 0 1 = num data off 1 := by
        rw [num_slice data (by omega), Nat.add_zero]
      have firstRuns := indexByte_runs (σ := σ) off (Nat.le_refl off) (by omega : off + 1 ≤ fin) inside
      rw [if_neg empty, if_neg (show ¬ (slice data off fin).length < 1 by omega), first]
      by_cases long : num data off 1 = 255
      · simp only [if_pos long]
        by_cases room : off + 1 + 2 > fin
        · refine ⟨none, Runs.bindRead firstRuns ?_, by simp only; rw [if_pos (by omega)]⟩
          rw [if_pos long, if_pos room]
          exact Runs.pure _
        · have second : num (slice data off fin) 1 2 = num data (off + 1) 2 := num_slice data (by omega)
          have secondAgain : num (slice data (off + 1) (off + 1 + 2)) 0 2 = num data (off + 1) 2 := by
            rw [num_slice data (by omega), Nat.add_zero]
          have secondRuns := unpackFrom_runs (σ := σ) (off + 1) 2
            (by omega : off ≤ off + 1) (by omega : off + 1 + 2 ≤ fin) inside
          refine ⟨some (num data (off + 1) 2, off + 3), Runs.bindRead firstRuns ?_, by omega, ?_⟩
          · rw [if_pos long, if_neg room]
            apply Runs.bindRead secondRuns
            rw [secondAgain]
            exact Runs.pure _
          · rw [if_neg (by omega), second]
            by_cases overrun : off + 3 + num data (off + 1) 2 > fin
            · rw [if_pos (by omega), if_pos overrun]
            · rw [if_neg (by omega), if_neg overrun, slice_slice data (by omega), drop_slice]
              simp only [Nat.add_assoc]
      · refine ⟨some (num data off 1, off + 1), Runs.bindRead firstRuns ?_, by omega, ?_⟩
        · rw [if_neg long]
          exact Runs.pure _
        · rw [if_neg long]
          by_cases overrun : off + 1 + num data off 1 > fin
          · rw [if_pos (by omega), if_pos overrun]
          · rw [if_neg (by omega), if_neg overrun, slice_slice data (by omega), drop_slice]
            simp only [Nat.add_assoc]
  · simp only [if_neg varying]
    refine ⟨some (flen, off), Runs.pure _, Nat.le_refl _, ?_⟩
    by_cases overrun : off + flen > fin
    · rw [if_pos (by omega), if_pos overrun]
    · rw [if_neg (by omega), if_neg overrun, take_slice data (by omega), drop_slice]

/-- A slice never raises, so only the bound of the field has to be granted. -/
theorem parseDataRecord_runs (ipfix dedupe : Bool) (inside : fin ≤ data.length) (fields : List Field)
    (off : Nat) (rec : Rec) (below : off ≤ fin) :
    ∃ result next, Runs (parseDataRecord data fin ipfix dedupe fields off rec : Parse σ _)
        (Between off fin) (fun out => ((result, next), out)) ∧
      off ≤ next ∧ next ≤ fin ∧
      wireRecord ipfix dedupe fields rec (slice data off fin) =
        result.map fun rec => (rec, slice data next fin) := by
  induction fields generalizing off rec with
  | nil => exact ⟨some rec, off, Runs.pure _, Nat.le_refl _, below, rfl⟩
  | cons field fields inductionHypothesis =>
    obtain ⟨extent, extentRuns, meaning⟩ := fieldExtent_runs (σ := σ) ipfix field.length inside below
    simp only [parseDataRecord, wireRecord]
    match extent with
    | none =>
      refine ⟨none, fin, Runs.bindRead extentRuns (Runs.pure _), below, Nat.le_refl _, ?_⟩
      simp only at meaning
      rw [meaning]
      rfl
    | some (length, start) =>
      obtain ⟨after, field_eq⟩ := meaning
      rw [field_eq]
      by_cases overrun : start + length > fin
      · refine ⟨none, fin, Runs.bindRead extentRuns ?_, below, Nat.le_refl _, by rw [if_pos overrun]; rfl⟩
        simp only [if_pos overrun]
        exact Runs.pure _
      · obtain ⟨result, next, restRuns, nextAfter, nextBelow, rest⟩ :=
          inductionHypothesis (start + length)
            (rec.assign dedupe field.name (decodeValue (slice data start (start + length)) field.kind))
            (by omega)
        refine ⟨result, next, Runs.bindRead extentRuns ?_, by omega, nextBelow, ?_⟩
        · simp only [if_neg overrun]
          refine Runs.bindRead (Runs.bindRead (Runs.glance ⟨after, by simp only; omega⟩) (Runs.pure _)) ?_
          exact restRuns.mono fun read granted => granted.widen (by omega) (Nat.le_refl _)
        · rw [if_neg overrun]
          exact rest

end Reading

/-! ## The bodies of the sets -/

section Sets

variable {data : Bytes} {setEnd : Nat} (exporter : Exporter) (domain : Nat) (ipfix : Bool)

theorem act_runs {allowed : Read → Prop} (change : Sink → Sink) :
    Runs (act change) allowed fun sink => ((), change sink) := Runs.update _

/-- A step of a set's loop that files a template, then goes on. -/
theorem file_runs {allowed : Read → Prop} {next : Parse Sink Unit} {options : Bool} {tid : Nat}
    {fields : List Field} {rest : List (Nat × List Field)}
    (nextRuns : Runs next allowed fun sink => ((), putAll exporter domain options sink rest)) :
    Runs (do act fun sink => sink.put ⟨exporter, domain, tid⟩ fields options; next) allowed fun sink =>
      ((), putAll exporter domain options sink ((tid, fields) :: rest)) :=
  (Runs.seq (act_runs _) nextRuns).congr fun _ => rfl

/-- The count decides: all the specifications declared were read, or the set ended mid-template. -/
theorem templateSetLoop_runs (inside : setEnd ≤ data.length) (fuel body : Nat) (below : body ≤ setEnd)
    (fueled : setEnd - body < fuel) :
    Runs (templateSetLoop data exporter domain ipfix setEnd fuel body) (Between body setEnd) fun sink =>
      ((), putAll exporter domain false sink (wireTemplates ipfix (slice data body setEnd))) := by
  induction fuel generalizing body with
  | zero => omega
  | succ fuel inductionHypothesis =>
    have length := length_slice body inside
    rw [wireTemplates_eq]
    simp only [templateSetLoop]
    by_cases fits : body + 4 ≤ setEnd
    · rw [if_pos fits, if_neg (by omega)]
      have tid : num (slice data body (body + 4)) 0 2 = num (slice data body setEnd) 0 2 :=
        num_window data fits (by decide)
      have count : num (slice data body (body + 4)) 2 2 = num (slice data body setEnd) 2 2 :=
        num_window data fits (by decide)
      apply Runs.bindRead (unpackFrom_runs _ _ (Nat.le_refl body) fits inside)
      rw [tid, count]
      by_cases withdrawal : num (slice data body setEnd) 2 2 = 0
      · rw [if_pos withdrawal, if_pos withdrawal, drop_slice]
        exact (inductionHypothesis (body + 4) fits (by omega)).mono fun read granted =>
          granted.widen (Nat.le_add_right _ _) (Nat.le_refl _)
      · rw [if_neg withdrawal, if_neg withdrawal]
        obtain ⟨got, next, readRuns, after, nextBelow, meaning⟩ :=
          readTemplateFieldsLoop_runs (σ := Sink) ipfix inside (setEnd - (body + 4) + 1) (body + 4) []
            (num (slice data body setEnd) 2 2) fits (Nat.lt_succ_self _)
        rw [List.length_nil, Nat.zero_add] at readRuns
        refine Runs.bindRead (readRuns.mono fun read granted =>
          granted.widen (Nat.le_add_right _ _) (Nat.le_refl _)) ?_
        simp only [List.nil_append]
        rw [drop_slice]
        rcases meaning with complete | ⟨truncated, short⟩
        · have whole := (wireSpecs_suffix complete).1
          rw [complete, if_neg (by simpa using whole)]
          exact file_runs exporter domain ((inductionHypothesis next nextBelow (by omega)).mono
            fun read granted => granted.widen (by omega) (Nat.le_refl _))
        · rw [truncated, if_pos (by omega)]
          exact Runs.pure _
    · rw [if_neg fits, if_pos (by omega)]
      exact Runs.pure _

theorem optionsIpfixLoop_runs (inside : setEnd ≤ data.length) (fuel body : Nat) (below : body ≤ setEnd)
    (fueled : setEnd - body < fuel) :
    Runs (optionsTemplateSetLoop data exporter domain true setEnd fuel body) (Between body setEnd)
      fun sink => ((), putAll exporter domain true sink (wireOptionsIpfix (slice data body setEnd))) := by
  induction fuel generalizing body with
  | zero => omega
  | succ fuel inductionHypothesis =>
    have length := length_slice body inside
    rw [wireOptionsIpfix_eq]
    simp only [optionsTemplateSetLoop]
    by_cases fits : body + 6 ≤ setEnd
    · rw [if_pos fits, if_neg (show ¬ (slice data body setEnd).length < 6 by omega)]
      have tid : num (slice data body (body + 6)) 0 2 = num (slice data body setEnd) 0 2 :=
        num_window data fits (by decide)
      have count : num (slice data body (body + 6)) 2 2 = num (slice data body setEnd) 2 2 :=
        num_window data fits (by decide)
      apply Runs.bindRead (unpackFrom_runs _ _ (Nat.le_refl body) fits inside)
      rw [tid, count, if_pos trivial]
      obtain ⟨got, next, readRuns, after, nextBelow, meaning⟩ :=
        readTemplateFieldsLoop_runs (σ := Sink) true inside (setEnd - (body + 6) + 1) (body + 6) []
          (num (slice data body setEnd) 2 2) fits (Nat.lt_succ_self _)
      rw [List.length_nil, Nat.zero_add] at readRuns
      refine Runs.bindRead (readRuns.mono fun read granted =>
        granted.widen (Nat.le_add_right _ _) (Nat.le_refl _)) ?_
      simp only [List.nil_append]
      rw [drop_slice]
      rcases meaning with complete | ⟨truncated, short⟩
      · have whole := (wireSpecs_suffix complete).1
        rw [complete, if_neg (by simpa using whole)]
        by_cases none : num (slice data body setEnd) 2 2 = 0
        · rw [if_pos (List.length_eq_zero_iff.mp (whole.trans none)), if_pos none]
          exact Runs.pure _
        · rw [if_neg (fun empty => none (by rw [← whole, empty]; rfl)), if_neg none]
          exact file_runs exporter domain ((inductionHypothesis next nextBelow (by omega)).mono
            fun read granted => granted.widen (by omega) (Nat.le_refl _))
      · rw [truncated, if_pos (by omega), if_neg (show ¬ num (slice data body setEnd) 2 2 = 0 by omega)]
        exact Runs.pure _
    · rw [if_neg fits, if_pos (by omega)]
      exact Runs.pure _

/-- The two halves of an aligned v9 options template read as one run of specifications. -/
theorem wireSpecs_halves (data : Bytes) {start middle fin setEnd : Nat} {first second : List Field}
    {scopes opts : Nat} (low : start ≤ middle) (high : middle ≤ fin) (within : fin ≤ setEnd)
    (firstRead : wireSpecs false scopes (slice data start middle) = some (first, []))
    (secondRead : wireSpecs false opts (slice data middle fin) = some (second, [])) :
    wireSpecs false (scopes + opts) (slice data start setEnd) =
      some (first ++ second, slice data fin setEnd) := by
  rw [← slice_split data low (Nat.le_trans high within), ← slice_split data high within]
  exact wireSpecs_add (wireSpecs_append firstRead _) (wireSpecs_append secondRead _)

/-- Where the template overruns, the parser goes on from the set's end, and nothing is left to read. -/
theorem optionsV9Loop_runs (inside : setEnd ≤ data.length) (fuel body : Nat) (below : body ≤ setEnd)
    (fueled : setEnd - body < fuel) :
    Runs (optionsTemplateSetLoop data exporter domain false setEnd fuel body) (Between body setEnd)
      fun sink => ((), putAll exporter domain true sink (wireOptionsV9 (slice data body setEnd))) := by
  induction fuel generalizing body with
  | zero => omega
  | succ fuel inductionHypothesis =>
    have length := length_slice body inside
    rw [wireOptionsV9]
    simp only [optionsTemplateSetLoop]
    by_cases fits : body + 6 ≤ setEnd
    · rw [if_pos fits, if_neg (show ¬ (slice data body setEnd).length < 6 by omega)]
      have tid : num (slice data body (body + 6)) 0 2 = num (slice data body setEnd) 0 2 :=
        num_window data fits (by decide)
      have scopeLen : num (slice data body (body + 6)) 2 2 = num (slice data body setEnd) 2 2 :=
        num_window data fits (by decide)
      have optLen : num (slice data body (body + 6)) 4 2 = num (slice data body setEnd) 4 2 :=
        num_window data fits (by decide)
      apply Runs.bindRead (unpackFrom_runs _ _ (Nat.le_refl body) fits inside)
      rw [tid, scopeLen, optLen]
      generalize num (slice data body setEnd) 2 2 = scopeLen
      generalize num (slice data body setEnd) 4 2 = optLen
      simp only [Bool.false_eq_true, if_false]
      have goOn : ∀ next, next = min (body + 6 + scopeLen + optLen) setEnd →
          Runs (optionsTemplateSetLoop data exporter domain false setEnd fuel next) (Between body setEnd)
            fun sink => ((), putAll exporter domain true sink (wireOptionsV9 (slice data next setEnd))) :=
        fun next atNext => (inductionHypothesis next (by omega) (by omega)).mono
          fun read granted => granted.widen (by omega) (Nat.le_refl _)
      by_cases overrun : body + 6 + scopeLen + optLen > setEnd
      · have overrunsSlice : (slice data body setEnd).length < 6 + scopeLen + optLen := by omega
        rw [if_pos (.inr (.inr overrun)), if_pos overrunsSlice]
        have atEnd := goOn setEnd (by omega)
        rw [slice_empty (Nat.le_refl _), wireOptionsV9, if_pos (by simp)] at atEnd
        rw [Nat.min_eq_right (by omega)]
        exact atEnd
      · rw [if_neg (show ¬ (slice data body setEnd).length < 6 + scopeLen + optLen by omega),
          Nat.min_eq_left (by omega), drop_slice, drop_slice]
        have restAt : body + (6 + scopeLen + optLen) = body + 6 + scopeLen + optLen := by omega
        rw [restAt]
        have restRuns := goOn (body + 6 + scopeLen + optLen) (Nat.min_eq_left (by omega)).symm
        by_cases misaligned : scopeLen % 4 ≠ 0 ∨ optLen % 4 ≠ 0
        · rw [if_pos misaligned, if_pos (by omega)]
          exact restRuns
        · rw [if_neg misaligned, if_neg (by omega)]
          obtain ⟨scopes, scopesRun, scopesRead⟩ :=
            readTemplateFieldsLoop_half_runs (σ := Sink) (by omega : body + 6 + scopeLen ≤ data.length) _
              (body + 6) [] (scopeLen / 4) (by omega) (Nat.lt_succ_self _)
          obtain ⟨opts, optsRun, optsRead⟩ :=
            readTemplateFieldsLoop_half_runs (σ := Sink)
              (by omega : body + 6 + scopeLen + optLen ≤ data.length) _ (body + 6 + scopeLen) [] (optLen / 4) (by omega)
                (Nat.lt_succ_self _)
          have halves : (scopeLen + optLen) / 4 = scopeLen / 4 + optLen / 4 := by omega
          have whole := wireSpecs_halves data (Nat.le_add_right _ _) (Nat.le_add_right _ _)
            (by omega : body + 6 + scopeLen + optLen ≤ setEnd) scopesRead optsRead
          rw [halves, whole]
          apply Runs.bindRead (scopesRun.mono fun read granted => granted.widen (by omega) (by omega))
          apply Runs.bindRead (optsRun.mono fun read granted => granted.widen (by omega) (by omega))
          simp only [List.nil_append]
          cases scopes ++ opts with
          | nil =>
            rw [if_pos rfl]
            exact Runs.pure _
          | cons field fields =>
            rw [if_neg (by simp)]
            exact file_runs exporter domain restRuns
    · rw [if_neg fits, if_pos (by omega)]
      exact Runs.pure _

/-- The progress test of the source is the length test of `wireRecords`. -/
theorem dataLoop_runs (inside : setEnd ≤ data.length) (fields : List Field) (isOptions : Bool)
    (fuel body : Nat) (below : body ≤ setEnd) (fueled : setEnd - body < fuel) :
    Runs (dataLoop data ipfix setEnd fields isOptions fuel body) (Between body setEnd) fun sink =>
      ((), appendAll isOptions sink (wireRecords ipfix fields (slice data body setEnd))) := by
  induction fuel generalizing body with
  | zero => omega
  | succ fuel inductionHypothesis =>
    have length := length_slice body inside
    rw [wireRecords]
    simp only [dataLoop]
    by_cases fits : body + recordMinLength fields ≤ setEnd
    · rw [if_pos fits, if_neg (by omega)]
      obtain ⟨result, next, recordRuns, after, nextBelow, meaning⟩ :=
        parseDataRecord_runs (σ := Sink) ipfix (repeatsName fields) inside fields body .empty below
      rw [meaning]
      cases result with
      | none => exact Runs.bindRead recordRuns (Runs.pure _)
      | some rec =>
        apply Runs.bindRead recordRuns
        simp only [Option.map_some]
        by_cases stuck : next ≤ body
        · rw [if_pos stuck, if_neg (by rw [length_slice _ inside]; omega)]
          exact Runs.pure _
        · rw [if_neg stuck, if_pos (by rw [length_slice _ inside]; omega)]
          have restRuns := (inductionHypothesis next nextBelow (by omega)).mono fun read granted =>
            granted.widen after (Nat.le_refl _)
          exact (Runs.seq (act_runs _) restRuns).congr fun _ => rfl
    · rw [if_neg fits, if_pos (by omega)]
      exact Runs.pure _

theorem dataSet_runs (inside : setEnd ≤ data.length) (setId body : Nat) (below : body ≤ setEnd) :
    Runs (dataSet data exporter domain ipfix setId body setEnd) (Between body setEnd) fun sink =>
      ((), applyData ipfix (slice data body setEnd) (sink.get ⟨exporter, domain, setId⟩).1
        (sink.get ⟨exporter, domain, setId⟩).2) := by
  refine @Runs.bind _ _ _ _ _ _ _ _
    (fun held sink => ((), applyData ipfix (slice data body setEnd) held sink)) (Runs.update _) fun sink => ?_
  generalize (sink.get ⟨exporter, domain, setId⟩).1 = held
  obtain ⟨fields, isOptions⟩ := held
  match fields with
  | none => exact Runs.update _
  | some [] => exact Runs.update _
  | some (field :: fields) =>
    exact dataLoop_runs ipfix inside (field :: fields) isOptions _ body below (Nat.lt_succ_self _)

theorem decodeSet_runs (inside : setEnd ≤ data.length) (setId body : Nat) (below : body ≤ setEnd) :
    Runs (decodeSet data exporter domain ipfix setId body setEnd) (Between body setEnd) fun sink =>
      ((), applyContent exporter domain ipfix setId (slice data body setEnd) sink) := by
  unfold decodeSet applyContent
  split
  · exact templateSetLoop_runs exporter domain ipfix inside _ body below (Nat.lt_succ_self _)
  · split
    · cases ipfix with
      | true => exact optionsIpfixLoop_runs exporter domain inside _ body below (Nat.lt_succ_self _)
      | false => exact optionsV9Loop_runs exporter domain inside _ body below (Nat.lt_succ_self _)
    · split
      · exact dataSet_runs exporter domain ipfix inside setId body below
      · exact Runs.pure _

/-- What every read of a message body satisfies: it lies before the message's end,
and inside the set it was made for. -/
def BodyRead (off msgEnd : Nat) (read : Read) : Prop :=
  Between off msgEnd read ∧ ∀ lo hi, read.region = some (lo, hi) → Between lo hi read

/-- What a set declares beyond the message is what it lacks in bytes; the next one starts at its end. -/
theorem setLoop_runs {msgEnd : Nat} (inside : msgEnd ≤ data.length) (fuel off : Nat)
    (fueled : msgEnd - off < fuel) :
    Runs (setLoop data exporter domain ipfix msgEnd fuel off) (BodyRead off msgEnd) fun sink =>
      ((), applyBody exporter domain ipfix sink (slice data off msgEnd)) := by
  induction fuel generalizing off with
  | zero => omega
  | succ fuel inductionHypothesis =>
    have length := length_slice off inside
    unfold applyBody
    rw [wireSets]
    simp only [setLoop]
    by_cases fits : off + 4 ≤ msgEnd
    · rw [if_pos fits, if_neg (by omega)]
      have setId : num (slice data off (off + 4)) 0 2 = num (slice data off msgEnd) 0 2 :=
        num_window data fits (by decide)
      have setLen : num (slice data off (off + 4)) 2 2 = num (slice data off msgEnd) 2 2 :=
        num_window data fits (by decide)
      have headerRuns : Runs (unpackFrom data off 4 : Parse Sink Bytes) (BodyRead off msgEnd) _ :=
        Runs.bindRead (Runs.access (by omega) ⟨⟨Nat.le_refl _, fits⟩, by simp⟩) (Runs.pure _)
      apply Runs.bindRead headerRuns
      rw [setId, setLen]
      generalize num (slice data off msgEnd) 0 2 = setId
      generalize num (slice data off msgEnd) 2 2 = setLen
      by_cases short : setLen < 4
      · rw [if_pos short, if_pos short]
        exact Runs.pure _
      · rw [if_neg short, if_neg short]
        have setEnd : min (off + setLen) msgEnd ≤ data.length := by omega
        have content : ((slice data off msgEnd).take setLen).drop 4 =
            slice data (off + 4) (min (off + setLen) msgEnd) := by
          unfold slice
          rw [List.take_drop, List.take_take, List.drop_drop, Nat.min_comm]
        have rest : slice data (min (off + setLen) msgEnd) msgEnd = (slice data off msgEnd).drop setLen := by
          rw [drop_slice]
          by_cases overrun : msgEnd ≤ off + setLen
          · rw [slice_empty (by omega), slice_empty overrun]
          · rw [Nat.min_eq_left (by omega)]
        have cut : decide (off + setLen > msgEnd) = decide ((slice data off msgEnd).length < setLen) := by
          rw [decide_eq_decide, length]
          omega
        have setRuns := Runs.within off (off + setLen)
          (decodeSet_runs exporter domain ipfix setEnd setId (off + 4) (by omega))
        have loopRuns := inductionHypothesis (min (off + setLen) msgEnd) (by omega)
        refine Runs.congr (Runs.seq (act_runs _) (Runs.seq (setRuns.mono ?_) (loopRuns.mono ?_))) ?_
        · rintro read ⟨region, placed⟩
          refine ⟨placed.widen (by omega) (by omega), fun lo hi labelled => ?_⟩
          rw [region] at labelled
          cases labelled
          exact placed.widen (by omega) (by omega)
        · exact fun read granted => ⟨granted.1.widen (by omega) (Nat.le_refl _), granted.2⟩
        · intro sink
          simp only [applyBody, List.foldl_cons, applySet, content, rest, ← cut, decide_eq_true_eq]
    · rw [if_neg fits, if_pos (by omega)]
      exact Runs.pure _

theorem parseSets_runs (header : Header) (off : Nat) {msgEnd : Nat} (inside : msgEnd ≤ data.length) :
    Runs (parseSets data header ipfix off msgEnd) (BodyRead off msgEnd)
      (finishMessage header ipfix (slice data off msgEnd)) :=
  (Runs.seq (setLoop_runs header.exporter header.domain ipfix inside _ off (Nat.lt_succ_self _))
    (Runs.seq (act_runs _) (Runs.update _))).congr fun _ => rfl

end Sets

/-! ## Whole messages -/

/-- What every read of a v9 or IPFIX datagram satisfies: it lies inside the datagram, inside
the set it was made for, and, the reads of the header apart, inside the length an IPFIX
message declares. -/
def MessageRead (data : Bytes) (read : Read) : Prop :=
  read.off + read.width ≤ data.length ∧
    (∀ lo hi, read.region = some (lo, hi) → Between lo hi read) ∧
    (num data 0 2 = 10 → num data 2 2 ≠ 0 →
      (read.region = none ∧ read.off = 0) ∨ read.off + read.width ≤ num data 2 2)

theorem ipfixEnd_le (data : Bytes) : ipfixEnd data ≤ data.length := by
  rw [ipfixEnd]
  split <;> omega

theorem ipfixEnd_le_declared {data : Bytes} (declared : num data 2 2 ≠ 0) : ipfixEnd data ≤ num data 2 2 := by
  rw [ipfixEnd, if_pos declared]
  exact Nat.min_le_left _ _

/-- A read of an unlabelled header. -/
theorem header_runs {data : Bytes} (width : Nat) (fits : width ≤ data.length) :
    Runs (unpackFrom data 0 width : Parse Sink Bytes) (MessageRead data) fun out => (slice data 0 (0 + width), out) :=
  Runs.bindRead (Runs.access (by omega) ⟨by simp only; omega, by simp, fun _ _ => .inl ⟨rfl, rfl⟩⟩) (Runs.pure _)

theorem parseV9OrIpfix_runs (data : Bytes) (exporter : Exporter) :
    Runs (parseV9OrIpfix data exporter) (MessageRead data) (applyMessage data exporter) := by
  unfold parseV9OrIpfix applyMessage
  by_cases tiny : data.length < 2
  · simp only [if_pos tiny]
    exact Runs.pure _
  · simp only [if_neg tiny]
    apply Runs.bindRead (header_runs 2 (by omega))
    rw [num_slice data (by omega)]
    by_cases ipfix : num data 0 2 = 10
    · simp only [Nat.add_zero, if_pos ipfix]
      by_cases short : data.length < ipfixHeaderSize
      · simp only [if_pos short]
        exact Runs.pure _
      · have fieldAt : ∀ start width, start + width ≤ ipfixHeaderSize →
            num (slice data 0 (0 + ipfixHeaderSize)) start width = num data start width :=
          fun start width fits => by rw [num_slice data (by omega), Nat.zero_add]
        simp only [if_neg short]
        apply Runs.bindRead (header_runs ipfixHeaderSize (by omega))
        simp only [fieldAt 2 2 (by decide), fieldAt 4 4 (by decide), fieldAt 8 4 (by decide),
          fieldAt 12 4 (by decide)]
        have bodyRuns := parseSets_runs true (ipfixHeader data exporter) ipfixHeaderSize (ipfixEnd_le data)
        refine (Runs.seq (act_runs _) (bodyRuns.mono ?_)).congr fun _ => rfl
        rintro read ⟨placed, labelled⟩
        refine ⟨Nat.le_trans placed.2 (ipfixEnd_le data), labelled, fun _ declared => .inr ?_⟩
        exact Nat.le_trans placed.2 (ipfixEnd_le_declared declared)
    · simp only [Nat.add_zero, if_neg ipfix]
      by_cases short : data.length < v9HeaderSize
      · simp only [if_pos short]
        exact Runs.pure _
      · have fieldAt : ∀ start width, start + width ≤ v9HeaderSize →
            num (slice data 0 (0 + v9HeaderSize)) start width = num data start width :=
          fun start width fits => by rw [num_slice data (by omega), Nat.zero_add]
        simp only [if_neg short]
        apply Runs.bindRead (header_runs v9HeaderSize (by omega))
        simp only [fieldAt 4 4 (by decide), fieldAt 8 4 (by decide), fieldAt 12 4 (by decide),
          fieldAt 16 4 (by decide)]
        have bodyRuns := parseSets_runs false (v9Header data exporter) v9HeaderSize (Nat.le_refl data.length)
        refine (bodyRuns.mono ?_).congr fun _ => rfl
        rintro read ⟨placed, labelled⟩
        exact ⟨placed.2, labelled, fun isIpfix => absurd isIpfix ipfix⟩

/-! ## NetFlow v5 -/

theorem v5RecordLoop_runs {σ : Type} (data : Bytes) (count off : Nat) :
    Runs (v5RecordLoop data count off : Parse σ (List Rec)) (Between 0 data.length) fun out =>
      (wireV5 count (slice data off data.length), out) := by
  induction count generalizing off with
  | zero => exact Runs.pure _
  | succ count inductionHypothesis =>
    have length := length_slice off (Nat.le_refl data.length)
    simp only [v5RecordLoop, wireV5]
    by_cases partialRecord : off + v5RecordSize > data.length
    · by_cases beyond : data.length < off
      · rw [if_pos partialRecord, slice_empty (by omega), if_pos (by decide)]
        exact Runs.pure _
      · rw [if_pos partialRecord, if_pos (by omega)]
        exact Runs.pure _
    · rw [if_neg partialRecord, if_neg (by omega), take_slice data (by omega), drop_slice]
      apply Runs.bindRead (unpackFrom_runs off v5RecordSize (Nat.zero_le off) (by omega) (Nat.le_refl _))
      exact Runs.bindRead (inductionHypothesis (off + v5RecordSize)) (Runs.pure _)

theorem parseV5_runs (data : Bytes) (exporter : Exporter) :
    Runs (parseV5 data exporter) (Between 0 data.length) (applyV5 data exporter) := by
  unfold parseV5 applyV5
  by_cases short : data.length < v5HeaderSize
  · simp only [if_pos short]
    exact Runs.pure _
  · have fieldAt : ∀ start width, start + width ≤ v5HeaderSize →
        num (slice data 0 (0 + v5HeaderSize)) start width = num data start width :=
      fun start width fits => by rw [num_slice data (by omega), Nat.zero_add]
    simp only [if_neg short]
    apply Runs.bindRead (unpackFrom_runs 0 v5HeaderSize (Nat.le_refl 0) (by omega) (Nat.le_refl _))
    simp only [fieldAt 2 2 (by decide), fieldAt 4 4 (by decide), fieldAt 8 4 (by decide),
      fieldAt 16 4 (by decide), fieldAt 21 1 (by decide), fieldAt 22 2 (by decide)]
    apply Runs.bindRead (v5RecordLoop_runs data _ v5HeaderSize)
    exact (Runs.seq (Runs.update _) (Runs.pure _)).congr fun _ => rfl

/-! ## What a parse does to its caller's state -/

theorem runV9OrIpfix_spec (data : Bytes) (exporter : Exporter) (store : TemplateStore) (stats : Stats) :
    ∃ reads, (∀ read ∈ reads, MessageRead data read) ∧
      runV9OrIpfix data exporter store stats =
        let applied := applyMessage data exporter { store, stats }
        ⟨.ok applied.1, applied.2.store, applied.2.stats, applied.2.calls, reads⟩ := by
  obtain ⟨reads, ran, granted⟩ := parseV9OrIpfix_runs data exporter ⟨{ store, stats }, []⟩
  exact ⟨reads, granted, by simp only [runV9OrIpfix, ran, List.nil_append]⟩

theorem runV5_spec (data : Bytes) (exporter : Exporter) (store : TemplateStore) (stats : Stats) :
    ∃ reads, (∀ read ∈ reads, Between 0 data.length read) ∧
      runV5 data exporter store stats =
        let applied := applyV5 data exporter stats
        ⟨.ok applied.1, store, applied.2, [], reads⟩ := by
  obtain ⟨reads, ran, granted⟩ := parseV5_runs data exporter ⟨stats, []⟩
  exact ⟨reads, granted, by simp only [runV5, ran, List.nil_append]⟩

theorem parseMessage_of_v5 {data : Bytes} (long : 2 ≤ data.length) (version : num data 0 2 = 5) (exporter : Exporter)
    (store : TemplateStore) (stats : Stats) :
    parseMessage data exporter store stats = runV5 data exporter store stats := by
  simp [parseMessage, Nat.not_lt.mpr long, version]

theorem parseMessage_of_v9OrIpfix {data : Bytes} (long : 2 ≤ data.length)
    (version : num data 0 2 = 9 ∨ num data 0 2 = 10) (exporter : Exporter) (store : TemplateStore) (stats : Stats) :
    parseMessage data exporter store stats = runV9OrIpfix data exporter store stats := by
  rcases version with v9 | ipfix
  · simp [parseMessage, Nat.not_lt.mpr long, v9]
  · simp [parseMessage, Nat.not_lt.mpr long, ipfix]

/-- The lists a parse returns are the ones its sink collected. -/
theorem applyMessage_lists (data : Bytes) (exporter : Exporter) (store : TemplateStore) (stats : Stats) :
    let after := applyMessage data exporter { store, stats }
    after.1.records = after.2.records ∧ after.1.options = after.2.options := by
  rw [applyMessage, finishMessage]
  split
  · exact ⟨rfl, rfl⟩
  · split <;> split <;> exact ⟨rfl, rfl⟩

end Netflume
