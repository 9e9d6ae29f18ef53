import Netflume.RecordTiling

/-! # Repeated names keep a populated value

Several fields of a template may share a name.  The record keeps the last value
of a name that says something, and the first one when none does; where no name
repeats, plain assignment comes to the same. -/

namespace Netflume

open Library

/-! ## What settles a name -/

/-- A populated value displaces whatever came before it. -/
theorem settled_of_later {before after : List Value} (populated : ∃ later ∈ after, later.unspecified = false) :
    settled (before ++ after) = settled after := by
  obtain ⟨later, member, speaks⟩ := populated
  obtain ⟨last, isLast⟩ : ∃ last, (after.filter fun value => !value.unspecified).getLast? = some last :=
    Option.isSome_iff_exists.mp (by simpa using ⟨later, member, speaks⟩)
  rw [settled, settled, List.filter_append, List.getLast?_append, isLast]
  rfl

/-- An unspecified value is no loss to what an earlier one settles. -/
theorem settled_without {before after : List Value} {value : Value} (silent : value.unspecified = true)
    (earlier : before ≠ []) : settled (before ++ value :: after) = settled (before ++ after) := by
  obtain ⟨first, rest, rfl⟩ := List.exists_cons_of_ne_nil earlier
  simp [settled, silent]

/-! ## Names that do not repeat -/

/-- On a template whose names are distinct `dedupe` makes no difference, to the record or to the offset. -/
theorem parseDataRecord_distinct {σ : Type} (data : Bytes) (setEnd : Nat) (ipfix : Bool) {fields : List Field}
    (distinct : (fields.map Field.name).Nodup) (off : Nat) {rec : Rec}
    (absent : ∀ field ∈ fields, rec.get? field.name = none) :
    (parseDataRecord data setEnd ipfix true fields off rec : Parse σ _) =
      parseDataRecord data setEnd ipfix false fields off rec := by
  induction fields generalizing off rec with
  | nil => rfl
  | cons field fields inductionHypothesis =>
    simp only [parseDataRecord]
    congr 1
    funext extent
    cases extent with
    | none => rfl
    | some place =>
      obtain ⟨length, start⟩ := place
      simp only
      split
      · rfl
      · congr 1
        funext raw
        rw [assign_of_absent (absent field List.mem_cons_self)]
        exact inductionHypothesis (List.nodup_cons.mp distinct).2 _ (absent_assign distinct absent _)

/-! ## Zeroes say nothing -/

/-- An all-zero address of its family's width, or an all-zero unsigned number of any width. -/
inductive ZeroField : Kind → Bytes → Prop where
  | ipv4 : ZeroField .ipv4 (List.replicate 4 0)
  | ipv6 : ZeroField .ipv6 (List.replicate 16 0)
  | uint (width : Nat) : ZeroField .uint (List.replicate width 0)

theorem beNat_zeroes (width : Nat) : beNat (List.replicate width 0) = 0 := by
  induction width with
  | zero => rfl
  | succ width inductionHypothesis =>
    rw [List.replicate_succ', beNat_append_singleton, inductionHypothesis]
    rfl

theorem ZeroField.unspecified {kind : Kind} {raw : Bytes} (zero : ZeroField kind raw) :
    (decodeValue raw kind).unspecified = true := by
  cases zero with
  | ipv4 => decide
  | ipv6 => decide
  | uint width =>
    rw [decodeValue, beNat_zeroes]
    rfl

/-- A record the parser returns is the record of its bytes. -/
theorem record_of_parse {σ : Type} {data : Bytes} {setEnd : Nat} {ipfix dedupe : Bool} {fields : List Field}
    {off next : Nat} {rec : Rec} {state : Traced σ} (below : off ≤ setEnd) (inside : setEnd ≤ data.length)
    (decoded : (parseDataRecord data setEnd ipfix dedupe fields off .empty state).1 = .ok (some rec, next)) :
    ∃ record : RecordData ipfix fields, slice data off next = record.bytes ∧ rec = record.decodeFrom dedupe .empty := by
  obtain ⟨result, last, runs, after, before, meaning⟩ :=
    parseDataRecord_runs (σ := σ) ipfix dedupe inside fields off .empty below
  obtain ⟨reads, ran, _⟩ := runs state
  rw [ran] at decoded
  cases decoded
  obtain ⟨record, split, isRecord⟩ := wireRecord_data meaning
  refine ⟨record, ?_, isRecord⟩
  rw [← slice_split data after before] at split
  exact List.append_cancel_right split

theorem valuesNamed_of_named {name : String} {slices : List (Field × Bytes)}
    (named : ∀ entry ∈ slices, entry.1.name = name) :
    valuesNamed name slices = slices.map fun entry => decodeValue entry.2 entry.1.kind := by
  rw [valuesNamed, List.filter_eq_self.mpr fun entry member => by simpa using named entry member]

/-- Every record a template decodes, of a data set that lies inside its datagram: the value of each name, what a
zero field among those of the name does to it, and `dedupe` where no name repeats. -/
theorem repeated_names_keep_populated {σ : Type} (data : Bytes) (setEnd : Nat) (ipfix : Bool) (fields : List Field)
    (off : Nat) (state : Traced σ) (below : off ≤ setEnd) (inside : setEnd ≤ data.length) :
    (∀ rec next,
      (parseDataRecord data setEnd ipfix (repeatsName fields) fields off .empty state).1 = .ok (some rec, next) →
        ∃ record : RecordData ipfix fields, slice data off next = record.bytes ∧
          (∀ name, rec.get? name = settled (valuesNamed name record.slices)) ∧
          ∀ name before zero after,
            record.slices.filter (fun entry => entry.1.name = name) = before ++ zero :: after →
            ZeroField zero.1.kind zero.2 →
              (before ≠ [] → rec.get? name = settled (valuesNamed name (before ++ after))) ∧
              ((∃ later ∈ valuesNamed name after, later.unspecified = false) →
                rec.get? name = settled (valuesNamed name after))) ∧
      ((fields.map Field.name).Nodup →
        parseDataRecord data setEnd ipfix true fields off .empty state =
          parseDataRecord data setEnd ipfix false fields off .empty state) := by
  refine ⟨fun rec next decoded => ?_, fun distinct => ?_⟩
  · obtain ⟨record, covered, isRecord⟩ := record_of_parse below inside decoded
    obtain rfl : rec = record.decoded := isRecord
    refine ⟨record, covered, get?_decoded record, fun name before zero after split isZero => ?_⟩
    have value := get?_decoded record name
    rw [valuesNamed, split, List.map_append, List.map_cons] at value
    have named : ∀ entry ∈ before ++ zero :: after, entry.1.name = name := by
      intro entry member
      rw [← split] at member
      simpa using (List.mem_filter.mp member).2
    have earlier : valuesNamed name (before ++ after) = (before ++ after).map _ :=
      valuesNamed_of_named fun entry member => named entry (by simp at member ⊢; tauto)
    have later : valuesNamed name after = after.map _ :=
      valuesNamed_of_named fun entry member => named entry (by simp [member])
    constructor
    · intro some
      rw [value, earlier, settled_without isZero.unspecified (by simpa using some), List.map_append]
    · intro populated
      rw [later] at populated ⊢
      rw [value, List.append_cons]
      exact settled_of_later populated
  · rw [parseDataRecord_distinct data setEnd ipfix distinct off fun _ _ => rfl]

/-- An IPv4 address, the zero-filled IPv6 spelling of it, and a port. -/
theorem repeated_names_keep_populated_dual_stack :
    let data : Bytes := [10, 0, 0, 1] ++ List.replicate 16 0 ++ [0, 80]
    let fields : List Field := [⟨"src_addr", .ipv4, 4⟩, ⟨"src_addr", .ipv6, 16⟩, ⟨"src_port", .uint, 2⟩]
    (∀ rec next,
      (parseDataRecord data 22 true (repeatsName fields) fields 0 .empty ⟨(), []⟩).1 = .ok (some rec, next) →
        ∃ record : RecordData true fields, slice data 0 next = record.bytes ∧
          (∀ name, rec.get? name = settled (valuesNamed name record.slices)) ∧
          ∀ name before zero after,
            record.slices.filter (fun entry => entry.1.name = name) = before ++ zero :: after →
            ZeroField zero.1.kind zero.2 →
              (before ≠ [] → rec.get? name = settled (valuesNamed name (before ++ after))) ∧
              ((∃ later ∈ valuesNamed name after, later.unspecified = false) →
                rec.get? name = settled (valuesNamed name after))) ∧
      ((fields.map Field.name).Nodup →
        parseDataRecord data 22 true true fields 0 .empty (⟨(), []⟩ : Traced Unit) =
          parseDataRecord data 22 true false fields 0 .empty ⟨(), []⟩) :=
  repeated_names_keep_populated _ 22 true _ 0 ⟨(), []⟩ (by decide) (by decide)

end Netflume
