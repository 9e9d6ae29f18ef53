import Netflume.Encode

/-! # The grammar of template sets

What a set may hold that defines templates: complete records, records that are
skipped, and what ends the set.  The grammar describes bytes and computes nothing;
every content has a derivation, and any derivation gives the templates that
`Netflume.Wire` reads. -/

namespace Netflume

open Library

/-- A template as a record declares it. -/
structure Declared (ipfix : Bool) where
  id : UInt16
  specs : List (FieldSpec ipfix)

def Declared.fields {ipfix : Bool} (declared : Declared ipfix) : List Field := declared.specs.map FieldSpec.field

/-- The bytes of a complete record, in a template set (`false`) or an options-template set (`true`). -/
inductive CompleteRecord : (ipfix options : Bool) → Declared ipfix → Bytes → Prop where
  | template {ipfix : Bool} (id : UInt16) (specs : List (FieldSpec ipfix)) (nonempty : specs ≠ [])
    (counted : specs.length < 65536) :
    CompleteRecord ipfix false ⟨id, specs⟩
      (toBytes 2 id.toNat ++ (toBytes 2 specs.length ++ specs.flatMap FieldSpec.bytes))
  | ipfixOptions (id scopeCount : UInt16) (specs : List (FieldSpec true)) (nonempty : specs ≠ [])
    (counted : specs.length < 65536) :
    CompleteRecord true true ⟨id, specs⟩
      (toBytes 2 id.toNat ++ (toBytes 2 specs.length ++ (toBytes 2 scopeCount.toNat ++ specs.flatMap FieldSpec.bytes)))
  | v9Options (id scopeLen optLen : UInt16) (scopes options : List (FieldSpec false))
    (scopeBytes : scopeLen.toNat = 4 * scopes.length) (optBytes : optLen.toNat = 4 * options.length)
    (nonempty : scopes ++ options ≠ []) :
    CompleteRecord false true ⟨id, scopes ++ options⟩
      (toBytes 2 id.toNat ++ (toBytes 2 scopeLen.toNat ++ (toBytes 2 optLen.toNat ++
        (scopes ++ options).flatMap FieldSpec.bytes)))

/-- The bytes of a record that defines nothing and is passed over. -/
inductive SkippedRecord : (ipfix options : Bool) → Bytes → Prop where
  | withdrawal {ipfix : Bool} (id : UInt16) : SkippedRecord ipfix false (toBytes 2 id.toNat ++ toBytes 2 0)
  | misaligned (id scopeLen optLen : UInt16) (specs : Bytes) (sized : specs.length = scopeLen.toNat + optLen.toNat)
    (remainder : scopeLen.toNat % 4 ≠ 0 ∨ optLen.toNat % 4 ≠ 0) :
    SkippedRecord false true (toBytes 2 id.toNat ++ (toBytes 2 scopeLen.toNat ++ (toBytes 2 optLen.toNat ++ specs)))

/-- No so many specifications lie wholly at the front. -/
def CutShort (ipfix : Bool) (count : Nat) (bytes : Bytes) : Prop :=
  ∀ specs : List (FieldSpec ipfix), specs.length = count → ¬ specs.flatMap FieldSpec.bytes <+: bytes

/-- What ends a set: too few bytes for a header, a truncated record, or a zero-field options template. -/
inductive EndsSet : (ipfix options : Bool) → Bytes → Prop where
  | padding {ipfix options : Bool} {bytes : Bytes} (short : bytes.length < if options then 6 else 4) :
    EndsSet ipfix options bytes
  | truncated {ipfix : Bool} (id count : UInt16) {rest : Bytes} (some : count ≠ 0)
    (cutShort : CutShort ipfix count.toNat rest) :
    EndsSet ipfix false (toBytes 2 id.toNat ++ (toBytes 2 count.toNat ++ rest))
  | truncatedIpfix (id count scopeCount : UInt16) {rest : Bytes} (cutShort : CutShort true count.toNat rest) :
    EndsSet true true (toBytes 2 id.toNat ++ (toBytes 2 count.toNat ++ (toBytes 2 scopeCount.toNat ++ rest)))
  | emptyIpfix (id scopeCount : UInt16) (rest : Bytes) :
    EndsSet true true (toBytes 2 id.toNat ++ (toBytes 2 0 ++ (toBytes 2 scopeCount.toNat ++ rest)))
  | truncatedV9 (id scopeLen optLen : UInt16) {rest : Bytes} (overruns : rest.length < scopeLen.toNat + optLen.toNat) :
    EndsSet false true (toBytes 2 id.toNat ++ (toBytes 2 scopeLen.toNat ++ (toBytes 2 optLen.toNat ++ rest)))
  | emptyV9 (id : UInt16) (rest : Bytes) :
    EndsSet false true (toBytes 2 id.toNat ++ (toBytes 2 0 ++ (toBytes 2 0 ++ rest)))

/-- The content of a set, and the templates it declares in order up to its end. -/
inductive Declares (ipfix options : Bool) : Bytes → List (Declared ipfix) → Prop where
  | complete {declared : Declared ipfix} {record rest : Bytes} {later : List (Declared ipfix)}
    (first : CompleteRecord ipfix options declared record) (behind : Declares ipfix options rest later) :
    Declares ipfix options (record ++ rest) (declared :: later)
  | skipped {record rest : Bytes} {later : List (Declared ipfix)} (first : SkippedRecord ipfix options record)
    (behind : Declares ipfix options rest later) : Declares ipfix options (record ++ rest) later
  | ends {bytes : Bytes} (last : EndsSet ipfix options bytes) : Declares ipfix options bytes []

/-! ## Bytes as words -/

theorem split_word {bytes : Bytes} (long : 2 ≤ bytes.length) :
    ∃ word : UInt16, ∃ rest, bytes = toBytes 2 word.toNat ++ rest := by
  obtain ⟨number, small, rest, rfl⟩ := split_number long
  exact ⟨UInt16.ofNatLT number small, rest, by rw [UInt16.toNat_ofNatLT]⟩

theorem split_long {bytes : Bytes} (long : 4 ≤ bytes.length) :
    ∃ word : UInt32, ∃ rest, bytes = toBytes 4 word.toNat ++ rest := by
  obtain ⟨number, small, rest, rfl⟩ := split_number long
  exact ⟨UInt32.ofNatLT number small, rest, by rw [UInt32.toNat_ofNatLT]⟩

theorem split_twoWords {bytes : Bytes} (long : 4 ≤ bytes.length) :
    ∃ first second : UInt16, ∃ rest, bytes = toBytes 2 first.toNat ++ (toBytes 2 second.toNat ++ rest) := by
  obtain ⟨first, behind, rfl⟩ := split_word (by omega : 2 ≤ bytes.length)
  rw [List.length_append, length_toBytes] at long
  obtain ⟨second, rest, rfl⟩ := split_word (by omega : 2 ≤ behind.length)
  exact ⟨first, second, rest, rfl⟩

theorem split_threeWords {bytes : Bytes} (long : 6 ≤ bytes.length) :
    ∃ first second third : UInt16, ∃ rest,
      bytes = toBytes 2 first.toNat ++ (toBytes 2 second.toNat ++ (toBytes 2 third.toNat ++ rest)) := by
  obtain ⟨first, second, behind, rfl⟩ := split_twoWords (by omega : 4 ≤ bytes.length)
  rw [List.length_append, List.length_append, length_toBytes, length_toBytes] at long
  obtain ⟨third, rest, rfl⟩ := split_word (by omega : 2 ≤ behind.length)
  exact ⟨first, second, third, rest, rfl⟩

/-! ## Every content has a derivation -/

/-- Bytes that are a whole number of v9 specifications. -/
theorem v9Specs_of_length {count : Nat} {bytes : Bytes} (sized : bytes.length = 4 * count) :
    ∃ specs : List (FieldSpec false), specs.length = count ∧ bytes = specs.flatMap FieldSpec.bytes := by
  induction count generalizing bytes with
  | zero => exact ⟨[], rfl, List.eq_nil_of_length_eq_zero sized⟩
  | succ count inductionHypothesis =>
    obtain ⟨element, length, rest, rfl⟩ := split_twoWords (by omega : 4 ≤ bytes.length)
    rw [List.length_append, List.length_append, length_toBytes, length_toBytes] at sized
    obtain ⟨specs, counted, rfl⟩ := inductionHypothesis (by omega : rest.length = 4 * count)
    exact ⟨.v9 element length :: specs, by rw [List.length_cons, counted], by simp [FieldSpec.bytes]⟩

theorem v9Specs_length (specs : List (FieldSpec false)) :
    (specs.flatMap FieldSpec.bytes).length = 4 * specs.length := by
  induction specs with
  | nil => rfl
  | cons spec specs inductionHypothesis =>
    have first : spec.bytes.length = 4 := by
      cases spec with
      | v9 element length => simp [FieldSpec.bytes]
    simp only [List.length_cons, List.flatMap_cons, List.length_append]
    omega

/-- A count of specifications is met at the front, or the bytes end before. -/
theorem specs_or_cutShort (ipfix : Bool) (count : Nat) (bytes : Bytes) :
    (∃ specs : List (FieldSpec ipfix), specs.length = count ∧ ∃ rest, bytes = specs.flatMap FieldSpec.bytes ++ rest) ∨
      CutShort ipfix count bytes := by
  by_cases met : ∃ specs : List (FieldSpec ipfix), specs.length = count ∧ specs.flatMap FieldSpec.bytes <+: bytes
  · obtain ⟨specs, counted, rest, split⟩ := met
    exact .inl ⟨specs, counted, rest, split.symm⟩
  · exact .inr fun specs counted front => met ⟨specs, counted, front⟩

/-- What stands at the front of a content: its end, or a record that is complete or skipped. -/
inductive Front (ipfix options : Bool) : Bytes → Prop where
  | ends {bytes : Bytes} (last : EndsSet ipfix options bytes) : Front ipfix options bytes
  | skipped {record : Bytes} (first : SkippedRecord ipfix options record) (rest : Bytes) :
    Front ipfix options (record ++ rest)
  | complete {declared : Declared ipfix} {record : Bytes} (first : CompleteRecord ipfix options declared record)
    (rest : Bytes) : Front ipfix options (record ++ rest)

theorem front_template (ipfix : Bool) (bytes : Bytes) : Front ipfix false bytes := by
  by_cases short : bytes.length < 4
  · exact .ends (.padding short)
  · obtain ⟨id, count, rest, rfl⟩ := split_twoWords (Nat.not_lt.mp short)
    by_cases none : count = 0
    · subst none
      rw [← List.append_assoc]
      exact .skipped (.withdrawal id) rest
    · rcases specs_or_cutShort ipfix count.toNat rest with ⟨specs, counted, rest, rfl⟩ | cutShort
      · have nonempty : specs ≠ [] := by
          rintro rfl
          exact none (UInt16.toNat_inj.mp counted.symm)
        have complete := CompleteRecord.template id specs nonempty (counted ▸ count.toNat_lt)
        rw [counted] at complete
        simpa only [List.append_assoc] using Front.complete complete rest
      · exact .ends (.truncated id count none cutShort)

theorem front_ipfixOptions (bytes : Bytes) : Front true true bytes := by
  by_cases short : bytes.length < 6
  · exact .ends (.padding short)
  · obtain ⟨id, count, scopeCount, rest, rfl⟩ := split_threeWords (Nat.not_lt.mp short)
    rcases specs_or_cutShort true count.toNat rest with ⟨specs, counted, rest, rfl⟩ | cutShort
    · by_cases nonempty : specs = []
      · subst nonempty
        rw [← counted]
        exact .ends (.emptyIpfix id scopeCount rest)
      · have complete := CompleteRecord.ipfixOptions id scopeCount specs nonempty (counted ▸ count.toNat_lt)
        rw [counted] at complete
        simpa only [List.append_assoc] using Front.complete complete rest
    · exact .ends (.truncatedIpfix id count scopeCount cutShort)

theorem front_v9Options (bytes : Bytes) : Front false true bytes := by
  by_cases short : bytes.length < 6
  · exact .ends (.padding short)
  · obtain ⟨id, scopeLen, optLen, rest, rfl⟩ := split_threeWords (Nat.not_lt.mp short)
    by_cases overruns : rest.length < scopeLen.toNat + optLen.toNat
    · exact .ends (.truncatedV9 id scopeLen optLen overruns)
    · by_cases remainder : scopeLen.toNat % 4 ≠ 0 ∨ optLen.toNat % 4 ≠ 0
      · have sized : (rest.take (scopeLen.toNat + optLen.toNat)).length = scopeLen.toNat + optLen.toNat :=
          List.length_take_of_le (Nat.not_lt.mp overruns)
        have skipped := Front.skipped (.misaligned id scopeLen optLen _ sized remainder)
          (rest.drop (scopeLen.toNat + optLen.toNat))
        simpa only [List.append_assoc, List.take_append_drop] using skipped
      · obtain ⟨scopeWhole, optWhole⟩ := not_or.mp remainder
        have scopeSized : (rest.take scopeLen.toNat).length = 4 * (scopeLen.toNat / 4) := by
          rw [List.length_take]
          omega
        have optSized : ((rest.drop scopeLen.toNat).take optLen.toNat).length = 4 * (optLen.toNat / 4) := by
          rw [List.length_take, List.length_drop]
          omega
        obtain ⟨scopes, scopeCount, scopeSplit⟩ := v9Specs_of_length scopeSized
        obtain ⟨options, optCount, optSplit⟩ := v9Specs_of_length optSized
        have whole : rest = (scopes ++ options).flatMap FieldSpec.bytes ++
            (rest.drop scopeLen.toNat).drop optLen.toNat := by
          rw [List.flatMap_append, ← scopeSplit, ← optSplit, List.append_assoc, List.take_append_drop,
            List.take_append_drop]
        by_cases nonempty : scopes ++ options = []
        · obtain ⟨rfl, rfl⟩ := List.append_eq_nil_iff.mp nonempty
          rw [List.length_nil] at scopeCount optCount
          have noScope : scopeLen.toNat = 0 := by omega
          have noOption : optLen.toNat = 0 := by omega
          rw [noScope, noOption]
          exact .ends (.emptyV9 id rest)
        · have complete := CompleteRecord.v9Options id scopeLen optLen scopes options (by omega) (by omega) nonempty
          rw [whole]
          simpa only [List.append_assoc] using Front.complete complete _

theorem front (ipfix options : Bool) (bytes : Bytes) : Front ipfix options bytes := by
  cases options with
  | false => exact front_template ipfix bytes
  | true =>
    cases ipfix with
    | false => exact front_v9Options bytes
    | true => exact front_ipfixOptions bytes

/-- Every record has a header. -/
theorem CompleteRecord.length_pos {ipfix options : Bool} {declared : Declared ipfix} {record : Bytes}
    (complete : CompleteRecord ipfix options declared record) : 0 < record.length := by
  cases complete <;> simp only [List.length_append, length_toBytes] <;> omega

theorem SkippedRecord.length_pos {ipfix options : Bool} {record : Bytes} (skipped : SkippedRecord ipfix options record) :
    0 < record.length := by
  cases skipped <;> simp only [List.length_append, length_toBytes] <;> omega

theorem declares_exists (ipfix options : Bool) (bytes : Bytes) : ∃ templates, Declares ipfix options bytes templates := by
  induction sized : bytes.length using Nat.strongRecOn generalizing bytes with
  | ind size inductionHypothesis =>
    cases front ipfix options bytes with
    | ends last => exact ⟨[], .ends last⟩
    | @skipped record first rest =>
      have header := first.length_pos
      rw [List.length_append] at sized
      obtain ⟨later, behind⟩ := inductionHypothesis rest.length (by omega) rest rfl
      exact ⟨later, .skipped first behind⟩
    | @complete declared record first rest =>
      have header := first.length_pos
      rw [List.length_append] at sized
      obtain ⟨later, behind⟩ := inductionHypothesis rest.length (by omega) rest rfl
      exact ⟨declared :: later, .complete first behind⟩

/-! ## What is read is what is derived -/

/-- A word with the enterprise bit carries fifteen bits of element. -/
theorem element_of_word {word : Nat} (small : word < 65536) :
    (word &&& 0x8000 = 0 ∧ word < 0x8000) ∨
      (word &&& 0x8000 ≠ 0 ∧ (word &&& 0x7FFF) < 0x8000 ∧ word = (word &&& 0x7FFF) + 0x8000) := by
  by_cases plain : word < 0x8000
  · exact .inl ⟨(enterpriseBit plain).1, plain⟩
  · obtain ⟨element, rfl⟩ := Nat.exists_eq_add_of_le (Nat.not_lt.mp plain)
    have fifteen : element < 0x8000 := by omega
    obtain ⟨_, marked, masked⟩ := enterpriseBit fifteen
    rw [Nat.add_comm 0x8000 element, masked]
    exact .inr ⟨marked, fifteen, rfl⟩

/-- A specification read is one that lies at the front. -/
theorem spec_of_wireSpec {ipfix : Bool} {bytes rest : Bytes} {field : Field}
    (read : wireSpec ipfix bytes = some (field, rest)) :
    ∃ spec : FieldSpec ipfix, bytes = spec.bytes ++ rest := by
  have long : ¬ bytes.length < 4 := by
    intro short
    rw [wireSpec, if_pos short] at read
    cases read
  obtain ⟨element, length, behind, rfl⟩ := split_twoWords (Nat.not_lt.mp long)
  cases ipfix with
  | false =>
    refine ⟨.v9 element length, ?_⟩
    have known := wireSpec_bytes (.v9 element length) behind
    rw [FieldSpec.bytes, List.append_assoc, read] at known
    cases known
    simp [FieldSpec.bytes]
  | true =>
    rcases element_of_word element.toNat_lt with ⟨plain, small⟩ | ⟨marked, small, split⟩
    · refine ⟨.ipfix ⟨element.toNat, small⟩ length none, ?_⟩
      have known := wireSpec_bytes (.ipfix ⟨element.toNat, small⟩ length none) behind
      rw [FieldSpec.bytes, List.append_assoc, read] at known
      cases known
      simp [FieldSpec.bytes]
    · have longer : ¬ behind.length < 4 := by
        intro short
        have word : element.toNat < 256 ^ 2 := by simpa using element.toNat_lt
        rw [wireSpec, num_front word, if_neg (by simp only [List.length_append, length_toBytes]; omega), if_pos ⟨rfl, marked⟩,
          if_pos (by simp only [List.length_append, length_toBytes]; omega)] at read
        cases read
      obtain ⟨enterprise, behind, rfl⟩ := split_long (Nat.not_lt.mp longer)
      refine ⟨.ipfix ⟨element.toNat &&& 0x7FFF, small⟩ length (some enterprise), ?_⟩
      have known := wireSpec_bytes (.ipfix ⟨element.toNat &&& 0x7FFF, small⟩ length (some enterprise)) behind
      rw [FieldSpec.bytes, ← split, List.append_assoc, List.append_assoc, read] at known
      cases known
      simp [FieldSpec.bytes, ← split]

theorem wireSpecs_of_cutShort {ipfix : Bool} {count : Nat} {bytes : Bytes} (cutShort : CutShort ipfix count bytes) :
    wireSpecs ipfix count bytes = none := by
  induction count generalizing bytes with
  | zero => exact absurd List.nil_prefix (cutShort [] rfl)
  | succ count inductionHypothesis =>
    rw [wireSpecs]
    cases read : wireSpec ipfix bytes with
    | none => rfl
    | some first =>
      obtain ⟨field, rest⟩ := first
      obtain ⟨spec, rfl⟩ := spec_of_wireSpec read
      have later : CutShort ipfix count rest := by
        intro specs counted front
        apply cutShort (spec :: specs) (by rw [List.length_cons, counted])
        rw [List.flatMap_cons]
        exact (List.prefix_append_right_inj _).mpr front
      simp only [inductionHypothesis later, Option.map_none]

/-- What the parser reads of a set. -/
def wireDeclared (ipfix options : Bool) (bytes : Bytes) : List (Nat × List Field) :=
  if options then wireOptions ipfix bytes else wireTemplates ipfix bytes

/-- The header of a template, and of an options template. -/
theorem read_twoWords {first second : UInt16} {rest bytes : Bytes}
    (whole : toBytes 2 first.toNat ++ (toBytes 2 second.toNat ++ rest) = bytes) :
    bytes.length = 4 + rest.length ∧ num bytes 0 2 = first.toNat ∧ num bytes 2 2 = second.toNat ∧
      bytes.drop 4 = rest := by
  subst whole
  have word : first.toNat < 256 ^ 2 := by simpa using first.toNat_lt
  refine ⟨?_, num_front word _, num_second second.toNat_lt rest, ?_⟩
  · simp only [List.length_append, length_toBytes]
    omega
  · simp [drop_behind]

theorem read_threeWords {first second third : UInt16} {rest bytes : Bytes}
    (whole : toBytes 2 first.toNat ++ (toBytes 2 second.toNat ++ (toBytes 2 third.toNat ++ rest)) = bytes) :
    bytes.length = 6 + rest.length ∧ num bytes 0 2 = first.toNat ∧ num bytes 2 2 = second.toNat ∧
      num bytes 4 2 = third.toNat ∧ ∀ count, bytes.drop (6 + count) = rest.drop count := by
  have word : third.toNat < 256 ^ 2 := by simpa using third.toNat_lt
  obtain ⟨length, firstRead, secondRead, behind⟩ := read_twoWords whole
  refine ⟨?_, firstRead, secondRead, ?_, fun count => ?_⟩
  · rw [length, List.length_append, length_toBytes]
    omega
  · simp [← whole, num_behind, num_front word]
  · have offset : 6 + count = 4 + (2 + count) := by omega
    rw [offset, ← List.drop_drop, behind, drop_behind _ (by simp)]
    simp

section Reading

variable {ipfix : Bool} {id count scopeCount scopeLen optLen : UInt16} {rest bytes : Bytes}

theorem wireTemplates_withdrawal (whole : toBytes 2 id.toNat ++ (toBytes 2 (0 : UInt16).toNat ++ rest) = bytes) :
    wireTemplates ipfix bytes = wireTemplates ipfix rest := by
  obtain ⟨length, _, countRead, behind⟩ := read_twoWords whole
  have none : num bytes 2 2 = 0 := countRead
  rw [wireTemplates_eq, if_neg (by omega), if_pos none, behind]

theorem wireTemplates_complete {specs : List (FieldSpec ipfix)} (nonempty : specs ≠ [])
    (counted : count.toNat = specs.length)
    (whole : toBytes 2 id.toNat ++ (toBytes 2 count.toNat ++ (specs.flatMap FieldSpec.bytes ++ rest)) = bytes) :
    wireTemplates ipfix bytes = (id.toNat, specs.map FieldSpec.field) :: wireTemplates ipfix rest := by
  obtain ⟨length, idRead, countRead, behind⟩ := read_twoWords whole
  have some : specs.length ≠ 0 := fun none => nonempty (List.eq_nil_of_length_eq_zero none)
  rw [wireTemplates_eq, if_neg (by omega), countRead, idRead, behind, counted, if_neg some]
  simp only [wireSpecs_bytes]

theorem wireTemplates_truncated (filled : count ≠ 0) (cutShort : CutShort ipfix count.toNat rest)
    (whole : toBytes 2 id.toNat ++ (toBytes 2 count.toNat ++ rest) = bytes) : wireTemplates ipfix bytes = [] := by
  obtain ⟨length, _, countRead, behind⟩ := read_twoWords whole
  have some : count.toNat ≠ 0 := fun none => filled (UInt16.toNat_inj.mp none)
  rw [wireTemplates_eq, if_neg (by omega), countRead, behind, if_neg some]
  simp only [wireSpecs_of_cutShort cutShort]

theorem wireOptionsIpfix_complete {specs : List (FieldSpec true)} (nonempty : specs ≠ [])
    (counted : count.toNat = specs.length)
    (whole : toBytes 2 id.toNat ++ (toBytes 2 count.toNat ++ (toBytes 2 scopeCount.toNat ++
      (specs.flatMap FieldSpec.bytes ++ rest))) = bytes) :
    wireOptionsIpfix bytes = (id.toNat, specs.map FieldSpec.field) :: wireOptionsIpfix rest := by
  obtain ⟨length, idRead, countRead, _, behind⟩ := read_threeWords whole
  have some : specs.length ≠ 0 := fun none => nonempty (List.eq_nil_of_length_eq_zero none)
  rw [wireOptionsIpfix_eq, if_neg (by omega), countRead, idRead, behind 0, counted, if_neg some]
  simp only [List.drop_zero, wireSpecs_bytes]

theorem wireOptionsIpfix_empty
    (whole : toBytes 2 id.toNat ++ (toBytes 2 (0 : UInt16).toNat ++ (toBytes 2 scopeCount.toNat ++ rest)) = bytes) :
    wireOptionsIpfix bytes = [] := by
  obtain ⟨_, _, countRead, _, _⟩ := read_threeWords whole
  have none : num bytes 2 2 = 0 := countRead
  rw [wireOptionsIpfix_eq, if_pos none, ite_self]

theorem wireOptionsIpfix_truncated (cutShort : CutShort true count.toNat rest)
    (whole : toBytes 2 id.toNat ++ (toBytes 2 count.toNat ++ (toBytes 2 scopeCount.toNat ++ rest)) = bytes) :
    wireOptionsIpfix bytes = [] := by
  obtain ⟨length, _, countRead, _, behind⟩ := read_threeWords whole
  rw [wireOptionsIpfix_eq, if_neg (by omega), countRead, behind 0]
  simp only [List.drop_zero, wireSpecs_of_cutShort cutShort, ite_self]

theorem wireOptionsV9_overruns (overruns : rest.length < scopeLen.toNat + optLen.toNat)
    (whole : toBytes 2 id.toNat ++ (toBytes 2 scopeLen.toNat ++ (toBytes 2 optLen.toNat ++ rest)) = bytes) :
    wireOptionsV9 bytes = [] := by
  obtain ⟨length, _, scopeRead, optRead, _⟩ := read_threeWords whole
  rw [wireOptionsV9]
  simp only [scopeRead, optRead]
  rw [if_neg (by omega), if_pos (by omega)]

theorem wireOptionsV9_misaligned {specs : Bytes} (sized : specs.length = scopeLen.toNat + optLen.toNat)
    (remainder : scopeLen.toNat % 4 ≠ 0 ∨ optLen.toNat % 4 ≠ 0)
    (whole : toBytes 2 id.toNat ++ (toBytes 2 scopeLen.toNat ++ (toBytes 2 optLen.toNat ++ (specs ++ rest))) = bytes) :
    wireOptionsV9 bytes = wireOptionsV9 rest := by
  obtain ⟨length, _, scopeRead, optRead, behind⟩ := read_threeWords whole
  have afterSpecs : bytes.drop (6 + scopeLen.toNat + optLen.toNat) = rest := by
    rw [Nat.add_assoc, ← sized, behind, List.drop_left]
  rw [List.length_append] at length
  rw [wireOptionsV9]
  simp only [scopeRead, optRead, afterSpecs]
  rw [if_neg (by omega), if_neg (by omega), if_pos remainder]

/-- Two halves that end before the set does.  Two empty ones end the set. -/
theorem wireOptionsV9_aligned {specs : List (FieldSpec false)} (scopeWhole : scopeLen.toNat % 4 = 0)
    (optWhole : optLen.toNat % 4 = 0) (counted : scopeLen.toNat + optLen.toNat = 4 * specs.length)
    (whole : toBytes 2 id.toNat ++ (toBytes 2 scopeLen.toNat ++ (toBytes 2 optLen.toNat ++
      (specs.flatMap FieldSpec.bytes ++ rest))) = bytes) :
    wireOptionsV9 bytes = if specs = [] then [] else (id.toNat, specs.map FieldSpec.field) :: wireOptionsV9 rest := by
  obtain ⟨length, idRead, scopeRead, optRead, behind⟩ := read_threeWords whole
  have size := v9Specs_length specs
  have halves : (scopeLen.toNat + optLen.toNat) / 4 = specs.length := by omega
  have afterHeader : bytes.drop 6 = specs.flatMap FieldSpec.bytes ++ rest := behind 0
  have afterSpecs : bytes.drop (6 + scopeLen.toNat + optLen.toNat) = rest := by
    rw [Nat.add_assoc, counted, ← size, behind, List.drop_left]
  rw [List.length_append] at length
  rw [wireOptionsV9]
  simp only [scopeRead, optRead, idRead, afterHeader, afterSpecs, halves, wireSpecs_bytes]
  rw [if_neg (by omega), if_neg (by omega), if_neg (by omega)]
  cases specs with
  | nil => rfl
  | cons spec specs => rfl

end Reading

theorem wireDeclared_ends {ipfix options : Bool} {bytes : Bytes} (last : EndsSet ipfix options bytes) :
    wireDeclared ipfix options bytes = [] := by
  cases last with
  | padding short =>
    cases options with
    | false =>
      have few : bytes.length < 4 := short
      rw [wireDeclared, if_neg Bool.false_ne_true, wireTemplates_eq, if_pos few]
    | true =>
      have few : bytes.length < 6 := short
      rw [wireDeclared, if_pos rfl, wireOptions, wireOptionsIpfix_eq, wireOptionsV9, if_pos few, if_pos few, ite_self]
  | truncated id count filled cutShort => exact wireTemplates_truncated filled cutShort rfl
  | truncatedIpfix id count scopeCount cutShort => exact wireOptionsIpfix_truncated cutShort rfl
  | emptyIpfix id scopeCount rest => exact wireOptionsIpfix_empty rfl
  | truncatedV9 id scopeLen optLen overruns => exact wireOptionsV9_overruns overruns rfl
  | emptyV9 id rest => exact @wireOptionsV9_aligned id 0 0 rest _ [] rfl rfl rfl rfl

theorem wireDeclared_skipped {ipfix options : Bool} {record : Bytes} (skipped : SkippedRecord ipfix options record)
    (rest : Bytes) : wireDeclared ipfix options (record ++ rest) = wireDeclared ipfix options rest := by
  cases skipped with
  | withdrawal id => exact wireTemplates_withdrawal (List.append_assoc _ _ _).symm
  | misaligned id scopeLen optLen specs sized remainder =>
    exact @wireOptionsV9_misaligned id _ _ _ _ specs sized remainder (by simp only [List.append_assoc])

theorem wireDeclared_complete {ipfix options : Bool} {declared : Declared ipfix} {record : Bytes}
    (complete : CompleteRecord ipfix options declared record) (rest : Bytes) :
    wireDeclared ipfix options (record ++ rest) =
      (declared.id.toNat, declared.fields) :: wireDeclared ipfix options rest := by
  cases complete with
  | template id specs nonempty counted =>
    have word : (UInt16.ofNatLT specs.length counted).toNat = specs.length := UInt16.toNat_ofNatLT
    apply wireTemplates_complete nonempty word
    rw [word]
    simp only [List.append_assoc]
  | ipfixOptions id scopeCount specs nonempty counted =>
    have word : (UInt16.ofNatLT specs.length counted).toNat = specs.length := UInt16.toNat_ofNatLT
    apply @wireOptionsIpfix_complete id _ scopeCount _ _ specs nonempty word
    rw [word]
    simp only [List.append_assoc]
  | v9Options id scopeLen optLen scopes options scopeBytes optBytes nonempty =>
    have counted : scopeLen.toNat + optLen.toNat = 4 * (scopes ++ options).length := by
      rw [List.length_append]
      omega
    have read := @wireOptionsV9_aligned id scopeLen optLen rest _ (scopes ++ options) (by omega) (by omega) counted rfl
    rw [if_neg nonempty] at read
    simp only [List.append_assoc] at read ⊢
    exact read

/-- The parser reads the templates the content declares. -/
theorem wireDeclared_of_declares {ipfix options : Bool} {bytes : Bytes} {templates : List (Declared ipfix)}
    (declares : Declares ipfix options bytes templates) :
    wireDeclared ipfix options bytes = templates.map fun declared => (declared.id.toNat, declared.fields) := by
  induction declares with
  | complete first _ inductionHypothesis => rw [wireDeclared_complete first, inductionHypothesis, List.map_cons]
  | skipped first _ inductionHypothesis => rw [wireDeclared_skipped first, inductionHypothesis]
  | ends last => rw [wireDeclared_ends last, List.map_nil]

/-- Complete records one behind another, and padding too short for a header. -/
theorem declares_flatMap {α : Type} {ipfix options : Bool} {declare : α → Declared ipfix} {encode : α → Bytes}
    {items : List α} (complete : ∀ item ∈ items, CompleteRecord ipfix options (declare item) (encode item))
    {padding : Bytes} (short : padding.length < if options then 6 else 4) :
    Declares ipfix options (items.flatMap encode ++ padding) (items.map declare) := by
  induction items with
  | nil => exact .ends (.padding short)
  | cons item items inductionHypothesis =>
    rw [List.flatMap_cons, List.map_cons, List.append_assoc]
    exact .complete (complete item List.mem_cons_self)
      (inductionHypothesis fun other member => complete other (List.mem_cons_of_mem _ member))

end Netflume
