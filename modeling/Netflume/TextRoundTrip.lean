import Netflume.Parse

/-! # Text, there and back

What `decode("utf-8", "replace")` makes of the bytes of a text, behind any bytes at
all: an ill-formed sequence ends before the next character that is well formed, so
that damage stays where it is, and text that shows no U+FFFD is the bytes that were
sent. -/

namespace Netflume

open Library

/-- The text in a field, whatever the fuel. -/
def utf8Chars (data : Bytes) : List Char := decodeUtf8 data.length data

def utf8Bytes (chars : List Char) : Bytes := chars.flatMap String.utf8EncodeChar

/-! ## Fuel -/

/-- Continuation bytes are taken from the front. -/
theorem utf8Continue_suffix (count lo hi point : Nat) (data : Bytes) :
    ∃ taken, data = taken ++ (utf8Continue count lo hi point data).2 := by
  induction count generalizing lo hi point data with
  | zero => exact ⟨[], rfl⟩
  | succ count inductionHypothesis =>
    cases data with
    | nil => exact ⟨[], rfl⟩
    | cons byte rest =>
      rw [utf8Continue]
      split
      · obtain ⟨taken, split⟩ := inductionHypothesis 0x80 0xBF (point * 64 + byte.toNat % 64) rest
        exact ⟨byte :: taken, congrArg (byte :: ·) split⟩
      · exact ⟨[], rfl⟩

theorem utf8Continue_length_le (count lo hi point : Nat) (data : Bytes) :
    (utf8Continue count lo hi point data).2.length ≤ data.length := by
  obtain ⟨taken, split⟩ := utf8Continue_suffix count lo hi point data
  have sizes := congrArg List.length split
  rw [List.length_append] at sizes
  omega

/-- As much fuel as there are bytes is enough. -/
theorem decodeUtf8_of_le {fuel : Nat} {data : Bytes} (enough : data.length ≤ fuel) :
    decodeUtf8 fuel data = utf8Chars data := by
  suffices all : ∀ first second (data : Bytes), data.length ≤ first → data.length ≤ second →
      decodeUtf8 first data = decodeUtf8 second data from all _ _ data enough (Nat.le_refl _)
  intro first
  induction first with
  | zero =>
    intro second data empty _
    obtain rfl := List.length_eq_zero_iff.mp (Nat.le_zero.mp empty)
    cases second <;> rfl
  | succ first inductionHypothesis =>
    intro second data enough alsoEnough
    cases data with
    | nil => cases second <;> rfl
    | cons byte rest =>
      rw [List.length_cons] at enough alsoEnough
      obtain ⟨second, rfl⟩ := Nat.exists_eq_succ_of_ne_zero (show second ≠ 0 by omega)
      simp only [decodeUtf8]
      cases utf8Lead byte.toNat with
      | none => exact congrArg _ (inductionHypothesis second rest (by omega) (by omega))
      | some lead =>
        obtain ⟨bits, count, lo, hi⟩ := lead
        have left := utf8Continue_length_le count lo hi bits rest
        dsimp only
        generalize utf8Continue count lo hi bits rest = continued at left ⊢
        obtain ⟨point, behind⟩ := continued
        have fits : behind.length ≤ rest.length := left
        cases point with
        | none => exact congrArg _ (inductionHypothesis second behind (by omega) (by omega))
        | some point => exact congrArg _ (inductionHypothesis second behind (by omega) (by omega))

@[simp] theorem utf8Chars_nil : utf8Chars [] = [] := rfl

theorem utf8Chars_cons (byte : UInt8) (rest : Bytes) :
    utf8Chars (byte :: rest) = match utf8Lead byte.toNat with
      | none => replacementChar :: utf8Chars rest
      | some (bits, count, lo, hi) =>
        match utf8Continue count lo hi bits rest with
        | (some point, rest) => Char.ofNat point :: utf8Chars rest
        | (none, rest) => replacementChar :: utf8Chars rest := by
  rw [utf8Chars, List.length_cons, decodeUtf8]
  cases utf8Lead byte.toNat with
  | none => rfl
  | some lead =>
    obtain ⟨bits, count, lo, hi⟩ := lead
    have left := utf8Continue_length_le count lo hi bits rest
    dsimp only
    generalize utf8Continue count lo hi bits rest = continued at left ⊢
    obtain ⟨point, rest⟩ := continued
    cases point <;> exact congrArg _ (decodeUtf8_of_le left)

/-! ## One character -/

theorem toNat_ofNat_byte {number : Nat} (small : number < 256) : (UInt8.ofNat number).toNat = number :=
  UInt8.toNat_ofNat_of_lt small

/-- The first continuation byte is narrowed where it could spell an overlong form or a surrogate. -/
theorem utf8Lead_three {point : Nat} (long : 0x7ff < point) (short : point ≤ 0xffff)
    (scalar : point < 0xD800 ∨ 0xDFFF < point) :
    ∃ lo hi, utf8Lead (point / 4096 % 16 + 0xe0) = some (point / 4096, 2, lo, hi) ∧
      lo ≤ point / 64 % 64 + 0x80 ∧ point / 64 % 64 + 0x80 ≤ hi := by
  have bits : (point / 4096 % 16 + 0xe0) % 16 = point / 4096 := by omega
  rw [utf8Lead, if_neg (by omega), if_neg (by omega), if_neg (by omega), bits]
  split
  · exact ⟨_, _, rfl, by omega, by omega⟩
  · split
    · exact ⟨_, _, rfl, by omega, by omega⟩
    · rw [if_pos (by omega)]
      exact ⟨_, _, rfl, by omega, by omega⟩

theorem utf8Lead_four {point : Nat} (long : 0xffff < point) (short : point < 0x110000) :
    ∃ lo hi, utf8Lead (point / 262144 % 8 + 0xf0) = some (point / 262144, 3, lo, hi) ∧
      lo ≤ point / 4096 % 64 + 0x80 ∧ point / 4096 % 64 + 0x80 ≤ hi := by
  have bits : (point / 262144 % 8 + 0xf0) % 8 = point / 262144 := by omega
  rw [utf8Lead, if_neg (by omega), if_neg (by omega), if_neg (by omega), if_neg (by omega), if_neg (by omega),
    if_neg (by omega), bits]
  split
  · exact ⟨_, _, rfl, by omega, by omega⟩
  · split
    · exact ⟨_, _, rfl, by omega, by omega⟩
    · rw [if_pos (by omega)]
      exact ⟨_, _, rfl, by omega, by omega⟩

/-- A character's bytes: a lead byte, and continuation bytes that give back its code point. -/
theorem utf8EncodeChar_read (char : Char) (rest : Bytes) :
    ∃ byte tail bits count lo hi, String.utf8EncodeChar char = byte :: tail ∧
      utf8Lead byte.toNat = some (bits, count, lo, hi) ∧
      utf8Continue count lo hi bits (tail ++ rest) = (some char.toNat, rest) := by
  have valid : char.toNat < 0xD800 ∨ 0xDFFF < char.toNat ∧ char.toNat < 0x110000 := char.valid
  have isPoint : char.val.toNat = char.toNat := rfl
  rw [String.utf8EncodeChar, isPoint]
  generalize char.toNat = point at valid
  by_cases one : point ≤ 0x7f
  · rw [if_pos one]
    refine ⟨_, _, point, 0, 0x80, 0xBF, rfl, ?_, rfl⟩
    rw [toNat_ofNat_byte (by omega), utf8Lead, if_pos (by omega)]
  · rw [if_neg one]
    by_cases two : point ≤ 0x7ff
    · rw [if_pos two]
      refine ⟨_, _, point / 64, 1, 0x80, 0xBF, rfl, ?_, ?_⟩
      · rw [toNat_ofNat_byte (by omega), utf8Lead, if_neg (by omega), if_neg (by omega), if_pos (by omega)]
        congr 2
        omega
      · have last : point / 64 * 64 + (point % 64 + 128) % 64 = point := by omega
        simp only [List.cons_append, List.nil_append, utf8Continue]
        rw [toNat_ofNat_byte (by omega), if_pos (by omega), last]
    · rw [if_neg two]
      by_cases three : point ≤ 0xffff
      · obtain ⟨lo, hi, read, low, high⟩ := utf8Lead_three (by omega) three (by omega)
        rw [if_pos three]
        refine ⟨_, _, _, _, lo, hi, rfl, by rw [toNat_ofNat_byte (by omega), read], ?_⟩
        have last : (point / 4096 * 64 + (point / 64 % 64 + 128) % 64) * 64 + (point % 64 + 128) % 64 = point := by omega
        simp only [List.cons_append, List.nil_append, utf8Continue]
        rw [toNat_ofNat_byte (by omega), if_pos ⟨low, high⟩, toNat_ofNat_byte (by omega), if_pos (by omega), last]
      · obtain ⟨lo, hi, read, low, high⟩ := @utf8Lead_four point (by omega) (by omega)
        rw [if_neg three]
        refine ⟨_, _, _, _, lo, hi, rfl, by rw [toNat_ofNat_byte (by omega), read], ?_⟩
        have last : ((point / 262144 * 64 + (point / 4096 % 64 + 128) % 64) * 64 + (point / 64 % 64 + 128) % 64) * 64 +
            (point % 64 + 128) % 64 = point := by omega
        simp only [List.cons_append, List.nil_append, utf8Continue]
        rw [toNat_ofNat_byte (by omega), if_pos ⟨low, high⟩, toNat_ofNat_byte (by omega), if_pos (by omega),
          toNat_ofNat_byte (by omega), if_pos (by omega), last]

theorem utf8Chars_encodeChar (char : Char) (rest : Bytes) :
    utf8Chars (String.utf8EncodeChar char ++ rest) = char :: utf8Chars rest := by
  obtain ⟨byte, tail, bits, count, lo, hi, encoded, lead, continued⟩ := utf8EncodeChar_read char rest
  rw [encoded, List.cons_append, utf8Chars_cons, lead]
  simp only [continued]
  rw [Char.ofNat_toNat]

theorem utf8Chars_utf8Bytes (chars : List Char) (rest : Bytes) :
    utf8Chars (utf8Bytes chars ++ rest) = chars ++ utf8Chars rest := by
  induction chars with
  | nil => rfl
  | cons char chars inductionHypothesis =>
    rw [utf8Bytes, List.flatMap_cons, List.append_assoc, utf8Chars_encodeChar]
    exact congrArg (char :: ·) inductionHypothesis

/-! ## Damage -/

/-- A byte that continues no character, or the end. -/
def StartsAfresh (data : Bytes) : Prop := ∀ byte ∈ data.head?, byte.toNat < 0x80 ∨ 0xBF < byte.toNat

/-- The lead bytes, by how many continuation bytes follow. -/
theorem utf8Lead_cases {byte bits count lo hi : Nat} (lead : utf8Lead byte = some (bits, count, lo, hi)) :
    (count = 0 ∧ byte < 0x80 ∧ bits = byte) ∨
      (count = 1 ∧ 0xC2 ≤ byte ∧ byte < 0xE0 ∧ bits = byte % 32 ∧ 0x80 ≤ lo ∧ hi ≤ 0xBF) ∨
      (count = 2 ∧ 0xE0 ≤ byte ∧ byte < 0xF0 ∧ bits = byte % 16 ∧ 0x80 ≤ lo ∧ hi ≤ 0xBF ∧
        (byte = 0xE0 → 0xA0 ≤ lo) ∧ (byte = 0xED → hi ≤ 0x9F)) ∨
      (count = 3 ∧ 0xF0 ≤ byte ∧ byte ≤ 0xF4 ∧ bits = byte % 8 ∧ 0x80 ≤ lo ∧ hi ≤ 0xBF ∧
        (byte = 0xF0 → 0x90 ≤ lo) ∧ (byte = 0xF4 → hi ≤ 0x8F)) := by
  unfold utf8Lead at lead
  split_ifs at lead <;> cases lead <;> omega

theorem utf8Lead_range {byte bits count lo hi : Nat} (lead : utf8Lead byte = some (bits, count, lo, hi))
    (continues : count ≠ 0) : 0x80 ≤ lo ∧ hi ≤ 0xBF := by
  have cases := utf8Lead_cases lead
  omega

theorem utf8Lead_afresh {byte : Nat} {lead : Nat × Nat × Nat × Nat} (read : utf8Lead byte = some lead) :
    byte < 0x80 ∨ 0xBF < byte := by
  obtain ⟨bits, count, lo, hi⟩ := lead
  have cases := utf8Lead_cases read
  omega

theorem startsAfresh_utf8Bytes (chars : List Char) : StartsAfresh (utf8Bytes chars) := by
  cases chars with
  | nil => exact fun _ member => by cases member
  | cons char chars =>
    obtain ⟨byte, tail, bits, count, lo, hi, encoded, lead, _⟩ := utf8EncodeChar_read char []
    intro first member
    rw [utf8Bytes, List.flatMap_cons, encoded, List.cons_append, List.head?_cons, Option.mem_some_iff] at member
    rw [← member]
    exact utf8Lead_afresh lead

/-- What starts afresh is never taken for a continuation. -/
theorem utf8Continue_append {behind : Bytes} (afresh : StartsAfresh behind) {count lo hi : Nat}
    (range : count ≠ 0 → 0x80 ≤ lo ∧ hi ≤ 0xBF) (point : Nat) (data : Bytes) :
    utf8Continue count lo hi point (data ++ behind) =
      ((utf8Continue count lo hi point data).1, (utf8Continue count lo hi point data).2 ++ behind) := by
  induction count generalizing lo hi point data with
  | zero => rfl
  | succ count inductionHypothesis =>
    cases data with
    | nil =>
      cases behind with
      | nil => rfl
      | cons byte rest =>
        have apart := afresh byte rfl
        have narrow := range (Nat.succ_ne_zero count)
        simp only [List.nil_append, utf8Continue]
        rw [if_neg (by omega)]
    | cons byte rest =>
      simp only [List.cons_append, utf8Continue]
      split
      · exact inductionHypothesis (fun _ => ⟨Nat.le_refl _, Nat.le_refl _⟩) _ rest
      · rfl

/-- Along the bytes, each lead byte taking at least itself. -/
@[elab_as_elim]
theorem utf8_induction {motive : Bytes → Prop} (nil : motive [])
    (step : ∀ byte rest, (∀ behind : Bytes, behind.length ≤ rest.length → motive behind) → motive (byte :: rest))
    (data : Bytes) : motive data := by
  suffices all : ∀ size (data : Bytes), data.length ≤ size → motive data from all _ data (Nat.le_refl _)
  intro size
  induction size with
  | zero =>
    intro data empty
    rwa [List.length_eq_zero_iff.mp (Nat.le_zero.mp empty)]
  | succ size inductionHypothesis =>
    intro data fits
    cases data with
    | nil => exact nil
    | cons byte rest =>
      rw [List.length_cons] at fits
      exact step byte rest fun behind shorter => inductionHypothesis behind (by omega)

/-- Damage ends where something starts afresh. -/
theorem utf8Chars_append {behind : Bytes} (afresh : StartsAfresh behind) (data : Bytes) :
    utf8Chars (data ++ behind) = utf8Chars data ++ utf8Chars behind := by
  induction data using utf8_induction with
  | nil => rfl
  | step byte rest inductionHypothesis =>
    rw [List.cons_append, utf8Chars_cons, utf8Chars_cons]
    cases read : utf8Lead byte.toNat with
    | none => exact congrArg _ (inductionHypothesis rest (Nat.le_refl _))
    | some lead =>
      obtain ⟨bits, count, lo, hi⟩ := lead
      have left := utf8Continue_length_le count lo hi bits rest
      simp only [utf8Continue_append afresh (utf8Lead_range read)]
      generalize utf8Continue count lo hi bits rest = continued at left ⊢
      obtain ⟨point, after⟩ := continued
      cases point <;> exact congrArg _ (inductionHypothesis after left)

/-! ## What shows no damage was sent -/

theorem toNat_ofNat_char {point : Nat} (valid : point.isValidChar) : (Char.ofNat point).toNat = point := by
  rw [Char.ofNat, dif_pos valid]
  rfl

theorem utf8Continue_succ {count lo hi point value : Nat} {data behind : Bytes}
    (continued : utf8Continue (count + 1) lo hi point data = (some value, behind)) :
    ∃ byte rest, data = byte :: rest ∧ lo ≤ byte.toNat ∧ byte.toNat ≤ hi ∧
      utf8Continue count 0x80 0xBF (point * 64 + byte.toNat % 64) rest = (some value, behind) := by
  cases data with
  | nil => cases continued
  | cons byte rest =>
    rw [utf8Continue] at continued
    split at continued
    · rename_i inside
      exact ⟨byte, rest, rfl, inside.1, inside.2, continued⟩
    · cases continued

theorem utf8Continue_zero {lo hi point value : Nat} {data behind : Bytes}
    (continued : utf8Continue 0 lo hi point data = (some value, behind)) : value = point ∧ behind = data := by
  cases continued
  exact ⟨rfl, rfl⟩

theorem ofNat_byte {byte : UInt8} {number : Nat} (same : number = byte.toNat) : UInt8.ofNat number = byte := by
  rw [same, UInt8.ofNat_toNat]

/-- A character that is read is the one whose bytes were there. -/
theorem utf8EncodeChar_of_read {byte : UInt8} {bits count lo hi point : Nat} {rest behind : Bytes}
    (lead : utf8Lead byte.toNat = some (bits, count, lo, hi))
    (continued : utf8Continue count lo hi bits rest = (some point, behind)) :
    String.utf8EncodeChar (Char.ofNat point) ++ behind = byte :: rest := by
  have encoded (valid : point.isValidChar) : (Char.ofNat point).val.toNat = point := toNat_ofNat_char valid
  obtain ⟨rfl, small, rfl⟩ | ⟨rfl, low, high, rfl, _, _⟩ | ⟨rfl, low, high, rfl, _, _, _, _⟩ |
    ⟨rfl, low, high, rfl, _, _, _, _⟩ := utf8Lead_cases lead
  · obtain ⟨rfl, rfl⟩ := utf8Continue_zero continued
    rw [String.utf8EncodeChar, encoded (.inl (by omega)), if_pos (by omega), ofNat_byte rfl]
    rfl
  · obtain ⟨first, rest, rfl, firstLow, firstHigh, continued⟩ := utf8Continue_succ continued
    obtain ⟨isPoint, rfl⟩ := utf8Continue_zero continued
    rw [String.utf8EncodeChar, encoded (.inl (by omega)), if_neg (by omega), if_pos (by omega),
      @ofNat_byte byte _ (by omega), @ofNat_byte first _ (by omega)]
    rfl
  · obtain ⟨first, rest, rfl, firstLow, firstHigh, continued⟩ := utf8Continue_succ continued
    obtain ⟨second, rest, rfl, secondLow, secondHigh, continued⟩ := utf8Continue_succ continued
    obtain ⟨isPoint, rfl⟩ := utf8Continue_zero continued
    have valid : point.isValidChar := by
      show point < 0xD800 ∨ 0xDFFF < point ∧ point < 0x110000
      omega
    rw [String.utf8EncodeChar, encoded valid, if_neg (by omega), if_neg (by omega), if_pos (by omega),
      @ofNat_byte byte _ (by omega), @ofNat_byte first _ (by omega), @ofNat_byte second _ (by omega)]
    rfl
  · obtain ⟨first, rest, rfl, firstLow, firstHigh, continued⟩ := utf8Continue_succ continued
    obtain ⟨second, rest, rfl, secondLow, secondHigh, continued⟩ := utf8Continue_succ continued
    obtain ⟨third, rest, rfl, thirdLow, thirdHigh, continued⟩ := utf8Continue_succ continued
    obtain ⟨isPoint, rfl⟩ := utf8Continue_zero continued
    have valid : point.isValidChar := by
      show point < 0xD800 ∨ 0xDFFF < point ∧ point < 0x110000
      omega
    rw [String.utf8EncodeChar, encoded valid, if_neg (by omega), if_neg (by omega), if_neg (by omega),
      @ofNat_byte byte _ (by omega), @ofNat_byte first _ (by omega), @ofNat_byte second _ (by omega),
      @ofNat_byte third _ (by omega)]
    rfl

/-- Text without a U+FFFD is the text of the bytes that were sent. -/
theorem utf8Bytes_utf8Chars {data : Bytes} (undamaged : replacementChar ∉ utf8Chars data) :
    utf8Bytes (utf8Chars data) = data := by
  induction data using utf8_induction with
  | nil => rfl
  | step byte rest inductionHypothesis =>
    rw [utf8Chars_cons] at undamaged ⊢
    cases read : utf8Lead byte.toNat with
    | none =>
      rw [read] at undamaged
      exact absurd List.mem_cons_self undamaged
    | some lead =>
      obtain ⟨bits, count, lo, hi⟩ := lead
      have left := utf8Continue_length_le count lo hi bits rest
      have encoded := @utf8EncodeChar_of_read byte bits count lo hi
      rw [read] at undamaged
      dsimp only at undamaged ⊢
      cases continued : utf8Continue count lo hi bits rest with
      | mk point after =>
        rw [continued] at undamaged left
        cases point with
        | none => exact absurd List.mem_cons_self undamaged
        | some point =>
          have tail := inductionHypothesis after left fun member => undamaged (List.mem_cons_of_mem _ member)
          rw [← encoded read continued, utf8Bytes, List.flatMap_cons]
          exact congrArg (_ ++ ·) tail

/-! ## Text fields -/

/-- `text.rstrip("\x00").strip()`. -/
def stripText (chars : List Char) : String :=
  let chars := dropWhileEnd (fun char => char.toNat == 0) chars
  String.ofList (dropWhileEnd isSpace (chars.dropWhile isSpace))

theorem decodeText_eq (raw : Bytes) : decodeText raw = stripText (utf8Chars raw) := rfl

theorem utf8Chars_replicate_zero (count : Nat) :
    utf8Chars (List.replicate count 0) = List.replicate count (Char.ofNat 0) := by
  induction count with
  | zero => rfl
  | succ count inductionHypothesis =>
    rw [List.replicate_succ, List.replicate_succ, utf8Chars_cons, ← inductionHypothesis]
    rfl

theorem dropWhileEnd_append_replicate {test : Char → Bool} {char : Char} (dropped : test char = true)
    (chars : List Char) (count : Nat) :
    dropWhileEnd test (chars ++ List.replicate count char) = dropWhileEnd test chars := by
  induction count with
  | zero => rw [List.replicate_zero, List.append_nil]
  | succ count inductionHypothesis =>
    rw [List.replicate_succ', ← List.append_assoc, ← inductionHypothesis, dropWhileEnd, List.reverse_append,
      List.reverse_singleton, List.singleton_append, List.dropWhile_cons_of_pos dropped]
    rfl

theorem dropWhileEnd_of_getLast? {test : Char → Bool} {chars : List Char}
    (kept : ∀ char ∈ chars.getLast?, test char = false) : dropWhileEnd test chars = chars := by
  rw [dropWhileEnd]
  rw [← List.head?_reverse] at kept
  cases reversed : chars.reverse with
  | nil => rw [List.reverse_eq_nil_iff.mp reversed, List.dropWhile_nil, List.reverse_nil]
  | cons last rest =>
    rw [reversed] at kept
    rw [List.dropWhile_cons_of_neg (by simp [kept last rfl]), ← reversed, List.reverse_reverse]

/-- Nothing is stripped from a text that neither starts nor ends in white space and does not end in a NUL. -/
theorem stripText_of_clean {text : String} (front : ∀ char ∈ text.toList.head?, isSpace char = false)
    (back : ∀ char ∈ text.toList.getLast?, isSpace char = false ∧ char.toNat ≠ 0) : stripText text.toList = text := by
  have start : text.toList.dropWhile isSpace = text.toList := by
    cases listed : text.toList with
    | nil => rfl
    | cons char rest =>
      rw [listed] at front
      exact List.dropWhile_cons_of_neg (by simp [front char rfl])
  have unpadded : dropWhileEnd (fun char => char.toNat == 0) text.toList = text.toList :=
    dropWhileEnd_of_getLast? fun char last => by simpa using (back char last).2
  have unspaced : dropWhileEnd isSpace text.toList = text.toList :=
    dropWhileEnd_of_getLast? fun char last => (back char last).1
  simp only [stripText, unpadded, start, unspaced, String.ofList_toList]

/-- What is sent as text is read as text: NUL padding is stripped, damage in front stays in front, and a reading that
shows no U+FFFD is the bytes that were sent. -/
theorem decodeValue_text (text : String) (damage : Bytes) (padding : Nat) :
    decodeValue (utf8Bytes text.toList ++ List.replicate padding 0) .string = .str (stripText text.toList) ∧
      ((∀ char ∈ text.toList.head?, isSpace char = false) →
        (∀ char ∈ text.toList.getLast?, isSpace char = false ∧ char.toNat ≠ 0) → stripText text.toList = text) ∧
      utf8Chars (damage ++ utf8Bytes text.toList) = utf8Chars damage ++ text.toList ∧
      (replacementChar ∉ utf8Chars damage → utf8Bytes (utf8Chars damage) = damage) := by
  have whole := utf8Chars_utf8Bytes text.toList
  refine ⟨?_, stripText_of_clean, ?_, utf8Bytes_utf8Chars⟩
  · show Value.str (decodeText _) = _
    rw [decodeText_eq, whole, utf8Chars_replicate_zero, stripText, dropWhileEnd_append_replicate rfl]
    rfl
  · have alone := whole []
    rw [List.append_nil, utf8Chars_nil, List.append_nil] at alone
    rw [utf8Chars_append (startsAfresh_utf8Bytes text.toList), alone]

end Netflume
