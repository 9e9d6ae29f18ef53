import Netflume.Library.Bytes

/-! # Text fields

`bytes.decode("utf-8", "replace")`, `str.rstrip("\x00")` and `str.strip()`, on
lists of characters. -/

namespace Netflume

open Library

/-- What a lead byte announces: the bits it contributes, how many continuation
bytes follow, and the range its first continuation byte must lie in. -/
def utf8Lead (byte : Nat) : Option (Nat × Nat × Nat × Nat) :=
  if byte < 0x80 then some (byte, 0, 0x80, 0xBF)
  else if byte < 0xC2 then none
  else if byte < 0xE0 then some (byte % 32, 1, 0x80, 0xBF)
  else if byte = 0xE0 then some (byte % 16, 2, 0xA0, 0xBF)
  else if byte = 0xED then some (byte % 16, 2, 0x80, 0x9F)
  else if byte < 0xF0 then some (byte % 16, 2, 0x80, 0xBF)
  else if byte = 0xF0 then some (byte % 8, 3, 0x90, 0xBF)
  else if byte < 0xF4 then some (byte % 8, 3, 0x80, 0xBF)
  else if byte = 0xF4 then some (byte % 8, 3, 0x80, 0x8F)
  else none

/-- Take continuation bytes while they are valid: the code point when all are
there, and what is left. -/
def utf8Continue : (count lo hi point : Nat) → Bytes → Option Nat × Bytes
  | 0, _, _, point, rest => (some point, rest)
  | _ + 1, _, _, _, [] => (none, [])
  | count + 1, lo, hi, point, byte :: rest =>
    if lo ≤ byte.toNat ∧ byte.toNat ≤ hi then
      utf8Continue count 0x80 0xBF (point * 64 + byte.toNat % 64) rest
    else (none, byte :: rest)

def replacementChar : Char := Char.ofNat 0xFFFD

/-- Each maximal prefix of an ill-formed sequence becomes one U+FFFD. -/
def decodeUtf8 : (fuel : Nat) → Bytes → List Char
  | 0, _ => []
  | _ + 1, [] => []
  | fuel + 1, byte :: rest =>
    match utf8Lead byte.toNat with
    | none => replacementChar :: decodeUtf8 fuel rest
    | some (bits, count, lo, hi) =>
      match utf8Continue count lo hi bits rest with
      | (some point, rest) => Char.ofNat point :: decodeUtf8 fuel rest
      | (none, rest) => replacementChar :: decodeUtf8 fuel rest

/-- `str.isspace` for one character. -/
def isSpace (char : Char) : Bool :=
  let point := char.toNat
  (9 ≤ point && point ≤ 13) || (28 ≤ point && point ≤ 32) || point == 0x85 || point == 0xA0 ||
    point == 0x1680 || (0x2000 ≤ point && point ≤ 0x200A) || point == 0x2028 || point == 0x2029 ||
    point == 0x202F || point == 0x205F || point == 0x3000

def dropWhileEnd (test : Char → Bool) (chars : List Char) : List Char :=
  (chars.reverse.dropWhile test).reverse

/-- `raw.decode("utf-8", "replace").rstrip("\x00").strip()`. -/
def decodeText (raw : Bytes) : String :=
  let chars := dropWhileEnd (fun char => char.toNat == 0) (decodeUtf8 raw.length raw)
  String.ofList (dropWhileEnd isSpace (chars.dropWhile isSpace))

end Netflume
