import Netflume.Library.Bytes

/-! # Addresses

Rendering the address fields of a record, and `_exporter_key`, which folds the
IPv4-mapped spellings of an exporter's address back to its dotted quad.  Parsing
follows `ipaddress.IPv6Address` and `ipaddress.IPv4Address`. -/

namespace Netflume

open Library

/-- `socket.inet_ntoa`: the octets in decimal, joined by dots. -/
def inetNtoa (raw : Bytes) : String :=
  ".".intercalate (raw.map fun byte => Nat.repr byte.toNat)

/-- `"%x" % number`. -/
def hexDigits (number : Nat) : List Char := Nat.toDigits 16 number

/-- `f"{byte:02x}"`. -/
def hexByte (byte : UInt8) : List Char :=
  [Nat.digitChar (byte.toNat / 16), Nat.digitChar (byte.toNat % 16)]

/-- `raw.hex()`. -/
def hexString (raw : Bytes) : String := String.ofList (raw.flatMap hexByte)

/-! ## Rendering an IPv6 address -/

/-- The 16-bit groups of an address. -/
def hextets : Bytes → List Nat
  | high :: low :: rest => (high.toNat * 256 + low.toNat) :: hextets rest
  | _ => []

/-- The scan of `_compress_hextets`: the start and length of the first longest
run of zero groups.  `start` and `run` describe the run being read. -/
def longestZeroRun : (groups : List Nat) → (index start run bestStart bestRun : Nat) → Nat × Nat
  | [], _, _, _, bestStart, bestRun => (bestStart, bestRun)
  | group :: groups, index, start, run, bestStart, bestRun =>
    if group = 0 then
      let start := if run = 0 then index else start
      if run + 1 > bestRun then longestZeroRun groups (index + 1) start (run + 1) start (run + 1)
      else longestZeroRun groups (index + 1) start (run + 1) bestStart bestRun
    else longestZeroRun groups (index + 1) 0 0 bestStart bestRun

/-- `str(ipaddress.IPv6Address(raw))`, an IPv4-mapped address included. -/
def ipv6String (raw : Bytes) : String :=
  let groups := hextets raw
  let texts := groups.map fun group => String.ofList (hexDigits group)
  let (start, run) := longestZeroRun groups 0 0 0 0 0
  if run > 1 then
    let before := if start = 0 then [""] else texts.take start
    let after := if start + run = groups.length then [""] else texts.drop (start + run)
    ":".intercalate (before ++ [""] ++ after)
  else ":".intercalate texts

/-! ## Parsing an IPv6 address -/

/-- `text.split(separator)`. -/
def splitOn (separator : Char) : List Char → List (List Char)
  | [] => [[]]
  | char :: chars =>
    match splitOn separator chars with
    | [] => [[char]]
    | part :: parts => if char = separator then [] :: part :: parts else (char :: part) :: parts

def decimalValue (digits : List Char) : Nat :=
  digits.foldl (fun total digit => total * 10 + (digit.toNat - '0'.toNat)) 0

/-- `IPv4Address._parse_octet`. -/
def parseOctet (octet : List Char) : Option Nat :=
  if octet = [] ∨ ¬ octet.all (fun char => '0' ≤ char && char ≤ '9') ∨ octet.length > 3 then none
  else if octet ≠ ['0'] ∧ octet.head? = some '0' then none
  else if decimalValue octet > 255 then none
  else some (decimalValue octet)

/-- `IPv4Address(text)._ip`. -/
def parseIpv4 (text : List Char) : Option Nat :=
  match (splitOn '.' text).map parseOctet with
  | [some first, some second, some third, some fourth] =>
    some (((first * 256 + second) * 256 + third) * 256 + fourth)
  | _ => none

def hexValue (char : Char) : Option Nat :=
  if '0' ≤ char ∧ char ≤ '9' then some (char.toNat - '0'.toNat)
  else if 'a' ≤ char ∧ char ≤ 'f' then some (char.toNat - 'a'.toNat + 10)
  else if 'A' ≤ char ∧ char ≤ 'F' then some (char.toNat - 'A'.toNat + 10)
  else none

/-- `IPv6Address._parse_hextet`; `int("", 16)` is an error too. -/
def parseHextet (text : List Char) : Option Nat :=
  if text = [] ∨ text.length > 4 then none
  else text.foldl (fun total char => do pure ((← total) * 16 + (← hexValue char))) (some 0)

def parseHextets (parts : List (List Char)) : Option Nat :=
  parts.foldl (fun total part => do pure ((← total) * 65536 + (← parseHextet part))) (some 0)

/-- The parts after an IPv4 suffix has been rewritten as two groups. -/
def expandSuffix (parts : List (List Char)) : Option (List (List Char)) :=
  match parts.getLast? with
  | some suffix =>
    if '.' ∈ suffix then do
      let quad ← parseIpv4 suffix
      pure (parts.dropLast ++ [hexDigits (quad / 65536), hexDigits (quad % 65536)])
    else some parts
  | none => none

/-- Positions of the empty parts strictly between the first and the last. -/
def innerGaps (parts : List (List Char)) : List Nat :=
  (List.range parts.length).filter fun index =>
    decide (1 ≤ index ∧ index + 1 < parts.length) && (parts.getD index []).isEmpty

/-- `IPv6Address._ip_int_from_string`. -/
def ipIntFromString (text : List Char) : Option Nat := do
  if text = [] then none
  else if (splitOn ':' text).length < 3 then none
  else
    let parts ← expandSuffix (splitOn ':' text)
    if parts.length > 9 then none
    else
      match innerGaps parts with
      | [] =>
        if parts.length = 8 then parseHextets parts else none
      | [skip] =>
        let high := parts.take skip
        let low := parts.drop (skip + 1)
        if high.head? = some [] ∧ high.length > 1 then none
        else if low.getLast? = some [] ∧ low.length > 1 then none
        else
          let high := if high = [[]] then [] else high
          let low := if low = [[]] then [] else low
          if high.length + low.length ≥ 8 then none
          else
            let top ← parseHextets high
            let bottom ← parseHextets low
            pure (top * 65536 ^ (8 - high.length) + bottom)
      | _ => none

/-- `IPv6Address(text)`, the scope id checked and dropped. -/
def parseIpv6 (text : List Char) : Option Nat :=
  if '/' ∈ text then none
  else
    match splitOn '%' text with
    | [address] => ipIntFromString address
    | [address, scope] => if scope = [] then none else ipIntFromString address
    | _ => none

/-! ## Exporters -/

/-- Whatever identifies a source: a string, or any other hashable object. -/
inductive Exporter where
  | str (address : String)
  | obj (identity : Nat)
  deriving DecidableEq, Repr

/-- `_exporter_key`: one spelling per exporter. -/
def exporterKey : Exporter → Exporter
  | .str address =>
    if ':' ∉ address.toList then .str address
    else
      match parseIpv6 address.toList with
      | none => .str address
      | some number =>
        if number / 2 ^ 32 = 0xFFFF then .str (inetNtoa (toBytes 4 (number % 2 ^ 32)))
        else .str address
  | .obj identity => .obj identity

/-! ## One spelling each -/

/-- A numeral has no separator in it. -/
theorem not_mem_repr {separator : Char} (noDigit : separator.isDigit = false) (number : Nat) :
    separator ∉ (Nat.repr number).toList := by
  intro member
  rw [Nat.toList_repr] at member
  have digit := Nat.isDigit_of_mem_toDigits (by decide) (by decide) member
  rw [noDigit] at digit
  cases digit

theorem mem_intercalate {separator char : Char} {parts : List (List Char)}
    (member : char ∈ [separator].intercalate parts) : char = separator ∨ ∃ part ∈ parts, char ∈ part := by
  induction parts with
  | nil => cases member
  | cons part parts inductionHypothesis =>
    cases parts with
    | nil => exact .inr ⟨part, List.mem_cons_self, by simpa using member⟩
    | cons next rest =>
      rw [List.intercalate_cons_cons, List.append_assoc, List.mem_append, List.mem_append, List.mem_singleton] at member
      obtain first | isSeparator | later := member
      · exact .inr ⟨part, List.mem_cons_self, first⟩
      · exact .inl isSeparator
      · obtain same | ⟨other, isLater, inside⟩ := inductionHypothesis later
        · exact .inl same
        · exact .inr ⟨other, List.mem_cons_of_mem _ isLater, inside⟩

/-- A dotted quad contains no colon. -/
theorem colon_not_mem_inetNtoa (raw : Bytes) : ':' ∉ (inetNtoa raw).toList := by
  intro member
  rw [inetNtoa, String.toList_intercalate, List.map_map] at member
  obtain same | ⟨part, isPart, inside⟩ := mem_intercalate member
  · cases same
  · obtain ⟨byte, _, rfl⟩ := List.mem_map.mp isPart
    exact not_mem_repr rfl byte.toNat inside

/-- An exporter is left as it is, or is given the dotted quad of a mapped address. -/
theorem exporterKey_forms (exporter : Exporter) :
    exporterKey exporter = exporter ∨ ∃ raw, exporterKey exporter = .str (inetNtoa raw) := by
  cases exporter with
  | obj identity => exact .inl rfl
  | str address =>
    rw [exporterKey]
    split
    · exact .inl rfl
    · split
      · exact .inl rfl
      · split
        · exact .inr ⟨_, rfl⟩
        · exact .inl rfl

/-- Normalising an address twice is normalising it once. -/
@[simp] theorem exporterKey_exporterKey (exporter : Exporter) :
    exporterKey (exporterKey exporter) = exporterKey exporter := by
  obtain untouched | ⟨raw, quad⟩ := exporterKey_forms exporter
  · rw [untouched, untouched]
  · rw [quad, exporterKey, if_pos (colon_not_mem_inetNtoa raw)]

example : exporterKey (.str "::ffff:c0a8:10a") = .str "192.168.1.10" := by decide
example : exporterKey (.str "::FFFF:192.168.1.10") = .str "192.168.1.10" := by decide
example : exporterKey (.str "fe80::1%eth0") = .str "fe80::1%eth0" := by decide
example : ipv6String [0, 0, 0, 0, 0, 0, 0, 0, 0, 0, 255, 255, 192, 168, 1, 10] = "::ffff:c0a8:10a" := by
  decide

end Netflume
