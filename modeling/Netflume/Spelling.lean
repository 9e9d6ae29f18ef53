import Netflume.Parse

/-! # Spellings of an address

The spelling an address field is rendered in reads back as the address, so two
addresses never share one.  For IPv6 that rests on the run of zero groups: the
scan names a stretch of them, and the reader puts back as many as are missing. -/

namespace Netflume

open Library

/-! ## Text in parts -/

theorem splitOn_ne_nil (separator : Char) (text : List Char) : splitOn separator text ≠ [] := by
  cases text with
  | nil => nofun
  | cons char chars =>
    rw [splitOn]
    split
    · nofun
    · split <;> nofun

/-- Splitting is what the library calls splitting. -/
theorem splitOn_eq (separator : Char) (text : List Char) : splitOn separator text = text.splitOn separator := by
  induction text with
  | nil => rfl
  | cons char chars inductionHypothesis =>
    obtain ⟨part, parts, rest⟩ := List.exists_cons_of_ne_nil (splitOn_ne_nil separator chars)
    rw [splitOn, List.splitOn, List.splitOnP_cons_eq_if_modifyHead, ← List.splitOn, ← inductionHypothesis, rest]
    by_cases isSeparator : char = separator <;> simp [isSeparator]

/-- Parts without the separator, joined by it, split into themselves. -/
theorem splitOn_intercalate {separator : Char} {parts : List (List Char)} (some : parts ≠ [])
    (none : ∀ part ∈ parts, separator ∉ part) : splitOn separator ([separator].intercalate parts) = parts := by
  rw [splitOn_eq]
  exact List.splitOn_intercalate separator none some

/-! ## Dotted quads -/

theorem parseOctet_toDigits : ∀ octet < 256, parseOctet (Nat.toDigits 10 octet) = some octet := by
  decide +kernel

/-- A dotted quad reads back as its address. -/
theorem parseIpv4_inetNtoa {raw : Bytes} (sized : raw.length = 4) :
    parseIpv4 (inetNtoa raw).toList = some (beNat raw) := by
  obtain _ | ⟨first, _ | ⟨second, _ | ⟨third, _ | ⟨fourth, _ | ⟨fifth, rest⟩⟩⟩⟩⟩ := raw <;> simp at sized
  have octets (byte : UInt8) : parseOctet (Nat.repr byte.toNat).toList = some byte.toNat := by
    rw [Nat.toList_repr]
    exact parseOctet_toDigits _ byte.toNat_lt
  have split : splitOn '.' (inetNtoa [first, second, third, fourth]).toList =
      [first, second, third, fourth].map fun byte => (Nat.repr byte.toNat).toList := by
    rw [inetNtoa, String.toList_intercalate, List.map_map]
    apply splitOn_intercalate (by simp)
    intro part member
    obtain ⟨byte, _, rfl⟩ := List.mem_map.mp member
    exact not_mem_repr rfl byte.toNat
  rw [parseIpv4, split]
  simp only [List.map_cons, List.map_nil, octets]
  simp [beNat]

/-! ## Groups -/

theorem hexValue_digitChar : ∀ digit < 16, hexValue digit.digitChar = some digit := by decide

/-- The digits of a number read back as the number. -/
theorem foldl_hexDigits (number : Nat) :
    (hexDigits number).foldl (fun total char => do pure ((← total) * 16 + (← hexValue char))) (some 0) =
      some number := by
  induction number using Nat.strongRecOn with
  | ind number inductionHypothesis =>
    rw [hexDigits, Nat.toDigits_eq_if (by decide)]
    split
    · rename_i small
      simp [hexValue_digitChar number small]
    · rename_i large
      have quotient := inductionHypothesis (number / 16) (by omega)
      rw [hexDigits] at quotient
      rw [List.foldl_append, quotient]
      have remainder := hexValue_digitChar (number % 16) (Nat.mod_lt _ (by decide))
      simp only [List.foldl_cons, List.foldl_nil, remainder]
      exact congrArg some (Nat.div_add_mod' number 16)

/-- Every character of a group is one of these. -/
theorem mem_hexDigits {number : Nat} {char : Char} (member : char ∈ hexDigits number) :
    ∃ digit < 16, char = digit.digitChar := by
  induction number using Nat.strongRecOn with
  | ind number inductionHypothesis =>
    rw [hexDigits, Nat.toDigits_eq_if (by decide)] at member
    split at member
    · rename_i small
      exact ⟨number, small, List.mem_singleton.mp member⟩
    · rename_i large
      rcases List.mem_append.mp member with before | last
      · exact inductionHypothesis (number / 16) (by omega) before
      · exact ⟨number % 16, Nat.mod_lt _ (by decide), List.mem_singleton.mp last⟩

theorem digitChar_ne : ∀ digit < 16, digit.digitChar ∉ [':', '.', '%', '/'] := by decide

/-- No separator of an address is a digit of a group. -/
theorem not_mem_hexDigits {separator : Char} (isSeparator : separator ∈ [':', '.', '%', '/']) (number : Nat) :
    separator ∉ hexDigits number := by
  intro member
  obtain ⟨digit, small, rfl⟩ := mem_hexDigits member
  exact digitChar_ne digit small isSeparator

theorem hexDigits_ne_nil (number : Nat) : hexDigits number ≠ [] := Nat.toDigits_ne_nil

/-- A group reads back as its number. -/
theorem parseHextet_hexDigits {number : Nat} (small : number < 65536) : parseHextet (hexDigits number) = some number := by
  have short : (hexDigits number).length ≤ 4 := (Nat.length_toDigits_le_iff (by decide) (by decide)).mpr small
  rw [parseHextet, if_neg (by simp [hexDigits_ne_nil, short]), foldl_hexDigits]

/-- The number some groups spell. -/
def groupsValue (groups : List Nat) : Nat := groups.foldl (fun total group => total * 65536 + group) 0

theorem foldl_groups (groups : List Nat) (total : Nat) :
    groups.foldl (fun total group => total * 65536 + group) total =
      total * 65536 ^ groups.length + groupsValue groups := by
  induction groups generalizing total with
  | nil => simp [groupsValue]
  | cons group groups inductionHypothesis =>
    rw [groupsValue, List.foldl_cons, List.foldl_cons, inductionHypothesis, inductionHypothesis (0 * 65536 + group),
      List.length_cons, Nat.pow_succ']
    ring

theorem groupsValue_append (high low : List Nat) :
    groupsValue (high ++ low) = groupsValue high * 65536 ^ low.length + groupsValue low := by
  rw [groupsValue, List.foldl_append, foldl_groups]
  rfl

theorem groupsValue_zeros (count : Nat) : groupsValue (List.replicate count 0) = 0 := by
  induction count with
  | zero => rfl
  | succ count inductionHypothesis =>
    rw [List.replicate_succ, groupsValue, List.foldl_cons]
    exact inductionHypothesis

/-- Groups read back as the number they spell. -/
theorem parseHextets_hexDigits {groups : List Nat} (small : ∀ group ∈ groups, group < 65536) :
    parseHextets (groups.map hexDigits) = some (groupsValue groups) := by
  have start (total : Nat) : (groups.map hexDigits).foldl
      (fun total part => do pure ((← total) * 65536 + (← parseHextet part))) (some total) =
      some (groups.foldl (fun total group => total * 65536 + group) total) := by
    induction groups generalizing total with
    | nil => rfl
    | cons group groups inductionHypothesis =>
      have first := parseHextet_hexDigits (small group List.mem_cons_self)
      rw [List.map_cons, List.foldl_cons, List.foldl_cons, first]
      exact inductionHypothesis (fun later member => small later (List.mem_cons_of_mem _ member)) _
  exact start 0

theorem hextets_spec (raw : Bytes) (even : raw.length % 2 = 0) (total : Nat) :
    (hextets raw).length = raw.length / 2 ∧ (∀ group ∈ hextets raw, group < 65536) ∧
      (hextets raw).foldl (fun total group => total * 65536 + group) total =
        raw.foldl (fun total byte => total * 256 + byte.toNat) total := by
  induction raw using hextets.induct generalizing total with
  | case1 high low rest inductionHypothesis =>
    have first := high.toNat_lt
    have second := low.toNat_lt
    obtain ⟨sized, small, value⟩ := inductionHypothesis (by simp at even; omega)
      ((total * 256 + high.toNat) * 256 + low.toNat)
    refine ⟨?_, ?_, ?_⟩
    · simp only [hextets, List.length_cons, sized]
      omega
    · rw [hextets, List.forall_mem_cons]
      exact ⟨by omega, small⟩
    · have together : total * 65536 + (high.toNat * 256 + low.toNat) =
          (total * 256 + high.toNat) * 256 + low.toNat := by ring
      rw [hextets, List.foldl_cons, List.foldl_cons, List.foldl_cons, together]
      exact value
  | case2 raw notPair =>
    cases raw with
    | nil => exact ⟨rfl, nofun, rfl⟩
    | cons byte rest =>
      cases rest with
      | nil => simp at even
      | cons next rest => exact absurd rfl (notPair byte next rest)

/-! ## The run of zero groups -/

/-- The groups from `start` on, `run` of them, are zero. -/
def ZeroRun (groups : List Nat) (start run : Nat) : Prop :=
  start + run ≤ groups.length ∧ (groups.drop start).take run = List.replicate run 0

theorem zeroRun_nil (groups : List Nat) : ZeroRun groups 0 0 := ⟨Nat.zero_le _, rfl⟩

/-- A zero group behind a run makes it longer by one. -/
theorem ZeroRun.snoc {before rest : List Nat} {start run : Nat} (zeros : ZeroRun (before ++ 0 :: rest) start run)
    (here : start + run = before.length) : ZeroRun (before ++ 0 :: rest) start (run + 1) := by
  obtain ⟨inside, all⟩ := zeros
  have next : ((before ++ 0 :: rest).drop start)[run]? = some 0 := by
    rw [List.getElem?_drop, here]
    simp
  refine ⟨?_, ?_⟩
  · rw [List.length_append, List.length_cons]
    omega
  · rw [List.take_add_one, all, next, List.replicate_succ']
    rfl

/-- The scan answers with a stretch of zero groups. -/
theorem longestZeroRun_spec {before groups : List Nat} {start run bestStart bestRun : Nat}
    (current : ZeroRun (before ++ groups) start run) (here : run ≠ 0 → start + run = before.length)
    (best : ZeroRun (before ++ groups) bestStart bestRun) :
    ZeroRun (before ++ groups) (longestZeroRun groups before.length start run bestStart bestRun).1
      (longestZeroRun groups before.length start run bestStart bestRun).2 := by
  induction groups generalizing before start run bestStart bestRun with
  | nil => exact best
  | cons group groups inductionHypothesis =>
    have next : before.length + 1 = (before ++ [group]).length := by simp
    have shift : before ++ group :: groups = (before ++ [group]) ++ groups := by simp
    rw [longestZeroRun]
    by_cases zero : group = 0
    · rw [if_pos zero]
      subst zero
      have longer : ZeroRun (before ++ 0 :: groups) (if run = 0 then before.length else start) (run + 1) := by
        by_cases begins : run = 0
        · rw [if_pos begins, begins]
          exact ZeroRun.snoc ⟨by simp, rfl⟩ rfl
        · rw [if_neg begins]
          exact current.snoc (here begins)
      have hereNext : (if run = 0 then before.length else start) + (run + 1) = (before ++ [0]).length := by
        rw [List.length_append, List.length_singleton]
        by_cases begins : run = 0
        · rw [if_pos begins, begins]
        · rw [if_neg begins, ← here begins]
          omega
      rw [shift] at longer best ⊢
      dsimp only
      rw [next]
      split
      · exact inductionHypothesis longer (fun _ => hereNext) longer
      · exact inductionHypothesis longer (fun _ => hereNext) best
    · rw [if_neg zero, next]
      rw [shift] at best ⊢
      exact inductionHypothesis ⟨Nat.zero_le _, rfl⟩ (fun some => absurd rfl some) best

/-- Groups with a stretch of zeros are the groups before it, the zeros, and the groups behind it. -/
theorem ZeroRun.split {groups : List Nat} {start run : Nat} (zeros : ZeroRun groups start run) :
    groups = groups.take start ++ (List.replicate run 0 ++ groups.drop (start + run)) := by
  rw [← zeros.2, ← List.drop_drop, List.take_append_drop, List.take_append_drop]

/-- What the groups spell, with the stretch left out. -/
theorem ZeroRun.value {groups : List Nat} {start run : Nat} (zeros : ZeroRun groups start run) :
    groupsValue groups =
      groupsValue (groups.take start) * 65536 ^ (groups.length - start) + groupsValue (groups.drop (start + run)) := by
  have inside := zeros.1
  have exponent : groups.length - start = run + (groups.length - (start + run)) := by omega
  conv_lhs => rw [zeros.split]
  rw [groupsValue_append, groupsValue_append, groupsValue_zeros, Nat.zero_mul, Nat.zero_add, List.length_append,
    List.length_replicate, List.length_drop, ← exponent]

/-! ## Reading a spelling with a gap -/

/-- The groups on one side of `::`; where there are none, the empty part that stands for them. -/
def side (groups : List Nat) : List (List Char) := if groups = [] then [[]] else groups.map hexDigits

theorem side_ne_nil (groups : List Nat) : side groups ≠ [] := by
  rw [side]
  split
  · nofun
  · simpa using ‹¬ groups = []›

theorem length_side (groups : List Nat) : (side groups).length = max 1 groups.length := by
  rw [side]
  split
  · rename_i none
    rw [none]
    rfl
  · rename_i some
    have := List.length_pos_iff.mpr some
    rw [List.length_map]
    omega

/-- Only a side without groups holds an empty part. -/
theorem isEmpty_side {groups : List Nat} {part : List Char} (member : part ∈ side groups) :
    part.isEmpty = decide (groups = []) := by
  rw [side] at member
  split at member
  · rename_i none
    rw [List.mem_singleton.mp member, none]
    rfl
  · rename_i some
    obtain ⟨group, _, rfl⟩ := List.mem_map.mp member
    simp [some, hexDigits_ne_nil]

theorem not_mem_side {separator : Char} (isSeparator : separator ∈ [':', '.', '%', '/']) {groups : List Nat}
    {part : List Char} (member : part ∈ side groups) : separator ∉ part := by
  rw [side] at member
  split at member
  · rw [List.mem_singleton.mp member]
    exact List.not_mem_nil
  · obtain ⟨group, _, rfl⟩ := List.mem_map.mp member
    exact not_mem_hexDigits isSeparator group

theorem filter_range_eq {size own : Nat} (inside : own < size) {keep : Nat → Bool}
    (only : ∀ index < size, keep index = (index == own)) : (List.range size).filter keep = [own] := by
  rw [List.filter_congr fun index member => only index (List.mem_range.mp member), List.filter_beq,
    List.count_range, if_pos inside]
  rfl

/-- The one gap of such a spelling. -/
theorem innerGaps_sides (high low : List Nat) :
    innerGaps (side high ++ [] :: side low) = [(side high).length] := by
  have highSize := length_side high
  have lowSize := length_side low
  have size : (side high ++ [] :: side low).length = (side high).length + 1 + (side low).length := by
    rw [List.length_append, List.length_cons]
    omega
  apply filter_range_eq
  · omega
  · intro index inside
    rw [size] at inside ⊢
    rcases Nat.lt_trichotomy index (side high).length with before | rfl | behind
    · have part : (side high ++ [] :: side low).getD index [] = (side high)[index] := by
        rw [List.getD_eq_getElem?_getD, List.getElem?_append_left before, List.getElem?_eq_getElem before]
        rfl
      rw [part, isEmpty_side (List.getElem_mem before)]
      have other : (index == (side high).length) = false := beq_eq_false_iff_ne.mpr (by omega)
      rw [other]
      by_cases none : high = []
      · have nothing : high.length = 0 := List.length_eq_zero_iff.mpr none
        have outer : ¬ (1 ≤ index ∧ index + 1 < (side high).length + 1 + (side low).length) := by omega
        rw [decide_eq_false outer, Bool.false_and]
      · rw [decide_eq_false none, Bool.and_false]
    · have part : (side high ++ [] :: side low).getD (side high).length [] = [] := by
        simp [List.getD_eq_getElem?_getD]
      rw [part]
      simp
      omega
    · have last : index - ((side high).length + 1) < (side low).length := by omega
      have part : (side high ++ [] :: side low).getD index [] = (side low)[index - ((side high).length + 1)] := by
        have shift : side high ++ [] :: side low = (side high ++ [[]]) ++ side low := by simp
        rw [shift, List.getD_eq_getElem?_getD, List.getElem?_append_right (by simp; omega), List.length_append,
          List.length_singleton, List.getElem?_eq_getElem last]
        rfl
      rw [part, isEmpty_side (List.getElem_mem last)]
      have other : (index == (side high).length) = false := beq_eq_false_iff_ne.mpr (by omega)
      rw [other]
      by_cases none : low = []
      · have nothing : low.length = 0 := List.length_eq_zero_iff.mpr none
        have outer : ¬ (1 ≤ index ∧ index + 1 < (side high).length + 1 + (side low).length) := by omega
        rw [decide_eq_false outer, Bool.false_and]
      · rw [decide_eq_false none, Bool.and_false]

/-- What is read of one side. -/
theorem parseHextets_side {groups : List Nat} (small : ∀ group ∈ groups, group < 65536) :
    parseHextets (if side groups = [[]] then [] else side groups) = some (groupsValue groups) ∧
      (if side groups = [[]] then [] else side groups).length = groups.length := by
  by_cases none : groups = []
  · rw [none]
    exact ⟨rfl, rfl⟩
  · have own : side groups = groups.map hexDigits := if_neg none
    have some : side groups ≠ [[]] := by
      obtain ⟨group, rest, rfl⟩ := List.exists_cons_of_ne_nil none
      rw [own, List.map_cons]
      intro same
      exact hexDigits_ne_nil group (List.cons.inj same).1
    rw [if_neg some, own]
    exact ⟨parseHextets_hexDigits small, List.length_map _⟩

/-- An empty end of a side is the whole side. -/
theorem side_end {groups : List Nat} (empty : [] ∈ side groups) : ¬ (side groups).length > 1 := by
  have none : groups = [] := by simpa using isEmpty_side empty
  rw [none]
  decide

/-- A spelling whose parts are groups, a gap and groups spells these with zeros between. -/
theorem ipIntFromString_gap {text : List Char} {high low : List Nat}
    (expanded : expandSuffix (splitOn ':' text) = some (side high ++ [] :: side low)) (some : text ≠ [])
    (parted : ¬ (splitOn ':' text).length < 3) (room : high.length + low.length < 8)
    (highSmall : ∀ group ∈ high, group < 65536) (lowSmall : ∀ group ∈ low, group < 65536) :
    ipIntFromString text = .some (groupsValue high * 65536 ^ (8 - high.length) + groupsValue low) := by
  have highSize := length_side high
  have lowSize := length_side low
  obtain ⟨highValue, highLength⟩ := parseHextets_side highSmall
  obtain ⟨lowValue, lowLength⟩ := parseHextets_side lowSmall
  have few : ¬ (side high ++ [] :: side low).length > 9 := by
    rw [List.length_append, List.length_cons]
    omega
  have front : (side high ++ [] :: side low).take (side high).length = side high := List.take_left
  have back : (side high ++ [] :: side low).drop ((side high).length + 1) = side low := by
    rw [← List.drop_drop, List.drop_left]
    rfl
  have highEnd : ¬ ((side high).head? = .some [] ∧ (side high).length > 1) := fun ⟨isEnd, long⟩ =>
    side_end (List.mem_of_mem_head? isEnd) long
  have lowEnd : ¬ ((side low).getLast? = .some [] ∧ (side low).length > 1) := fun ⟨isEnd, long⟩ =>
    side_end (List.mem_of_getLast? isEnd) long
  rw [ipIntFromString, if_neg some, if_neg parted, expanded]
  simp only [Option.bind_eq_bind, Option.bind_some, if_neg few, innerGaps_sides, front, back, if_neg highEnd,
    if_neg lowEnd, highLength, lowLength, if_neg (Nat.not_le.mpr room), highValue, lowValue]
  rfl

/-- Eight groups without a gap spell themselves. -/
theorem ipIntFromString_full {text : List Char} {groups : List Nat}
    (expanded : expandSuffix (splitOn ':' text) = some (groups.map hexDigits)) (some : text ≠ [])
    (parted : ¬ (splitOn ':' text).length < 3) (eight : groups.length = 8)
    (small : ∀ group ∈ groups, group < 65536) : ipIntFromString text = .some (groupsValue groups) := by
  have sized : (groups.map hexDigits).length = 8 := by rw [List.length_map, eight]
  have noGap : innerGaps (groups.map hexDigits) = [] := by
    apply List.filter_eq_nil_iff.mpr
    intro index member
    have inside : index < (groups.map hexDigits).length := List.mem_range.mp member
    have within : index < groups.length := by simpa using inside
    have part : (groups.map hexDigits).getD index [] = hexDigits groups[index] := by
      rw [List.getD_eq_getElem?_getD, List.getElem?_eq_getElem inside, Option.getD_some, List.getElem_map]
    rw [part]
    simp [hexDigits_ne_nil]
  have few : ¬ (groups.map hexDigits).length > 9 := by omega
  rw [ipIntFromString, if_neg some, if_neg parted, expanded]
  simp only [Option.bind_eq_bind, Option.bind_some, if_neg few, noGap, if_pos sized]
  exact parseHextets_hexDigits small

/-- Parts without a dot in them are left as they are. -/
theorem expandSuffix_of_no_dot {parts : List (List Char)} (some : parts ≠ []) (none : ∀ part ∈ parts, '.' ∉ part) :
    expandSuffix parts = .some parts := by
  rw [expandSuffix, List.getLast?_eq_some_getLast some]
  simp only [if_neg (none _ (List.getLast_mem some))]

/-! ## Reading back what was rendered -/

/-- The parts `ipv6String` joins. -/
def ipv6Parts (raw : Bytes) : List (List Char) :=
  let groups := hextets raw
  let (start, run) := longestZeroRun groups 0 0 0 0 0
  if run > 1 then side (groups.take start) ++ [] :: side (groups.drop (start + run)) else groups.map hexDigits

theorem toList_ipv6String {raw : Bytes} (some : hextets raw ≠ []) :
    (ipv6String raw).toList = [':'].intercalate (ipv6Parts raw) := by
  have zeros := @longestZeroRun_spec [] (hextets raw) 0 0 0 0 (zeroRun_nil _) (fun absurd => nomatch absurd rfl)
    (zeroRun_nil _)
  rw [ipv6String, ipv6Parts]
  dsimp only
  rw [List.length_nil, List.nil_append] at zeros
  generalize longestZeroRun (hextets raw) 0 0 0 0 0 = scanned at zeros ⊢
  obtain ⟨start, run⟩ := scanned
  have inside := zeros.1
  have texts : (hextets raw).map (String.toList ∘ fun group => String.ofList (hexDigits group)) =
      (hextets raw).map hexDigits := by
    apply List.map_congr_left
    intro group _
    exact String.toList_ofList
  dsimp only
  split
  · have front : (if start = 0 then [""] else
        ((hextets raw).map fun group => String.ofList (hexDigits group)).take start).map String.toList =
        side ((hextets raw).take start) := by
      rw [side]
      by_cases first : start = 0
      · rw [if_pos first, if_pos (by rw [first, List.take_zero])]
        rfl
      · rw [if_neg first, if_neg (by simp [first, some]), List.map_take, List.map_map, texts, List.map_take]
    have back : (if start + run = (hextets raw).length then [""] else
        ((hextets raw).map fun group => String.ofList (hexDigits group)).drop (start + run)).map String.toList =
        side ((hextets raw).drop (start + run)) := by
      rw [side]
      by_cases last : start + run = (hextets raw).length
      · rw [if_pos last, if_pos (by rw [last, List.drop_length])]
        rfl
      · have left : (hextets raw).drop (start + run) ≠ [] := by
          intro nothing
          have := List.drop_eq_nil_iff.mp nothing
          omega
        rw [if_neg last, if_neg left, List.map_drop, List.map_map, texts, List.map_drop]
    rw [String.toList_intercalate, List.map_append, List.map_append, front, back, List.append_assoc]
    rfl
  · rw [String.toList_intercalate, List.map_map, texts]
    rfl

/-- Every part is a group or the gap, so no separator is in one. -/
theorem not_mem_ipv6Parts {separator : Char} (isSeparator : separator ∈ [':', '.', '%', '/']) {raw : Bytes}
    {part : List Char} (member : part ∈ ipv6Parts raw) : separator ∉ part := by
  rw [ipv6Parts] at member
  dsimp only at member
  split at member
  · rcases List.mem_append.mp member with front | back
    · exact not_mem_side isSeparator front
    · rcases List.mem_cons.mp back with rfl | back
      · exact List.not_mem_nil
      · exact not_mem_side isSeparator back
  · obtain ⟨group, _, rfl⟩ := List.mem_map.mp member
    exact not_mem_hexDigits isSeparator group

theorem hextets_ne_nil {raw : Bytes} (sized : raw.length = 16) : hextets raw ≠ [] := by
  intro nothing
  have count := (hextets_spec raw (by omega) 0).1
  rw [nothing, sized] at count
  cases count

/-- Of the separators only the colon is in a rendered address. -/
theorem not_mem_ipv6String {raw : Bytes} (sized : raw.length = 16) {separator : Char}
    (isSeparator : separator ∈ [':', '.', '%', '/']) (other : separator ≠ ':') :
    separator ∉ (ipv6String raw).toList := by
  intro member
  rw [toList_ipv6String (hextets_ne_nil sized)] at member
  rcases mem_intercalate member with same | ⟨part, isPart, inside⟩
  · exact other same
  · exact not_mem_ipv6Parts isSeparator isPart inside

theorem ipIntFromString_ipv6String {raw : Bytes} (sized : raw.length = 16) :
    ipIntFromString (ipv6String raw).toList = some (beNat raw) := by
  obtain ⟨count, small, value⟩ := hextets_spec raw (by omega) 0
  have eight : (hextets raw).length = 8 := by omega
  have some := hextets_ne_nil sized
  have zeros := @longestZeroRun_spec [] (hextets raw) 0 0 0 0 (zeroRun_nil _) (fun absurd => nomatch absurd rfl)
    (zeroRun_nil _)
  have number : groupsValue (hextets raw) = beNat raw := value
  have parts : ipv6Parts raw ≠ [] := by
    rw [ipv6Parts]
    dsimp only
    split <;> simp [some]
  have split : splitOn ':' (ipv6String raw).toList = ipv6Parts raw := by
    rw [toList_ipv6String some]
    exact splitOn_intercalate parts fun part member => not_mem_ipv6Parts (by decide) member
  have expanded : expandSuffix (splitOn ':' (ipv6String raw).toList) = .some (ipv6Parts raw) := by
    rw [split]
    exact expandSuffix_of_no_dot parts fun part member => not_mem_ipv6Parts (by decide) member
  have text (parted : ¬ (splitOn ':' (ipv6String raw).toList).length < 3) : (ipv6String raw).toList ≠ [] := by
    intro empty
    rw [empty] at parted
    exact parted (by decide)
  rw [ipv6Parts] at split expanded
  dsimp only at split expanded
  rw [List.length_nil, List.nil_append] at zeros
  generalize longestZeroRun (hextets raw) 0 0 0 0 0 = scanned at zeros split expanded
  obtain ⟨start, run⟩ := scanned
  have inside := zeros.1
  dsimp only at inside split expanded
  by_cases compressed : run > 1
  · rw [if_pos compressed] at split expanded
    have highSize := length_side ((hextets raw).take start)
    have lowSize := length_side ((hextets raw).drop (start + run))
    have parted : ¬ (splitOn ':' (ipv6String raw).toList).length < 3 := by
      rw [split, List.length_append, List.length_cons]
      omega
    have high : ((hextets raw).take start).length = start := List.length_take_of_le (by omega)
    have room : ((hextets raw).take start).length + ((hextets raw).drop (start + run)).length < 8 := by
      rw [high, List.length_drop]
      omega
    rw [ipIntFromString_gap expanded (text parted) parted room
      (fun group member => small group (List.mem_of_mem_take member))
      (fun group member => small group (List.mem_of_mem_drop member)), ← number, zeros.value, high, eight]
  · rw [if_neg compressed] at split expanded
    have parted : ¬ (splitOn ':' (ipv6String raw).toList).length < 3 := by
      rw [split, List.length_map]
      omega
    rw [ipIntFromString_full expanded (text parted) parted eight small, number]

/-- An IPv6 address reads back from the spelling it is rendered in. -/
theorem parseIpv6_ipv6String {raw : Bytes} (sized : raw.length = 16) :
    parseIpv6 (ipv6String raw).toList = some (beNat raw) := by
  have number := ipIntFromString_ipv6String sized
  have absent {separator : Char} (isSeparator : separator ∈ [':', '.', '%', '/']) (other : separator ≠ ':') :
      separator ∉ (ipv6String raw).toList := not_mem_ipv6String sized isSeparator other
  have whole : splitOn '%' (ipv6String raw).toList = [(ipv6String raw).toList] := by
    have parts := @splitOn_intercalate '%' [(ipv6String raw).toList] (by simp) fun part member => by
      rw [List.mem_singleton.mp member]
      exact absent (by decide) (by decide)
    rwa [List.intercalate_singleton] at parts
  rw [parseIpv6, if_neg (absent (by decide) (by decide)), whole]
  exact number

/-! ## One value each -/

/-- A spelling with a colon in it is no dotted quad. -/
theorem colon_mem_ipv6String {raw : Bytes} (sized : raw.length = 16) : ':' ∈ (ipv6String raw).toList := by
  have some := hextets_ne_nil sized
  have two : ∃ first second rest, ipv6Parts raw = first :: second :: rest := by
    have count := (hextets_spec raw (by omega) 0).1
    rw [ipv6Parts]
    dsimp only
    split
    · obtain ⟨first, rest, same⟩ := List.exists_cons_of_ne_nil (side_ne_nil
        ((hextets raw).take (longestZeroRun (hextets raw) 0 0 0 0 0).1))
      rw [same]
      cases rest with
      | nil => exact ⟨first, [], _, rfl⟩
      | cons second rest => exact ⟨first, second, _, rfl⟩
    · obtain ⟨first, rest, same⟩ := List.exists_cons_of_ne_nil some
      rw [same, List.length_cons] at count
      obtain ⟨second, others, again⟩ := List.exists_cons_of_ne_nil (l := rest) (by
        intro nothing
        rw [nothing, sized] at count
        cases count)
      rw [same, again]
      exact ⟨_, _, _, rfl⟩
  obtain ⟨first, second, rest, parts⟩ := two
  rw [toList_ipv6String some, parts, List.intercalate_cons_cons]
  simp

/-- The two kinds of address field, at their proper width. -/
def IsAddress (kind : Kind) (raw : Bytes) : Prop := kind = .ipv4 ∧ raw.length = 4 ∨ kind = .ipv6 ∧ raw.length = 16

instance decidableIsAddress (kind : Kind) (raw : Bytes) : Decidable (IsAddress kind raw) :=
  inferInstanceAs (Decidable (_ ∨ _))

/-- `ipaddress.ip_address(text)`: its kind, and its number. -/
def ipAddress (text : String) : Option (Kind × Nat) :=
  match parseIpv4 text.toList with
  | some number => some (.ipv4, number)
  | none => (parseIpv6 text.toList).map (.ipv6, ·)

/-- No rendered IPv6 address reads as a dotted quad. -/
theorem parseIpv4_ipv6String {raw : Bytes} (sized : raw.length = 16) : parseIpv4 (ipv6String raw).toList = none := by
  have whole := @splitOn_intercalate '.' [(ipv6String raw).toList] (by simp) fun part member => by
    rw [List.mem_singleton.mp member]
    exact not_mem_ipv6String sized (by decide) (by decide)
  rw [List.intercalate_singleton] at whole
  rw [parseIpv4, whole, List.map_singleton]
  cases parseOctet (ipv6String raw).toList <;> rfl

/-- The value of an address field reads back as the address, family and all. -/
theorem ipAddress_decodeValue {kind : Kind} {raw : Bytes} (isAddress : IsAddress kind raw) :
    ∃ text, decodeValue raw kind = .str text ∧ ipAddress text = some (kind, beNat raw) := by
  rcases isAddress with ⟨rfl, sized⟩ | ⟨rfl, sized⟩
  · refine ⟨inetNtoa raw, if_pos sized, ?_⟩
    rw [ipAddress, parseIpv4_inetNtoa sized]
  · refine ⟨ipv6String raw, if_pos sized, ?_⟩
    rw [ipAddress, parseIpv4_ipv6String sized, parseIpv6_ipv6String sized]
    rfl

/-- So two address fields have one value only if they are the same address of the same family. -/
theorem decodeValue_inj {kind other : Kind} {raw others : Bytes} (isAddress : IsAddress kind raw)
    (isOther : IsAddress other others) (same : decodeValue raw kind = decodeValue others other) :
    kind = other ∧ raw = others := by
  obtain ⟨text, value, number⟩ := ipAddress_decodeValue isAddress
  obtain ⟨otherText, otherValue, otherNumber⟩ := ipAddress_decodeValue isOther
  rw [value, otherValue] at same
  rw [Value.str.inj same, otherNumber] at number
  obtain ⟨rfl, sameNumber⟩ := Prod.mk.inj (Option.some.inj number)
  have width : raw.length = others.length := by
    rcases isAddress with ⟨isKind, sized⟩ | ⟨isKind, sized⟩ <;> rcases isOther with ⟨again, otherSized⟩ | ⟨again, otherSized⟩
    · rw [sized, otherSized]
    · rw [isKind] at again
      cases again
    · rw [isKind] at again
      cases again
    · rw [sized, otherSized]
  exact ⟨rfl, by rw [← toBytes_beNat raw, ← toBytes_beNat others, width, sameNumber]⟩

/-- Rendering an address field loses nothing and merges nothing. -/
theorem decodeValue_address {kind other : Kind} {raw others : Bytes} (isAddress : IsAddress kind raw)
    (isOther : IsAddress other others) :
    (∃ text, decodeValue raw kind = .str text ∧ ipAddress text = some (kind, beNat raw)) ∧
      (decodeValue raw kind = decodeValue others other → kind = other ∧ raw = others) :=
  ⟨ipAddress_decodeValue isAddress, decodeValue_inj isAddress isOther⟩

theorem decodeValue_address_mapped :
    (∃ text, decodeValue [0, 0, 0, 0, 0, 0, 0, 0, 0, 0, 255, 255, 192, 168, 1, 10] .ipv6 = .str text ∧
      ipAddress text = some (.ipv6, 0xFFFFC0A8010A)) ∧
    (decodeValue [0, 0, 0, 0, 0, 0, 0, 0, 0, 0, 255, 255, 192, 168, 1, 10] .ipv6 = decodeValue [192, 168, 1, 10] .ipv4 →
      Kind.ipv6 = .ipv4 ∧ ([0, 0, 0, 0, 0, 0, 0, 0, 0, 0, 255, 255, 192, 168, 1, 10] : Bytes) = [192, 168, 1, 10]) :=
  decodeValue_address (by decide) (by decide)

/-! ## One key each -/

/-- The first twelve bytes of an IPv4-mapped address. -/
def mappedBytes : Bytes := [0, 0, 0, 0, 0, 0, 0, 0, 0, 0, 255, 255]

/-- A mapped address is one whose number has 0xFFFF above its last four bytes. -/
theorem mapped_iff {raw : Bytes} (sized : raw.length = 16) :
    beNat raw / 2 ^ 32 = 0xFFFF ↔ raw.take 12 = mappedBytes := by
  have width : (raw.drop 12).length = 4 := by rw [List.length_drop, sized]
  have front : (raw.take 12).length = 12 := List.length_take_of_le (by omega)
  have small := beNat_lt (raw.drop 12)
  have value := beNat_append (raw.take 12) (raw.drop 12)
  rw [List.take_append_drop, width] at value
  rw [width] at small
  have quotient : beNat raw / 2 ^ 32 = beNat (raw.take 12) := by omega
  have mapped : beNat mappedBytes = 0xFFFF := by decide
  rw [quotient, ← mapped]
  constructor
  · intro same
    rw [← toBytes_beNat (raw.take 12), same, front]
    exact toBytes_beNat mappedBytes
  · intro same
    rw [same]

theorem toBytes_mod {raw : Bytes} (sized : raw.length = 16) : toBytes 4 (beNat raw % 2 ^ 32) = raw.drop 12 := by
  have width : (raw.drop 12).length = 4 := by rw [List.length_drop, sized]
  have small := beNat_lt (raw.drop 12)
  have value := beNat_append (raw.take 12) (raw.drop 12)
  rw [List.take_append_drop, width] at value
  rw [width] at small
  have remainder : beNat raw % 2 ^ 32 = beNat (raw.drop 12) := by omega
  rw [remainder, ← width, toBytes_beNat]

/-- The key of an address as this package renders it. -/
theorem exporterKey_ipv6String {raw : Bytes} (sized : raw.length = 16) :
    exporterKey (.str (ipv6String raw)) =
      if raw.take 12 = mappedBytes then .str (inetNtoa (raw.drop 12)) else .str (ipv6String raw) := by
  rw [exporterKey, if_neg (not_not.mpr (colon_mem_ipv6String sized)), parseIpv6_ipv6String sized]
  dsimp only
  rw [toBytes_mod sized]
  by_cases mapped : raw.take 12 = mappedBytes
  · rw [if_pos mapped, if_pos ((mapped_iff sized).mpr mapped)]
  · rw [if_neg mapped, if_neg fun number => mapped ((mapped_iff sized).mp number)]

/-- The spelling a dual-stack socket reports an IPv4 sender by. -/
def socketSpelling (quad : Bytes) : String := "::ffff:" ++ inetNtoa quad

theorem exporterKey_socketSpelling {quad : Bytes} (sized : quad.length = 4) :
    exporterKey (.str (socketSpelling quad)) = .str (inetNtoa quad) := by
  have small := beNat_lt quad
  rw [sized] at small
  have plain {separator : Char} (noDigit : separator.isDigit = false) (other : separator ≠ '.') :
      separator ∉ (inetNtoa quad).toList := by
    intro member
    rw [inetNtoa, String.toList_intercalate, List.map_map] at member
    rcases mem_intercalate member with same | ⟨part, isPart, inside⟩
    · exact other same
    · obtain ⟨byte, _, rfl⟩ := List.mem_map.mp isPart
      exact not_mem_repr noDigit byte.toNat inside
  have text : (socketSpelling quad).toList =
      [':'].intercalate [[], [], ['f', 'f', 'f', 'f'], (inetNtoa quad).toList] := by
    have front : "::ffff:".toList = [':', ':', 'f', 'f', 'f', 'f', ':'] := by decide
    rw [socketSpelling, String.toList_append, front]
    simp [List.intercalate_cons_cons]
  have split : splitOn ':' (socketSpelling quad).toList = [[], [], ['f', 'f', 'f', 'f'], (inetNtoa quad).toList] := by
    rw [text]
    apply splitOn_intercalate (by simp)
    intro part member
    simp only [List.mem_cons, List.not_mem_nil, or_false] at member
    rcases member with rfl | rfl | rfl | rfl
    · decide
    · decide
    · decide
    · exact plain (by decide) (by decide)
  have absent {separator : Char} (noDigit : separator.isDigit = false) (others : separator ∉ [':', 'f', '.']) :
      separator ∉ (socketSpelling quad).toList := by
    intro member
    rw [socketSpelling, String.toList_append] at member
    rcases List.mem_append.mp member with front | back
    · simp at front others
      grind
    · exact plain noDigit (fun same => others (by simp [same])) back
  have dotted : '.' ∈ (inetNtoa quad).toList := by
    obtain _ | ⟨first, _ | ⟨second, rest⟩⟩ := quad
    · cases sized
    · cases sized
    · rw [inetNtoa, String.toList_intercalate, List.map_cons, List.map_cons, List.map_cons, List.map_cons,
        List.intercalate_cons_cons]
      simp
  have expanded : expandSuffix (splitOn ':' (socketSpelling quad).toList) =
      some (side [] ++ [] :: side [0xFFFF, beNat quad / 65536, beNat quad % 65536]) := by
    rw [split, expandSuffix]
    simp only [List.getLast?_cons_cons, List.getLast?_singleton, if_pos dotted, parseIpv4_inetNtoa sized]
    rfl
  have number : ipIntFromString (socketSpelling quad).toList = some (0xFFFF * 2 ^ 32 + beNat quad) := by
    rw [ipIntFromString_gap expanded (by rw [text]; simp [List.intercalate_cons_cons]) (by rw [split]; simp)
      (by simp) (by simp)]
    · simp [groupsValue]
      omega
    · intro group member
      simp only [List.mem_cons, List.not_mem_nil, or_false] at member
      omega
  have colon : ':' ∈ (socketSpelling quad).toList := by
    rw [socketSpelling, String.toList_append]
    exact List.mem_append_left _ (by decide)
  have whole : splitOn '%' (socketSpelling quad).toList = [(socketSpelling quad).toList] := by
    have parts := @splitOn_intercalate '%' [(socketSpelling quad).toList] (by simp) fun part member => by
      rw [List.mem_singleton.mp member]
      exact absent (by decide) (by decide)
    rwa [List.intercalate_singleton] at parts
  have parsed : parseIpv6 (socketSpelling quad).toList = some (0xFFFF * 2 ^ 32 + beNat quad) := by
    rw [parseIpv6, if_neg (absent (by decide) (by decide)), whole]
    exact number
  have quotient : (0xFFFF * 2 ^ 32 + beNat quad) / 2 ^ 32 = 0xFFFF := by omega
  have remainder : (0xFFFF * 2 ^ 32 + beNat quad) % 2 ^ 32 = beNat quad := by omega
  rw [exporterKey, if_neg (not_not.mpr colon), parsed]
  dsimp only
  rw [if_pos quotient, remainder, ← sized, toBytes_beNat]

theorem inetNtoa_inj {first second : Bytes} (isQuad : first.length = 4) (isOther : second.length = 4)
    (same : inetNtoa first = inetNtoa second) : first = second :=
  (decodeValue_inj (.inl ⟨rfl, isQuad⟩) (.inl ⟨rfl, isOther⟩)
    (by rw [decodeValue, decodeValue, if_pos isQuad, if_pos isOther, same])).2

theorem ipv6String_inj {first second : Bytes} (isWide : first.length = 16) (isOther : second.length = 16)
    (same : ipv6String first = ipv6String second) : first = second :=
  (decodeValue_inj (.inr ⟨rfl, isWide⟩) (.inr ⟨rfl, isOther⟩)
    (by rw [decodeValue, decodeValue, if_pos isWide, if_pos isOther, same])).2

/-- No quad is spelled as an IPv6 address is. -/
theorem inetNtoa_ne_ipv6String (quad : Bytes) {raw : Bytes} (sized : raw.length = 16) :
    inetNtoa quad ≠ ipv6String raw := by
  intro same
  have colon := colon_mem_ipv6String sized
  rw [← same] at colon
  exact colon_not_mem_inetNtoa quad colon

theorem split_mapped {raw : Bytes} (mapped : raw.take 12 = mappedBytes) : raw = mappedBytes ++ raw.drop 12 := by
  rw [← mapped, List.take_append_drop]

/-- One key for each device: however an IPv4 sender's address is spelled it is keyed by its dotted quad, and no two
addresses share a key. -/
theorem exporterKey_device {quad raw other : Bytes} (sized : quad.length = 4) (wide : raw.length = 16)
    (otherWide : other.length = 16) :
    exporterKey (.str (inetNtoa quad)) = .str (inetNtoa quad) ∧
      exporterKey (.str (socketSpelling quad)) = .str (inetNtoa quad) ∧
      (exporterKey (.str (ipv6String raw)) = .str (inetNtoa quad) ↔ raw = mappedBytes ++ quad) ∧
      (exporterKey (.str (ipv6String raw)) = exporterKey (.str (ipv6String other)) ↔ raw = other) := by
  have rawWidth : (raw.drop 12).length = 4 := by rw [List.length_drop, wide]
  have otherWidth : (other.drop 12).length = 4 := by rw [List.length_drop, otherWide]
  refine ⟨?_, exporterKey_socketSpelling sized, ?_, ?_⟩
  · rw [exporterKey, if_pos (colon_not_mem_inetNtoa quad)]
  · rw [exporterKey_ipv6String wide]
    constructor
    · intro same
      by_cases mapped : raw.take 12 = mappedBytes
      · rw [if_pos mapped] at same
        rw [← inetNtoa_inj rawWidth sized (Exporter.str.inj same)]
        exact split_mapped mapped
      · rw [if_neg mapped] at same
        exact absurd (Exporter.str.inj same).symm (inetNtoa_ne_ipv6String quad wide)
    · rintro rfl
      have front : (mappedBytes ++ quad).take 12 = mappedBytes := rfl
      have back : (mappedBytes ++ quad).drop 12 = quad := rfl
      rw [if_pos front, back]
  · refine ⟨fun same => ?_, fun same => by rw [same]⟩
    rw [exporterKey_ipv6String wide, exporterKey_ipv6String otherWide] at same
    by_cases mapped : raw.take 12 = mappedBytes <;> by_cases otherMapped : other.take 12 = mappedBytes
    · rw [if_pos mapped, if_pos otherMapped] at same
      rw [split_mapped mapped, inetNtoa_inj rawWidth otherWidth (Exporter.str.inj same)]
      exact (split_mapped otherMapped).symm
    · rw [if_pos mapped, if_neg otherMapped] at same
      exact absurd (Exporter.str.inj same) (inetNtoa_ne_ipv6String _ otherWide)
    · rw [if_neg mapped, if_pos otherMapped] at same
      exact absurd (Exporter.str.inj same).symm (inetNtoa_ne_ipv6String _ wide)
    · rw [if_neg mapped, if_neg otherMapped] at same
      exact ipv6String_inj wide otherWide (Exporter.str.inj same)

theorem exporterKey_device_example :
    exporterKey (.str (inetNtoa [192, 0, 2, 1])) = .str (inetNtoa [192, 0, 2, 1]) ∧
      exporterKey (.str (socketSpelling [192, 0, 2, 1])) = .str (inetNtoa [192, 0, 2, 1]) ∧
      (exporterKey (.str (ipv6String (mappedBytes ++ [192, 0, 2, 1]))) = .str (inetNtoa [192, 0, 2, 1]) ↔
        mappedBytes ++ [192, 0, 2, 1] = mappedBytes ++ [192, 0, 2, 1]) ∧
      (exporterKey (.str (ipv6String (mappedBytes ++ [192, 0, 2, 1]))) =
          exporterKey (.str (ipv6String (mappedBytes ++ [192, 0, 2, 2]))) ↔
        mappedBytes ++ [192, 0, 2, 1] = mappedBytes ++ [192, 0, 2, 2]) :=
  exporterKey_device rfl rfl rfl

end Netflume
