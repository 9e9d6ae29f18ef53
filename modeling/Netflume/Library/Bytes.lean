import Mathlib.Data.List.Induction
import Mathlib.Tactic.Ring

/-! # Byte strings

Big-endian numbers, slices, and how the two interact: reading a slice of a slice
is reading the whole at shifted positions. -/

namespace Netflume.Library

abbrev Bytes := List UInt8

/-- `int.from_bytes(bytes, "big")`. -/
def beNat (bytes : Bytes) : Nat := bytes.foldl (fun total byte => total * 256 + byte.toNat) 0

/-- The `width` low-order bytes of `value`, most significant first. -/
def toBytes : (width value : Nat) → Bytes
  | 0, _ => []
  | width + 1, value => toBytes width (value / 256) ++ [UInt8.ofNat (value % 256)]

/-- `data[lo:hi]`. -/
def slice (data : Bytes) (lo hi : Nat) : Bytes := (data.take hi).drop lo

/-! ## Slices -/

theorem length_slice {data : Bytes} (lo : Nat) {hi : Nat} (inside : hi ≤ data.length) :
    (slice data lo hi).length = hi - lo := by
  simp [slice, Nat.min_eq_left inside]

theorem slice_empty {data : Bytes} {lo hi : Nat} (reversed : hi ≤ lo) : slice data lo hi = [] := by
  apply List.drop_eq_nil_of_le
  rw [List.length_take]
  omega

theorem slice_slice (data : Bytes) {lo hi first last : Nat} (inside : lo + last ≤ hi) :
    slice (slice data lo hi) first last = slice data (lo + first) (lo + last) := by
  unfold slice
  rw [List.take_drop, List.take_take, List.drop_drop, Nat.min_eq_left inside]

theorem drop_slice (data : Bytes) (lo hi count : Nat) :
    (slice data lo hi).drop count = slice data (lo + count) hi := by
  unfold slice
  rw [List.drop_drop]

theorem take_slice (data : Bytes) {lo hi count : Nat} (inside : lo + count ≤ hi) :
    (slice data lo hi).take count = slice data lo (lo + count) := by
  unfold slice
  rw [List.take_drop, List.take_take, Nat.min_eq_left inside]

theorem slice_split (data : Bytes) {lo middle hi : Nat} (first : lo ≤ middle) (second : middle ≤ hi) :
    slice data lo middle ++ slice data middle hi = slice data lo hi := by
  have front : slice data lo middle = (slice data lo hi).take (middle - lo) := by
    rw [take_slice data (by omega), Nat.add_sub_cancel' first]
  have back : slice data middle hi = (slice data lo hi).drop (middle - lo) := by
    rw [drop_slice, Nat.add_sub_cancel' first]
  rw [front, back, List.take_append_drop]

theorem slice_full (data : Bytes) (lo : Nat) : slice data lo data.length = data.drop lo := by
  rw [slice, List.take_length]

theorem slice_append_left {front : Bytes} (back : Bytes) {lo hi : Nat} (inside : hi ≤ front.length) :
    slice (front ++ back) lo hi = slice front lo hi := by
  rw [slice, List.take_append_of_le_length inside, slice]

theorem slice_append_right (front back : Bytes) (lo hi : Nat) :
    slice (front ++ back) (front.length + lo) (front.length + hi) = slice back lo hi := by
  rw [slice, List.take_length_add_append, List.drop_length_add_append, slice]

/-! ## Big-endian numbers -/

@[simp] theorem length_toBytes (width value : Nat) : (toBytes width value).length = width := by
  induction width generalizing value with
  | zero => rfl
  | succ width inductionHypothesis => simp [toBytes, inductionHypothesis]

theorem beNat_append_singleton (bytes : Bytes) (byte : UInt8) :
    beNat (bytes ++ [byte]) = beNat bytes * 256 + byte.toNat := by
  simp [beNat]

theorem beNat_append (front back : Bytes) : beNat (front ++ back) = beNat front * 256 ^ back.length + beNat back := by
  induction back using List.reverseRecOn with
  | nil => simp [beNat]
  | append_singleton back byte inductionHypothesis =>
    rw [← List.append_assoc, beNat_append_singleton, inductionHypothesis, beNat_append_singleton, List.length_append,
      List.length_singleton, Nat.pow_succ]
    ring

@[simp] theorem beNat_toBytes (width value : Nat) :
    beNat (toBytes width value) = value % 256 ^ width := by
  induction width generalizing value with
  | zero => simp [toBytes, beNat, Nat.mod_one]
  | succ width inductionHypothesis =>
    have lowByte : (UInt8.ofNat (value % 256)).toNat = value % 256 := by simp
    rw [toBytes, beNat_append_singleton, inductionHypothesis, lowByte, Nat.pow_succ',
      Nat.mod_mul, Nat.mul_comm 256, Nat.add_comm]

/-- A byte string is the number it spells, written in its own length. -/
theorem toBytes_beNat (bytes : Bytes) : toBytes bytes.length (beNat bytes) = bytes := by
  induction bytes using List.reverseRecOn with
  | nil => rfl
  | append_singleton bytes byte inductionHypothesis =>
    have small := byte.toNat_lt
    have quotient : (beNat bytes * 256 + byte.toNat) / 256 = beNat bytes := by omega
    have remainder : (beNat bytes * 256 + byte.toNat) % 256 = byte.toNat := by omega
    rw [List.length_append, List.length_singleton, toBytes, beNat_append_singleton, quotient, remainder,
      inductionHypothesis, UInt8.ofNat_toNat]

theorem beNat_lt (bytes : Bytes) : beNat bytes < 256 ^ bytes.length := by
  have value := beNat_toBytes bytes.length (beNat bytes)
  rw [toBytes_beNat] at value
  rw [value]
  exact Nat.mod_lt _ (Nat.pow_pos (by decide))

/-- The bytes at the front are a number of their width. -/
theorem split_number {width : Nat} {bytes : Bytes} (long : width ≤ bytes.length) :
    ∃ number < 256 ^ width, ∃ rest, bytes = toBytes width number ++ rest := by
  have sized : (bytes.take width).length = width := List.length_take_of_le long
  have small := beNat_lt (bytes.take width)
  have front := toBytes_beNat (bytes.take width)
  rw [sized] at small front
  exact ⟨_, small, bytes.drop width, by rw [front, List.take_append_drop]⟩

end Netflume.Library
