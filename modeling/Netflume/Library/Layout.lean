import Netflume.Library.Bytes

/-! # Fixed layouts

Big-endian numbers packed one after the other, each of its own width, and read back
at their offsets. -/

namespace Netflume.Library

/-- Numbers, each with how many bytes it takes. -/
abbrev Layout := List (Nat × Nat)

namespace Layout

def pack (layout : Layout) : Bytes := layout.flatMap fun field => toBytes field.1 field.2

def widths (layout : Layout) : List Nat := layout.map Prod.fst

theorem pack_append (first second : Layout) : pack (first ++ second) = pack first ++ pack second :=
  List.flatMap_append

@[simp] theorem length_pack (layout : Layout) : layout.pack.length = layout.widths.sum := by
  induction layout with
  | nil => rfl
  | cons field layout inductionHypothesis =>
    rw [← List.singleton_append, pack_append, List.length_append, inductionHypothesis]
    simp [pack, widths]

theorem pack_split {layout : Layout} {index width value : Nat} (field : layout[index]? = some (width, value)) :
    layout.pack = pack (layout.take index) ++ (toBytes width value ++ pack (layout.drop (index + 1))) := by
  obtain ⟨inside, isField⟩ := List.getElem?_eq_some_iff.mp field
  have single : toBytes width value = pack [(width, value)] := (List.append_nil _).symm
  rw [single, ← isField, ← pack_append, ← pack_append, List.singleton_append, ← List.drop_eq_getElem_cons inside,
    List.take_append_drop]

/-- A field is found where the fields before it end, whatever follows the layout. -/
theorem slice_pack {layout : Layout} {index width value start : Nat} (field : layout[index]? = some (width, value))
    (place : (layout.widths.take index).sum = start) (rest : Bytes) :
    slice (layout.pack ++ rest) start (start + width) = toBytes width value := by
  have before : start = (pack (layout.take index)).length := by
    rw [length_pack, widths, List.map_take]
    exact place.symm
  have own : slice (toBytes width value) 0 width = toBytes width value := by
    have full := slice_full (toBytes width value) 0
    rwa [length_toBytes, List.drop_zero] at full
  rw [pack_split field, List.append_assoc, List.append_assoc, before]
  calc _ = slice (toBytes width value ++ (pack (layout.drop (index + 1)) ++ rest)) 0 width :=
        slice_append_right (pack (layout.take index)) _ 0 width
    _ = toBytes width value := by rw [slice_append_left _ (by simp), own]

theorem beNat_slice_pack {layout : Layout} {index width value start : Nat}
    (field : layout[index]? = some (width, value)) (small : value < 256 ^ width)
    (place : (layout.widths.take index).sum = start) (rest : Bytes) :
    beNat (slice (layout.pack ++ rest) start (start + width)) = value := by
  rw [slice_pack field place, beNat_toBytes, Nat.mod_eq_of_lt small]

end Layout

end Netflume.Library
