import Mathlib.Data.Rat.Defs
import Netflume.Library.OrderedDict

/-! # Decoded values, field specifications and records -/

namespace Netflume

open Library

/-- How the bytes of an information element are to be read. -/
inductive Kind where
  | ipv4 | ipv6 | ntp | mac | string | uint | auto
  deriving DecidableEq, Repr

/-- What a field decodes to.  No decoder yields a negative integer; a float
stands for the exact rational it approximates. -/
inductive Value where
  | int (number : Nat)
  | str (text : String)
  | float (number : Rat)
  deriving DecidableEq, Repr

/-- One field specification of a template, with its normalised name. -/
structure Field where
  name : String
  kind : Kind
  length : Nat
  deriving DecidableEq, Repr

/-- A decoded record: normalised names to values. -/
abbrev Rec := OrderedDict String Value

/-- The declared length that stands for "the record carries the width". -/
def variableLength : Nat := 0xFFFF

end Netflume
