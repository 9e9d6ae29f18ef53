import Netflume.Address
import Netflume.Value

/-! # Events

Things worth telling the caller about, as records rather than as text. -/

namespace Netflume

/-- Exports that never arrived, deduced from a jump in the sequence number. -/
structure ExportGap where
  exporter : Exporter
  domain : Nat
  version : Nat
  missed : Nat
  unit : String
  deriving DecidableEq, Repr

/-- A domain has stated, or restated, how much of the traffic it reports. -/
structure SamplingChange where
  exporter : Exporter
  domain : Nat
  rate : Nat
  previous : Option Nat
  deriving DecidableEq, Repr

/-- A template the store had not seen before, or one that has changed. -/
structure TemplateLearned where
  exporter : Exporter
  domain : Nat
  templateId : Nat
  fields : List Field
  options : Bool
  previous : Option (List Field)
  wasOptions : Option Bool
  deriving DecidableEq, Repr

/-- A datagram that could not be turned into records. -/
structure DecodeError where
  exporter : Exporter
  reason : String
  detail : String
  deriving DecidableEq, Repr

inductive Event where
  | exportGap (gap : ExportGap)
  | samplingChange (change : SamplingChange)
  | templateLearned (learned : TemplateLearned)
  | decodeError (error : DecodeError)
  deriving DecidableEq, Repr

end Netflume
