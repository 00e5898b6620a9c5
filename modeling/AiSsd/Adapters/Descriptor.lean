import AiSsd.Lib.Documents
import Mathlib.Data.Rat.Defs

/-!
# Model configurations

What the registry says of a model. The fields that are copied from a registry entry hold any
Python value, since a dataclass checks no types.
-/

namespace AiSsd.Adapters

open Lib

inductive CompatibilityLevel where
  | full
  | partially
  | unsupported
deriving Repr, DecidableEq

namespace CompatibilityLevel

def value : CompatibilityLevel → String
  | full => "FULL"
  | partially => "PARTIAL"
  | unsupported => "UNSUPPORTED"

/-- `CompatibilityLevel(s)`, where it does not raise. -/
def ofValue? (s : String) : Option CompatibilityLevel :=
  if s = "FULL" then some full
  else if s = "PARTIAL" then some partially
  else if s = "UNSUPPORTED" then some unsupported
  else none

@[simp] theorem ofValue?_value (level : CompatibilityLevel) :
    ofValue? level.value = some level := by
  cases level <;> decide

end CompatibilityLevel

/-! ## Values -/

/-- What a JSON text has besides lists and dictionaries. Floats are kept exact. -/
inductive JsonAtom where
  | null
  | bool (b : Bool)
  | int (i : Int)
  | float (x : Rat)
  | str (s : String)
deriving DecidableEq

/-- What a Python value has besides: enumeration members, and objects JSON has no text for. -/
inductive PyAtom where
  | json (a : JsonAtom)
  | level (member : CompatibilityLevel)
  | object
deriving DecidableEq

/-- The JSON text of a value; an enumeration member is a string as well. -/
def PyAtom.written : PyAtom → Option JsonAtom
  | json a => some a
  | level member => some (.str member.value)
  | object => none

/-- What `==` sees of a value: numbers are numbers, and a member equals its string. -/
def PyAtom.plain : PyAtom → PyAtom
  | json (.bool b) => json (.float (if b then 1 else 0))
  | json (.int i) => json (.float i)
  | level member => json (.str member.value)
  | a => a

/-- A Python value. -/
abbrev PyVal := Doc PyAtom

namespace PyVal

def none : PyVal := .atom (.json .null)

def bool (b : Bool) : PyVal := .atom (.json (.bool b))

def int (i : Int) : PyVal := .atom (.json (.int i))

def float (x : Rat) : PyVal := .atom (.json (.float x))

def str (s : String) : PyVal := .atom (.json (.str s))

def level (member : CompatibilityLevel) : PyVal := .atom (.level member)

def ints (xs : List Int) : PyVal := .list (xs.map int)

def strs (xs : List String) : PyVal := .list (xs.map str)

/-- `a == b`. -/
def Equals (a b : PyVal) : Prop := a.map PyAtom.plain = b.map PyAtom.plain

theorem Equals.refl (a : PyVal) : Equals a a := rfl

end PyVal

/-! ## Configurations -/

namespace Descriptor

structure ModelArchitectureConfig where
  modelId : PyVal
  architecture : PyVal
  modelFamily : PyVal
  numLayers : PyVal
  numAttentionHeads : PyVal
  numKeyValueHeads : PyVal
  headDim : PyVal
  hiddenSize : PyVal
  vocabSize : PyVal
  defaultPrecision : PyVal
  supportedPrecisions : PyVal
  supportedContexts : PyVal
  attentionType : PyVal
  hasSeparableKvCache : Bool := true
  slidingWindow : PyVal := PyVal.none
  layerTypes : Option (List String) := none
  compatibilityLevel : PyVal := PyVal.level .full
  compatibilityReason : PyVal := PyVal.str "Supported"
  paramCount : PyVal := PyVal.none
  expectedTokensSeed42 : PyVal := PyVal.none
  densePeakRssMb : PyVal := PyVal.none

def ModelArchitectureConfig.isLayerAttention (config : ModelArchitectureConfig)
    (layerIdx : Nat) : Bool :=
  match config.layerTypes with
  | none => true
  | some types =>
      match types[layerIdx]? with
      | some kind => kind ∈ ["attention", "self_attn", "attn"]
      | none => true

end Descriptor

end AiSsd.Adapters
