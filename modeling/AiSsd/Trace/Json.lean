import AiSsd.Lib.Dict
import AiSsd.PyErr
import Mathlib.Data.Rat.Floor

/-!
# JSON values

What `json.loads` returns, and the built-in conversions that the trace code applies to it.
A line that `json.dumps` wrote loads as the same value. Floats are kept exact.
-/

namespace AiSsd.Trace

open Lib

inductive Json where
  | null
  | bool (b : Bool)
  | int (i : Int)
  | float (x : Rat)
  | str (s : String)
  | list (xs : List Json)
  | dict (fields : List (String × Json))

abbrev Fields := List (String × Json)

/-- `data.get(key, default)`. -/
def Fields.get (data : Fields) (key : String) (default : Json) : Json :=
  (Dict.lookup key data).getD default

/-- Python's conversions between text and other values. -/
structure PyText where
  intOf : String → Option Int
  floatOf : String → Option Rat
  repr : Json → String

/-- Conversions of whole numbers only, to compute with. -/
def PyText.integers : PyText where
  intOf := String.toInt?
  floatOf := fun s => s.toInt?.map fun i => (i : Rat)
  repr
    | .int i => toString i
    | _ => ""

namespace Json

/-- `other` when the value is `None`. -/
def orElse : Json → Json → Json
  | null, other => other
  | j, _ => j

/-- `bool(x)`. -/
def truthy : Json → Bool
  | null => false
  | bool b => b
  | int i => i ≠ 0
  | float x => x ≠ 0
  | str s => s ≠ ""
  | list xs => !xs.isEmpty
  | dict fields => !fields.isEmpty

/-- `x * n` for a count `n`: text and lists are repeated. -/
def times (n : Nat) : Json → Except PyErr Json
  | bool b => .ok (int ((if b then 1 else 0) * n))
  | int i => .ok (int (i * n))
  | float x => .ok (float (x * n))
  | str s => .ok (str (String.join (List.replicate n s)))
  | list xs => .ok (list (List.replicate n xs).flatten)
  | null | dict _ => .error .typeError

/-- `x[0]`. -/
def first : Json → Except PyErr Json
  | list [] => .error .indexError
  | list (x :: _) => .ok x
  | str s =>
      match s.toList with
      | [] => .error .indexError
      | c :: _ => .ok (str c.toString)
  | dict _ => .error (.keyError "0")
  | _ => .error .typeError

/-- `list(x)`. -/
def toList : Json → Except PyErr (List Json)
  | list xs => .ok xs
  | str s => .ok (s.toList.map fun c => str c.toString)
  | dict fields => .ok (fields.map fun e => str e.1)
  | _ => .error .typeError

def trunc (x : Rat) : Int := if 0 ≤ x then ⌊x⌋ else ⌈x⌉

variable (py : PyText)

/-- `int(x)`. -/
def toInt : Json → Except PyErr Int
  | int i => .ok i
  | bool b => .ok (if b then 1 else 0)
  | float x => .ok (trunc x)
  | str s =>
      match py.intOf s with
      | some i => .ok i
      | none => .error (.valueError s!"invalid literal for int() with base 10: {py.repr (str s)}")
  | _ => .error .typeError

/-- `float(x)`. -/
def toFloat : Json → Except PyErr Rat
  | int i => .ok i
  | bool b => .ok (if b then 1 else 0)
  | float x => .ok x
  | str s =>
      match py.floatOf s with
      | some x => .ok x
      | none => .error (.valueError s!"could not convert string to float: {py.repr (str s)}")
  | _ => .error .typeError

/-- `str(x)`. -/
def toStr : Json → String
  | str s => s
  | j => py.repr j

@[simp] theorem toInt_int (i : Int) : toInt py (int i) = .ok i := rfl

@[simp] theorem toStr_str (s : String) : toStr py (str s) = s := rfl

@[simp] theorem orElse_int (i : Int) (other : Json) : orElse (int i) other = int i := rfl

@[simp] theorem orElse_null (other : Json) : orElse null other = other := rfl

end Json

end AiSsd.Trace
