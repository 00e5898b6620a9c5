import AiSsd.Nvme.Scoring
import Mathlib.Algebra.Order.Field.Rat
import Mathlib.Data.Int.Log
import Mathlib.Data.Rat.Cast.Defs
import Mathlib.Data.Rat.Floor

/-!
# Floats in exact arithmetic

The numbers that the bits of a float and of a half stand for, and arithmetic on them without
rounding, over any ordered field.
-/

namespace AiSsd.NativeKernel

open Nvme (FloatOps)

/-- The number with `mantBits` bits of mantissa below `expBits` bits of exponent and a sign.
Infinities and NaNs, which are no numbers, read as 0. -/
def ieee (mantBits expBits bits : Nat) : ℚ :=
  let mant := bits % 2 ^ mantBits
  let expo := bits / 2 ^ mantBits % 2 ^ expBits
  let scaled : Nat :=
    if expo = 0 then mant
    else if expo = 2 ^ expBits - 1 then 0
    else (2 ^ mantBits + mant) * 2 ^ (expo - 1)
  let size : ℚ := scaled / (2 ^ (2 ^ (expBits - 1) + mantBits - 2) : Nat)
  if bits / 2 ^ (mantBits + expBits) % 2 = 1 then -size else size

def single : Nat → ℚ := ieee 23 8

def half : Nat → ℚ := ieee 10 5

/-- Arithmetic without rounding. -/
structure Exact {α : Type} [Field α] [LinearOrder α] (fl : FloatOps α) : Prop where
  ofBits : ∀ n, fl.ofBits n = (single n : α)
  ofHalf : ∀ n, fl.ofHalf n = (half n : α)
  add : ∀ a b, fl.add a b = a + b
  mul : ∀ a b, fl.mul a b = a * b
  fma : ∀ a b c, fl.fma a b c = a * b + c
  lt : ∀ a b, fl.lt a b = decide (a < b)

/-- The bits of a number in the range of normal floats, its mantissa cut off. -/
def bitsOf (q : ℚ) : Nat :=
  let expo := Int.log 2 |q|
  (if q < 0 then 2 ^ 31 else 0) +
    if q = 0 then 0 else (expo + 127).toNat * 2 ^ 23 + ((|q| / 2 ^ expo - 1) * 2 ^ 23).floor.toNat

def rationalOps : FloatOps ℚ where
  ofBits := single
  toBits := bitsOf
  ofHalf := half
  add := fun a b => a + b
  mul := fun a b => a * b
  fma := fun a b c => a * b + c
  lt := fun a b => decide (a < b)

theorem exact_rationalOps : Exact rationalOps where
  ofBits := fun n => (Rat.cast_id (single n)).symm
  ofHalf := fun n => (Rat.cast_id (half n)).symm
  add := fun _ _ => rfl
  mul := fun _ _ => rfl
  fma := fun _ _ _ => rfl
  lt := fun _ _ => rfl

example : half 0xF180 = -11264 := by decide +kernel

example : single 0xF149F2CA < -10 ^ 30 := by decide +kernel

end AiSsd.NativeKernel
