import Mathlib.Algebra.BigOperators.Fin
import Mathlib.Analysis.SpecialFunctions.Trigonometric.Basic
import Mathlib.Tactic.LinearCombination

/-!
# Rotations of the plane

A vector of `half + half` numbers is `half` points of the plane, and a rotation turns every point
by an angle of its own. Rotations keep inner products with themselves, and turning two vectors by
the same angles keeps their inner product.
-/

namespace Lib

universe u

/-- Cosine and sine with their laws. -/
structure Angles (α : Type u) [CommRing α] where
  cos : α → α
  sin : α → α
  cos_add : ∀ a b, cos (a + b) = cos a * cos b - sin a * sin b
  sin_add : ∀ a b, sin (a + b) = sin a * cos b + cos a * sin b
  cos_sq_add_sin_sq : ∀ a, cos a ^ 2 + sin a ^ 2 = 1

noncomputable def Angles.real : Angles ℝ where
  cos := Real.cos
  sin := Real.sin
  cos_add := Real.cos_add
  sin_add := Real.sin_add
  cos_sq_add_sin_sq := Real.cos_sq_add_sin_sq

variable {α : Type u} [CommRing α] {half : Nat}

/-- `x[..., :half]`. -/
def lowHalf (x : Fin (half + half) → α) : Fin half → α := fun j => x (Fin.castAdd half j)

/-- `x[..., half:]`. -/
def highHalf (x : Fin (half + half) → α) : Fin half → α := fun j => x (Fin.natAdd half j)

/-- Point `j` is turned by the angle with cosine `c j` and sine `s j`. -/
def rotate (c s : Fin half → α) (x : Fin (half + half) → α) : Fin (half + half) → α :=
  Fin.append (fun j => lowHalf x j * c j - highHalf x j * s j)
    (fun j => lowHalf x j * s j + highHalf x j * c j)

theorem sum_halves (f : Fin (half + half) → α) :
    ∑ d, f d = ∑ j, (lowHalf f j + highHalf f j) := by
  rw [Fin.sum_univ_add, Finset.sum_add_distrib]
  rfl

@[simp] theorem lowHalf_rotate (c s : Fin half → α) (x : Fin (half + half) → α) (j : Fin half) :
    lowHalf (rotate c s x) j = lowHalf x j * c j - highHalf x j * s j := by
  rw [lowHalf, rotate, Fin.append_left]

@[simp] theorem highHalf_rotate (c s : Fin half → α) (x : Fin (half + half) → α) (j : Fin half) :
    highHalf (rotate c s x) j = lowHalf x j * s j + highHalf x j * c j := by
  rw [highHalf, rotate, Fin.append_right]

/-- An inner product of turned vectors sees the cosine and the sine of the differences only. -/
theorem dot_rotate (c s c' s' : Fin half → α) (x y : Fin (half + half) → α) :
    ∑ d, rotate c s x d * rotate c' s' y d =
      ∑ j, ((lowHalf x j * lowHalf y j + highHalf x j * highHalf y j) *
          (c j * c' j + s j * s' j) +
        (lowHalf x j * highHalf y j - highHalf x j * lowHalf y j) *
          (s j * c' j - c j * s' j)) := by
  rw [sum_halves]
  refine Finset.sum_congr rfl fun j _ => ?_
  have hlow : lowHalf (fun d => rotate c s x d * rotate c' s' y d) j =
      lowHalf (rotate c s x) j * lowHalf (rotate c' s' y) j := rfl
  have hhigh : highHalf (fun d => rotate c s x d * rotate c' s' y d) j =
      highHalf (rotate c s x) j * highHalf (rotate c' s' y) j := rfl
  rw [hlow, hhigh, lowHalf_rotate, lowHalf_rotate, highHalf_rotate, highHalf_rotate]
  ring

namespace Angles

variable (A : Angles α)

/-- Shifting both angles keeps the cosine of their difference, -/
theorem cos_shift (a b d : α) :
    A.cos (a + d) * A.cos (b + d) + A.sin (a + d) * A.sin (b + d) =
      A.cos a * A.cos b + A.sin a * A.sin b := by
  have hd := A.cos_sq_add_sin_sq d
  rw [A.cos_add, A.cos_add, A.sin_add, A.sin_add]
  linear_combination (A.cos a * A.cos b + A.sin a * A.sin b) * hd

theorem sin_shift (a b d : α) :
    A.sin (a + d) * A.cos (b + d) - A.cos (a + d) * A.sin (b + d) =
      A.sin a * A.cos b - A.cos a * A.sin b := by
  have hd := A.cos_sq_add_sin_sq d
  rw [A.cos_add, A.cos_add, A.sin_add, A.sin_add]
  linear_combination (A.sin a * A.cos b - A.cos a * A.sin b) * hd

/-- A turn by the angles `a`. -/
def turn (a : Fin half → α) (x : Fin (half + half) → α) : Fin (half + half) → α :=
  rotate (fun j => A.cos (a j)) (fun j => A.sin (a j)) x

/-- A common shift of the angles cannot be seen. -/
theorem dot_turn_shift (a b d : Fin half → α) (x y : Fin (half + half) → α) :
    ∑ i, A.turn (fun j => a j + d j) x i * A.turn (fun j => b j + d j) y i =
      ∑ i, A.turn a x i * A.turn b y i := by
  simp only [turn, dot_rotate, A.cos_shift, A.sin_shift]

theorem norm_turn (a : Fin half → α) (x : Fin (half + half) → α) :
    ∑ i, A.turn a x i ^ 2 = ∑ i, x i ^ 2 := by
  have hsquare : ∑ i, A.turn a x i ^ 2 = ∑ i, A.turn a x i * A.turn a x i :=
    Finset.sum_congr rfl fun i _ => sq _
  rw [hsquare, turn, dot_rotate, sum_halves]
  refine Finset.sum_congr rfl fun j _ => ?_
  have hone := A.cos_sq_add_sin_sq (a j)
  have hlow : lowHalf (fun i => x i ^ 2) j = lowHalf x j ^ 2 := rfl
  have hhigh : highHalf (fun i => x i ^ 2) j = highHalf x j ^ 2 := rfl
  rw [hlow, hhigh]
  linear_combination (lowHalf x j ^ 2 + highHalf x j ^ 2) * hone

end Angles

end Lib
