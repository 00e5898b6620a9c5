import Mathlib.Algebra.Order.Field.Basic
import Mathlib.Algebra.BigOperators.Group.List.Lemmas
import Mathlib.Tactic.Ring
import Mathlib.Tactic.Linarith
import Mathlib.Analysis.SpecialFunctions.Exp

/-!
# Exponentially weighted sums

An exponential turns sums into products and is positive; the real one is the
instance every exact statement uses. `mass` and `moment` are the denominator and
the numerator of a softmax average. Subtracting one number from all scores
multiplies both by the same factor, so the average does not see it.
-/

namespace Lib

universe u v

structure Exponential (α : Type u) [Field α] [LinearOrder α] where
  exp : α → α
  exp_add : ∀ x y, exp (x + y) = exp x * exp y
  exp_pos : ∀ x, 0 < exp x

noncomputable def Exponential.real : Exponential ℝ where
  exp := Real.exp
  exp_add := Real.exp_add
  exp_pos := Real.exp_pos

namespace Exponential

variable {α : Type u} [Field α] [LinearOrder α] (e : Exponential α)

@[simp] theorem real_exp (x : ℝ) : real.exp x = Real.exp x := rfl

theorem exp_ne_zero (x : α) : e.exp x ≠ 0 := ne_of_gt (e.exp_pos x)

theorem exp_rescale (m m' : α) : e.exp (-m) * e.exp (m - m') = e.exp (-m') := by
  rw [← e.exp_add]
  congr 1
  ring

/-! ## Mass and moment -/

def mass (scores : List α) : α := (scores.map e.exp).sum

def moment (pairs : List (α × α)) : α := (pairs.map fun p => e.exp p.1 * p.2).sum

def mean (pairs : List (α × α)) : α := e.moment pairs / e.mass (pairs.map Prod.fst)

@[simp] theorem mass_nil : e.mass [] = 0 := rfl

@[simp] theorem moment_nil : e.moment [] = 0 := rfl

theorem mass_append (xs ys : List α) : e.mass (xs ++ ys) = e.mass xs + e.mass ys := by
  simp only [mass, List.map_append, List.sum_append]

theorem moment_append (ps qs : List (α × α)) :
    e.moment (ps ++ qs) = e.moment ps + e.moment qs := by
  simp only [moment, List.map_append, List.sum_append]

theorem mass_perm {xs ys : List α} (h : xs.Perm ys) : e.mass xs = e.mass ys :=
  (h.map e.exp).sum_eq

theorem moment_perm {ps qs : List (α × α)} (h : ps.Perm qs) : e.moment ps = e.moment qs :=
  (h.map _).sum_eq

theorem mean_perm {ps qs : List (α × α)} (h : ps.Perm qs) : e.mean ps = e.mean qs := by
  simp only [mean, e.moment_perm h, e.mass_perm (h.map Prod.fst)]

theorem mass_pos [IsStrictOrderedRing α] {xs : List α} (h : xs ≠ []) : 0 < e.mass xs := by
  induction xs with
  | nil => exact absurd rfl h
  | cons x xs ih =>
      have hx := e.exp_pos x
      have hsum : e.mass (x :: xs) = e.exp x + e.mass xs := by
        simp only [mass, List.map_cons, List.sum_cons]
      rw [hsum]
      by_cases hxs : xs = []
      · subst hxs
        simpa using hx
      · have := ih hxs
        linarith

/-! ## Shifted sums -/

theorem sum_exp_sub (m : α) (xs : List α) :
    (xs.map fun x => e.exp (x - m)).sum = e.exp (-m) * e.mass xs := by
  induction xs with
  | nil => simp [mass]
  | cons x xs ih =>
      have hx : e.exp (x - m) = e.exp (-m) * e.exp x := by
        rw [← e.exp_add]
        congr 1
        ring
      simp only [List.map_cons, List.sum_cons, ih, hx, mass]
      ring

theorem sum_exp_sub_mul (m : α) (ps : List (α × α)) :
    (ps.map fun p => e.exp (p.1 - m) * p.2).sum = e.exp (-m) * e.moment ps := by
  induction ps with
  | nil => simp [moment]
  | cons p ps ih =>
      have hx : e.exp (p.1 - m) = e.exp (-m) * e.exp p.1 := by
        rw [← e.exp_add]
        congr 1
        ring
      simp only [List.map_cons, List.sum_cons, ih, hx, moment]
      ring

/-- Numerator and denominator carrying the same shift give the average. -/
theorem mean_of_shifted (m : α) (pairs : List (α × α)) {l acc : α}
    (hl : l = e.exp (-m) * e.mass (pairs.map Prod.fst))
    (hacc : acc = e.exp (-m) * e.moment pairs) : acc / l = e.mean pairs := by
  rw [hl, hacc, mean, mul_div_mul_left _ _ (e.exp_ne_zero (-m))]

end Exponential

end Lib
