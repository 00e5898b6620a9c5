import Mathlib.Algebra.BigOperators.Group.Finset.Piecewise

/-!
# Counters

A counter holds an amount for every key. Charging an amount to one key raises the sum over all
keys by that amount, whichever key it is.
-/

namespace Lib

namespace Counter

universe u v

variable {κ : Type u} {ν : Type v} [DecidableEq κ] [AddCommMonoid ν]

/-- `counts[key] += amount`. -/
def charge (counts : κ → ν) (key : κ) (amount : ν) : κ → ν :=
  Function.update counts key (counts key + amount)

@[simp] theorem charge_self (counts : κ → ν) (key : κ) (amount : ν) :
    charge counts key amount key = counts key + amount := by
  simp [charge]

theorem charge_of_ne (counts : κ → ν) {key other : κ} (h : other ≠ key) (amount : ν) :
    charge counts key amount other = counts other := by
  simp [charge, Function.update_of_ne h]

theorem sum_charge [Fintype κ] (counts : κ → ν) (key : κ) (amount : ν) :
    ∑ k, charge counts key amount k = (∑ k, counts k) + amount := by
  have hrest : ∀ f : κ → ν, ∑ k, f k = f key + ∑ k ∈ Finset.univ.erase key, f k := fun f =>
    (Finset.add_sum_erase _ f (Finset.mem_univ key)).symm
  have hothers : ∑ k ∈ Finset.univ.erase key, charge counts key amount k =
      ∑ k ∈ Finset.univ.erase key, counts k := by
    apply Finset.sum_congr rfl
    intro k hk
    exact charge_of_ne counts (Finset.ne_of_mem_erase hk) amount
  rw [hrest, hothers, charge_self, hrest counts, add_right_comm]

end Counter

end Lib
