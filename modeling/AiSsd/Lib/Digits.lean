import Mathlib.Tactic.Common

/-!
# Positional digits

A number written as `high * base + digit` with a digit below its base. Reading the digit
and what stands above it back, comparing two such numbers, and bounding one.
-/

namespace Lib.Digits

/-- A digit below its base is the remainder, and what it was added to the quotient. -/
theorem div_mod {base digit : Nat} (high : Nat) (h : digit < base) :
    (high * base + digit) / base = high ∧ (high * base + digit) % base = digit := by
  refine ⟨?_, ?_⟩
  · rw [Nat.mul_comm, Nat.mul_add_div (Nat.zero_lt_of_lt h), Nat.div_eq_of_lt h, Nat.add_zero]
  · rw [Nat.mul_comm, Nat.mul_add_mod, Nat.mod_eq_of_lt h]

theorem eq_iff {base digit digit' high high' : Nat} (h : digit < base) (h' : digit' < base) :
    high * base + digit = high' * base + digit' ↔ high = high' ∧ digit = digit' := by
  constructor
  · intro heq
    obtain ⟨hdiv, hmod⟩ := div_mod high h
    obtain ⟨hdiv', hmod'⟩ := div_mod high' h'
    rw [heq] at hdiv hmod
    exact ⟨hdiv.symm.trans hdiv', hmod.symm.trans hmod'⟩
  · rintro ⟨rfl, rfl⟩
    rfl

theorem lt {base digit high bound : Nat} (hhigh : high < bound) (hdigit : digit < base) :
    high * base + digit < bound * base :=
  calc high * base + digit < high * base + base := Nat.add_lt_add_left hdigit _
    _ = (high + 1) * base := (Nat.succ_mul high base).symm
    _ ≤ bound * base := Nat.mul_le_mul_right base hhigh

end Lib.Digits
