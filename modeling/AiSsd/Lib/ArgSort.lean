import Mathlib.Data.List.Sort
import Mathlib.Tactic.Common

/-!
# Sorting by index

`argsort` and `argpartition` return positions and promise nothing about ties, so an
implementation is any pair of functions with the documented behaviour. The stable
one is there to compute with.
-/

namespace Lib

universe u

/-- Positions that sort a list, and positions split at the `kth` smallest element. -/
structure IndexSort (α : Type u) [LinearOrder α] where
  argsort : List α → List Nat
  argsort_perm : ∀ xs, (argsort xs).Perm (List.range xs.length)
  argsort_sorted : ∀ xs, (argsort xs).Pairwise fun i j =>
    ∀ a ∈ xs[i]?, ∀ b ∈ xs[j]?, a ≤ b
  argpartition : List α → (kth : Nat) → List Nat
  argpartition_perm : ∀ xs kth, (argpartition xs kth).Perm (List.range xs.length)
  argpartition_split : ∀ xs kth, ∀ i ∈ (argpartition xs kth).take kth,
    ∀ j ∈ (argpartition xs kth).drop kth, ∀ a ∈ xs[i]?, ∀ b ∈ xs[j]?, a ≤ b

namespace IndexSort

variable {α : Type u} [LinearOrder α]

/-- The order of positions that a stable sort compares; positions outside the list come last. -/
def positionLe (xs : List α) (i j : Nat) : Prop := ∀ b ∈ xs[j]?, ∃ a ∈ xs[i]?, a ≤ b

instance (xs : List α) (i j : Nat) : Decidable (positionLe xs i j) :=
  inferInstanceAs (Decidable (∀ b ∈ xs[j]?, ∃ a ∈ xs[i]?, a ≤ b))

instance (xs : List α) : Std.Total (positionLe xs) where
  total i j := by
    unfold positionLe
    cases xs[i]? <;> cases xs[j]? <;> simp [le_total]

instance (xs : List α) : IsTrans Nat (positionLe xs) where
  trans i j k := by
    unfold positionLe
    intro hij hjk c hc
    obtain ⟨b, hb, hbc⟩ := hjk c hc
    obtain ⟨a, ha, hab⟩ := hij b hb
    exact ⟨a, ha, hab.trans hbc⟩

def stableArgsort (xs : List α) : List Nat :=
  (List.range xs.length).insertionSort (positionLe xs)

theorem stableArgsort_sorted (xs : List α) : (stableArgsort xs).Pairwise fun i j =>
    ∀ a ∈ xs[i]?, ∀ b ∈ xs[j]?, a ≤ b := by
  refine (List.pairwise_insertionSort (positionLe xs) _).imp ?_
  intro i j hij a ha b hb
  obtain ⟨a', ha', hle⟩ := hij b hb
  rwa [Option.mem_unique ha ha']

def stable : IndexSort α where
  argsort := stableArgsort
  argsort_perm := fun xs => List.perm_insertionSort (positionLe xs) _
  argsort_sorted := stableArgsort_sorted
  argpartition := fun xs _ => stableArgsort xs
  argpartition_perm := fun xs _ => List.perm_insertionSort (positionLe xs) _
  argpartition_split := by
    intro xs kth i hi j hj
    have hsorted := stableArgsort_sorted xs
    rw [← List.take_append_drop kth (stableArgsort xs)] at hsorted
    exact (List.pairwise_append.mp hsorted).2.2 i hi j hj

end IndexSort

end Lib
