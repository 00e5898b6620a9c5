import Mathlib.Data.List.Sort
import Mathlib.Tactic.Common

/-!
# Cutting to the best and restoring the order

`topBy` sorts by descending score and keeps the first `n`; `orderBy` sorts the kept
ones back by a key. When the key already increases along the original list, what
comes back is a sublist of it, and how ties fell makes no difference to its length.
-/

namespace Lib

open scoped List

universe u v

variable {β : Type u} {γ : Type v} [LinearOrder γ]

/-- `sorted(xs, key=key)`. -/
def orderBy (key : β → γ) (xs : List β) : List β :=
  xs.insertionSort fun a b => key a ≤ key b

/-- `sorted(xs, key=key, reverse=True)[:n]`. -/
def topBy (key : β → γ) (n : Nat) (xs : List β) : List β :=
  (xs.insertionSort fun a b => key b ≤ key a).take n

theorem topBy_subperm (key : β → γ) (n : Nat) (xs : List β) : topBy key n xs <+~ xs :=
  (List.take_sublist n _).subperm.trans (List.perm_insertionSort _ xs).subperm

theorem length_topBy (key : β → γ) (n : Nat) (xs : List β) :
    (topBy key n xs).length = min n xs.length := by
  unfold topBy
  rw [List.length_take, List.length_insertionSort]

theorem orderBy_perm (key : β → γ) (xs : List β) : (orderBy key xs).Perm xs :=
  List.perm_insertionSort _ xs

theorem orderBy_pairwise (key : β → γ) (xs : List β) :
    (orderBy key xs).Pairwise fun a b => key a ≤ key b := by
  have htotal : Std.Total fun a b : β => key a ≤ key b := ⟨fun a b => le_total (key a) (key b)⟩
  have htrans : IsTrans β fun a b => key a ≤ key b := ⟨fun _ _ _ => le_trans⟩
  exact List.pairwise_insertionSort _ xs

/-- A selection, put back in the order of an increasing key, is a sublist. -/
theorem orderBy_sublist {key : β → γ} {xs ys : List β}
    (hasc : xs.Pairwise fun a b => key a < key b) (hsel : ys <+~ xs) : orderBy key ys <+ xs := by
  let r : β → β → Prop := fun a b => a = b ∨ key a < key b
  have hanti : Std.Antisymm r := by
    constructor
    intro a b hab hba
    cases hab with
    | inl h => exact h
    | inr h =>
        cases hba with
        | inl h' => exact h'.symm
        | inr h' => exact absurd h' (lt_asymm h)
  have hnodup : (orderBy key ys).Pairwise fun a b => key a ≠ key b := by
    have hkeys : (xs.map key).Nodup := List.pairwise_map.mpr (hasc.imp fun h => ne_of_lt h)
    obtain ⟨zs, hperm, hsub⟩ := (orderBy_perm key ys).subperm.trans hsel
    have hzs : (zs.map key).Nodup := (hsub.map key).nodup hkeys
    exact List.pairwise_map.mp ((hperm.map key).nodup_iff.mp hzs)
  apply List.sublist_of_subperm_of_pairwise (r := r)
  · exact (orderBy_perm key ys).subperm.trans hsel
  · exact ((orderBy_pairwise key ys).and hnodup).imp fun h => Or.inr (lt_of_le_of_ne h.1 h.2)
  · exact hasc.imp Or.inr

theorem orderBy_topBy_sublist {key : β → γ} {δ : Type*} [LinearOrder δ] (score : β → δ) (n : Nat)
    {xs : List β} (hasc : xs.Pairwise fun a b => key a < key b) :
    orderBy key (topBy score n xs) <+ xs :=
  orderBy_sublist hasc (topBy_subperm score n xs)

theorem length_orderBy_topBy (key : β → γ) {δ : Type*} [LinearOrder δ] (score : β → δ) (n : Nat)
    (xs : List β) : (orderBy key (topBy score n xs)).length = min n xs.length := by
  rw [(orderBy_perm key _).length_eq, length_topBy]

end Lib
