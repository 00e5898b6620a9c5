import Mathlib.Algebra.BigOperators.Group.List.Basic
import Mathlib.Tactic.Ring

/-!
# Intervals that tile a range

A list of intervals tiles a range when each starts where the one before it ends. Then their
lengths add up to it.
-/

namespace Lib

universe u v

variable {β : Type u} {γ : Type v}

/-- Non-empty intervals from `lo` to `hi`, one after the other. -/
def Tiles (start count : β → Int) : (lo : Int) → List β → (hi : Int) → Prop
  | lo, [], hi => lo = hi
  | lo, x :: xs, hi => start x = lo ∧ 0 < count x ∧ Tiles start count (lo + count x) xs hi

variable {start count : β → Int} {lo hi : Int}

theorem tiles_map (f : γ → β) (xs : List γ) :
    Tiles start count lo (xs.map f) hi ↔
      Tiles (fun x => start (f x)) (fun x => count (f x)) lo xs hi := by
  induction xs generalizing lo with
  | nil => rfl
  | cons x xs ih => rw [List.map_cons, Tiles, Tiles, ih]

/-- Intervals that start alike and are as long tile alike. -/
theorem Tiles.of_forall₂ {start' count' : γ → Int} {xs : List β} {ys : List γ}
    (h : Tiles start count lo xs hi)
    (hsame : List.Forall₂ (fun x y => start' y = start x ∧ count' y = count x) xs ys) :
    Tiles start' count' lo ys hi := by
  induction hsame generalizing lo with
  | nil => exact h
  | cons hone _ ih =>
      obtain ⟨hstart, hpos, hrest⟩ := h
      refine ⟨hone.1.trans hstart, by omega, ?_⟩
      rw [hone.2]
      exact ih hrest

theorem Tiles.sum_count {xs : List β} (h : Tiles start count lo xs hi) :
    (xs.map count).sum = hi - lo := by
  induction xs generalizing lo with
  | nil =>
      obtain rfl : lo = hi := h
      exact (Int.sub_self lo).symm
  | cons x xs ih =>
      rw [List.map_cons, List.sum_cons, ih h.2.2]
      ring

/-! ## Pieces of equal length -/

/-- How many pieces of length `piece` cover `total`. -/
def pieces (total piece : Nat) : Nat := (total + piece - 1) / piece

theorem lt_pieces_iff {total piece : Nat} (hpiece : 0 < piece) (i : Nat) :
    i < pieces total piece ↔ i * piece < total := by
  unfold pieces
  rw [Nat.lt_iff_add_one_le, Nat.le_div_iff_mul_le hpiece, Nat.add_mul]
  omega

/-- Equal pieces, the last one cut off, tile the total. -/
theorem tiles_pieces {total piece : Nat} (hpiece : 0 < piece) :
    Tiles (fun i : Nat => (i * piece : Nat)) (fun i : Nat => (min piece (total - i * piece) : Nat))
      0 (List.range (pieces total piece)) total := by
  have hfrom : ∀ m k, k + m = pieces total piece →
      Tiles (fun i : Nat => (i * piece : Nat))
        (fun i : Nat => (min piece (total - i * piece) : Nat))
        (min (k * piece) total : Nat) (List.range' k m) total := by
    intro m
    induction m with
    | zero =>
        intro k hk
        have hend : ¬ k * piece < total := by
          rw [← lt_pieces_iff hpiece]
          omega
        show ((min (k * piece) total : Nat) : Int) = total
        omega
    | succ m ih =>
        intro k hk
        have hlt : k * piece < total := by
          rw [← lt_pieces_iff hpiece]
          omega
        have hnext := ih (k + 1) (by omega)
        rw [Nat.add_mul] at hnext
        rw [List.range'_succ]
        refine ⟨?_, ?_, ?_⟩
        · show ((k * piece : Nat) : Int) = (min (k * piece) total : Nat)
          omega
        · show 0 < ((min piece (total - k * piece) : Nat) : Int)
          omega
        · have hsum : ((min (k * piece) total : Nat) : Int) + (min piece (total - k * piece) : Nat) =
              (min (k * piece + 1 * piece) total : Nat) := by omega
          rw [← hsum] at hnext
          exact hnext
  have hall := hfrom (pieces total piece) 0 (Nat.zero_add _)
  rw [Nat.zero_mul, Nat.zero_min] at hall
  rwa [List.range_eq_range']

/-! ## Lists related element by element -/

section Related

variable {R : β → γ → Prop} {xs : List β} {ys : List γ}

theorem flatMap_eq_of_forall₂ {δ : Type*} {f : γ → List δ} {g : β → List δ}
    (h : List.Forall₂ (fun x y => f y = g x) xs ys) : ys.flatMap f = xs.flatMap g := by
  induction h with
  | nil => rfl
  | cons hone _ ih => rw [List.flatMap_cons, List.flatMap_cons, hone, ih]

theorem exists_of_forall₂ (h : List.Forall₂ R xs ys) : ∀ y ∈ ys, ∃ x ∈ xs, R x y := by
  induction h with
  | nil => simp
  | cons hone _ ih =>
      intro y hy
      rcases List.mem_cons.mp hy with rfl | hy
      · exact ⟨_, List.mem_cons_self, hone⟩
      · obtain ⟨x, hx, hR⟩ := ih y hy
        exact ⟨x, List.mem_cons_of_mem _ hx, hR⟩

end Related

end Lib
