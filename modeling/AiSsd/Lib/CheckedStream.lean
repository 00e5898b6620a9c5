import Mathlib.Tactic.Common

/-!
# Streams with a check

A stream hands on each item once a check accepts it, and ends at the first item that the
check refuses. The check carries a state, so an item may be judged by the items before it.
-/

namespace Lib

namespace CheckedStream

universe u v w

variable {σ : Type u} {α : Type v} {ε : Type w} (check : σ → α → Except ε σ)

/-- The items handed on, and how the stream ends. -/
def emit : σ → List α → List α × Except ε σ
  | s, [] => ([], .ok s)
  | s, x :: xs =>
      match check s x with
      | .error err => ([], .error err)
      | .ok s => (x :: (emit s xs).1, (emit s xs).2)

variable {check}

theorem emit_cons_of_ok {s s' : σ} {x : α} (h : check s x = .ok s') (xs : List α) :
    emit check s (x :: xs) = (x :: (emit check s' xs).1, (emit check s' xs).2) := by
  simp [emit, h]

theorem emit_cons_of_error {s : σ} {x : α} {err : ε} (h : check s x = .error err) (xs : List α) :
    emit check s (x :: xs) = ([], .error err) := by
  simp [emit, h]

theorem emit_fst_of_ok {s s' : σ} {xs : List α} (h : (emit check s xs).2 = .ok s') :
    (emit check s xs).1 = xs := by
  induction xs generalizing s with
  | nil => rfl
  | cons x xs ih =>
      cases hx : check s x with
      | error err => simp [emit_cons_of_error hx] at h
      | ok next =>
          rw [emit_cons_of_ok hx] at h
          simp [emit_cons_of_ok hx, ih h]

/-- A stream that fails has handed on the items before the first one refused, and these alone
would have been accepted. -/
theorem emit_of_error {s : σ} {xs : List α} {err : ε} (h : (emit check s xs).2 = .error err) :
    ∃ good bad rest last, xs = good ++ bad :: rest ∧ (emit check s good).2 = .ok last ∧
      check last bad = .error err ∧ (emit check s xs).1 = good := by
  induction xs generalizing s with
  | nil => simp [emit] at h
  | cons x xs ih =>
      cases hx : check s x with
      | error refused =>
          have herr : refused = err := by simpa [emit_cons_of_error hx] using h
          subst herr
          exact ⟨[], x, xs, s, rfl, rfl, hx, by simp [emit_cons_of_error hx]⟩
      | ok next =>
          rw [emit_cons_of_ok hx] at h
          obtain ⟨good, bad, rest, last, hxs, hgood, hbad, hemit⟩ := ih h
          refine ⟨x :: good, bad, rest, last, by rw [hxs]; rfl, ?_, hbad, ?_⟩
          · simp [emit_cons_of_ok hx, hgood]
          · simp [emit_cons_of_ok hx, hemit]

/-- An item refused after a stretch that was accepted makes the longer stretch fail. -/
theorem emit_concat_of_error {s last : σ} {good : List α} {bad : α} {err : ε}
    (hgood : (emit check s good).2 = .ok last) (hbad : check last bad = .error err) :
    (emit check s (good ++ [bad])).2 = .error err := by
  induction good generalizing s with
  | nil =>
      have hs : s = last := by simpa [emit] using hgood
      simp [hs, emit_cons_of_error hbad]
  | cons x good ih =>
      cases hx : check s x with
      | error refused => simp [emit_cons_of_error hx] at hgood
      | ok next =>
          rw [emit_cons_of_ok hx] at hgood
          simp [emit_cons_of_ok hx, ih hgood]

end CheckedStream

end Lib
