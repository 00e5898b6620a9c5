import Mathlib.Data.List.Induction
import Mathlib.Order.Lattice
import Mathlib.Tactic.Common

/-!
# Running best

A loop that keeps the best of the scores it meets, where computing a score may be undefined.
The result is defined exactly when every score is; it beats the start exactly when some score
does; and in a linear order it is the maximum.
-/

namespace Lib

universe u

variable {F κ : Type u} (lt : F → F → Bool)

/-- `if (x > best) best = x;`. -/
def better (best x : F) : F := if lt best x then x else best

def bestOf (start : F) (xs : List (Option F)) : Option F :=
  xs.foldlM (fun best x => x.map (better lt best)) start

/-- The loop over `m` rows of `n` scores each; a row begins with a computation of its own. -/
def bestOver (start : F) (m n : Nat) (row : Nat → Option κ) (score : κ → Nat → Option F) :
    Option F :=
  (List.range m).foldlM (fun best i => do
    let r ← row i
    (List.range n).foldlM (fun best j => (score r j).map (better lt best)) best) start

def allScores (m n : Nat) (row : Nat → Option κ) (score : κ → Nat → Option F) : List (Option F) :=
  (List.range m).flatMap fun i => (List.range n).map fun j => (row i).bind fun r => score r j

theorem bestOf_append (start : F) (xs ys : List (Option F)) :
    bestOf lt start (xs ++ ys) = (bestOf lt start xs).bind fun best => bestOf lt best ys :=
  List.foldlM_append

theorem bestOf_row {n : Nat} (hn : 0 < n) (best : F) (r : Option κ) (score : κ → Nat → Option F) :
    bestOf lt best ((List.range n).map fun j => r.bind fun r => score r j) =
      r.bind fun r => (List.range n).foldlM (fun best j => (score r j).map (better lt best)) best := by
  obtain ⟨n, rfl⟩ := Nat.exists_eq_add_of_lt hn
  unfold bestOf
  rw [List.foldlM_map]
  cases r with
  | none =>
      rw [Nat.zero_add, List.range_succ_eq_map]
      rfl
  | some r => rfl

theorem bestOver_eq {n : Nat} (hn : 0 < n) (start : F) (m : Nat) (row : Nat → Option κ)
    (score : κ → Nat → Option F) :
    bestOver lt start m n row score = bestOf lt start (allScores m n row score) := by
  unfold bestOver allScores
  generalize List.range m = rows
  induction rows generalizing start with
  | nil => rfl
  | cons i rows ih =>
      rw [List.foldlM_cons, List.flatMap_cons, bestOf_append, bestOf_row lt hn,
        ← Option.bind_eq_bind]
      congr 1
      exact funext ih

theorem bestOf_map_some (start : F) (ys : List F) :
    bestOf lt start (ys.map some) = some (ys.foldl (better lt) start) := by
  induction ys generalizing start with
  | nil => rfl
  | cons y ys ih => exact ih (better lt start y)

theorem mapM_eq_some_iff {ι : Type*} {f : ι → Option F} {xs : List ι} {ys : List F} :
    xs.mapM f = some ys ↔ xs.map f = ys.map some := by
  induction xs generalizing ys with
  | nil =>
      rw [List.mapM_nil, List.map_nil, eq_comm, @eq_comm _ [], List.map_eq_nil_iff]
      exact Option.some_inj
  | cons x xs ih =>
      rw [List.mapM_cons, List.map_cons]
      cases ys with
      | nil => cases f x <;> cases xs.mapM f <;> simp
      | cons y ys =>
          rw [List.map_cons, List.cons.injEq, ← ih]
          cases f x <;> cases xs.mapM f <;> simp

theorem isSome_mapM {ι : Type*} {f : ι → Option F} {xs : List ι} :
    (xs.mapM f).isSome ↔ ∀ x ∈ xs, (f x).isSome := by
  induction xs with
  | nil => simp
  | cons x xs ih =>
      rw [List.mapM_cons, List.forall_mem_cons, ← ih]
      cases f x <;> cases xs.mapM f <;> simp

variable {lt}

/-- A defined result is the best of defined scores. -/
theorem bestOf_eq_some {start best : F} {xs : List (Option F)}
    (h : bestOf lt start xs = some best) :
    ∃ ys : List F, xs = ys.map some ∧ best = ys.foldl (better lt) start := by
  induction xs generalizing start with
  | nil =>
      cases h
      exact ⟨[], rfl, rfl⟩
  | cons x xs ih =>
      cases x with
      | none => cases h
      | some x =>
          obtain ⟨ys, rfl, hbest⟩ := ih h
          exact ⟨x :: ys, rfl, hbest⟩

theorem isSome_bestOf {start : F} {xs : List (Option F)} :
    (bestOf lt start xs).isSome ↔ ∀ x ∈ xs, x.isSome := by
  induction xs generalizing start with
  | nil => simp [bestOf]
  | cons x xs ih =>
      rw [List.forall_mem_cons, ← @ih (better lt start (x.getD start))]
      cases x with
      | none => simp [bestOf]
      | some x => simp [bestOf]

theorem isSome_row {n : Nat} {best : F} {score : Nat → Option F} :
    ((List.range n).foldlM (fun best j => (score j).map (better lt best)) best).isSome ↔
      ∀ j < n, (score j).isSome := by
  have hrow := @isSome_bestOf F lt best ((List.range n).map score)
  unfold bestOf at hrow
  rw [List.foldlM_map] at hrow
  simpa using hrow

theorem bestOver_succ (start : F) (m n : Nat) (row : Nat → Option κ)
    (score : κ → Nat → Option F) :
    bestOver lt start (m + 1) n row score =
      (bestOver lt start m n row score).bind fun best => (row m).bind fun r =>
        (List.range n).foldlM (fun best j => (score r j).map (better lt best)) best := by
  unfold bestOver
  rw [List.range_succ, List.foldlM_append]
  simp

/-- The two loops are defined when every row is and so are its scores. -/
theorem isSome_bestOver {start : F} {m n : Nat} {row : Nat → Option κ}
    {score : κ → Nat → Option F} :
    (bestOver lt start m n row score).isSome ↔
      ∀ i < m, ∃ r, row i = some r ∧ ∀ j < n, (score r j).isSome := by
  induction m with
  | zero => simp [bestOver]
  | succ m ih =>
      rw [bestOver_succ, Nat.forall_lt_succ_right, ← ih]
      cases bestOver lt start m n row score with
      | none => simp
      | some best =>
          cases row m with
          | none => simp
          | some r => simp [isSome_row]

theorem bestOver_congr {start : F} {m n : Nat} {row : Nat → Option κ}
    {score score' : κ → Nat → Option F}
    (h : ∀ i < m, ∀ r, row i = some r → ∀ j < n, score r j = score' r j) :
    bestOver lt start m n row score = bestOver lt start m n row score' := by
  induction m with
  | zero => rfl
  | succ m ih =>
      have hbefore := ih fun i hi => h i (Nat.lt_succ_of_lt hi)
      have hlast : ∀ best, ((row m).bind fun r => (List.range n).foldlM
            (fun best j => (score r j).map (better lt best)) best) =
          (row m).bind fun r => (List.range n).foldlM
            (fun best j => (score' r j).map (better lt best)) best := by
        intro best
        cases hrow : row m with
        | none => rfl
        | some r =>
            have hscores : (List.range n).map (score r) = (List.range n).map (score' r) :=
              List.map_congr_left fun j hj =>
                h m (Nat.lt_succ_self m) r hrow j (List.mem_range.mp hj)
            have hsame := congrArg (bestOf lt best) hscores
            unfold bestOf at hsame
            rwa [List.foldlM_map, List.foldlM_map] at hsame
      rw [bestOver_succ, bestOver_succ, hbefore]
      simp only [hlast]

theorem bestOver_zero {start best : F} {m : Nat} {row : Nat → Option κ}
    {score : κ → Nat → Option F} (h : bestOver lt start m 0 row score = some best) :
    best = start := by
  induction m generalizing best with
  | zero => exact (Option.some.inj h).symm
  | succ m ih =>
      rw [bestOver_succ] at h
      obtain ⟨before, hbefore, h⟩ := Option.bind_eq_some_iff.mp h
      obtain ⟨r, -, hlast⟩ := Option.bind_eq_some_iff.mp h
      rw [← ih hbefore]
      exact (Option.some.inj hlast).symm

theorem mem_allScores {m n : Nat} {row : Nat → Option κ} {score : κ → Nat → Option F}
    {x : Option F} : x ∈ allScores m n row score ↔
      ∃ i < m, ∃ j < n, ((row i).bind fun r => score r j) = x := by
  simp [allScores]

/-! ## The order -/

/-- Where the comparison is transitive, a run that passes its start once stays above it. -/
theorem lt_foldl_better (hirrefl : ∀ a, lt a a = false)
    (htrans : ∀ a b c, lt a b = true → lt b c = true → lt a c = true) (start : F) (ys : List F) :
    lt start (ys.foldl (better lt) start) = true ↔ ∃ y ∈ ys, lt start y = true := by
  -- the best so far is the start itself until some score beats it
  suffices h : (lt start (ys.foldl (better lt) start) = true ↔ ∃ y ∈ ys, lt start y = true) ∧
      (ys.foldl (better lt) start = start ∨ lt start (ys.foldl (better lt) start) = true) from h.1
  induction ys using List.reverseRecOn with
  | nil => simp [hirrefl]
  | append_singleton ys y ih =>
      rw [List.foldl_append, List.foldl_cons, List.foldl_nil]
      simp only [List.mem_append, List.mem_singleton, or_and_right, exists_or, exists_eq_left,
        ← ih.1]
      generalize ys.foldl (better lt) start = best at ih ⊢
      unfold better
      cases hy : lt best y with
      | true =>
          have habove : lt start best = true → lt start y = true := fun h => htrans _ _ _ h hy
          rcases ih.2 with rfl | hbest
          · simp [hy]
          · simp [habove hbest]
      | false =>
          rcases ih.2 with rfl | hbest
          · simp [hirrefl, hy]
          · simp [hbest]

theorem better_eq_max {F : Type u} [LinearOrder F] (a b : F) :
    better (fun a b => decide (a < b)) a b = max a b := by
  unfold better
  by_cases h : a < b
  · rw [if_pos (decide_eq_true h), max_eq_right h.le]
  · rw [if_neg (by simpa using h), max_eq_left (not_lt.mp h)]

end Lib
