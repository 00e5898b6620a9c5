import Mathlib.Data.Fintype.Card
import Mathlib.Data.Fintype.EquivFin
import Mathlib.Data.Nat.Count
import Mathlib.Tactic.Common

/-!
# Balanced loads

Jobs `0, 1, 2, …` are given to `c` workers. When each window of `c` jobs that starts at a
multiple of `c` gives every worker one of them, no prefix of the jobs loads one worker by more
than one job over another.
-/

namespace Lib.Balance

variable {c : Nat} (assign : Nat → Fin c)

/-- How many of the first `n` jobs a worker is given. -/
def load (n : Nat) (worker : Fin c) : Nat := Nat.count (fun job => assign job = worker) n

def WindowsApart : Prop :=
  ∀ q i j, i < c → j < c → assign (q * c + i) = assign (q * c + j) → i = j

variable {assign}

theorem load_add (n k : Nat) (worker : Fin c) :
    load assign (n + k) worker =
      load assign n worker + Nat.count (fun i => assign (n + i) = worker) k :=
  Nat.count_add _ n k

theorem count_part_le_one (h : WindowsApart assign) (q : Nat) {k : Nat} (hk : k ≤ c)
    (worker : Fin c) : Nat.count (fun i => assign (q * c + i) = worker) k ≤ 1 := by
  rw [Nat.count_eq_card_filter_range, Finset.card_le_one]
  intro i hi j hj
  rw [Finset.mem_filter, Finset.mem_range] at hi hj
  exact h q i j (by omega) (by omega) (hi.2.trans hj.2.symm)

/-- A whole window gives every worker a job: as many jobs as workers, all to different ones. -/
theorem count_window (h : WindowsApart assign) (q : Nat) (worker : Fin c) :
    Nat.count (fun i => assign (q * c + i) = worker) c = 1 := by
  have hinjective : Function.Injective fun i : Fin c => assign (q * c + i) :=
    fun i j hij => Fin.ext (h q i j i.isLt j.isLt hij)
  obtain ⟨i, hi⟩ := Finite.injective_iff_surjective.mp hinjective worker
  apply Nat.le_antisymm (count_part_le_one h q (Nat.le_refl c) worker)
  rw [Nat.count_eq_card_filter_range, Nat.one_le_iff_ne_zero, ← Nat.pos_iff_ne_zero,
    Finset.card_pos]
  exact ⟨i, Finset.mem_filter.mpr ⟨Finset.mem_range.mpr i.isLt, hi⟩⟩

theorem load_windows (h : WindowsApart assign) (q : Nat) (worker : Fin c) :
    load assign (q * c) worker = q := by
  induction q with
  | zero => simp [load]
  | succ q ih => rw [Nat.succ_mul, load_add, ih, count_window h]

/-- What whole windows load all workers with, and one job more at most. -/
theorem load_bounds (h : WindowsApart assign) (n : Nat) (worker : Fin c) :
    n / c ≤ load assign n worker ∧ load assign n worker ≤ n / c + 1 := by
  have hpos : 0 < c := Nat.zero_lt_of_lt worker.isLt
  have hpart := count_part_le_one h (n / c) (Nat.le_of_lt (Nat.mod_lt n hpos)) worker
  have hsplit := @load_add c assign (n / c * c) (n % c) worker
  rw [Nat.div_add_mod', load_windows h] at hsplit
  omega

theorem load_le_succ (h : WindowsApart assign) (n : Nat) (worker worker' : Fin c) :
    load assign n worker ≤ load assign n worker' + 1 := by
  have hbounds := load_bounds h n worker
  have hbounds' := load_bounds h n worker'
  omega

theorem load_le_begun (h : WindowsApart assign) (n : Nat) (worker : Fin c) :
    load assign n worker ≤ (n + (c - 1)) / c := by
  have hpos : 0 < c := Nat.zero_lt_of_lt worker.isLt
  have hbounds := load_bounds h n worker
  have hsplit := Nat.div_add_mod' n c
  by_cases hwhole : n % c = 0
  · have hload := load_windows h (n / c) worker
    rw [hwhole, Nat.add_zero] at hsplit
    rw [hsplit] at hload
    rw [hload]
    exact Nat.div_le_div_right (by omega)
  · have hbegun : n / c + 1 ≤ (n + (c - 1)) / c := by
      rw [Nat.le_div_iff_mul_le hpos, Nat.succ_mul]
      omega
    omega

/-- The worker of the first job of the last window is one of them. -/
theorem exists_load_begun (h : WindowsApart assign) {n : Nat} (hn : 0 < n) :
    ∃ job < n, load assign n (assign job) = (n + (c - 1)) / c := by
  have hpos : 0 < c := Nat.zero_lt_of_lt (assign 0).isLt
  have hsplit := Nat.div_add_mod' (n - 1) c
  have hbegun : (n + (c - 1)) / c = (n - 1) / c + 1 := by
    rw [← Nat.add_div_right _ hpos]
    congr 1
    omega
  refine ⟨(n - 1) / c * c, by omega, Nat.le_antisymm (load_le_begun h n _) ?_⟩
  have hwindows := load_windows h ((n - 1) / c) (assign ((n - 1) / c * c))
  have hnext : load assign ((n - 1) / c * c + 1) (assign ((n - 1) / c * c)) =
      (n - 1) / c + 1 := by
    rw [load, Nat.count_succ, if_pos rfl, ← load, hwindows]
  rw [hbegun, ← hnext]
  exact Nat.count_monotone _ (by omega)

end Lib.Balance
