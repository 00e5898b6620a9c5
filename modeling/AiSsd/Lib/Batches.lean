import AiSsd.Lib.Chunks
import Mathlib.Algebra.BigOperators.Group.List.Basic
import Mathlib.Algebra.Order.Monoid.Defs

/-!
# Batches

Items are queued, and a queue of `n` items is handed on as a batch; what is queued at the end is
the last batch. The batches are the chunks of the items. When a cost of batches is subadditive,
longer batches cost no more in total, if the shorter ones fit into them.
-/

namespace Lib.Batches

universe u

variable {α : Type u} {n : Nat}

/-! ## Queueing -/

def push (n : Nat) (s : List (List α) × List α) (x : α) : List (List α) × List α :=
  let queue := s.2 ++ [x]
  if queue.length ≥ n then (s.1 ++ [queue], []) else (s.1, queue)

def flush (s : List (List α) × List α) : List (List α) :=
  if s.2 = [] then s.1 else s.1 ++ [s.2]

/-! ## Chunks from the front -/

theorem chunks_nil (n : Nat) : chunks n ([] : List α) = [] := by
  simp [chunks, numChunks_nothing]

theorem chunk_succ (n : Nat) (xs : List α) (i : Nat) :
    chunk n xs (i + 1) = chunk n (xs.drop n) i := by
  rw [chunk, chunk, List.drop_drop, Nat.succ_mul, Nat.add_comm n]

theorem numChunks_sub (hn : 0 < n) {len : Nat} (hpos : 0 < len) :
    numChunks n len = numChunks n (len - n) + 1 := by
  by_cases hle : len ≤ n
  · have hone := numChunks_succ_of_dvd hn 0 hpos hle
    rw [Nat.zero_mul, Nat.zero_add] at hone
    rw [hone, Nat.sub_eq_zero_of_le hle, numChunks_zero hn]
  · have hlen : len + n - 1 = len - n + n - 1 + n := by omega
    rw [numChunks, hlen, Nat.add_div_right _ hn, numChunks]

theorem chunks_of_ne_nil (hn : 0 < n) {xs : List α} (hxs : xs ≠ []) :
    chunks n xs = xs.take n :: chunks n (xs.drop n) := by
  have hcount := numChunks_sub hn (List.length_pos_iff.mpr hxs)
  rw [← List.length_drop] at hcount
  rw [chunks, chunks, hcount, List.range_succ_eq_map, List.map_cons, List.map_map]
  congr 1
  · simp [chunk]
  · exact List.map_congr_left fun i _ => chunk_succ n xs i

theorem chunks_append_full (hn : 0 < n) {first : List α} (hfirst : first.length = n)
    (rest : List α) : chunks n (first ++ rest) = first :: chunks n rest := by
  have hne : first ++ rest ≠ [] := by
    intro hnil
    rw [List.append_eq_nil_iff] at hnil
    rw [hnil.1, List.length_nil] at hfirst
    omega
  rw [chunks_of_ne_nil hn hne, List.take_left' hfirst, List.drop_left' hfirst]

theorem chunks_of_length_le (hn : 0 < n) {xs : List α} (hxs : xs ≠ []) (hle : xs.length ≤ n) :
    chunks n xs = [xs] := by
  rw [chunks_of_ne_nil hn hxs, List.take_of_length_le hle, List.drop_eq_nil_of_le hle, chunks_nil]

/-- Handing on full queues cuts into chunks. -/
theorem flush_foldl_push (hn : 0 < n) (done : List (List α)) {queue : List α}
    (hqueue : queue.length < n) (xs : List α) :
    flush (xs.foldl (push n) (done, queue)) = done ++ chunks n (queue ++ xs) := by
  induction xs generalizing done queue with
  | nil =>
      rw [List.foldl_nil, List.append_nil, flush]
      by_cases hempty : queue = []
      · rw [if_pos hempty, hempty, chunks_nil, List.append_nil]
      · rw [if_neg hempty, chunks_of_length_le hn hempty (Nat.le_of_lt hqueue)]
  | cons x xs ih =>
      have hlen : (queue ++ [x]).length = queue.length + 1 := by simp
      rw [List.foldl_cons, push, List.append_cons queue x xs]
      dsimp only
      by_cases hfull : (queue ++ [x]).length ≥ n
      · rw [if_pos hfull, ih _ (by simpa using hn), List.nil_append,
          chunks_append_full hn (by omega), List.append_assoc, List.singleton_append]
      · rw [if_neg hfull, ih done (by omega)]

/-! ## Costs -/

/-- Serving two batches as one costs no more, and serving nothing costs nothing. -/
structure Subadditive {κ : Type u} [Add κ] [Zero κ] [LE κ] (cost : List α → κ) : Prop where
  nil : cost [] = 0
  append : ∀ xs ys, cost (xs ++ ys) ≤ cost xs + cost ys

variable {κ : Type u} [AddCommMonoid κ] [PartialOrder κ] [IsOrderedAddMonoid κ]
  {cost : List α → κ}

theorem Subadditive.flatten_le (h : Subadditive cost) (batches : List (List α)) :
    cost batches.flatten ≤ (batches.map cost).sum := by
  induction batches with
  | nil => rw [List.flatten_nil, h.nil, List.map_nil, List.sum_nil]
  | cons batch batches ih =>
      rw [List.flatten_cons, List.map_cons, List.sum_cons]
      exact (h.append _ _).trans (add_le_add_right ih _)

/-- The batches of a multiple of `n` items, then the others. -/
theorem chunks_take_append_drop (hn : 0 < n) (m : Nat) (xs : List α) :
    chunks n xs = chunks n (xs.take (m * n)) ++ chunks n (xs.drop (m * n)) := by
  induction m generalizing xs with
  | zero => simp [chunks_nil]
  | succ m ih =>
      by_cases hxs : xs = []
      · simp [hxs, chunks_nil]
      · have htake : xs.take ((m + 1) * n) ≠ [] := by
          rw [Ne, List.take_eq_nil_iff, not_or]
          exact ⟨Nat.ne_of_gt (Nat.mul_pos (Nat.succ_pos m) hn), hxs⟩
        have hle : n ≤ (m + 1) * n := Nat.le_mul_of_pos_left n (Nat.succ_pos m)
        have hsub : (m + 1) * n - n = m * n := by rw [Nat.succ_mul, Nat.add_sub_cancel]
        have hdrop : n + m * n = (m + 1) * n := by rw [Nat.succ_mul, Nat.add_comm]
        rw [chunks_of_ne_nil hn hxs, chunks_of_ne_nil hn htake, List.take_take,
          Nat.min_eq_left hle, List.drop_take, hsub, ih (xs.drop n), List.drop_drop, hdrop,
          List.cons_append]

/-- Each long batch costs no more than the short ones it is made of. -/
theorem sum_chunks_mul_le (h : Subadditive cost) (hn : 0 < n) {m : Nat} (hm : 0 < m)
    (xs : List α) : ((chunks (m * n) xs).map cost).sum ≤ ((chunks n xs).map cost).sum := by
  have hmn : 0 < m * n := Nat.mul_pos hm hn
  induction hlen : xs.length using Nat.strongRecOn generalizing xs with
  | ind len ih =>
      by_cases hxs : xs = []
      · rw [hxs, chunks_nil, chunks_nil]
      · have hshorter : (xs.drop (m * n)).length < len := by
          have hpos := List.length_pos_iff.mpr hxs
          rw [List.length_drop]
          omega
        have hfirst := h.flatten_le (chunks n (xs.take (m * n)))
        rw [flatten_chunks hn] at hfirst
        rw [chunks_of_ne_nil hmn hxs, chunks_take_append_drop hn m xs, List.map_cons,
          List.sum_cons, List.map_append, List.sum_append]
        exact add_le_add hfirst (ih _ hshorter _ rfl)

end Lib.Batches
