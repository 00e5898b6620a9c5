import AiSsd.Numpy.NDArray
import Mathlib.Algebra.Field.Defs
import Mathlib.Data.List.Induction
import Mathlib.Order.Lattice
import Mathlib.Order.MinMax

/-!
# Reductions and block scores

Elements of an array are read through a decoder of their bytes, so scores are exact
numbers. The score of a key block is the maximum of its scaled dot products with
the query heads, over the tokens that are real.
-/

namespace AiSsd.Numpy

open Lib

universe u

variable {α : Type u}

/-- `np.max` of a row that starts with `first`. -/
def npMax [LinearOrder α] (first : α) (rest : List α) : α := rest.foldl max first

/-- What `np.max` raises on no elements. -/
def zeroSizeMax : PyErr :=
  .valueError "zero-size array to reduction operation maximum which has no identity"

variable (val : DType → Bytes → α)

/-- Element `(t, h, d)` of an array of shape `[_, heads, dim]`. -/
def elem3 (a : NDArray) (heads dim t h d : Nat) : α :=
  val a.dtype ((a.data.drop (((t * heads + h) * dim + d) * a.dtype.itemsize)).take a.dtype.itemsize)

/-- An element of a three-dimensional array lies in it. -/
theorem index_lt {tokens heads dim t h d : Nat} (ht : t < tokens) (hh : h < heads) (hd : d < dim) :
    (t * heads + h) * dim + d < tokens * heads * dim := by
  have hrow : t * heads + h < tokens * heads := by
    calc t * heads + h < (t + 1) * heads := by rw [Nat.succ_mul]; omega
      _ ≤ tokens * heads := Nat.mul_le_mul_right _ ht
  calc (t * heads + h) * dim + d < (t * heads + h + 1) * dim := by rw [Nat.succ_mul]; omega
    _ ≤ tokens * heads * dim := Nat.mul_le_mul_right _ hrow

variable [Field α]

def tokenDots (query : List (List α)) (k : NDArray) (heads dim gqaRatio : Nat) (scale : α)
    (t : Nat) : List α :=
  query.zipIdx.map fun row =>
    (row.1.zipIdx.map fun q => q.1 * elem3 val k heads dim t (row.2 / gqaRatio) q.2).sum * scale

theorem exists_dots {query : List (List α)} (k : NDArray) {tokens : Nat} (heads dim gqaRatio : Nat)
    (scale : α) {actual : Nat} (hquery : 0 < query.length) (htokens : 0 < tokens)
    (hactual : 0 < actual) :
    ∃ first rest, (((List.range tokens).map
      (tokenDots val query k heads dim gqaRatio scale)).take actual).flatten = first :: rest := by
  obtain ⟨n, rfl⟩ := Nat.exists_eq_add_of_lt htokens
  obtain ⟨m, rfl⟩ := Nat.exists_eq_add_of_lt hactual
  obtain ⟨row, rows, rfl⟩ := List.exists_cons_of_length_pos hquery
  rw [Nat.zero_add, Nat.zero_add, List.range_succ_eq_map]
  exact ⟨_, _, rfl⟩

variable [LinearOrder α]

omit [Field α] in
theorem npMax_mem (first : α) (rest : List α) : npMax first rest ∈ first :: rest := by
  unfold npMax
  induction rest using List.reverseRecOn with
  | nil => exact List.mem_cons_self
  | append_singleton rest x ih =>
      rw [List.foldl_append, List.foldl_cons, List.foldl_nil]
      rcases max_choice (rest.foldl max first) x with hmax | hmax
      · rw [hmax, ← List.cons_append]
        exact List.mem_append_left _ ih
      · simp [hmax]

omit [Field α] in
theorem le_npMax (first : α) (rest : List α) : ∀ x ∈ first :: rest, x ≤ npMax first rest := by
  unfold npMax
  induction rest generalizing first with
  | nil => simp
  | cons y rest ih =>
      have hhead := ih (max first y) (max first y) List.mem_cons_self
      rw [List.foldl_cons, List.forall_mem_cons, List.forall_mem_cons]
      refine ⟨(le_max_left first y).trans hhead, (le_max_right first y).trans hhead, ?_⟩
      intro x hx
      exact ih (max first y) x (List.mem_cons_of_mem _ hx)

/-- `np.max((np.einsum("hd,thd->th", query, k[:, [h // gqa_ratio ...], :]) * scale)[:actual])`,
with the checks NumPy and Python make on the way, in their order. -/
def blockMaxScore (query : List (List α)) (k : NDArray) (qHeads gqaRatio : Nat) (scale : α)
    (actual : Nat) : Except PyErr α :=
  if gqaRatio = 0 ∧ 0 < qHeads then .error .zeroDivisionError
  else
    match k.shape with
    | [tokens, heads, dim] =>
        if (List.range qHeads).any fun h => decide (heads ≤ h / gqaRatio) then .error .indexError
        else if query.length ≠ qHeads ∨ query.any fun row => decide (row.length ≠ dim) then
          .error (.valueError "operands could not be broadcast together")
        else
          let dots := (List.range tokens).map fun t =>
            query.zipIdx.map fun row =>
              (row.1.zipIdx.map fun q =>
                q.1 * elem3 val k heads dim t (row.2 / gqaRatio) q.2).sum * scale
          match (dots.take actual).flatten with
          | [] => .error zeroSizeMax
          | first :: rest => .ok (npMax first rest)
    | [] | [_] | [_, _] => .error .indexError
    | _ => .error (.valueError "operand has more dimensions than subscripts given in einstein sum")

/-- With the query heads grouped over the KV heads, the score is the maximum of the products. -/
theorem blockMaxScore_eq {query : List (List α)} {k : NDArray} {tokens heads dim gqaRatio : Nat}
    (hshape : k.shape = [tokens, heads, dim]) (hgroups : query.length = gqaRatio * heads)
    (hquery : 0 < query.length) (hrows : ∀ row ∈ query, row.length = dim) {scale : α}
    {actual : Nat} {first : α} {rest : List α}
    (hdots : (((List.range tokens).map (tokenDots val query k heads dim gqaRatio scale)).take
      actual).flatten = first :: rest) :
    blockMaxScore val query k query.length gqaRatio scale actual = .ok (npMax first rest) := by
  have hratio : 0 < gqaRatio := by
    rw [hgroups] at hquery
    exact Nat.pos_of_mul_pos_right hquery
  have hheads : ((List.range query.length).any fun h => decide (heads ≤ h / gqaRatio)) = false := by
    rw [List.any_eq_false]
    intro h hh
    rw [List.mem_range, hgroups, Nat.mul_comm] at hh
    simpa using (Nat.div_lt_iff_lt_mul hratio).mpr hh
  have hdims : (query.any fun row => decide (row.length ≠ dim)) = false := by
    rw [List.any_eq_false]
    intro row hrow
    simpa using hrows row hrow
  have hzero : ¬ (gqaRatio = 0 ∧ 0 < query.length) := fun h => Nat.ne_of_gt hratio h.1
  unfold tokenDots at hdots
  unfold blockMaxScore
  rw [if_neg hzero, hshape]
  simp only [hheads, hdims, hdots, Bool.false_eq_true, if_false, ne_eq, not_true_eq_false,
    or_self]

/-- With the query heads grouped over the KV heads, every real token has a score. -/
theorem blockMaxScore_ok {query : List (List α)} {k : NDArray} {tokens heads dim gqaRatio : Nat}
    (hshape : k.shape = [tokens, heads, dim]) (hgroups : query.length = gqaRatio * heads)
    (hquery : 0 < query.length) (hrows : ∀ row ∈ query, row.length = dim) (htokens : 0 < tokens)
    (scale : α) {actual : Nat} (hactual : 0 < actual) :
    ∃ score, blockMaxScore val query k query.length gqaRatio scale actual = .ok score := by
  obtain ⟨first, rest, hdots⟩ :=
    exists_dots val k heads dim gqaRatio scale hquery htokens hactual
  exact ⟨_, blockMaxScore_eq val hshape hgroups hquery hrows hdots⟩

end AiSsd.Numpy
