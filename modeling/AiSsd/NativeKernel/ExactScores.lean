import AiSsd.NativeKernel.BlockBounds
import AiSsd.Numpy.Reduce
import Mathlib.Algebra.BigOperators.Intervals
import Mathlib.Algebra.BigOperators.Ring.Finset
import Mathlib.Tactic.Ring

/-!
# Scores in exact arithmetic

Without rounding the order of the additions does not matter: each of the kernel's dot products
is the sum of the products, and a block score is the maximum of the scaled sums and `-1e30f`.
-/

namespace AiSsd.NativeKernel

open Lib
open Nvme (FloatOps vector laneSum lane dotProduct64)

/-! ## Sums -/

section Sums

variable {M : Type} [AddCommMonoid M]

theorem foldl_add (f : Nat → M) (n : Nat) (start : M) :
    (List.range n).foldl (fun acc d => acc + f d) start = start + ∑ d ∈ Finset.range n, f d := by
  induction n with
  | zero => simp
  | succ n ih =>
      rw [List.range_succ, List.foldl_append, ih, Finset.sum_range_succ, ← add_assoc]
      rfl

theorem sum_lanes (f : Nat → M) (n : Nat) :
    ∑ j ∈ Finset.range 8, ∑ i ∈ Finset.range n, f (8 * i + j) = ∑ d ∈ Finset.range (8 * n), f d := by
  rw [Finset.sum_comm]
  induction n with
  | zero => simp
  | succ n ih => rw [Finset.sum_range_succ, ih, Nat.mul_succ, Finset.sum_range_add]

theorem zipIdx_map_eq {β δ : Type} (xs : List β) (g : β × Nat → δ) (f : Nat → δ)
    (h : ∀ i (hi : i < xs.length), f i = g (xs[i], i)) :
    xs.zipIdx.map g = (List.range xs.length).map f := by
  apply List.ext_getElem
  · simp
  · intro i hi _
    have hlt : i < xs.length := by simpa using hi
    simp [h i hlt]

theorem sum_range_map (f : Nat → M) (n : Nat) :
    ((List.range n).map f).sum = ∑ d ∈ Finset.range n, f d := by
  induction n with
  | zero => simp
  | succ n ih => simp [List.range_succ, Finset.sum_range_succ, ih]

theorem sum_zipIdx {R : Type} [Semiring R] (xs : List R) (f : Nat → R) :
    (xs.zipIdx.map fun q => q.1 * f q.2).sum = ∑ d ∈ Finset.range xs.length, xs.getD d 0 * f d := by
  rw [zipIdx_map_eq xs _ (fun d => xs.getD d 0 * f d) fun i hi => by simp [hi], sum_range_map]

end Sums

variable {α : Type} [Field α] [LinearOrder α] {fl : FloatOps α}

/-! ## Dot products -/

theorem Exact.zero (hfl : Exact fl) : fl.zero = 0 := by
  have hsingle : single 0 = 0 := by decide +kernel
  rw [FloatOps.zero, hfl.ofBits, hsingle, Rat.cast_zero]

theorem lane_exact (hfl : Exact fl) (a b : Nat → α) (start stride count j : Nat) :
    lane fl a b start stride count j = ∑ i ∈ Finset.range (count + 1),
      a (8 * (start + stride * i) + j) * b (8 * (start + stride * i) + j) := by
  have hfma : ∀ x y z, fl.fma x y z = z + x * y := fun x y z => by rw [hfl.fma, add_comm]
  unfold lane
  simp only [hfma, hfl.mul]
  rw [foldl_add fun i => a (8 * (start + stride * (i + 1)) + j) *
      b (8 * (start + stride * (i + 1)) + j), Finset.sum_range_succ', add_comm, Nat.mul_zero,
    Nat.add_zero]

theorem laneSum_exact (hfl : Exact fl) (acc : Nat → α) :
    laneSum fl acc = ∑ j ∈ Finset.range 8, acc j := by
  simp only [laneSum, hfl.add, Finset.sum_range_succ, Finset.sum_range_zero]
  ring

/-- One accumulator that goes through all vectors, lane by lane. -/
theorem sum_lane (hfl : Exact fl) (a b : Nat → α) (count : Nat) :
    ∑ j ∈ Finset.range 8, lane fl a b 0 1 count j =
      ∑ d ∈ Finset.range (8 * (count + 1)), a d * b d := by
  simp only [lane_exact hfl, Nat.zero_add, Nat.one_mul]
  rw [sum_lanes fun d => a d * b d]

theorem sum_products (hfl : Exact fl) (a b : Nat → α) (n : Nat) :
    (List.range n).foldl (fun dot d => fl.add dot (fl.mul (a d) (b d))) fl.zero =
      ∑ d ∈ Finset.range n, a d * b d := by
  simp only [hfl.add, hfl.mul]
  rw [foldl_add (fun d => a d * b d), hfl.zero, zero_add]

/-- Four accumulators that take the vectors in turn. -/
theorem sum_four_lanes (hfl : Exact fl) (a b : Nat → α) (j : Nat) :
    fl.add (fl.add (lane fl a b 0 4 3 j) (lane fl a b 1 4 3 j))
      (fl.add (lane fl a b 2 4 3 j) (lane fl a b 3 4 3 j)) =
        ∑ i ∈ Finset.range 16, a (8 * i + j) * b (8 * i + j) := by
  simp only [lane_exact hfl, hfl.add, Finset.sum_range_succ, Finset.sum_range_zero]
  ring

/-- A dot product is the sum of the products, wherever both heads can be read. -/
def ExactDot (dot : Int → FloatPtr α → FloatPtr α → Option α) : Prop :=
  ∀ (headDim : Int) (q k : FloatPtr α) (a b : Nat → α),
    (∀ d < headDim.toNat, q (d : Int) = some (a d)) →
    (∀ d < headDim.toNat, k (d : Int) = some (b d)) →
    dot headDim q k = some (∑ d ∈ Finset.range headDim.toNat, a d * b d)

omit [LinearOrder α] in
/-- Vectors that can be read are what they read as, so a sum over them is the same. -/
theorem exactDot_of_vectors {dot : Int → FloatPtr α → FloatPtr α → Option α}
    {r : Int → (Nat → α) → (Nat → α) → α}
    (hdot : ∀ headDim q k, dot headDim q k = (vector fl headDim.toNat fun d => q d).bind fun a =>
      (vector fl headDim.toNat fun d => k d).bind fun b => some (r headDim a b))
    (hr : ∀ headDim a b, r headDim a b = ∑ d ∈ Finset.range headDim.toNat, a d * b d) :
    ExactDot dot := by
  intro headDim q k a b hq hk
  have hdefined : ((vector fl headDim.toNat fun d => q d).bind fun a =>
      (vector fl headDim.toNat fun d => k d).bind fun b => some (r headDim a b)).isSome := by
    rw [isSome_vectors]
    intro d hd
    rw [hq d hd, hk d hd]
    exact ⟨rfl, rfl⟩
  obtain ⟨x, hx⟩ := Option.isSome_iff_exists.mp hdefined
  rw [hdot, hx]
  obtain ⟨a', ha, hx⟩ := Option.bind_eq_some_iff.mp hx
  obtain ⟨b', hb, hx⟩ := Option.bind_eq_some_iff.mp hx
  rw [← Option.some.inj hx, hr]
  refine congrArg some (Finset.sum_congr rfl fun d hd => ?_)
  have hd := Finset.mem_range.mp hd
  have haeq := vector_eq_some fl ha d hd
  have hbeq := vector_eq_some fl hb d hd
  rw [hq d hd] at haeq
  rw [hk d hd] at hbeq
  rw [Option.some.inj haeq, Option.some.inj hbeq]

theorem exactDot_dotProduct (hfl : Exact fl) : ExactDot (dotProduct fl) := by
  refine @exactDot_of_vectors α _ fl _ (fun headDim a b =>
    if headDim = 64 then dotProduct64 fl a b
    else if headDim = 128 then dotProduct128 fl a b
    else (List.range headDim.toNat).foldl (fun dot d => fl.add dot (fl.mul (a d) (b d))) fl.zero)
    (fun headDim q k => ?_) fun headDim a b => ?_
  · unfold dotProduct
    simp only [apply_ite some, Option.bind_eq_bind]
  · split
    · rename_i h64
      rw [dotProduct64, laneSum_exact hfl, h64, sum_lane hfl]
      rfl
    · split
      · rename_i h128
        rw [dotProduct128, laneSum_exact hfl, h128, sum_lane hfl]
        rfl
      · exact sum_products hfl a b headDim.toNat

theorem exactDot_daemon (hfl : Exact fl) :
    ExactDot fun headDim q k => Nvme.dotProduct fl headDim (fun d => q d) fun d => k d := by
  refine @exactDot_of_vectors α _ fl _ (fun headDim a b =>
    if headDim = 128 then Nvme.dotProduct128 fl a b
    else if headDim = 64 then Nvme.dotProduct64 fl a b
    else (List.range headDim.toNat).foldl (fun dot d => fl.add dot (fl.mul (a d) (b d))) fl.zero)
    (fun headDim q k => ?_) fun headDim a b => ?_
  · unfold Nvme.dotProduct
    simp only [apply_ite some, Option.bind_eq_bind]
  · split
    · rename_i h128
      rw [Nvme.dotProduct128, laneSum_exact hfl, h128]
      simp only [sum_four_lanes hfl]
      rw [sum_lanes fun d => a d * b d]
      rfl
    · split
      · rename_i h64
        rw [Nvme.dotProduct64, laneSum_exact hfl, h64, sum_lane hfl]
        rfl
      · exact sum_products hfl a b headDim.toNat

end AiSsd.NativeKernel
