import AiSsd.Lib.ExpSum
import AiSsd.Numpy.Reduce
import Mathlib.Data.Fintype.BigOperators

/-!
# Online streaming softmax

The accumulator keeps, for every head, a running maximum, a normaliser and an
unnormalised context vector, and rescales the last two whenever the maximum
moves. The invariant reads both as shifted sums over the tokens seen so far, so
the start value of the maximum is only another shift.
-/

namespace AiSsd.Attention

open Lib Numpy

universe u

variable {α : Type u} {heads dim : Nat}

abbrev Row (α : Type u) (heads dim : Nat) := Fin heads → Fin dim → α

abbrev KVToken (α : Type u) (heads dim : Nat) := Row α heads dim × Row α heads dim

structure PartitionToken (α : Type u) (heads dim : Nat) where
  logit : Fin heads → α
  value : Row α heads dim

/-- `logits` and `values` of one call, token by token. -/
abbrev Partition (α : Type u) (heads dim : Nat) := List (PartitionToken α heads dim)

/-- The arrays `m`, `l` and `acc`. -/
structure OnlineSoftmaxAccumulator (α : Type u) (heads dim : Nat) where
  m : Fin heads → α
  l : Fin heads → α
  acc : Row α heads dim

namespace OnlineSoftmaxAccumulator

def channel (h : Fin heads) (d : Fin dim) (part : Partition α heads dim) : List (α × α) :=
  part.map fun t => (t.logit h, t.value h d)

def logits (h : Fin heads) (part : Partition α heads dim) : List α := part.map fun t => t.logit h

@[simp] theorem fst_channel (h : Fin heads) (d : Fin dim) (part : Partition α heads dim) :
    (channel h d part).map Prod.fst = logits h part := by
  simp only [channel, logits, List.map_map, Function.comp_def]

end OnlineSoftmaxAccumulator

variable [Field α] [LinearOrder α]

namespace OnlineSoftmaxAccumulator

/-- The running maximum starts at `-1e30`, the sums at zero. -/
def init : OnlineSoftmaxAccumulator α heads dim where
  m := fun _ => -(10 ^ 30)
  l := fun _ => 0
  acc := fun _ _ => 0

variable (e : Exponential α)

/-- The row `exp(logits - m_new)` of one head, paired with the tokens it weighs. -/
def expPart (mNew : α) (h : Fin heads) (part : Partition α heads dim) :
    List (α × PartitionToken α heads dim) :=
  part.map fun t => (e.exp (t.logit h - mNew), t)

def updateWithPartition (s : OnlineSoftmaxAccumulator α heads dim) (part : Partition α heads dim) :
    OnlineSoftmaxAccumulator α heads dim :=
  match part with
  | [] => s
  | first :: rest =>
      let mPart := fun h => npMax (first.logit h) (rest.map fun t => t.logit h)
      let mNew := fun h => max (s.m h) (mPart h)
      let alphaPrev := fun h => e.exp (s.m h - mNew h)
      let lPart := fun h => ((expPart e (mNew h) h (first :: rest)).map Prod.fst).sum
      let accPart := fun h d =>
        ((expPart e (mNew h) h (first :: rest)).map fun p => p.1 * p.2.value h d).sum
      { m := mNew
        l := fun h => s.l h * alphaPrev h + lPart h
        acc := fun h d => s.acc h d * alphaPrev h + accPart h d }

/-- The divisor of `finalize`. -/
def safeL (s : OnlineSoftmaxAccumulator α heads dim) (h : Fin heads) : α :=
  if s.l h > 0 then s.l h else 1

def finalize (s : OnlineSoftmaxAccumulator α heads dim) : Row α heads dim :=
  fun h d => s.acc h d / s.safeL h

/-! ## The running sums -/

/-- The accumulator holds the sums over `seen`, shifted by its own maximum. -/
structure Represents (s : OnlineSoftmaxAccumulator α heads dim) (seen : Partition α heads dim) :
    Prop where
  l_eq : ∀ h, s.l h = e.exp (-(s.m h)) * e.mass (logits h seen)
  acc_eq : ∀ h d, s.acc h d = e.exp (-(s.m h)) * e.moment (channel h d seen)

theorem represents_init : Represents e (init : OnlineSoftmaxAccumulator α heads dim) [] where
  l_eq := by
    intro h
    simp [init, logits]
  acc_eq := by
    intro h d
    simp [init, channel]

theorem sum_expPart (mNew : α) (h : Fin heads) (part : Partition α heads dim) :
    ((expPart e mNew h part).map Prod.fst).sum = e.exp (-mNew) * e.mass (logits h part) := by
  rw [← e.sum_exp_sub]
  simp only [expPart, logits, List.map_map, Function.comp_def]

theorem sum_expPart_mul (mNew : α) (h : Fin heads) (d : Fin dim) (part : Partition α heads dim) :
    ((expPart e mNew h part).map fun p => p.1 * p.2.value h d).sum =
      e.exp (-mNew) * e.moment (channel h d part) := by
  rw [← e.sum_exp_sub_mul]
  simp only [expPart, channel, List.map_map, Function.comp_def]

theorem represents_update {s : OnlineSoftmaxAccumulator α heads dim}
    {seen : Partition α heads dim} (hs : Represents e s seen) (part : Partition α heads dim) :
    Represents e (updateWithPartition e s part) (seen ++ part) := by
  cases part with
  | nil => simpa [updateWithPartition] using hs
  | cons first rest =>
      refine ⟨?_, ?_⟩
      · intro h
        have hl := hs.l_eq h
        have happ : logits h (seen ++ first :: rest) = logits h seen ++ logits h (first :: rest) :=
          List.map_append
        simp only [updateWithPartition, sum_expPart, hl, happ, e.mass_append]
        rw [mul_right_comm, e.exp_rescale]
        ring
      · intro h d
        have hacc := hs.acc_eq h d
        have happ : channel h d (seen ++ first :: rest) =
            channel h d seen ++ channel h d (first :: rest) := List.map_append
        simp only [updateWithPartition, sum_expPart_mul, hacc, happ, e.moment_append]
        rw [mul_right_comm, e.exp_rescale]
        ring

theorem represents_foldl {s : OnlineSoftmaxAccumulator α heads dim}
    {seen : Partition α heads dim} (hs : Represents e s seen)
    (parts : List (Partition α heads dim)) :
    Represents e (parts.foldl (updateWithPartition e) s) (seen ++ parts.flatten) := by
  induction parts generalizing s seen with
  | nil => simpa using hs
  | cons part parts ih =>
      have hrec := ih (represents_update e hs part)
      simpa [List.append_assoc] using hrec

/-! ## Finalizing -/

section Finalize

variable [IsStrictOrderedRing α] {e} {s : OnlineSoftmaxAccumulator α heads dim}
  {seen : Partition α heads dim}

theorem l_pos_of_represents (hs : Represents e s seen) (hne : seen ≠ []) (h : Fin heads) :
    0 < s.l h := by
  rw [hs.l_eq h]
  have hlog : logits h seen ≠ [] := by simpa [logits] using hne
  exact mul_pos (e.exp_pos _) (e.mass_pos hlog)

theorem safeL_eq_l (hs : Represents e s seen) (hne : seen ≠ []) (h : Fin heads) :
    s.safeL h = s.l h :=
  if_pos (l_pos_of_represents hs hne h)

/-- The division cancels the shift: what is left is the softmax average. Before any
token both are zero. -/
theorem finalize_of_represents (hs : Represents e s seen) (h : Fin heads) (d : Fin dim) :
    s.finalize h d = e.mean (channel h d seen) := by
  have hacc := hs.acc_eq h d
  by_cases hne : seen = []
  · subst hne
    simp only [channel, List.map_nil, Exponential.moment_nil, mul_zero] at hacc
    simp [finalize, hacc, channel, Exponential.mean]
  · have hl : s.l h = e.exp (-(s.m h)) * e.mass ((channel h d seen).map Prod.fst) := by
      rw [fst_channel]
      exact hs.l_eq h
    rw [finalize, safeL_eq_l hs hne h]
    exact e.mean_of_shifted (s.m h) _ hl hacc

end Finalize

end OnlineSoftmaxAccumulator

/-! ## Dense attention -/

/-- `matmul(q, k_t) * scale`, one head and one key. -/
def logit (query : Row α heads dim) (scale : α) (k : Row α heads dim) (h : Fin heads) : α :=
  (∑ d, query h d * k h d) * scale

/-- `1 / sqrt(head_dim)`. -/
def attentionScale (sqrt : α → α) (dim : Nat) : α := 1 / sqrt (dim : α)

def partition (query : Row α heads dim) (scale : α) (tokens : List (KVToken α heads dim)) :
    Partition α heads dim :=
  tokens.map fun t => ⟨logit query scale t.1, t.2⟩

/-- `sum(exp(s_i) v_i) / sum(exp(s_i))` over all tokens. -/
def denseAttention (e : Exponential α) (query : Row α heads dim) (scale : α)
    (tokens : List (KVToken α heads dim)) : Row α heads dim := fun h d =>
  (tokens.map fun t => e.exp (logit query scale t.1 h) * t.2 h d).sum /
    (tokens.map fun t => e.exp (logit query scale t.1 h)).sum

theorem denseAttention_eq_mean (e : Exponential α) (query : Row α heads dim) (scale : α)
    (tokens : List (KVToken α heads dim)) (h : Fin heads) (d : Fin dim) :
    denseAttention e query scale tokens h d =
      e.mean (OnlineSoftmaxAccumulator.channel h d (partition query scale tokens)) := by
  simp only [denseAttention, Exponential.mean, Exponential.moment, Exponential.mass,
    OnlineSoftmaxAccumulator.channel, partition, List.map_map, Function.comp_def]

/-- The accumulator after the chunks, in the order they are fed. -/
def feed (e : Exponential α) (query : Row α heads dim) (scale : α)
    (chunks : List (List (KVToken α heads dim))) : OnlineSoftmaxAccumulator α heads dim :=
  (chunks.map (partition query scale)).foldl
    (OnlineSoftmaxAccumulator.updateWithPartition e) OnlineSoftmaxAccumulator.init

theorem represents_feed (e : Exponential α) (query : Row α heads dim) (scale : α)
    (chunks : List (List (KVToken α heads dim))) :
    OnlineSoftmaxAccumulator.Represents e (feed e query scale chunks)
      (partition query scale chunks.flatten) := by
  have hinit : OnlineSoftmaxAccumulator.Represents e
      (OnlineSoftmaxAccumulator.init : OnlineSoftmaxAccumulator α heads dim) [] :=
    OnlineSoftmaxAccumulator.represents_init e
  have h := OnlineSoftmaxAccumulator.represents_foldl e hinit (chunks.map (partition query scale))
  have hflat : (chunks.map (partition query scale)).flatten =
      partition query scale chunks.flatten := by
    simp only [partition, List.map_flatten]
    rfl
  rw [List.nil_append, hflat] at h
  exact h

theorem finalize_of_partition [IsStrictOrderedRing α] {e : Exponential α} {query : Row α heads dim}
    {scale : α} {tokens : List (KVToken α heads dim)} {s : OnlineSoftmaxAccumulator α heads dim}
    {seen : Partition α heads dim} (hs : OnlineSoftmaxAccumulator.Represents e s seen)
    (hperm : seen.Perm (partition query scale tokens)) :
    s.finalize = denseAttention e query scale tokens := by
  funext h d
  rw [denseAttention_eq_mean, OnlineSoftmaxAccumulator.finalize_of_represents hs h d]
  exact e.mean_perm (hperm.map _)

/-- Streaming over the reals is exact: any split of the tokens into chunks, fed in
any order, finalizes to the dense result and never divides by zero. -/
theorem streaming_eq_dense (query : Row ℝ heads dim) (scale : ℝ)
    (tokens : List (KVToken ℝ heads dim)) (chunks fed : List (List (KVToken ℝ heads dim)))
    (hne : tokens ≠ []) (hsplit : chunks.flatten = tokens) (horder : fed.Perm chunks) :
    (∀ h, (feed Exponential.real query scale fed).safeL h ≠ 0 ∧
        (feed Exponential.real query scale fed).safeL h =
          (feed Exponential.real query scale fed).l h) ∧
      (feed Exponential.real query scale fed).finalize =
        denseAttention Exponential.real query scale tokens := by
  have hperm : fed.flatten.Perm tokens := hsplit ▸ horder.flatten
  have hfed : fed.flatten ≠ [] := fun h => hne (List.nil_perm.mp (h ▸ hperm))
  refine ⟨?_, ?_⟩
  · intro h
    have hpart : partition query scale fed.flatten ≠ [] := by simpa [partition] using hfed
    have hrep := represents_feed Exponential.real query scale fed
    have heq := OnlineSoftmaxAccumulator.safeL_eq_l hrep hpart h
    have hpos := OnlineSoftmaxAccumulator.l_pos_of_represents hrep hpart h
    exact ⟨by rw [heq]; exact ne_of_gt hpos, heq⟩
  · exact finalize_of_partition (represents_feed Exponential.real query scale fed) (hperm.map _)

/-- Two tokens, split with an empty chunk between them and fed in another order. -/
theorem streaming_eq_dense_two_tokens :
    let first : KVToken ℝ 1 1 := (fun _ _ => 1, fun _ _ => 2)
    let second : KVToken ℝ 1 1 := (fun _ _ => -3, fun _ _ => 5)
    let query : Row ℝ 1 1 := fun _ _ => 1
    (feed Exponential.real query 1 [[], [second], [first]]).finalize =
      denseAttention Exponential.real query 1 [first, second] := by
  intro first second query
  have horder : ([[], [second]] ++ [[first]]).Perm ([[first]] ++ [[], [second]]) :=
    List.perm_append_comm
  exact (streaming_eq_dense query 1 [first, second] [[first], [], [second]]
    [[], [second], [first]] (List.cons_ne_nil _ _) rfl horder).2

end AiSsd.Attention
