import AiSsd.Attention.Rotary

/-!
# Full attention and the decode step

`AttentionEngine` weighs a row of scores by exponentials of their distance to the largest. The
causal mask adds `-1e9` to the scores of later tokens, and an exponential that is zero that far
down makes every row of the causal attention the decode step of its token over the tokens up to
it. Numbers are exact; the exponential is a parameter because that of the code underflows.
-/

namespace AiSsd.Attention

open Lib Numpy

universe u

variable {α : Type u} {heads dim : Nat}

/-- One token of `q`, `k` and `v`. -/
structure QkvToken (α : Type u) (heads dim : Nat) where
  q : Row α heads dim
  k : Row α heads dim
  v : Row α heads dim

namespace AttentionEngine

/-! ## The source -/

section Source

variable [Field α] [LinearOrder α] (exp : α → α) (scale : α)

/-- `exp_scores / (sum_exp + 1e-12)` of one row of scores. -/
def attnWeights (scores : List α) : List α :=
  match scores with
  | [] => []
  | first :: rest =>
      let expScores := (first :: rest).map fun score => exp (score - npMax first rest)
      expScores.map fun x => x / (expScores.sum + 1 / ((10 ^ 12 : ℕ) : α))

/-- `np.matmul(attn_weights, v_t)` of one row. -/
def weighted (weights : List α) (values : List (Row α heads dim)) (h : Fin heads) (d : Fin dim) :
    α :=
  (List.zipWith (fun w (v : Row α heads dim) => w * v h d) weights values).sum

def attendRow (scores : Fin heads → List α) (values : List (Row α heads dim)) :
    Row α heads dim × (Fin heads → List α) :=
  (fun h d => weighted (attnWeights exp (scores h)) values h d, fun h => attnWeights exp (scores h))

/-- Entry `(i, j)` of what is added to the scores of `seq_len` tokens. -/
def mask (causal : Bool) (seqLen i j : Nat) : α :=
  if causal ∧ 1 < seqLen ∧ i < j then -((10 ^ 9 : ℕ) : α) else 0

def computeFullAttention (causal : Bool) (tokens : List (QkvToken α heads dim)) :
    List (Row α heads dim × (Fin heads → List α)) :=
  tokens.zipIdx.map fun query =>
    attendRow exp
      (fun h => tokens.zipIdx.map fun token =>
        logit query.1.q scale token.1.k h + mask causal tokens.length query.2 token.2)
      (tokens.map QkvToken.v)

/-- `np.max` needs a token for every head; `np.matmul` needs as many values as keys. -/
def computeDecodeStep (q : Row α heads dim) (kHistory vHistory : List (Row α heads dim)) :
    Except PyErr (Row α heads dim × (Fin heads → List α)) :=
  if kHistory = [] ∧ 0 < heads then .error zeroSizeMax
  else if kHistory.length ≠ vHistory.length then
    .error (.valueError "matmul: input operands have mismatched core dimensions")
  else .ok (attendRow exp (fun h => kHistory.map fun k => logit q scale k h) vHistory)

end Source

/-! ## Rows of weights -/

section Weights

variable [Field α] [LinearOrder α] {exp : α → α} {scale : α}

theorem length_attnWeights (scores : List α) : (attnWeights exp scores).length = scores.length := by
  cases scores with
  | nil => rfl
  | cons first rest => simp [attnWeights]

omit [Field α] in
theorem npMax_append {first : α} {rest low : List α}
    (hlow : ∀ x ∈ low, x ≤ npMax first rest) : npMax first (rest ++ low) = npMax first rest := by
  unfold npMax at hlow ⊢
  rw [List.foldl_append]
  induction low with
  | nil => rfl
  | cons x low ih =>
      rw [List.forall_mem_cons] at hlow
      rw [List.foldl_cons, max_eq_left hlow.1]
      exact ih hlow.2

/-- Scores so far below the others that their exponential is zero get no weight, and the others
do not see them. -/
theorem attnWeights_append {scores low : List α} (hscores : scores ≠ [])
    (hle : ∀ x ∈ low, ∃ y ∈ scores, x ≤ y)
    (hzero : ∀ x ∈ low, ∀ y ∈ scores, exp (x - y) = 0) :
    attnWeights exp (scores ++ low) =
      attnWeights exp scores ++ List.replicate low.length 0 := by
  obtain ⟨first, rest, rfl⟩ := List.exists_cons_of_ne_nil hscores
  have hbelow : ∀ x ∈ low, x ≤ npMax first rest := by
    intro x hx
    obtain ⟨y, hy, hxy⟩ := hle x hx
    exact le_trans hxy (le_npMax first rest y hy)
  have hlow : (low.map fun x => exp (x - npMax first rest)) = List.replicate low.length 0 :=
    List.map_eq_replicate_iff.mpr fun x hx => hzero x hx _ (npMax_mem first rest)
  simp only [attnWeights, List.cons_append, npMax_append hbelow]
  rw [← List.cons_append, List.map_append, hlow, List.sum_append, List.sum_replicate, smul_zero,
    add_zero, List.map_append, List.map_replicate, zero_div]

omit [LinearOrder α] in
theorem weighted_append {weights : List α} {values low : List (Row α heads dim)}
    (hlen : weights.length = values.length) (h : Fin heads) (d : Fin dim) :
    weighted (weights ++ List.replicate low.length 0) (values ++ low) h d =
      weighted weights values h d := by
  have hzero : (List.zipWith (fun w (v : Row α heads dim) => w * v h d)
      (List.replicate low.length 0) low).sum = 0 := by
    induction low with
    | nil => rfl
    | cons v low ih =>
        rw [List.length_cons, List.replicate_succ, List.zipWith_cons_cons, List.sum_cons, ih,
          zero_mul, add_zero]
  rw [weighted, List.zipWith_append hlen, List.sum_append, hzero, add_zero]
  rfl

end Weights

/-! ## Causal rows -/

section Causal

variable [Field α] [LinearOrder α] {exp : α → α} {scale : α}

/-- The exponential is zero from `-bound` down, and all scores of a token are closer together
than that leaves of the mask. -/
structure MaskHides (exp : α → α) (scale bound : α) (tokens : List (QkvToken α heads dim)) :
    Prop where
  bound_nonneg : 0 ≤ bound
  underflow : ∀ x ≤ -bound, exp x = 0
  spread : ∀ s ∈ tokens, ∀ t ∈ tokens, ∀ u ∈ tokens, ∀ h,
    logit s.q scale t.k h - logit s.q scale u.k h ≤ 10 ^ 9 - bound

theorem MaskHides.subset {bound : α} {tokens some : List (QkvToken α heads dim)}
    (h : MaskHides exp scale bound tokens) (hsub : some ⊆ tokens) :
    MaskHides exp scale bound some :=
  ⟨h.bound_nonneg, h.underflow,
    fun s hs t ht u hu => h.spread s (hsub hs) t (hsub ht) u (hsub hu)⟩

def decodeRow (exp : α → α) (scale : α) (t : QkvToken α heads dim)
    (history : List (QkvToken α heads dim)) : Row α heads dim × (Fin heads → List α) :=
  attendRow exp (fun h => history.map fun u => logit t.q scale u.k h) (history.map QkvToken.v)

theorem computeDecodeStep_eq (t : QkvToken α heads dim) {history : List (QkvToken α heads dim)}
    (hhistory : history ≠ []) :
    computeDecodeStep exp scale t.q (history.map QkvToken.k) (history.map QkvToken.v) =
      .ok (decodeRow exp scale t history) := by
  rw [computeDecodeStep, if_neg, if_neg (by simp)]
  · simp only [decodeRow, List.map_map, Function.comp_def]
  · rintro ⟨hnil, -⟩
    exact hhistory (List.map_eq_nil_iff.mp hnil)

omit [LinearOrder α] in
theorem map_mask_upto (f : QkvToken α heads dim → α) {seqLen i : Nat} {start : Nat}
    {tokens : List (QkvToken α heads dim)} (h : start + tokens.length ≤ i + 1) :
    ((tokens.zipIdx start).map fun t => f t.1 + mask true seqLen i t.2) = tokens.map f := by
  induction tokens generalizing start with
  | nil => rfl
  | cons t tokens ih =>
      rw [List.length_cons] at h
      rw [List.zipIdx_cons, List.map_cons, List.map_cons, ih (by omega), mask, if_neg (by omega),
        add_zero]

omit [LinearOrder α] in
theorem map_mask_after (f : QkvToken α heads dim → α) {seqLen i : Nat} {start : Nat}
    {tokens : List (QkvToken α heads dim)} (hlong : 1 < seqLen) (h : i < start) :
    ((tokens.zipIdx start).map fun t => f t.1 + mask true seqLen i t.2) =
      tokens.map fun t => f t - 10 ^ 9 := by
  induction tokens generalizing start with
  | nil => rfl
  | cons t tokens ih =>
      rw [List.zipIdx_cons, List.map_cons, List.map_cons, ih (by omega), mask,
        if_pos ⟨rfl, hlong, h⟩, sub_eq_add_neg, Nat.cast_pow, Nat.cast_ofNat]

/-- A row of the causal attention is the decode step of its token over the tokens up to it, and
gives the later ones no weight. -/
theorem causal_row [IsStrictOrderedRing α] (past future : List (QkvToken α heads dim))
    (t : QkvToken α heads dim) {bound : α} (hmask : MaskHides exp scale bound (past ++ t :: future)) :
    (computeFullAttention exp scale true (past ++ t :: future))[past.length]? =
      some ((decodeRow exp scale t (past ++ [t])).1, fun h =>
        (decodeRow exp scale t (past ++ [t])).2 h ++ List.replicate future.length 0) := by
  have hsplit : past ++ t :: future = (past ++ [t]) ++ future := List.append_cons past t future
  have hscores : ∀ h, ((past ++ t :: future).zipIdx.map fun token =>
      logit t.q scale token.1.k h + mask true (past ++ t :: future).length past.length token.2) =
      ((past ++ [t]).map fun u => logit t.q scale u.k h) ++
        future.map fun u => logit t.q scale u.k h - 10 ^ 9 := by
    intro h
    rw [hsplit, List.zipIdx_append, List.map_append,
      map_mask_upto (fun u => logit t.q scale u.k h) (by simp)]
    congr 1
    cases future with
    | nil => rfl
    | cons u future =>
        exact map_mask_after (fun u => logit t.q scale u.k h) (by simp; omega) (by simp)
  have hmem : t ∈ past ++ t :: future := by simp
  have hweights : ∀ h, attnWeights exp (((past ++ [t]).map fun u => logit t.q scale u.k h) ++
      future.map fun u => logit t.q scale u.k h - 10 ^ 9) =
      attnWeights exp ((past ++ [t]).map fun u => logit t.q scale u.k h) ++
        List.replicate future.length 0 := by
    intro h
    have hlen : future.length = (future.map fun u => logit t.q scale u.k h - 10 ^ 9).length :=
      List.length_map _ |>.symm
    rw [hlen]
    refine attnWeights_append (by simp) ?_ ?_
    · intro x hx
      obtain ⟨u, hu, rfl⟩ := List.mem_map.mp hx
      refine ⟨logit t.q scale t.k h, List.mem_map_of_mem (by simp), ?_⟩
      have hspread := hmask.spread t hmem u (by simp [hu]) t hmem h
      have hbound := hmask.bound_nonneg
      linarith
    · intro x hx y hy
      obtain ⟨u, hu, rfl⟩ := List.mem_map.mp hx
      obtain ⟨w, hw, rfl⟩ := List.mem_map.mp hy
      have hspread := hmask.spread t hmem u (by simp [hu]) w
        (by rw [hsplit]; exact List.mem_append_left _ hw) h
      exact hmask.underflow _ (by linarith)
  have hvalues : (past ++ t :: future).map QkvToken.v =
      (past ++ [t]).map QkvToken.v ++ future.map QkvToken.v := by
    rw [hsplit, List.map_append]
  have hindex : (past ++ t :: future).zipIdx[past.length]? = some (t, past.length) := by
    simp
  rw [computeFullAttention, List.getElem?_map, hindex, Option.map_some]
  congr 1
  simp only [attendRow, hscores, hweights, hvalues, decodeRow]
  refine Prod.ext ?_ rfl
  funext h d
  have hlen : future.length = (future.map QkvToken.v).length := (List.length_map _).symm
  rw [hlen]
  exact weighted_append (by rw [length_attnWeights, List.length_map, List.length_map]) h d

theorem getElem?_causal [IsStrictOrderedRing α] {bound : α}
    {tokens : List (QkvToken α heads dim)} (hmask : MaskHides exp scale bound tokens) (i : Nat) :
    ((computeFullAttention exp scale true tokens).map Prod.fst)[i]? =
      tokens[i]?.map fun t => (decodeRow exp scale t (tokens.take (i + 1))).1 := by
  rcases Nat.lt_or_ge i tokens.length with hi | hi
  · have hsplit : tokens = tokens.take i ++ tokens[i] :: tokens.drop (i + 1) := by
      rw [List.getElem_cons_drop, List.take_append_drop]
    have hlen : (tokens.take i).length = i := List.length_take_of_le (Nat.le_of_lt hi)
    have hrow := causal_row (tokens.take i) (tokens.drop (i + 1)) tokens[i]
      (by rw [← hsplit]; exact hmask)
    rw [← hsplit, hlen] at hrow
    rw [List.getElem?_map, hrow, List.getElem?_eq_getElem hi, Option.map_some, Option.map_some,
      List.take_concat_get' tokens i hi]
  · have hlen : (computeFullAttention exp scale true tokens).length = tokens.length := by
      simp [computeFullAttention]
    rw [List.getElem?_eq_none (by rw [List.length_map, hlen]; exact hi),
      List.getElem?_eq_none hi, Option.map_none]

/-- One more token adds one more output and leaves the others. -/
theorem causal_concat [IsStrictOrderedRing α] {bound : α} {tokens : List (QkvToken α heads dim)}
    {t : QkvToken α heads dim} (hmask : MaskHides exp scale bound (tokens ++ [t])) :
    (computeFullAttention exp scale true (tokens ++ [t])).map Prod.fst =
      (computeFullAttention exp scale true tokens).map Prod.fst ++
        [(decodeRow exp scale t (tokens ++ [t])).1] := by
  have hold : MaskHides exp scale bound tokens :=
    hmask.subset (List.subset_append_left tokens [t])
  have hlen : ((computeFullAttention exp scale true tokens).map Prod.fst).length =
      tokens.length := by
    simp [computeFullAttention]
  apply List.ext_getElem?
  intro i
  rw [getElem?_causal hmask]
  rcases Nat.lt_trichotomy i tokens.length with hi | rfl | hi
  · rw [List.getElem?_append_left hi, List.getElem?_append_left (by rw [hlen]; exact hi),
      getElem?_causal hold, List.take_append_of_le_length hi]
  · rw [List.getElem?_append_right (Nat.le_of_eq hlen), hlen, Nat.sub_self,
      List.getElem?_append_right (Nat.le_refl _), Nat.sub_self,
      List.take_of_length_le (by simp)]
    rfl
  · rw [List.getElem?_eq_none (by simp; omega), List.getElem?_eq_none (by simp [hlen]; omega)]
    rfl

end Causal

/-! ## Positions -/

section Positions

variable [Field α] {half : Nat} (A : Angles α) (pow : α → α → α) (theta : α)

theorem angles_add (p d : Nat) (j : Fin half) :
    angles pow theta half (p + d) j = angles pow theta half p j + angles pow theta half d j := by
  simp only [angles, Nat.cast_add, add_mul]

/-- A score depends on the distance of the positions only. -/
theorem logit_shift (q k : Row α heads (half + half)) (scale : α) (p s d : Nat) (h : Fin heads) :
    logit (rotated A pow theta (p + d) q) scale (rotated A pow theta (s + d) k) h =
      logit (rotated A pow theta p q) scale (rotated A pow theta s k) h := by
  have hdot := A.dot_turn_shift (angles pow theta half p) (angles pow theta half s)
    (angles pow theta half d) (q h) (k h)
  have hangles : ∀ n, angles pow theta half (n + d) =
      fun j => angles pow theta half n j + angles pow theta half d j :=
    fun n => funext (angles_add pow theta n d)
  simp only [logit, rotated, hangles, hdot]

/-- Queries and keys turned by their positions. -/
def rotatedTokens (pos : Nat) (tokens : List (QkvToken α heads (half + half))) :
    List (QkvToken α heads (half + half)) :=
  (tokens.zipIdx pos).map fun t =>
    ⟨rotated A pow theta t.2 t.1.q, rotated A pow theta t.2 t.1.k, t.1.v⟩

theorem rotatedTokens_eq (pos : Nat) (tokens : List (QkvToken α heads (half + half))) :
    rotatedTokens A pow theta pos tokens =
      List.zipWith (fun (qk : Row α heads (half + half) × Row α heads (half + half)) v =>
          QkvToken.mk qk.1 qk.2 v)
        ((rotatedFrom A pow theta pos (tokens.map QkvToken.q)).zip
          (rotatedFrom A pow theta pos (tokens.map QkvToken.k)))
        (tokens.map QkvToken.v) := by
  induction tokens generalizing pos with
  | nil => rfl
  | cons t tokens ih =>
      have hcons := ih (pos + 1)
      simp only [rotatedTokens, rotatedFrom, List.zipIdx_cons, List.map_cons, List.zip_cons_cons,
        List.zipWith_cons_cons] at hcons ⊢
      rw [hcons]

variable [LinearOrder α]

theorem computeFullAttention_shift (exp : α → α) (scale : α) (causal : Bool) (pos d : Nat)
    (tokens : List (QkvToken α heads (half + half))) :
    computeFullAttention exp scale causal (rotatedTokens A pow theta (pos + d) tokens) =
      computeFullAttention exp scale causal (rotatedTokens A pow theta pos tokens) := by
  have hindexed : ∀ pos, (rotatedTokens A pow theta pos tokens).zipIdx =
      tokens.zipIdx.map fun t =>
        ((⟨rotated A pow theta (pos + t.2) t.1.q, rotated A pow theta (pos + t.2) t.1.k, t.1.v⟩ :
          QkvToken α heads (half + half)), t.2) := by
    intro pos
    apply List.ext_getElem?
    intro i
    simp only [rotatedTokens, List.getElem?_zipIdx, List.getElem?_map, Nat.zero_add]
    cases tokens[i]? with
    | none => rfl
    | some t => rfl
  have hvalues : ∀ pos, (rotatedTokens A pow theta pos tokens).map QkvToken.v =
      tokens.map QkvToken.v := by
    intro pos
    apply List.ext_getElem?
    intro i
    simp only [rotatedTokens, List.getElem?_zipIdx, List.getElem?_map]
    cases tokens[i]? with
    | none => rfl
    | some t => rfl
  have hlength : ∀ pos, (rotatedTokens A pow theta pos tokens).length = tokens.length := by
    simp [rotatedTokens]
  simp only [computeFullAttention, hindexed, hvalues, hlength, List.map_map, Function.comp_def,
    Nat.add_right_comm pos d, logit_shift]

/-- Within the tables, a sequence keeps its norms and its attention wherever it starts. -/
theorem rope_relative {maxSeqLen d : Nat} {tokens : List (QkvToken α heads (half + half))}
    (hwithin : d + tokens.length ≤ maxSeqLen) (exp : α → α) (scale : α) (causal : Bool) :
    ∃ qs ks,
      applyRotaryPosEmb (precomputeRopeFrequencies A pow theta half maxSeqLen).1
        (precomputeRopeFrequencies A pow theta half maxSeqLen).2 (tokens.map QkvToken.q) d =
          .ok qs ∧
      applyRotaryPosEmb (precomputeRopeFrequencies A pow theta half maxSeqLen).1
        (precomputeRopeFrequencies A pow theta half maxSeqLen).2 (tokens.map QkvToken.k) d =
          .ok ks ∧
      qs.map (fun row h => ∑ i, row h i ^ 2) =
        tokens.map (fun t h => ∑ i, t.q h i ^ 2) ∧
      computeFullAttention exp scale causal
          (List.zipWith (fun (qk : Row α heads (half + half) × Row α heads (half + half)) v =>
            QkvToken.mk qk.1 qk.2 v) (qs.zip ks) (tokens.map QkvToken.v)) =
        computeFullAttention exp scale causal (rotatedTokens A pow theta 0 tokens) := by
  refine ⟨_, _, applyRotary_within A pow theta (by rw [List.length_map]; exact hwithin),
    applyRotary_within A pow theta (by rw [List.length_map]; exact hwithin), ?_, ?_⟩
  · apply List.ext_getElem?
    intro i
    simp only [rotatedFrom, List.getElem?_map, List.getElem?_zipIdx]
    cases tokens[i]? with
    | none => rfl
    | some t =>
        simp only [Option.map_some, rotated, A.norm_turn]
  · rw [← rotatedTokens_eq]
    have hshift := computeFullAttention_shift A pow theta exp scale causal 0 d tokens
    rw [Nat.zero_add] at hshift
    exact hshift

end Positions

/-! ## One token -/

section Instances

def onePoint : QkvToken ℝ 1 (1 + 1) := ⟨fun _ _ => 1, fun _ _ => 2, fun _ _ => 3⟩

theorem rope_relative_one :
    ∃ qs ks,
      applyRotaryPosEmb (precomputeRopeFrequencies Angles.real Real.rpow 10000 1 8).1
        (precomputeRopeFrequencies Angles.real Real.rpow 10000 1 8).2 [onePoint.q] 3 = .ok qs ∧
      applyRotaryPosEmb (precomputeRopeFrequencies Angles.real Real.rpow 10000 1 8).1
        (precomputeRopeFrequencies Angles.real Real.rpow 10000 1 8).2 [onePoint.k] 3 = .ok ks ∧
      qs.map (fun row h => ∑ i, row h i ^ 2) = [onePoint].map (fun t h => ∑ i, t.q h i ^ 2) ∧
      computeFullAttention Real.exp 1 true
          (List.zipWith (fun (qk : Row ℝ 1 (1 + 1) × Row ℝ 1 (1 + 1)) v =>
            QkvToken.mk qk.1 qk.2 v) (qs.zip ks) [onePoint.v]) =
        computeFullAttention Real.exp 1 true
          (rotatedTokens Angles.real Real.rpow 10000 0 [onePoint]) :=
  rope_relative Angles.real Real.rpow 10000
    (show 3 + [onePoint].length ≤ 8 from Nat.le_add_right 4 4) Real.exp 1 true

end Instances

end AttentionEngine

end AiSsd.Attention
