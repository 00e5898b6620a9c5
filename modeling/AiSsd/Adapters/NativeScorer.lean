import AiSsd.Adapters.SelectedTokens
import AiSsd.Lib.Tiling

/-!
# Scoring with the native kernel

The kernel the provider and the store call is the binding of the C kernel. What it returns names
distinct candidates, as many as asked for, exactly when that many of their blocks have a scaled
product above the sentinel. An index left at the sentinel names the last candidate.
-/

namespace AiSsd.Adapters

open Lib Numpy Storage NativeKernel
open Nvme (FloatOps)
open TransformerKVStateProvider (picks_namedScores picks_hostTopBids_numpy)

universe v

section Kernel

variable {F : Type} (fl : FloatOps F) (invSqrt : Int → F) (self : NativeCKernel)

/-- The query as one run of elements; `compute_topk_gqa` does not look at its shape. -/
def queryArray (query : List (List F)) : FloatArray F where
  shape := [query.flatten.length]
  elems := query.flatten
  size_eq := by simp

/-- `compute_topk_gqa`. `none` where the C code reads outside its arrays. -/
def gqaCall (query : List (List F)) (kBlocks : List NDArray) (actualTokens : List Nat)
    (topK qHeads kvHeads headDim : Nat) : Option (Except PyErr (TopArrays F)) :=
  self.computeTopkGqa fl invSqrt (queryArray query) kBlocks (actualTokens.map Nat.cast) topK qHeads
    kvHeads headDim

/-- The kernel as its callers see it, with `beyond` for what happens outside the arrays. -/
def boundKernel (beyond : Kernel F) : Kernel F :=
  fun query kBlocks actualTokens topK qHeads kvHeads headDim =>
    match gqaCall fl invSqrt self query kBlocks actualTokens topK qHeads kvHeads headDim with
    | some answer => answer.map fun out => (out.indices, out.scores)
    | none => beyond query kBlocks actualTokens topK qHeads kvHeads headDim

/-- `self.kernel`, when it is available and has the function the callers look for. -/
def availableKernel (beyond : Kernel F) : Option (Kernel F) :=
  if self.loaded ∧ self.hasGqaAvx2 then some (boundKernel fl invSqrt self beyond) else none

def blocksAbove (query : List (List F)) (kBlocks : List NDArray) (actualTokens : List Nat)
    (qHeads kvHeads headDim : Nat) : Nat :=
  (List.range kBlocks.length).countP fun b => someAbove fl
    (topkGqaProducts fl invSqrt (queryArray query) kBlocks (actualTokens.map Nat.cast) qHeads
      kvHeads headDim b)

variable {fl invSqrt self} {beyond : Kernel F} {query : List (List F)} {kBlocks : List NDArray}
  {actualTokens : List Nat} {topK qHeads kvHeads headDim : Nat} {indices : List Int}
  {scores : List F}

theorem boundKernel_valid_iff (hlt : StrictLt fl) (htop : 1 ≤ topK)
    (hn : kBlocks.length < 2 ^ 31)
    (hinside : (gqaCall fl invSqrt self query kBlocks actualTokens topK qHeads kvHeads
      headDim).isSome)
    (h : boundKernel fl invSqrt self beyond query kBlocks actualTokens topK qHeads kvHeads
      headDim = .ok (indices, scores)) :
    ValidIndices topK kBlocks.length indices ↔
      min topK kBlocks.length ≤
        blocksAbove fl invSqrt query kBlocks actualTokens qHeads kvHeads headDim := by
  obtain ⟨answer, hanswer⟩ := Option.isSome_iff_exists.mp hinside
  unfold boundKernel at h
  rw [hanswer] at h
  cases answer with
  | error err => cases h
  | ok out =>
      cases h
      have hvalid := validIndices_computeTopkGqa hlt (by exact_mod_cast htop) hn hanswer
      rw [hvalid, blocksAbove]
      omega

/-- With enough blocks above the sentinel the kernel picks candidates. -/
theorem picks_of_boundKernel (hlt : StrictLt fl) (htop : 1 ≤ topK) {cands : List (Nat × Nat)}
    (hlen : kBlocks.length = cands.length) (hn : cands.length < 2 ^ 31)
    (hinside : (gqaCall fl invSqrt self query kBlocks actualTokens topK qHeads kvHeads
      headDim).isSome)
    (henough : min topK cands.length ≤
      blocksAbove fl invSqrt query kBlocks actualTokens qHeads kvHeads headDim)
    (h : boundKernel fl invSqrt self beyond query kBlocks actualTokens topK qHeads kvHeads
      headDim = .ok (indices, scores))
    {top : List (F × Nat × Nat)} (hnamed : namedScores cands indices scores = .ok top) :
    Picks topK cands (top.map Prod.snd) := by
  have hvalid := boundKernel_valid_iff hlt htop (hlen ▸ hn) hinside h
  rw [hlen] at hvalid
  exact picks_namedScores (hvalid.mpr henough) hnamed

theorem sentinel_names_last {front : List (Nat × Nat)} {last : Nat × Nat}
    {top : List (F × Nat × Nat)} (h : namedScores (front ++ [last]) indices scores = .ok top)
    (hsentinel : -1 ∈ indices) : last ∈ top.map Prod.snd := by
  obtain ⟨place, hget⟩ := List.mem_iff_getElem?.mp hsentinel
  have hplace : ((-1 : Int), place) ∈ indices.zipIdx := List.mem_zipIdx_iff_getElem?.mpr hget
  obtain ⟨t, ht, hone⟩ := exists_of_forall₂ (mapM_eq_ok h).flip _ hplace
  have hlast : pyIndex (front ++ [last]) (-1) = .ok last := by
    rw [pyIndex_neg_one (by simp : front.length + 1 = (front ++ [last]).length),
      pyIndex_natCast (by simp)]
    simp
  dsimp only at hone
  rw [hlast] at hone
  split at hone
  · rename_i hcand
    cases hcand
    cases hone
    exact List.mem_map.mpr ⟨_, ht, rfl⟩
  · cases hone

end Kernel

/-! ## The callers -/

section Callers

variable {α : Type} [Field α] [LinearOrder α] {fl : FloatOps α} {invSqrt : Int → α}
  {self : NativeCKernel} {beyond : Kernel α} {query : List (List α)} {scale : α}
  {cands : List (Nat × Nat)} {k : Nat} {top : List (α × Nat × Nat)}

/-- The provider picks on the host, by the kernel where it is available and else by NumPy. -/
theorem picks_hostTopBids_available {geo : KVGeometry} {σ : Type v} {cfg : ProviderConfig}
    {N : Numerics α} {s : TransformerKVStateProvider geo σ} {keyPages : Dict Nat NDArray}
    {kBlocks : List NDArray} {kvHeads : Nat} (hlt : StrictLt fl) (htop : 1 ≤ k)
    (hlen : kBlocks.length = cands.length) (hn : cands.length < 2 ^ 31)
    (hheads : (kBlocks.head?.bind fun blk => blk.shape[1]?) = some kvHeads)
    (hinside : (gqaCall fl invSqrt self query kBlocks (cands.map Prod.snd) k query.length kvHeads
      s.headDim).isSome)
    (henough : min k cands.length ≤
      blocksAbove fl invSqrt query kBlocks (cands.map Prod.snd) query.length kvHeads s.headDim)
    (h : TransformerKVStateProvider.hostTopBids cfg N (availableKernel fl invSqrt self beyond) s
      cands keyPages kBlocks query scale k = .ok top) :
    Picks k cands (top.map Prod.snd) := by
  unfold availableKernel at h
  split at h
  · unfold TransformerKVStateProvider.hostTopBids at h
    dsimp only at h
    rw [hheads] at h
    dsimp only at h
    split at h
    · cases h
    · rename_i hrun
      exact picks_of_boundKernel hlt htop hlen hn hinside henough hrun h
  · exact picks_hostTopBids_numpy h

theorem picks_topkResults_bound {cfg : BackendConfig} {val : DType → Bytes → α}
    {s : RealInferenceStorageBackend cfg} {layerIdx qHeads kvHeads headDim : Nat}
    {kBlocks : List NDArray} (hlt : StrictLt fl) (htop : 1 ≤ k) (hn : cands.length < 2 ^ 31)
    (hkeys : (cands.map (s.candidateInfo layerIdx)).mapM (s.candidateKeys layerIdx) = .ok kBlocks)
    (hinside : (gqaCall fl invSqrt self query kBlocks (cands.map Prod.snd) k qHeads kvHeads
      headDim).isSome)
    (henough : min k cands.length ≤
      blocksAbove fl invSqrt query kBlocks (cands.map Prod.snd) qHeads kvHeads headDim)
    (h : s.topkResults val (some (boundKernel fl invSqrt self beyond)) layerIdx cands query k scale
      qHeads kvHeads headDim = .ok top) :
    Picks k cands (top.map Prod.snd) := by
  have hlen : kBlocks.length = cands.length := by
    have hall := (mapM_eq_ok hkeys).length_eq
    rw [List.length_map] at hall
    exact hall.symm
  unfold RealInferenceStorageBackend.topkResults at h
  rw [hkeys] at h
  dsimp only at h
  split at h
  · cases h
  · rename_i hrun
    exact picks_of_boundKernel hlt htop hlen hn hinside henough hrun h

end Callers

end AiSsd.Adapters
