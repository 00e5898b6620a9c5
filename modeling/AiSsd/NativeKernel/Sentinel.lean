import AiSsd.NativeKernel.Binding
import AiSsd.NativeKernel.ExactFloat
import AiSsd.NativeKernel.Insertion

/-!
# Indices and the sentinel

The output arrays start with index -1 and score -1e30, and only a block that scores above that
takes a place. So the indices are those of distinct blocks exactly when enough blocks have a
scaled product above -1e30; a block without tokens has none.
-/

namespace AiSsd.NativeKernel

open Lib Numpy
open Nvme (FloatOps intMul)

variable {F : Type} {fl : FloatOps F}

/-- As many indices as were asked for, of blocks, and no block twice. -/
structure ValidIndices (topK : Int) (numBlocks : Nat) (indices : List Int) : Prop where
  length_eq : (indices.length : Int) = min topK numBlocks
  inRange : ∀ i ∈ indices, 0 ≤ i ∧ i < numBlocks
  nodup : indices.Nodup

instance (topK : Int) (numBlocks : Nat) (indices : List Int) :
    Decidable (ValidIndices topK numBlocks indices) :=
  decidable_of_iff ((indices.length : Int) = min topK numBlocks ∧
      (∀ i ∈ indices, 0 ≤ i ∧ i < numBlocks) ∧ indices.Nodup)
    ⟨fun h => ⟨h.1, h.2.1, h.2.2⟩, fun h => ⟨h.length_eq, h.inRange, h.nodup⟩⟩

/-- What is documented of `<` on floats, NaNs included. -/
structure StrictLt (fl : FloatOps F) : Prop where
  irrefl : ∀ a, fl.lt a a = false
  trans : ∀ a b c, fl.lt a b = true → fl.lt b c = true → fl.lt a c = true

theorem Exact.strictLt {α : Type} [Field α] [LinearOrder α] {fl : FloatOps α} (hfl : Exact fl) :
    StrictLt fl where
  irrefl := fun a => by simp [hfl.lt]
  trans := fun a b c => by simpa [hfl.lt] using fun hab hbc => lt_trans hab hbc

/-! ## Products above the sentinel -/

/-- One of the products exceeds `-1e30f`. -/
def someAbove (fl : FloatOps F) (products : List (Option F)) : Bool :=
  products.any fun x => x.any (fl.lt fl.minScore)

def blockProducts (fl : FloatOps F) (query kBlock : FloatPtr F) (tokens heads headDim : Int)
    (scale : F) : List (Option F) :=
  allScores tokens.toNat heads.toNat (fun t => (intMul heads headDim).bind (intMul t))
    (scaledDot fl query kBlock headDim scale)

def blockProductsGqa (fl : FloatOps F) (query kBlock : FloatPtr F)
    (actualTokens qHeads kvHeads headDim : Int) (scale : F) : List (Option F) :=
  allScores actualTokens.toNat qHeads.toNat (fun t => (intMul kvHeads headDim).bind (intMul t))
    (scaledDotGqa fl (dotProduct fl) query kBlock (qHeads.tdiv kvHeads) headDim scale)

/-- A running best exceeds the sentinel exactly when some product does. -/
theorem lt_bestOver (hlt : StrictLt fl) {κ : Type} {m n : Nat} (hn : 0 < n) {row : Nat → Option κ}
    {score : κ → Nat → Option F} {best : F}
    (h : bestOver fl.lt fl.minScore m n row score = some best) :
    fl.lt fl.minScore best = someAbove fl (allScores m n row score) := by
  rw [bestOver_eq fl.lt hn] at h
  obtain ⟨ys, hys, rfl⟩ := bestOf_eq_some h
  rw [hys, Bool.eq_iff_iff, lt_foldl_better hlt.irrefl hlt.trans]
  simp [someAbove]

theorem lt_computeBlockScore (hlt : StrictLt fl) {query kBlock : FloatPtr F}
    {tokens heads headDim : Int} (hheads : 0 < heads) {scale score : F}
    (h : computeBlockScore fl query kBlock tokens heads headDim scale = some score) :
    fl.lt fl.minScore score =
      someAbove fl (blockProducts fl query kBlock tokens heads headDim scale) := by
  obtain ⟨stride, hstride, hbest⟩ := Option.bind_eq_some_iff.mp h
  rw [lt_bestOver hlt (by omega) hbest, blockProducts, hstride]
  rfl

theorem lt_computeBlockScoreGqaAvx2 (hlt : StrictLt fl) {query kBlock : FloatPtr F}
    {actualTokens qHeads kvHeads headDim : Int} (hheads : 0 < qHeads) {scale score : F}
    (h : computeBlockScoreGqaAvx2 fl query kBlock actualTokens qHeads kvHeads headDim scale =
      some score) :
    fl.lt fl.minScore score = someAbove fl
      (blockProductsGqa fl query kBlock actualTokens qHeads kvHeads headDim scale) := by
  unfold computeBlockScoreGqaAvx2 at h
  split at h
  · cases h
  · obtain ⟨stride, hstride, hbest⟩ := Option.bind_eq_some_iff.mp h
    rw [lt_bestOver hlt (by omega) hbest, blockProductsGqa, hstride]
    rfl

/-! ## The scan -/

theorem indexed_snd (scores : List F) :
    (indexed scores).map Prod.snd = (List.range scores.length).map (Nat.cast : Nat → Int) := by
  rw [indexed, List.map_map, List.range_eq_range', ← List.zipIdx_map_snd 0 scores, List.map_map]
  rfl

theorem indexed_fst (scores : List F) : (indexed scores).map Prod.fst = scores := by
  rw [indexed, List.map_map]
  exact List.zipIdx_map_fst 0 scores

theorem countP_indexed (p : F → Bool) (scores : List F) :
    (indexed scores).countP (fun q => p q.1) = scores.countP p := by
  conv_rhs => rw [← indexed_fst scores, List.countP_map]
  rfl

theorem sentinel_mem_scan {effectiveK : Nat} {scores : List F}
    (h : scores.countP (fl.lt fl.minScore) < effectiveK) :
    (-1 : Int) ∈ ((indexed scores).foldl (offer fl.lt Prod.fst)
      (List.replicate effectiveK (fl.minScore, (-1 : Int)))).map Prod.snd := by
  obtain ⟨ys, hlist, -, -⟩ := foldl_offer_fills fl.lt Prod.fst (fl.minScore, (-1 : Int))
    effectiveK (indexed scores)
  rw [hlist, countP_indexed]
  simp
  omega

/-- The arrays hold distinct blocks exactly when enough blocks exceed the sentinel. -/
theorem validIndices_scan_iff {effectiveK numBlocks : Nat} {score : Nat → Option F}
    {out : TopArrays F} (h : scanBlocks fl effectiveK numBlocks score = some out)
    {topK : Int} (hk : (effectiveK : Int) = min topK numBlocks) {above : Nat → Bool}
    (habove : ∀ b < numBlocks, ∀ s, score b = some s → fl.lt fl.minScore s = above b) :
    ValidIndices topK numBlocks out.indices ↔
      effectiveK ≤ (List.range numBlocks).countP above := by
  obtain ⟨scores, hscores, rfl⟩ := (scanBlocks_eq_some_iff fl).mp h
  have hlength : scores.length = numBlocks := by simpa using (congrArg List.length hscores).symm
  have hcount : scores.countP (fl.lt fl.minScore) = (List.range numBlocks).countP above := by
    calc scores.countP (fl.lt fl.minScore)
        = ((List.range numBlocks).map score).countP fun x => x.any (fl.lt fl.minScore) := by
          rw [hscores, List.countP_map]
          rfl
      _ = (List.range numBlocks).countP above := by
          rw [List.countP_map]
          refine List.countP_congr fun b hb => ?_
          have hmem : score b ∈ scores.map some := hscores ▸ List.mem_map_of_mem hb
          obtain ⟨s, -, hs⟩ := List.mem_map.mp hmem
          rw [Function.comp_apply, ← hs, Option.any_some,
            habove b (List.mem_range.mp hb) s hs.symm]
  rw [← hcount]
  constructor
  · intro hvalid
    by_contra hfew
    have hmem := sentinel_mem_scan (Nat.lt_of_not_le hfew)
    exact absurd (hvalid.inRange _ hmem).1 (by decide)
  · intro henough
    obtain ⟨ys, hlist, hys, hsub⟩ := foldl_offer_fills fl.lt Prod.fst (fl.minScore, (-1 : Int))
      effectiveK (indexed scores)
    have hindices : ((indexed scores).map Prod.snd).Nodup := by
      rw [indexed_snd]
      exact List.nodup_range.map Nat.cast_injective
    rw [countP_indexed] at hlist hys
    rw [hlist, Nat.sub_eq_zero_of_le henough, List.replicate_zero, List.append_nil]
    refine ⟨?_, ?_, nodup_map_of_subperm hsub hindices⟩
    · rw [TopArrays.ofEntries, List.length_map, hys, Nat.min_eq_left henough, hk]
    · intro i hi
      have hmem : i ∈ (indexed scores).map Prod.snd := List.map_subset Prod.snd hsub.subset hi
      rw [indexed_snd, hlength] at hmem
      obtain ⟨j, hj, rfl⟩ := List.mem_map.mp hmem
      have hlt := List.mem_range.mp hj
      omega

/-! ## The filters -/

theorem toNat_effectiveK_eq {topK numBlocks : Int} (htop : 0 < topK) (hblocks : 0 < numBlocks) :
    ((effectiveK topK numBlocks).toNat : Int) = min topK numBlocks.toNat := by
  unfold effectiveK
  split <;> omega

theorem eq_of_intMul {a b c : Int} (h : intMul a b = some c) : c = a * b := by
  unfold intMul at h
  split at h
  · exact (Option.some.inj h).symm
  · cases h

theorem validIndices_topkFilter (hlt : StrictLt fl) {query kBlocks : FloatPtr F}
    {numBlocks tokens heads headDim topK : Int} {scale : F} {out : TopArrays F}
    (h : instorageTopkFilter fl query kBlocks numBlocks tokens heads headDim topK scale =
      some (.ok out)) :
    ValidIndices topK numBlocks.toNat out.indices ↔
      min topK numBlocks.toNat ≤ ((List.range numBlocks.toNat).countP fun b : Nat => someAbove fl
        (blockProducts fl query (offset kBlocks (b * (tokens * heads * headDim))) tokens heads
          headDim scale) : Nat) := by
  unfold instorageTopkFilter at h
  split at h
  · cases h
  · rename_i hdims
    push Not at hdims
    obtain ⟨tokenHeads, htokenHeads, h⟩ := Option.bind_eq_some_iff.mp h
    obtain ⟨blockElements, helements, h⟩ := Option.bind_eq_some_iff.mp h
    obtain ⟨arrays, hscan, h⟩ := Option.bind_eq_some_iff.mp h
    cases h
    have hk := toNat_effectiveK_eq hdims.2.2.2.2 hdims.1
    rw [← hk, Int.ofNat_le]
    refine validIndices_scan_iff hscan hk fun b _ s hscore => ?_
    obtain ⟨start, hstart, hscore⟩ := Option.bind_eq_some_iff.mp hscore
    rw [lt_computeBlockScore hlt hdims.2.2.1 hscore, eq_of_intMul hstart,
      eq_of_intMul helements, eq_of_intMul htokenHeads]

theorem validIndices_topkFilterGqa (hlt : StrictLt fl) {query : FloatPtr F}
    {kBlocks : List (FloatPtr F)} {actualTokens : List Int}
    {numBlocks qHeads kvHeads headDim topK : Int} {scale : F} {out : TopArrays F}
    (h : instorageTopkFilterGqaAvx2 fl query kBlocks actualTokens numBlocks qHeads kvHeads headDim
      topK scale = some (.ok out)) (above : Nat → Bool)
    (habove : ∀ b kBlock tokens, kBlocks[b]? = some kBlock → actualTokens[b]? = some tokens →
      someAbove fl (blockProductsGqa fl query kBlock tokens qHeads kvHeads headDim scale) = above b) :
    ValidIndices topK numBlocks.toNat out.indices ↔
      min topK numBlocks.toNat ≤ ((List.range numBlocks.toNat).countP above : Nat) := by
  unfold instorageTopkFilterGqaAvx2 at h
  split at h
  · cases h
  · rename_i hdims
    push Not at hdims
    obtain ⟨arrays, hscan, h⟩ := Option.bind_eq_some_iff.mp h
    cases h
    have hk := toNat_effectiveK_eq hdims.2.2.2.2 hdims.1
    rw [← hk, Int.ofNat_le]
    refine validIndices_scan_iff hscan hk fun b _ s hscore => ?_
    obtain ⟨kBlock, hkBlock, hscore⟩ := Option.bind_eq_some_iff.mp hscore
    obtain ⟨tokens, htokens, hscore⟩ := Option.bind_eq_some_iff.mp hscore
    rw [lt_computeBlockScoreGqaAvx2 hlt hdims.2.1 hscore, habove b kBlock tokens hkBlock htokens]

/-! ## The wrappers -/

variable (fl) (invSqrt : Int → F)

/-- The products of block `b` and the query, as `compute_topk` lays the blocks out. -/
def topkProducts (query : FloatArray F) (layerBlocks : List (LayerBlock F)) (b : Nat) :
    List (Option F) :=
  let heads := cInt (query.shape.getD 0 0)
  let headDim := cInt (query.shape.getD 1 0)
  let tokens := cInt ((layerBlocks.head?.bind fun entry => entry.k.shape.head?).getD 0)
  let elems := layerBlocks.flatMap fun entry => entry.k.elems
  blockProducts fl (ptrOf query.elems) (offset (ptrOf elems) (b * (tokens * heads * headDim)))
    tokens heads headDim (invSqrt (query.shape.getD 1 0))

/-- The products of block `b` and the query in `compute_topk_gqa`. -/
def topkGqaProducts (query : FloatArray F) (kBlocks : List NDArray) (actualTokens : List Int)
    (qHeads kvHeads headDim : Int) (b : Nat) : List (Option F) :=
  blockProductsGqa fl (ptrOf query.elems)
    (dataAsFloats fl ((kBlocks[b]?).elim [] NDArray.data)) (cInt (actualTokens.getD b 0))
    (cInt qHeads) (cInt kvHeads) (cInt headDim) (invSqrt headDim)

variable {fl} {invSqrt}

theorem of_checked {message : String} {r : Option (Except Int (TopArrays F))} {out : TopArrays F}
    (h : r.map (checked message) = some (.ok out)) : r = some (.ok out) := by
  obtain ⟨answer, rfl, hanswer⟩ := Option.map_eq_some_iff.mp h
  cases answer with
  | error status => cases hanswer
  | ok arrays =>
      cases hanswer
      rfl

theorem stack_ok {arrays : List (FloatArray F)} {elems : List F} (h : stack arrays = .ok elems) :
    elems = arrays.flatMap FloatArray.elems := by
  unfold stack at h
  split at h
  · cases h
  · split at h
    · cases h
      rfl
    · cases h

theorem cInt_min {topK : Int} {n : Nat} (htop : 1 ≤ topK) (hn : n < 2 ^ 31) :
    cInt (min topK n) = min topK n := by
  obtain ⟨k, hk⟩ := Int.eq_ofNat_of_zero_le (show 0 ≤ min topK n by omega)
  rw [hk]
  exact cInt_of_lt (by omega)

theorem validIndices_min (topK : Int) (numBlocks : Nat) (indices : List Int) :
    ValidIndices (min topK numBlocks) numBlocks indices ↔ ValidIndices topK numBlocks indices := by
  constructor
  · intro h
    exact ⟨by rw [h.length_eq, min_assoc, min_self], h.inRange, h.nodup⟩
  · intro h
    exact ⟨by rw [h.length_eq, min_assoc, min_self], h.inRange, h.nodup⟩

theorem validIndices_callTopk (hlt : StrictLt fl) {kernel : NativeCKernel} {query : FloatArray F}
    {layerBlocks : List (LayerBlock F)} {topK : Int} {out : TopArrays F} (htop : 1 ≤ topK)
    (hn : layerBlocks.length < 2 ^ 31)
    (h : kernel.callTopk fl invSqrt query layerBlocks topK = some (.ok out)) :
    ValidIndices topK layerBlocks.length out.indices ↔
      min topK layerBlocks.length ≤ ((List.range layerBlocks.length).countP fun b =>
        someAbove fl (topkProducts fl invSqrt query layerBlocks b) : Nat) := by
  unfold NativeCKernel.callTopk at h
  split at h
  · cases h
  · dsimp only at h
    split at h
    · rename_i heads headDim hshape
      split at h
      · cases h
      · rename_i tokens htokens
        split at h
        · cases h
        · rename_i elems helems
          split at h
          · cases h
          · have hvalid := validIndices_topkFilter hlt (of_checked h)
            have hproducts : ∀ b : Nat, topkProducts fl invSqrt query layerBlocks b =
                blockProducts fl (ptrOf query.elems) (offset (ptrOf elems)
                  (b * (cInt tokens * cInt heads * cInt headDim))) (cInt tokens) (cInt heads)
                  (cInt headDim) (invSqrt headDim) := by
              intro b
              rw [stack_ok helems, List.flatMap_map, topkProducts, hshape, htokens]
              rfl
            rw [cInt_of_lt hn, cInt_min htop hn, Int.toNat_natCast, validIndices_min,
              min_assoc, min_self] at hvalid
            simpa only [hproducts] using hvalid
    · cases h

theorem getElem?_ctypesArray {values : List Int} {n b : Nat} {value : Int}
    (h : (values.map cInt ++ List.replicate n 0)[b]? = some value) :
    value = cInt (values.getD b 0) := by
  rw [List.getD_eq_getElem?_getD]
  rw [List.getElem?_append, List.length_map] at h
  split at h
  · rename_i hlt
    rw [List.getElem?_map, List.getElem?_eq_getElem hlt] at h
    rw [List.getElem?_eq_getElem hlt]
    exact (Option.some.inj h).symm
  · rename_i hge
    rw [List.getElem?_eq_none (by omega)]
    obtain ⟨-, rfl⟩ := List.getElem?_eq_some_iff.mp h
    rw [List.getElem_replicate]
    rfl

theorem validIndices_computeTopkGqa (hlt : StrictLt fl) {kernel : NativeCKernel}
    {query : FloatArray F} {kBlocks : List NDArray} {actualTokens : List Int}
    {topK qHeads kvHeads headDim : Int} {out : TopArrays F} (htop : 1 ≤ topK)
    (hn : kBlocks.length < 2 ^ 31)
    (h : kernel.computeTopkGqa fl invSqrt query kBlocks actualTokens topK qHeads kvHeads headDim =
      some (.ok out)) :
    ValidIndices topK kBlocks.length out.indices ↔
      min topK kBlocks.length ≤ ((List.range kBlocks.length).countP fun b => someAbove fl
        (topkGqaProducts fl invSqrt query kBlocks actualTokens qHeads kvHeads headDim b) : Nat) := by
  unfold NativeCKernel.computeTopkGqa at h
  split at h
  · cases h
  · dsimp only at h
    split at h
    · rename_i hnone
      cases h
      rw [hnone]
      refine iff_of_true ⟨?_, by simp, List.nodup_nil⟩ ?_
      · change (0 : Int) = min topK 0
        omega
      · exact min_le_right _ _
    · split at h
      · cases h
      · split at h
        · cases h
        · split at h
          · cases h
          · split at h
            · cases h
            · have hvalid := validIndices_topkFilterGqa hlt (of_checked h)
                (fun b => someAbove fl (topkGqaProducts fl invSqrt query kBlocks actualTokens
                  qHeads kvHeads headDim b)) ?_
              · rw [cInt_of_lt hn, cInt_min htop hn, Int.toNat_natCast, validIndices_min,
                  min_assoc, min_self] at hvalid
                exact hvalid
              · intro b kBlock tokens hkBlock htokens
                obtain ⟨block, hblock, rfl⟩ : ∃ block, kBlocks[b]? = some block ∧
                    dataAsFloats fl block.data = kBlock := by
                  rw [List.getElem?_map] at hkBlock
                  exact Option.map_eq_some_iff.mp hkBlock
                rw [topkGqaProducts, hblock, getElem?_ctypesArray htokens]
                rfl

/-- What the wrappers return are indices of distinct blocks, as many as asked for, exactly when
that many blocks have a scaled product above `-1e30f`. -/
theorem indices_valid_iff (hlt : StrictLt fl) (kernel : NativeCKernel) (query : FloatArray F)
    (topK : Int) (htop : 1 ≤ topK) :
    (∀ (layerBlocks : List (LayerBlock F)) (out : TopArrays F), layerBlocks.length < 2 ^ 31 →
      kernel.callTopk fl invSqrt query layerBlocks topK = some (.ok out) →
      (ValidIndices topK layerBlocks.length out.indices ↔
        min topK layerBlocks.length ≤ ((List.range layerBlocks.length).countP fun b =>
          someAbove fl (topkProducts fl invSqrt query layerBlocks b) : Nat))) ∧
    ∀ (kBlocks : List NDArray) (actualTokens : List Int) (qHeads kvHeads headDim : Int)
      (out : TopArrays F), kBlocks.length < 2 ^ 31 →
      kernel.computeTopkGqa fl invSqrt query kBlocks actualTokens topK qHeads kvHeads headDim =
        some (.ok out) →
      (ValidIndices topK kBlocks.length out.indices ↔
        min topK kBlocks.length ≤ ((List.range kBlocks.length).countP fun b => someAbove fl
          (topkGqaProducts fl invSqrt query kBlocks actualTokens qHeads kvHeads headDim b) : Nat)) :=
  ⟨fun _ _ hn h => validIndices_callTopk hlt htop hn h,
    fun _ _ _ _ _ _ hn h => validIndices_computeTopkGqa hlt htop hn h⟩

theorem strictLt_rationalOps : StrictLt rationalOps := exact_rationalOps.strictLt

/-- One block of one token with the product 1. -/
theorem indices_valid_iff_one_block : ValidIndices 1 1 [0] ∧ ValidIndices 1 1 [0] :=
  have both := @indices_valid_iff ℚ rationalOps (fun _ => 1) strictLt_rationalOps ⟨"", true, true⟩
    ⟨[1, 1], [1], rfl⟩ 1 (by decide)
  ⟨(both.1 [⟨0, ⟨[1, 1, 1], [1], rfl⟩, ⟨[1], [0], rfl⟩⟩] ⟨[0], [1]⟩ (by decide)
      (by decide +kernel)).mpr (by decide +kernel),
    (both.2 [⟨float32, [1, 1, 1], [0, 0, 128, 63], rfl⟩] [1] 1 1 1 ⟨[0], [1]⟩ (by decide)
      (by decide +kernel)).mpr (by decide +kernel)⟩

/-- A block without tokens keeps the sentinel index. -/
theorem no_tokens_sentinel :
    ∃ out, NativeCKernel.computeTopkGqa rationalOps (fun _ => 1) ⟨"", true, true⟩
      ⟨[1, 1], [1], rfl⟩ [NDArray.zeros [1, 1, 1] float32] [0] 1 1 1 1 = some (.ok out) ∧
      ¬ ValidIndices 1 1 out.indices :=
  ⟨⟨[-1], [single 0xF149F2CA]⟩, by decide +kernel, by decide⟩

end AiSsd.NativeKernel
