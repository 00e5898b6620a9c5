import AiSsd.NativeKernel.FastPath

/-!
# The filter without groups

`instorage_topk_filter` lays its key blocks out as tokens by heads by elements. It reads every
element of this layout, whatever the array it was given holds, and without rounding a block
score is the maximum of the scaled products and the sentinel.
-/

namespace AiSsd.NativeKernel

open Lib
open Nvme (FloatOps intMul vector)

variable {F : Type} (fl : FloatOps F)

/-! ## The unrolled product -/

/-- What the unrolled loop computes from two vectors: four products at a time, then the rest. -/
def unrolledSum (n : Nat) (a b : Nat → F) : F :=
  let product := fun d => fl.mul (a d) (b d)
  let quads := (List.range (n / 4)).foldl (fun dot i =>
    fl.add dot (fl.add (fl.add (fl.add (product (4 * i)) (product (4 * i + 1)))
      (product (4 * i + 2))) (product (4 * i + 3)))) fl.zero
  (List.range (n % 4)).foldl (fun dot j => fl.add dot (product (4 * (n / 4) + j))) quads

theorem readsHeads_unrolledDot : ReadsHeads (unrolledDot fl) := by
  intro headDim q k
  exact isSome_vectors fl (r := unrolledSum fl headDim.toNat)

theorem sum_quads {M : Type} [AddCommMonoid M] (f : Nat → M) (n : Nat) :
    ∑ i ∈ Finset.range n, (f (4 * i) + f (4 * i + 1) + f (4 * i + 2) + f (4 * i + 3)) =
      ∑ d ∈ Finset.range (4 * n), f d := by
  induction n with
  | zero => simp
  | succ n ih =>
      rw [Finset.sum_range_succ, ih, Nat.mul_succ]
      simp only [Finset.sum_range_succ, ← add_assoc]

theorem exactDot_unrolledDot {α : Type} [Field α] [LinearOrder α] {fl : FloatOps α}
    (hfl : Exact fl) : ExactDot (unrolledDot fl) := by
  refine @exactDot_of_vectors α _ fl _ (fun headDim => unrolledSum fl headDim.toNat)
    (fun headDim q k => rfl) fun headDim a b => ?_
  generalize headDim.toNat = n
  unfold unrolledSum
  have hsplit : n = 4 * (n / 4) + n % 4 := (Nat.div_add_mod n 4).symm
  simp only [hfl.add, hfl.mul]
  rw [foldl_add (fun j => a (4 * (n / 4) + j) * b (4 * (n / 4) + j)),
    foldl_add (fun i => a (4 * i) * b (4 * i) + a (4 * i + 1) * b (4 * i + 1) +
      a (4 * i + 2) * b (4 * i + 2) + a (4 * i + 3) * b (4 * i + 3)),
    sum_quads (fun d => a d * b d), hfl.zero, zero_add]
  conv_rhs => rw [hsplit, Finset.sum_range_add]

/-! ## What the filter reads -/

variable {fl}

theorem isSome_scaledDot {query kBlock : FloatPtr F} {headDim : Int} {scale : F} {kToken : Int}
    {h : Nat} (hsome : (scaledDot fl query kBlock headDim scale kToken h).isSome) :
    ∀ d < headDim.toNat, (kBlock (kToken + h * headDim + d)).isSome := by
  unfold scaledDot at hsome
  simp only [intMul_eq] at hsome
  by_cases hhead : FitsInt (h * headDim)
  · simp only [hhead, if_true, Option.bind_eq_bind, Option.bind_some] at hsome
    have hdot : (unrolledDot fl headDim (offset query (h * headDim))
        (offset kBlock (kToken + h * headDim))).isSome := by
      revert hsome
      cases unrolledDot fl headDim (offset query (h * headDim))
        (offset kBlock (kToken + h * headDim)) <;> simp
    exact fun d hd => ((readsHeads_unrolledDot fl _ _ _).mp hdot d hd).2
  · simp [hhead] at hsome

theorem isSome_computeBlockScore {query kBlock : FloatPtr F} {tokens heads headDim : Int}
    {scale : F} (hsome : (computeBlockScore fl query kBlock tokens heads headDim scale).isSome) :
    ∀ t < tokens.toNat, FitsInt (t * (heads * headDim)) ∧
      ∀ h < heads.toNat, ∀ d < headDim.toNat,
        (kBlock (t * (heads * headDim) + h * headDim + d)).isSome := by
  unfold computeBlockScore at hsome
  rw [intMul_eq] at hsome
  by_cases hstride : FitsInt (heads * headDim)
  · rw [if_pos hstride, Option.bind_eq_bind, Option.bind_some, isSome_bestOver] at hsome
    intro t ht
    obtain ⟨kToken, hrow, hheads⟩ := hsome t ht
    rw [intMul_eq] at hrow
    split at hrow
    · next hfits =>
        cases hrow
        exact ⟨hfits, fun h hh => isSome_scaledDot (hheads h hh)⟩
    · cases hrow
  · simp [hstride] at hsome

/-- What a filter that returns has found: sizes that are positive, block starts that are
`int`s, and every element of the layout. -/
structure ReadsLayout (kBlocks : FloatPtr F) (numBlocks tokens heads headDim : Int) : Prop where
  pos : 0 < numBlocks ∧ 0 < tokens ∧ 0 < heads ∧ 0 < headDim
  block : FitsInt (tokens * heads * headDim)
  start : ∀ b < numBlocks.toNat, FitsInt (b * (tokens * heads * headDim))
  elems : ∀ b < numBlocks.toNat, ∀ t < tokens.toNat, ∀ h < heads.toNat, ∀ d < headDim.toNat,
    (kBlocks (b * (tokens * heads * headDim) + (t * (heads * headDim) + h * headDim + d))).isSome

theorem readsLayout_of_ok {query kBlocks : FloatPtr F} {numBlocks tokens heads headDim topK : Int}
    {scale : F} {out : TopArrays F}
    (h : instorageTopkFilter fl query kBlocks numBlocks tokens heads headDim topK scale =
      some (.ok out)) :
    ReadsLayout kBlocks numBlocks tokens heads headDim := by
  unfold instorageTopkFilter at h
  split at h
  · cases h
  · rename_i hdims
    push Not at hdims
    obtain ⟨tokenHeads, htokenHeads, h⟩ := Option.bind_eq_some_iff.mp h
    obtain ⟨blockElements, helements, h⟩ := Option.bind_eq_some_iff.mp h
    obtain ⟨arrays, hscan, -⟩ := Option.bind_eq_some_iff.mp h
    obtain ⟨scores, hscores, -⟩ := (scanBlocks_eq_some_iff fl).mp hscan
    rw [intMul_eq] at htokenHeads
    split at htokenHeads
    · cases htokenHeads
      rw [intMul_eq] at helements
      split at helements
      · next hblock =>
          cases helements
          have hblocks : ∀ b < numBlocks.toNat, FitsInt (b * (tokens * heads * headDim)) ∧
              (computeBlockScore fl query
                (offset kBlocks (b * (tokens * heads * headDim))) tokens heads headDim
                  scale).isSome := by
            intro b hb
            have hmem := List.mem_map_of_mem (f := fun b : Nat => (do
              let start ← intMul b (tokens * heads * headDim)
              computeBlockScore fl query (offset kBlocks start) tokens heads headDim scale))
              (List.mem_range.mpr hb)
            rw [hscores] at hmem
            obtain ⟨score, -, hscore⟩ := List.mem_map.mp hmem
            obtain ⟨start, hstart, hscore⟩ := Option.bind_eq_some_iff.mp hscore.symm
            rw [intMul_eq] at hstart
            split at hstart
            · next hfits =>
                cases hstart
                exact ⟨hfits, Option.isSome_of_eq_some hscore⟩
            · cases hstart
          refine ⟨⟨hdims.1, hdims.2.1, hdims.2.2.1, hdims.2.2.2.1⟩, hblock,
            fun b hb => (hblocks b hb).1, fun b hb t ht h hh d hd => ?_⟩
          exact (isSome_computeBlockScore (hblocks b hb).2 t ht).2 h hh d hd
      · cases helements
    · cases htokenHeads

/-- An array that holds one key head a token is read past its end for a second query head. -/
theorem one_head_of_readsLayout {elems : List F} {n t h d : Nat}
    (hlength : elems.length = n * (t * d)) (hreads : ReadsLayout (ptrOf elems) n t h d) :
    h = 1 := by
  obtain ⟨hn, ht, hh, hd⟩ := hreads.pos
  obtain ⟨n, rfl⟩ := Nat.exists_eq_add_of_lt (Int.natCast_pos.mp hn)
  obtain ⟨t, rfl⟩ := Nat.exists_eq_add_of_lt (Int.natCast_pos.mp ht)
  obtain ⟨h, rfl⟩ := Nat.exists_eq_add_of_lt (Int.natCast_pos.mp hh)
  obtain ⟨d, rfl⟩ := Nat.exists_eq_add_of_lt (Int.natCast_pos.mp hd)
  have hlast := hreads.elems n (by omega) t (by omega) h (by omega) d (by omega)
  have hindex : (n : Int) * (((0 + t + 1 : Nat) : Int) * ((0 + h + 1 : Nat) : Int) *
      ((0 + d + 1 : Nat) : Int)) + (t * (((0 + h + 1 : Nat) : Int) * ((0 + d + 1 : Nat) : Int)) +
        h * ((0 + d + 1 : Nat) : Int) + d) =
      (((n + 1) * ((t + 1) * ((h + 1) * (d + 1))) - 1 : Nat) : Int) := by
    have hpos : 1 ≤ (n + 1) * ((t + 1) * ((h + 1) * (d + 1))) := Nat.mul_pos (by omega)
      (Nat.mul_pos (by omega) (Nat.mul_pos (by omega) (by omega)))
    push_cast [Nat.cast_sub hpos]
    ring
  rw [hindex, ptrOf, if_pos (Int.natCast_nonneg _), Int.toNat_natCast] at hlast
  obtain ⟨x, hx⟩ := Option.isSome_iff_exists.mp hlast
  obtain ⟨hlt, -⟩ := List.getElem?_eq_some_iff.mp hx
  by_contra hmany
  have hmore : (n + 1) * ((t + 1) * (d + 1)) < (n + 1) * ((t + 1) * ((h + 1) * (d + 1))) := by
    gcongr
    exact lt_mul_of_one_lt_left (by omega) (by omega)
  simp only [Nat.zero_add] at hlength
  omega

/-! ## One head, without rounding -/

section OneHead

variable {α : Type} [Field α] [LinearOrder α] {fl : FloatOps α}

theorem scaledDot_exact (hfl : Exact fl) {query kBlock : FloatPtr α} {headDim : Nat}
    {a b : Nat → α} {kToken : Int} (hquery : ∀ d < headDim, query (d : Int) = some (a d))
    (hkey : ∀ d < headDim, kBlock (kToken + d) = some (b d)) (scale : α) :
    scaledDot fl query kBlock headDim scale kToken 0 =
      some ((∑ d ∈ Finset.range headDim, a d * b d) * scale) := by
  have hdot : unrolledDot fl headDim (offset query 0) (offset kBlock (kToken + 0)) =
      some (∑ d ∈ Finset.range headDim, a d * b d) := by
    apply exactDot_unrolledDot hfl headDim
    · intro d hd
      simpa [offset] using hquery d hd
    · intro d hd
      simpa [offset] using hkey d hd
  have hzero : intMul ((0 : Nat) : Int) headDim = some 0 := by
    simpa using @intMul_natCast 0 headDim (by omega)
  rw [scaledDot, hzero, Option.bind_eq_bind, Option.bind_some, Option.bind_eq_bind,
    Option.bind_some, hdot, Option.bind_some, hfl.mul]
  rfl

def headProducts (a : Nat → α) (key : Nat → Nat → α) (tokens headDim : Nat) (scale : α) : List α :=
  (List.range tokens).map fun t => (∑ d ∈ Finset.range headDim, a d * key t d) * scale

theorem computeBlockScore_one_head (hfl : Exact fl) {query kBlock : FloatPtr α}
    {tokens headDim : Nat} {a : Nat → α} {key : Nat → Nat → α}
    (hquery : ∀ d < headDim, query (d : Int) = some (a d))
    (hkey : ∀ t < tokens, ∀ d < headDim, kBlock ((t * headDim + d : Nat) : Int) = some (key t d))
    (hrow : headDim < 2 ^ 31) (hblock : tokens * headDim < 2 ^ 31) (scale : α) :
    computeBlockScore fl query kBlock tokens 1 headDim scale =
      some ((headProducts a key tokens headDim scale).foldl max fl.minScore) := by
  have hmax : better fl.lt = max := by
    rw [lt_eq hfl.lt]
    exact funext fun a => funext fun b => better_eq_max a b
  have hstride : intMul 1 (headDim : Int) = some (headDim : Int) := by
    simpa using @intMul_natCast 1 headDim (by omega)
  have hscores : allScores (tokens : Int).toNat (1 : Int).toNat
      (fun t => intMul (t : Int) (headDim : Int))
      (scaledDot fl query kBlock headDim scale) =
        (headProducts a key tokens headDim scale).map some := by
    rw [allScores, headProducts, List.map_map, Int.toNat_natCast, List.flatMap_def]
    have hrows : ∀ t ∈ List.range tokens, ((List.range (1 : Int).toNat).map fun j =>
        (intMul (t : Int) (headDim : Int)).bind fun r =>
          scaledDot fl query kBlock headDim scale r j) =
        [some ((∑ d ∈ Finset.range headDim, a d * key t d) * scale)] := by
      intro t ht
      have ht := List.mem_range.mp ht
      have hfit : t * headDim < 2 ^ 31 :=
        Nat.lt_of_le_of_lt (Nat.mul_le_mul_right _ (Nat.le_of_lt ht)) hblock
      have hdot := @scaledDot_exact α _ _ fl hfl query kBlock headDim a (key t)
        ((t * headDim : Nat) : Int) hquery (fun d hd => by simpa using hkey t ht d hd) scale
      have hone : List.range (1 : Int).toNat = [0] := rfl
      rw [hone, List.map_singleton, intMul_natCast hfit, Option.bind_some, hdot]
    rw [List.map_congr_left hrows, ← List.flatMap_def, ← List.map_eq_flatMap]
    rfl
  rw [computeBlockScore, hstride, Option.bind_eq_bind, Option.bind_some,
    bestOver_eq fl.lt (by decide), hscores, bestOf_map_some, hmax]

/-- Inside `int`s and inside the array, the filter offers the scores of its blocks in order. -/
theorem topkFilter_one_head (hfl : Exact fl) {query kBlocks : FloatPtr α}
    {n tokens headDim topK : Nat} {a : Nat → α} {key : Nat → Nat → Nat → α}
    (hn : 0 < n) (htokens : 0 < tokens) (hdim : 0 < headDim) (htop : 0 < topK)
    (hquery : ∀ d < headDim, query (d : Int) = some (a d))
    (hkey : ∀ b < n, ∀ t < tokens, ∀ d < headDim,
      kBlocks ((b * (tokens * headDim) + (t * headDim + d) : Nat) : Int) = some (key b t d))
    (hblock : tokens * headDim < 2 ^ 31) (hstart : (n - 1) * (tokens * headDim) < 2 ^ 31)
    (scale : α) :
    instorageTopkFilter fl query kBlocks n tokens 1 headDim topK scale =
      some (.ok (.ofEntries ((indexed ((List.range n).map fun b =>
        (headProducts a (key b) tokens headDim scale).foldl max fl.minScore)).foldl
          (offer fl.lt Prod.fst) (List.replicate (min topK n) (fl.minScore, (-1 : Int)))))) := by
  have hrow : headDim < 2 ^ 31 := Nat.lt_of_le_of_lt (Nat.le_mul_of_pos_left _ htokens) hblock
  have htoken : tokens < 2 ^ 31 := Nat.lt_of_le_of_lt (Nat.le_mul_of_pos_right _ hdim) hblock
  have hheads : intMul (tokens : Int) 1 = some (tokens : Int) := by
    simpa using @intMul_natCast tokens 1 (by omega)
  have hscan := (@scanBlocks_eq_some_iff α fl (min topK n) n (fun b => do
      let start ← intMul b ((tokens * headDim : Nat) : Int)
      computeBlockScore fl query (offset kBlocks start) tokens 1 headDim scale) _).mpr
    ⟨(List.range n).map fun b =>
      (headProducts a (key b) tokens headDim scale).foldl max fl.minScore, ?_, rfl⟩
  · rw [instorageTopkFilter, if_neg (by omega), hheads, Option.bind_eq_bind, Option.bind_some,
      intMul_natCast hblock, Option.bind_eq_bind, Option.bind_some, toNat_effectiveK,
      Int.toNat_natCast, hscan]
    rfl
  · rw [List.map_map]
    apply List.map_congr_left
    intro b hb
    have hb := List.mem_range.mp hb
    have hfit : b * (tokens * headDim) < 2 ^ 31 :=
      Nat.lt_of_le_of_lt (Nat.mul_le_mul_right _ (by omega)) hstart
    rw [intMul_natCast hfit, Option.bind_eq_bind, Option.bind_some]
    apply computeBlockScore_one_head hfl hquery _ hrow hblock
    intro t ht d hd
    simpa [offset] using hkey b hb t ht d hd

end OneHead

end AiSsd.NativeKernel
