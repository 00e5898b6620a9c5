import AiSsd.Adapters.Tensors
import AiSsd.NativeKernel.ExactScores
import AiSsd.NativeKernel.Sentinel
import AiSsd.Storage.InferenceBackend

/-!
# The fast path and the plain path

Key pages are scored by the native kernel or by NumPy. The kernel takes every page for floats.
Over float32 pages, in exact arithmetic, both select the same blocks exactly when the kernel
stays inside the pages and finds enough products above its sentinel; float16 pages of every
layout have contents it selects wrongly from.
-/

namespace AiSsd.NativeKernel

open Lib Lib.LittleEndian Numpy Adapters
open Nvme (FloatOps intMul)
open Storage.RealInferenceStorageBackend (scoreCandidates scoreCandidate sortDescending)

/-! ## Pages and queries -/

structure KeyPage (geo : KVGeometry) (tokensPerBlock : Nat) where
  array : NDArray
  dtype_eq : array.dtype = geo.npDtype
  shape_eq : array.shape = [tokensPerBlock, geo.kvHeads, geo.headDim]

def KeyPage.ofRows {geo : KVGeometry} (tokensPerBlock : Nat) (rows : List (TokenRow geo)) :
    KeyPage geo tokensPerBlock :=
  ⟨blockArray tokensPerBlock rows, rfl, rfl⟩

/-- A query whose heads are a multiple of the key heads. -/
structure GroupedQuery (geo : KVGeometry) (α : Type) where
  ratio : Nat
  ratio_pos : 0 < ratio
  rows : List (List α)
  length_eq : rows.length = ratio * geo.kvHeads
  row_length : ∀ row ∈ rows, row.length = geo.headDim

variable {geo : KVGeometry} {tokensPerBlock : Nat} {α : Type}

namespace GroupedQuery

theorem length_flatten (query : GroupedQuery geo α) :
    query.rows.flatten.length = query.rows.length * geo.headDim :=
  length_flatten_of_forall query.row_length

theorem length_pos (query : GroupedQuery geo α) : 0 < query.rows.length := by
  rw [query.length_eq]
  exact Nat.mul_pos query.ratio_pos geo.kvHeads_pos

def toArray (query : GroupedQuery geo α) : FloatArray α where
  shape := [query.rows.length, geo.headDim]
  elems := query.rows.flatten
  size_eq := by rw [query.length_flatten, List.prod_cons, List.prod_singleton]

end GroupedQuery

variable (fl : FloatOps α) (invSqrt : Int → α)

def elementValue (dtype : DType) (bytes : Bytes) : α :=
  if dtype = float16 then fl.ofHalf (ofBytes bytes) else fl.ofBits (ofBytes bytes)

/-! ## What the kernel reads -/

theorem elem_lt_page {t h d : Nat} (ht : t < tokensPerBlock) (hh : h < geo.kvHeads)
    (hd : d < geo.headDim) :
    (t * geo.kvHeads + h) * geo.headDim + d < tokensPerBlock * geo.kvHeads * geo.headDim :=
  index_lt ht hh hd

theorem dataAsFloats_page (page : KeyPage geo tokensPerBlock) (h32 : geo.precision = .fp32)
    {t h d : Nat} (ht : t < tokensPerBlock) (hh : h < geo.kvHeads) (hd : d < geo.headDim) :
    dataAsFloats fl page.array.data
        ((t : Int) * (geo.kvHeads * geo.headDim) + (h : Int) * geo.headDim + d) =
      some (elem3 (elementValue fl) page.array geo.kvHeads geo.headDim t h d) := by
  have hdtype : page.array.dtype = float32 := by
    rw [page.dtype_eq, KVGeometry.npDtype, KVGeometry.bytesPerElem, h32]
    rfl
  have hindex : (t : Int) * (geo.kvHeads * geo.headDim) + (h : Int) * geo.headDim + d =
      (((t * geo.kvHeads + h) * geo.headDim + d : Nat) : Int) := by
    push_cast
    ring
  have hsize : page.array.data.length = tokensPerBlock * geo.kvHeads * geo.headDim * 4 := by
    rw [page.array.size_eq, page.shape_eq, hdtype]
    simp [float32, Nat.mul_assoc]
  have hin := elem_lt_page ht hh hd
  rw [dataAsFloats, hindex, Int.toNat_natCast, if_pos ⟨Int.natCast_nonneg _, by omega⟩, elem3,
    hdtype, elementValue, if_neg (by decide), Nat.mul_comm 4]
  rfl

/-- Without overflow, a product of natural numbers. -/
theorem intMul_natCast {a b : Nat} (h : a * b < 2 ^ 31) :
    intMul (a : Int) b = some ((a * b : Nat) : Int) := by
  rw [intMul_eq, if_pos, Int.natCast_mul]
  rw [← Int.natCast_mul]
  exact ⟨by omega, by omega⟩

/-- The product of a head and its key head, of sizes that are C ints. -/
theorem scaledDotGqa_natCast (dot : Int → FloatPtr α → FloatPtr α → Option α)
    (query kBlock : FloatPtr α) {ratio headDim h : Nat} (hratio : 0 < ratio)
    (hfit : h * headDim < 2 ^ 31) (scale : α) (kToken : Int) :
    scaledDotGqa fl dot query kBlock ratio headDim scale kToken h =
      (dot headDim (offset query ((h : Int) * headDim))
        (offset kBlock (kToken + ((h / ratio : Nat) : Int) * headDim))).map fun d =>
          fl.mul d scale := by
  have hne : (ratio : Int) ≠ 0 := by omega
  have hkh : h / ratio * headDim < 2 ^ 31 :=
    Nat.lt_of_le_of_lt (Nat.mul_le_mul_right _ (Nat.div_le_self h ratio)) hfit
  unfold scaledDotGqa
  simp only [hne, if_false, ← Int.ofNat_tdiv, intMul_natCast hfit, intMul_natCast hkh,
    Option.bind_eq_bind, Option.pure_def, Option.bind_some, Int.natCast_mul]
  exact Option.map_eq_bind.symm

theorem map_range_getElem? (xs : List α) :
    (List.range xs.length).map (fun j => xs[j]?) = xs.map some := by
  apply List.ext_getElem
  · simp
  · intro i hi _
    simp at hi
    simp [hi]

/-! ## The fast path -/

structure SizesFit (query : GroupedQuery geo α) (blocks : List (KeyPage geo tokensPerBlock × Nat)) :
    Prop where
  blocks_lt : blocks.length < 2 ^ 31
  tokens_lt : ∀ b ∈ blocks, b.2 < 2 ^ 31
  query_lt : query.rows.length * geo.headDim < 2 ^ 31
  row_lt : geo.kvHeads * geo.headDim < 2 ^ 31
  page_lt : tokensPerBlock * (geo.kvHeads * geo.headDim) < 2 ^ 31

def kernelScore (query : GroupedQuery geo α) (block : KeyPage geo tokensPerBlock × Nat) : Option α :=
  computeBlockScoreGqaAvx2 fl (ptrOf query.rows.flatten) (dataAsFloats fl block.1.array.data)
    block.2 query.rows.length geo.kvHeads geo.headDim (invSqrt geo.headDim)

/-- `compute_topk_gqa` on pages with their tokens. -/
def fastPath (libPath : String) (query : GroupedQuery geo α)
    (blocks : List (KeyPage geo tokensPerBlock × Nat)) (topK : Nat) :
    Option (Except PyErr (TopArrays α)) :=
  NativeCKernel.computeTopkGqa fl invSqrt ⟨libPath, true, true⟩ query.toArray
    (blocks.map fun b => b.1.array) (blocks.map fun b => (b.2 : Int)) topK query.rows.length
    geo.kvHeads geo.headDim

theorem fastPath_eq (libPath : String) {query : GroupedQuery geo α}
    {blocks : List (KeyPage geo tokensPerBlock × Nat)} (hfit : SizesFit query blocks)
    (hblocks : 0 < blocks.length) {topK : Nat} (htop : 1 ≤ topK) :
    fastPath fl invSqrt libPath query blocks topK =
      (scanBlocks fl (min topK blocks.length) blocks.length fun b =>
        (blocks[b]?).bind (kernelScore fl invSqrt query)).map .ok := by
  have hq : query.rows.length < 2 ^ 31 :=
    Nat.lt_of_le_of_lt (Nat.le_mul_of_pos_right _ geo.headDim_pos) hfit.query_lt
  have hd : geo.headDim < 2 ^ 31 :=
    Nat.lt_of_le_of_lt (Nat.le_mul_of_pos_left _ query.length_pos) hfit.query_lt
  have hkv : geo.kvHeads < 2 ^ 31 :=
    Nat.lt_of_le_of_lt (Nat.le_mul_of_pos_right _ geo.headDim_pos) hfit.row_lt
  have hk : min topK blocks.length < 2 ^ 31 :=
    Nat.lt_of_le_of_lt (Nat.min_le_right _ _) hfit.blocks_lt
  have hkpos : 0 < min topK blocks.length := Nat.lt_min.mpr ⟨htop, hblocks⟩
  have hqpos := query.length_pos
  have hdpos := geo.headDim_pos
  have hkvpos := geo.kvHeads_pos
  have hmin : min (topK : Int) blocks.length = ((min topK blocks.length : Nat) : Int) := by omega
  have hK : (effectiveK (min topK blocks.length : Nat) blocks.length).toNat =
      min topK blocks.length := by
    rw [toNat_effectiveK, Nat.min_eq_left (Nat.min_le_right _ _)]
  have htokens : (blocks.map fun b => (b.2 : Int)).map cInt = blocks.map fun b => (b.2 : Int) := by
    rw [List.map_map]
    exact List.map_congr_left fun b hb => cInt_of_lt (hfit.tokens_lt b hb)
  unfold fastPath NativeCKernel.computeTopkGqa
  rw [if_neg (by simp)]
  dsimp only
  rw [List.length_map, List.length_map, Nat.sub_self, List.replicate_zero, List.append_nil,
    if_neg (by omega), if_neg (by omega), if_neg (by omega), if_neg (by omega), if_neg (by omega),
    hmin, cInt_of_lt hfit.blocks_lt, cInt_of_lt hq, cInt_of_lt hkv, cInt_of_lt hd, cInt_of_lt hk,
    instorageTopkFilterGqaAvx2, if_neg (by omega), hK, Int.toNat_natCast, htokens]
  have hscore : ∀ b : Nat, (do
      let kBlock ← ((blocks.map fun b => b.1.array).map fun a => dataAsFloats fl a.data)[b]?
      let tokens ← (blocks.map fun b => (b.2 : Int))[b]?
      computeBlockScoreGqaAvx2 fl (ptrOf query.toArray.elems) kBlock tokens query.rows.length
        geo.kvHeads geo.headDim (invSqrt geo.headDim)) =
      (blocks[b]?).bind (kernelScore fl invSqrt query) := by
    intro b
    simp only [List.getElem?_map]
    cases blocks[b]? <;> rfl
  simp only [hscore]
  cases scanBlocks fl (min topK blocks.length) blocks.length fun b =>
    (blocks[b]?).bind (kernelScore fl invSqrt query) <;> rfl

theorem isSome_dataAsFloats {data : Bytes} {i : Int} :
    (dataAsFloats fl data i).isSome ↔ 0 ≤ i ∧ 4 * i.toNat + 4 ≤ data.length := by
  unfold dataAsFloats
  split
  · rename_i hin
    simpa using hin
  · rename_i hout
    simpa using hout

theorem tokens_in_page {query : GroupedQuery geo α} {block : KeyPage geo tokensPerBlock × Nat}
    (htokens : 1 ≤ block.2) (h : (kernelScore fl invSqrt query block).isSome) :
    4 * block.2 ≤ tokensPerBlock * geo.npDtype.itemsize := by
  have hkv : (geo.kvHeads : Int) ≠ 0 := by exact_mod_cast geo.kvHeads_pos.ne'
  have hratio : (query.rows.length : Int).tdiv geo.kvHeads = query.ratio := by
    rw [query.length_eq, ← Int.ofNat_tdiv, Nat.mul_div_cancel _ geo.kvHeads_pos]
  have hqueries := query.length_pos
  rw [kernelScore, computeBlockScoreGqaAvx2, if_neg hkv, hratio,
    isSome_scoreGqa fl (readsHeads_dotProduct fl)] at h
  -- the last element of the last key head of the last token
  have hlast := (((h.2 (block.2 - 1) (by omega)).2 (query.rows.length - 1) (by omega)).elems
    (geo.headDim - 1) (by have := geo.headDim_pos; omega)).2
  have hhead : ((query.rows.length - 1 : Nat) : Int) / query.ratio = ((geo.kvHeads - 1 : Nat) : Int) := by
    have hdiv := Nat.mul_sub_div 0 query.ratio geo.kvHeads
      (Nat.mul_pos query.ratio_pos geo.kvHeads_pos)
    rw [Nat.zero_add, Nat.zero_div, Nat.zero_add] at hdiv
    rw [query.length_eq, ← Int.natCast_div, hdiv]
  have hindex : ((block.2 - 1 : Nat) : Int) * (geo.kvHeads * geo.headDim) +
      ((geo.kvHeads - 1 : Nat) : Int) * geo.headDim + ((geo.headDim - 1 : Nat) : Int) =
        block.2 * (geo.kvHeads * geo.headDim) - 1 := by
    rw [Nat.cast_sub htokens, Nat.cast_sub geo.kvHeads_pos, Nat.cast_sub geo.headDim_pos]
    push_cast
    ring
  rw [hhead, hindex, isSome_dataAsFloats, block.1.array.size_eq, block.1.shape_eq,
    block.1.dtype_eq] at hlast
  have hrow : 0 < geo.kvHeads * geo.headDim := Nat.mul_pos geo.kvHeads_pos geo.headDim_pos
  have hsize : [tokensPerBlock, geo.kvHeads, geo.headDim].prod * geo.npDtype.itemsize =
      tokensPerBlock * geo.npDtype.itemsize * (geo.kvHeads * geo.headDim) := by
    simp only [List.prod_cons, List.prod_nil]
    ring
  refine Nat.le_of_mul_le_mul_right ?_ hrow
  rw [← hsize, Nat.mul_assoc]
  have hcast : (block.2 : Int) * (geo.kvHeads * geo.headDim) =
      ((block.2 * (geo.kvHeads * geo.headDim) : Nat) : Int) := by simp
  have hpos : 0 < block.2 * (geo.kvHeads * geo.headDim) := Nat.mul_pos htokens hrow
  rw [hcast] at hlast
  omega

section Products

variable [Field α]

theorem ptrOf_query (query : GroupedQuery geo α) {h d : Nat} (hh : h < query.rows.length)
    (hd : d < geo.headDim) :
    ptrOf query.rows.flatten ((h : Int) * geo.headDim + d) =
      some ((query.rows.getD h []).getD d 0) := by
  have hindex : (h : Int) * geo.headDim + d = ((h * geo.headDim + d : Nat) : Int) := by simp
  have hrow : (query.rows[h]).length = geo.headDim :=
    query.row_length _ (List.getElem_mem hh)
  have hchunk := congrArg (fun row : List α => row[d]?) (chunk_flatten query.row_length hh)
  simp only [chunk, List.getElem?_take, if_pos hd, List.getElem?_drop] at hchunk
  rw [ptrOf, hindex, if_pos (Int.natCast_nonneg _), Int.toNat_natCast, hchunk,
    List.getElem?_eq_getElem (by omega)]
  simp [hh, hrow, hd]

theorem getElem?_tokenDots (val : DType → Bytes → α) (query : GroupedQuery geo α) (k : NDArray)
    (scale : α) (t : Nat) {h : Nat} (hh : h < query.rows.length) :
    (tokenDots val query.rows k geo.kvHeads geo.headDim query.ratio scale t)[h]? =
      some ((∑ d ∈ Finset.range geo.headDim, (query.rows.getD h []).getD d 0 *
        elem3 val k geo.kvHeads geo.headDim t (h / query.ratio) d) * scale) := by
  have hrow : (query.rows[h]).length = geo.headDim := query.row_length _ (List.getElem_mem hh)
  simp [tokenDots, hh, sum_zipIdx, hrow]

theorem mem_tokenDots {val : DType → Bytes → α} {query : GroupedQuery geo α} {k : NDArray} {scale : α}
    {t : Nat} {x : α} :
    x ∈ tokenDots val query.rows k geo.kvHeads geo.headDim query.ratio scale t ↔
      ∃ h < query.rows.length, (∑ d ∈ Finset.range geo.headDim,
        (query.rows.getD h []).getD d 0 *
          elem3 val k geo.kvHeads geo.headDim t (h / query.ratio) d) * scale = x := by
  rw [List.mem_iff_getElem?]
  constructor
  · rintro ⟨h, hget⟩
    have hh : h < query.rows.length := by
      obtain ⟨hlt, -⟩ := List.getElem?_eq_some_iff.mp hget
      rwa [tokenDots, List.length_map, List.length_zipIdx] at hlt
    rw [getElem?_tokenDots _ _ _ _ _ hh] at hget
    exact ⟨h, hh, Option.some.inj hget⟩
  · rintro ⟨h, hh, rfl⟩
    exact ⟨h, getElem?_tokenDots _ _ _ _ _ hh⟩

def pageProducts (query : GroupedQuery geo α) (block : KeyPage geo tokensPerBlock × Nat) : List α :=
  (((List.range tokensPerBlock).map (tokenDots (elementValue fl) query.rows block.1.array
    geo.kvHeads geo.headDim query.ratio (invSqrt geo.headDim))).take block.2).flatten

theorem pageProducts_ne (query : GroupedQuery geo α) {block : KeyPage geo tokensPerBlock × Nat}
    (hpage : 1 ≤ tokensPerBlock) (htokens : 1 ≤ block.2) :
    pageProducts fl invSqrt query block ≠ [] := by
  obtain ⟨first, rest, hdots⟩ := exists_dots (elementValue fl) block.1.array geo.kvHeads
    geo.headDim query.ratio (invSqrt geo.headDim) query.length_pos hpage htokens
  rw [pageProducts, hdots]
  exact List.cons_ne_nil first rest

variable [LinearOrder α]

/-- The NumPy path on the same, its blocks numbered by their places. -/
def plainPath (query : GroupedQuery geo α) (blocks : List (KeyPage geo tokensPerBlock × Nat))
    (topK : Nat) : Except PyErr (List (α × Nat × Nat)) :=
  scoreCandidates (elementValue fl) query.rows (blocks.zipIdx.map fun b => (b.2, b.1.2))
    (blocks.map fun b => b.1.array) topK (invSqrt geo.headDim) query.rows.length geo.kvHeads

def PathsAgree (libPath : String) (query : GroupedQuery geo α)
    (blocks : List (KeyPage geo tokensPerBlock × Nat)) (topK : Nat) : Prop :=
  ∃ out best, fastPath fl invSqrt libPath query blocks topK = some (.ok out) ∧
    plainPath fl invSqrt query blocks topK = .ok best ∧
    out.indices = best.map fun t => (t.2.1 : Int)

def maxProduct : List α → α
  | [] => 0
  | first :: rest => npMax first rest

def plainScores (query : GroupedQuery geo α) (blocks : List (KeyPage geo tokensPerBlock × Nat)) :
    List α :=
  blocks.map fun b => maxProduct (pageProducts fl invSqrt query b)

def exceedsSentinel (query : GroupedQuery geo α) (block : KeyPage geo tokensPerBlock × Nat) : Bool :=
  (pageProducts fl invSqrt query block).any fun x => decide (fl.minScore < x)

variable {fl}

/-! ## Products of a page -/

/-- What an exact product computes for a head of a token is what NumPy computes for it. -/
theorem scaledDotGqa_exact (hfl : Exact fl) {dot : Int → FloatPtr α → FloatPtr α → Option α}
    (hdot : ExactDot dot) {val : DType → Bytes → α} (query : GroupedQuery geo α)
    {key : FloatPtr α} {k : NDArray} {t h : Nat}
    (hkey : ∀ kh < geo.kvHeads, ∀ d < geo.headDim,
      key ((t : Int) * (geo.kvHeads * geo.headDim) + (kh : Int) * geo.headDim + d) =
        some (elem3 val k geo.kvHeads geo.headDim t kh d))
    (hfit : h * geo.headDim < 2 ^ 31) (hh : h < query.rows.length) (scale : α) :
    scaledDotGqa fl dot (ptrOf query.rows.flatten) key query.ratio geo.headDim scale
        ((t : Int) * (geo.kvHeads * geo.headDim)) h =
      (tokenDots val query.rows k geo.kvHeads geo.headDim query.ratio scale t)[h]? := by
  have hkh : h / query.ratio < geo.kvHeads := by
    rw [Nat.div_lt_iff_lt_mul query.ratio_pos, Nat.mul_comm, ← query.length_eq]
    exact hh
  have hsum : dot geo.headDim
      (offset (ptrOf query.rows.flatten) ((h : Int) * geo.headDim))
      (offset key ((t : Int) * (geo.kvHeads * geo.headDim) +
        ((h / query.ratio : Nat) : Int) * geo.headDim)) =
      some (∑ d ∈ Finset.range geo.headDim, (query.rows.getD h []).getD d 0 *
        elem3 val k geo.kvHeads geo.headDim t (h / query.ratio) d) :=
    hdot _ _ _ _ _ (fun d hd => ptrOf_query query hh hd) fun d hd => hkey _ hkh d hd
  rw [scaledDotGqa_natCast fl _ _ _ query.ratio_pos hfit, hsum, getElem?_tokenDots _ _ _ _ _ hh,
    Option.map_some, hfl.mul]

/-- Where the keys of some tokens can be read and no index overflows, a score is the maximum of
the sentinel and the products NumPy has for these tokens. -/
theorem scoreGqa_exact (hfl : Exact fl) {dot : Int → FloatPtr α → FloatPtr α → Option α}
    (hdot : ExactDot dot) {val : DType → Bytes → α} (query : GroupedQuery geo α)
    {key : FloatPtr α} {k : NDArray} {tokens : Nat}
    (hkey : ∀ t < tokens, ∀ kh < geo.kvHeads, ∀ d < geo.headDim,
      key ((t : Int) * (geo.kvHeads * geo.headDim) + (kh : Int) * geo.headDim + d) =
        some (elem3 val k geo.kvHeads geo.headDim t kh d))
    (hrow : geo.kvHeads * geo.headDim < 2 ^ 31)
    (htoken : ∀ t < tokens, t * (geo.kvHeads * geo.headDim) < 2 ^ 31)
    (hhead : ∀ h < query.rows.length, h * geo.headDim < 2 ^ 31) (scale : α) :
    scoreGqa fl dot (ptrOf query.rows.flatten) key query.ratio tokens query.rows.length geo.kvHeads
        geo.headDim scale =
      some (((List.range tokens).flatMap (tokenDots val query.rows k geo.kvHeads geo.headDim
        query.ratio scale)).foldl max fl.minScore) := by
  have hqueries : 0 < (query.rows.length : Int).toNat := by
    rw [Int.toNat_natCast]
    exact query.length_pos
  have hmax : better fl.lt = max := by
    rw [lt_eq hfl.lt]
    exact funext fun a => funext fun b => better_eq_max a b
  have hscores : allScores (tokens : Int).toNat (query.rows.length : Int).toNat
      (fun t => intMul (t : Int) ((geo.kvHeads * geo.headDim : Nat) : Int))
      (fun kToken h => scaledDotGqa fl dot (ptrOf query.rows.flatten) key query.ratio geo.headDim
        scale kToken h) =
      ((List.range tokens).flatMap (tokenDots val query.rows k geo.kvHeads geo.headDim
        query.ratio scale)).map some := by
    rw [allScores, List.map_flatMap, Int.toNat_natCast, Int.toNat_natCast]
    refine List.flatMap_congr fun t ht => ?_
    have ht := List.mem_range.mp ht
    have hlength : (tokenDots val query.rows k geo.kvHeads geo.headDim query.ratio scale t).length =
        query.rows.length := by
      rw [tokenDots, List.length_map, List.length_zipIdx]
    rw [intMul_natCast (htoken t ht), Int.natCast_mul, Int.natCast_mul, ← map_range_getElem?,
      hlength]
    refine List.map_congr_left fun h hh => ?_
    have hh := List.mem_range.mp hh
    exact scaledDotGqa_exact hfl hdot query (hkey t ht) (hhead h hh) hh _
  rw [scoreGqa, intMul_natCast hrow, Option.bind_eq_bind, Option.bind_some,
    bestOver_eq fl.lt hqueries, hscores, bestOf_map_some, hmax]

omit [LinearOrder α] in
theorem pageProducts_eq (query : GroupedQuery geo α)
    {block : KeyPage geo tokensPerBlock × Nat} (htokens : block.2 ≤ tokensPerBlock) :
    pageProducts fl invSqrt query block = (List.range block.2).flatMap
      (tokenDots (elementValue fl) query.rows block.1.array geo.kvHeads geo.headDim query.ratio
        (invSqrt geo.headDim)) := by
  rw [pageProducts, ← List.map_take, List.take_range, Nat.min_eq_left htokens, List.flatMap_def]

theorem computeBlockScoreGqaAvx2_page (hfl : Exact fl) {query : GroupedQuery geo α}
    {blocks : List (KeyPage geo tokensPerBlock × Nat)} (hfit : SizesFit query blocks)
    (h32 : geo.precision = .fp32) (block : KeyPage geo tokensPerBlock × Nat)
    (htokens : block.2 ≤ tokensPerBlock) :
    kernelScore fl invSqrt query block =
      some ((pageProducts fl invSqrt query block).foldl max fl.minScore) := by
  have hkv : (geo.kvHeads : Int) ≠ 0 := by exact_mod_cast geo.kvHeads_pos.ne'
  have hratio : (query.rows.length : Int).tdiv geo.kvHeads = query.ratio := by
    rw [query.length_eq, ← Int.ofNat_tdiv, Nat.mul_div_cancel _ geo.kvHeads_pos]
  rw [kernelScore, computeBlockScoreGqaAvx2, if_neg hkv, hratio,
    pageProducts_eq invSqrt query htokens]
  refine scoreGqa_exact hfl (exactDot_dotProduct hfl) query ?_ hfit.row_lt ?_ ?_ _
  · intro t ht kh hkh d hd
    exact dataAsFloats_page fl block.1 h32 (Nat.lt_of_lt_of_le ht htokens) hkh hd
  · intro t ht
    have hle := Nat.mul_le_mul_right (geo.kvHeads * geo.headDim) (Nat.le_trans (Nat.le_of_lt ht) htokens)
    exact Nat.lt_of_le_of_lt hle hfit.page_lt
  · intro h hh
    exact Nat.lt_of_le_of_lt (Nat.mul_le_mul_right _ (Nat.le_of_lt hh)) hfit.query_lt

/-! ## The maximum and the sentinel -/

theorem foldl_max_eq (start : α) {products : List α} (h : products ≠ []) :
    products.foldl max start = max start (maxProduct products) := by
  cases products with
  | nil => exact absurd rfl h
  | cons first rest => rw [List.foldl_cons, List.foldl_assoc, maxProduct, npMax]

theorem lt_maxProduct (bound : α) {products : List α} (h : products ≠ []) :
    bound < maxProduct products ↔ ∃ x ∈ products, bound < x := by
  cases products with
  | nil => exact absurd rfl h
  | cons first rest =>
      rw [maxProduct, npMax]
      clear h
      induction rest using List.reverseRecOn with
      | nil => simp
      | append_singleton rest x ih =>
          rw [List.foldl_append, List.foldl_cons, List.foldl_nil, lt_max_iff, ih]
          simp [or_and_right, exists_or, or_assoc]

omit [Field α] in
/-- Cutting scores off at the sentinel changes none of those that exceed it. -/
theorem filter_indexed_cut (scores : List α) :
    (indexed (scores.map (max fl.minScore))).filter (fun p => decide (fl.minScore < p.1)) =
      (indexed scores).filter fun p => decide (fl.minScore < p.1) := by
  have hcut : ∀ s, decide (fl.minScore < max fl.minScore s) = decide (fl.minScore < s) := by simp
  rw [indexed, indexed, List.zipIdx_map, List.map_map, List.filter_map, List.filter_map]
  have hsame : ∀ p : α × Nat, fl.minScore < p.1 → max fl.minScore p.1 = p.1 :=
    fun p hp => max_eq_right hp.le
  rw [List.filter_congr fun p _ => hcut p.1]
  refine List.map_congr_left fun p hp => ?_
  have hp := of_decide_eq_true (List.mem_filter.mp hp).2
  simp [hsame p hp]

omit [Field α] in
/-- With enough scores above the sentinel the kernel's cut list has the best entries. -/
theorem foldl_offer_enough (hlt : ∀ a b, fl.lt a b = decide (a < b)) {scores : List α} {k : Nat}
    (henough : k ≤ scores.countP fun s => decide (fl.minScore < s)) :
    (indexed (scores.map (max fl.minScore))).foldl (offer fl.lt Prod.fst)
        (List.replicate k (fl.minScore, (-1 : Int))) =
      topBy Prod.fst k (indexed scores) := by
  have hkernel : k ≤ (indexed (scores.map (max fl.minScore))).countP fun p =>
      decide (fl.minScore < p.1) := by
    rw [countP_indexed fun s => decide (fl.minScore < s), List.countP_map]
    exact henough.trans (List.countP_congr fun s _ => by simp).ge
  have hplain : k ≤ (indexed scores).countP fun p => decide (fl.minScore < p.1) :=
    henough.trans (countP_indexed (fun s => decide (fl.minScore < s)) scores).ge
  rw [lt_eq hlt, foldl_offer_eq_topBy hkernel, filter_indexed_cut, topBy_filter hplain]

/-- Scores cut off at the sentinel select what the scores themselves select exactly when enough
of them exceed it. -/
theorem indices_cut_iff (hfl : Exact fl) (scores : List α) (k : Nat) :
    ((indexed (scores.map (max fl.minScore))).foldl (offer fl.lt Prod.fst)
        (List.replicate k (fl.minScore, (-1 : Int)))).map Prod.snd =
      (topBy Prod.fst k (indexed scores)).map Prod.snd ↔
        k ≤ scores.countP fun s => decide (fl.minScore < s) := by
  have hcount : (scores.map (max fl.minScore)).countP (fl.lt fl.minScore) =
      scores.countP fun s => decide (fl.minScore < s) := by
    rw [List.countP_map, lt_eq hfl.lt]
    exact List.countP_congr fun s _ => by simp
  constructor
  · intro hsame
    by_contra hfew
    have hmem := @sentinel_mem_scan _ fl k (scores.map (max fl.minScore))
      (hcount ▸ Nat.lt_of_not_le hfew)
    rw [hsame] at hmem
    have hindex := List.map_subset Prod.snd (topBy_subperm Prod.fst k (indexed scores)).subset hmem
    rw [indexed_snd] at hindex
    simp at hindex
  · intro henough
    rw [foldl_offer_enough hfl.lt henough]

/-! ## The two paths -/

theorem plainPath_eq (query : GroupedQuery geo α)
    (blocks : List (KeyPage geo tokensPerBlock × Nat)) (topK : Nat) (hpage : 1 ≤ tokensPerBlock)
    (htokens : ∀ b ∈ blocks, 1 ≤ b.2) :
    plainPath fl invSqrt query blocks topK = .ok (topBy Prod.fst topK
      (blocks.zipIdx.map fun b => (maxProduct (pageProducts fl invSqrt query b.1), b.2, b.1.2))) := by
  have hratio : query.rows.length / geo.kvHeads = query.ratio := by
    rw [query.length_eq, Nat.mul_div_cancel _ geo.kvHeads_pos]
  have hzip : (blocks.map fun b => b.1.array).zip (blocks.zipIdx.map fun b => (b.2, b.1.2)) =
      blocks.zipIdx.map fun b => (b.1.1.array, b.2, b.1.2) := by
    have harrays : (blocks.map fun b => b.1.array) = blocks.zipIdx.map fun b => b.1.1.array := by
      conv_lhs => rw [← List.zipIdx_map_fst 0 blocks, List.map_map]
      rfl
    rw [harrays, List.zip_map']
  have hscores : ∀ b ∈ blocks.zipIdx, scoreCandidate (elementValue fl) query.rows
      (invSqrt geo.headDim) query.rows.length query.ratio (b.1.1.array, b.2, b.1.2) =
        .ok (maxProduct (pageProducts fl invSqrt query b.1), b.2, b.1.2) := by
    intro b hb
    obtain ⟨first, rest, hdots⟩ := exists_dots (elementValue fl) b.1.1.array geo.kvHeads
      geo.headDim query.ratio (invSqrt geo.headDim) query.length_pos hpage
      (htokens b.1 (List.fst_mem_of_mem_zipIdx hb))
    rw [scoreCandidate, blockMaxScore_eq (elementValue fl) b.1.1.shape_eq query.length_eq
      query.length_pos query.row_length hdots, pageProducts, hdots]
    rfl
  rw [plainPath, scoreCandidates, if_pos geo.kvHeads_pos, hratio, hzip, List.mapM_map,
    Function.comp_def, mapM_ok hscores]
  rfl

/-- The selection of the NumPy path, by places. -/
theorem indices_plainPath (query : GroupedQuery geo α)
    (blocks : List (KeyPage geo tokensPerBlock × Nat)) (topK : Nat) :
    (topBy Prod.fst topK (blocks.zipIdx.map fun b =>
        (maxProduct (pageProducts fl invSqrt query b.1), b.2, b.1.2))).map
          (fun t => (t.2.1 : Int)) =
      (topBy Prod.fst (min topK blocks.length) (indexed (plainScores fl invSqrt query blocks))).map
        Prod.snd := by
  have hindexed : indexed (plainScores fl invSqrt query blocks) =
      (blocks.zipIdx.map fun b =>
        (maxProduct (pageProducts fl invSqrt query b.1), b.2, b.1.2)).map
          fun t => (t.1, (t.2.1 : Int)) := by
    rw [indexed, plainScores, List.zipIdx_map, List.map_map, List.map_map]
    rfl
  have hlength : (indexed (plainScores fl invSqrt query blocks)).length = blocks.length := by
    simp [indexed, plainScores]
  rw [← hlength, topBy_min_length, hindexed,
    topBy_map (fun t : α × Nat × Nat => (t.1, (t.2.1 : Int))) fun _ => rfl, List.map_map]
  rfl

/-- Pages that get scored hold their tokens as floats. -/
theorem tokens_of_agree {libPath : String} {query : GroupedQuery geo α}
    {blocks : List (KeyPage geo tokensPerBlock × Nat)} (hfit : SizesFit query blocks) {topK : Nat}
    (htop : 1 ≤ topK) (htokens : ∀ b ∈ blocks, 1 ≤ b.2)
    (h : PathsAgree fl invSqrt libPath query blocks topK) :
    ∀ b ∈ blocks, 4 * b.2 ≤ tokensPerBlock * geo.npDtype.itemsize := by
  intro b hb
  obtain ⟨out, best, hfast, -, -⟩ := h
  rw [fastPath_eq fl invSqrt libPath hfit (List.length_pos_of_mem hb) htop] at hfast
  obtain ⟨arrays, hscan, -⟩ := Option.map_eq_some_iff.mp hfast
  obtain ⟨scores, hscores, -⟩ := (scanBlocks_eq_some_iff fl).mp hscan
  obtain ⟨i, hi, rfl⟩ := List.getElem_of_mem hb
  have hscore : (blocks[i]?).bind (kernelScore fl invSqrt query) ∈ scores.map some :=
    hscores ▸ List.mem_map_of_mem (List.mem_range.mpr hi)
  obtain ⟨score, -, hscore⟩ := List.mem_map.mp hscore
  rw [List.getElem?_eq_getElem hi, Option.bind_some] at hscore
  have hsome : (kernelScore fl invSqrt query blocks[i]).isSome := by
    rw [← hscore, Option.isSome_some]
  exact tokens_in_page fl invSqrt (htokens _ hb) hsome

theorem countP_plainScores (query : GroupedQuery geo α)
    {blocks : List (KeyPage geo tokensPerBlock × Nat)} (hpage : 1 ≤ tokensPerBlock)
    (htokens : ∀ b ∈ blocks, 1 ≤ b.2) :
    (plainScores fl invSqrt query blocks).countP (fun s => decide (fl.minScore < s)) =
      blocks.countP (exceedsSentinel fl invSqrt query) := by
  rw [plainScores, List.countP_map]
  refine List.countP_congr fun b hb => ?_
  have hne := pageProducts_ne fl invSqrt query hpage (htokens b hb)
  simp [exceedsSentinel, lt_maxProduct fl.minScore hne]

/-- Inside the pages the kernel selects from the scores of the plain path, cut off at the
sentinel. -/
theorem fastPath_of_fit (hfl : Exact fl) (libPath : String) {query : GroupedQuery geo α}
    {blocks : List (KeyPage geo tokensPerBlock × Nat)} (hfit : SizesFit query blocks)
    (hblocks : 0 < blocks.length) {topK : Nat} (htop : 1 ≤ topK) (h32 : geo.precision = .fp32)
    (htokens : ∀ b ∈ blocks, 1 ≤ b.2) (hpage : ∀ b ∈ blocks, b.2 ≤ tokensPerBlock) :
    fastPath fl invSqrt libPath query blocks topK = some (.ok (.ofEntries
      ((indexed ((plainScores fl invSqrt query blocks).map (max fl.minScore))).foldl
        (offer fl.lt Prod.fst)
          (List.replicate (min topK blocks.length) (fl.minScore, (-1 : Int)))))) := by
  have hscan := (@scanBlocks_eq_some_iff _ fl (min topK blocks.length) blocks.length
    (fun b => (blocks[b]?).bind (kernelScore fl invSqrt query)) _).mpr
      ⟨(plainScores fl invSqrt query blocks).map (max fl.minScore), ?_, rfl⟩
  · rw [fastPath_eq fl invSqrt libPath hfit hblocks htop, hscan, Option.map_some]
  · apply List.ext_getElem
    · simp [plainScores]
    · intro i hi _
      have hlt : i < blocks.length := by simpa using hi
      have hmem := List.getElem_mem hlt
      have hone : 1 ≤ tokensPerBlock := (htokens _ hmem).trans (hpage _ hmem)
      have hne := pageProducts_ne fl invSqrt query hone (htokens _ hmem)
      have hscore := computeBlockScoreGqaAvx2_page invSqrt hfl hfit h32 blocks[i] (hpage _ hmem)
      rw [foldl_max_eq _ hne] at hscore
      simp [plainScores, hlt, hscore]

/-- Over float32 pages the paths agree exactly when the tokens are inside the pages and enough
blocks exceed the sentinel. -/
theorem pathsAgree_float32 (hfl : Exact fl) (libPath : String) {query : GroupedQuery geo α}
    {blocks : List (KeyPage geo tokensPerBlock × Nat)} (hfit : SizesFit query blocks) {topK : Nat}
    (htop : 1 ≤ topK) (h32 : geo.precision = .fp32) (htokens : ∀ b ∈ blocks, 1 ≤ b.2) :
    PathsAgree fl invSqrt libPath query blocks topK ↔ (∀ b ∈ blocks, b.2 ≤ tokensPerBlock) ∧
      min topK blocks.length ≤ blocks.countP (exceedsSentinel fl invSqrt query) := by
  have hsize : geo.npDtype.itemsize = 4 := by
    rw [KVGeometry.npDtype, KVGeometry.bytesPerElem, h32]
    rfl
  rcases List.eq_nil_or_concat' blocks with rfl | ⟨front, last, rfl⟩
  · have hplain : plainPath fl invSqrt query ([] : List (KeyPage geo tokensPerBlock × Nat)) topK =
        .ok [] := congrArg Except.ok List.take_nil
    exact iff_of_true ⟨⟨[], []⟩, [], rfl, hplain, rfl⟩ ⟨by simp, by simp⟩
  · generalize hblocks : front ++ [last] = blocks at hfit htokens ⊢
    have hpos : 0 < blocks.length := by
      rw [← hblocks, List.length_append]
      exact Nat.succ_pos _
    have hagree : (∀ b ∈ blocks, b.2 ≤ tokensPerBlock) →
        (PathsAgree fl invSqrt libPath query blocks topK ↔
          min topK blocks.length ≤ blocks.countP (exceedsSentinel fl invSqrt query)) := by
      intro hpage
      have hone : 1 ≤ tokensPerBlock :=
        (htokens _ (List.getElem_mem hpos)).trans (hpage _ (List.getElem_mem hpos))
      rw [← countP_plainScores invSqrt query hone htokens, ← indices_cut_iff hfl,
        ← indices_plainPath]
      unfold PathsAgree
      rw [fastPath_of_fit invSqrt hfl libPath hfit hpos htop h32 htokens hpage,
        plainPath_eq invSqrt query blocks topK hone htokens]
      constructor
      · rintro ⟨out, best, hout, hbest, hsame⟩
        cases hout
        cases hbest
        exact hsame
      · intro hsame
        exact ⟨_, _, rfl, rfl, hsame⟩
    constructor
    · intro h
      have hpage : ∀ b ∈ blocks, b.2 ≤ tokensPerBlock := by
        intro b hb
        have hin := tokens_of_agree invSqrt hfit htop htokens h b hb
        rw [hsize] at hin
        omega
      exact ⟨hpage, (hagree hpage).mp h⟩
    · rintro ⟨hpage, henough⟩
      exact (hagree hpage).mpr henough

end Products

end AiSsd.NativeKernel
