import AiSsd.NativeKernel.FastPath

/-!
# Pages of halves

The kernel takes two halves of a float16 page for one float. Pages filled with one half that is
an ordinary number then read as floats below the sentinel, so nothing is selected.
-/

namespace AiSsd.NativeKernel

open Lib Lib.LittleEndian Numpy Adapters
open Nvme (FloatOps intMul)

variable {geo : KVGeometry} {tokensPerBlock : Nat} {α : Type}

/-! ## Constant pages and queries -/

def lowBytes (n : Nat) : Bytes := (List.replicate n [0x80, 0xF1]).flatten

theorem length_lowBytes (n : Nat) : (lowBytes n).length = 2 * n := by
  rw [lowBytes, List.length_flatten, List.map_replicate, List.sum_replicate]
  exact Nat.mul_comm n 2

theorem drop_lowBytes (n i : Nat) : (lowBytes n).drop (2 * i) = lowBytes (n - i) := by
  induction i generalizing n with
  | zero => rfl
  | succ i ih =>
      cases n with
      | zero => simp [lowBytes]
      | succ n =>
          rw [Nat.add_sub_add_right, ← ih]
          rfl

theorem lowBytes_add (m k : Nat) : lowBytes (m + k) = lowBytes m ++ lowBytes k := by
  rw [lowBytes, List.replicate_add, List.flatten_append]
  rfl

theorem take_drop_lowBytes {n i m : Nat} (h : i + m ≤ n) :
    ((lowBytes n).drop (2 * i)).take (2 * m) = lowBytes m := by
  obtain ⟨k, rfl⟩ := Nat.exists_eq_add_of_le h
  rw [drop_lowBytes, Nat.add_assoc, Nat.add_sub_cancel_left, lowBytes_add,
    List.take_append_of_le_length (by rw [length_lowBytes]),
    List.take_of_length_le (by rw [length_lowBytes])]

theorem npDtype_of_fp16 (h16 : geo.precision = .fp16) : geo.npDtype = float16 := by
  rw [KVGeometry.npDtype, KVGeometry.bytesPerElem, h16]
  rfl

def lowRow (h16 : geo.precision = .fp16) : TokenRow geo where
  bytes := lowBytes (geo.kvHeads * geo.headDim)
  length_eq := by
    rw [length_lowBytes, KVGeometry.rowBytes, npDtype_of_fp16 h16]
    exact Nat.mul_comm 2 _

theorem rowsBytes_lowRow (h16 : geo.precision = .fp16) (n : Nat) :
    rowsBytes (List.replicate n (lowRow h16)) = lowBytes (n * (geo.kvHeads * geo.headDim)) := by
  induction n with
  | zero => rw [Nat.zero_mul]; rfl
  | succ n ih =>
      rw [List.replicate_succ, rowsBytes, List.map_cons, List.flatten_cons, ← rowsBytes, ih,
        Nat.succ_mul, Nat.add_comm (n * _), lowBytes_add, lowRow]

def lowPage (h16 : geo.precision = .fp16) (tokensPerBlock : Nat) : KeyPage geo tokensPerBlock :=
  .ofRows tokensPerBlock (List.replicate tokensPerBlock (lowRow h16))

theorem lowPage_data (h16 : geo.precision = .fp16) (tokensPerBlock : Nat) :
    (lowPage h16 tokensPerBlock).array.data =
      lowBytes (tokensPerBlock * (geo.kvHeads * geo.headDim)) := by
  have hfit : (List.replicate tokensPerBlock (lowRow h16)).length ≤ tokensPerBlock :=
    Nat.le_of_eq List.length_replicate
  rw [lowPage, KeyPage.ofRows, blockArray_data hfit, length_rowsBytes, List.length_replicate,
    Nat.sub_self, List.replicate_zero, List.append_nil, rowsBytes_lowRow]

def constQuery (query : GroupedQuery geo α) (c : α) : GroupedQuery geo α where
  ratio := query.ratio
  ratio_pos := query.ratio_pos
  rows := List.replicate query.rows.length (List.replicate geo.headDim c)
  length_eq := by rw [List.length_replicate, query.length_eq]
  row_length := by
    intro row hrow
    rw [List.eq_of_mem_replicate hrow, List.length_replicate]

theorem mem_flatten_constQuery {query : GroupedQuery geo α} {c x : α}
    (h : x ∈ (constQuery query c).rows.flatten) : x = c := by
  obtain ⟨row, hrow, hx⟩ := List.mem_flatten.mp h
  rw [List.eq_of_mem_replicate hrow] at hx
  exact List.eq_of_mem_replicate hx

/-! ## What each path reads -/

variable (fl : FloatOps α)

theorem ptrOf_constQuery {query : GroupedQuery geo α} {c x : α} {i : Int}
    (h : ptrOf (constQuery query c).rows.flatten i = some x) : x = c := by
  unfold ptrOf at h
  split at h
  · exact mem_flatten_constQuery (List.mem_of_getElem? h)
  · cases h

theorem dataAsFloats_lowBytes {n : Nat} {i : Int} {x : α}
    (h : dataAsFloats fl (lowBytes n) i = some x) : x = fl.ofBits 0xF180F180 := by
  unfold dataAsFloats at h
  split at h
  · rename_i hin
    rw [length_lowBytes] at hin
    have hread := @take_drop_lowBytes n (2 * i.toNat) 2 (by omega)
    have hindex : 2 * (2 * i.toNat) = 4 * i.toNat := by omega
    rw [hindex] at hread
    rw [hread] at h
    exact (Option.some.inj h).symm
  · cases h

theorem elem3_lowPage (h16 : geo.precision = .fp16) {t h d : Nat} (ht : t < tokensPerBlock)
    (hh : h < geo.kvHeads) (hd : d < geo.headDim) :
    elem3 (elementValue fl) (lowPage h16 tokensPerBlock).array geo.kvHeads geo.headDim t h d =
      fl.ofHalf 0xF180 := by
  have hdtype : (lowPage h16 tokensPerBlock).array.dtype = float16 := npDtype_of_fp16 h16
  have hin : (t * geo.kvHeads + h) * geo.headDim + d + 1 ≤
      tokensPerBlock * geo.kvHeads * geo.headDim := elem_lt_page ht hh hd
  have hread := take_drop_lowBytes hin
  rw [Nat.mul_assoc tokensPerBlock, ← lowPage_data h16, Nat.mul_comm 2, Nat.mul_comm 2] at hread
  rw [elem3, hdtype, elementValue, if_pos rfl]
  exact congrArg (fun bytes => fl.ofHalf (ofBytes bytes)) hread

/-! ## What each path computes -/

variable {fl} [Field α]

/-- The number that makes every product of a head with a constant head that constant. -/
theorem sum_const_mul {hd : Nat} (hhd : (hd : α) ≠ 0) {scale : α} (hscale : scale ≠ 0) (v : α) :
    (∑ _d ∈ Finset.range hd, (scale * hd)⁻¹ * v) * scale = v := by
  rw [Finset.sum_const, Finset.card_range, nsmul_eq_mul]
  field_simp

variable [LinearOrder α] (invSqrt : Int → α)

theorem dotProduct_const (hfl : Exact fl) {headDim : Nat} {q k : FloatPtr α} {a b dot : α}
    (hq : ∀ i x, q i = some x → x = a) (hk : ∀ i x, k i = some x → x = b)
    (h : dotProduct fl headDim q k = some dot) : dot = ∑ _d ∈ Finset.range headDim, a * b := by
  have hreads := (readsHeads_dotProduct fl headDim q k).mp (h ▸ Option.isSome_some)
  have ha : ∀ d < (headDim : Int).toNat, q (d : Int) = some a := by
    intro d hd
    obtain ⟨x, hx⟩ := Option.isSome_iff_exists.mp (hreads d hd).1
    rw [hx, hq _ _ hx]
  have hb : ∀ d < (headDim : Int).toNat, k (d : Int) = some b := by
    intro d hd
    obtain ⟨x, hx⟩ := Option.isSome_iff_exists.mp (hreads d hd).2
    rw [hx, hk _ _ hx]
  have hexact := exactDot_dotProduct hfl _ _ _ _ _ ha hb
  rw [h] at hexact
  exact Option.some.inj hexact

/-- Every product the kernel has is the float it took for two halves. -/
theorem scaledDotGqa_lowPage (hfl : Exact fl) (query : GroupedQuery geo α)
    (hhd : (geo.headDim : α) ≠ 0) {scale : α} (hscale : scale ≠ 0)
    (hfit : query.rows.length * geo.headDim < 2 ^ 31) (n : Nat) (kToken : Int) {h : Nat}
    (hh : h < query.rows.length) {x : α}
    (hx : scaledDotGqa fl (dotProduct fl)
      (ptrOf (constQuery query (scale * geo.headDim)⁻¹).rows.flatten)
      (dataAsFloats fl (lowBytes n)) query.ratio geo.headDim scale kToken h = some x) :
    x = fl.ofBits 0xF180F180 := by
  have hqVec : h * geo.headDim < 2 ^ 31 :=
    Nat.lt_of_le_of_lt (Nat.mul_le_mul_right _ (Nat.le_of_lt hh)) hfit
  rw [scaledDotGqa_natCast fl _ _ _ query.ratio_pos hqVec] at hx
  obtain ⟨dot, hdot, rfl⟩ := Option.map_eq_some_iff.mp hx
  rw [hfl.mul, dotProduct_const hfl (fun _ _ h => ptrOf_constQuery h)
    (fun _ _ h => dataAsFloats_lowBytes fl h) hdot]
  exact sum_const_mul hhd hscale _

variable [IsStrictOrderedRing α]

/-- The query whose products with constant pages are the constants. -/
def unitQuery (query : GroupedQuery geo α) : GroupedQuery geo α :=
  constQuery query (invSqrt geo.headDim * geo.headDim)⁻¹

theorem cast_headDim_ne : (geo.headDim : α) ≠ 0 := Nat.cast_ne_zero.mpr geo.headDim_pos.ne'

/-- No page of these halves beats the sentinel. -/
theorem kernelScore_lowPage (hfl : Exact fl) (h16 : geo.precision = .fp16)
    (query : GroupedQuery geo α) (hscale : invSqrt geo.headDim ≠ 0)
    (hfit : query.rows.length * geo.headDim < 2 ^ 31) {tokens : Nat} {score : α}
    (h : kernelScore fl invSqrt (unitQuery invSqrt query)
      ((lowPage h16 tokensPerBlock, tokens) : KeyPage geo tokensPerBlock × Nat) = some score) :
    fl.lt fl.minScore score = false := by
  have hlow : fl.lt fl.minScore (fl.ofBits 0xF180F180) = false := by
    have hle : single 0xF180F180 ≤ single 0xF149F2CA := by decide +kernel
    rw [hfl.lt, FloatOps.minScore, hfl.ofBits, hfl.ofBits]
    exact decide_eq_false (not_lt.mpr (Rat.cast_le.mpr hle))
  have hlength : (unitQuery invSqrt query).rows.length = query.rows.length :=
    List.length_replicate
  have hqueries : 0 < ((unitQuery invSqrt query).rows.length : Int) := by
    rw [hlength]
    exact_mod_cast query.length_pos
  have hratio : ((unitQuery invSqrt query).rows.length : Int).tdiv geo.kvHeads = query.ratio := by
    rw [hlength, query.length_eq, ← Int.ofNat_tdiv, Nat.mul_div_cancel _ geo.kvHeads_pos]
  rw [kernelScore] at h
  rw [lt_computeBlockScoreGqaAvx2 hfl.strictLt hqueries h, blockProductsGqa, hratio, lowPage_data,
    someAbove, List.any_eq_false]
  intro x hx
  obtain ⟨t, -, j, hj, rfl⟩ := mem_allScores.mp hx
  rw [hlength, Int.toNat_natCast] at hj
  rw [Bool.not_eq_true, Option.any_eq_false]
  intro product hproduct
  obtain ⟨kToken, -, hproduct⟩ := Option.bind_eq_some_iff.mp hproduct
  rw [scaledDotGqa_lowPage hfl query cast_headDim_ne hscale hfit _ kToken hj hproduct, hlow]

/-- Every page of these halves beats it on the plain path. -/
theorem exceedsSentinel_lowPage (hfl : Exact fl) (h16 : geo.precision = .fp16)
    (query : GroupedQuery geo α) (hscale : invSqrt geo.headDim ≠ 0) (hpage : 1 ≤ tokensPerBlock)
    {tokens : Nat} (htokens : 1 ≤ tokens) :
    exceedsSentinel fl invSqrt (unitQuery invSqrt query)
      ((lowPage h16 tokensPerBlock, tokens) : KeyPage geo tokensPerBlock × Nat) = true := by
  have hhigh : fl.minScore < fl.ofHalf 0xF180 := by
    have hlt : single 0xF149F2CA < half 0xF180 := by decide +kernel
    rw [FloatOps.minScore, hfl.ofBits, hfl.ofHalf]
    exact Rat.cast_lt.mpr hlt
  have hqueries : 0 < (unitQuery invSqrt query).rows.length := (unitQuery invSqrt query).length_pos
  have hkey : 0 / (unitQuery invSqrt query).ratio < geo.kvHeads := by
    rw [Nat.zero_div]
    exact geo.kvHeads_pos
  have helem : ∀ d < geo.headDim, ((unitQuery invSqrt query).rows.getD 0 []).getD d 0 *
      elem3 (elementValue fl) (lowPage h16 tokensPerBlock).array geo.kvHeads geo.headDim 0
        (0 / (unitQuery invSqrt query).ratio) d =
      (invSqrt geo.headDim * geo.headDim)⁻¹ * fl.ofHalf 0xF180 := by
    intro d hd
    have hquery : 0 < query.rows.length := query.length_pos
    rw [elem3_lowPage fl h16 hpage hkey hd]
    simp [unitQuery, constQuery, hquery, hd]
  have hfirst := getElem?_tokenDots (elementValue fl) (unitQuery invSqrt query)
    (lowPage h16 tokensPerBlock).array (invSqrt geo.headDim) 0 hqueries
  rw [Finset.sum_congr rfl fun d hd => helem d (Finset.mem_range.mp hd),
    sum_const_mul cast_headDim_ne hscale] at hfirst
  obtain ⟨m, rfl⟩ := Nat.exists_eq_add_of_le' htokens
  obtain ⟨n, rfl⟩ := Nat.exists_eq_add_of_le' hpage
  rw [exceedsSentinel, pageProducts, List.range_succ_eq_map, List.map_cons, List.take_succ_cons,
    List.flatten_cons, List.any_append, Bool.or_eq_true]
  left
  exact List.any_eq_true.mpr ⟨_, List.mem_of_getElem? hfirst, decide_eq_true hhigh⟩

theorem not_agree_lowPage (hfl : Exact fl) (libPath : String) (h16 : geo.precision = .fp16)
    {query : GroupedQuery geo α} {blocks : List (KeyPage geo tokensPerBlock × Nat)}
    (hfit : SizesFit query blocks) {topK : Nat} (htop : 1 ≤ topK) (hblocks : 0 < blocks.length)
    (hscale : invSqrt geo.headDim ≠ 0) :
    ¬ PathsAgree fl invSqrt libPath (unitQuery invSqrt query)
      (blocks.map fun b => (lowPage h16 tokensPerBlock, b.2)) topK := by
  have hlength : (unitQuery invSqrt query).rows.length = query.rows.length :=
    List.length_replicate
  have hsame : SizesFit (unitQuery invSqrt query)
      (blocks.map fun b => (lowPage h16 tokensPerBlock, b.2)) :=
    { blocks_lt := by
        rw [List.length_map]
        exact hfit.blocks_lt
      tokens_lt := by
        intro b hb
        obtain ⟨old, hold, rfl⟩ := List.mem_map.mp hb
        exact hfit.tokens_lt old hold
      query_lt := by
        rw [hlength]
        exact hfit.query_lt
      row_lt := hfit.row_lt
      page_lt := hfit.page_lt }
  rintro ⟨out, best, hfast, -, hout⟩
  rw [fastPath_eq fl invSqrt libPath hsame (by rwa [List.length_map]) htop] at hfast
  obtain ⟨arrays, hscan, harrays⟩ := Option.map_eq_some_iff.mp hfast
  cases harrays
  obtain ⟨scores, hscores, rfl⟩ := (scanBlocks_eq_some_iff fl).mp hscan
  have hnone : scores.countP (fl.lt fl.minScore) = 0 := by
    rw [List.countP_eq_zero]
    intro score hscore
    have hmem : some score ∈ scores.map some := List.mem_map_of_mem hscore
    rw [← hscores] at hmem
    obtain ⟨i, -, hi⟩ := List.mem_map.mp hmem
    obtain ⟨b, hb, hi⟩ := Option.bind_eq_some_iff.mp hi
    obtain ⟨old, -, rfl⟩ := List.mem_map.mp (List.mem_of_getElem? hb)
    rw [kernelScore_lowPage invSqrt hfl h16 query hscale hfit.query_lt hi]
    decide
  have hfew : scores.countP (fl.lt fl.minScore) < min topK
      (blocks.map fun b => (lowPage h16 tokensPerBlock, b.2)).length := by
    rw [hnone, List.length_map]
    exact Nat.lt_min.mpr ⟨htop, hblocks⟩
  have hmem : (-1 : Int) ∈ best.map fun t => (t.2.1 : Int) := by
    rw [← hout]
    exact sentinel_mem_scan hfew
  obtain ⟨item, -, hitem⟩ := List.mem_map.mp hmem
  omega

/-! ## When the paths agree -/

/-- The kernel selects the blocks of the plain path: over float32 pages, in exact arithmetic,
exactly when the tokens are inside the pages and enough blocks have a product above the
sentinel. Over float16 pages it needs twice the room for its tokens, and pages and queries of
every layout make it fail with every product above the sentinel. -/
theorem paths_agree_iff (hfl : Exact fl) (libPath : String) (query : GroupedQuery geo α)
    (blocks : List (KeyPage geo tokensPerBlock × Nat)) (topK : Nat) (hfit : SizesFit query blocks)
    (htop : 1 ≤ topK) (htokens : ∀ b ∈ blocks, 1 ≤ b.2) :
    (geo.precision = .fp32 →
      (PathsAgree fl invSqrt libPath query blocks topK ↔ (∀ b ∈ blocks, b.2 ≤ tokensPerBlock) ∧
        min topK blocks.length ≤ blocks.countP (exceedsSentinel fl invSqrt query))) ∧
    (geo.precision = .fp16 →
      (PathsAgree fl invSqrt libPath query blocks topK → ∀ b ∈ blocks, 2 * b.2 ≤ tokensPerBlock) ∧
      (0 < blocks.length → 1 ≤ tokensPerBlock → invSqrt geo.headDim ≠ 0 →
        ∃ (row : TokenRow geo) (other : GroupedQuery geo α), other.ratio = query.ratio ∧
          let stored := blocks.map fun b =>
            (KeyPage.ofRows tokensPerBlock (List.replicate tokensPerBlock row), b.2)
          (∀ b ∈ stored, exceedsSentinel fl invSqrt other b) ∧
            ¬ PathsAgree fl invSqrt libPath other stored topK)) := by
  refine ⟨fun h32 => pathsAgree_float32 invSqrt hfl libPath hfit htop h32 htokens, fun h16 =>
    ⟨fun hagree b hb => ?_, fun hblocks hpage hscale => ?_⟩⟩
  · have hin := tokens_of_agree invSqrt hfit htop htokens hagree b hb
    rw [npDtype_of_fp16 h16] at hin
    change 4 * b.2 ≤ tokensPerBlock * 2 at hin
    omega
  · refine ⟨lowRow h16, unitQuery invSqrt query, rfl, fun b hb => ?_,
      not_agree_lowPage invSqrt hfl libPath h16 hfit htop hblocks hscale⟩
    obtain ⟨old, hold, rfl⟩ := List.mem_map.mp hb
    exact exceedsSentinel_lowPage invSqrt hfl h16 query hscale hpage (htokens old hold)

/-- A float32 page whose float is 1. -/
theorem paths_agree_iff_one_page :
    PathsAgree rationalOps (fun _ => 1) ""
      (⟨1, by decide, [[1]], rfl, by decide⟩ : GroupedQuery ⟨1, 1, .fp32, by decide, by decide⟩ ℚ)
      [((⟨⟨float32, [1, 1, 1], [0, 0, 128, 63], rfl⟩, rfl, rfl⟩ :
        KeyPage ⟨1, 1, .fp32, by decide, by decide⟩ 1), 1)] 1 :=
  ((paths_agree_iff (fun _ => 1) exact_rationalOps "" _ _ 1
    ⟨by decide, by decide, by decide, by decide, by decide⟩ (by decide) (by decide)).1 rfl).mpr
      (by decide +kernel)

/-- Of the halves 1 and 0 and the halves 1/2 and 1 the kernel takes the second pair for the
larger float, where the first tokens are 1 and 1/2. -/
theorem half_pages_misread :
    ¬ PathsAgree rationalOps (fun _ => 1) ""
      (⟨1, by decide, [[1]], rfl, by decide⟩ : GroupedQuery ⟨1, 1, .fp16, by decide, by decide⟩ ℚ)
      [((⟨⟨float16, [2, 1, 1], [0, 0x3C, 0, 0], rfl⟩, rfl, rfl⟩ :
          KeyPage ⟨1, 1, .fp16, by decide, by decide⟩ 2), 1),
        (⟨⟨float16, [2, 1, 1], [0, 0x38, 0, 0x3C], rfl⟩, rfl, rfl⟩, 1)] 1 := by
  rintro ⟨out, best, hfast, hplain, hout⟩
  have hfastPath : some (Except.ok out) =
      (some (.ok ⟨[1], [single 0x3C003800]⟩) : Option (Except PyErr (TopArrays ℚ))) :=
    hfast.symm.trans (by decide +kernel)
  have hplainPath : Except.ok best = .ok [(1, 0, 1)] := hplain.symm.trans (by decide +kernel)
  cases hfastPath
  cases hplainPath
  exact absurd hout (by decide)

end AiSsd.NativeKernel
