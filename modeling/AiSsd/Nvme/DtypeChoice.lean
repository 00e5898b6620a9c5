import AiSsd.Nvme.StaleBuffer
import AiSsd.Storage.MissingBlocks
import Mathlib.Algebra.Order.BigOperators.Group.Finset

/-!
# Halves or floats

The backend sets a flag when it is configured for halves. The daemon also takes the pages for
halves when the first candidate is as long as 16 tokens of halves, and its choice holds for all
candidates. The backend's table has a dtype and a shape for each page, and the file-mode path
goes by these.
-/

namespace AiSsd.Nvme

open Lib Lib.LittleEndian
open NativeKernel Numpy Adapters
open Storage (BackendConfig RealInferenceStorageBackend)
open Storage.RealInferenceStorageBackend (products mem_products products_ne_nil blockMaxScore_eq_ok
  machine init tinyConfig)

/-! ## The list of a request -/

/-- A candidate with its key page: where it lies, and as what the file-mode path reads it. -/
structure ListedBlock where
  blockId : Nat
  tokens : Nat
  offset : Nat
  length : Nat
  dtype : DType
  shape : List Nat

/-- The entry of `cands_info`. -/
def ListedBlock.candidate (b : ListedBlock) : Candidate := ⟨b.offset, b.length, b.blockId, b.tokens⟩

def ListedBlock.item (b : ListedBlock) : TopkCandItem := b.candidate.item

section Table

variable {cfg : BackendConfig} (s : RealInferenceStorageBackend cfg) (layerIdx : Nat)

/-- A block with what the table has for it. One that is not stored is read as floats. -/
def listed (cand : Nat × Nat) : ListedBlock :=
  match s.storage.get? (layerIdx, cand.1) with
  | some e => ⟨cand.1, cand.2, e.kOffset, e.kSize, e.kDtype, e.kShape⟩
  | none => ⟨cand.1, cand.2, 0, 4096, float32, cfg.canonicalShape⟩

/-- `cands_info` as `compute_topk` takes it. -/
def candsInfo (candBids : List (Nat × Nat)) : List Candidate :=
  (candBids.map (s.candidateInfo layerIdx)).map fun c => ⟨c.1, c.2.1, c.2.2.1, c.2.2.2⟩

theorem candsInfo_eq (candBids : List (Nat × Nat)) :
    candsInfo s layerIdx candBids =
      (candBids.map (listed s layerIdx)).map ListedBlock.candidate := by
  simp only [candsInfo, List.map_map]
  refine List.map_congr_left fun cand _ => ?_
  unfold Function.comp Storage.RealInferenceStorageBackend.candidateInfo listed
  cases s.storage.get? (layerIdx, cand.1) <;> rfl

/-- The file-mode path reads the same bytes and decodes them as listed. -/
theorem candidateKeys_eq (cand : Nat × Nat) :
    s.candidateKeys layerIdx (s.candidateInfo layerIdx cand) =
      NDArray.decode (s.file.pread (listed s layerIdx cand).length (listed s layerIdx cand).offset)
        (listed s layerIdx cand).dtype (listed s layerIdx cand).shape := by
  unfold Storage.RealInferenceStorageBackend.candidateKeys
    Storage.RealInferenceStorageBackend.candidateInfo listed
  cases hget : s.storage.get? (layerIdx, cand.1) <;> simp only [hget]

end Table

/-- The daemon's choice for a request of the client. -/
def choice (candidates : List Candidate) (fp16 : Bool) (topK : Int) (scale : Option UInt32)
    (qHeads kvHeads headDim : Int) : Bool :=
  isFp16 (topkReq candidates fp16) (topkParams candidates topK scale qHeads kvHeads headDim)
    (candidates.map Candidate.item)

/-- The flag decides, unless the first candidate is as long as 16 tokens of halves. -/
theorem choice_eq_iff (candidates : List Candidate) (fp16 : Bool) (topK : Int)
    (scale : Option UInt32) (qHeads kvHeads headDim : Int) :
    choice candidates fp16 topK scale qHeads kvHeads headDim = fp16 ↔
      fp16 = true ∨ ∀ first ∈ candidates.head?,
        first.length.toNat ≠ 16 * kvHeads.toNat * headDim.toNat * 2 % 2 ^ 32 := by
  cases fp16 with
  | true => simp [choice, isFp16, topkReq]
  | false =>
      cases candidates with
      | nil => simp [choice, isFp16, topkReq]
      | cons first rest => simp [choice, isFp16, topkReq, topkParams, Candidate.item]

/-- The condition of `choice_eq_iff`, for the candidates of some blocks. -/
abbrev FlagDecides (geo : KVGeometry) (fp16 : Bool) (candidates : List Candidate) : Prop :=
  fp16 = true ∨ ∀ first ∈ candidates.head?,
    first.length.toNat ≠ 16 * geo.kvHeads * geo.headDim * 2 % 2 ^ 32

variable {α : Type} [Field α] [LinearOrder α] {fl : FloatOps α} {val : DType → Bytes → α}
  {geo : KVGeometry}

/-- In every run that reads the page of a block, whatever it holds, the daemon's score is the
one of the file-mode path, for every query and scale. Scores below the daemon's sentinel, which
it never reports, are left out. -/
def ScoresAsRecorded (fl : FloatOps α) (val : DType → Bytes → α) (geo : KVGeometry) (ratio : Nat)
    (fp16 : Bool) (blocks : List ListedBlock) (topK : Int) : Prop :=
  ∀ (pre : List ListedBlock) (b : ListedBlock) (post : List ListedBlock),
    blocks = pre ++ b :: post →
  ∀ (raw : Bytes) (page : NDArray), raw.length = b.length →
    NDArray.decode raw b.dtype b.shape = .ok page →
  ∀ (query : GroupedQuery geo α) (scale : UInt32) (best : α), query.ratio = ratio →
    blockMaxScore val query.rows page query.rows.length query.ratio (fl.ofBits scale.toNat)
      b.tokens = .ok best → fl.minScore ≤ best →
  ∀ (δ : Type) (g : Guest δ) (s s' : DaemonState δ), Reached g fl s →
    let cands := blocks.map ListedBlock.candidate
    let theader := topkParams cands topK (some scale) query.rows.length geo.kvHeads geo.headDim
    readUpTo g ((s.topkAlloc g theader).listAlloc g theader.effectiveK)
        (pre.map ListedBlock.item) b.item = some (raw.take b.item.itemLen, s') →
    candidateScore fl theader
      (choice cands fp16 topK (some scale) query.rows.length geo.kvHeads geo.headDim)
      query.rows.flatten s'.ioBuf b.item = some best

/-- The file-mode path has scores for the block: its page is as long as its shape says, with the
head dimension of the request and at least its KV heads, and some token counts. -/
structure Scorable (geo : KVGeometry) (b : ListedBlock) (pageTokens heads : Nat) : Prop where
  shape_eq : b.shape = [pageTokens, heads, geo.headDim]
  length_eq : b.length = pageTokens * (heads * geo.headDim) * b.dtype.itemsize
  heads_le : geo.kvHeads ≤ heads
  pageTokens_pos : 0 < pageTokens
  tokens_pos : 0 < b.tokens

/-- NumPy's elements of a dtype are as wide as the daemon's, and have their values. -/
structure DecodesAs (fl : FloatOps α) (val : DType → Bytes → α) (dtype : DType) (fp16 : Bool) :
    Prop where
  itemsize_eq : dtype.itemsize = keyWidth fp16
  value_eq : ∀ bytes : Bytes, bytes.length = dtype.itemsize →
    val dtype bytes = decodeKey fl fp16 (ofBytes bytes)

/-- What a score asks for fits the buffer, and the indices of the query an `int`. -/
structure Fits (geo : KVGeometry) (ratio : Nat) (fp16 : Bool) (b : ListedBlock) : Prop where
  buffer : b.tokens * (geo.kvHeads * geo.headDim) * keyWidth fp16 ≤ bufferSize
  qHeads : ratio * geo.kvHeads < 2 ^ 31
  query : (ratio * geo.kvHeads - 1) * geo.headDim < 2 ^ 31

/-- The page holds what is flagged, row by row where the daemon looks for it. -/
structure Readable (fl : FloatOps α) (val : DType → Bytes → α) (geo : KVGeometry) (ratio : Nat)
    (fp16 : Bool) (b : ListedBlock) (pageTokens heads : Nat) : Prop
    extends Fits geo ratio fp16 b where
  decodes : DecodesAs fl val b.dtype fp16
  rows : b.tokens = 1 ∨ heads = geo.kvHeads ∧ b.tokens ≤ pageTokens

/-! ## The score of a page -/

theorem exactDot_daemonDot (hfl : Exact fl) : ExactDot (daemonDot fl) := exactDot_daemon hfl

theorem toInt_of_lt {n : Nat} (h : n < 2 ^ 31) : toInt n = n := if_pos h

omit [Field α] [LinearOrder α] in
/-- The buffer holds the bytes of an element, so it reads as the element. -/
theorem bufferKey_elem {page : NDArray} {fp16 : Bool} (hdecodes : DecodesAs fl val page.dtype fp16)
    {buf : Nat → UInt8} {n : Nat} (hn : n ≤ page.data.length)
    (hbuf : ∀ i < n, buf i = page.data.getD i 0) {heads dim t h d : Nat}
    (hin : keyWidth fp16 * ((t * heads + h) * dim + d + 1) ≤ n) (hsize : n ≤ bufferSize) :
    bufferKey fl fp16 buf ((t : Int) * (heads * dim) + (h : Int) * dim + d) =
      some (elem3 val page heads dim t h d) := by
  have hindex : (t : Int) * (heads * dim) + (h : Int) * dim + d =
      (((t * heads + h) * dim + d : Nat) : Int) := by
    push_cast
    ring
  rw [elem3, hdecodes.itemsize_eq, hindex]
  generalize (t * heads + h) * dim + d = j at hin
  have hbytes : ((List.range (keyWidth fp16)).map fun i => buf (keyWidth fp16 * j + i)) =
      (page.data.drop (j * keyWidth fp16)).take (keyWidth fp16) := by
    rw [Nat.mul_succ] at hin
    apply List.ext_getElem
    · rw [List.length_map, List.length_range, List.length_take, List.length_drop,
        Nat.mul_comm j]
      omega
    · intro i hi _
      rw [List.length_map, List.length_range] at hi
      have hlt : keyWidth fp16 * j + i < page.data.length := by omega
      rw [List.getElem_map, List.getElem_range, hbuf _ (by omega)]
      simp [Nat.mul_comm j, hlt]
  have hcond : 0 ≤ (j : Int) ∧ (keyWidth fp16 : Int) * (j + 1) ≤ bufferSize := by
    have hle := Nat.le_trans hin hsize
    exact ⟨Int.natCast_nonneg j, by exact_mod_cast hle⟩
  rw [bufferKey_eq, loadBuf_eq, if_pos hcond, Int.toNat_natCast, hbytes, Option.map_some,
    hdecodes.value_eq _ (by
      rw [← hbytes, List.length_map, List.length_range, hdecodes.itemsize_eq])]

theorem sharing_grouped {ratio : Nat} (hratio : 0 < ratio) :
    sharing (ratio * geo.kvHeads : Nat) geo.kvHeads = ratio := by
  have hpos : 0 < ratio * geo.kvHeads := Nat.mul_pos hratio geo.kvHeads_pos
  rw [sharing_of_pos (by exact_mod_cast hpos) (by exact_mod_cast geo.kvHeads_pos),
    ← Int.natCast_div, Nat.mul_div_cancel _ geo.kvHeads_pos]

/-- The sizes of a request whose keys fit the buffer are C ints, except for the query's. -/
structure KeySizes (geo : KVGeometry) (tokens : Nat) : Prop where
  keys : tokens * (geo.kvHeads * geo.headDim) < 2 ^ 31
  row : geo.kvHeads * geo.headDim < 2 ^ 31
  kvHeads : geo.kvHeads < 2 ^ 31
  headDim : geo.headDim < 2 ^ 31
  tokens : tokens < 2 ^ 31

theorem keySizes_of_buffer {tokens : Nat} (htokens : 0 < tokens) {fp16 : Bool}
    (h : tokens * (geo.kvHeads * geo.headDim) * keyWidth fp16 ≤ bufferSize) :
    KeySizes geo tokens := by
  have hrowpos : 0 < geo.kvHeads * geo.headDim := Nat.mul_pos geo.kvHeads_pos geo.headDim_pos
  have hkeys : tokens * (geo.kvHeads * geo.headDim) < 2 ^ 31 := by
    refine Nat.lt_of_le_of_lt (Nat.le_mul_of_pos_right _ ?_) (Nat.lt_of_le_of_lt h (by decide))
    cases fp16 <;> decide
  have hrow : geo.kvHeads * geo.headDim < 2 ^ 31 :=
    Nat.lt_of_le_of_lt (Nat.le_mul_of_pos_left _ htokens) hkeys
  exact
    { keys := hkeys
      row := hrow
      kvHeads := Nat.lt_of_le_of_lt (Nat.le_mul_of_pos_right _ geo.headDim_pos) hrow
      headDim := Nat.lt_of_le_of_lt (Nat.le_mul_of_pos_left _ geo.kvHeads_pos) hrow
      tokens := Nat.lt_of_le_of_lt (Nat.le_mul_of_pos_right _ hrowpos) hkeys }

/-- The score over a buffer that holds a page is the maximum of the products of its tokens. -/
theorem scoreOn_keys (hfl : Exact fl) {b : ListedBlock} {fp16 : Bool} (htokens : 0 < b.tokens)
    (hbuffer : b.tokens * (geo.kvHeads * geo.headDim) * keyWidth fp16 ≤ bufferSize)
    (query : GroupedQuery geo α) (hheads : query.rows.length < 2 ^ 31)
    (hquery : (query.rows.length - 1) * geo.headDim < 2 ^ 31) {page : NDArray}
    {buf : Nat → UInt8}
    (hkey : ∀ t < b.tokens, ∀ kh < geo.kvHeads, ∀ d < geo.headDim,
      bufferKey fl fp16 buf
          ((t : Int) * (geo.kvHeads * geo.headDim) + (kh : Int) * geo.headDim + d) =
        some (elem3 val page geo.kvHeads geo.headDim t kh d)) (flags scale : Nat) :
    scoreOn fl ⟨flags, query.rows.length, geo.kvHeads, geo.headDim, scale⟩ query.rows.flatten
        b.item fp16 buf =
      some (((List.range b.tokens).flatMap (tokenDots val query.rows page geo.kvHeads geo.headDim
        query.ratio (fl.ofBits scale))).foldl max fl.minScore) := by
  have hsizes := keySizes_of_buffer htokens hbuffer
  have hsharing : sharing query.rows.length geo.kvHeads = query.ratio := by
    rw [query.length_eq, sharing_grouped query.ratio_pos]
  rw [scoreOn, show b.item.actualTokens = b.tokens from rfl, toInt_of_lt hsizes.tokens,
    toInt_of_lt hheads, toInt_of_lt hsizes.kvHeads, toInt_of_lt hsizes.headDim,
    blockScore_eq_scoreGqa, hsharing]
  exact scoreGqa_exact hfl (exactDot_daemonDot hfl) query hkey hsizes.row
    (fun t ht => Nat.lt_of_le_of_lt (Nat.mul_le_mul_right _ (Nat.le_of_lt ht)) hsizes.keys)
    (fun h hh => Nat.lt_of_le_of_lt (Nat.mul_le_mul_right _ (by omega)) hquery) (fl.ofBits scale)

omit [LinearOrder α] in
/-- Where the rows of a page are those of the request, so are the products of its tokens. -/
theorem products_rows {page : NDArray} {heads pageTokens tokens : Nat}
    (hrows : tokens = 1 ∨ heads = geo.kvHeads ∧ tokens ≤ pageTokens) (hpage : 0 < pageTokens)
    (query : List (List α)) (dim ratio : Nat) (scale : α) :
    products val query page heads dim ratio scale pageTokens tokens =
      (List.range tokens).flatMap (tokenDots val query page geo.kvHeads dim ratio scale) := by
  have hle : tokens ≤ pageTokens := by omega
  rw [products, ← List.map_take, List.take_range, Nat.min_eq_left hle, ← List.flatMap_def]
  refine List.flatMap_congr fun t ht => ?_
  rw [List.mem_range] at ht
  rcases hrows with hone | ⟨rfl, -⟩
  · obtain rfl : t = 0 := by omega
    simp only [tokenDots, elem3, Nat.zero_mul]
  · rfl

/-- A page in the buffer, decoded as recorded, scores what the file-mode path computes. -/
theorem scoreOn_page (hfl : Exact fl) {ratio : Nat} {fp16 : Bool} {b : ListedBlock}
    {pageTokens heads : Nat} (hb : Scorable geo b pageTokens heads)
    (hread : Readable fl val geo ratio fp16 b pageTokens heads) {page : NDArray}
    (hdtype : page.dtype = b.dtype) (hshape : page.shape = b.shape) (query : GroupedQuery geo α)
    (hratio : query.ratio = ratio) {flags scale : Nat} {best : α}
    (hbest : blockMaxScore val query.rows page query.rows.length query.ratio (fl.ofBits scale)
      b.tokens = .ok best) (hmin : fl.minScore ≤ best) {buf : Nat → UInt8}
    (hbuf : ∀ i < min page.data.length bufferSize, buf i = page.data.getD i 0) :
    scoreOn fl ⟨flags, query.rows.length, geo.kvHeads, geo.headDim, scale⟩ query.rows.flatten
      b.item fp16 buf = some best := by
  subst hratio
  have hheads := hread.qHeads
  have hquery := hread.query
  rw [← query.length_eq] at hheads hquery
  have hdecodes : DecodesAs fl val page.dtype fp16 := hdtype ▸ hread.decodes
  have hlength : page.data.length = pageTokens * (heads * geo.headDim) * keyWidth fp16 := by
    rw [page.size_eq, hshape, hb.shape_eq, hdecodes.itemsize_eq]
    simp [Nat.mul_assoc]
  have hinside : b.tokens * geo.kvHeads ≤ pageTokens * heads := by
    rcases hread.rows with hone | ⟨hsame, hle⟩
    · rw [hone, Nat.one_mul]
      exact hb.heads_le.trans (Nat.le_mul_of_pos_left _ hb.pageTokens_pos)
    · exact hsame ▸ Nat.mul_le_mul_right _ hle
  have hkey : ∀ t < b.tokens, ∀ kh < geo.kvHeads, ∀ d < geo.headDim,
      bufferKey fl fp16 buf
          ((t : Int) * (geo.kvHeads * geo.headDim) + (kh : Int) * geo.headDim + d) =
        some (elem3 val page geo.kvHeads geo.headDim t kh d) := by
    intro t ht kh hkh d hd
    have hlast : (t * geo.kvHeads + kh) * geo.headDim + d + 1 ≤
        b.tokens * geo.kvHeads * geo.headDim := elem_lt_page ht hkh hd
    have hbytes := Nat.mul_le_mul_left (keyWidth fp16) hlast
    rw [Nat.mul_comm (keyWidth _) (_ * _)] at hbytes
    refine bufferKey_elem hdecodes (Nat.min_le_left _ _) hbuf
      (Nat.le_trans hbytes (Nat.le_min.mpr ⟨?_, ?_⟩)) (Nat.min_le_right _ _)
    · rw [hlength, ← Nat.mul_assoc pageTokens]
      exact Nat.mul_le_mul_right _ (Nat.mul_le_mul_right _ hinside)
    · rw [Nat.mul_assoc b.tokens]
      exact hread.buffer
  obtain ⟨_, _, _, hthree, -, -, -, -, hne, hmax⟩ := blockMaxScore_eq_ok.mp hbest
  rw [hshape, hb.shape_eq] at hthree
  cases hthree
  rw [@products_rows α _ val geo page _ _ _ hread.rows hb.pageTokens_pos] at hne hmax
  rw [scoreOn_keys hfl hb.tokens_pos hread.buffer query hheads hquery hkey, foldl_max_eq _ hne,
    hmax, max_eq_right hmin]

theorem itemLen_eq (b : ListedBlock) : b.item.itemLen = min b.length bufferSize := by
  rw [TopkCandItem.itemLen, show b.item.length = b.length from Int.toNat_natCast _]
  split <;> omega

omit [Field α] [LinearOrder α] in
theorem candidateScore_sent {cands : List Candidate} {topK : Int} {scale : UInt32}
    {query : GroupedQuery geo α} (req : ReqHeader) (fp16 : Bool) (buf : Nat → UInt8)
    (cand : TopkCandItem) :
    candidateScore fl (topkParams cands topK (some scale) query.rows.length geo.kvHeads geo.headDim)
        fp16 query.rows.flatten buf cand =
      scoreOn fl ⟨req.flags, query.rows.length, geo.kvHeads, geo.headDim, scale.toNat⟩
        query.rows.flatten cand fp16 buf := candidateScore_eq req _ fp16 _ buf cand

theorem scorable_of_score {b : ListedBlock} {raw : Bytes} {page : NDArray}
    (hlength : raw.length = b.length) (hpage : NDArray.decode raw b.dtype b.shape = .ok page)
    {query : GroupedQuery geo α} {scale best : α}
    (hbest : blockMaxScore val query.rows page query.rows.length query.ratio scale b.tokens =
      .ok best) : ∃ pageTokens heads, Scorable geo b pageTokens heads := by
  obtain ⟨hdtype, hshape, hdata⟩ := NDArray.of_decode_eq_ok hpage
  obtain ⟨pageTokens, heads, dim, hthree, -, hheads, -, hrows, hne, -⟩ :=
    blockMaxScore_eq_ok.mp hbest
  obtain ⟨htokens, hpageTokens, hquery⟩ := products_ne_nil.mp hne
  obtain ⟨row, hrow⟩ := List.exists_mem_of_ne_nil _ hquery
  obtain rfl : geo.headDim = dim := (query.row_length row hrow).symm.trans (hrows row hrow)
  have hlast := hheads (query.rows.length - 1) (by have := query.length_pos; omega)
  refine ⟨pageTokens, heads, hshape ▸ hthree, ?_, ?_, hpageTokens, htokens⟩
  · rw [← hlength, ← hdata, page.size_eq, hthree, hdtype]
    simp [Nat.mul_assoc]
  · rw [Nat.div_lt_iff_lt_mul query.ratio_pos, query.length_eq] at hlast
    refine Nat.le_of_mul_le_mul_right (c := query.ratio) ?_ query.ratio_pos
    have hpos := query.length_pos
    rw [query.length_eq] at hpos
    rw [Nat.mul_comm geo.kvHeads]
    omega

theorem scoresAsRecorded_of_readable (hfl : Exact fl) {ratio : Nat} {fp16 : Bool}
    {blocks : List ListedBlock} {topK : Int}
    (hflag : FlagDecides geo fp16 (blocks.map ListedBlock.candidate))
    (hread : ∀ b ∈ blocks, ∀ pageTokens heads, Scorable geo b pageTokens heads →
      Readable fl val geo ratio fp16 b pageTokens heads) :
    ScoresAsRecorded fl val geo ratio fp16 blocks topK := by
  rintro pre b post rfl raw page hlength hpage query scale best hratio hbest hmin δ g s s' - cands
    theader hrun
  obtain ⟨pageTokens, heads, hb⟩ := scorable_of_score hlength hpage hbest
  obtain ⟨hdtype, hshape, hdata⟩ := NDArray.of_decode_eq_ok hpage
  have hreadable := hread b (List.mem_append_right _ (List.mem_cons_self ..)) _ _ hb
  obtain ⟨-, stale, hbuf⟩ := ioBuf_of_readUpTo hrun
  rw [(choice_eq_iff cands fp16 topK (some scale) query.rows.length geo.kvHeads
    geo.headDim).mpr hflag, candidateScore_sent (topkReq cands fp16), hbuf]
  refine scoreOn_page hfl hb hreadable hdtype hshape query hratio hbest hmin fun i hi => ?_
  have hlt : i < raw.length := hdata ▸ Nat.lt_of_lt_of_le hi (Nat.min_le_left _ _)
  rw [hdata, hlength, ← itemLen_eq] at hi
  rw [hdata]
  simp [List.getD_eq_getElem?_getD, hi, hlt]

/-! ## What the scores need -/

variable {ratio : Nat} {fp16 : Bool} {blocks : List ListedBlock} {topK : Int} {b : ListedBlock}
  {pageTokens heads : Nat}

/-- The keys of a score are the first ones of the page. -/
theorem readsKey_grouped (hratio : 0 < ratio) {tokens : Nat} {j : Int} :
    ReadsKey tokens (ratio * geo.kvHeads : Nat) geo.kvHeads geo.headDim j ↔
      0 ≤ j ∧ j.toNat < tokens * (geo.kvHeads * geo.headDim) := by
  unfold ReadsKey
  rw [sharing_grouped hratio, Int.toNat_natCast, Int.toNat_natCast, Int.toNat_natCast]
  constructor
  · rintro ⟨t, ht, h, hh, d, hd, rfl⟩
    rw [Nat.mul_comm] at hh
    have hkh : h / ratio < geo.kvHeads := (Nat.div_lt_iff_lt_mul hratio).mpr hh
    have hlt := @elem_lt_page geo tokens t (h / ratio) d ht hkh hd
    have hindex : (t : Int) * (geo.kvHeads * geo.headDim) + (h : Int) / ratio * geo.headDim + d =
        (((t * geo.kvHeads + h / ratio) * geo.headDim + d : Nat) : Int) := by
      push_cast
      ring
    rw [hindex, Int.toNat_natCast, ← Nat.mul_assoc]
    exact ⟨Int.natCast_nonneg _, hlt⟩
  · rintro ⟨hnonneg, hlt⟩
    obtain ⟨n, rfl⟩ := Int.eq_ofNat_of_zero_le hnonneg
    rw [Int.toNat_natCast] at hlt
    have hrowpos : 0 < geo.kvHeads * geo.headDim := Nat.mul_pos geo.kvHeads_pos geo.headDim_pos
    have hkh : n % (geo.kvHeads * geo.headDim) / geo.headDim < geo.kvHeads := by
      rw [Nat.div_lt_iff_lt_mul geo.headDim_pos]
      exact Nat.mod_lt _ hrowpos
    refine ⟨n / (geo.kvHeads * geo.headDim), (Nat.div_lt_iff_lt_mul hrowpos).mpr hlt,
      n % (geo.kvHeads * geo.headDim) / geo.headDim * ratio, ?_, n % geo.headDim,
      Nat.mod_lt _ geo.headDim_pos, ?_⟩
    · rw [Nat.mul_comm]
      exact Nat.mul_lt_mul_of_pos_left hkh hratio
    · rw [← Int.natCast_div, Nat.mul_div_cancel _ hratio]
      have houter := Nat.div_add_mod n (geo.kvHeads * geo.headDim)
      have hinner := Nat.div_add_mod (n % (geo.kvHeads * geo.headDim)) geo.headDim
      rw [Nat.mod_mul_left_mod] at hinner
      rw [Nat.mul_comm _ (n / _)] at houter
      rw [Nat.mul_comm _ (n % _ / _)] at hinner
      exact_mod_cast (by omega : n = n / (geo.kvHeads * geo.headDim) * (geo.kvHeads * geo.headDim) +
        n % (geo.kvHeads * geo.headDim) / geo.headDim * geo.headDim + n % geo.headDim)

/-- Some run reads given bytes over what an earlier write left. -/
theorem scoreOn_of_scores (h : ScoresAsRecorded fl val geo ratio fp16 blocks topK)
    (hflag : FlagDecides geo fp16 (blocks.map ListedBlock.candidate)) (hb : b ∈ blocks)
    {page : NDArray} (hdtype : page.dtype = b.dtype) (hshape : page.shape = b.shape)
    (hlength : page.data.length = b.length) {query : GroupedQuery geo α} {scale : UInt32} {best : α}
    (hratio : query.ratio = ratio)
    (hbest : blockMaxScore val query.rows page query.rows.length query.ratio (fl.ofBits scale.toNat)
      b.tokens = .ok best) (hmin : fl.minScore ≤ best) (stale : Bytes)
    (hstale : stale.length ≤ bufferSize) :
    scoreOn fl ⟨0, query.rows.length, geo.kvHeads, geo.headDim, scale.toNat⟩ query.rows.flatten
        b.item fp16 (fun i => (page.data.take b.item.itemLen).getD i (stale.getD i 0)) =
      some best := by
  obtain ⟨pre, post, rfl⟩ := List.append_of_mem hb
  let cands := (pre ++ b :: post).map ListedBlock.candidate
  let theader := topkParams cands topK (some scale) query.rows.length geo.kvHeads geo.headDim
  have hown : (page.data.take b.item.itemLen).length = b.item.itemLen := by
    rw [List.length_take, itemLen_eq, hlength]
    omega
  obtain ⟨s, hs, hbuf⟩ := reached_filled
    (@Reached.start Unit α (ownGuest (page.data.take b.item.itemLen)) fl ()) hstale
  obtain ⟨s', hread, hend⟩ := readUpTo_ownGuest hown
    ((s.topkAlloc (ownGuest (page.data.take b.item.itemLen)) theader).listAlloc
      (ownGuest (page.data.take b.item.itemLen)) theader.effectiveK) (pre.map ListedBlock.item)
  have hdecode : NDArray.decode page.data b.dtype b.shape = .ok page := by
    rw [← hdtype, ← hshape]
    exact page.decode_data
  have hscore := h pre b post rfl page.data page hlength hdecode query scale best hratio hbest hmin
    Unit _ s s' hs hread
  have hchoice := (choice_eq_iff cands fp16 topK (some scale) query.rows.length geo.kvHeads
    geo.headDim).mpr hflag
  have hzero : s.ioBuf = fun i => stale.getD i 0 := hbuf
  rw [hchoice, candidateScore_sent ⟨0, 0, 0, 0, 0, 0⟩, hend] at hscore
  rw [← hscore]
  congr 1
  funext i
  exact congrArg (fun buf : Nat → UInt8 => (page.data.take b.item.itemLen).getD i (buf i))
    hzero.symm

/-! ## Pages with one bit -/

/-- What NumPy makes of bytes that are zeros and ones: zero when all are zero, else a positive
number. So it reads integers, booleans and IEEE floats of either byte order. -/
def ReadsBits (val : DType → Bytes → α) (dtype : DType) : Prop :=
  ∀ bytes : Bytes, bytes.length = dtype.itemsize → (∀ x ∈ bytes, x = 0 ∨ x = 1) →
    0 ≤ val dtype bytes ∧ (0 < val dtype bytes ↔ ∃ x ∈ bytes, x ≠ 0)

/-- Zeros, with a one at `p`. -/
def bit (p i : Nat) : UInt8 := if i = p then 1 else 0

theorem bit_ne_zero {p i : Nat} : bit p i ≠ 0 ↔ i = p := by
  unfold bit
  split <;> simp [*]

theorem bit_zero_or_one (p i : Nat) : bit p i = 0 ∨ bit p i = 1 := by
  unfold bit
  split <;> simp

def bitPage (dtype : DType) (shape : List Nat) (p : Nat) : NDArray where
  dtype := dtype
  shape := shape
  data := (List.range (shape.prod * dtype.itemsize)).map (bit p)
  size_eq := by simp

/-- The buffer once the page is read over such bytes. -/
theorem getD_bitPage (dtype : DType) (shape : List Nat) (p m i : Nat) (hm : m ≤ bufferSize) :
    ((bitPage dtype shape p).data.take m).getD i
        (((List.range bufferSize).map (bit p)).getD i 0) =
      if i < bufferSize then bit p i else 0 := by
  rw [bitPage, ← List.map_take, List.take_range]
  simp only [List.getD_eq_getElem?_getD, List.getElem?_map]
  by_cases hi : i < min m (shape.prod * dtype.itemsize)
  · have hlt : i < bufferSize := by omega
    simp [List.getElem?_range hi, hlt]
  · rw [List.getElem?_eq_none (by rw [List.length_range]; omega)]
    by_cases hlt : i < bufferSize
    · simp [hlt]
    · simp [hlt]

/-- The element that holds the bit is positive, the others are zero. -/
theorem elem3_bitPage {dtype : DType} (hval : ReadsBits val dtype) {shape : List Nat}
    {heads dim t h d : Nat} (hin : (t * heads + h) * dim + d < shape.prod) (p : Nat) :
    0 ≤ elem3 val (bitPage dtype shape p) heads dim t h d ∧
      (0 < elem3 val (bitPage dtype shape p) heads dim t h d ↔
        p / dtype.itemsize = (t * heads + h) * dim + d) := by
  rw [elem3]
  generalize (t * heads + h) * dim + d = j at hin
  have hfits : (j + 1) * dtype.itemsize ≤ shape.prod * dtype.itemsize := Nat.mul_le_mul_right _ hin
  rw [Nat.succ_mul] at hfits
  have hbytes : ((bitPage dtype shape p).data.drop (j * dtype.itemsize)).take dtype.itemsize =
      (List.range dtype.itemsize).map fun i => bit p (j * dtype.itemsize + i) := by
    apply List.ext_getElem
    · simp only [bitPage, List.length_take, List.length_drop, List.length_map, List.length_range]
      omega
    · intro i hi _
      simp [bitPage]
  have hread := hval ((List.range dtype.itemsize).map fun i => bit p (j * dtype.itemsize + i))
    (by simp) (by simpa using fun i _ => bit_zero_or_one p _)
  rw [show (bitPage dtype shape p).dtype = dtype from rfl, hbytes]
  refine ⟨hread.1, hread.2.trans ?_⟩
  simp only [List.mem_map, List.mem_range, exists_exists_and_eq_and, bit_ne_zero]
  rw [Nat.div_eq_iff dtype.pos]
  have hpos := dtype.pos
  constructor
  · rintro ⟨i, hi, rfl⟩
    omega
  · intro hp
    exact ⟨p - j * dtype.itemsize, by omega, by omega⟩

def rowQuery (geo : KVGeometry) (h : 0 < ratio) (row : List α)
    (hrow : row.length = geo.headDim) : GroupedQuery geo α where
  ratio := ratio
  ratio_pos := h
  rows := List.replicate (ratio * geo.kvHeads) row
  length_eq := List.length_replicate
  row_length := by
    intro r hr
    rw [List.eq_of_mem_replicate hr, hrow]

omit [LinearOrder α] in
theorem mem_products_rowQuery (hratio : 0 < ratio) {row : List α} (hrow : row.length = geo.headDim)
    {page : NDArray} {tokens : Nat} {scale x : α} :
    x ∈ products val (rowQuery geo hratio row hrow).rows page heads geo.headDim ratio scale
        pageTokens tokens ↔
      ∃ t < min tokens pageTokens, ∃ h < ratio * geo.kvHeads, (∑ d ∈ Finset.range geo.headDim,
        row.getD d 0 * elem3 val page heads geo.headDim t (h / ratio) d) * scale = x := by
  simp only [mem_products, Storage.RealInferenceStorageBackend.mem_tokenDots, Nat.lt_min, and_assoc]
  refine exists_congr fun t => and_congr_right fun _ => and_congr_right fun _ =>
    exists_congr fun h => ?_
  rw [rowQuery, List.getElem?_replicate]
  by_cases hh : h < ratio * geo.kvHeads
  · simp [hh, hrow]
  · simp [hh]

theorem blockMaxScore_scorable (hb : Scorable geo b pageTokens heads) {page : NDArray}
    (hshape : page.shape = b.shape) (query : GroupedQuery geo α) (scale : α) :
    products val query.rows page heads geo.headDim query.ratio scale pageTokens b.tokens ≠ [] ∧
      blockMaxScore val query.rows page query.rows.length query.ratio scale b.tokens =
        .ok (maxProduct (products val query.rows page heads geo.headDim query.ratio scale pageTokens
          b.tokens)) := by
  have hquery : query.rows ≠ [] := List.length_pos_iff.mp query.length_pos
  have hne : products val query.rows page heads geo.headDim query.ratio scale pageTokens b.tokens ≠
      [] := products_ne_nil.mpr ⟨hb.tokens_pos, hb.pageTokens_pos, hquery⟩
  refine ⟨hne, blockMaxScore_eq_ok.mpr ⟨pageTokens, heads, geo.headDim, hshape.trans hb.shape_eq,
    fun hzero => absurd hzero (Nat.ne_of_gt query.ratio_pos), ?_, rfl, query.row_length, hne, rfl⟩⟩
  intro h hh
  rw [query.length_eq, Nat.mul_comm] at hh
  exact Nat.lt_of_lt_of_le ((Nat.div_lt_iff_lt_mul query.ratio_pos).mpr hh) hb.heads_le

variable [IsStrictOrderedRing α]

def onesQuery (fl : FloatOps α) (geo : KVGeometry) (h : 0 < ratio) : GroupedQuery geo α :=
  rowQuery geo h (List.replicate geo.headDim (one fl)) List.length_replicate

/-- The file-mode score of a page with one bit is not negative, and positive when the bit is in an
element that the score asks for. -/
theorem blockMaxScore_bitPage (hfl : Exact fl) (hratio : 0 < ratio)
    (hb : Scorable geo b pageTokens heads) (hval : ReadsBits val b.dtype) (p : Nat) :
    let query := onesQuery fl geo hratio
    ∃ best, blockMaxScore val query.rows (bitPage b.dtype b.shape p) query.rows.length query.ratio
        (one fl) b.tokens = .ok best ∧ 0 ≤ best ∧
      (0 < best ↔ ∃ t < min b.tokens pageTokens, ∃ c < geo.kvHeads * geo.headDim,
        p / b.dtype.itemsize = t * (heads * geo.headDim) + c) := by
  intro query
  obtain ⟨hne, hbest⟩ := @blockMaxScore_scorable α _ _ val geo b pageTokens heads hb
    (bitPage b.dtype b.shape p) rfl query (one fl)
  have hproduct : ∀ x, x ∈ products val query.rows (bitPage b.dtype b.shape p) heads geo.headDim
        query.ratio (one fl) pageTokens b.tokens ↔
      ∃ t < min b.tokens pageTokens, ∃ h < ratio * geo.kvHeads, ∑ d ∈ Finset.range geo.headDim,
        elem3 val (bitPage b.dtype b.shape p) heads geo.headDim t (h / ratio) d = x := by
    intro x
    refine (mem_products_rowQuery hratio _).trans ?_
    simp only [one_exact hfl, mul_one]
    refine exists_congr fun t => and_congr_right fun _ => exists_congr fun h =>
      and_congr_right fun _ => ?_
    have hone : ∀ d ∈ Finset.range geo.headDim,
        (List.replicate geo.headDim (1 : α)).getD d 0 = 1 := by
      intro d hd
      simp [Finset.mem_range.mp hd]
    rw [Finset.sum_congr rfl fun d hd => by rw [hone d hd, one_mul]]
  have hkv : ∀ h < ratio * geo.kvHeads, h / ratio < geo.kvHeads := by
    intro h hh
    rw [Nat.mul_comm] at hh
    exact (Nat.div_lt_iff_lt_mul hratio).mpr hh
  have helem : ∀ t < min b.tokens pageTokens, ∀ h < ratio * geo.kvHeads, ∀ d < geo.headDim,
      0 ≤ elem3 val (bitPage b.dtype b.shape p) heads geo.headDim t (h / ratio) d ∧
        (0 < elem3 val (bitPage b.dtype b.shape p) heads geo.headDim t (h / ratio) d ↔
          p / b.dtype.itemsize = (t * heads + h / ratio) * geo.headDim + d) := by
    intro t ht h hh d hd
    refine elem3_bitPage hval ?_ p
    have hin := index_lt (Nat.lt_of_lt_of_le ht (Nat.min_le_right _ _))
      (Nat.lt_of_lt_of_le (hkv h hh) hb.heads_le) hd
    simpa [hb.shape_eq, Nat.mul_assoc] using hin
  refine ⟨_, hbest, ?_, ?_⟩
  · refine le_of_forall_lt fun c hc => (lt_maxProduct c hne).mpr ?_
    obtain ⟨x, hx⟩ := List.exists_mem_of_ne_nil _ hne
    refine ⟨x, hx, ?_⟩
    obtain ⟨t, ht, h, hh, rfl⟩ := (hproduct x).mp hx
    exact hc.trans_le (Finset.sum_nonneg fun d hd => (helem t ht h hh d (Finset.mem_range.mp hd)).1)
  · rw [lt_maxProduct 0 hne]
    constructor
    · rintro ⟨x, hx, hpos⟩
      obtain ⟨t, ht, h, hh, rfl⟩ := (hproduct x).mp hx
      obtain ⟨d, hd, hpos⟩ := (Finset.sum_pos_iff_of_nonneg fun d hd =>
        (helem t ht h hh d (Finset.mem_range.mp hd)).1).mp hpos
      rw [Finset.mem_range] at hd
      refine ⟨t, ht, h / ratio * geo.headDim + d, ?_, ?_⟩
      · calc h / ratio * geo.headDim + d < (h / ratio + 1) * geo.headDim := by
              rw [Nat.succ_mul]; omega
          _ ≤ geo.kvHeads * geo.headDim := Nat.mul_le_mul_right _ (hkv h hh)
      · rw [(helem t ht h hh d hd).2.mp hpos]
        ring
    · rintro ⟨t, ht, c, hc, hp⟩
      have hh : c / geo.headDim * ratio < ratio * geo.kvHeads := by
        rw [Nat.mul_comm]
        exact Nat.mul_lt_mul_of_pos_left ((Nat.div_lt_iff_lt_mul geo.headDim_pos).mpr hc) hratio
      have hd : c % geo.headDim < geo.headDim := Nat.mod_lt _ geo.headDim_pos
      refine ⟨_, (hproduct _).mpr ⟨t, ht, _, hh, rfl⟩, (Finset.sum_pos_iff_of_nonneg fun d hd =>
        (helem t ht _ hh d (Finset.mem_range.mp hd)).1).mpr ⟨_, Finset.mem_range.mpr hd, ?_⟩⟩
      rw [(helem t ht _ hh _ hd).2, hp, Nat.mul_div_cancel _ hratio]
      have hsplit := Nat.div_add_mod c geo.headDim
      calc t * (heads * geo.headDim) + c =
            t * (heads * geo.headDim) + (geo.headDim * (c / geo.headDim) + c % geo.headDim) := by
              rw [hsplit]
        _ = (t * heads + c / geo.headDim) * geo.headDim + c % geo.headDim := by ring

/-- A page with one bit, read over a buffer with the same bit, is scored as recorded. -/
theorem scoreOn_bitPage (hfl : Exact fl) (hratio : 0 < ratio)
    (h : ScoresAsRecorded fl val geo ratio fp16 blocks topK)
    (hflag : FlagDecides geo fp16 (blocks.map ListedBlock.candidate)) (hmem : b ∈ blocks)
    (hb : Scorable geo b pageTokens heads) (hval : ReadsBits val b.dtype) (p : Nat) :
    ∃ best, (0 < best ↔ ∃ t < min b.tokens pageTokens, ∃ c < geo.kvHeads * geo.headDim,
        p / b.dtype.itemsize = t * (heads * geo.headDim) + c) ∧
      scoreOn fl ⟨0, ratio * geo.kvHeads, geo.kvHeads, geo.headDim, 0x3F800000⟩
        (List.replicate (ratio * geo.kvHeads * geo.headDim) (one fl)) b.item fp16
        (fun i => if i < bufferSize then bit p i else 0) = some best := by
  obtain ⟨best, hbest, hnonneg, hpos⟩ := blockMaxScore_bitPage hfl hratio hb hval p
  have hscale : fl.ofBits (0x3F800000 : UInt32).toNat = one fl := rfl
  have hlength : (bitPage b.dtype b.shape p).data.length = b.length := by
    rw [(bitPage b.dtype b.shape p).size_eq, hb.length_eq]
    simp [bitPage, hb.shape_eq]
  have hrun := scoreOn_of_scores h hflag hmem rfl rfl hlength rfl (hscale.symm ▸ hbest)
    ((minScore_neg hfl).le.trans hnonneg) ((List.range bufferSize).map (bit p)) (by simp)
  simp only [getD_bitPage _ _ _ _ _ (itemLen_le _)] at hrun
  have hflat : (onesQuery fl geo hratio).rows.flatten =
      List.replicate (ratio * geo.kvHeads * geo.headDim) (one fl) := by
    simp [onesQuery, rowQuery]
  rw [hflat, (onesQuery fl geo hratio).length_eq] at hrun
  exact ⟨best, hpos, hrun⟩

theorem lt_of_toInt_pos {n : Nat} (h : 0 < toInt n) (hn : n < 2 ^ 32) : n < 2 ^ 31 := by
  by_contra hlarge
  rw [toInt, if_neg hlarge] at h
  omega

/-- A bit that the daemon finds shows that its sizes are not negative. -/
theorem fits_of_scores (hfl : Exact fl) (hratio : 0 < ratio)
    (h : ScoresAsRecorded fl val geo ratio fp16 blocks topK)
    (hflag : FlagDecides geo fp16 (blocks.map ListedBlock.candidate)) (hmem : b ∈ blocks)
    (hb : Scorable geo b pageTokens heads) (hval : ReadsBits val b.dtype)
    (htokens : b.tokens < 2 ^ 32) (hheads : ratio * geo.kvHeads < 2 ^ 32)
    (hdim : geo.headDim < 2 ^ 32) :
    Fits geo ratio fp16 b ∧ ∀ p,
      (∃ t < min b.tokens pageTokens, ∃ c < geo.kvHeads * geo.headDim,
        p / b.dtype.itemsize = t * (heads * geo.headDim) + c) ↔
      p / keyWidth fp16 < b.tokens * (geo.kvHeads * geo.headDim) := by
  have hruns := scoreOn_bitPage hfl hratio h hflag hmem hb hval
  have haddr : Addressable fp16 (ratio * geo.kvHeads * geo.headDim) (toInt b.item.actualTokens)
      (toInt (ratio * geo.kvHeads)) (toInt geo.kvHeads) (toInt geo.headDim) := by
    obtain ⟨best, -, hbest⟩ := hruns 0
    have hsome := Option.isSome_of_eq_some hbest
    rwa [scoreOn, isSome_blockScore, List.length_replicate] at hsome
  have hbits : ∀ p i, (if i < bufferSize then bit p i else 0) = 0 ∨
      (if i < bufferSize then bit p i else 0) = 1 := by
    intro p i
    split
    · exact bit_zero_or_one p i
    · exact .inl rfl
  have hreads : ∀ p, (∃ t < min b.tokens pageTokens, ∃ c < geo.kvHeads * geo.headDim,
        p / b.dtype.itemsize = t * (heads * geo.headDim) + c) ↔
      ∃ j, ReadsKey (toInt b.tokens) (toInt (ratio * geo.kvHeads)) (toInt geo.kvHeads)
        (toInt geo.headDim) j ∧ ∃ i < keyWidth fp16, keyWidth fp16 * j.toNat + i = p := by
    intro p
    obtain ⟨best, hpos, hbest⟩ := hruns p
    rw [← hpos, ← pos_exact hfl, pos_scoreOn_ones (keepsSigns_of_exact hfl) haddr (hbits p) hbest]
    refine exists_congr fun j => and_congr_right fun hj => exists_congr fun i =>
      and_congr_right fun hi => ?_
    have hin := haddr.key hj
    have hlt : keyWidth fp16 * j.toNat + i < bufferSize := by
      cases fp16 <;> simp only [keyWidth_halves, keyWidth_floats] at hi hin ⊢ <;> omega
    rw [if_pos hlt, bit_ne_zero]
  -- the first element of the page is one that the file-mode path asks for
  obtain ⟨_, ⟨_, ht, _, hq, _, hd, -⟩, -⟩ := (hreads 0).mp ⟨0, by
    have := hb.tokens_pos; have := hb.pageTokens_pos; omega, 0,
    Nat.mul_pos geo.kvHeads_pos geo.headDim_pos, by simp⟩
  have htokens := lt_of_toInt_pos (by omega) htokens
  have hheads := lt_of_toInt_pos (by omega) hheads
  have hdim := lt_of_toInt_pos (by omega) hdim
  have hkv : geo.kvHeads < 2 ^ 31 := Nat.lt_of_le_of_lt (Nat.le_mul_of_pos_left _ hratio) hheads
  rw [toInt_of_lt htokens, toInt_of_lt hheads, toInt_of_lt hkv, toInt_of_lt hdim] at hreads
  rw [show b.item.actualTokens = b.tokens from rfl, toInt_of_lt htokens, toInt_of_lt hheads,
    toInt_of_lt hkv, toInt_of_lt hdim] at haddr
  have hqueries : 0 < ratio * geo.kvHeads := Nat.mul_pos hratio geo.kvHeads_pos
  have htokensPos := hb.tokens_pos
  have hkeys : 0 < b.tokens * (geo.kvHeads * geo.headDim) :=
    Nat.mul_pos htokensPos (Nat.mul_pos geo.kvHeads_pos geo.headDim_pos)
  refine ⟨⟨?_, hheads, ?_⟩, fun p => (hreads p).trans ?_⟩
  · have hlast := (haddr.key ((readsKey_grouped hratio).mpr
      ⟨Int.natCast_nonneg (b.tokens * (geo.kvHeads * geo.headDim) - 1), by omega⟩)).2
    cases fp16 <;> simp only [keyWidth_halves, keyWidth_floats] at hlast ⊢ <;> omega
  · have hfits := ((haddr.2 0 (by omega)).2 (ratio * geo.kvHeads - 1) (by omega)).2.1.2
    rw [← Int.natCast_mul] at hfits
    omega
  · simp only [readsKey_grouped hratio]
    constructor
    · rintro ⟨j, ⟨-, hj⟩, i, hi, rfl⟩
      rwa [Nat.mul_add_div (by omega), Nat.div_eq_of_lt hi, Nat.add_zero]
    · intro hp
      have hwidth : 0 < keyWidth fp16 := by cases fp16 <;> decide
      exact ⟨(p / keyWidth fp16 : Nat), ⟨Int.natCast_nonneg _, hp⟩, p % keyWidth fp16,
        Nat.mod_lt _ hwidth, Nat.div_add_mod p _⟩

/-! ## Whose bits both paths find -/

section Places

variable {tokens row keys width width' : Nat}

/-- A byte that the file-mode path does not ask for follows the ones it does. -/
theorem width_le_of_same (hkeys : 0 < keys) (hrow : keys ≤ row) (htokens : 0 < tokens)
    (hpage : 0 < pageTokens) (hwidth : 0 < width)
    (hsame : ∀ p, (∃ t < min tokens pageTokens, ∃ c < keys, p / width = t * row + c) ↔
      p / width' < tokens * keys) : width' ≤ width := by
  by_contra hlt
  push Not at hlt
  -- the first element behind the keys of a token, or of all of them where they are whole rows
  obtain ⟨n, hpos, hle, hfree⟩ : ∃ n, 0 < n ∧ n ≤ tokens * keys ∧
      ∀ t < min tokens pageTokens, ∀ c < keys, n ≠ t * row + c := by
    rcases Nat.lt_or_ge keys row with hgap | hwhole
    · refine ⟨keys, hkeys, Nat.le_mul_of_pos_left _ htokens, fun t ht c hc heq => ?_⟩
      rcases Nat.eq_zero_or_pos t with rfl | hpos
      · omega
      · have hle := Nat.le_mul_of_pos_left row hpos
        omega
    · obtain rfl : row = keys := by omega
      refine ⟨min tokens pageTokens * row, Nat.mul_pos (by omega) hkeys,
        Nat.mul_le_mul_right _ (Nat.min_le_left _ _), fun t ht c hc heq => ?_⟩
      have hnext := Nat.mul_le_mul_right row (Nat.succ_le_of_lt ht)
      rw [Nat.succ_mul] at hnext
      omega
  have hnot : ¬ n * width / width' < tokens * keys := by
    rw [← hsame, Nat.mul_div_cancel _ hwidth]
    rintro ⟨t, ht, c, hc, heq⟩
    exact hfree t ht c hc heq
  refine hnot (Nat.lt_of_lt_of_le ?_ hle)
  rw [Nat.div_lt_iff_lt_mul (by omega)]
  exact Nat.mul_lt_mul_of_pos_left hlt hpos

/-- Where the elements are as wide, the rows are the same unless there is only one. -/
theorem rows_of_same (hkeys : 0 < keys) (hrow : keys ≤ row) (htokens : 0 < tokens)
    (hsame : ∀ q, (∃ t < min tokens pageTokens, ∃ c < keys, q = t * row + c) ↔ q < tokens * keys) :
    tokens = 1 ∨ row = keys ∧ tokens ≤ pageTokens := by
  rcases Nat.lt_or_ge 1 tokens with hmany | hone
  · right
    -- the first key of the second token, and the last one
    have hsecond : keys < tokens * keys := (Nat.lt_mul_iff_one_lt_left hkeys).mpr hmany
    obtain ⟨t, ht, c, hc, hfirst⟩ := (hsame keys).mpr hsecond
    have hrowEq : row = keys := by
      rcases Nat.eq_zero_or_pos t with rfl | hpos
      · omega
      · have hle := Nat.le_mul_of_pos_left row hpos
        omega
    subst hrowEq
    refine ⟨rfl, ?_⟩
    obtain ⟨t, ht, c, hc, hlast⟩ := (hsame (tokens * row - 1)).mpr (by omega)
    have hnext := Nat.succ_mul t row
    exact Nat.le_trans (Nat.le_of_mul_le_mul_right (c := row) (by omega) hkeys)
      (Nat.le_trans ht (Nat.min_le_right _ _))
  · exact .inl (by omega)

end Places

/-! ## Pages of one element -/

def filledPage (dtype : DType) (shape : List Nat) (e : Bytes) (he : e.length = dtype.itemsize) :
    NDArray where
  dtype := dtype
  shape := shape
  data := (List.replicate shape.prod e).flatten
  size_eq := by rw [List.length_flatten, List.map_replicate, List.sum_replicate, he, nsmul_eq_mul,
    Nat.cast_id]

theorem chunk_filledPage (dtype : DType) (shape : List Nat) {e : Bytes}
    (he : e.length = dtype.itemsize) {j : Nat} (hj : j < shape.prod) :
    ((filledPage dtype shape e he).data.drop (j * dtype.itemsize)).take dtype.itemsize = e := by
  have hchunk := @chunk_flatten UInt8 dtype.itemsize (List.replicate shape.prod e)
    (fun xs hxs => by rw [List.eq_of_mem_replicate hxs, he]) j (by rwa [List.length_replicate])
  rwa [List.getElem_replicate] at hchunk

def keyDtype (fp16 : Bool) : DType := if fp16 then float16 else float32

omit [Field α] [LinearOrder α] in
theorem decodesAs_keyDtype (fl : FloatOps α) (fp16 : Bool) :
    DecodesAs fl (elementValue fl) (keyDtype fp16) fp16 := by
  cases fp16
  · exact ⟨rfl, fun bytes _ => if_neg (by decide)⟩
  · exact ⟨rfl, fun bytes _ => if_pos rfl⟩

/-- The row that takes a multiple of the first element. -/
def axisRow (dim : Nat) (c : α) : List α := c :: List.replicate (dim - 1) 0

omit [LinearOrder α] [IsStrictOrderedRing α] in
theorem sum_axisRow {dim : Nat} (hdim : 0 < dim) (c : α) (f : Nat → α) :
    ∑ d ∈ Finset.range dim, (axisRow dim c).getD d 0 * f d = c * f 0 := by
  rw [Finset.sum_eq_single_of_mem 0 (Finset.mem_range.mpr hdim)]
  · rfl
  · intro d _ hd
    obtain ⟨d, rfl⟩ := Nat.exists_eq_succ_of_ne_zero hd
    rw [axisRow, List.getD_cons_succ]
    rw [List.getD_eq_getElem?_getD, List.getElem?_replicate]
    split <;> simp

omit [LinearOrder α] [IsStrictOrderedRing α] in
theorem length_axisRow {dim : Nat} (hdim : 0 < dim) (c : α) : (axisRow dim c).length = dim := by
  rw [axisRow, List.length_cons, List.length_replicate]
  omega

def axisQuery (geo : KVGeometry) (h : 0 < ratio) (c : α) : GroupedQuery geo α :=
  rowQuery geo h (axisRow geo.headDim c) (length_axisRow geo.headDim_pos c)

omit [IsStrictOrderedRing α] in
theorem maxProduct_mem {xs : List α} (h : xs ≠ []) : maxProduct xs ∈ xs := by
  cases xs with
  | nil => exact absurd rfl h
  | cons first rest => exact npMax_mem first rest

omit [IsStrictOrderedRing α] in
theorem blockMaxScore_filledPage (hfl : Exact fl) (hratio : 0 < ratio)
    (hb : Scorable geo b pageTokens heads) {e : Bytes} (he : e.length = b.dtype.itemsize) (c : α) :
    let query := axisQuery geo hratio c
    blockMaxScore val query.rows (filledPage b.dtype b.shape e he) query.rows.length query.ratio
      (one fl) b.tokens = .ok (c * val b.dtype e) := by
  intro query
  obtain ⟨hne, hbest⟩ := @blockMaxScore_scorable α _ _ val geo b pageTokens heads hb
    (filledPage b.dtype b.shape e he) rfl query (one fl)
  rw [hbest, Except.ok.injEq]
  have hmem : _ ∈ products val (rowQuery geo hratio _ (length_axisRow geo.headDim_pos c)).rows
      (filledPage b.dtype b.shape e he) heads geo.headDim ratio (one fl) pageTokens b.tokens :=
    maxProduct_mem hne
  obtain ⟨t, ht, h, hh, heq⟩ := (mem_products_rowQuery hratio _).mp hmem
  have hkv : h / ratio < heads := by
    rw [Nat.mul_comm] at hh
    exact Nat.lt_of_lt_of_le ((Nat.div_lt_iff_lt_mul hratio).mpr hh) hb.heads_le
  have hin : (t * heads + h / ratio) * geo.headDim + 0 < b.shape.prod := by
    have hlt := index_lt (Nat.lt_of_lt_of_le ht (Nat.min_le_right _ _)) hkv geo.headDim_pos
    simpa [hb.shape_eq, Nat.mul_assoc] using hlt
  have helem : elem3 val (filledPage b.dtype b.shape e he) heads geo.headDim t (h / ratio) 0 =
      val b.dtype e := congrArg (val b.dtype) (chunk_filledPage b.dtype b.shape he hin)
  rw [sum_axisRow geo.headDim_pos, helem] at heq
  exact heq.symm.trans (by rw [one_exact hfl, mul_one])

omit [IsStrictOrderedRing α] in
/-- The daemon's score is at least a multiple of what it makes of the first bytes. -/
theorem le_scoreOn_axisQuery (hfl : Exact fl) (hratio : 0 < ratio) (htokens : 0 < b.tokens)
    (hfits : Fits geo ratio fp16 b) (c : α) {best : α} {buf : Nat → UInt8}
    (h : scoreOn fl ⟨0, ratio * geo.kvHeads, geo.kvHeads, geo.headDim, 0x3F800000⟩
      (axisQuery geo hratio c).rows.flatten b.item fp16 buf = some best) :
    c * decodeKey fl fp16 (ofBytes ((List.range (keyWidth fp16)).map buf)) ≤ best := by
  let keys := b.tokens * (geo.kvHeads * geo.headDim)
  -- the keys as an array of the daemon's dtype
  let view : NDArray :=
    { dtype := keyDtype fp16
      shape := [b.tokens, geo.kvHeads, geo.headDim]
      data := (List.range (keys * keyWidth fp16)).map buf
      size_eq := by
        rw [List.length_map, List.length_range, (decodesAs_keyDtype fl fp16).itemsize_eq]
        simp [keys, Nat.mul_assoc] }
  have hkey : ∀ t < b.tokens, ∀ kh < geo.kvHeads, ∀ d < geo.headDim,
      bufferKey fl fp16 buf
          ((t : Int) * (geo.kvHeads * geo.headDim) + (kh : Int) * geo.headDim + d) =
        some (elem3 (elementValue fl) view geo.kvHeads geo.headDim t kh d) := by
    intro t ht kh hkh d hd
    refine @bufferKey_elem α fl (elementValue fl) view fp16 (decodesAs_keyDtype fl fp16) buf
      (keys * keyWidth fp16) (by simp [view]) (fun i hi => by simp [view, hi]) _ _ _ _ _ ?_
      hfits.buffer
    have hlast := Nat.mul_le_mul_right (keyWidth fp16) (elem_lt_page ht hkh hd)
    rw [Nat.mul_comm (keyWidth fp16)]
    simpa [keys, Nat.mul_assoc] using hlast
  have hlength : (axisQuery geo hratio c).rows.length = ratio * geo.kvHeads :=
    (axisQuery geo hratio c).length_eq
  have hscore := scoreOn_keys hfl htokens hfits.buffer (axisQuery geo hratio c)
    (hlength ▸ hfits.qHeads) (hlength ▸ hfits.query) hkey 0 0x3F800000
  have hfirst : elem3 (elementValue fl) view geo.kvHeads geo.headDim 0 (0 / ratio) 0 =
      decodeKey fl fp16 (ofBytes ((List.range (keyWidth fp16)).map buf)) := by
    have hbytes : (view.data.drop 0).take (keyWidth fp16) =
        (List.range (keyWidth fp16)).map buf := by
      have hkeys : 0 < keys := Nat.mul_pos htokens (Nat.mul_pos geo.kvHeads_pos geo.headDim_pos)
      rw [List.drop_zero, ← List.map_take, List.take_range,
        Nat.min_eq_left (Nat.le_mul_of_pos_left _ hkeys)]
    have hitem : view.dtype.itemsize = keyWidth fp16 := (decodesAs_keyDtype fl fp16).itemsize_eq
    simp only [elem3, Nat.zero_mul, Nat.zero_div, Nat.add_zero, hitem, hbytes]
    exact (decodesAs_keyDtype fl fp16).value_eq _ (by
      rw [List.length_map, List.length_range, (decodesAs_keyDtype fl fp16).itemsize_eq])
  have hmem : c * decodeKey fl fp16 (ofBytes ((List.range (keyWidth fp16)).map buf)) ∈
      (List.range b.tokens).flatMap (tokenDots (elementValue fl) (axisQuery geo hratio c).rows view
        geo.kvHeads geo.headDim ratio (fl.ofBits 0x3F800000)) := by
    have hrow : (axisQuery geo hratio c).rows.getD 0 [] = axisRow geo.headDim c := by
      have hpos : 0 < ratio * geo.kvHeads := Nat.mul_pos hratio geo.kvHeads_pos
      simp [axisQuery, rowQuery, hpos]
    refine List.mem_flatMap.mpr ⟨0, List.mem_range.mpr htokens, NativeKernel.mem_tokenDots.mpr
      ⟨0, (axisQuery geo hratio c).length_pos, ?_⟩⟩
    rw [hrow, sum_axisRow geo.headDim_pos]
    refine (congrArg (c * · * _) hfirst).trans ?_
    exact (congrArg _ (one_exact hfl)).trans (mul_one _)
  rw [hlength] at hscore
  obtain rfl := Option.some.inj (h.symm.trans hscore)
  have hne := List.ne_nil_of_mem hmem
  refine le_of_le_of_eq (le_max_of_le_right ?_) (foldl_max_eq fl.minScore hne).symm
  exact le_of_not_gt fun hlt => lt_irrefl _ ((lt_maxProduct _ hne).mpr ⟨_, hmem, hlt⟩)

/-- Multiples of either sign make both paths read the same number. -/
theorem value_of_scores (hfl : Exact fl) (hratio : 0 < ratio)
    (h : ScoresAsRecorded fl val geo ratio fp16 blocks topK)
    (hflag : FlagDecides geo fp16 (blocks.map ListedBlock.candidate)) (hmem : b ∈ blocks)
    (hb : Scorable geo b pageTokens heads) (hfits : Fits geo ratio fp16 b)
    (hwidth : keyWidth fp16 ≤ b.dtype.itemsize) {e : Bytes} (he : e.length = b.dtype.itemsize) :
    val b.dtype e = decodeKey fl fp16 (ofBytes (e.take (keyWidth fp16))) := by
  let page := filledPage b.dtype b.shape e he
  have hprod : 0 < b.shape.prod := by
    have hrow : 0 < heads * geo.headDim :=
      Nat.mul_pos (Nat.lt_of_lt_of_le geo.kvHeads_pos hb.heads_le) geo.headDim_pos
    simpa [hb.shape_eq] using Nat.mul_pos hb.pageTokens_pos hrow
  have hlength : page.data.length = b.length := by
    rw [page.size_eq, hb.length_eq, show page.shape = b.shape from rfl, hb.shape_eq]
    simp [page, filledPage]
  have hpage : b.dtype.itemsize ≤ b.length := by
    rw [← hlength, page.size_eq]
    exact Nat.le_mul_of_pos_left _ hprod
  have hfirst : page.data.take b.dtype.itemsize = e := by
    simpa using chunk_filledPage b.dtype b.shape he hprod
  have hkeyWidth : keyWidth fp16 ≤ b.item.itemLen := by
    rw [itemLen_eq, Nat.le_min]
    refine ⟨Nat.le_trans hwidth hpage, Nat.le_trans ?_ hfits.buffer⟩
    exact Nat.le_mul_of_pos_left _ (Nat.mul_pos hb.tokens_pos
      (Nat.mul_pos geo.kvHeads_pos geo.headDim_pos))
  have hbytes : ((List.range (keyWidth fp16)).map fun i =>
      (page.data.take b.item.itemLen).getD i (([] : Bytes).getD i 0)) = e.take (keyWidth fp16) := by
    rw [← hfirst]
    apply List.ext_getElem
    · simp only [List.length_map, List.length_range, List.length_take, hlength]
      omega
    · intro i hi _
      rw [List.length_map, List.length_range] at hi
      have hlt : i < page.data.length := by omega
      simp [List.getD_eq_getElem?_getD, hlt, Nat.lt_of_lt_of_le hi hkeyWidth]
  have hle : ∀ c : α, fl.minScore ≤ c * val b.dtype e →
      c * decodeKey fl fp16 (ofBytes (e.take (keyWidth fp16))) ≤ c * val b.dtype e := by
    intro c hc
    let query := axisQuery geo hratio c
    have hbest : blockMaxScore val query.rows page query.rows.length query.ratio
        (fl.ofBits (0x3F800000 : UInt32).toNat) b.tokens = .ok (c * val b.dtype e) :=
      blockMaxScore_filledPage hfl hratio hb he c
    have hrun := scoreOn_of_scores h hflag hmem rfl rfl hlength rfl hbest hc [] (Nat.zero_le _)
    rw [(axisQuery geo hratio c).length_eq] at hrun
    have hbound := le_scoreOn_axisQuery hfl hratio hb.tokens_pos hfits c hrun
    rwa [hbytes] at hbound
  have hmin := minScore_neg hfl
  have hpos : 0 < |val b.dtype e| + 1 := by positivity
  have hm : 0 < -fl.minScore / (|val b.dtype e| + 1) := div_pos (neg_pos.mpr hmin) hpos
  have hsmall : -fl.minScore / (|val b.dtype e| + 1) * |val b.dtype e| ≤ -fl.minScore := by
    rw [div_mul_eq_mul_div, div_le_iff₀ hpos]
    exact mul_le_mul_of_nonneg_left (le_add_of_nonneg_right zero_le_one) (neg_nonneg.mpr hmin.le)
  generalize -fl.minScore / (|val b.dtype e| + 1) = m at hm hsmall
  have habs : |m * val b.dtype e| ≤ -fl.minScore := by
    rwa [abs_mul, abs_of_pos hm]
  have habs := abs_le.mp habs
  have hup := hle m (by linarith [habs.1])
  have hdown := hle (-m) (by linarith [habs.2])
  rw [neg_mul, neg_mul, neg_le_neg_iff] at hdown
  exact le_antisymm (le_of_mul_le_mul_left hdown hm) (le_of_mul_le_mul_left hup hm)

/-- An element as narrow as the daemon's is all it reads, else a bit behind its first bytes is
lost. -/
theorem decodesAs_of_values (hfl : Exact fl) {dtype : DType} (hval : ReadsBits val dtype)
    (hwidth : keyWidth fp16 ≤ dtype.itemsize)
    (hvalue : ∀ e : Bytes, e.length = dtype.itemsize →
      val dtype e = decodeKey fl fp16 (ofBytes (e.take (keyWidth fp16)))) :
    DecodesAs fl val dtype fp16 := by
  have hitem : dtype.itemsize = keyWidth fp16 := by
    by_contra hne
    let e : Bytes := (List.range dtype.itemsize).map (bit (keyWidth fp16))
    have he : e.length = dtype.itemsize := by rw [List.length_map, List.length_range]
    have hbit := hval e he (by simpa [e] using fun i _ => bit_zero_or_one _ i)
    have hpos : 0 < val dtype e :=
      hbit.2.mpr ⟨1, List.mem_map.mpr ⟨keyWidth fp16, List.mem_range.mpr (by omega), if_pos rfl⟩,
        by decide⟩
    have hzero : ∀ x ∈ e.take (keyWidth fp16), x = 0 := by
      intro x hx
      rw [← List.map_take, List.take_range, Nat.min_eq_left hwidth] at hx
      obtain ⟨i, hi, rfl⟩ := List.mem_map.mp hx
      exact if_neg (List.mem_range.mp hi).ne
    obtain ⟨hlt, hread⟩ := ofBytes_bits fun x hx => .inl (hzero x hx)
    rw [List.length_take, he, Nat.min_eq_left hwidth] at hlt
    rw [hvalue e he, ← pos_exact hfl, (signed_decodeKey (keepsSigns_of_exact hfl) hlt).2,
      hread] at hpos
    obtain ⟨x, hx, hset⟩ := hpos
    exact hset (hzero x hx)
  refine ⟨hitem, fun e he => ?_⟩
  rw [hvalue e he, List.take_of_length_le (by omega)]

theorem readable_of_scores (hfl : Exact fl) (hratio : 0 < ratio)
    (h : ScoresAsRecorded fl val geo ratio fp16 blocks topK)
    (hflag : FlagDecides geo fp16 (blocks.map ListedBlock.candidate)) (hmem : b ∈ blocks)
    (hb : Scorable geo b pageTokens heads) (hval : ReadsBits val b.dtype)
    (htokens : b.tokens < 2 ^ 32) (hheads : ratio * geo.kvHeads < 2 ^ 32)
    (hdim : geo.headDim < 2 ^ 32) : Readable fl val geo ratio fp16 b pageTokens heads := by
  obtain ⟨hfits, hsame⟩ := fits_of_scores hfl hratio h hflag hmem hb hval htokens hheads hdim
  have hkeys : 0 < geo.kvHeads * geo.headDim := Nat.mul_pos geo.kvHeads_pos geo.headDim_pos
  have hrow : geo.kvHeads * geo.headDim ≤ heads * geo.headDim := Nat.mul_le_mul_right _ hb.heads_le
  have hwidth := width_le_of_same hkeys hrow hb.tokens_pos hb.pageTokens_pos b.dtype.pos hsame
  have hdecodes := decodesAs_of_values hfl hval hwidth fun e he =>
    value_of_scores hfl hratio h hflag hmem hb hfits hwidth he
  refine { toFits := hfits, decodes := hdecodes, rows := ?_ }
  have hplaces : b.tokens = 1 ∨
      heads * geo.headDim = geo.kvHeads * geo.headDim ∧ b.tokens ≤ pageTokens := by
    refine rows_of_same hkeys hrow hb.tokens_pos fun q => ?_
    have hq := hsame (q * b.dtype.itemsize)
    rwa [← hdecodes.itemsize_eq, Nat.mul_div_cancel _ b.dtype.pos] at hq
  exact hplaces.imp_right fun hrows => ⟨Nat.eq_of_mul_eq_mul_right geo.headDim_pos hrows.1, hrows.2⟩

/-- The daemon takes the pages for halves exactly as flagged unless, without the flag, the first
candidate is as long as 16 tokens of halves. It does so and scores every page of the backend's
table as the file-mode path does, which decodes the listed bytes by the recorded dtype and shape,
exactly when, besides, NumPy reads in each page that can be scored what is flagged and the daemon
finds its tokens. -/
theorem decodes_as_flagged_iff (hfl : Exact fl) {cfg : BackendConfig}
    (s : RealInferenceStorageBackend cfg) (layerIdx : Nat) (candBids : List (Nat × Nat))
    (geo : KVGeometry) {ratio : Nat} (hratio : 0 < ratio) (fp16 : Bool) (topK : Int)
    (scale : UInt32) (hval : ∀ cand ∈ candBids, ReadsBits val (listed s layerIdx cand).dtype)
    {query : List UInt32} {bs : Bytes}
    (hsent : (Call.computeTopk query (candsInfo s layerIdx candBids) topK (some scale)
      (ratio * geo.kvHeads : Nat) geo.kvHeads geo.headDim fp16).Sends bs) :
    (∀ candidates : List Candidate,
      choice candidates fp16 topK (some scale) (ratio * geo.kvHeads : Nat) geo.kvHeads geo.headDim =
        fp16 ↔ FlagDecides geo fp16 candidates) ∧
    (∀ cand ∈ candBids, s.candidateKeys layerIdx (s.candidateInfo layerIdx cand) =
      NDArray.decode (s.file.pread (listed s layerIdx cand).length (listed s layerIdx cand).offset)
        (listed s layerIdx cand).dtype (listed s layerIdx cand).shape) ∧
    (choice (candsInfo s layerIdx candBids) fp16 topK (some scale) (ratio * geo.kvHeads : Nat)
          geo.kvHeads geo.headDim = fp16 ∧
        ScoresAsRecorded fl val geo ratio fp16 (candBids.map (listed s layerIdx)) topK ↔
      FlagDecides geo fp16 (candsInfo s layerIdx candBids) ∧
        ∀ cand ∈ candBids, ∀ pageTokens heads,
          Scorable geo (listed s layerIdx cand) pageTokens heads →
            Readable fl val geo ratio fp16 (listed s layerIdx cand) pageTokens heads) := by
  have hchoice : ∀ candidates : List Candidate,
      choice candidates fp16 topK (some scale) (ratio * geo.kvHeads : Nat) geo.kvHeads geo.headDim =
        fp16 ↔ FlagDecides geo fp16 candidates :=
    fun candidates => choice_eq_iff candidates fp16 topK (some scale) _ geo.kvHeads geo.headDim
  refine ⟨hchoice, fun cand _ => candidateKeys_eq s layerIdx cand, ?_⟩
  obtain ⟨-, _, _, records, -, hhdr, hrecords, -⟩ := computeTopk_sends.mp hsent
  obtain ⟨_, _, hints, -⟩ := packTopkHeader_eq_ok.mp hhdr
  obtain ⟨hsizes, -⟩ := structPack_eq_ok.mp hints
  simp only [inRange_cons] at hsizes
  rw [hchoice, candsInfo_eq]
  rw [candsInfo_eq] at hrecords
  refine and_congr_right fun hflag =>
    ⟨fun hscores cand hcand pageTokens heads hb => ?_, fun hread => ?_⟩
  · have hmem : listed s layerIdx cand ∈ candBids.map (listed s layerIdx) :=
      List.mem_map_of_mem hcand
    have hrange := inRange_of_packed hrecords _ (List.mem_map_of_mem hmem)
    simp only [inRange_cons, ListedBlock.candidate] at hrange
    exact readable_of_scores hfl hratio hscores hflag hmem hb (hval cand hcand) (by omega)
      (by omega) (by omega)
  · refine scoresAsRecorded_of_readable hfl hflag fun b hb pageTokens heads hscorable => ?_
    obtain ⟨cand, hcand, rfl⟩ := List.mem_map.mp hb
    exact hread cand hcand pageTokens heads hscorable

theorem readsBits_keyDtype (hfl : Exact fl) (fp16 : Bool) :
    ReadsBits (elementValue fl) (keyDtype fp16) := by
  intro bytes hlength hbits
  rw [(decodesAs_keyDtype fl fp16).value_eq bytes hlength]
  obtain ⟨hlt, hpos⟩ := ofBytes_bits hbits
  rw [hlength, (decodesAs_keyDtype fl fp16).itemsize_eq] at hlt
  obtain ⟨hsign, hset⟩ := signed_decodeKey (keepsSigns_of_exact hfl) hlt
  rw [pos_exact hfl, hpos] at hset
  refine ⟨?_, hset⟩
  rcases hsign with hzero | hpositive
  · rw [hzero, hfl.zero]
  · exact ((pos_exact hfl _).mp hpositive).le

def oneFloatStored : RealInferenceStorageBackend tinyConfig :=
  (machine tinyConfig (elementValue rationalOps) none).exec init
    [.write 0 7 (Storage.RealInferenceStorageBackend.oneFloat 1)
      (Storage.RealInferenceStorageBackend.oneFloat 2) 0 0]

theorem decodes_as_flagged_iff_float :
    ScoresAsRecorded rationalOps (elementValue rationalOps) ⟨1, 1, .fp32, by decide, by decide⟩ 1
      false [listed oneFloatStored 0 (7, 1)] 1 := by
  have hcands : candsInfo oneFloatStored 0 [(7, 1)] = [⟨0, 4, 7, 1⟩] := by decide +kernel
  have hsent : ∃ bs, (Call.computeTopk [0x3F800000] [⟨0, 4, 7, 1⟩] 1 (some 0x3F800000) 1 1 1
      false).Sends bs := ⟨_, rfl⟩
  obtain ⟨bs, hsent⟩ := hsent
  rw [← hcands] at hsent
  have hbits : ∀ cand ∈ [(7, 1)],
      ReadsBits (elementValue rationalOps) (listed oneFloatStored 0 cand).dtype := by
    intro cand hcand
    obtain rfl := List.mem_singleton.mp hcand
    exact readsBits_keyDtype exact_rationalOps false
  have hiff := (decodes_as_flagged_iff exact_rationalOps oneFloatStored 0 [(7, 1)]
    ⟨1, 1, .fp32, by decide, by decide⟩ (show 0 < 1 by decide) false 1 0x3F800000 hbits hsent).2.2
  refine (hiff.mpr ⟨.inr (by decide), ?_⟩).2
  rintro cand hcand pageTokens heads -
  obtain rfl := List.mem_singleton.mp hcand
  exact
    { buffer := by decide
      qHeads := by decide
      query := by decide
      decodes := decodesAs_keyDtype rationalOps false
      rows := .inl rfl }

/-- The page of the eight floats 1, 0, 0 and so on is as long as 16 halves, of which the first
is 0. Without the flag the daemon scores 0 where the file-mode path scores 1. -/
theorem float_page_taken_for_halves :
    let page : NDArray := ⟨float32, [8, 1, 1], [0, 0, 0x80, 0x3F] ++ List.replicate 28 0, rfl⟩
    let s := (machine { tinyConfig with tokensPerBlock := 8 } (elementValue rationalOps)
      none).exec init [.write 0 7 page page 0 0]
    let cands := candsInfo s 0 [(7, 1)]
    let taken := choice cands false 1 (some 0x3F800000) 1 1 1
    taken = true ∧
      ((s.candidateKeys 0 (s.candidateInfo 0 (7, 1))).bind fun k =>
        blockMaxScore (elementValue rationalOps) [[1]] k 1 1 1 1) = .ok 1 ∧
      (readUpTo fileGuest (connected s.file).daemon [] ⟨0, 32, 7, 1⟩).map
        (fun r => candidateScore rationalOps (topkParams cands 1 (some 0x3F800000) 1 1 1) taken [1]
          r.2.ioBuf ⟨0, 32, 7, 1⟩) = some (some 0) := by
  decide +kernel

end AiSsd.Nvme
