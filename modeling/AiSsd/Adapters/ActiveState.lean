import AiSsd.Adapters.ProviderRuns
import AiSsd.Storage.InferenceContract
import Mathlib.Algebra.Field.Rat
import Mathlib.Algebra.Order.Ring.Rat
import Mathlib.Data.List.Flatten

/-!
# The active state

Positions in the history say which tokens a layer holds and which a selection returns:
those of the sink, those of some candidate blocks by ascending id, those of the recent
window. They increase strictly, so K and V come back in temporal order, none twice.
-/

namespace AiSsd.Adapters

open Lib Numpy Storage

universe u v

variable {geo : KVGeometry}

/-! ## Positions -/

/-- The positions of candidate block `c`, a block id and its tokens. -/
def blockPositions (start tokensPerBlock : Nat) (c : Nat × Nat) : List Nat :=
  List.range' (start + c.1 * tokensPerBlock) c.2

/-- The positions of sink, some blocks and recent window in a history of `len` tokens. -/
def activePositions (tokensPerBlock len sinkStop recentStart : Nat) (blocks : List (Nat × Nat)) :
    List Nat :=
  List.range' 0 sinkStop ++ blocks.flatMap (blockPositions sinkStop tokensPerBlock) ++
    List.range' recentStart (len - recentStart)

/-- Each place of a layer holds the tokens at its positions: the sink from 0, the blocks
one after the other from where the sink stops, the recent window to the end. -/
structure HoldsPositions (A : Astype) (content : Nat × Nat → Option (NDArray × NDArray))
    (l : Nat) (ld : LayerData geo) (tokens : List (KVToken geo))
    (tokensPerBlock sinkStop recentStart : Nat) : Prop where
  sinkK : ld.sinkK = (atPositions tokens (List.range' 0 sinkStop)).map Prod.fst
  sinkV : ld.sinkV = (atPositions tokens (List.range' 0 sinkStop)).map Prod.snd
  block : ∀ c ∈ ld.candidateBlocks, ∃ kv, content (l, c.1) = some kv ∧
    tokenRows A geo kv.1 c.2 =
      .ok ((atPositions tokens (blockPositions sinkStop tokensPerBlock c)).map Prod.fst) ∧
    tokenRows A geo kv.2 c.2 =
      .ok ((atPositions tokens (blockPositions sinkStop tokensPerBlock c)).map Prod.snd)
  recentK : ld.recentK =
    (atPositions tokens (List.range' recentStart (tokens.length - recentStart))).map Prod.fst
  recentV : ld.recentV =
    (atPositions tokens (List.range' recentStart (tokens.length - recentStart))).map Prod.snd

section Layout

variable {cfg : ProviderConfig} {content : Nat × Nat → Option (NDArray × NDArray)} {l : Nat}
  {ld : LayerData geo} {H : History geo}

theorem ProviderConfig.blockTokens_eq {bid : Nat} (hbid : bid < cfg.numBlocks H.prompt) :
    cfg.blockTokens H.prompt bid =
      atPositions H.tokens (blockPositions (cfg.sinkEnd H.prompt.length) cfg.tokensPerBlock
        (bid, (cfg.blockTokens H.prompt bid).length)) := by
  have hin := ProviderConfig.block_start_lt hbid
  have hend := cfg.candEnd_le H.prompt.length
  have hstart : cfg.sinkEnd H.prompt.length + bid * cfg.tokensPerBlock ≤ H.prompt.length := by
    omega
  rw [blockPositions, atPositions_range', cfg.length_blockTokens, History.tokens,
    List.drop_append_of_le_length hstart, List.take_append_of_le_length]
  · rw [ProviderConfig.blockTokens, chunk, ProviderConfig.offloaded, slice, List.drop_take,
      List.take_take, List.drop_drop]
  · rw [List.length_drop]
    omega

theorem Holds.length_candidates (hold : Holds cfg content l ld H) :
    ld.candidateBlocks.length = cfg.numBlocks H.prompt := by
  rw [hold.candidates, List.length_map, List.length_range]

theorem Holds.candidate (hold : Holds cfg content l ld H) {c : Nat × Nat}
    (hc : c ∈ ld.candidateBlocks) :
    c.1 < cfg.numBlocks H.prompt ∧ c.2 = (cfg.blockTokens H.prompt c.1).length := by
  rw [hold.candidates] at hc
  exact ProviderConfig.mem_blocks hc

theorem Holds.candidates_ascend (hold : Holds cfg content l ld H) :
    ld.candidateBlocks.Pairwise fun c d => c.1 < d.1 := by
  rw [hold.candidates, List.pairwise_map]
  exact List.pairwise_lt_range

theorem Holds.block_pos (hold : Holds cfg content l ld H) {c : Nat × Nat}
    (hc : c ∈ ld.candidateBlocks) : 0 < c.2 := by
  obtain ⟨hbid, hlen⟩ := hold.candidate hc
  rw [hlen]
  exact ProviderConfig.blockTokens_pos hbid

theorem ProviderConfig.storedRows_eq (cfg : ProviderConfig) (A : Astype)
    (prompt : List (KVToken geo)) (bid : Nat) :
    tokenRows A geo (cfg.storedBlock (cfg.blockTokens prompt bid)).1
        (cfg.blockTokens prompt bid).length = .ok ((cfg.blockTokens prompt bid).map Prod.fst) ∧
      tokenRows A geo (cfg.storedBlock (cfg.blockTokens prompt bid)).2
        (cfg.blockTokens prompt bid).length = .ok ((cfg.blockTokens prompt bid).map Prod.snd) := by
  have hfit : (cfg.blockTokens prompt bid).length ≤ cfg.tokensPerBlock := by
    rw [cfg.length_blockTokens]
    exact Nat.min_le_left _ _
  have hrows : ∀ row : KVToken geo → TokenRow geo,
      tokenRows A geo (blockArray cfg.tokensPerBlock ((cfg.blockTokens prompt bid).map row))
        (cfg.blockTokens prompt bid).length = .ok ((cfg.blockTokens prompt bid).map row) := by
    intro row
    have hlen : (cfg.blockTokens prompt bid).length =
        ((cfg.blockTokens prompt bid).map row).length := (List.length_map _).symm
    rw [hlen]
    exact tokenRows_blockArray A (by rwa [List.length_map])
  exact ⟨hrows Prod.fst, hrows Prod.snd⟩

theorem Holds.storedRows_eq (A : Astype) (hold : Holds cfg content l ld H) {c : Nat × Nat}
    (hc : c ∈ ld.candidateBlocks) :
    tokenRows A geo (cfg.storedBlock (cfg.blockTokens H.prompt c.1)).1 c.2 =
        .ok ((cfg.blockTokens H.prompt c.1).map Prod.fst) ∧
      tokenRows A geo (cfg.storedBlock (cfg.blockTokens H.prompt c.1)).2 c.2 =
        .ok ((cfg.blockTokens H.prompt c.1).map Prod.snd) := by
  rw [(hold.candidate hc).2]
  exact cfg.storedRows_eq A H.prompt c.1

theorem Holds.positions (A : Astype) (hold : Holds cfg content l ld H) :
    HoldsPositions A content l ld H.tokens cfg.tokensPerBlock (cfg.sinkEnd H.prompt.length)
      (cfg.recentStart H.prompt.length H.appended.length) := by
  have hsink : atPositions H.tokens (List.range' 0 (cfg.sinkEnd H.prompt.length)) =
      H.prompt.take (cfg.sinkEnd H.prompt.length) := by
    rw [atPositions_range', List.drop_zero, History.tokens, List.take_append_of_le_length]
    exact Nat.le_trans (cfg.sinkEnd_le_candEnd _) (cfg.candEnd_le _)
  have hrecent : atPositions H.tokens
      (List.range' (cfg.recentStart H.prompt.length H.appended.length)
        (H.tokens.length - cfg.recentStart H.prompt.length H.appended.length)) =
      H.tokens.drop (cfg.recentStart H.prompt.length H.appended.length) := by
    rw [atPositions_range', List.take_of_length_le]
    rw [List.length_drop]
  refine ⟨by rw [hsink, hold.sinkK], by rw [hsink, hold.sinkV], ?_, by rw [hrecent, hold.recentK],
    by rw [hrecent, hold.recentV]⟩
  intro c hc
  obtain ⟨hbid, hlen⟩ := hold.candidate hc
  have htokens : atPositions H.tokens
      (blockPositions (cfg.sinkEnd H.prompt.length) cfg.tokensPerBlock c) =
      cfg.blockTokens H.prompt c.1 := by
    rw [show c = (c.1, c.2) from rfl, hlen]
    exact (ProviderConfig.blockTokens_eq hbid).symm
  rw [htokens]
  exact ⟨_, hold.blocks c.1 hbid, hold.storedRows_eq A hc⟩

/-- The blocks cover the span between sink and recent window. -/
theorem ProviderConfig.flatMap_blockPositions (hpos : 0 < cfg.tokensPerBlock)
    (prompt : List (KVToken geo)) :
    ((List.range (cfg.numBlocks prompt)).map fun bid =>
        (bid, (cfg.blockTokens prompt bid).length)).flatMap
        (blockPositions (cfg.sinkEnd prompt.length) cfg.tokensPerBlock) =
      List.range' (cfg.sinkEnd prompt.length)
        (cfg.candEnd prompt.length - cfg.sinkEnd prompt.length) := by
  have hcut := flatten_chunks hpos (List.range' (cfg.sinkEnd prompt.length)
    (cfg.candEnd prompt.length - cfg.sinkEnd prompt.length))
  rw [List.flatMap_map, List.flatMap_def, ← hcut]
  rw [chunks, List.length_range', ProviderConfig.numBlocks, cfg.length_offloaded]
  congr 1
  apply List.map_congr_left
  intro bid _
  rw [blockPositions, cfg.length_blockTokens, chunk_range']

theorem Holds.flatMap_blockPositions (hpos : 0 < cfg.tokensPerBlock)
    (hold : Holds cfg content l ld H) :
    ld.candidateBlocks.flatMap
        (blockPositions (cfg.sinkEnd H.prompt.length) cfg.tokensPerBlock) =
      List.range' (cfg.sinkEnd H.prompt.length)
        (cfg.candEnd H.prompt.length - cfg.sinkEnd H.prompt.length) := by
  rw [hold.candidates, cfg.flatMap_blockPositions hpos]

theorem Holds.activePositions_eq (hpos : 0 < cfg.tokensPerBlock)
    (hold : Holds cfg content l ld H) :
    activePositions cfg.tokensPerBlock H.tokens.length (cfg.sinkEnd H.prompt.length)
        (cfg.recentStart H.prompt.length H.appended.length) ld.candidateBlocks =
      List.range' 0 (cfg.candEnd H.prompt.length) ++
        List.range' (cfg.recentStart H.prompt.length H.appended.length)
          (H.tokens.length - cfg.recentStart H.prompt.length H.appended.length) := by
  have hle := cfg.sinkEnd_le_candEnd H.prompt.length
  have hjoin := List.range'_append_1 (s := 0) (m := cfg.sinkEnd H.prompt.length)
    (n := cfg.candEnd H.prompt.length - cfg.sinkEnd H.prompt.length)
  rw [Nat.zero_add, Nat.add_sub_cancel' hle] at hjoin
  rw [activePositions, hold.flatMap_blockPositions hpos, hjoin]

/-- The positions of a selection, in order, are some of the positions of the history. -/
theorem Holds.activePositions_sublist (hpos : 0 < cfg.tokensPerBlock)
    (hold : Holds cfg content l ld H) {selected : List (Nat × Nat)}
    (hsel : selected.Sublist ld.candidateBlocks) :
    (activePositions cfg.tokensPerBlock H.tokens.length (cfg.sinkEnd H.prompt.length)
      (cfg.recentStart H.prompt.length H.appended.length) selected).Sublist
        (List.range H.tokens.length) := by
  have hmid := cfg.candEnd_le_recentStart H.prompt.length H.appended.length
  have hend := cfg.recentStart_le H.prompt.length H.appended.length
  rw [← History.length_tokens] at hend
  have hall : (activePositions cfg.tokensPerBlock H.tokens.length (cfg.sinkEnd H.prompt.length)
      (cfg.recentStart H.prompt.length H.appended.length) selected).Sublist
      (activePositions cfg.tokensPerBlock H.tokens.length (cfg.sinkEnd H.prompt.length)
        (cfg.recentStart H.prompt.length H.appended.length) ld.candidateBlocks) :=
    ((List.Sublist.refl _).append (hsel.flatMap _)).append (List.Sublist.refl _)
  refine hall.trans ?_
  rw [hold.activePositions_eq hpos]
  -- the history is the covered prefix, the gap and the recent window
  have hsplit : List.range H.tokens.length =
      List.range' 0 (cfg.candEnd H.prompt.length) ++
        (List.range' (cfg.candEnd H.prompt.length)
          (cfg.recentStart H.prompt.length H.appended.length - cfg.candEnd H.prompt.length) ++
        List.range' (cfg.recentStart H.prompt.length H.appended.length)
          (H.tokens.length - cfg.recentStart H.prompt.length H.appended.length)) := by
    have hgap := List.range'_append_1 (s := cfg.candEnd H.prompt.length)
      (m := cfg.recentStart H.prompt.length H.appended.length - cfg.candEnd H.prompt.length)
      (n := H.tokens.length - cfg.recentStart H.prompt.length H.appended.length)
    rw [Nat.add_sub_cancel' hmid] at hgap
    rw [hgap, List.range_eq_range']
    have hjoin := List.range'_append_1 (s := 0) (m := cfg.candEnd H.prompt.length)
      (n := cfg.recentStart H.prompt.length H.appended.length - cfg.candEnd H.prompt.length +
        (H.tokens.length - cfg.recentStart H.prompt.length H.appended.length))
    rw [Nat.zero_add] at hjoin
    rw [hjoin]
    congr 1
    omega
  rw [hsplit]
  exact (List.Sublist.refl _).append (List.sublist_append_right _ _)

end Layout

/-! ## What a selection returns -/

namespace TransformerKVStateProvider

variable {α : Type u} [Field α] [LinearOrder α] {N : Numerics α} {cfg : ProviderConfig}
  {content : Nat × Nat → Option (NDArray × NDArray)} {l : Nat} {ld : LayerData geo}
  {H : History geo} {q : List (List α)}

def historyBlocks (cfg : ProviderConfig) (H : History geo) (bid : Nat) : NDArray × NDArray :=
  cfg.storedBlock (cfg.blockTokens H.prompt bid)

/-- Every candidate has a score, and the best ones by ascending id are some of the
candidates in their old order. -/
theorem storedTopBids_ok (hpos : 0 < cfg.tokensPerBlock) (hold : Holds cfg content l ld H)
    {ratio : Nat} (hratio : 0 < ratio) (hq : q.length = ratio * geo.kvHeads)
    (hrows : ∀ row ∈ q, row.length = geo.headDim) (scale : α) (k : Nat) :
    ∃ topBids, storedTopBids N.val (historyBlocks cfg H) ld.candidateBlocks q q.length ratio scale
        k = .ok topBids ∧
      ((orderBy (fun t => t.2.1) topBids).map Prod.snd).Sublist ld.candidateBlocks ∧
      (orderBy (fun t => t.2.1) topBids).length = min k ld.candidateBlocks.length := by
  have hquery : 0 < q.length := by
    rw [hq]
    exact Nat.mul_pos hratio geo.kvHeads_pos
  have hscore : ∀ c ∈ ld.candidateBlocks,
      ∃ y, storedScore N.val (historyBlocks cfg H) q q.length ratio scale c = .ok y := by
    intro c hc
    obtain ⟨score, hscore⟩ := blockMaxScore_ok N.val
      (show (historyBlocks cfg H c.1).1.shape = [cfg.tokensPerBlock, geo.kvHeads, geo.headDim]
        from rfl) hq hquery hrows hpos scale (hold.block_pos hc)
    exact ⟨(score, c), congrArg (Except.map fun m => (m, c)) hscore⟩
  obtain ⟨scores, hscores, hlen⟩ := mapM_ok_length hscore
  have hids := map_snd_of_storedScore hscores
  have hasc : scores.Pairwise fun a b => a.2.1 < b.2.1 := by
    have hcands := hold.candidates_ascend
    rw [← hids, List.pairwise_map] at hcands
    exact hcands
  refine ⟨topBy Prod.fst k scores, ?_, ?_, ?_⟩
  · rw [storedTopBids, hscores]
  · rw [← hids]
    exact (orderBy_topBy_sublist Prod.fst k hasc).map Prod.snd
  · rw [length_orderBy_topBy, hlen]

theorem atPositions_active (hold : Holds cfg content l ld H) {selected : List (Nat × Nat)}
    (hsel : selected.Sublist ld.candidateBlocks) (row : KVToken geo → TokenRow geo) :
    (atPositions H.tokens (activePositions cfg.tokensPerBlock H.tokens.length
      (cfg.sinkEnd H.prompt.length) (cfg.recentStart H.prompt.length H.appended.length)
      selected)).map row =
    (atPositions H.tokens (List.range' 0 (cfg.sinkEnd H.prompt.length))).map row ++
      (selected.map fun c => (cfg.blockTokens H.prompt c.1).map row).flatten ++
      (atPositions H.tokens (List.range' (cfg.recentStart H.prompt.length H.appended.length)
        (H.tokens.length - cfg.recentStart H.prompt.length H.appended.length))).map row := by
  have hblocks : ∀ c ∈ selected, (atPositions H.tokens (blockPositions
      (cfg.sinkEnd H.prompt.length) cfg.tokensPerBlock c)).map row =
      (cfg.blockTokens H.prompt c.1).map row := by
    intro c hc
    obtain ⟨hbid, hlen⟩ := hold.candidate (hsel.subset hc)
    have htokens := ProviderConfig.blockTokens_eq hbid
    rw [← hlen] at htokens
    rw [htokens]
  rw [activePositions, atPositions_append, atPositions_append, List.map_append, List.map_append,
    atPositions_flatMap, List.map_flatMap, List.flatMap_def, List.map_congr_left hblocks]

/-- A selection over the stored blocks of a history returns, on K and V alike, the tokens
at the positions of the sink, of `min k n` of the `n` candidates and of the recent window. -/
theorem selectStored_ok (hpos : 0 < cfg.tokensPerBlock) (hold : Holds cfg content l ld H)
    {ratio : Nat} (hratio : 0 < ratio) (hq : q.length = ratio * geo.kvHeads)
    (hrows : ∀ row ∈ q, row.length = geo.headDim) (pct : ℚ) :
    ∃ selected active, selected.Sublist ld.candidateBlocks ∧
      selected.length =
        min (topKCount ld.candidateBlocks.length pct) ld.candidateBlocks.length ∧
      active = atPositions H.tokens (activePositions cfg.tokensPerBlock H.tokens.length
        (cfg.sinkEnd H.prompt.length) (cfg.recentStart H.prompt.length H.appended.length)
        selected) ∧
      selectStored N ratio pct geo.headDim ld (historyBlocks cfg H) q =
        .ok (active.map Prod.fst, active.map Prod.snd) := by
  have hplaces := hold.positions N.toAstype
  have hdim : geo.headDim ≠ 0 := Nat.ne_of_gt geo.headDim_pos
  by_cases hnone : ld.candidateBlocks = []
  · refine ⟨[], _, List.nil_sublist _, by rw [hnone, List.length_nil, Nat.min_zero], rfl, ?_⟩
    rw [atPositions_active hold (List.nil_sublist _),
      atPositions_active hold (List.nil_sublist _), ← hplaces.sinkK, ← hplaces.sinkV,
      ← hplaces.recentK, ← hplaces.recentV, selectStored, if_neg hdim, if_pos hnone]
    simp only [activeState, List.map_nil, List.flatten_nil, List.append_nil]
  · obtain ⟨topBids, htop, hsub, hlen⟩ := storedTopBids_ok (N := N) hpos hold hratio hq hrows
      (N.invSqrt geo.headDim) (topKCount ld.candidateBlocks.length pct)
    have hselected : (orderBy (fun t => t.2.1) topBids).mapM
        (storedRows N.toAstype geo (historyBlocks cfg H)) =
        .ok ((orderBy (fun t => t.2.1) topBids).map fun t =>
          ((cfg.blockTokens H.prompt t.2.1).map Prod.fst,
            (cfg.blockTokens H.prompt t.2.1).map Prod.snd)) := by
      apply mapM_ok
      intro t ht
      have hc : t.2 ∈ ld.candidateBlocks := hsub.subset (List.mem_map_of_mem ht)
      obtain ⟨hkey, hvalue⟩ := hold.storedRows_eq N.toAstype hc
      simp only [storedRows, blockRows, historyBlocks, hkey, hvalue]
    refine ⟨(orderBy (fun t => t.2.1) topBids).map Prod.snd, _, hsub, ?_, rfl, ?_⟩
    · rw [List.length_map, hlen]
    · rw [atPositions_active hold hsub, atPositions_active hold hsub, ← hplaces.sinkK,
        ← hplaces.sinkV, ← hplaces.recentK, ← hplaces.recentV, selectStored, if_neg hdim,
        if_neg hnone, htop]
      simp only [assembleStored, hselected, Except.map, activeState, List.map_map]
      rfl

theorem gqaRatio_pos (config : ModelArchitectureConfig) : 0 < config.gqaRatio := by
  unfold ModelArchitectureConfig.gqaRatio
  split
  · exact Nat.lt_of_lt_of_le Nat.one_pos (Nat.le_max_left _ _)
  · exact Nat.one_pos

/-! ## One head of one dimension over the file backend -/

section Instances

open RealInferenceStorageBackend

def oneByOne : KVGeometry := ⟨1, 1, .fp32, Nat.one_pos, Nat.one_pos⟩

def floatRow (low high : UInt8) : TokenRow oneByOne := ⟨[0, 0, low, high], rfl⟩

/-- K and V of a token, told apart by `low`. -/
def floatToken (low : UInt8) : KVToken oneByOne := (floatRow low 63, floatRow low 64)

/-- The number four bytes stand for, when they stand for a finite one. -/
def float32Value (raw : Bytes) : ℚ :=
  let n : Nat := raw.foldr (fun byte acc => byte.toNat + 256 * acc) 0
  let fraction : Nat := n % 2 ^ 23
  let exponent : Nat := n / 2 ^ 23 % 2 ^ 8
  let magnitude : ℚ :=
    if exponent = 0 then fraction / 2 ^ 149 else (2 ^ 23 + fraction) * 2 ^ exponent / 2 ^ 150
  if n / 2 ^ 31 = 1 then -magnitude else magnitude

/-- Numerics that are exact on floats, one dimension and no change of dtype. -/
def floatNumerics : Numerics ℚ where
  astype := fun src dst raw =>
    if src = dst then raw else List.replicate (raw.length / src.itemsize * dst.itemsize) 0
  astype_self := fun _ _ => if_pos rfl
  length_astype := by
    intro src dst raw n hlen
    split
    · rename_i h
      rw [← h, hlen]
    · rw [List.length_replicate, hlen, Nat.mul_div_cancel _ src.pos]
  val := fun _ raw => float32Value raw
  invSqrt := fun _ => 1

def windowConfig : ProviderConfig where
  config := ⟨1, 1, 1⟩
  sinkTokens := 0
  recentTokens := 1
  tokensPerBlock := 1
  topKPct := 100
  enableComputationalStorage := false
  enablePrefetch := true
  enableAsyncPipeline := false

abbrev fileBackend : BlockBackend (RealInferenceStorageBackend tinyConfig) ℚ :=
  blockBackend tinyConfig floatNumerics.val

/-- A prompt of three tokens and one more. -/
def windowRun : List (Event oneByOne ℚ) :=
  [.prefill (.tuple [[floatToken 128, floatToken 129, floatToken 130]]),
    .append 0 (floatToken 131).1 (floatToken 131).2]

abbrev fileContract : (fileBackend).ReturnsLastWrite :=
  returnsLastWrite tinyConfig floatNumerics.val

theorem knownMode_tinyConfig : KnownMode tinyConfig := by
  rintro name ⟨⟩

end Instances

/-! ## After any run -/

theorem topKCount_min (n : Nat) (pct : ℚ) :
    ((min (topKCount n pct) n : Nat) : ℤ) = min (max 1 ⌈(n : ℚ) * pct / 100⌉) n := by
  have hpos : 0 ≤ max 1 ⌈(n : ℚ) * (pct / 100)⌉ :=
    le_trans Int.one_nonneg (le_max_left _ _)
  rw [topKCount, Nat.cast_min, Int.toNat_of_nonneg hpos, mul_div_assoc]

theorem topKCount_all (n : Nat) : min (topKCount n 100) n = n := by
  apply Nat.min_eq_right
  rw [topKCount, div_self (by norm_num), mul_one, Int.ceil_natCast]
  omega

variable {σ : Type v} {B : BlockBackend σ α} {V : B.ReturnsLastWrite} {b : σ}

theorem select_tracked {s : TransformerKVStateProvider geo σ} (hpos : 0 < cfg.tokensPerBlock)
    {h : Nat → Option (History geo)} (ht : Tracks cfg V s h) (hH : h l = some H)
    (hld : s.layerData.get? l = some ld) (hold : Holds cfg (V.content s.backend) l ld H)
    (hq : q.length = cfg.config.gqaRatio * geo.kvHeads)
    (hrows : ∀ row ∈ q, row.length = geo.headDim)
    (hpath : ScoresAlike cfg V N geo.kvHeads q.length) :
    ∃ selected active, selected.Sublist ld.candidateBlocks ∧
      selected.length =
        min (topKCount ld.candidateBlocks.length cfg.topKPct) ld.candidateBlocks.length ∧
      active = atPositions H.tokens (activePositions cfg.tokensPerBlock H.tokens.length
        (cfg.sinkEnd H.prompt.length) (cfg.recentStart H.prompt.length H.appended.length)
        selected) ∧
      (selectAndFetchActiveState B cfg N none s l (some q)).1 =
        .ok (active.map Prod.fst, active.map Prod.snd) := by
  obtain ⟨hkv, hdim⟩ := ht.geometry l H hH
  have hheld : ∀ c ∈ ld.candidateBlocks,
      V.content s.backend (l, c.1) = some (historyBlocks cfg H c.1) := fun c hc =>
    hold.blocks c.1 (hold.candidate hc).1
  rw [← hkv] at hpath
  rw [select_eq ht.valid hld hheld hpath, hdim]
  exact selectStored_ok hpos hold (gqaRatio_pos cfg.config) hq hrows cfg.topKPct

/-- A selection of a layer returns, on K and V alike, the tokens at positions that
increase strictly through its history and end with the newest token: the sink, the first
tokens of some candidates by ascending id, the recent window. -/
structure ActiveSelection (cfg : ProviderConfig) (H : History geo) (ld : LayerData geo)
    (positions : List Nat) (selected : List (Nat × Nat))
    (out : Except PyErr (List (TokenRow geo) × List (TokenRow geo))) : Prop where
  candidates : selected.Sublist ld.candidateBlocks
  ascending : selected.Pairwise fun c d => c.1 < d.1
  count : (selected.length : ℤ) =
    min (max 1 ⌈(ld.candidateBlocks.length : ℚ) * cfg.topKPct / 100⌉) ld.candidateBlocks.length
  increasing : positions.Pairwise (· < ·)
  inside : ∀ p ∈ positions, p < H.tokens.length
  newest : positions.getLast? = some (H.tokens.length - 1)
  returned : out = .ok ((atPositions H.tokens positions).map Prod.fst,
    (atPositions H.tokens positions).map Prod.snd)

theorem getLast_activePositions (hrecent : 0 < cfg.recentTokens)
    (hold : Holds cfg content l ld H) (hprompt : H.prompt ≠ []) {selected : List (Nat × Nat)}
    (hsel : selected.Sublist ld.candidateBlocks) :
    (activePositions cfg.tokensPerBlock H.tokens.length (cfg.sinkEnd H.prompt.length)
      (cfg.recentStart H.prompt.length H.appended.length) selected).getLast? =
        some (H.tokens.length - 1) := by
  have hlen := H.length_tokens
  have hprompt : 0 < H.prompt.length := List.length_pos_iff.mpr hprompt
  by_cases hnew : cfg.Offloads H.prompt.length ∨ 0 < H.appended.length
  · have hlt := cfg.recentStart_lt hrecent (by omega : 0 < H.prompt.length + H.appended.length) hnew
    obtain ⟨n, hn⟩ : ∃ n, H.tokens.length -
        cfg.recentStart H.prompt.length H.appended.length = n + 1 :=
      ⟨_, (Nat.succ_pred_eq_of_pos (by omega)).symm⟩
    rw [activePositions, hn, List.range'_concat, ← List.append_assoc, List.getLast?_concat]
    congr 1
    omega
  · -- a short prompt with nothing appended: the sink is all there is
    have hshort : ¬ cfg.Offloads H.prompt.length := fun h => hnew (Or.inl h)
    have hnone : selected = [] := by
      have hcands : ld.candidateBlocks = [] := by
        apply List.eq_nil_of_length_eq_zero
        rw [hold.length_candidates, ProviderConfig.numBlocks_of_short hshort]
      rw [hcands] at hsel
      exact List.sublist_nil.mp hsel
    obtain ⟨n, hn⟩ : ∃ n, H.prompt.length = n + 1 :=
      ⟨_, (Nat.succ_pred_eq_of_pos hprompt).symm⟩
    have hempty : H.tokens.length - cfg.recentStart H.prompt.length H.appended.length = 0 := by
      rw [ProviderConfig.recentStart, if_neg hshort]
      omega
    rw [activePositions, hnone, hempty, ProviderConfig.sinkEnd, if_neg hshort, hn,
      List.range'_concat]
    simp only [List.flatMap_nil, List.range'_zero, List.append_nil, List.getLast?_concat]
    congr 1
    omega

/-- After any run, a selection of a prefilled layer, scored by NumPy on the host, returns
an order-preserving part of the layer's history. -/
theorem select_returns_history_part (V : B.ReturnsLastWrite) (hb : V.Valid b)
    (hpos : 0 < cfg.tokensPerBlock) (hrecent : 0 < cfg.recentTokens)
    (events : List (Event geo α)) (hH : history events l = some H) (hprompt : H.prompt ≠ [])
    (hq : q.length = cfg.config.gqaRatio * geo.kvHeads)
    (hrows : ∀ row ∈ q, row.length = geo.headDim)
    (hhost : cfg.enableComputationalStorage = false ∨ B.computeTopkFilter = none) :
    ∃ ld sinkStop recentStart selected,
      ((machine B cfg N none).exec (init cfg b) events).layerData.get? l = some ld ∧
      HoldsPositions N.toAstype
        (V.content ((machine B cfg N none).exec (init cfg b) events).backend) l ld H.tokens
        cfg.tokensPerBlock sinkStop recentStart ∧
      ActiveSelection cfg H ld
        (activePositions cfg.tokensPerBlock H.tokens.length sinkStop recentStart selected)
        selected
        (selectAndFetchActiveState B cfg N none
          ((machine B cfg N none).exec (init cfg b) events) l (some q)).1 := by
  have ht := tracks_run cfg N none hpos hrecent hb events
  obtain ⟨ld, hld, hold⟩ := ht.holds l H hH
  have hpath : ScoresAlike cfg V N geo.kvHeads q.length := by
    rcases hhost with hoff | hnone
    · exact Or.inl hoff
    · exact Or.inr (Or.inl hnone)
  obtain ⟨selected, active, hsel, hcount, rfl, hout⟩ :=
    select_tracked hpos ht hH hld hold hq hrows hpath
  have hsub := hold.activePositions_sublist hpos hsel
  refine ⟨ld, _, _, selected, hld, hold.positions N.toAstype, ?_⟩
  exact
    { candidates := hsel
      ascending := hold.candidates_ascend.sublist hsel
      count := by rw [hcount, topKCount_min]
      increasing := List.pairwise_lt_range.sublist hsub
      inside := fun p hp => List.mem_range.mp (hsub.subset hp)
      newest := getLast_activePositions hrecent hold hprompt hsel
      returned := hout }

theorem select_returns_history_part_window :
    ∃ ld sinkStop recentStart selected,
      ((machine fileBackend windowConfig floatNumerics none).exec
        (init windowConfig RealInferenceStorageBackend.init) windowRun).layerData.get? 0 =
          some ld ∧
      HoldsPositions floatNumerics.toAstype
        (RealInferenceStorageBackend.content
          ((machine fileBackend windowConfig floatNumerics none).exec
            (init windowConfig RealInferenceStorageBackend.init) windowRun).backend) 0 ld
        [floatToken 128, floatToken 129, floatToken 130, floatToken 131] 1 sinkStop recentStart ∧
      ActiveSelection windowConfig
        ⟨[floatToken 128, floatToken 129, floatToken 130], [floatToken 131]⟩ ld
        (activePositions 1 4 sinkStop recentStart selected) selected
        (selectAndFetchActiveState fileBackend windowConfig floatNumerics none
          ((machine fileBackend windowConfig floatNumerics none).exec
            (init windowConfig RealInferenceStorageBackend.init) windowRun) 0 (some [[1]])).1 :=
  select_returns_history_part (N := floatNumerics) (q := [[1]]) fileContract
    (RealInferenceStorageBackend.reached_init knownMode_tinyConfig)
    (show 0 < windowConfig.tokensPerBlock from Nat.one_pos) Nat.one_pos windowRun
    (show history windowRun 0 = some ⟨[floatToken 128, floatToken 129, floatToken 130],
      [floatToken 131]⟩ from rfl) (List.cons_ne_nil _ _) rfl (by decide) (Or.inl rfl)

/-- How often a position is held: once outside the gap between blocks and recent window. -/
theorem count_activePositions (hpos : 0 < cfg.tokensPerBlock) (hold : Holds cfg content l ld H)
    (p : Nat) :
    (activePositions cfg.tokensPerBlock H.tokens.length (cfg.sinkEnd H.prompt.length)
      (cfg.recentStart H.prompt.length H.appended.length) ld.candidateBlocks).count p =
      if p < cfg.candEnd H.prompt.length ∨
        (cfg.recentStart H.prompt.length H.appended.length ≤ p ∧ p < H.tokens.length) then 1
      else 0 := by
  have hmid := cfg.candEnd_le_recentStart H.prompt.length H.appended.length
  have hend := cfg.recentStart_le H.prompt.length H.appended.length
  rw [← History.length_tokens] at hend
  rw [hold.activePositions_eq hpos, List.count_append, List.count_range_1', List.count_range_1',
    Nat.add_sub_cancel' hend]
  split <;> split <;> split <;> omega

/-- What a layer holds of its history, position by position. -/
structure HeldOnce (cfg : ProviderConfig) (H : History geo) (held : List Nat) : Prop where
  increasing : held.Pairwise (· < ·)
  /-- A long prompt: every token but those slid out of the recent window, which are those
  that follow the offloaded ones, one for each appended token. -/
  long : cfg.Offloads H.prompt.length → ∀ p < H.tokens.length, held.count p =
    if H.prompt.length - cfg.recentTokens ≤ p ∧
      p < H.prompt.length - cfg.recentTokens + H.appended.length then 0 else 1
  /-- A short prompt: all of it and the newest token, and nothing twice. -/
  short : ¬ cfg.Offloads H.prompt.length → (∀ p < H.prompt.length, held.count p = 1) ∧
    (H.appended ≠ [] → held.count (H.tokens.length - 1) = 1) ∧ ∀ p, held.count p ≤ 1

theorem heldOnce (hpos : 0 < cfg.tokensPerBlock) (hold : Holds cfg content l ld H) :
    HeldOnce cfg H (activePositions cfg.tokensPerBlock H.tokens.length
      (cfg.sinkEnd H.prompt.length) (cfg.recentStart H.prompt.length H.appended.length)
      ld.candidateBlocks) := by
  have hlen := H.length_tokens
  refine ⟨List.pairwise_lt_range.sublist
    (hold.activePositions_sublist hpos (List.Sublist.refl _)), ?_, ?_⟩
  · intro hlong p hp
    rw [count_activePositions hpos hold p, ProviderConfig.candEnd, ProviderConfig.recentStart,
      if_pos hlong, if_pos hlong]
    split <;> split <;> omega
  · intro hshort
    refine ⟨?_, ?_, ?_⟩
    · intro p hp
      rw [count_activePositions hpos hold p, ProviderConfig.candEnd, if_neg hshort,
        if_pos (Or.inl hp)]
    · intro hnew
      have hnew : 0 < H.appended.length := List.length_pos_iff.mpr hnew
      rw [count_activePositions hpos hold, ProviderConfig.recentStart, if_neg hshort,
        if_pos (Or.inr (by omega))]
    · intro p
      rw [count_activePositions hpos hold p]
      split <;> omega

/-- After any run, every token of a prefilled layer is held in one place, a long prompt's
slid-out tokens aside, and at 100 percent a selection returns all that is held. -/
theorem history_held_once (V : B.ReturnsLastWrite) (hb : V.Valid b)
    (hpos : 0 < cfg.tokensPerBlock) (hrecent : 0 < cfg.recentTokens)
    (events : List (Event geo α)) (hH : history events l = some H) :
    ∃ ld sinkStop recentStart held,
      ((machine B cfg N none).exec (init cfg b) events).layerData.get? l = some ld ∧
      HoldsPositions N.toAstype
        (V.content ((machine B cfg N none).exec (init cfg b) events).backend) l ld H.tokens
        cfg.tokensPerBlock sinkStop recentStart ∧
      held = activePositions cfg.tokensPerBlock H.tokens.length sinkStop recentStart
        ld.candidateBlocks ∧
      HeldOnce cfg H held ∧
      (cfg.topKPct = 100 → ∀ q : List (List α), q.length = cfg.config.gqaRatio * geo.kvHeads →
        (∀ row ∈ q, row.length = geo.headDim) → ScoresAlike cfg V N geo.kvHeads q.length →
        (selectAndFetchActiveState B cfg N none
          ((machine B cfg N none).exec (init cfg b) events) l (some q)).1 =
            .ok ((atPositions H.tokens held).map Prod.fst,
              (atPositions H.tokens held).map Prod.snd)) := by
  have ht := tracks_run cfg N none hpos hrecent hb events
  obtain ⟨ld, hld, hold⟩ := ht.holds l H hH
  refine ⟨ld, _, _, _, hld, hold.positions N.toAstype, rfl, heldOnce hpos hold, ?_⟩
  intro hpct q hq hrows hpath
  obtain ⟨selected, active, hsel, hcount, rfl, hout⟩ :=
    select_tracked hpos ht hH hld hold hq hrows hpath
  have hall : selected = ld.candidateBlocks := by
    apply hsel.eq_of_length
    rw [hcount, hpct, topKCount_all]
  rw [hout, hall]

theorem history_held_once_window :
    ∃ ld sinkStop recentStart held,
      ((machine fileBackend windowConfig floatNumerics none).exec
        (init windowConfig RealInferenceStorageBackend.init) windowRun).layerData.get? 0 =
          some ld ∧
      HoldsPositions floatNumerics.toAstype
        (RealInferenceStorageBackend.content
          ((machine fileBackend windowConfig floatNumerics none).exec
            (init windowConfig RealInferenceStorageBackend.init) windowRun).backend) 0 ld
        [floatToken 128, floatToken 129, floatToken 130, floatToken 131] 1 sinkStop recentStart ∧
      held = activePositions 1 4 sinkStop recentStart ld.candidateBlocks ∧
      HeldOnce windowConfig
        ⟨[floatToken 128, floatToken 129, floatToken 130], [floatToken 131]⟩ held ∧
      (selectAndFetchActiveState fileBackend windowConfig floatNumerics none
        ((machine fileBackend windowConfig floatNumerics none).exec
          (init windowConfig RealInferenceStorageBackend.init) windowRun) 0 (some [[1]])).1 =
        .ok ((atPositions [floatToken 128, floatToken 129, floatToken 130, floatToken 131]
            held).map Prod.fst,
          (atPositions [floatToken 128, floatToken 129, floatToken 130, floatToken 131]
            held).map Prod.snd) := by
  obtain ⟨ld, sinkStop, recentStart, held, hld, hplaces, hheld, honce, hselect⟩ :=
    history_held_once (N := floatNumerics) fileContract
      (RealInferenceStorageBackend.reached_init knownMode_tinyConfig)
      (show 0 < windowConfig.tokensPerBlock from Nat.one_pos) Nat.one_pos windowRun
      (show history windowRun 0 = some ⟨[floatToken 128, floatToken 129, floatToken 130],
        [floatToken 131]⟩ from rfl)
  exact ⟨ld, sinkStop, recentStart, held, hld, hplaces, hheld, honce,
    hselect rfl [[1]] rfl (by decide) (Or.inl rfl)⟩

/-- The token that slides out of the recent window is in the sink, in a block and in the
recent window no more, and a selection at 100 percent does not return it. -/
theorem slid_out_token_is_lost :
    let s := (machine fileBackend windowConfig floatNumerics none).exec
      (init windowConfig RealInferenceStorageBackend.init) windowRun
    history windowRun 0 = some ⟨[floatToken 128, floatToken 129, floatToken 130],
      [floatToken 131]⟩ ∧
    (s.layerData.get? 0).map (fun ld => (ld.sinkK, ld.candidateBlocks, ld.recentK)) =
      some ([], [(0, 1), (1, 1)], [(floatToken 131).1]) ∧
    (fileBackend.readKeyPage s.backend 0 0 0 0).1 = .ok (blockArray 1 [(floatToken 128).1]) ∧
    (fileBackend.readKeyPage s.backend 0 1 0 0).1 = .ok (blockArray 1 [(floatToken 129).1]) ∧
    (selectAndFetchActiveState fileBackend windowConfig floatNumerics none s 0 (some [[1]])).1 =
      .ok ([(floatToken 128).1, (floatToken 129).1, (floatToken 131).1],
        [(floatToken 128).2, (floatToken 129).2, (floatToken 131).2]) := by
  refine ⟨rfl, ?_, ?_, ?_, ?_⟩ <;> decide +kernel

end TransformerKVStateProvider

end AiSsd.Adapters
