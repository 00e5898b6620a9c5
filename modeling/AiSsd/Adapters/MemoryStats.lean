import AiSsd.Adapters.SelectedTokens
import Mathlib.Algebra.Order.BigOperators.Group.List

/-!
# The reported DRAM footprint

`get_memory_stats` reports sink, recent window and `k_val` full blocks of the first layer. What
a selection of a layer returns is known from the lengths of its prompt and of what was appended:
the two agree but for a prompt that fills sink and recent window, which the first append
outgrows, and for a configuration without recent tokens, whose window is the whole prompt.
-/

namespace AiSsd.Adapters

open Lib Numpy Storage

universe u v

variable {geo : KVGeometry}

namespace TransformerKVStateProvider

variable {σ : Type v} (cfg : ProviderConfig)

/-- The dict that is returned; its last two keys are absent without a layer. -/
structure MemoryStats where
  activeDramMb : ℚ
  totalKvMb : ℚ
  offloadPct : ℚ
  activeTokensPerLayer : Option Nat
  totalTokensPerLayer : Option Nat
deriving DecidableEq

/-- Quotients are exact. A prefill sets `bytes_per_elem` where it sets `page_bytes`. -/
def getMemoryStats (s : TransformerKVStateProvider geo σ) : MemoryStats :=
  match s.layerData.entries with
  | [] => ⟨0, 0, 0, none, none⟩
  | (_, ld) :: _ =>
      let totalTokens := ld.totalTokens
      let candBids := ld.candidateBlocks
      let kVal := if candBids = [] then 0 else topKCount candBids.length cfg.topKPct
      let activeTokens := cfg.sinkTokens + cfg.recentTokens + kVal * cfg.tokensPerBlock
      let bytesPerElem := if s.pageBytes.isSome then geo.bytesPerElem else 4
      let numAttnLayers := s.layerData.size
      let bytesPerTokAllLayers := s.numKvHeads * s.headDim * bytesPerElem * 2 * numAttnLayers
      let totalKvBytes : ℚ := (totalTokens * bytesPerTokAllLayers : Nat)
      let activeDramBytes : ℚ := (activeTokens * bytesPerTokAllLayers : Nat)
      { activeDramMb := activeDramBytes / (1024 * 1024)
        totalKvMb := totalKvBytes / (1024 * 1024)
        offloadPct := max 0 (1 - activeDramBytes / max 1 totalKvBytes) * 100
        activeTokensPerLayer := some activeTokens
        totalTokensPerLayer := some totalTokens }

end TransformerKVStateProvider

/-! ## Tokens in a selection -/

namespace ProviderConfig

variable (cfg : ProviderConfig)

open TransformerKVStateProvider (topKCount)

def blockCount (promptLen : Nat) : Nat :=
  numChunks cfg.tokensPerBlock (cfg.candEnd promptLen - cfg.sinkEnd promptLen)

theorem numBlocks_eq (prompt : List (KVToken geo)) :
    cfg.numBlocks prompt = cfg.blockCount prompt.length := by
  rw [numBlocks, cfg.length_offloaded, blockCount]

def kVal (promptLen : Nat) : Nat :=
  if cfg.blockCount promptLen = 0 then 0 else topKCount (cfg.blockCount promptLen) cfg.topKPct

/-- What is reported when the first layer's prompt has `first` tokens. -/
def reportedTokens (first : Nat) : Nat :=
  cfg.sinkTokens + cfg.recentTokens + cfg.kVal first * cfg.tokensPerBlock

/-- The report on a first layer of `first` tokens covers the selections of a layer of
`promptLen` tokens with `appendedLen` more. -/
def Covers (first promptLen appendedLen : Nat) : Prop :=
  if cfg.Offloads promptLen then
    if cfg.recentTokens = 0 then
      promptLen + min (cfg.kVal promptLen * cfg.tokensPerBlock) (promptLen - cfg.sinkTokens) ≤
        cfg.kVal first * cfg.tokensPerBlock
    else min (cfg.kVal promptLen) (cfg.blockCount promptLen) ≤ cfg.kVal first
  else promptLen + min appendedLen 1 ≤ cfg.reportedTokens first

theorem blockCount_of_short {n : Nat} (hshort : ¬ cfg.Offloads n) : cfg.blockCount n = 0 := by
  simp only [blockCount, candEnd, sinkEnd, if_neg hshort, Nat.sub_self, numChunks_nothing]

theorem padding_lt {n : Nat} (hblocks : 0 < cfg.blockCount n) :
    cfg.blockCount n * cfg.tokensPerBlock <
      cfg.candEnd n - cfg.sinkEnd n + cfg.tokensPerBlock := by
  have hpos := pos_of_numChunks hblocks
  have hlast : (cfg.blockCount n - 1) * cfg.tokensPerBlock < cfg.candEnd n - cfg.sinkEnd n :=
    (lt_numChunks_iff hpos _ _).mp (Nat.sub_lt hblocks Nat.one_pos)
  rw [Nat.sub_mul, Nat.one_mul] at hlast
  omega

end ProviderConfig

/-! ## The tokens of picked blocks -/

theorem sum_lacking {m : Nat} {blocks : List (Nat × Nat)} (h : ∀ c ∈ blocks, c.2 ≤ m) :
    (blocks.map fun c => m - c.2).sum + (blocks.map Prod.snd).sum = blocks.length * m := by
  induction blocks with
  | nil => simp
  | cons c blocks ih =>
      have hc := h c List.mem_cons_self
      have hrest := ih fun d hd => h d (List.mem_cons_of_mem c hd)
      simp only [List.map_cons, List.sum_cons, List.length_cons, Nat.add_mul, Nat.one_mul]
      omega

theorem sum_map_le_of_subperm {picked cands : List (Nat × Nat)} (h : picked.Subperm cands)
    (f : Nat × Nat → Nat) : (picked.map f).sum ≤ (cands.map f).sum := by
  obtain ⟨some, hperm, hsub⟩ := h
  rw [← (hperm.map f).sum_eq]
  exact (hsub.map f).sum_le_sum fun n _ => Nat.zero_le n

section Picked

variable {cfg : ProviderConfig} {ld : LayerData geo} {H : History geo}
  {picked : List (Nat × Nat)} {k : Nat}

theorem LaidOut.length_candidates (hlaid : LaidOut cfg ld H) :
    ld.candidateBlocks.length = cfg.blockCount H.prompt.length := by
  rw [hlaid.candidates, List.length_map, List.length_range, cfg.numBlocks_eq]

theorem LaidOut.block_le (hlaid : LaidOut cfg ld H) {c : Nat × Nat}
    (hc : c ∈ ld.candidateBlocks) : c.2 ≤ cfg.tokensPerBlock := by
  rw [(hlaid.candidate hc).2, cfg.length_blockTokens]
  exact Nat.min_le_left _ _

theorem LaidOut.sum_candidates (hlaid : LaidOut cfg ld H) (hpos : 0 < cfg.tokensPerBlock) :
    (ld.candidateBlocks.map Prod.snd).sum =
      cfg.candEnd H.prompt.length - cfg.sinkEnd H.prompt.length := by
  have hspan := congrArg List.length (cfg.flatMap_blockPositions hpos H.prompt)
  rw [← hlaid.candidates, List.length_flatMap, List.length_range'] at hspan
  rw [← hspan]
  congr 1
  apply List.map_congr_left
  intro c _
  rw [blockPositions, List.length_range']

/-- The tokens of picked blocks: at most all that was offloaded, at most full blocks, and of
full blocks they lack no more than the padding of the last one. -/
theorem LaidOut.picked_tokens (hlaid : LaidOut cfg ld H) (hpos : 0 < cfg.tokensPerBlock)
    (hpicks : Picks k ld.candidateBlocks picked) :
    (picked.map Prod.snd).sum ≤ cfg.candEnd H.prompt.length - cfg.sinkEnd H.prompt.length ∧
    (picked.map Prod.snd).sum ≤
      min k (cfg.blockCount H.prompt.length) * cfg.tokensPerBlock ∧
    min k (cfg.blockCount H.prompt.length) * cfg.tokensPerBlock +
        (cfg.candEnd H.prompt.length - cfg.sinkEnd H.prompt.length) ≤
      (picked.map Prod.snd).sum + cfg.blockCount H.prompt.length * cfg.tokensPerBlock := by
  have hall := hlaid.sum_candidates hpos
  have htokens := sum_map_le_of_subperm hpicks.among Prod.snd
  have hlacking := sum_map_le_of_subperm hpicks.among fun c => cfg.tokensPerBlock - c.2
  have hpicked : (picked.map fun c => cfg.tokensPerBlock - c.2).sum +
      (picked.map Prod.snd).sum = picked.length * cfg.tokensPerBlock :=
    sum_lacking fun c hc => hlaid.block_le (hpicks.among.subset hc)
  have hcands : (ld.candidateBlocks.map fun c => cfg.tokensPerBlock - c.2).sum +
      (ld.candidateBlocks.map Prod.snd).sum =
        ld.candidateBlocks.length * cfg.tokensPerBlock :=
    sum_lacking fun c hc => hlaid.block_le hc
  rw [hpicks.count, hlaid.length_candidates] at hpicked
  rw [hlaid.length_candidates] at hcands
  omega

open TransformerKVStateProvider (topKCount)

def activeTokens (cfg : ProviderConfig) (H : History geo) (picked : List (Nat × Nat)) : Nat :=
  cfg.sinkEnd H.prompt.length + (picked.map Prod.snd).sum +
    (H.tokens.length - cfg.windowStart H.prompt.length H.appended.length)

theorem activeTokens_of_long (hlong : cfg.Offloads H.prompt.length) :
    activeTokens cfg H picked =
      cfg.sinkTokens + (picked.map Prod.snd).sum + cfg.windowLen H.prompt.length := by
  have hlen := H.length_tokens
  have hle := cfg.windowLen_le hlong
  simp only [activeTokens, ProviderConfig.sinkEnd, ProviderConfig.windowStart, if_pos hlong]
  omega

theorem activeTokens_of_short (hshort : ¬ cfg.Offloads H.prompt.length) :
    activeTokens cfg H [] = H.prompt.length + min H.appended.length 1 := by
  have hlen := H.length_tokens
  simp only [activeTokens, ProviderConfig.sinkEnd, ProviderConfig.windowStart, if_neg hshort,
    List.map_nil, List.sum_nil]
  omega

theorem LaidOut.picked_eq_nil (hlaid : LaidOut cfg ld H)
    (hnone : cfg.blockCount H.prompt.length = 0) (hpicks : Picks k ld.candidateBlocks picked) :
    picked = [] := by
  apply List.eq_nil_of_length_eq_zero
  rw [hpicks.count, hlaid.length_candidates, hnone, Nat.min_zero]

/-- With a recent window, a long prompt's selection is covered when the report counts as many
blocks as are picked. -/
theorem LaidOut.le_reported_iff (hlaid : LaidOut cfg ld H)
    (hlong : cfg.Offloads H.prompt.length) (hrecent : cfg.recentTokens ≠ 0)
    (hblocks : 0 < cfg.blockCount H.prompt.length)
    (hpicks : Picks (cfg.kVal H.prompt.length) ld.candidateBlocks picked) (first : Nat) :
    activeTokens cfg H picked ≤ cfg.reportedTokens first ↔
      min (cfg.kVal H.prompt.length) (cfg.blockCount H.prompt.length) ≤ cfg.kVal first := by
  have hpos := pos_of_numChunks hblocks
  obtain ⟨_, hfull, hlack⟩ := hlaid.picked_tokens hpos hpicks
  have hpad := cfg.padding_lt hblocks
  rw [activeTokens_of_long hlong, ProviderConfig.windowLen, if_neg hrecent,
    ProviderConfig.reportedTokens]
  constructor
  · intro hle
    by_contra hmore
    have hnext : (cfg.kVal first + 1) * cfg.tokensPerBlock ≤
        min (cfg.kVal H.prompt.length) (cfg.blockCount H.prompt.length) * cfg.tokensPerBlock :=
      Nat.mul_le_mul_right _ (Nat.lt_of_not_le hmore)
    rw [Nat.add_mul, Nat.one_mul] at hnext
    omega
  · intro hle
    have hfit := Nat.mul_le_mul_right cfg.tokensPerBlock hle
    omega

/-- Without recent tokens the window is the prompt. The report covers that only when it counts
enough blocks, more than can be picked. -/
theorem LaidOut.le_reported_of_covered (hlaid : LaidOut cfg ld H)
    (hlong : cfg.Offloads H.prompt.length) (hnone : cfg.recentTokens = 0)
    (hblocks : 0 < cfg.blockCount H.prompt.length)
    (hpicks : Picks (cfg.kVal H.prompt.length) ld.candidateBlocks picked) {first : Nat}
    (hcover : H.prompt.length + min (cfg.kVal H.prompt.length * cfg.tokensPerBlock)
      (H.prompt.length - cfg.sinkTokens) ≤ cfg.kVal first * cfg.tokensPerBlock) :
    activeTokens cfg H picked ≤ cfg.reportedTokens first := by
  obtain ⟨hall, hfull, _⟩ := hlaid.picked_tokens (pos_of_numChunks hblocks) hpicks
  have hmost := Nat.mul_le_mul_right cfg.tokensPerBlock
    (Nat.min_le_left (cfg.kVal H.prompt.length) (cfg.blockCount H.prompt.length))
  simp only [ProviderConfig.candEnd, ProviderConfig.sinkEnd, if_pos hlong] at hall
  rw [activeTokens_of_long hlong, ProviderConfig.windowLen, if_pos hnone,
    ProviderConfig.reportedTokens]
  omega

theorem LaidOut.covered_of_le_reported (hlaid : LaidOut cfg ld H)
    (hlong : cfg.Offloads H.prompt.length) (hnone : cfg.recentTokens = 0)
    (hblocks : 0 < cfg.blockCount H.prompt.length)
    (hpicks : Picks (cfg.kVal H.prompt.length) ld.candidateBlocks picked) {first : Nat}
    (hdecided : cfg.kVal first ≤ cfg.kVal H.prompt.length ∨
      cfg.blockCount H.prompt.length ≤ cfg.kVal H.prompt.length)
    (hle : activeTokens cfg H picked ≤ cfg.reportedTokens first) :
    H.prompt.length + min (cfg.kVal H.prompt.length * cfg.tokensPerBlock)
      (H.prompt.length - cfg.sinkTokens) ≤ cfg.kVal first * cfg.tokensPerBlock := by
  obtain ⟨_, _, hlack⟩ := hlaid.picked_tokens (pos_of_numChunks hblocks) hpicks
  have hpad := cfg.padding_lt hblocks
  simp only [ProviderConfig.candEnd, ProviderConfig.sinkEnd, if_pos hlong] at hlack hpad
  rw [activeTokens_of_long hlong, ProviderConfig.windowLen, if_pos hnone,
    ProviderConfig.reportedTokens] at hle
  by_cases hall : cfg.blockCount H.prompt.length ≤ cfg.kVal H.prompt.length
  · -- every block is picked
    rw [Nat.min_eq_right hall] at hlack
    omega
  · -- the prompt is longer than the blocks that the report counts
    have hfirst := Nat.mul_le_mul_right cfg.tokensPerBlock
      (hdecided.resolve_right hall)
    have hmore : (cfg.kVal H.prompt.length + 1) * cfg.tokensPerBlock ≤
        cfg.blockCount H.prompt.length * cfg.tokensPerBlock :=
      Nat.mul_le_mul_right _ (Nat.lt_of_not_le hall)
    rw [Nat.add_mul, Nat.one_mul] at hmore
    omega

/-- Whether the report covers a selection is settled by the lengths of the prompts and by how
many tokens were appended. -/
theorem LaidOut.covers (hlaid : LaidOut cfg ld H)
    (hpicks : Picks (topKCount ld.candidateBlocks.length cfg.topKPct) ld.candidateBlocks picked)
    (first : Nat) :
    (cfg.Covers first H.prompt.length H.appended.length →
      activeTokens cfg H picked ≤ cfg.reportedTokens first) ∧
    (0 < cfg.recentTokens ∨ cfg.kVal first ≤ cfg.kVal H.prompt.length ∨
        cfg.blockCount H.prompt.length ≤ cfg.kVal H.prompt.length →
      activeTokens cfg H picked ≤ cfg.reportedTokens first →
      cfg.Covers first H.prompt.length H.appended.length) := by
  unfold ProviderConfig.Covers
  by_cases hlong : cfg.Offloads H.prompt.length
  · rw [if_pos hlong]
    rcases Nat.eq_zero_or_pos (cfg.blockCount H.prompt.length) with hnoBlocks | hblocks
    · -- blocks of no tokens hold none
      have hk : cfg.kVal H.prompt.length = 0 := if_pos hnoBlocks
      rw [hlaid.picked_eq_nil hnoBlocks hpicks, activeTokens_of_long hlong, hk, hnoBlocks,
        ProviderConfig.reportedTokens, ProviderConfig.windowLen]
      by_cases hnone : cfg.recentTokens = 0 <;> simp [hnone, Nat.add_assoc]
    · have hk : topKCount ld.candidateBlocks.length cfg.topKPct = cfg.kVal H.prompt.length := by
        rw [hlaid.length_candidates, ProviderConfig.kVal, if_neg (Nat.ne_of_gt hblocks)]
      rw [hk] at hpicks
      by_cases hnone : cfg.recentTokens = 0
      · rw [if_pos hnone]
        refine ⟨hlaid.le_reported_of_covered hlong hnone hblocks hpicks, ?_⟩
        intro hdecided
        apply hlaid.covered_of_le_reported hlong hnone hblocks hpicks
        omega
      · rw [if_neg hnone, hlaid.le_reported_iff hlong hnone hblocks hpicks]
        exact ⟨id, fun _ => id⟩
  · rw [if_neg hlong]
    have hnil := hlaid.picked_eq_nil (cfg.blockCount_of_short hlong) hpicks
    rw [hnil, activeTokens_of_short hlong]
    exact ⟨id, fun _ => id⟩

end Picked

namespace TransformerKVStateProvider

variable {σ : Type v} {α : Type u} {B : BlockBackend σ α} {cfg : ProviderConfig}
  {V : B.ReturnsLastWrite}

theorem activeTokensPerLayer_eq {s : TransformerKVStateProvider geo σ}
    {h : Nat → Option (History geo)} (hf : Follows cfg s h) {l : Nat} {ld : LayerData geo}
    (hld : s.layerData.get? l = some ld) :
    ∃ first H, s.layerData.keys.head? = some first ∧ h first = some H ∧
      (getMemoryStats cfg s).activeTokensPerLayer = some (cfg.reportedTokens H.prompt.length) := by
  cases hentries : s.layerData.entries with
  | nil =>
      have hmem := (Dict.mem_entries_iff s.layerData l ld).mpr hld
      rw [hentries] at hmem
      cases hmem
  | cons e rest =>
      obtain ⟨first, ld₀⟩ := e
      have hfirst : s.layerData.get? first = some ld₀ := by
        rw [← Dict.mem_entries_iff, hentries]
        exact List.mem_cons_self
      cases hH : h first with
      | none =>
          rw [hf.absent first hH] at hfirst
          cases hfirst
      | some H =>
          obtain ⟨ld', hld', hlaid⟩ := hf.present first H hH
          rw [hfirst, Option.some.injEq] at hld'
          subst hld'
          refine ⟨first, H, ?_, hH, ?_⟩
          · rw [Dict.keys, hentries]
            rfl
          · simp only [getMemoryStats, hentries, ProviderConfig.reportedTokens,
              ProviderConfig.kVal, ← hlaid.length_candidates, List.length_eq_zero_iff]

section Runs

variable [Field α] [LinearOrder α] (cfg) (N : Numerics α) (kernel : Option (Kernel α))

variable (B) in
def reached (b : σ) (events : List (Event geo α)) : TransformerKVStateProvider geo σ :=
  (machine B cfg N kernel).exec (init cfg b) events

variable (B) in
/-- The history of every layer after some calls. -/
def histories (b : σ) (events : List (Event geo α)) : Nat → Option (History geo) :=
  (machine B cfg N kernel).history (fun h s event _ => note B cfg h s event) (init cfg b)
    (fun _ => none) events

variable (B) in
theorem follows_run (b : σ) (events : List (Event geo α)) :
    Follows cfg (reached B cfg N kernel b events) (histories B cfg N kernel b events) := by
  apply Machine.history_invariant
  · intro s h event hf
    cases event with
    | prefill past => exact follows_prefill hf past
    | append l kTok vTok => exact follows_append hf l kTok vTok
    | select l query => exact hf.of_layerData (layerData_select s l query)
  · exact follows_init b

theorem hasBlocks_run {b : σ} (hb : V.Valid b) (events : List (Event geo α)) :
    HasBlocks cfg V (reached B cfg N kernel b events).backend
      (histories B cfg N kernel b events) := by
  refine Machine.history_invariant (machine B cfg N kernel)
    (I := fun s h => HasBlocks cfg V s.backend h) ?_ _ _ events ?_
  · intro s h event hs
    cases event with
    | prefill past => exact hasBlocks_prefill hs past
    | append l kTok vTok => exact hasBlocks_append hs l kTok vTok
    | select l query => exact hs.keeps (sameLayers_select hs.valid l query).backend
  · exact ⟨hb, by simp⟩

/-- After any run, whatever the configuration: the reported tokens cover every selection that
returns from a layer exactly as `Covers` says of the prompts of that layer and of the first and
of the appended tokens. Without recent tokens, and when the first layer counts more blocks than
a layer that leaves some out, it may also cover what `Covers` does not promise. -/
theorem reported_tokens_cover_iff (V : B.ReturnsLastWrite) {b : σ} (hb : V.Valid b)
    (hpick : ScorersPick V kernel) (events : List (Event geo α)) {l : Nat}
    {query : Option (List (List α))} {out : List (TokenRow geo) × List (TokenRow geo)}
    (hout : (selectAndFetchActiveState B cfg N kernel (reached B cfg N kernel b events) l
      query).1 = .ok out) :
    ∃ first H₀ H active,
      (reached B cfg N kernel b events).layerData.keys.head? = some first ∧
      histories B cfg N kernel b events first = some H₀ ∧
      histories B cfg N kernel b events l = some H ∧
      (getMemoryStats cfg (reached B cfg N kernel b events)).activeTokensPerLayer =
        some active ∧
      ∀ rows, rows = out.1 ∨ rows = out.2 →
        (cfg.Covers H₀.prompt.length H.prompt.length H.appended.length →
          rows.length ≤ active) ∧
        (0 < cfg.recentTokens ∨ cfg.kVal H₀.prompt.length ≤ cfg.kVal H.prompt.length ∨
            cfg.blockCount H.prompt.length ≤ cfg.kVal H.prompt.length →
          rows.length ≤ active →
          cfg.Covers H₀.prompt.length H.prompt.length H.appended.length) := by
  have hf := follows_run B cfg N kernel b events
  obtain ⟨H, ld, picked, hH, hld, hlaid, hpicks, hlength⟩ :=
    select_picks hpick (hasBlocks_run cfg N kernel hb events) hf hout
  obtain ⟨first, H₀, hfirst, hH₀, hactive⟩ := activeTokensPerLayer_eq hf hld
  refine ⟨first, H₀, H, _, hfirst, hH₀, hH, hactive, ?_⟩
  intro rows hrows
  rw [hlength rows hrows]
  exact hlaid.covers hpicks H₀.prompt.length

end Runs

theorem reported_tokens_cover_iff_window :
    ∃ first H₀ H active,
      (reached fileBackend windowConfig floatNumerics none RealInferenceStorageBackend.init
        windowRun).layerData.keys.head? = some first ∧
      histories fileBackend windowConfig floatNumerics none RealInferenceStorageBackend.init
        windowRun first = some H₀ ∧
      histories fileBackend windowConfig floatNumerics none RealInferenceStorageBackend.init
        windowRun 0 = some H ∧
      (getMemoryStats windowConfig (reached fileBackend windowConfig floatNumerics none
        RealInferenceStorageBackend.init windowRun)).activeTokensPerLayer = some active ∧
      ∀ rows, rows = [(floatToken 128).1, (floatToken 129).1, (floatToken 131).1] ∨
          rows = [(floatToken 128).2, (floatToken 129).2, (floatToken 131).2] →
        (windowConfig.Covers H₀.prompt.length H.prompt.length H.appended.length →
          rows.length ≤ active) ∧
        (0 < windowConfig.recentTokens ∨
            windowConfig.kVal H₀.prompt.length ≤ windowConfig.kVal H.prompt.length ∨
            windowConfig.blockCount H.prompt.length ≤ windowConfig.kVal H.prompt.length →
          rows.length ≤ active →
          windowConfig.Covers H₀.prompt.length H.prompt.length H.appended.length) :=
  reported_tokens_cover_iff windowConfig floatNumerics none fileContract
    (RealInferenceStorageBackend.reached_init knownMode_tinyConfig)
    (scorersPick_of_scoresStored RealInferenceStorageBackend.scoresStored) windowRun
    (show (selectAndFetchActiveState fileBackend windowConfig floatNumerics none
      (reached fileBackend windowConfig floatNumerics none RealInferenceStorageBackend.init
        windowRun) 0 (some [[1]])).1 =
      .ok ([(floatToken 128).1, (floatToken 129).1, (floatToken 131).1],
        [(floatToken 128).2, (floatToken 129).2, (floatToken 131).2]) by decide +kernel)

/-- A prompt that fills sink and recent window, and one more token: the sink keeps the whole
prompt and the window gains a token that the report does not count. -/
theorem append_outgrows_report :
    let s := reached fileBackend windowConfig floatNumerics none RealInferenceStorageBackend.init
      [.prefill (.tuple [[floatToken 128]]), .append 0 (floatToken 129).1 (floatToken 129).2]
    (getMemoryStats windowConfig s).activeTokensPerLayer = some 1 ∧
    (selectAndFetchActiveState fileBackend windowConfig floatNumerics none s 0 (some [[1]])).1 =
      .ok ([(floatToken 128).1, (floatToken 129).1],
        [(floatToken 128).2, (floatToken 129).2]) := by
  constructor <;> decide +kernel

end TransformerKVStateProvider

end AiSsd.Adapters
