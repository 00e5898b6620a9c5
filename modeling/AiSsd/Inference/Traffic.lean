import AiSsd.Inference.DenseView
import Mathlib.Algebra.Group.Nat.Defs
import Mathlib.Algebra.Group.Prod

/-!
# Bytes to the host

The provider counts the bytes that cross to the host: candidate key pages, winning key and value
pages, and 12 bytes for every winner that is named by the storage. What a decode moves depends on
the length of the prompt, on the percentage and on where blocks are scored, and on nothing in the
tensors.
-/

namespace AiSsd.Inference

open Lib Numpy Adapters Storage TransformerKVStateProvider

universe u v w

variable {config : ModelArchitectureConfig} {geo : KVGeometry} {α : Type u} {H : Type w}
  {σ : Type v}

abbrev Traffic := Nat × Nat × Nat × Nat

def trafficOf (s : TransformerKVStateProvider geo σ) : Traffic :=
  (s.candidateKBytesToHost, s.winningKBytesToHost, s.winningVBytesToHost,
    s.topkMetadataBytesToHost)

def Traffic.total (t : Traffic) : Nat := t.1 + t.2.1 + t.2.2.1 + t.2.2.2

theorem Traffic.total_nsmul (n : Nat) (t : Traffic) :
    Traffic.total (n • t) = n * Traffic.total t := by
  have hparts : Traffic.total (n • t) = n * t.1 + n * t.2.1 + n * t.2.2.1 + n * t.2.2.2 := rfl
  rw [hparts, Traffic.total]
  ring

/-- A call that moves so much more, over pages of one size. -/
structure Moves (s s' : TransformerKVStateProvider geo σ) (moved : Traffic) : Prop where
  traffic_eq : trafficOf s' = trafficOf s + moved
  pageBytes_eq : s'.pageBytes = s.pageBytes

def scoresInStorage (B : BlockBackend σ α) (cfg : ProviderConfig) : Bool :=
  cfg.enableComputationalStorage && B.computeTopkFilter.isSome

/-- A selection of `winners` among `candidates`. -/
def selectionTraffic (inStorage : Bool) (page candidates winners : Nat) : Traffic :=
  if inStorage then (0, winners * page, winners * page, winners * 12)
  else (candidates * page, 0, winners * page, 0)

section Calls

variable {B : BlockBackend σ α} {cfg : ProviderConfig}
  {s s' : TransformerKVStateProvider geo σ} {l : Nat} {loaded : Loaded α}

theorem loadThenPrefetch_moves {topBids : List (α × Nat × Nat)}
    (h : loadThenPrefetch B cfg s l topBids = (.ok loaded, s')) :
    loaded.topBids = topBids ∧ Moves s s' (0, topBids.length * s.pageBytes.getD 4096,
      topBids.length * s.pageBytes.getD 4096, 0) := by
  unfold loadThenPrefetch at h
  dsimp only at h
  split at h
  · cases h
  · split at h
    · cases h
    · cases h
      refine ⟨rfl, ?_, rfl⟩
      simp [trafficOf, countWinners, winnerIds]

theorem prefetchThenLoad_moves {topBids : List (α × Nat × Nat)}
    (h : prefetchThenLoad B cfg s l topBids = (.ok loaded, s')) :
    loaded.topBids = topBids ∧ Moves s s' (0, topBids.length * s.pageBytes.getD 4096,
      topBids.length * s.pageBytes.getD 4096, 0) := by
  unfold prefetchThenLoad at h
  dsimp only at h
  split at h
  · cases h
  · split at h
    · cases h
    · split at h
      · cases h
      · cases h
        refine ⟨rfl, ?_, rfl⟩
        simp [trafficOf, winnerIds]

variable [Field α] [LinearOrder α] {N : Numerics α} {cands : List (Nat × Nat)}
  {q : List (List α)} {scale : α}

theorem hostLoad_moves {k : Nat}
    (h : hostLoad B cfg N none s l cands q scale k = (.ok loaded, s')) :
    Moves s s' (cands.length * s.pageBytes.getD 4096, 0,
      loaded.topBids.length * s.pageBytes.getD 4096, 0) := by
  unfold hostLoad at h
  dsimp only at h
  split at h
  · cases h
  · split at h
    · cases h
    · split at h
      · cases h
      · split at h
        · cases h
        · split at h
          · cases h
          · cases h
            refine ⟨?_, rfl⟩
            simp [trafficOf, winnerIds]

/-- What a selection moves, wherever it scores and in whichever order it loads. -/
theorem loadWinners_moves
    (h : loadWinners B cfg N none s l cands q scale = (.ok loaded, s')) :
    Moves s s' (selectionTraffic (scoresInStorage B cfg) (s.pageBytes.getD 4096) cands.length
      loaded.topBids.length) := by
  unfold loadWinners at h
  dsimp only at h
  split at h
  · rename_i hfilter
    have hoff : scoresInStorage B cfg = false := by
      rw [scoresInStorage]
      split at hfilter <;> simp_all
    rw [selectionTraffic, hoff]
    exact hostLoad_moves h
  · rename_i filter hfilter
    have hon : scoresInStorage B cfg = true := by
      rw [scoresInStorage]
      split at hfilter <;> simp_all
    rw [selectionTraffic, hon]
    split at h
    · cases h
    · split at h
      · obtain ⟨rfl, hmoved, hpage⟩ := loadThenPrefetch_moves h
        refine ⟨hmoved.trans ?_, hpage⟩
        simp [trafficOf]
      · obtain ⟨rfl, hmoved, hpage⟩ := prefetchThenLoad_moves h
        refine ⟨hmoved.trans ?_, hpage⟩
        simp [trafficOf]

omit [Field α] [LinearOrder α] in
theorem selectionTraffic_nothing (inStorage : Bool) (page : Nat) :
    selectionTraffic inStorage page 0 0 = 0 := by
  cases inStorage <;> simp [selectionTraffic]

theorem select_moves {ld : LayerData geo} (hld : s.layerData.get? l = some ld) {winners : Nat}
    (hwinners : ∀ loaded s', loadWinners B cfg N none s l ld.candidateBlocks q
      (N.invSqrt s.headDim) = (.ok loaded, s') → loaded.topBids.length = winners)
    (hnone : ld.candidateBlocks = [] → winners = 0)
    {active : List (TokenRow geo) × List (TokenRow geo)}
    (h : selectAndFetchActiveState B cfg N none s l (some q) = (.ok active, s')) :
    Moves s s' (selectionTraffic (scoresInStorage B cfg) (s.pageBytes.getD 4096)
      ld.candidateBlocks.length winners) := by
  simp only [selectAndFetchActiveState, hld] at h
  split at h
  · cases h
  · split at h
    · rename_i hempty
      cases h
      rw [hnone hempty, hempty, List.length_nil, selectionTraffic_nothing]
      exact ⟨(add_zero (trafficOf s)).symm, rfl⟩
    · split at h
      · cases h
      · rename_i loaded s₁ hload
        rw [Prod.mk.injEq] at h
        obtain ⟨-, rfl⟩ := h
        rw [← hwinners loaded s₁ hload]
        exact loadWinners_moves hload

end Calls

/-! ## Over a run -/

def promptBlocks (cfg : ProviderConfig) (promptLen : Nat) : Nat :=
  numChunks cfg.tokensPerBlock (cfg.candEnd promptLen - cfg.sinkEnd promptLen)

def promptWinners (cfg : ProviderConfig) (promptLen : Nat) : Nat :=
  min (topKCount (promptBlocks cfg promptLen) cfg.topKPct) (promptBlocks cfg promptLen)

def pageSize (cfg : ProviderConfig) (geo : KVGeometry) : Nat :=
  cfg.tokensPerBlock * geo.kvHeads * geo.headDim * geo.bytesPerElem

def stepTraffic (B : BlockBackend σ α) (cfg : ProviderConfig) (geo : KVGeometry)
    (promptLen : Nat) : Traffic :=
  selectionTraffic (scoresInStorage B cfg) (pageSize cfg geo) (promptBlocks cfg promptLen)
    (promptWinners cfg promptLen)

section Run

variable [Field α] [LinearOrder α] {M : CausalLM config geo α H} {B : BlockBackend σ α}
  {cfg : ProviderConfig} {N : Numerics α} {promptLen : Nat} {holds : σ → Content → Prop}
  {s : TransformerKVStateProvider geo σ}

theorem length_candidates (cfg : ProviderConfig) (past : History geo) :
    (layerOf cfg past).candidateBlocks.length = promptBlocks cfg past.prompt.length := by
  rw [layerOf, List.length_map, List.length_range, ProviderConfig.numBlocks, cfg.length_offloaded]
  rfl

structure Moved (cfg : ProviderConfig) (numLayers promptLen : Nat) (holds : σ → Content → Prop)
    (moved : Traffic) (s : TransformerKVStateProvider geo σ) : Prop where
  remembers : ∃ hist, Remembers cfg numLayers promptLen holds s hist
  page : s.pageBytes = some (pageSize cfg geo)
  moved_eq : trafficOf s = moved

variable (hpos : 0 < cfg.tokensPerBlock) (hrecent : 0 < cfg.recentTokens)
  (hserves : Serves B M.numLayers holds) (hscores : ScoresServed cfg B N holds)
  (hconfig : cfg.config = config)
include hpos hserves hscores hconfig

theorem Moved.select {moved : Traffic} {hist : Histories geo}
    (hs : Remembers cfg M.numLayers promptLen holds s hist)
    (hpage : s.pageBytes = some (pageSize cfg geo)) (hmoved : trafficOf s = moved) {l : Nat}
    {past : History geo} (hl : hist l = some past) (q : StepQuery config geo α) :
    ∃ active s', selectAndFetchActiveState B cfg N none s l (some q.rows) = (.ok active, s') ∧
      Moved cfg M.numLayers promptLen holds (moved + stepTraffic B cfg geo promptLen) s' := by
  obtain ⟨hout, hkept⟩ := hs.select hpos hserves hscores hconfig hl q
  obtain ⟨active, hok⟩ := selectHistory_ok (N := N) hpos hconfig past q
  obtain ⟨s₀, topBids, -, -, hready⟩ := hs.selectable (N := N) hpos hconfig hl q
  have hn : (layerOf cfg past).candidateBlocks.length = promptBlocks cfg promptLen := by
    rw [length_candidates, hs.prompts l past hl]
  have hcall : selectAndFetchActiveState B cfg N none s l (some q.rows) =
      (.ok active, (selectAndFetchActiveState B cfg N none s l (some q.rows)).2) :=
    Prod.ext (hout.trans hok) rfl
  have hwinners : ∀ loaded s', loadWinners B cfg N none s l (layerOf cfg past).candidateBlocks
      q.rows (N.invSqrt s.headDim) = (.ok loaded, s') →
      loaded.topBids.length = promptWinners cfg promptLen := by
    intro loaded s' hload
    have hserved := loadWinners_served hserves hscores hready.held hready.layer_lt hready.blocks
      hready.all_layers (hready.heads ▸ geo.kvHeads_pos)
      (by rw [hready.heads]; exact gqa_heads hconfig q) hready.top
    rw [hload] at hserved
    obtain ⟨loaded', hsame, rfl, -⟩ := hserved.loads
    cases hsame
    rw [hready.winners, hn, promptWinners]
  have hmoves := select_moves (hs.layer hl) hwinners
    (fun hnone => by rw [promptWinners, ← hn, hnone, List.length_nil, Nat.min_zero]) hcall
  rw [hpage, Option.getD_some, hn] at hmoves
  refine ⟨_, _, hcall, ⟨hist, hkept⟩, hmoves.pageBytes_eq.trans hpage, ?_⟩
  rw [hmoves.traffic_eq, hmoved, stepTraffic]

include hrecent

theorem Moved.layer {moved : Traffic} (h : Moved cfg M.numLayers promptLen holds moved s)
    (position : Nat) {l : Nat} (hl : l < M.numLayers) (x : H) :
    ∃ y s', wrappedLayer M B cfg N none position l x s = (.ok y, s') ∧
      Moved cfg M.numLayers promptLen holds (moved + stepTraffic B cfg geo promptLen) s' := by
  obtain ⟨⟨hist, hs⟩, hpage, hmoved⟩ := h
  obtain ⟨past, hpast⟩ := Option.isSome_iff_exists.mp ((hs.layers l).mpr hl)
  obtain ⟨s₁, happend, hnext⟩ := hs.append hpos hrecent hpast (M.project l position x).2
  have hsame : s₁.pageBytes = s.pageBytes ∧ trafficOf s₁ = trafficOf s := by
    simp only [appendNewToken, hs.layer hpast, Prod.mk.injEq, true_and] at happend
    subst happend
    exact ⟨rfl, rfl⟩
  obtain ⟨active, s₂, hselect, hend⟩ := Moved.select hpos hserves hscores hconfig hnext
    (hsame.1.trans hpage) (hsame.2.trans hmoved) (Function.update_self ..)
    (M.project l position x).1
  refine ⟨M.attend l x (M.project l position x).1 active.1 active.2, s₂, ?_, hend⟩
  rw [wrappedLayer, happend, andThen_ok, hselect, andThen_ok]

theorem Moved.forward {moved : Traffic} (h : Moved cfg M.numLayers promptLen holds moved s)
    (curSeqLen step token : Nat) :
    ∃ x s', wrappedForward M B cfg N none curSeqLen step token s = (.ok (M.logits x), s') ∧
      Moved cfg M.numLayers promptLen holds
        (moved + M.numLayers • stepTraffic B cfg geo promptLen) s' := by
  have hlayer : ∀ l, 0 ≤ l → l < 0 + M.numLayers → ∀ (x : H) s,
      Moved cfg M.numLayers promptLen holds (moved + l • stepTraffic B cfg geo promptLen) s →
      ∃ y s', wrappedLayer M B cfg N none (curSeqLen + step - 1) l x s = (.ok y, s') ∧
        Moved cfg M.numLayers promptLen holds
          (moved + (l + 1) • stepTraffic B cfg geo promptLen) s' := by
    intro l _ hl x s hs
    obtain ⟨y, s', hcall, hs'⟩ := Moved.layer hpos hrecent hserves hscores hconfig hs
      (curSeqLen + step - 1) (show l < M.numLayers by omega) x
    rw [add_assoc, ← succ_nsmul] at hs'
    exact ⟨y, s', hcall, hs'⟩
  have hstart : Moved cfg M.numLayers promptLen holds
      (moved + 0 • stepTraffic B cfg geo promptLen) s := by
    rw [zero_nsmul, add_zero]
    exact h
  obtain ⟨x, s', hlayers, hs'⟩ := forEach_range'_ok hlayer (x := M.embed token) hstart
  rw [Nat.zero_add] at hs'
  refine ⟨x, s', ?_, hs'⟩
  rw [wrappedForward, List.range_eq_range', hlayers, andThen_ok]

theorem Moved.loop {vocab : Nat} (hM : M.HasVocab vocab)
    (h : Moved cfg M.numLayers promptLen holds 0 s) (nonEnglishIds : Option (List Nat))
    (curSeqLen decodeTokens : Nat) (inputIds : List Nat) :
    ∃ d s', decodeLoop (wrappedForward M B cfg N none curSeqLen) nonEnglishIds decodeTokens
        (M.prefill inputIds).1 s = (.ok d, s') ∧
      Moved cfg M.numLayers promptLen holds
        (((decodeTokens - 1) * M.numLayers) • stepTraffic B cfg geo promptLen) s' := by
  obtain ⟨d, hfirst, -, -⟩ := choose_ok nonEnglishIds []
    (List.length_pos_iff.mp (hM.prefill_length inputIds ▸ hM.pos))
  have hstep : ∀ step, 1 ≤ step → step < 1 + (decodeTokens - 1) → ∀ (d : Decoded α) s,
      Moved cfg M.numLayers promptLen holds
        (((step - 1) * M.numLayers) • stepTraffic B cfg geo promptLen) s →
      ∃ d' s', decodeStep (wrappedForward M B cfg N none curSeqLen) nonEnglishIds step d s =
          (.ok d', s') ∧
        Moved cfg M.numLayers promptLen holds
          (((step + 1 - 1) * M.numLayers) • stepTraffic B cfg geo promptLen) s' := by
    intro step hfirst _ d s hs
    obtain ⟨x, s', hcall, hs'⟩ := Moved.forward hpos hrecent hserves hscores hconfig hs curSeqLen
      step d.nextToken
    obtain ⟨d', hchoose, -, -⟩ := choose_ok nonEnglishIds d.generatedTokens
      (List.length_pos_iff.mp (hM.logits_length x ▸ hM.pos))
    refine ⟨d', s', by rw [decodeStep, hcall, andThen_ok, hchoose], ?_⟩
    rw [← add_nsmul, ← Nat.succ_mul, show (step - 1).succ = step + 1 - 1 by omega] at hs'
    exact hs'
  have hstart : Moved cfg M.numLayers promptLen holds
      (((1 - 1) * M.numLayers) • stepTraffic B cfg geo promptLen) s := by
    rw [Nat.sub_self, Nat.zero_mul, zero_nsmul]
    exact h
  obtain ⟨d', s', hloop, hs'⟩ := forEach_range'_ok hstep (x := d) hstart
  rw [Nat.add_sub_cancel_left] at hs'
  refine ⟨d', s', ?_, hs'⟩
  rw [decodeLoop, hfirst, andThen_ok, hloop]

end Run

/-! ## A whole decode -/

section Decode

variable {B : BlockBackend σ α} {cfg : ProviderConfig}

variable (B cfg) in
theorem pageBytes_prefillLayer (s : TransformerKVStateProvider geo σ) (l : Nat)
    (tokens : List (KVToken geo)) : (prefillLayer B cfg s l tokens).2.pageBytes = s.pageBytes := by
  unfold prefillLayer
  dsimp only
  split
  · rfl
  · split <;> rfl

variable (B cfg) in
theorem pageBytes_prefillLayers (layers : List (Nat × List (KVToken geo)))
    (s : TransformerKVStateProvider geo σ) :
    (prefillLayers B cfg layers s).2.pageBytes = s.pageBytes := by
  induction layers generalizing s with
  | nil => rfl
  | cons layer layers ih =>
      obtain ⟨l, tokens⟩ := layer
      have hlayer := pageBytes_prefillLayer B cfg s l tokens
      unfold prefillLayers
      revert hlayer
      rcases prefillLayer B cfg s l tokens with ⟨_ | _, s'⟩
      · exact id
      · exact fun hlayer => (ih s').trans hlayer

theorem pageBytes_prefill {s s' : TransformerKVStateProvider geo σ} {past : PastKeyValues geo}
    (h : initFromPrefill B cfg s past = (.ok (), s')) : s'.pageBytes = some (pageSize cfg geo) := by
  unfold initFromPrefill at h
  split at h
  · cases h
  · rename_i layers _
    have hkept := pageBytes_prefillLayers B cfg layers (shaped cfg s)
    rw [show s' = (prefillLayers B cfg layers (shaped cfg s)).2 from
      (congrArg Prod.snd h).symm, hkept]
    rfl

variable [Field α] [LinearOrder α] (M : CausalLM config geo α H) (V : B.ReturnsLastWrite)
  {N : Numerics α} {resetStats : σ → σ} {b : σ}
  (hpos : 0 < cfg.tokensPerBlock) (hrecent : 0 < cfg.recentTokens)
  (hconfig : cfg.config = config) (hlayers : 0 < M.numLayers)
  (hscores : cfg.enableComputationalStorage = false ∨ B.computeTopkFilter = none ∨
    BlockBackend.ScoresStored N.val V)
  (hreset : ∀ b, V.Valid b → V.Keeps b (resetStats b)) (hb : V.Valid b)
include hpos hrecent hconfig hlayers hscores hreset hb

variable (cfg) in
theorem decode_traffic {vocab : Nat} (hM : M.HasVocab vocab) (masks : MaskCache)
    (tokenizer : Tokenizer) (inputIds : List Nat) (decodeTokens : Nat) (enforceEnglish : Bool) :
    trafficOf (runAissdDecode M B cfg N none resetStats b masks tokenizer inputIds decodeTokens
        enforceEnglish).2 =
      ((decodeTokens - 1) * M.numLayers) • stepTraffic B cfg geo inputIds.length := by
  have hlen := M.prefill_layers inputIds
  have hne : (M.prefill inputIds).2 ≠ [] := by
    rw [← List.length_pos_iff, hlen]
    exact hlayers
  obtain ⟨s, hprefill, hs⟩ := prefill_ok hpos hrecent
    (decodes_of_returnsLastWrite V M.numLayers hreset) (fun rows => blockArray_shape_ne _ rows)
    (⟨hb, rfl⟩ : Keeping V b (V.content b)) hne hlen (M.prefill_tokens inputIds)
  have hpage := pageBytes_prefill hprefill
  have hstart : Moved cfg M.numLayers inputIds.length (Keeping V) 0
      (resetTimings { s with backend := resetStats s.backend }) := ⟨⟨_, hs⟩, hpage, rfl⟩
  obtain ⟨d, s', hloop, hend⟩ := Moved.loop hpos hrecent
    (serves_of_returnsLastWrite V M.numLayers) (scoresServed_of_contract V hscores) hconfig hM
    hstart (nonEnglishMask masks tokenizer enforceEnglish) inputIds.length decodeTokens inputIds
  rw [runAissdDecode, hprefill, andThen_ok, hloop]
  exact hend.moved_eq

end Decode

/-! ## The counting model over the file backend -/

section Instances

open RealInferenceStorageBackend

/-- One candidate of ten is selected. -/
def tenthConfig : ProviderConfig := { windowConfig with topKPct := 10 }

theorem promptWinners_tenth : promptWinners tenthConfig 6 = 1 := by
  have hblocks : promptBlocks tenthConfig 6 = 5 := rfl
  have hcount : topKCount 5 10 = 1 := by norm_num [topKCount]
  rw [promptWinners, hblocks, show tenthConfig.topKPct = 10 from rfl, hcount]
  rfl

end Instances

end AiSsd.Inference
