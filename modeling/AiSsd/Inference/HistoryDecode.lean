import AiSsd.Inference.DecodeLoop
import AiSsd.Inference.Serving

/-!
# Decoding from histories

Over a store that serves it, a provider answers a layer as the history of the layer says. The
AI-SSD loop therefore runs in lockstep with a loop over histories, which knows neither the store
nor where blocks are scored and in which order they are prefetched and loaded.
-/

namespace AiSsd.Inference

open Lib Numpy Adapters Storage TransformerKVStateProvider

universe u v w

variable {config : ModelArchitectureConfig} {geo : KVGeometry} {α : Type u} {H : Type w}
  {σ : Type v}

/-! ## The loop over histories -/

def layerOf (cfg : ProviderConfig) (past : History geo) : LayerData geo where
  sinkK := (past.prompt.take (cfg.sinkEnd past.prompt.length)).map Prod.fst
  sinkV := (past.prompt.take (cfg.sinkEnd past.prompt.length)).map Prod.snd
  recentK :=
    (past.tokens.drop (cfg.recentStart past.prompt.length past.appended.length)).map Prod.fst
  recentV :=
    (past.tokens.drop (cfg.recentStart past.prompt.length past.appended.length)).map Prod.snd
  candidateBlocks := (List.range (cfg.numBlocks past.prompt)).map fun bid =>
    (bid, (cfg.blockTokens past.prompt bid).length)
  totalTokens := past.tokens.length

theorem eq_layerOf {cfg : ProviderConfig} {c : Content} {l : Nat} {ld : LayerData geo}
    {past : History geo} (h : Holds cfg c l ld past) : ld = layerOf cfg past := by
  obtain ⟨hsinkK, hsinkV, hrecentK, hrecentV, hcandidates, -, htotal⟩ := h
  cases ld
  simp only at hsinkK hsinkV hrecentK hrecentV hcandidates htotal
  simp only [layerOf, hsinkK, hsinkV, hrecentK, hrecentV, hcandidates, htotal]

abbrev Histories (geo : KVGeometry) := Nat → Option (History geo)

def promptHistories (layers : List (List (KVToken geo))) : Histories geo :=
  fun l => (layers[l]?).map fun tokens => ⟨tokens, []⟩

section Loop

variable [Field α] [LinearOrder α] (M : CausalLM config geo α H) (cfg : ProviderConfig)
  (N : Numerics α)

def selectHistory (past : History geo) (q : List (List α)) :
    Except PyErr (List (TokenRow geo) × List (TokenRow geo)) :=
  selectStored N cfg.config.gqaRatio cfg.topKPct geo.headDim (layerOf cfg past)
    (historyBlocks cfg past) q

def historyLayer (position l : Nat) (h : H) (hist : Histories geo) :
    Except PyErr H × Histories geo :=
  let qkv := M.project l position h
  match hist l with
  | none => (.error (.keyError (toString l)), hist)
  | some past =>
      let past : History geo := ⟨past.prompt, past.appended ++ [qkv.2]⟩
      andThen (selectHistory cfg N past qkv.1.rows, Function.update hist l (some past))
        fun active hist => (.ok (M.attend l h qkv.1 active.1 active.2), hist)

def historyForward (curSeqLen : Nat) : Forward (Histories geo) α := fun step token hist =>
  andThen (forEach (historyLayer M cfg N (curSeqLen + step - 1)) (List.range M.numLayers)
      (M.embed token) hist)
    fun h hist => (.ok (M.logits h), hist)

/-- A prefill needs a layer to take the shape of the tensors from. -/
def historyDecode (masks : MaskCache) (tokenizer : Tokenizer) (inputIds : List Nat)
    (decodeTokens : Nat) (enforceEnglish : Bool) : Except PyErr (Decoded α) × Histories geo :=
  let prefill := M.prefill inputIds
  if M.numLayers = 0 then
    (.error (.valueError "No attention layers with keys found in past_key_values"), fun _ => none)
  else
    decodeLoop (historyForward M cfg N inputIds.length)
      (nonEnglishMask masks tokenizer enforceEnglish) decodeTokens prefill.1
      (promptHistories prefill.2)

end Loop

/-! ## The relation of the two -/

/-- A provider whose store serves the histories of a model, all with prompts of one length. -/
structure Remembers (cfg : ProviderConfig) (numLayers promptLen : Nat)
    (holds : σ → Content → Prop) (s : TransformerKVStateProvider geo σ) (hist : Histories geo) :
    Prop where
  tracked : ∃ s₀, Alike holds s s₀ ∧
    TransformerKVStateProvider.Tracks cfg contentContract s₀ hist
  layers : ∀ l, (hist l).isSome ↔ l < numLayers
  prompts : ∀ l past, hist l = some past → past.prompt.length = promptLen

section Lockstep

variable [Field α] [LinearOrder α] {M : CausalLM config geo α H} {B : BlockBackend σ α}
  {cfg : ProviderConfig} {N : Numerics α} {numLayers promptLen : Nat}
  {holds : σ → Content → Prop} {s : TransformerKVStateProvider geo σ} {hist : Histories geo}

omit [Field α] [LinearOrder α] in
/-- A layer with a history is the layer that the history leaves, and its blocks are held. -/
theorem Remembers.layer (h : Remembers cfg numLayers promptLen holds s hist) {l : Nat}
    {past : History geo} (hl : hist l = some past) :
    s.layerData.get? l = some (layerOf cfg past) := by
  obtain ⟨s₀, halike, ht⟩ := h.tracked
  obtain ⟨ld, hld, hold⟩ := ht.holds l past hl
  rw [halike.layerData_eq, hld, eq_layerOf hold]

theorem Remembers.append (hpos : 0 < cfg.tokensPerBlock) (hrecent : 0 < cfg.recentTokens)
    (h : Remembers cfg numLayers promptLen holds s hist) {l : Nat} {past : History geo}
    (hl : hist l = some past) (token : KVToken geo) :
    ∃ s', appendNewToken s l token.1 token.2 = (.ok (), s') ∧
      Remembers cfg numLayers promptLen holds s'
        (Function.update hist l (some ⟨past.prompt, past.appended ++ [token]⟩)) := by
  obtain ⟨s₀, ⟨hlayers, hheads, hdim, hheld⟩, ht⟩ := h.tracked
  obtain ⟨ld, hld, -⟩ := ht.holds l past hl
  have hnext := tracks_append hpos hrecent ht l token.1 token.2
  rw [record, hl, Option.map_some] at hnext
  simp only [appendNewToken, hld] at hnext
  simp only [appendNewToken, hlayers, hld]
  refine ⟨_, rfl, ⟨_, ?_, hnext⟩, ?_, ?_⟩
  · exact ⟨rfl, hheads, hdim, hheld⟩
  · intro l'
    by_cases hl' : l' = l
    · subst hl'
      rw [Function.update_self, ← h.layers l', hl]
      simp
    · rw [Function.update_of_ne hl', h.layers l']
  · intro l' past' hpast'
    by_cases hl' : l' = l
    · subst hl'
      rw [Function.update_self, Option.some.injEq] at hpast'
      subst hpast'
      exact h.prompts l' past hl
    · rw [Function.update_of_ne hl'] at hpast'
      exact h.prompts l' past' hpast'

omit [Field α] [LinearOrder α] in
theorem gqa_heads (hconfig : cfg.config = config) (q : StepQuery config geo α) :
    q.rows.length = cfg.config.gqaRatio * geo.kvHeads := by
  rw [hconfig]
  exact q.heads_eq

variable (cfg) in
theorem numBlocks_congr {prompt prompt' : List (KVToken geo)}
    (h : prompt.length = prompt'.length) : cfg.numBlocks prompt = cfg.numBlocks prompt' := by
  rw [ProviderConfig.numBlocks, ProviderConfig.numBlocks, cfg.length_offloaded,
    cfg.length_offloaded, h]

/-- What a selection of a layer with this history finds: its store holds the blocks of the layer,
and those of the other layers under the same ids, and names as many winners as asked for. -/
structure Selectable (cfg : ProviderConfig) (N : Numerics α) (numLayers : Nat)
    (holds : σ → Content → Prop) (s : TransformerKVStateProvider geo σ) (l : Nat)
    (past : History geo) (q : List (List α)) (c : Content) (topBids : List (α × Nat × Nat)) :
    Prop where
  held : holds s.backend c
  heads : s.numKvHeads = geo.kvHeads
  dim : s.headDim = geo.headDim
  layer_lt : l < numLayers
  blocks : ∀ bid ∈ (layerOf cfg past).candidateBlocks.map Prod.fst,
    c (l, bid) = some (historyBlocks cfg past bid)
  all_layers : ∀ l' < numLayers,
    Stored c l' ((layerOf cfg past).candidateBlocks.map Prod.fst)
  top : storedTopBids N.val (historyBlocks cfg past) (layerOf cfg past).candidateBlocks q q.length
    cfg.config.gqaRatio (N.invSqrt s.headDim)
    (topKCount (layerOf cfg past).candidateBlocks.length cfg.topKPct) = .ok topBids
  winners : topBids.length = min
    (topKCount (layerOf cfg past).candidateBlocks.length cfg.topKPct)
    (layerOf cfg past).candidateBlocks.length

theorem Remembers.selectable (hpos : 0 < cfg.tokensPerBlock) (hconfig : cfg.config = config)
    (h : Remembers cfg numLayers promptLen holds s hist) {l : Nat} {past : History geo}
    (hl : hist l = some past) (q : StepQuery config geo α) :
    ∃ s₀ topBids, Alike holds s s₀ ∧ TransformerKVStateProvider.Tracks cfg contentContract s₀ hist ∧
      Selectable cfg N numLayers holds s l past q.rows s₀.backend topBids := by
  obtain ⟨s₀, halike, ht⟩ := h.tracked
  obtain ⟨ld, hld, hold⟩ := ht.holds l past hl
  obtain rfl := eq_layerOf hold
  obtain ⟨hheads₀, hdim₀⟩ := ht.geometry l past hl
  obtain ⟨topBids, htop, -, hlen⟩ := storedTopBids_ok (N := N) hpos hold (gqaRatio_pos cfg.config)
    (gqa_heads hconfig q) q.dims_eq (N.invSqrt s.headDim)
    (topKCount (layerOf cfg past).candidateBlocks.length cfg.topKPct)
  have hbids : ∀ bid ∈ (layerOf cfg past).candidateBlocks.map Prod.fst,
      bid < cfg.numBlocks past.prompt := by
    intro bid hbid
    obtain ⟨cand, hcand, rfl⟩ := List.mem_map.mp hbid
    exact (hold.candidate hcand).1
  rw [(orderBy_perm _ topBids).length_eq] at hlen
  refine ⟨s₀, topBids, halike, ht, halike.held, halike.numKvHeads_eq.trans hheads₀,
    halike.headDim_eq.trans hdim₀, (h.layers l).mp (by rw [hl]; rfl),
    fun bid hbid => hold.blocks bid (hbids bid hbid), ?_, htop, hlen⟩
  -- the prompts of the layers are equally long
  intro l' hl' bid hbid
  obtain ⟨past', hpast'⟩ := Option.isSome_iff_exists.mp ((h.layers l').mpr hl')
  obtain ⟨ld', -, hold'⟩ := ht.holds l' past' hpast'
  have hlen := (h.prompts l past hl).trans (h.prompts l' past' hpast').symm
  have hstored : s₀.backend (l', bid) = _ :=
    hold'.blocks bid (numBlocks_congr cfg hlen ▸ hbids bid hbid)
  rw [hstored]
  rfl

theorem Remembers.select (hpos : 0 < cfg.tokensPerBlock)
    (hserves : Serves B numLayers holds) (hscores : ScoresServed cfg B N holds)
    (hconfig : cfg.config = config) (h : Remembers cfg numLayers promptLen holds s hist) {l : Nat}
    {past : History geo} (hl : hist l = some past) (q : StepQuery config geo α) :
    (selectAndFetchActiveState B cfg N none s l (some q.rows)).1 =
        selectHistory cfg N past q.rows ∧
      Remembers cfg numLayers promptLen holds
        (selectAndFetchActiveState B cfg N none s l (some q.rows)).2 hist := by
  have hlayer := h.layer hl
  obtain ⟨s₀, topBids, halike, ht, hready⟩ := h.selectable (N := N) hpos hconfig hl q
  have hdimNe : s.headDim ≠ 0 := by
    rw [hready.dim]
    exact Nat.ne_of_gt geo.headDim_pos
  obtain ⟨hout, hhost⟩ := select_served (N := N) (q := q.rows) hserves hscores hready.held
    hready.layer_lt hlayer hready.blocks hready.all_layers (hready.heads ▸ geo.kvHeads_pos) hdimNe
    (by rw [hready.heads]; exact gqa_heads hconfig q) hready.top
  refine ⟨?_, ⟨⟨s₀, ⟨?_, ?_, ?_, hhost.held⟩, ht⟩, h.layers, h.prompts⟩⟩
  · rw [hout, hready.dim, selectHistory]
  · rw [hhost.layerData_eq, halike.layerData_eq]
  · rw [hhost.numKvHeads_eq, halike.numKvHeads_eq]
  · rw [hhost.headDim_eq, halike.headDim_eq]

/-! ## Lockstep -/

section Run

variable (hpos : 0 < cfg.tokensPerBlock) (hrecent : 0 < cfg.recentTokens)
  (hserves : Serves B M.numLayers holds) (hscores : ScoresServed cfg B N holds)
  (hconfig : cfg.config = config)
include hpos hrecent hserves hscores hconfig

theorem lockstep_layer (position : Nat) {l : Nat} (hl : l < M.numLayers) (h : H) :
    Lockstep (Remembers cfg M.numLayers promptLen holds)
      (wrappedLayer M B cfg N none position l h) (historyLayer M cfg N position l h) := by
  intro s hist hs
  obtain ⟨past, hpast⟩ := Option.isSome_iff_exists.mp ((hs.layers l).mpr hl)
  obtain ⟨s', happend, hnext⟩ := hs.append hpos hrecent hpast (M.project l position h).2
  obtain ⟨hselect, hkept⟩ := hnext.select hpos hserves hscores hconfig (Function.update_self ..)
    (M.project l position h).1
  simp only [wrappedLayer, historyLayer, hpast, happend, andThen_ok, ← hselect]
  revert hkept
  rcases selectAndFetchActiveState B cfg N none s' l (some (M.project l position h).1.rows)
    with ⟨_ | active, s''⟩
  · exact fun hkept => ⟨rfl, hkept⟩
  · exact fun hkept => ⟨rfl, hkept⟩

theorem lockstep_forward (curSeqLen step token : Nat) :
    Lockstep (Remembers cfg M.numLayers promptLen holds)
      (wrappedForward M B cfg N none curSeqLen step token)
      (historyForward M cfg N curSeqLen step token) := by
  refine (Lockstep.forEach ?_ _).andThen fun _ => .answer _
  intro l hl h
  exact lockstep_layer hpos hrecent hserves hscores hconfig _ (List.mem_range.mp hl) h

end Run

/-! ## The prefill -/

theorem restart_zipIdx (hist : Histories geo) (layers : List (List (KVToken geo))) (first l : Nat) :
    restart hist ((layers.zipIdx first).map fun p => (p.2, p.1)) l =
      if first ≤ l ∧ l < first + layers.length then promptHistories layers (l - first)
      else hist l := by
  induction layers generalizing hist first with
  | nil => simp [restart]
  | cons tokens layers ih =>
      rw [List.zipIdx_cons, List.map_cons, restart, ih, List.length_cons]
      rcases Nat.lt_trichotomy l first with hlt | rfl | hgt
      · rw [if_neg (by omega), if_neg (by omega), Function.update_of_ne (Nat.ne_of_lt hlt)]
      · rw [if_neg (by omega), if_pos (by omega), Function.update_self, Nat.sub_self]
        rfl
      · by_cases hin : l < first + 1 + layers.length
        · rw [if_pos (by omega), if_pos (by omega)]
          obtain ⟨k, hk⟩ : ∃ k, l - first = k + 1 := ⟨l - first - 1, by omega⟩
          rw [hk, show l - (first + 1) = k by omega]
          rfl
        · rw [if_neg (by omega), if_neg (by omega), Function.update_of_ne (Nat.ne_of_gt hgt)]

theorem layersDict_layers (layers : List (List (KVToken geo))) :
    (PastKeyValues.layers (layers.map some)).layersDict =
      if layers = [] then
        .error (.valueError "No attention layers with keys found in past_key_values")
      else .ok (layers.zipIdx.map fun p => (p.2, p.1)) := by
  have hfound : (layers.map some).zipIdx.filterMap
      (fun p => p.1.map fun tokens => (p.2, tokens)) = layers.zipIdx.map fun p => (p.2, p.1) := by
    rw [List.zipIdx_map, List.filterMap_map]
    exact congrFun List.filterMap_eq_map _
  simp only [PastKeyValues.layersDict, hfound, List.map_eq_nil_iff, List.zipIdx_eq_nil_iff]

theorem record_layers {layers : List (List (KVToken geo))} (hlayers : layers ≠ []) :
    record (fun _ => none) (.prefill (.layers (layers.map some)) : Event geo Unit) =
      promptHistories layers := by
  have hdict := layersDict_layers layers
  rw [if_neg hlayers] at hdict
  simp only [record, hdict]
  funext l
  rw [restart_zipIdx, Nat.zero_add, Nat.sub_zero]
  split
  · rfl
  · rw [promptHistories, List.getElem?_eq_none (by omega)]
    rfl

theorem prefillLayers_ok (hpos : 0 < cfg.tokensPerBlock)
    (s₀ : TransformerKVStateProvider geo Content) (layers : List (Nat × List (KVToken geo))) :
    (prefillLayers contentStore cfg layers s₀).1 = .ok () := by
  induction layers generalizing s₀ with
  | nil => rfl
  | cons layer rest ih =>
      obtain ⟨l, tokens⟩ := layer
      obtain ⟨backend, ld, hcall, -⟩ :=
        prefillLayer_stores (V := contentContract) contentStore cfg (s := s₀) trivial l tokens
          fun _ => hpos
      simp only [prefillLayers, hcall]
      exact ih _

omit [Field α] [LinearOrder α] in
/-- A prefill of a model with layers leaves a provider that remembers the prompts. -/
theorem prefill_ok (hpos : 0 < cfg.tokensPerBlock) (hrecent : 0 < cfg.recentTokens)
    {resetStats : σ → σ} {fmt : NDArray → Prop} (D : Decodes B resetStats numLayers fmt)
    (hcuts : Cuts cfg geo fmt) {b : σ} {c : Content} (hb : D.writing b c)
    {layers : List (List (KVToken geo))} (hlayers : layers ≠ []) (hlen : layers.length = numLayers)
    (hprompts : ∀ layer ∈ layers, layer.length = promptLen) :
    ∃ s, initFromPrefill B cfg (init cfg b) (.layers (layers.map some)) = (.ok (), s) ∧
      Remembers cfg numLayers promptLen D.reading
        (resetTimings { s with backend := resetStats s.backend }) (promptHistories layers) := by
  have hdict := layersDict_layers layers
  rw [if_neg hlayers] at hdict
  have hinit : TransformerKVStateProvider.Tracks cfg contentContract
      (init cfg c : TransformerKVStateProvider geo Content) fun _ => none := tracks_init trivial
  have ht := tracks_prefill hpos hrecent hinit (.layers (layers.map some))
  rw [record_layers hlayers] at ht
  obtain ⟨hout, halike⟩ := lockstep_prefill D.stores hcuts (.layers (layers.map some))
    (init cfg b) (init cfg c) ⟨rfl, rfl, rfl, hb⟩
  have hok : (initFromPrefill contentStore cfg (init cfg c)
      (.layers (layers.map some) : PastKeyValues geo)).1 = .ok () := by
    simp only [initFromPrefill, hdict]
    exact prefillLayers_ok hpos _ _
  refine ⟨_, Prod.ext (hout.trans hok) rfl, ⟨_, ?_, ht⟩, ?_, ?_⟩
  · exact ⟨halike.1, halike.2, halike.3, D.ready _ _ halike.4⟩
  · intro l
    rw [promptHistories, Option.isSome_map, isSome_getElem?, hlen]
  · intro l past hpast
    obtain ⟨tokens, htokens, rfl⟩ := Option.map_eq_some_iff.mp hpast
    exact hprompts tokens (List.mem_of_getElem? htokens)

variable (M cfg) in
/-- The AI-SSD loop chooses as the loop over histories does, and its provider remembers the
histories that loop ends with. -/
theorem aissd_eq_history (hpos : 0 < cfg.tokensPerBlock) (hrecent : 0 < cfg.recentTokens)
    (hconfig : cfg.config = config) {resetStats : σ → σ} {fmt : NDArray → Prop}
    (D : Decodes B resetStats M.numLayers fmt) (hcuts : Cuts cfg geo fmt)
    (hscores : ScoresServed cfg B N D.reading) {b : σ} {c : Content} (hb : D.writing b c)
    (masks : MaskCache) (tokenizer : Tokenizer) (inputIds : List Nat) (decodeTokens : Nat)
    (enforceEnglish : Bool) :
    (runAissdDecode M B cfg N none resetStats b masks tokenizer inputIds decodeTokens
        enforceEnglish).1 =
      (historyDecode M cfg N masks tokenizer inputIds decodeTokens enforceEnglish).1 ∧
    (0 < M.numLayers →
      Remembers cfg M.numLayers inputIds.length D.reading
        (runAissdDecode M B cfg N none resetStats b masks tokenizer inputIds decodeTokens
          enforceEnglish).2
        (historyDecode M cfg N masks tokenizer inputIds decodeTokens enforceEnglish).2) := by
  have hlen := M.prefill_layers inputIds
  unfold runAissdDecode historyDecode
  dsimp only
  by_cases hnone : M.numLayers = 0
  · have hdict := layersDict_layers (M.prefill inputIds).2
    rw [if_pos (List.length_eq_zero_iff.mp (hlen.trans hnone))] at hdict
    rw [if_pos hnone]
    simp only [initFromPrefill, hdict, andThen_error, true_and]
    omega
  · have hlayers : (M.prefill inputIds).2 ≠ [] :=
      fun h => hnone (hlen.symm.trans (List.length_eq_zero_iff.mpr h))
    obtain ⟨s, hprefill, hs⟩ :=
      prefill_ok hpos hrecent D hcuts hb hlayers hlen (M.prefill_tokens inputIds)
    rw [if_neg hnone, hprefill, andThen_ok]
    have hloop := decodeLoop_lockstep (nonEnglishMask masks tokenizer enforceEnglish) decodeTokens
      (fun step _ token => lockstep_forward hpos hrecent D.serves hscores hconfig
        inputIds.length step token) (M.prefill inputIds).1 _ _ hs
    exact ⟨hloop.1, fun _ => hloop.2⟩

end Lockstep

/-! ## One head that counts -/

def oneQuery (x : ℚ) : StepQuery ⟨1, 1, 1⟩ oneByOne ℚ where
  rows := [[x]]
  heads_eq := rfl
  dims_eq := by
    intro row hrow
    rw [List.mem_singleton.mp hrow]
    rfl

/-- A layer that counts the keys it attends to; the logits tell an odd count from an even one. -/
def countingModel : CausalLM ⟨1, 1, 1⟩ oneByOne ℚ Nat where
  numLayers := 1
  embed := id
  project := fun _ _ h => (oneQuery h, floatToken 128)
  attend := fun _ h _ keys _ => h + keys.length
  logits := fun h => [1, ((h % 2 : Nat) : ℚ), ((h % 2 * 2 : Nat) : ℚ)]
  prefill := fun ids => ([0, 0, 1], [ids.map fun _ => floatToken 129])
  prefill_layers := fun _ => rfl
  prefill_tokens := by
    intro ids layer hlayer
    rw [List.mem_singleton.mp hlayer, List.length_map]

/-- The middle token is Cyrillic. -/
def abcTokenizer : Tokenizer := ⟨0, [("a", 0), ("б", 1), ("c", 2)]⟩

theorem hasVocab_counting : countingModel.HasVocab 3 :=
  ⟨Nat.zero_lt_succ 2, fun _ => rfl, fun _ => rfl⟩

end AiSsd.Inference
