import AiSsd.Inference.StoreAgreement

/-!
# AI-SSD decoding as dense decoding

Over a store that serves it, the AI-SSD loop decodes as the dense baseline of a model whose
attention keeps only what a selection returns. Which tokens these are depends on the query. At 100
percent, and on a prompt too short to be offloaded at any percentage, they are all but those
between the candidates and the recent window.
-/

namespace AiSsd.Inference

open Lib Numpy Adapters Storage TransformerKVStateProvider

universe u v w

variable {config : ModelArchitectureConfig} {geo : KVGeometry} {α : Type u} {H : Type w}
  {σ : Type v}

/-- The rest of a layer, from the scaled dot products on. -/
abbrev Attend (config : ModelArchitectureConfig) (geo : KVGeometry) (α : Type u) (H : Type w) :=
  Nat → H → StepQuery config geo α → List (TokenRow geo) → List (TokenRow geo) → H

/-- The model with another attention. -/
def CausalLM.attending (M : CausalLM config geo α H) (attend : Attend config geo α H) :
    CausalLM config geo α H :=
  { M with attend := attend }

/-! ## Histories and caches -/

/-- A cache with the tokens of the histories, to layer `l` of which `grown l` were appended. -/
structure Cached (numLayers promptLen : Nat) (grown : Nat → Nat) (hist : Histories geo)
    (pkv : DynamicCache geo) : Prop where
  length_eq : pkv.length = numLayers
  layer : ∀ l < numLayers, ∃ past, hist l = some past ∧ pkv[l]? = some past.tokens ∧
    past.prompt.length = promptLen ∧ past.appended.length = grown l

namespace Cached

variable {numLayers promptLen : Nat} {grown grown' : Nat → Nat} {hist : Histories geo}
  {pkv : DynamicCache geo}

theorem congr (h : Cached numLayers promptLen grown hist pkv)
    (hgrown : ∀ l < numLayers, grown l = grown' l) :
    Cached numLayers promptLen grown' hist pkv := by
  refine ⟨h.length_eq, fun l hl => ?_⟩
  rw [← hgrown l hl]
  exact h.layer l hl

theorem append {l : Nat} (h : Cached numLayers promptLen grown hist pkv) {past : History geo}
    (hcache : pkv[l]? = some past.tokens) (hprompt : past.prompt.length = promptLen)
    (hgrown : past.appended.length = grown l) (token : KVToken geo) :
    Cached numLayers promptLen (Function.update grown l (grown l + 1))
      (Function.update hist l (some ⟨past.prompt, past.appended ++ [token]⟩))
      (pkv.modify l (· ++ [token])) := by
  refine ⟨by rw [List.length_modify, h.length_eq], fun l' hl' => ?_⟩
  by_cases hsame : l = l'
  · subst hsame
    refine ⟨⟨past.prompt, past.appended ++ [token]⟩, Function.update_self .., ?_, hprompt, ?_⟩
    · rw [List.getElem?_modify_eq, hcache, Option.map_eq_map, Option.map_some, History.tokens,
        History.tokens, List.append_assoc]
    · rw [Function.update_self, List.length_append, List.length_singleton, hgrown]
  · obtain ⟨past', hpast', hcache', hrest⟩ := h.layer l' hl'
    refine ⟨past', ?_, ?_, ?_⟩
    · rw [Function.update_of_ne (Ne.symm hsame), hpast']
    · rw [List.getElem?_modify_ne _ _ hsame, hcache']
    · rw [Function.update_of_ne (Ne.symm hsame)]
      exact hrest

theorem getSeqLength_eq {n : Nat} (h : Cached numLayers promptLen (fun _ => n) hist pkv)
    (hlayers : 0 < numLayers) : getSeqLength pkv = promptLen + n := by
  obtain ⟨past, -, hcache, hprompt, hgrown⟩ := h.layer 0 hlayers
  rw [getSeqLength, List.head?_eq_getElem?, hcache, Option.map_some, Option.getD_some,
    past.length_tokens, hprompt, hgrown]

theorem of_prefill (M : CausalLM config geo α H) (inputIds : List Nat) :
    Cached M.numLayers inputIds.length (fun _ => 0) (promptHistories (M.prefill inputIds).2)
      (M.prefill inputIds).2 := by
  refine ⟨M.prefill_layers inputIds, fun l hl => ?_⟩
  rw [← M.prefill_layers inputIds] at hl
  refine ⟨⟨(M.prefill inputIds).2[l], []⟩, ?_, ?_, ?_, rfl⟩
  · rw [promptHistories, List.getElem?_eq_getElem hl, Option.map_some]
  · rw [List.getElem?_eq_getElem hl, History.tokens, List.append_nil]
  · exact M.prefill_tokens inputIds _ (List.getElem_mem hl)

end Cached

/-! ## Lockstep with the baseline -/

section Loop

variable [Field α] [LinearOrder α] (M : CausalLM config geo α H) (cfg : ProviderConfig)
  (N : Numerics α)

/-- Attending to a whole history is attending to what is selected from it, while fewer than
`decodeTokens` tokens were appended. -/
def AttendsSelected (attend : Attend config geo α H) (promptLen decodeTokens : Nat) : Prop :=
  ∀ past : History geo, past.prompt.length = promptLen → past.appended.length < decodeTokens →
    ∀ l h (q : StepQuery config geo α), ∃ active, selectHistory cfg N past q.rows = .ok active ∧
      attend l h q (past.tokens.map Prod.fst) (past.tokens.map Prod.snd) =
        M.attend l h q active.1 active.2

variable {M cfg N} {attend : Attend config geo α H} {promptLen decodeTokens : Nat}
  (hattend : AttendsSelected M cfg N attend promptLen decodeTokens)
include hattend

theorem cached_layer (grown : Nat → Nat) (position : Nat) {l : Nat} (hl : l < M.numLayers)
    (hfew : grown l + 1 < decodeTokens) (h : H) :
    LockstepTo (Cached M.numLayers promptLen grown)
      (Cached M.numLayers promptLen (Function.update grown l (grown l + 1)))
      (historyLayer M cfg N position l h) (denseLayer (M.attending attend) position l h) := by
  intro hist pkv hcached
  obtain ⟨past, hpast, hcache, hprompt, hgrown⟩ := hcached.layer l hl
  have hnext := hcached.append hcache hprompt hgrown (M.project l position h).2
  obtain ⟨past', hpast', hcache', hprompt', hgrown'⟩ := hnext.layer l hl
  rw [Function.update_self, Option.some.injEq] at hpast'
  subst hpast'
  rw [Function.update_self] at hgrown'
  obtain ⟨active, hselect, hsame⟩ := hattend _ hprompt' (by omega) l h (M.project l position h).1
  simp only [historyLayer, denseLayer, hpast, hselect, andThen_ok, ← hsame]
  refine ⟨?_, fun _ _ => hnext⟩
  rw [show (M.attending attend).project l position h = M.project l position h from rfl, hcache']
  rfl

/-- One forward pass: both count the same position, and every layer grows by a token. -/
theorem cached_forward (hlayers : 0 < M.numLayers) {n : Nat} (hfew : n + 1 < decodeTokens)
    (token : Nat) :
    LockstepTo (Cached M.numLayers promptLen fun _ => n)
      (Cached M.numLayers promptLen fun _ => n + 1)
      (historyForward M cfg N promptLen (n + 1) token)
      (denseForward (M.attending attend) (n + 1) token) := by
  -- the layers before layer `i` have grown
  let grown (i l : Nat) : Nat := if l < i then n + 1 else n
  have hpass : ∀ i, 0 ≤ i → i < 0 + M.numLayers → ∀ h,
      LockstepTo (Cached M.numLayers promptLen (grown i))
        (Cached M.numLayers promptLen (grown (i + 1)))
        (historyLayer M cfg N (promptLen + n) i h)
        (denseLayer (M.attending attend) (promptLen + n) i h) := by
    intro i _ hi h hist pkv hcached
    have hself : grown i i = n := if_neg (Nat.lt_irrefl i)
    obtain ⟨hout, hrel⟩ := cached_layer hattend (grown i) (promptLen + n) (l := i) (by omega)
      (by rw [hself]; exact hfew) h hist pkv hcached
    refine ⟨hout, fun x hx => (hrel x hx).congr fun l _ => ?_⟩
    rw [hself]
    rcases Nat.lt_trichotomy l i with hlt | rfl | hgt
    · rw [Function.update_of_ne (Nat.ne_of_lt hlt)]
      simp only [grown, if_pos hlt, if_pos (Nat.lt_succ_of_lt hlt)]
    · rw [Function.update_self]
      simp only [grown, if_pos (Nat.lt_succ_self l)]
    · rw [Function.update_of_ne (Nat.ne_of_gt hgt)]
      simp only [grown, if_neg (Nat.not_lt_of_gt hgt), if_neg (by omega : ¬ l < i + 1)]
  intro hist pkv hcached
  have hstart : Cached M.numLayers promptLen (grown 0) hist pkv :=
    hcached.congr fun l _ => (if_neg (Nat.not_lt_zero l)).symm
  have hrun := (LockstepTo.forEach_range' (R := fun i => Cached M.numLayers promptLen (grown i))
    hpass (M.embed token)).andThen fun h => .answer (.ok (M.logits h) : Except PyErr (List α))
  obtain ⟨hout, hrel⟩ := hrun hist pkv hstart
  have hhistory : historyForward M cfg N promptLen (n + 1) token =
      fun hist => andThen (forEach (historyLayer M cfg N (promptLen + n))
        (List.range' 0 M.numLayers) (M.embed token) hist)
        fun h hist => (.ok (M.logits h), hist) := by
    funext hist
    rw [historyForward, List.range_eq_range']
    rfl
  have hdense : denseForward (M.attending attend) (n + 1) token pkv =
      andThen (forEach (denseLayer (M.attending attend) (promptLen + n))
        (List.range' 0 M.numLayers) (M.embed token) pkv)
        fun h pkv => (.ok (M.logits h), pkv) := by
    rw [denseForward, hcached.getSeqLength_eq hlayers, List.range_eq_range']
    rfl
  rw [hhistory, hdense]
  refine ⟨hout, fun x hx => (hrel x hx).congr fun l hl => ?_⟩
  simp only [grown, if_pos (show l < 0 + M.numLayers by omega)]

/-- The loop over histories is the baseline of the model that attends to what is selected. -/
theorem historyDecode_dense (hlayers : 0 < M.numLayers) (masks : MaskCache) (tokenizer : Tokenizer)
    {inputIds : List Nat} (hlen : inputIds.length = promptLen) (enforceEnglish : Bool) :
    (historyDecode M cfg N masks tokenizer inputIds decodeTokens enforceEnglish).1 =
      (runBaselineDecode (M.attending attend) masks tokenizer inputIds decodeTokens
        enforceEnglish).1 := by
  subst hlen
  have hloop : LockstepTo (Cached M.numLayers inputIds.length fun _ => 1 - 1)
      (Cached M.numLayers inputIds.length fun _ => 1 + (decodeTokens - 1) - 1)
      (decodeLoop (historyForward M cfg N inputIds.length)
        (nonEnglishMask masks tokenizer enforceEnglish) decodeTokens (M.prefill inputIds).1)
      (decodeLoop (denseForward (M.attending attend))
        (nonEnglishMask masks tokenizer enforceEnglish) decodeTokens (M.prefill inputIds).1) := by
    refine (LockstepTo.answer _).andThen (LockstepTo.forEach_range'
      (R := fun step => Cached M.numLayers inputIds.length fun _ => step - 1) ?_)
    intro step hfirst hlast d
    obtain ⟨n, rfl⟩ : ∃ n, step = n + 1 := ⟨step - 1, by omega⟩
    exact (cached_forward hattend hlayers (by omega) d.nextToken).andThen fun _ => .answer _
  rw [historyDecode, if_neg (Nat.ne_of_gt hlayers)]
  exact (hloop _ _ (.of_prefill M inputIds)).1

end Loop

/-! ## What is attended to -/

section Attention

variable [Field α] [LinearOrder α] {M : CausalLM config geo α H} {cfg : ProviderConfig}
  {N : Numerics α}

/-- Everything up to the last candidate, and the recent window. -/
def visible {β : Type*} (cfg : ProviderConfig) (promptLen : Nat) (xs : List β) : List β :=
  xs.take (cfg.candEnd promptLen) ++
    xs.drop (cfg.recentStart promptLen (xs.length - promptLen))

theorem map_visible {β γ : Type*} (cfg : ProviderConfig) (promptLen : Nat) (f : β → γ)
    (xs : List β) : (visible cfg promptLen xs).map f = visible cfg promptLen (xs.map f) := by
  simp only [visible, List.map_append, List.map_take, List.map_drop, List.length_map]

def visibleAttend (M : CausalLM config geo α H) (cfg : ProviderConfig) (promptLen : Nat) :
    Attend config geo α H := fun l h q keys values =>
  M.attend l h q (visible cfg promptLen keys) (visible cfg promptLen values)

/-- Attention to what a selection returns of the tokens. -/
def selectedAttend (M : CausalLM config geo α H) (cfg : ProviderConfig) (N : Numerics α)
    (promptLen : Nat) : Attend config geo α H := fun l h q keys values =>
  let tokens := keys.zip values
  match selectHistory cfg N ⟨tokens.take promptLen, tokens.drop promptLen⟩ q.rows with
  | .error _ => h
  | .ok active => M.attend l h q active.1 active.2

theorem holds_layerOf (cfg : ProviderConfig) (past : History geo) :
    Holds cfg (fun key => some (historyBlocks cfg past key.2)) 0 (layerOf cfg past) past :=
  ⟨rfl, rfl, rfl, rfl, rfl, fun _ _ => rfl, rfl⟩

theorem selectHistory_ok (hpos : 0 < cfg.tokensPerBlock) (hconfig : cfg.config = config)
    (past : History geo) (q : StepQuery config geo α) :
    ∃ active, selectHistory cfg N past q.rows = .ok active := by
  obtain ⟨selected, active, -, -, -, hout⟩ := selectStored_ok (N := N) hpos
    (holds_layerOf cfg past) (gqaRatio_pos cfg.config) (gqa_heads hconfig q) q.dims_eq cfg.topKPct
  exact ⟨_, hout⟩

abbrev SelectsAll (cfg : ProviderConfig) (promptLen : Nat) : Prop :=
  cfg.topKPct = 100 ∨ ¬ cfg.Offloads promptLen

theorem selectHistory_all (hpos : 0 < cfg.tokensPerBlock) (hconfig : cfg.config = config)
    {past : History geo} (hall : SelectsAll cfg past.prompt.length)
    (q : StepQuery config geo α) :
    selectHistory cfg N past q.rows =
      .ok ((visible cfg past.prompt.length past.tokens).map Prod.fst,
        (visible cfg past.prompt.length past.tokens).map Prod.snd) := by
  have hold := holds_layerOf cfg past
  obtain ⟨selected, active, hsub, hcount, rfl, hout⟩ := selectStored_ok (N := N) hpos hold
    (gqaRatio_pos cfg.config) (gqa_heads hconfig q) q.dims_eq cfg.topKPct
  have hselected : selected = (layerOf cfg past).candidateBlocks := by
    apply hsub.eq_of_length
    rcases hall with hpct | hshort
    · rw [hcount, hpct, topKCount_all]
    · rw [hcount, hold.length_candidates, ProviderConfig.numBlocks_of_short hshort, Nat.min_zero]
  have hactive : atPositions past.tokens (activePositions cfg.tokensPerBlock past.tokens.length
      (cfg.sinkEnd past.prompt.length)
      (cfg.recentStart past.prompt.length past.appended.length) selected) =
      visible cfg past.prompt.length past.tokens := by
    rw [hselected, hold.activePositions_eq hpos, atPositions_append, atPositions_range',
      atPositions_range', List.drop_zero, List.take_of_length_le (Nat.le_of_eq List.length_drop),
      visible, past.length_tokens, Nat.add_sub_cancel_left]
  rw [selectHistory, hout, hactive]

theorem attendsSelected_visible (hpos : 0 < cfg.tokensPerBlock) (hconfig : cfg.config = config)
    {promptLen : Nat} (hall : SelectsAll cfg promptLen) (decodeTokens : Nat) :
    AttendsSelected M cfg N (visibleAttend M cfg promptLen) promptLen decodeTokens := by
  rintro past rfl - l h q
  refine ⟨_, selectHistory_all hpos hconfig hall q, ?_⟩
  rw [visibleAttend, map_visible, map_visible]

theorem attendsSelected_selected (hpos : 0 < cfg.tokensPerBlock) (hconfig : cfg.config = config)
    (promptLen decodeTokens : Nat) :
    AttendsSelected M cfg N (selectedAttend M cfg N promptLen) promptLen decodeTokens := by
  rintro past rfl - l h q
  obtain ⟨active, hout⟩ := selectHistory_ok (N := N) hpos hconfig past q
  have htokens : (past.tokens.map Prod.fst).zip (past.tokens.map Prod.snd) = past.tokens := by
    rw [← List.unzip_fst, ← List.unzip_snd]
    exact List.zip_unzip past.tokens
  refine ⟨active, hout, ?_⟩
  have hpast : (⟨past.tokens.take past.prompt.length, past.tokens.drop past.prompt.length⟩ :
      History geo) = past := by
    rw [History.tokens, List.take_left, List.drop_left]
  rw [selectedAttend, htokens]
  simp only [hpast, hout]

end Attention

/-! ## Decodes over a store that returns the last write -/

section Decode

variable [Field α] [LinearOrder α] (M : CausalLM config geo α H) {B : BlockBackend σ α}
  (V : B.ReturnsLastWrite) {cfg : ProviderConfig} {N : Numerics α} {resetStats : σ → σ} {b : σ}

theorem aissd_eq_dense (hpos : 0 < cfg.tokensPerBlock) (hrecent : 0 < cfg.recentTokens)
    (hconfig : cfg.config = config) (hlayers : 0 < M.numLayers)
    (hscores : cfg.enableComputationalStorage = false ∨ B.computeTopkFilter = none ∨
      BlockBackend.ScoresStored N.val V)
    (hreset : ∀ b, V.Valid b → V.Keeps b (resetStats b)) (hb : V.Valid b)
    (masks : MaskCache) (tokenizer : Tokenizer) {inputIds : List Nat} {decodeTokens : Nat}
    {attend : Attend config geo α H}
    (hattend : AttendsSelected M cfg N attend inputIds.length decodeTokens)
    (enforceEnglish : Bool) :
    (runAissdDecode M B cfg N none resetStats b masks tokenizer inputIds decodeTokens
        enforceEnglish).1 =
      (runBaselineDecode (M.attending attend) masks tokenizer inputIds decodeTokens
        enforceEnglish).1 := by
  have hhistory := (aissd_eq_history M cfg hpos hrecent hconfig
    (decodes_of_returnsLastWrite V M.numLayers hreset) (fun rows => blockArray_shape_ne _ rows)
    (scoresServed_of_contract V hscores) ⟨hb, rfl⟩ masks tokenizer inputIds decodeTokens
    enforceEnglish).1
  rw [hhistory]
  exact historyDecode_dense hattend hlayers masks tokenizer rfl enforceEnglish

variable (hpos : 0 < cfg.tokensPerBlock) (hrecent : 0 < cfg.recentTokens)
  (hconfig : cfg.config = config) (hlayers : 0 < M.numLayers)
  (hscores : cfg.enableComputationalStorage = false ∨ B.computeTopkFilter = none ∨
    BlockBackend.ScoresStored N.val V)
  (hreset : ∀ b, V.Valid b → V.Keeps b (resetStats b)) (hb : V.Valid b)
include hpos hrecent hconfig hlayers hscores hreset hb

end Decode

/-! ## The counting model over the file backend -/

section Instances

open RealInferenceStorageBackend

end Instances

end AiSsd.Inference
