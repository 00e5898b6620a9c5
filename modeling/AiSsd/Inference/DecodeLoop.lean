import AiSsd.Inference.NonEnglishMask
import AiSsd.Lib.Lockstep

/-!
# The two decode loops

`run_baseline_decode` keeps the cache of the model and appends to it; `run_aissd_decode` hands
the cache to a state provider and lets every layer append to and select from that. Both choose
the largest logit, after the scripts that are not English are suppressed. Wall-clock times,
memory samples and the texts of the report are left out.
-/

namespace AiSsd.Inference

open Lib Adapters Storage

universe u v w

variable {config : ModelArchitectureConfig} {geo : KVGeometry} {α : Type u} {H : Type w}
  {σ : Type v}

/-! ## The loop they share -/

/-- What a loop has so far: `next_token`, `generated_tokens` and the last of `step_logits`. -/
structure Decoded (α : Type u) where
  nextToken : Nat
  generatedTokens : List Nat
  finalLogits : List (WithBot α)

def lastLogits (nonEnglishIds : Option (List Nat)) (logits : List α) : List (WithBot α) :=
  filterLogitsForEnglish (logits.map WithBot.some) nonEnglishIds

/-- `get_non_english_token_ids(tokenizer) if enforce_english else None`. -/
def nonEnglishMask (masks : MaskCache) (tokenizer : Tokenizer) (enforceEnglish : Bool) :
    Option (List Nat) :=
  if enforceEnglish then (getNonEnglishTokenIds masks (some tokenizer)).1 else none

section Loop

variable [LinearOrder α]

def choose (nonEnglishIds : Option (List Nat)) (generated : List Nat) (logits : List α) :
    Except PyErr (Decoded α) :=
  let logits := lastLogits nonEnglishIds logits
  match argmax logits with
  | none => .error .indexError
  | some token => .ok ⟨token, generated ++ [token], logits⟩

/-- One forward pass at `step`, of the token chosen last. -/
abbrev Forward (σ : Type v) (α : Type u) := (step token : Nat) → σ → Except PyErr (List α) × σ

def decodeStep (forward : Forward σ α) (nonEnglishIds : Option (List Nat)) (step : Nat)
    (d : Decoded α) (s : σ) : Except PyErr (Decoded α) × σ :=
  andThen (forward step d.nextToken s) fun logits s =>
    (choose nonEnglishIds d.generatedTokens logits, s)

/-- `for step in range(1, decode_tokens)`, once the prefill has chosen a token. -/
def decodeLoop (forward : Forward σ α) (nonEnglishIds : Option (List Nat)) (decodeTokens : Nat)
    (prefillLogits : List α) (s : σ) : Except PyErr (Decoded α) × σ :=
  andThen (choose nonEnglishIds [] prefillLogits, s)
    (forEach (decodeStep forward nonEnglishIds) (List.range' 1 (decodeTokens - 1)))

end Loop

/-! ## The dense baseline -/

section Baseline

variable (M : CausalLM config geo α H)

abbrev DynamicCache (geo : KVGeometry) := List (List (KVToken geo))

def getSeqLength (pkv : DynamicCache geo) : Nat := (pkv.head?.map List.length).getD 0

def denseLayer (position l : Nat) (h : H) (pkv : DynamicCache geo) :
    Except PyErr H × DynamicCache geo :=
  let qkv := M.project l position h
  let pkv := pkv.modify l (· ++ [qkv.2])
  let tokens := (pkv[l]?).getD []
  (.ok (M.attend l h qkv.1 (tokens.map Prod.fst) (tokens.map Prod.snd)), pkv)

/-- `model(input_ids=next_token, past_key_values=pkv)`: positions count the cache. -/
def denseForward : Forward (DynamicCache geo) α := fun _ token pkv =>
  andThen (forEach (denseLayer M (getSeqLength pkv)) (List.range M.numLayers) (M.embed token) pkv)
    fun h pkv => (.ok (M.logits h), pkv)

/-- `run_baseline_decode` in a process that has cached `masks`, with the KV cache it ends with. -/
def runBaselineDecode [LinearOrder α] (masks : MaskCache) (tokenizer : Tokenizer)
    (inputIds : List Nat) (decodeTokens : Nat) (enforceEnglish : Bool) :
    Except PyErr (Decoded α) × DynamicCache geo :=
  let prefill := M.prefill inputIds
  decodeLoop (denseForward M) (nonEnglishMask masks tokenizer enforceEnglish) decodeTokens
    prefill.1 prefill.2

end Baseline

/-! ## The AI-SSD path -/

section AISSD

variable [Field α] [LinearOrder α] (M : CausalLM config geo α H) (B : BlockBackend σ α)
  (cfg : ProviderConfig) (N : Numerics α) (kernel : Option (Kernel α))

/-- The patched `self_attn.forward` of an active provider on one token. -/
def wrappedLayer (position l : Nat) (h : H) (s : TransformerKVStateProvider geo σ) :
    Except PyErr H × TransformerKVStateProvider geo σ :=
  let qkv := M.project l position h
  andThen (TransformerKVStateProvider.appendNewToken s l qkv.2.1 qkv.2.2) fun _ s =>
    andThen (TransformerKVStateProvider.selectAndFetchActiveState B cfg N kernel s l
        (some qkv.1.rows))
      fun active s => (.ok (M.attend l h qkv.1 active.1 active.2), s)

/-- `model(input_ids=next_token, position_ids=[[cur_seq_len + step - 1]])`. -/
def wrappedForward (curSeqLen : Nat) : Forward (TransformerKVStateProvider geo σ) α :=
  fun step token s =>
    andThen (forEach (wrappedLayer M B cfg N kernel (curSeqLen + step - 1))
        (List.range M.numLayers) (M.embed token) s)
      fun h s => (.ok (M.logits h), s)

/-- `kv_mgr.reset_timings()`. -/
def resetTimings (s : TransformerKVStateProvider geo σ) : TransformerKVStateProvider geo σ :=
  { s with
    candidateKBytesToHost := 0
    winningKBytesToHost := 0
    winningVBytesToHost := 0
    topkMetadataBytesToHost := 0 }

/-- `run_aissd_decode` over a store with its `reset_stats` in a process that has cached `masks`,
and the provider it ends with. -/
def runAissdDecode (resetStats : σ → σ) (backend : σ) (masks : MaskCache)
    (tokenizer : Tokenizer) (inputIds : List Nat) (decodeTokens : Nat) (enforceEnglish : Bool) :
    Except PyErr (Decoded α) × TransformerKVStateProvider geo σ :=
  let prefill := M.prefill inputIds
  andThen (TransformerKVStateProvider.initFromPrefill B cfg
      (TransformerKVStateProvider.init cfg backend) (.layers (prefill.2.map some))) fun _ s =>
    decodeLoop (wrappedForward M B cfg N kernel inputIds.length)
      (nonEnglishMask masks tokenizer enforceEnglish) decodeTokens prefill.1
      (resetTimings { s with backend := resetStats s.backend })

end AISSD

/-! ## What the loop keeps -/

section Rules

variable [LinearOrder α] {forward : Forward σ α} {nonEnglishIds : Option (List Nat)}

def Allowed (vocab : Nat) (nonEnglishIds : Option (List Nat)) (token : Nat) : Prop :=
  token < vocab ∧ (Suppressed nonEnglishIds token → ∀ i < vocab, Suppressed nonEnglishIds i)

variable (nonEnglishIds) in
theorem choose_ok (generated : List Nat) {logits : List α} (h : logits ≠ []) :
    ∃ d, choose nonEnglishIds generated logits = .ok d ∧
      Allowed logits.length nonEnglishIds d.nextToken ∧
      d.generatedTokens = generated ++ [d.nextToken] := by
  have hne : lastLogits nonEnglishIds logits ≠ [] := by
    rw [← List.length_pos_iff, lastLogits, length_filterLogitsForEnglish, List.length_map]
    exact List.length_pos_iff.mpr h
  obtain ⟨token, htoken⟩ := Option.isSome_iff_exists.mp (argmax_isSome hne)
  refine ⟨⟨token, generated ++ [token], lastLogits nonEnglishIds logits⟩, ?_, ?_, rfl⟩
  · simp only [choose, htoken]
  · exact argmax_filtered htoken

structure Finished (vocab : Nat) (nonEnglishIds : Option (List Nat)) (decodeTokens : Nat)
    (d : Decoded α) : Prop where
  length_eq : d.generatedTokens.length = decodeTokens
  last_eq : d.generatedTokens.getLast? = some d.nextToken
  allowed : ∀ token ∈ d.generatedTokens, Allowed vocab nonEnglishIds token

omit [LinearOrder α] in
theorem Finished.append {vocab n : Nat} {d d' : Decoded α} (h : Finished vocab nonEnglishIds n d)
    (hnext : Allowed vocab nonEnglishIds d'.nextToken)
    (htokens : d'.generatedTokens = d.generatedTokens ++ [d'.nextToken]) :
    Finished vocab nonEnglishIds (n + 1) d' := by
  refine ⟨?_, ?_, ?_⟩
  · rw [htokens, List.length_append, List.length_singleton, h.length_eq]
  · rw [htokens, List.getLast?_concat]
  · rw [htokens, List.forall_mem_append, List.forall_mem_singleton]
    exact ⟨h.allowed, hnext⟩

/-- With a forward pass that answers, so does the loop: a token for the prefill and one for every
step after it. -/
theorem decodeLoop_finished {vocab : Nat} (hvocab : 0 < vocab)
    (hforward : ∀ step token s, ∃ logits s', forward step token s = (.ok logits, s') ∧
      logits.length = vocab) (decodeTokens : Nat) {prefillLogits : List α}
    (hprefill : prefillLogits.length = vocab) (s : σ) :
    ∃ d s', decodeLoop forward nonEnglishIds decodeTokens prefillLogits s = (.ok d, s') ∧
      Finished vocab nonEnglishIds (max 1 decodeTokens) d := by
  obtain ⟨d, hfirst, hallowed, htokens⟩ :=
    choose_ok nonEnglishIds [] (List.length_pos_iff.mp (hprefill ▸ hvocab))
  rw [hprefill] at hallowed
  have hstart : Finished vocab nonEnglishIds 1 d := by
    refine ⟨by rw [htokens]; rfl, by rw [htokens]; rfl, ?_⟩
    rw [htokens, List.nil_append, List.forall_mem_singleton]
    exact hallowed
  have hstep : ∀ step, 1 ≤ step → step < 1 + (decodeTokens - 1) → ∀ d (s : σ),
      Finished vocab nonEnglishIds step d →
      ∃ d' s', decodeStep forward nonEnglishIds step d s = (.ok d', s') ∧
        Finished vocab nonEnglishIds (step + 1) d' := by
    intro step _ _ d s hd
    obtain ⟨logits, s', hcall, hlen⟩ := hforward step d.nextToken s
    obtain ⟨d', hchoose, hnext, htokens⟩ :=
      choose_ok nonEnglishIds d.generatedTokens (List.length_pos_iff.mp (hlen ▸ hvocab))
    rw [hlen] at hnext
    refine ⟨d', s', ?_, hd.append hnext htokens⟩
    rw [decodeStep, hcall, andThen_ok, hchoose]
  obtain ⟨d', s', hloop, hend⟩ := forEach_range'_ok hstep (s := s) hstart
  refine ⟨d', s', ?_, ?_⟩
  · rw [decodeLoop, hfirst, andThen_ok, hloop]
  · rw [show max 1 decodeTokens = 1 + (decodeTokens - 1) by omega]
    exact hend

/-- The logits of a model, one for each of `vocab` tokens. -/
structure CausalLM.HasVocab (M : CausalLM config geo α H) (vocab : Nat) : Prop where
  pos : 0 < vocab
  logits_length : ∀ h, (M.logits h).length = vocab
  prefill_length : ∀ inputIds, (M.prefill inputIds).1.length = vocab

omit [LinearOrder α] in
theorem denseForward_ok (M : CausalLM config geo α H) (step token : Nat) (pkv : DynamicCache geo) :
    ∃ h pkv', denseForward M step token pkv = (.ok (M.logits h), pkv') := by
  have hlayer : ∀ l ∈ List.range M.numLayers, ∀ h pkv₀, True →
      ∃ h' pkv', denseLayer M (getSeqLength pkv) l h pkv₀ = (.ok h', pkv') ∧ True :=
    fun _ _ _ _ _ => ⟨_, _, rfl, trivial⟩
  obtain ⟨h, pkv', hlayers, -⟩ := forEach_ok hlayer (x := M.embed token) (s := pkv) trivial
  exact ⟨h, pkv', by rw [denseForward, hlayers, andThen_ok]⟩

theorem baseline_finishes {M : CausalLM config geo α H} {vocab : Nat} (hM : M.HasVocab vocab)
    (masks : MaskCache) (tokenizer : Tokenizer) (inputIds : List Nat) (decodeTokens : Nat)
    (enforceEnglish : Bool) :
    ∃ d, (runBaselineDecode M masks tokenizer inputIds decodeTokens enforceEnglish).1 = .ok d ∧
      Finished vocab (nonEnglishMask masks tokenizer enforceEnglish) (max 1 decodeTokens) d := by
  have hforward : ∀ step token pkv, ∃ logits pkv',
      denseForward M step token pkv = (.ok logits, pkv') ∧ logits.length = vocab := by
    intro step token pkv
    obtain ⟨h, pkv', hcall⟩ := denseForward_ok M step token pkv
    exact ⟨_, pkv', hcall, hM.logits_length h⟩
  obtain ⟨d, pkv, hloop, hfinished⟩ := decodeLoop_finished hM.pos hforward decodeTokens
    (hM.prefill_length inputIds) (M.prefill inputIds).2
  exact ⟨d, by rw [runBaselineDecode, hloop], hfinished⟩

variable (nonEnglishIds) in
theorem decodeLoop_lockstep {τ : Type*} {forward' : Forward τ α} {R : σ → τ → Prop}
    (decodeTokens : Nat)
    (hforward : ∀ step ∈ List.range' 1 (decodeTokens - 1), ∀ token,
      Lockstep R (forward step token) (forward' step token)) (prefillLogits : List α) :
    Lockstep R (decodeLoop forward nonEnglishIds decodeTokens prefillLogits)
      (decodeLoop forward' nonEnglishIds decodeTokens prefillLogits) := by
  refine (Lockstep.answer _).andThen (Lockstep.forEach ?_)
  intro step hstep d
  exact (hforward step hstep d.nextToken).andThen fun logits => .answer _

end Rules

end AiSsd.Inference
