import AiSsd.Inference.BlockStorage
import AiSsd.Inference.HistoryDecode
import AiSsd.Inference.StagedStore

/-!
# Decodes agree over all stores

`create_default_storage_backend` gives a decode the file backend, the prefetch adapter over it or
the block store, and three switches choose how blocks are scored, prefetched and loaded. The
tokens, the logits and what the provider keeps in DRAM are the same for all of them.
-/

namespace AiSsd.Inference

open Lib Numpy Adapters Storage Prefetch
open TransformerKVStateProvider (Tracks)

universe u v v' w

variable {config : ModelArchitectureConfig} {geo : KVGeometry} {α : Type u} {H : Type w}
  {σ : Type v} {τ : Type v'}

/-- The switches that choose where blocks are scored, whether they are prefetched and whether they
are loaded asynchronously. -/
structure Paths where
  computationalStorage : Bool
  prefetch : Bool
  asyncPipeline : Bool

def withPaths (cfg : ProviderConfig) (paths : Paths) : ProviderConfig :=
  { cfg with
    enableComputationalStorage := paths.computationalStorage
    enablePrefetch := paths.prefetch
    enableAsyncPipeline := paths.asyncPipeline }

section Agreement

variable [Field α] [LinearOrder α] (M : CausalLM config geo α H) {B : BlockBackend σ α}
  {B' : BlockBackend τ α} {cfg : ProviderConfig} {N : Numerics α}

structure SameDecode (r : Except PyErr (Decoded α) × TransformerKVStateProvider geo σ)
    (r' : Except PyErr (Decoded α) × TransformerKVStateProvider geo τ) : Prop where
  decoded : r.1 = r'.1
  layers : ∀ l, r.2.layerData.get? l = r'.2.layerData.get? l

theorem Remembers.layers_eq {holds : σ → Content → Prop} {numLayers promptLen : Nat}
    {s : TransformerKVStateProvider geo σ} {hist : Histories geo}
    (h : Remembers cfg numLayers promptLen holds s hist) (l : Nat) :
    s.layerData.get? l = (hist l).map (layerOf cfg) := by
  cases hl : hist l with
  | some past => rw [h.layer hl, Option.map_some]
  | none =>
      obtain ⟨s₀, halike, ht⟩ := h.tracked
      rw [halike.layerData_eq, ht.missing l hl, Option.map_none]

theorem decodes_alike (hpos : 0 < cfg.tokensPerBlock) (hrecent : 0 < cfg.recentTokens)
    (hconfig : cfg.config = config) {paths paths' : Paths} {resetStats : σ → σ}
    {resetStats' : τ → τ} {fmt fmt' : NDArray → Prop} (D : Decodes B resetStats M.numLayers fmt)
    (D' : Decodes B' resetStats' M.numLayers fmt') (hcuts : Cuts cfg geo fmt)
    (hcuts' : Cuts cfg geo fmt') (hscores : ScoresServed (withPaths cfg paths) B N D.reading)
    (hscores' : ScoresServed (withPaths cfg paths') B' N D'.reading) {b : σ} {b' : τ}
    {c c' : Content} (hb : D.writing b c) (hb' : D'.writing b' c') (masks : MaskCache)
    (tokenizer : Tokenizer) (inputIds : List Nat) (decodeTokens : Nat) (enforceEnglish : Bool) :
    SameDecode
      (runAissdDecode M B (withPaths cfg paths) N none resetStats b masks tokenizer inputIds
        decodeTokens enforceEnglish)
      (runAissdDecode M B' (withPaths cfg paths') N none resetStats' b' masks tokenizer inputIds
        decodeTokens enforceEnglish) := by
  obtain ⟨hout, hleft⟩ := aissd_eq_history M (withPaths cfg paths) hpos hrecent hconfig D
    hcuts hscores hb masks tokenizer inputIds decodeTokens enforceEnglish
  obtain ⟨hout', hleft'⟩ := aissd_eq_history M (withPaths cfg paths') hpos hrecent hconfig D'
    hcuts' hscores' hb' masks tokenizer inputIds decodeTokens enforceEnglish
  refine ⟨hout.trans hout'.symm, fun l => ?_⟩
  by_cases hnone : M.numLayers = 0
  · have hdict := layersDict_layers (M.prefill inputIds).2
    rw [if_pos (List.length_eq_zero_iff.mp ((M.prefill_layers inputIds).trans hnone))] at hdict
    simp only [runAissdDecode, TransformerKVStateProvider.initFromPrefill, hdict, andThen_error]
    rfl
  · rw [(hleft (Nat.pos_of_ne_zero hnone)).layers_eq, (hleft' (Nat.pos_of_ne_zero hnone)).layers_eq]
    rfl

end Agreement

/-! ## Over the file backend -/

section Instances

open RealInferenceStorageBackend RealInferencePrefetchAdapter TransformerKVStateProvider

def hostPaths : Paths := ⟨false, false, false⟩

def storagePaths : Paths := ⟨true, true, true⟩

end Instances

end AiSsd.Inference
