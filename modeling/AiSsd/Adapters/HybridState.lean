import AiSsd.Adapters.Registry
import AiSsd.Adapters.TransformerKV
import AiSsd.Lib.Machine

/-!
# The hybrid state provider

Layers with keys go to an attention provider over the block store, all others stay in DRAM.
Prefill tells them apart by the tensors it is given, every later call by the layer types of
the configuration.
-/

namespace AiSsd.Adapters

open Lib Numpy Storage

universe u v w

/-- A whole number that a configuration holds, as a count. -/
def PyVal.toNat : PyVal → Nat
  | .atom (.json (.int i)) => i.toNat
  | _ => 0

structure HybridConfig where
  config : Descriptor.ModelArchitectureConfig
  sinkTokens : Nat
  recentTokens : Nat
  tokensPerBlock : Nat
  topKPct : ℚ
  enableComputationalStorage : Bool
  enablePrefetch : Bool
  enableAsyncPipeline : Bool

def HybridConfig.attention (cfg : HybridConfig) : ProviderConfig where
  config :=
    { numAttentionHeads := cfg.config.numAttentionHeads.toNat
      numKeyValueHeads := cfg.config.numKeyValueHeads.toNat
      headDim := cfg.config.headDim.toNat }
  sinkTokens := cfg.sinkTokens
  recentTokens := cfg.recentTokens
  tokensPerBlock := cfg.tokensPerBlock
  topKPct := cfg.topKPct
  enableComputationalStorage := cfg.enableComputationalStorage
  enablePrefetch := cfg.enablePrefetch
  enableAsyncPipeline := cfg.enableAsyncPipeline

structure LayerObject (geo : KVGeometry) (γ : Type w) where
  keys : Option (List (KVToken geo))
  convStates : Option γ
  recurrentStates : Option γ

/-- The containers a prefill accepts: one with layer objects, or one of the others. -/
inductive NativeState (geo : KVGeometry) (γ : Type w) where
  | layers (objects : List (LayerObject geo γ))
  | byLayer (layers : Dict Nat (List (KVToken geo)))
  | keyCache (layers : List (List (KVToken geo)))
  | tuple (layers : List (List (KVToken geo)))

structure SsmState (γ : Type w) where
  convStates : Option γ
  recurrentStates : Option γ
  updated : Bool

structure HybridStateProvider (geo : KVGeometry) (σ : Type v) (γ : Type w) where
  attentionProvider : TransformerKVStateProvider geo σ
  residentSsmStates : Dict Nat (SsmState γ)
  nativeCache : Option (NativeState geo γ)

inductive ActiveState (geo : KVGeometry) (γ : Type w) where
  | attention (keys values : List (TokenRow geo))
  | resident (state : Option (SsmState γ))

variable {geo : KVGeometry} {σ : Type v} {α : Type u} {γ : Type w}

/-! ## Prefill -/

def attnLayers (objects : List (LayerObject geo γ)) : List (Nat × List (KVToken geo)) :=
  objects.zipIdx.filterMap fun p => p.1.keys.map fun tokens => (p.2, tokens)

def ssmLayers (objects : List (LayerObject geo γ)) : List (Nat × SsmState γ) :=
  objects.zipIdx.filterMap fun p =>
    match p.1.keys with
    | some _ => none
    | none => some (p.2, ⟨p.1.convStates, p.1.recurrentStates, false⟩)

def NativeState.attention : NativeState geo γ → PastKeyValues geo
  | .layers objects => .byLayer (Dict.empty.setEach (attnLayers objects))
  | .byLayer dict => .byLayer dict
  | .keyCache pairs => .keyCache pairs
  | .tuple pairs => .tuple pairs

def NativeState.resident : NativeState geo γ → List (Nat × SsmState γ)
  | .layers objects => ssmLayers objects
  | _ => []

def NativeState.emptied : NativeState geo γ → NativeState geo γ
  | .layers objects =>
      .layers (objects.map fun layer => { layer with keys := layer.keys.map fun _ => [] })
  | native => native

namespace HybridStateProvider

variable (B : BlockBackend σ α) (cfg : HybridConfig)

def init (backend : σ) : HybridStateProvider geo σ γ where
  attentionProvider := TransformerKVStateProvider.init cfg.attention backend
  residentSsmStates := Dict.empty
  nativeCache := none

def initFromPrefill (s : HybridStateProvider geo σ γ) (native : NativeState geo γ) :
    Except PyErr Unit × HybridStateProvider geo σ γ :=
  let s := { s with residentSsmStates := s.residentSsmStates.setEach native.resident }
  match TransformerKVStateProvider.initFromPrefill B cfg.attention s.attentionProvider
      native.attention with
  | (.error err, provider) => (.error err, { s with attentionProvider := provider })
  | (.ok (), provider) =>
      (.ok (), { s with attentionProvider := provider, nativeCache := some native.emptied })

/-! ## Decoding -/

/-- `self.attention_provider.append_new_token(layer_idx, *state_tensors)`, which takes the
first two tensors. -/
def appendToAttention (s : HybridStateProvider geo σ γ) (layerIdx : Nat)
    (stateTensors : List (TokenRow geo)) : Except PyErr Unit × HybridStateProvider geo σ γ :=
  match stateTensors with
  | kTok :: vTok :: _ =>
      let r := s.attentionProvider.appendNewToken layerIdx kTok vTok
      (r.1, { s with attentionProvider := r.2 })
  | _ => (.error .indexError, s)

def markUpdated (s : HybridStateProvider geo σ γ) (layerIdx : Nat) :
    HybridStateProvider geo σ γ :=
  match s.residentSsmStates.get? layerIdx with
  | none => s
  | some state =>
      { s with
        residentSsmStates := s.residentSsmStates.set layerIdx { state with updated := true } }

def appendNewToken (s : HybridStateProvider geo σ γ) (layerIdx : Nat)
    (stateTensors : List (TokenRow geo)) : Except PyErr Unit × HybridStateProvider geo σ γ :=
  if cfg.config.isLayerAttention layerIdx then s.appendToAttention layerIdx stateTensors
  else (.ok (), s.markUpdated layerIdx)

section Select

variable [Field α] [LinearOrder α] (N : Numerics α) (kernel : Option (Kernel α))

def selectFromAttention (s : HybridStateProvider geo σ γ) (layerIdx : Nat)
    (query : Option (List (List α))) :
    Except PyErr (ActiveState geo γ) × HybridStateProvider geo σ γ :=
  let r := TransformerKVStateProvider.selectAndFetchActiveState B cfg.attention N kernel
    s.attentionProvider layerIdx query
  (r.1.map fun active => .attention active.1 active.2, { s with attentionProvider := r.2 })

def selectAndFetchActiveState (s : HybridStateProvider geo σ γ) (layerIdx : Nat)
    (query : Option (List (List α))) :
    Except PyErr (ActiveState geo γ) × HybridStateProvider geo σ γ :=
  if cfg.config.isLayerAttention layerIdx then s.selectFromAttention B cfg N kernel layerIdx query
  else (.ok (.resident (s.residentSsmStates.get? layerIdx)), s)

/-! ## Runs -/

/-- The calls a model makes while it decodes. -/
inductive Call (geo : KVGeometry) (α : Type u) where
  | append (layerIdx : Nat) (stateTensors : List (TokenRow geo))
  | select (layerIdx : Nat) (query : Option (List (List α)))

def machine : Machine (HybridStateProvider geo σ γ) (Call geo α)
    (Except PyErr (Option (ActiveState geo γ))) where
  step s
    | .append layerIdx stateTensors =>
        let r := s.appendNewToken cfg layerIdx stateTensors
        (r.1.map fun _ => none, r.2)
    | .select layerIdx query =>
        let r := s.selectAndFetchActiveState B cfg N kernel layerIdx query
        (r.1.map some, r.2)

end Select

end HybridStateProvider

end AiSsd.Adapters
