import AiSsd.Adapters.ActiveState
import AiSsd.Adapters.HybridState
import AiSsd.Adapters.ProviderRuns
import AiSsd.Adapters.SelectErrors

/-!
# Where a hybrid model's calls go

A prefill gives the layers with keys to the attention provider. The later calls are routed
rightly when the layer types tell the same layers apart. The configurations that the registry
detects have no layer types, so every call goes to the attention provider, and the layers that
had no keys are not there.
-/

namespace AiSsd.Adapters

open Lib Numpy Storage TransformerKVStateProvider

universe u v w

variable {geo : KVGeometry} {σ : Type v} {α : Type u} {γ : Type w}

/-! ## The layers of a model -/

def NativeState.keysOf : NativeState geo γ → Nat → Option (List (KVToken geo))
  | .layers objects, i => objects[i]?.bind LayerObject.keys
  | .byLayer dict, i => dict.get? i
  | .keyCache pairs, i | .tuple pairs, i => pairs[i]?

def NativeState.HadKeys (native : NativeState geo γ) (i : Nat) : Prop := (native.keysOf i).isSome

/-- How many layers the container lists; a dictionary lists none in order. -/
def NativeState.length : NativeState geo γ → Nat
  | .layers objects => objects.length
  | .byLayer _ => 0
  | .keyCache pairs | .tuple pairs => pairs.length

/-- A layer index of the model, by its configuration or by its native state. -/
def IsLayer (config : Descriptor.ModelArchitectureConfig) (native : NativeState geo γ)
    (i : Nat) : Prop :=
  i < config.numLayers.toNat ∨ i < native.length

theorem mem_attnLayers {objects : List (LayerObject geo γ)} {i : Nat}
    {tokens : List (KVToken geo)} :
    (i, tokens) ∈ attnLayers objects ↔ objects[i]?.bind LayerObject.keys = some tokens := by
  simp only [attnLayers, List.mem_filterMap, Option.map_eq_some_iff, Prod.mk.injEq, Prod.exists,
    Option.bind_eq_some_iff]
  constructor
  · rintro ⟨layer, j, hmem, found, hkeys, hj, hfound⟩
    rw [List.mem_zipIdx_iff_getElem?] at hmem
    subst hj hfound
    exact ⟨layer, hmem, hkeys⟩
  · rintro ⟨layer, hlayer, hkeys⟩
    exact ⟨layer, i, List.mem_zipIdx_iff_getElem?.mpr hlayer, tokens, hkeys, rfl, rfl⟩

theorem isSome_get?_setEach {ν : Type*} (binds : List (Nat × ν)) (i : Nat) :
    ((Dict.empty.setEach binds).get? i).isSome ↔ i ∈ binds.map Prod.fst := by
  have h : ((Dict.empty.setEach binds).get? i).any (fun _ => true) =
      decide (i ∈ binds.map Prod.fst) :=
    Dict.any_get?_setEach _ Dict.empty binds (fun _ _ => rfl) rfl
  rw [← decide_eq_true_iff (p := i ∈ binds.map Prod.fst), ← h]
  cases (Dict.empty.setEach binds).get? i <;> simp

/-- The layers that the attention provider is given are those with keys. -/
theorem mem_layersDict {native : NativeState geo γ} {layers : List (Nat × List (KVToken geo))}
    (h : native.attention.layersDict = .ok layers) (i : Nat) :
    i ∈ layers.map Prod.fst ↔ native.HadKeys i := by
  have hdict : ∀ dict : Dict Nat (List (KVToken geo)),
      (if dict.entries = [] then .error .stopIteration else .ok dict.entries :
        Except PyErr (List (Nat × List (KVToken geo)))) = .ok layers →
      (i ∈ layers.map Prod.fst ↔ (dict.get? i).isSome) := by
    intro dict hok
    split at hok
    · cases hok
    · cases hok
      rw [← not_iff_not, Bool.not_eq_true, Option.isSome_eq_false_iff, Option.isNone_iff_eq_none]
      exact (Dict.lookup_eq_none_iff _ i).symm
  have hpairs : ∀ pairs : List (List (KVToken geo)),
      (if pairs = [] then .error .indexError
        else .ok (pairs.zipIdx.map fun p => (p.2, p.1)) :
        Except PyErr (List (Nat × List (KVToken geo)))) = .ok layers →
      (i ∈ layers.map Prod.fst ↔ (pairs[i]?).isSome) := by
    intro pairs hok
    split at hok
    · cases hok
    · cases hok
      rw [Option.isSome_iff_exists]
      simp [List.mem_zipIdx_iff_getElem?]
  cases native with
  | layers objects =>
      rw [hdict _ h, isSome_get?_setEach, NativeState.HadKeys, NativeState.keysOf,
        Option.isSome_iff_exists]
      simp [mem_attnLayers]
  | byLayer dict => exact hdict dict h
  | keyCache pairs => exact hpairs pairs h
  | tuple pairs => exact hpairs pairs h

namespace HybridStateProvider

section Routing

variable [Field α] [LinearOrder α] {B : BlockBackend σ α} {cfg : HybridConfig} {N : Numerics α}
  {kernel : Option (Kernel α)} {s : HybridStateProvider geo σ γ} {i : Nat}

/-! ## Routing -/

variable (B cfg N kernel) in
def ToAttention (s : HybridStateProvider geo σ γ) (i : Nat) : Prop :=
  (∀ stateTensors, s.appendNewToken cfg i stateTensors = s.appendToAttention i stateTensors) ∧
    ∀ query, s.selectAndFetchActiveState B cfg N kernel i query =
      s.selectFromAttention B cfg N kernel i query

variable (B cfg N kernel) in
def ToResident (s : HybridStateProvider geo σ γ) (i : Nat) : Prop :=
  (∀ stateTensors, s.appendNewToken cfg i stateTensors = (.ok (), s.markUpdated i)) ∧
    ∀ query, s.selectAndFetchActiveState B cfg N kernel i query =
      (.ok (.resident (s.residentSsmStates.get? i)), s)

variable (B cfg N kernel) in
/-- The calls on a layer go where its prefill put it, and raise no `KeyError`. -/
structure Routes (keyed : Prop) (s : HybridStateProvider geo σ γ) (i : Nat) : Prop where
  attention : ToAttention B cfg N kernel s i ↔ keyed
  resident : ToResident B cfg N kernel s i ↔ ¬ keyed
  append_quiet : ∀ stateTensors message,
    (s.appendNewToken cfg i stateTensors).1 ≠ .error (.keyError message)
  select_quiet : ∀ query message,
    (s.selectAndFetchActiveState B cfg N kernel i query).1 ≠ .error (.keyError message)

/-- The layer types decide. A call without tensors tells the two ways apart. -/
theorem toAttention_iff :
    ToAttention B cfg N kernel s i ↔ cfg.config.isLayerAttention i = true := by
  constructor
  · intro h
    by_contra htype
    have hcall := h.1 []
    simp [appendNewToken, appendToAttention, htype] at hcall
  · intro htype
    simp [ToAttention, appendNewToken, selectAndFetchActiveState, htype]

theorem toResident_iff :
    ToResident B cfg N kernel s i ↔ ¬ cfg.config.isLayerAttention i = true := by
  constructor
  · intro h htype
    have hcall := h.1 []
    simp [appendNewToken, appendToAttention, htype] at hcall
  · intro htype
    simp [ToResident, appendNewToken, selectAndFetchActiveState, htype]

/-! ## What a prefill leaves -/

/-- The attention provider has the layers that `keyed` says, with their blocks in the store. -/
def Serves (cfg : HybridConfig) (V : B.ReturnsLastWrite) (keyed : Nat → Prop)
    (s : HybridStateProvider geo σ γ) : Prop :=
  ∃ h : Nat → Option (History geo), Follows cfg.attention s.attentionProvider h ∧
    HasBlocks cfg.attention V s.attentionProvider.backend h ∧ ∀ i, (h i).isSome ↔ keyed i

variable {V : B.ReturnsLastWrite} {keyed : Nat → Prop}

theorem isSome_restart (h : Nat → Option (History geo)) (layers : List (Nat × List (KVToken geo)))
    (i : Nat) : (restart h layers i).isSome ↔ (h i).isSome ∨ i ∈ layers.map Prod.fst := by
  induction layers generalizing h with
  | nil => simp [restart]
  | cons layer rest ih =>
      obtain ⟨l, tokens⟩ := layer
      rw [restart, ih, List.map_cons, List.mem_cons]
      by_cases hl : i = l
      · simp [hl]
      · simp [hl]

omit [Field α] [LinearOrder α] in
theorem noteLayers_of_ok {cfg : ProviderConfig} {p p' : TransformerKVStateProvider geo σ}
    {layers : List (Nat × List (KVToken geo))} (h : Nat → Option (History geo))
    (hok : prefillLayers B cfg layers p = (.ok (), p')) :
    noteLayers B cfg layers p h = restart h layers := by
  induction layers generalizing p h with
  | nil => rfl
  | cons layer rest ih =>
      obtain ⟨l, tokens⟩ := layer
      rw [prefillLayers] at hok
      rw [noteLayers, restart]
      rcases hone : prefillLayer B cfg p l tokens with ⟨_ | _, p₁⟩
      · rw [hone] at hok
        cases hok
      · rw [hone] at hok
        exact ih _ hok

omit [Field α] [LinearOrder α] in
/-- A prefill that returns has put the layers with keys into the attention provider. -/
theorem serves_initFromPrefill {b : σ} (hb : V.Valid b) {native : NativeState geo γ}
    {s : HybridStateProvider geo σ γ}
    (hinit : initFromPrefill B cfg (init cfg b) native = (.ok (), s)) :
    Serves cfg V native.HadKeys s := by
  let start : TransformerKVStateProvider geo σ := .init cfg.attention b
  let untouched : Nat → Option (History geo) := fun _ => none
  have hstart : HasBlocks cfg.attention V start.backend untouched := ⟨hb, by simp [untouched]⟩
  have hfollows : Follows cfg.attention _
      (note B cfg.attention untouched start (.prefill native.attention : Event geo α)) :=
    follows_prefill (follows_init b) native.attention
  have hblocks : HasBlocks cfg.attention V _
      (note B cfg.attention untouched start (.prefill native.attention : Event geo α)) :=
    hasBlocks_prefill hstart native.attention
  unfold initFromPrefill at hinit
  dsimp only at hinit
  cases hlayers : native.attention.layersDict with
  | error err =>
      simp [TransformerKVStateProvider.initFromPrefill, hlayers] at hinit
  | ok layers =>
      rcases hrun : TransformerKVStateProvider.initFromPrefill B cfg.attention
        (init cfg b : HybridStateProvider geo σ γ).attentionProvider native.attention
        with ⟨_ | _, p⟩
      · rw [hrun] at hinit
        cases hinit
      · rw [hrun] at hinit
        cases hinit
        have hnote : note B cfg.attention untouched start
            (.prefill native.attention : Event geo α) = restart untouched layers := by
          simp only [TransformerKVStateProvider.initFromPrefill, hlayers] at hrun
          simp only [note, hlayers]
          exact noteLayers_of_ok _ hrun
        change TransformerKVStateProvider.initFromPrefill B cfg.attention start
          native.attention = (.ok (), p) at hrun
        rw [hnote, hrun] at hfollows hblocks
        refine ⟨restart untouched layers, hfollows, hblocks, fun i => ?_⟩
        rw [isSome_restart, mem_layersDict hlayers]
        simp [untouched]

/-! ## What the later calls leave -/

omit [Field α] [LinearOrder α] in
theorem Serves.append (h : Serves cfg V keyed s) (i : Nat) (stateTensors : List (TokenRow geo)) :
    Serves cfg V keyed (s.appendToAttention i stateTensors).2 := by
  obtain ⟨hist, hfollows, hblocks, hkeyed⟩ := h
  unfold appendToAttention
  split
  · rename_i kTok vTok _
    refine ⟨_, follows_append (α := α) (B := B) hfollows i kTok vTok,
      hasBlocks_append (α := α) hblocks i kTok vTok, fun j => ?_⟩
    rw [← hkeyed j, note]
    by_cases hj : j = i
    · simp [hj]
    · simp [hj]
  · exact ⟨hist, hfollows, hblocks, hkeyed⟩

theorem Serves.select (h : Serves cfg V keyed s) (i : Nat) (query : Option (List (List α))) :
    Serves cfg V keyed (s.selectFromAttention B cfg N kernel i query).2 := by
  obtain ⟨hist, hfollows, hblocks, hkeyed⟩ := h
  have hsame : SameLayers V s.attentionProvider
      (TransformerKVStateProvider.selectAndFetchActiveState B cfg.attention N kernel
        s.attentionProvider i query).2 :=
    sameLayers_select hblocks.valid i query
  exact ⟨hist, hfollows.of_layerData hsame.layerData_eq, hblocks.keeps hsame.backend, hkeyed⟩

omit [Field α] [LinearOrder α] in
theorem Serves.markUpdated (h : Serves cfg V keyed s) (i : Nat) :
    Serves cfg V keyed (s.markUpdated i) := by
  unfold HybridStateProvider.markUpdated
  split <;> exact h

theorem serves_step (h : Serves cfg V keyed s) (call : Call geo α) :
    Serves cfg V keyed ((machine B cfg N kernel).step s call).2 := by
  cases call with
  | append layerIdx stateTensors =>
      simp only [machine, appendNewToken]
      split
      · exact h.append layerIdx stateTensors
      · exact h.markUpdated layerIdx
  | select layerIdx query =>
      simp only [machine, selectAndFetchActiveState]
      split
      · exact h.select layerIdx query
      · exact h

theorem serves_run (h : Serves cfg V keyed s) (calls : List (Call geo α)) :
    Serves cfg V keyed ((machine B cfg N kernel).exec s calls) :=
  (machine B cfg N kernel).exec_invariant (I := Serves cfg V keyed)
    (fun _ call h => serves_step h call) s calls h

theorem Serves.quiet (h : Serves cfg V keyed s) (hnames : NamesCandidates V kernel)
    (hi : keyed i) :
    (∀ stateTensors, Quiet (fun _ => True) (s.appendToAttention i stateTensors).1) ∧
      ∀ query, Quiet (fun _ => True) (s.selectFromAttention B cfg N kernel i query).1 := by
  obtain ⟨hist, hfollows, hblocks, hkeyed⟩ := h
  obtain ⟨H, hH⟩ := Option.isSome_iff_exists.mp ((hkeyed i).mpr hi)
  obtain ⟨ld, hld, hlaid⟩ := hfollows.present i H hH
  constructor
  · intro stateTensors
    unfold appendToAttention
    split
    · simp [TransformerKVStateProvider.appendNewToken, hld, Quiet]
    · simp [Quiet, PyErr.IsKeyError]
  · intro query
    let blk := fun bid => cfg.attention.storedBlock (cfg.attention.blockTokens H.prompt bid)
    have hheld : ∀ c ∈ ld.candidateBlocks,
        V.content s.attentionProvider.backend (i, c.1) = some (blk c.1) :=
      fun c hc => hblocks.stored i H hH c.1 (hlaid.candidate hc).1
    have hquiet : Quiet (fun _ => True) (TransformerKVStateProvider.selectAndFetchActiveState
        B cfg.attention N kernel s.attentionProvider i query).1 :=
      quiet_select hnames hblocks.valid hld hheld query
    exact hquiet.map fun _ _ => trivial

/-- A layer's calls are routed rightly exactly when its layer type says what its prefill did. -/
theorem routes_iff (h : Serves cfg V keyed s) (hnames : NamesCandidates V kernel) :
    Routes B cfg N kernel (keyed i) s i ↔ (cfg.config.isLayerAttention i = true ↔ keyed i) := by
  constructor
  · intro hroutes
    have htype : ToAttention B cfg N kernel s i ↔ cfg.config.isLayerAttention i = true :=
      toAttention_iff
    rw [← htype, hroutes.attention]
  · intro hagree
    refine ⟨toAttention_iff.trans hagree, toResident_iff.trans (not_congr hagree), ?_, ?_⟩
    · intro stateTensors
      unfold appendNewToken
      split
      · rename_i htype
        exact ((h.quiet (N := N) hnames (hagree.mp htype)).1 stateTensors).ne_keyError
      · simp
    · intro query
      unfold selectAndFetchActiveState
      split
      · rename_i htype
        exact ((h.quiet hnames (hagree.mp htype)).2 query).ne_keyError
      · simp

/-- In every state after a prefill the layers are routed rightly exactly when the layer types
tell the layers with keys from the others. -/
theorem routes_run_iff (hnames : NamesCandidates V kernel) {b : σ} (hb : V.Valid b)
    {native : NativeState geo γ}
    (hinit : initFromPrefill B cfg (init cfg b) native = (.ok (), s)) :
    (∀ calls i, IsLayer cfg.config native i →
        Routes B cfg N kernel (native.HadKeys i) ((machine B cfg N kernel).exec s calls) i) ↔
      ∀ i, IsLayer cfg.config native i →
        (cfg.config.isLayerAttention i = true ↔ native.HadKeys i) := by
  have hserves := serves_initFromPrefill hb hinit
  constructor
  · intro h i hi
    exact (routes_iff hserves hnames).mp (h [] i hi)
  · intro h calls i hi
    exact (routes_iff (serves_run hserves calls) hnames).mpr (h i hi)

/-! ## Detected configurations -/

theorem layerTypes_of_detect {py : PyCase} {hf : AutoConfig} {r : ModelRegistry}
    {modelIdentifier : String} {config : Descriptor.ModelArchitectureConfig}
    {level reason : PyVal}
    (h : r.detectModelConfig py hf modelIdentifier = .ok (config, level, reason)) :
    config.layerTypes = none := by
  unfold ModelRegistry.detectModelConfig at h
  split at h
  · rename_i entry _
    cases hentry : entryConfig entry with
    | error err =>
        rw [hentry] at h
        cases h
    | ok cfg =>
        rw [hentry] at h
        cases h
        unfold entryConfig at hentry
        split at hentry
        · split at hentry
          · cases hentry
          · cases hentry
            rfl
        · cases hentry
  · split at h
    · cases h
      rfl
    · cases h
      rfl

theorem isLayerAttention_of_detect {py : PyCase} {hf : AutoConfig} {r : ModelRegistry}
    {modelIdentifier : String} {config : Descriptor.ModelArchitectureConfig}
    {level reason : PyVal}
    (h : r.detectModelConfig py hf modelIdentifier = .ok (config, level, reason)) (i : Nat) :
    config.isLayerAttention i = true := by
  rw [Descriptor.ModelArchitectureConfig.isLayerAttention, layerTypes_of_detect h]

/-- With a detected configuration the layers of a model are routed rightly exactly when all of
them had keys. -/
theorem detected_routes_iff {py : PyCase} {hf : AutoConfig} {r : ModelRegistry}
    {modelIdentifier : String} {level reason : PyVal}
    (hdetect : r.detectModelConfig py hf modelIdentifier = .ok (cfg.config, level, reason))
    (hnames : NamesCandidates V kernel) {b : σ} (hb : V.Valid b) {native : NativeState geo γ}
    (hinit : initFromPrefill B cfg (init cfg b) native = (.ok (), s)) :
    (∀ calls i, IsLayer cfg.config native i →
        Routes B cfg N kernel (native.HadKeys i) ((machine B cfg N kernel).exec s calls) i) ↔
      ∀ i, IsLayer cfg.config native i → native.HadKeys i := by
  rw [routes_run_iff hnames hb hinit]
  simp only [isLayerAttention_of_detect hdetect, true_iff]

/-- The built-in table alone, with no network behind it. -/
def detectBuiltin (key : String) :
    Except PyErr (Descriptor.ModelArchitectureConfig × PyVal × PyVal) :=
  (ModelRegistry.mk none KNOWN_MODELS).detectModelConfig .ascii (fun _ => .error "offline") key

def jambaConfig : HybridConfig where
  config :=
    match detectBuiltin "jamba" with
    | .ok found => found.1
    | .error _ => failedConfig "jamba" ""
  sinkTokens := 4
  recentTokens := 16
  tokensPerBlock := 16
  topKPct := 10
  enableComputationalStorage := false
  enablePrefetch := true
  enableAsyncPipeline := false

abbrev jambaStart :
    HybridStateProvider oneByOne
      (RealInferenceStorageBackend RealInferenceStorageBackend.tinyConfig) Unit :=
  init jambaConfig RealInferenceStorageBackend.init

abbrev keyedCache : NativeState oneByOne Unit := .keyCache (List.replicate 32 [floatToken 128])

theorem detected_routes_keyed_cache :
    (∀ i, IsLayer jambaConfig.config keyedCache i → keyedCache.HadKeys i) ∧
      ∀ calls i, IsLayer jambaConfig.config keyedCache i →
        Routes fileBackend jambaConfig floatNumerics none (keyedCache.HadKeys i)
          ((machine fileBackend jambaConfig floatNumerics none).exec
            (initFromPrefill fileBackend jambaConfig jambaStart keyedCache).2 calls) i := by
  have hdetect : (ModelRegistry.mk none KNOWN_MODELS).detectModelConfig .ascii
      (fun _ => .error "offline") "jamba" = .ok (jambaConfig.config, PyVal.level .partially,
        jambaConfig.config.compatibilityReason) := by rfl
  have hok : (initFromPrefill fileBackend jambaConfig jambaStart keyedCache).1 = .ok () := by
    decide +kernel
  have hkeys : ∀ i, IsLayer jambaConfig.config keyedCache i → keyedCache.HadKeys i := by
    intro i hi
    have hlayer : i < 32 := by
      rcases hi with hi | hi
      · exact hi
      · simpa [NativeState.length] using hi
    simp [NativeState.HadKeys, NativeState.keysOf, hlayer]
  exact ⟨hkeys, (detected_routes_iff hdetect
    (namesCandidates_of_scoresStored (N := floatNumerics)
      RealInferenceStorageBackend.scoresStored)
    (RealInferenceStorageBackend.reached_init knownMode_tinyConfig)
    (Prod.ext hok rfl)).mpr hkeys⟩

/-- Layer 0 of a Mamba and an attention layer has no keys; its tokens and queries go to the
attention provider, which does not have it. -/
theorem mamba_layer_raises :
    let native : NativeState oneByOne Unit :=
      .layers [⟨none, some (), some ()⟩, ⟨some [floatToken 128], none, none⟩]
    let r := initFromPrefill fileBackend jambaConfig jambaStart native
    (∃ level reason, detectBuiltin "jamba" = .ok (jambaConfig.config, level, reason)) ∧
      r.1 = .ok () ∧ IsLayer jambaConfig.config native 0 ∧ ¬ native.HadKeys 0 ∧
      (r.2.residentSsmStates.get? 0).isSome ∧
      (r.2.appendNewToken jambaConfig 0 [floatRow 0 0, floatRow 0 0]).1 = .error (.keyError "0") ∧
      (r.2.selectAndFetchActiveState fileBackend jambaConfig floatNumerics none 0
        (some [[1]])).1 = .error (.keyError "0") ∧
      ¬ Routes fileBackend jambaConfig floatNumerics none (native.HadKeys 0) r.2 0 := by
  refine ⟨⟨_, _, rfl⟩, by decide +kernel, .inl (by decide), by simp [NativeState.HadKeys,
    NativeState.keysOf], by decide +kernel, by decide +kernel, rfl, ?_⟩
  intro hroutes
  exact hroutes.append_quiet [floatRow 0 0, floatRow 0 0] "0" (by decide +kernel)

/-- A layer that had no keys is not in the attention provider: its calls raise. -/
theorem keyError_of_unkeyed (h : Serves cfg V keyed s)
    (htype : cfg.config.isLayerAttention i = true) (hi : ¬ keyed i) :
    (∀ kTok vTok rest, (s.appendNewToken cfg i (kTok :: vTok :: rest)).1 =
        .error (.keyError (toString i))) ∧
      ∀ q, (s.selectAndFetchActiveState B cfg N kernel i (some q)).1 =
        .error (.keyError (toString i)) := by
  obtain ⟨hist, hfollows, -, hkeyed⟩ := h
  have habsent : s.attentionProvider.layerData.get? i = none := by
    apply hfollows.absent
    rw [← Option.not_isSome_iff_eq_none, hkeyed]
    exact hi
  constructor
  · intro kTok vTok rest
    simp [appendNewToken, htype, appendToAttention, TransformerKVStateProvider.appendNewToken,
      habsent]
  · intro q
    simp [selectAndFetchActiveState, htype, selectFromAttention,
      TransformerKVStateProvider.selectAndFetchActiveState, habsent, Except.map]

end Routing

end HybridStateProvider

end AiSsd.Adapters
