import AiSsd.Adapters.ActiveState

/-!
# Computational storage over the inference backend

Scoring in storage and scoring on the host select the same tensors in every state that
calls of the provider and operations on its file backend can reach, as long as the
candidates of the layer are still stored.
-/

namespace AiSsd.Adapters.TransformerKVStateProvider

open Lib Numpy Storage

universe u v

variable {geo : KVGeometry} {σ : Type v} {α : Type u} {B : BlockBackend σ α}
  {cfg : ProviderConfig} {V : B.ReturnsLastWrite} {s : TransformerKVStateProvider geo σ}

/-! ## What every call keeps -/

/-- The store is in order and every layer has the geometry of the model. -/
structure Sound (V : B.ReturnsLastWrite) (s : TransformerKVStateProvider geo σ) : Prop where
  valid : V.Valid s.backend
  kvHeads : ∀ l ld, s.layerData.get? l = some ld → s.numKvHeads = geo.kvHeads

theorem valid_offloadBlocks (l : Nat) (kT vT : List (TokenRow geo)) (count bid : Nat) {b : σ}
    (hb : V.Valid b) : V.Valid (offloadBlocks B cfg l kT vT count bid b).2 := by
  induction count generalizing bid b with
  | zero => exact hb
  | succ count ih =>
      unfold offloadBlocks
      dsimp only
      split <;> rename_i b' hwrite
      all_goals
        have hvalid : V.Valid b' := by
          rw [← show _ = b' from congrArg Prod.snd hwrite]
          exact V.write_valid b l bid _ _ 0 0 hb (blockArray_shape_ne _ _) (blockArray_shape_ne _ _)
      · exact hvalid
      · have hrest := ih (bid + 1) hvalid
        split <;> rename_i hres <;> rwa [hres] at hrest

variable (cfg) in
theorem valid_offload (l : Nat) (kT vT : List (TokenRow geo)) {b : σ} (hb : V.Valid b) :
    V.Valid (offload B cfg l kT vT b).2 := by
  unfold offload
  split
  · exact hb
  · exact valid_offloadBlocks l kT vT _ 0 hb

variable (cfg) in
/-- One layer of a prefill keeps the store in order, also when it raises. -/
theorem prefillLayer_keeps (hs : V.Valid s.backend) (l : Nat) (tokens : List (KVToken geo)) :
    V.Valid (prefillLayer B cfg s l tokens).2.backend ∧
      (prefillLayer B cfg s l tokens).2.numKvHeads = s.numKvHeads := by
  unfold prefillLayer
  dsimp only
  split
  · exact ⟨hs, rfl⟩
  · split <;> rename_i b' hload
    all_goals
      split at hload
      · have hvalid := valid_offload (V := V) cfg l
          (slice (tokens.map Prod.fst) cfg.sinkTokens (tokens.length - cfg.recentTokens))
          (slice (tokens.map Prod.snd) cfg.sinkTokens (tokens.length - cfg.recentTokens)) hs
        rw [hload] at hvalid
        exact ⟨hvalid, rfl⟩
      · cases hload
        all_goals exact ⟨hs, rfl⟩

variable (cfg) in
theorem prefillLayers_keeps (layers : List (Nat × List (KVToken geo))) (hs : V.Valid s.backend) :
    V.Valid (prefillLayers B cfg layers s).2.backend ∧
      (prefillLayers B cfg layers s).2.numKvHeads = s.numKvHeads := by
  induction layers generalizing s with
  | nil => exact ⟨hs, rfl⟩
  | cons layer rest ih =>
      have hone := prefillLayer_keeps cfg hs layer.1 layer.2
      unfold prefillLayers
      split <;> rename_i hres <;> rw [hres] at hone
      · exact hone
      · obtain ⟨hvalid, hheads⟩ := ih hone.1
        exact ⟨hvalid, hheads.trans hone.2⟩

theorem sound_prefill (h : Sound V s) (past : PastKeyValues geo) :
    Sound V (initFromPrefill B cfg s past).2 := by
  unfold initFromPrefill
  split
  · exact h
  · obtain ⟨hvalid, hheads⟩ := prefillLayers_keeps (V := V) cfg _ (s :=
      { s with
        numKvHeads := geo.kvHeads
        headDim := geo.headDim
        pageBytes := some
          (cfg.tokensPerBlock * geo.kvHeads * geo.headDim * geo.bytesPerElem) }) h.valid
    exact ⟨hvalid, fun _ _ _ => hheads⟩

theorem sound_append (h : Sound V s) (l : Nat) (kTok vTok : TokenRow geo) :
    Sound V (appendNewToken s l kTok vTok).2 := by
  unfold appendNewToken
  split
  · exact h
  · rename_i ld hld
    exact ⟨h.valid, fun _ _ _ => h.kvHeads l ld hld⟩

theorem Sound.of_sameLayers {s' : TransformerKVStateProvider geo σ} (h : Sound V s)
    (hsame : SameLayers V s s') : Sound V s' := by
  refine ⟨hsame.backend.valid, ?_⟩
  rw [hsame.layerData_eq, hsame.numKvHeads_eq]
  exact h.kvHeads

theorem Sound.of_backend {b : σ} (h : Sound V s) (hb : V.Valid b) :
    Sound V { s with backend := b } := ⟨hb, h.kvHeads⟩

/-! ## A store that refuses every write -/

def NoCandidates (s : TransformerKVStateProvider geo σ) : Prop :=
  ∀ l ld, s.layerData.get? l = some ld → ld.candidateBlocks = []

section Refusing

variable (hrefuse : ∀ b l bid k v h t, ∃ err, (B.writeBlock b l bid k v h t).1 = .error err)

include hrefuse in
theorem offloadBlocks_refused (l : Nat) (kT vT : List (TokenRow geo)) (count bid : Nat) (b : σ)
    {cands : List (Nat × Nat)} (h : (offloadBlocks B cfg l kT vT count bid b).1 = .ok cands) :
    cands = [] := by
  cases count with
  | zero =>
      cases h
      rfl
  | succ count =>
      unfold offloadBlocks at h
      dsimp only at h
      split at h
      · cases h
      · rename_i hwrite
        obtain ⟨err, herr⟩ := hrefuse b l bid _ _ 0 0
        rw [hwrite] at herr
        cases herr

theorem noCandidates_set {l : Nat} {ld : LayerData geo} (h : NoCandidates s)
    (hld : ld.candidateBlocks = []) (b : σ) :
    NoCandidates { s with backend := b, layerData := s.layerData.set l ld } := by
  intro l' ld' hget
  rw [Dict.get?_set] at hget
  split at hget
  · cases hget
    exact hld
  · exact h l' ld' hget

include hrefuse in
variable (cfg) in
theorem noCandidates_prefillLayer (h : NoCandidates s) (l : Nat) (tokens : List (KVToken geo)) :
    NoCandidates (prefillLayer B cfg s l tokens).2 := by
  unfold prefillLayer
  dsimp only
  split
  · exact noCandidates_set h rfl s.backend
  · split <;> rename_i hload
    · exact h
    · refine noCandidates_set h ?_ _
      split at hload
      · rename_i hhist
        unfold offload at hload
        split at hload
        · cases hload
        · exact offloadBlocks_refused hrefuse l _ _ _ 0 s.backend (congrArg Prod.fst hload)
      · cases hload
        rfl

include hrefuse in
theorem noCandidates_prefillLayers (layers : List (Nat × List (KVToken geo)))
    (h : NoCandidates s) : NoCandidates (prefillLayers B cfg layers s).2 := by
  induction layers generalizing s with
  | nil => exact h
  | cons layer rest ih =>
      have hone := noCandidates_prefillLayer cfg hrefuse h layer.1 layer.2
      unfold prefillLayers
      split <;> rename_i hres <;> rw [hres] at hone
      · exact hone
      · exact ih hone

include hrefuse in
theorem noCandidates_prefill (h : NoCandidates s) (past : PastKeyValues geo) :
    NoCandidates (initFromPrefill B cfg s past).2 := by
  unfold initFromPrefill
  split
  · exact h
  · exact noCandidates_prefillLayers hrefuse _ h

theorem noCandidates_append (h : NoCandidates s) (l : Nat) (kTok vTok : TokenRow geo) :
    NoCandidates (appendNewToken s l kTok vTok).2 := by
  unfold appendNewToken
  split
  · exact h
  · rename_i ld hld
    refine noCandidates_set h ?_ s.backend
    exact h l ld hld

end Refusing

/-! ## Over the file backend -/

section FileBackend

variable [Field α] [LinearOrder α] {storage : BackendConfig}

/-- Calls of the provider, and operations on its backend beside it. -/
inductive Call (geo : KVGeometry) (α : Type u) where
  | provider (event : Event geo α)
  | backend (op : RealInferenceStorageBackend.Op α)

variable (storage) (cfg) (N : Numerics α)

def callMachine : Machine
    (TransformerKVStateProvider geo (RealInferenceStorageBackend storage)) (Call geo α) Unit where
  step := fun s call =>
    match call with
    | .provider event =>
        ((), (step (RealInferenceStorageBackend.blockBackend storage N.val) cfg N none s event).2)
    | .backend op =>
        ((), { s with backend := (RealInferenceStorageBackend.step storage N.val none s.backend op).2 })

variable {storage} {cfg} {N}

variable (cfg N) in
theorem sound_calls (hmode : RealInferenceStorageBackend.KnownMode storage)
    (calls : List (Call geo α)) :
    Sound (RealInferenceStorageBackend.returnsLastWrite storage N.val)
      ((callMachine cfg storage N).exec (init cfg RealInferenceStorageBackend.init) calls) := by
  apply Machine.exec_invariant
  · intro s call hs
    cases call with
    | provider event =>
        cases event with
        | prefill past => exact sound_prefill hs past
        | append l kTok vTok => exact sound_append hs l kTok vTok
        | select l query => exact hs.of_sameLayers (sameLayers_select hs.valid l query)
    | backend op => exact hs.of_backend (RealInferenceStorageBackend.reached_step none hs.valid op)
  · exact ⟨RealInferenceStorageBackend.reached_init hmode, by simp [init]⟩

variable (cfg N) in
theorem noCandidates_calls (hmode : ¬ RealInferenceStorageBackend.KnownMode storage)
    (calls : List (Call geo α)) :
    NoCandidates
      ((callMachine cfg storage N).exec (init cfg RealInferenceStorageBackend.init) calls) := by
  have hrefuse : ∀ b l bid k v h t, ∃ err,
      ((RealInferenceStorageBackend.blockBackend storage N.val).writeBlock b l bid k v h t).1 =
        .error err := fun b l bid k v h t =>
    RealInferenceStorageBackend.writeBlock_refused hmode b l bid (.array k) (.array v) h t
  apply Machine.exec_invariant
  · intro s call hs
    cases call with
    | provider event =>
        cases event with
        | prefill past => exact noCandidates_prefill hrefuse hs past
        | append l kTok vTok => exact noCandidates_append hs l kTok vTok
        | select l query =>
            have hsame : ((callMachine cfg storage N).step s
                (.provider (.select l query))).2.layerData = s.layerData :=
              layerData_select s l query
            intro l' ld hld
            rw [hsame] at hld
            exact hs l' ld hld
    | backend op => exact hs
  · intro l ld hld
    cases hld

/-- With the candidates of the layer stored, scoring in storage, with or without the
asynchronous pipeline, selects what scoring on the host selects. -/
theorem storage_selects_like_host (calls : List (Call geo α)) (async : Bool) (l : Nat)
    (query : Option (List (List α)))
    (hheads : ∀ q ∈ query, q.length = cfg.config.gqaRatio * geo.kvHeads)
    (hstored : ∀ ld,
      ((callMachine cfg storage N).exec (init cfg RealInferenceStorageBackend.init)
        calls).layerData.get? l = some ld → ∀ c ∈ ld.candidateBlocks,
      RealInferenceStorageBackend.containsBlock
        ((callMachine cfg storage N).exec (init cfg RealInferenceStorageBackend.init)
          calls).backend l c.1 = true) :
    (selectAndFetchActiveState (RealInferenceStorageBackend.blockBackend storage N.val)
        { cfg with enableComputationalStorage := true, enableAsyncPipeline := async } N none
        ((callMachine cfg storage N).exec (init cfg RealInferenceStorageBackend.init) calls)
        l query).1 =
      (selectAndFetchActiveState (RealInferenceStorageBackend.blockBackend storage N.val)
        { cfg with enableComputationalStorage := false } N none
        ((callMachine cfg storage N).exec (init cfg RealInferenceStorageBackend.init) calls)
        l query).1 := by
  by_cases hmode : RealInferenceStorageBackend.KnownMode storage
  · have hsound := sound_calls cfg N hmode calls
    generalize (callMachine cfg storage N).exec (init cfg RealInferenceStorageBackend.init) calls
      = s at hstored hsound ⊢
    cases query with
    | none => rfl
    | some q =>
        cases hld : s.layerData.get? l with
        | none => simp only [selectAndFetchActiveState, hld]
        | some ld =>
            have hkv := hsound.kvHeads l ld hld
            let blk : Nat → NDArray × NDArray := fun bid =>
              (RealInferenceStorageBackend.content s.backend (l, bid)).getD
                (NDArray.zeros [] float32, NDArray.zeros [] float32)
            have hheld : ∀ c ∈ ld.candidateBlocks,
                RealInferenceStorageBackend.content s.backend (l, c.1) = some (blk c.1) := by
              intro c hc
              have hsome := RealInferenceStorageBackend.content_isSome hsound.valid l c.1
              rw [hstored ld hld c hc] at hsome
              obtain ⟨kv, hkv⟩ := Option.isSome_iff_exists.mp hsome
              rw [hkv, show blk c.1 = kv from by simp only [blk, hkv, Option.getD_some]]
            have hgroups : q.length = cfg.config.gqaRatio * s.numKvHeads := by
              rw [hkv]
              exact hheads q rfl
            have hpos : 0 < s.numKvHeads := by
              rw [hkv]
              exact geo.kvHeads_pos
            have hon : ScoresAlike
                { cfg with enableComputationalStorage := true, enableAsyncPipeline := async }
                (RealInferenceStorageBackend.returnsLastWrite storage N.val) N s.numKvHeads
                q.length :=
              Or.inr (Or.inr ⟨RealInferenceStorageBackend.scoresStored, hpos, hgroups⟩)
            have hoff : ScoresAlike { cfg with enableComputationalStorage := false }
                (RealInferenceStorageBackend.returnsLastWrite storage N.val) N s.numKvHeads
                q.length := Or.inl rfl
            rw [select_eq hsound.valid hld hheld hon, select_eq hsound.valid hld hheld hoff]
  · -- nothing was ever stored, so there is nothing to score
    have hnone := noCandidates_calls cfg N hmode calls
    generalize (callMachine cfg storage N).exec (init cfg RealInferenceStorageBackend.init) calls
      = s at hnone ⊢
    cases query with
    | none => rfl
    | some q =>
        cases hld : s.layerData.get? l with
        | none => simp only [selectAndFetchActiveState, hld]
        | some ld => simp only [selectAndFetchActiveState, hld, hnone l ld hld, if_true]

/-- A window run with its blocks in storage, scored both ways. -/
theorem storage_selects_like_host_window :
    (selectAndFetchActiveState fileBackend
        { windowConfig with enableComputationalStorage := true, enableAsyncPipeline := true }
        floatNumerics none
        ((callMachine windowConfig RealInferenceStorageBackend.tinyConfig floatNumerics).exec
          (init windowConfig RealInferenceStorageBackend.init) (windowRun.map .provider))
        0 (some [[1]])).1 =
      (selectAndFetchActiveState fileBackend
        { windowConfig with enableComputationalStorage := false } floatNumerics none
        ((callMachine windowConfig RealInferenceStorageBackend.tinyConfig floatNumerics).exec
          (init windowConfig RealInferenceStorageBackend.init) (windowRun.map .provider))
        0 (some [[1]])).1 := by
  apply storage_selects_like_host
  · rintro q ⟨⟩
    rfl
  · rintro ld hld c hc
    have hcands : ld.candidateBlocks = [(0, 1), (1, 1)] := by
      have hrun : (((callMachine windowConfig RealInferenceStorageBackend.tinyConfig
          floatNumerics).exec (init windowConfig RealInferenceStorageBackend.init)
            (windowRun.map .provider)).layerData.get? 0).map (fun d => d.candidateBlocks) =
          some [(0, 1), (1, 1)] := by decide +kernel
      rw [hld] at hrun
      exact Option.some.inj hrun
    rw [hcands] at hc
    simp only [List.mem_cons, List.not_mem_nil, or_false] at hc
    rcases hc with rfl | rfl <;> decide +kernel

end FileBackend

end AiSsd.Adapters.TransformerKVStateProvider
