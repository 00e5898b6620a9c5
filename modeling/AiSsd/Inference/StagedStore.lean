import AiSsd.Inference.Serving
import AiSsd.Prefetch.Coherence

/-!
# Decoding through the prefetch adapter

`create_default_storage_backend` puts the prefetch adapter between provider and backend. With a
buffer of some blocks, as many layers as the model has and the shape and dtype of its blocks, the
adapter serves a decode over every backend that returns the last write: nothing is written once
something is staged, and what it prefetches for the next layer is there.
-/

namespace AiSsd.Prefetch.RealInferencePrefetchAdapter

open Lib Numpy Storage Inference
open Adapters (Astype KVGeometry ProviderConfig blockArray)
open Adapters.TransformerKVStateProvider (readPages readWinners pagesOfBlocks pagesOfBlocks_ok
  pageOf)

universe u v

variable {σ : Type v} {α : Type u} {B : BlockBackend σ α} {A : Astype} {cfg : AdapterConfig}
  {s s' : RealInferencePrefetchAdapter σ}

/-! ## The adapter as a block store -/

/-- `predict_and_prefetch` with its default stride, and `compute_topk_filter`, which the adapter
passes on. -/
def asBlockBackend (B : BlockBackend σ α) (A : Astype) (cfg : AdapterConfig) :
    BlockBackend (RealInferencePrefetchAdapter σ) α where
  writeBlock := fun s l b k v h t => writeBlock B A cfg s l b (.array k) (.array v) h t
  readKeyPage := readKeyPage B cfg
  readValuePage := readValuePage B cfg
  readBlock := readBlock B cfg
  readKeyPageBatch := some (readKeyPageBatch B cfg)
  readValuePageBatch := some (readValuePageBatch B cfg)
  readBlockBatch := some (readBlockBatch B cfg)
  evictBlock := some (evictBlock B)
  computeTopkFilter := some fun s l cands query topK scale qHeads kvHeads headDim =>
    match B.computeTopkFilter with
    | none =>
        (.error (.notImplementedError "Storage backend does not support compute_topk_filter"), s)
    | some filter =>
        let r := filter s.storageBackend l cands query topK scale qHeads kvHeads headDim
        (r.1, { s with storageBackend := r.2 })
  predictAndPrefetch := some fun s l bids _ => predictAndPrefetch B cfg s l bids 0

def resetStats (resetBackend : σ → σ) (s : RealInferencePrefetchAdapter σ) :
    RealInferencePrefetchAdapter σ :=
  { s with
    storageBackend := resetBackend s.storageBackend
    stagingBuffer := Dict.empty
    telemetry := AdapterTelemetry.zero }

/-! ## The predictor -/

@[simp] theorem predictor_hit (s : RealInferencePrefetchAdapter σ) (key : Nat × Nat)
    (entry : StagedInferenceBlock) (n : Nat) : (hit s key entry n).predictor = s.predictor := rfl

section Predictor

variable {ρ : Type} {n : Nat} {staged : List Nat → NDArray × NDArray → Except PyErr ρ}

theorem predictor_readSingle (fetch : BlockRead σ ρ) (s : RealInferencePrefetchAdapter σ)
    (l b h t : Nat) : (readSingle cfg n staged fetch s l b h t).2.predictor = s.predictor := by
  unfold readSingle
  split
  · rfl
  · dsimp only
    split <;> rfl

theorem predictor_collectHits (l : Nat) (bids : List Nat) (results : Dict Nat ρ)
    (missBids : List Nat) (s : RealInferencePrefetchAdapter σ) :
    (collectHits cfg n staged l bids results missBids s).2.predictor = s.predictor := by
  induction bids generalizing results missBids s with
  | nil => rfl
  | cons bid bids ih =>
      unfold collectHits
      split
      · split
        · rfl
        · exact ih _ _ _
      · exact ih _ _ _

theorem predictor_readEach {read : RealInferencePrefetchAdapter σ → Nat →
      Except PyErr ρ × RealInferencePrefetchAdapter σ}
    (hread : ∀ s b, (read s b).2.predictor = s.predictor) (bids : List Nat)
    (results : Dict Nat ρ) (s : RealInferencePrefetchAdapter σ) :
    (readEach read bids results s).2.predictor = s.predictor := by
  induction bids generalizing results s with
  | nil => rfl
  | cons bid bids ih =>
      have hone := hread s bid
      unfold readEach
      revert hone
      rcases read s bid with ⟨_ | ret, s'⟩
      · exact id
      · intro hone
        exact (ih _ s').trans hone

theorem predictor_readBatch (batch : Option (BatchRead σ ρ)) (fetch : BlockRead σ ρ)
    {stagedOne : List Nat → NDArray × NDArray → Except PyErr ρ}
    (s : RealInferencePrefetchAdapter σ) (l : Nat) (bids : List Nat) (h t : Nat) :
    (readBatch cfg n staged batch (readSingle cfg n stagedOne fetch) s l bids h t).2.predictor =
      s.predictor := by
  unfold readBatch
  split
  · rfl
  · have hhits : (collectHits cfg n staged l bids Dict.empty [] s).2.predictor = s.predictor :=
      predictor_collectHits l bids Dict.empty [] s
    revert hhits
    rcases collectHits cfg n staged l bids Dict.empty [] s with ⟨_ | ⟨results, missBids⟩, s₁⟩
    · exact id
    · intro hhits
      have hmisses : (fetchMisses batch (readSingle cfg n stagedOne fetch) s₁ l missBids h t
          results).2.predictor = s₁.predictor := by
        unfold fetchMisses
        split
        · rfl
        · split
          · rfl
          · exact predictor_readEach (fun s b => predictor_readSingle fetch s l b h t) missBids
              results s₁
      dsimp only at hhits ⊢
      revert hmisses
      rcases fetchMisses batch (readSingle cfg n stagedOne fetch) s₁ l missBids h t results
        with ⟨_ | pages, s₂⟩
      · exact fun hmisses => hmisses.trans hhits
      · exact fun hmisses => hmisses.trans hhits

end Predictor

/-! ## Prefetching what is stored -/

theorem ensureBufferCapacity_ok (hcap : 0 < cfg.bufferCapacityBlocks)
    (s : RealInferencePrefetchAdapter σ) : (ensureBufferCapacity cfg s).1 = .ok () := by
  rcases size_dropOldest cfg.bufferCapacityBlocks (s.stagingBuffer.size + 1) s.stagingBuffer
    s.telemetry (Nat.lt_succ_self _) with ⟨hok, -⟩ | ⟨hzero, -⟩
  · exact hok
  · omega

theorem ensureCapacityFor_ok (hcap : 0 < cfg.bufferCapacityBlocks) (missBids : List Nat)
    (s : RealInferencePrefetchAdapter σ) : ∃ s', ensureCapacityFor cfg missBids s = (.ok (), s') ∧
      s'.storageBackend = s.storageBackend ∧ s'.predictor = s.predictor := by
  induction missBids generalizing s with
  | nil => exact ⟨s, rfl, rfl, rfl⟩
  | cons bid missBids ih =>
      obtain ⟨s', hrest, hbackend, hpredictor⟩ := ih (ensureBufferCapacity cfg s).2
      have hone : ensureBufferCapacity cfg s = (.ok (), (ensureBufferCapacity cfg s).2) :=
        Prod.ext (ensureBufferCapacity_ok hcap s) rfl
      refine ⟨s', ?_, hbackend, hpredictor⟩
      rw [ensureCapacityFor, hone]
      exact hrest

section Fetch

variable {V : B.ReturnsLastWrite} {c : Content} {l : Nat}

theorem fetchBlocks_ok {b : σ} (hb : V.Valid b) {bids : List Nat}
    (hstored : ∀ bid ∈ bids, (V.content b (l, bid)).isSome) (h t : Nat) :
    ∃ fetched b', fetchBlocks B b l bids h t = (.ok fetched, b') ∧ V.Keeps b b' := by
  unfold fetchBlocks
  cases hbatch : B.readBlockBatch with
  | none => exact ⟨_, b, rfl, .refl hb⟩
  | some read =>
      obtain ⟨fetched, hok⟩ := (V.blockBatch read hbatch).succeeds b l bids h t hb hstored
      exact ⟨fetched, _, Prod.ext hok rfl, (V.blockBatch read hbatch).keeps b l bids h t hb⟩

theorem fetchBlock_ok (fetched : Dict Nat (NDArray × NDArray)) {b : σ} (hb : V.Valid b)
    {bid : Nat} (hstored : (V.content b (l, bid)).isSome) (h t : Nat) :
    ∃ kv b', fetchBlock B fetched b l bid h t = (.ok kv, b') ∧ V.Keeps b b' := by
  unfold fetchBlock
  split
  · exact ⟨_, b, rfl, .refl hb⟩
  · obtain ⟨kv, hkv⟩ := Option.isSome_iff_exists.mp hstored
    exact ⟨kv, _, Prod.ext (V.block.returns b l bid h t kv hb hkv) rfl,
      V.block.keeps b l bid h t hb⟩

variable (cfg) in
theorem stageEach_ok (fetched : Dict Nat (NDArray × NDArray)) (h t : Nat)
    (bids dispatched : List Nat)
    (hs : V.Valid s.storageBackend)
    (hstored : ∀ bid ∈ bids, (V.content s.storageBackend (l, bid)).isSome) :
    ∃ out s', stageEach B cfg fetched l h t bids dispatched s = (.ok out, s') ∧
      s'.predictor = s.predictor := by
  induction bids generalizing dispatched s with
  | nil => exact ⟨dispatched, s, rfl, rfl⟩
  | cons bid bids ih =>
      rw [List.forall_mem_cons] at hstored
      obtain ⟨kv, b', hfetch, hkeeps⟩ := fetchBlock_ok fetched hs hstored.1 h t
      obtain ⟨out, s', hrest, hpredictor⟩ := ih
        (s := stage cfg { s with storageBackend := b' } l bid h kv) (dispatched ++ [bid])
        hkeeps.valid (fun bid' hbid' => by
          have hold := hstored.2 bid' hbid'
          rw [← hkeeps.content_eq] at hold
          exact hold)
      refine ⟨out, s', ?_, hpredictor⟩
      simp only [stageEach, hfetch]
      exact hrest

theorem prefetch_ok (hcap : 0 < cfg.bufferCapacityBlocks) (hs : V.Valid s.storageBackend)
    {bids : List Nat} (hstored : ∀ bid ∈ bids, (V.content s.storageBackend (l, bid)).isSome)
    (h t : Nat) :
    ∃ out s', prefetch B cfg s bids l h t = (.ok out, s') ∧ s'.predictor = s.predictor := by
  unfold prefetch
  have hmiss : ∀ bid ∈ bids.filter fun bid => !s.stagingBuffer.contains (l, bid),
      (V.content s.storageBackend (l, bid)).isSome :=
    fun bid hbid => hstored bid (List.mem_of_mem_filter hbid)
  dsimp only
  generalize bids.filter (fun bid => !s.stagingBuffer.contains (l, bid)) = missBids at hmiss ⊢
  split
  · exact ⟨[], s, rfl, rfl⟩
  · obtain ⟨s₁, hroom, hbackend, hpredictor⟩ := ensureCapacityFor_ok hcap missBids s
    rw [← hbackend] at hs hmiss
    obtain ⟨fetched, b', hfetch, hkeeps⟩ := fetchBlocks_ok hs hmiss h t
    obtain ⟨out, s₂, hstage, hpredictor₂⟩ := stageEach_ok cfg fetched
      (s := { s₁ with storageBackend := b' }) h t missBids [] hkeeps.valid
      (by rw [hkeeps.content_eq]; exact hmiss)
    simp only [hroom, hfetch, hstage]
    exact ⟨out, _, rfl, hpredictor₂.trans hpredictor⟩

theorem mem_predicted {p p' : NextLayerPredictor} {bids predicted : List Nat} {next : Nat}
    (h : p.predictNextLayerBlocks l bids 0 = (.ok (next, predicted), p')) :
    next = (l + 1) % p.totalLayers ∧ (∀ bid ∈ predicted, bid ∈ bids) ∧
      p'.totalLayers = p.totalLayers := by
  unfold NextLayerPredictor.predictNextLayerBlocks at h
  split at h
  · cases h
  · rw [Prod.mk.injEq, Except.ok.injEq, Prod.mk.injEq] at h
    obtain ⟨⟨rfl, rfl⟩, rfl⟩ := h
    refine ⟨rfl, ?_, rfl⟩
    have hall : ∀ (rest acc : List Nat), (∀ bid ∈ acc, bid ∈ bids) → (∀ bid ∈ rest, bid ∈ bids) →
        ∀ bid ∈ rest.foldl (fun predicted bid =>
          if bid + 0 ∈ predicted then predicted else predicted ++ [bid + 0]) acc, bid ∈ bids := by
      intro rest
      induction rest with
      | nil => exact fun acc hacc _ => hacc
      | cons bid rest ih =>
          intro acc hacc hrest
          rw [List.forall_mem_cons] at hrest
          refine ih _ ?_ hrest.2
          dsimp only
          split
          · exact hacc
          · rw [List.forall_mem_append, List.forall_mem_singleton]
            exact ⟨hacc, hrest.1⟩
    exact hall bids [] (fun _ hbid => absurd hbid List.not_mem_nil) fun _ hbid => hbid

theorem predictAndPrefetch_ok (hcap : 0 < cfg.bufferCapacityBlocks)
    (hs : V.Valid s.storageBackend) (hl : l < s.predictor.totalLayers) {bids : List Nat}
    (hstored : ∀ l' < s.predictor.totalLayers, ∀ bid ∈ bids,
      (V.content s.storageBackend (l', bid)).isSome) :
    ∃ out s', predictAndPrefetch B cfg s l bids 0 = (.ok out, s') ∧
      s'.predictor.totalLayers = s.predictor.totalLayers := by
  unfold predictAndPrefetch
  have hpos : 0 < s.predictor.totalLayers := Nat.zero_lt_of_lt hl
  rcases hcall : s.predictor.predictNextLayerBlocks l bids 0 with ⟨_ | ⟨next, predicted⟩, p⟩
  · rw [NextLayerPredictor.predictNextLayerBlocks, if_neg (Nat.ne_of_gt hpos)] at hcall
    cases hcall
  · obtain ⟨rfl, hmem, hlayers⟩ := mem_predicted hcall
    obtain ⟨out, s', hprefetch, hpredictor⟩ := prefetch_ok (s := { s with predictor := p })
      (l := (l + 1) % s.predictor.totalLayers) hcap hs
      (fun bid hbid => hstored _ (Nat.mod_lt _ hpos) bid (hmem bid hbid)) 0 0
    simp only [hprefetch]
    exact ⟨_, s', rfl, by rw [hpredictor]; exact hlayers⟩

end Fetch

/-! ## Decoding -/

section Decoding

variable (V : B.ReturnsLastWrite) {c : Content}

def InFormat (cfg : AdapterConfig) (a : NDArray) : Prop :=
  a.shape = cfg.defaultShape ∧ a.dtype = cfg.npDtype

structure Writing (cfg : AdapterConfig) (s : RealInferencePrefetchAdapter σ) (c : Content) :
    Prop where
  tracks : Tracks V c s
  unstaged : ∀ key, s.stagedData key = none
  format : ∀ key kv, c key = some kv → InFormat cfg kv.1 ∧ InFormat cfg kv.2
  layers : s.predictor.totalLayers = cfg.numLayers

structure Reading (cfg : AdapterConfig) (s : RealInferencePrefetchAdapter σ) (c : Content) :
    Prop where
  tracks : Tracks V c s
  format : ∀ key kv, c key = some kv → InFormat cfg kv.1 ∧ InFormat cfg kv.2
  layers : s.predictor.totalLayers = cfg.numLayers

variable {V}

theorem Reading.coherent (h : Reading V cfg s c) : Coherent B cfg c s :=
  (coherent_iff_stagedInShape h.tracks).mpr fun key kv hkv _ =>
    ⟨(h.format key kv hkv).1.1, (h.format key kv hkv).2.1⟩

/-- Reads change neither the store nor what is staged. -/
theorem Reading.same (h : Reading V cfg s c) (hs : SameData V s s')
    (hp : s'.predictor = s.predictor) : Reading V cfg s' c :=
  ⟨h.tracks.same hs, h.format, by rw [hp]; exact h.layers⟩

theorem Reading.readKeyPageBatch (h : Reading V cfg s c) (l : Nat) (bids : List Nat) :
    Reading V cfg (readKeyPageBatch B cfg s l bids 0 0).2 c :=
  h.same (sameData_readBatch V.key V.keyBatch _ _ _ h.tracks.valid l bids 0 0)
    (predictor_readBatch _ _ s l bids 0 0)

theorem Reading.readValuePageBatch (h : Reading V cfg s c) (l : Nat) (bids : List Nat) :
    Reading V cfg (readValuePageBatch B cfg s l bids 0 0).2 c :=
  h.same (sameData_readBatch V.value V.valueBatch _ _ _ h.tracks.valid l bids 0 0)
    (predictor_readBatch _ _ s l bids 0 0)

theorem Reading.readBlockBatch (h : Reading V cfg s c) (l : Nat) (bids : List Nat) :
    Reading V cfg (readBlockBatch B cfg s l bids 0 0).2 c :=
  h.same (sameData_readBatch V.block V.blockBatch _ _ _ h.tracks.valid l bids 0 0)
    (predictor_readBatch _ _ s l bids 0 0)

theorem paged_of_answers {ρ : Type} {page : NDArray × NDArray → ρ}
    {read : BatchRead (RealInferencePrefetchAdapter σ) ρ} (h : AnswersBatch c page read s) {l : Nat}
    {bids : List Nat} (hstored : Stored c l bids) :
    ∃ pages, (read s l bids 0 0).1 = .ok pages ∧ Paged c l bids page pages := by
  obtain ⟨pages, hok⟩ := h.succeeds l bids 0 0 hstored
  refine ⟨pages, hok, fun bid hbid => ?_⟩
  obtain ⟨kv, hkv⟩ := Option.isSome_iff_exists.mp (hstored bid hbid)
  rw [h.returns l bids 0 0 pages hok bid hbid kv hkv, hkv, Option.map_some]

theorem serves (hcap : 0 < cfg.bufferCapacityBlocks) :
    Serves (asBlockBackend B A cfg) cfg.numLayers (Reading V cfg) where
  keys := by
    intro s c l bids h hstored
    obtain ⟨pages, hok, hpaged⟩ := paged_of_answers h.coherent.keyBatch hstored
    exact ⟨pages, _, Prod.ext hok rfl, h.readKeyPageBatch l bids, hpaged⟩
  values := by
    intro s c l bids h hstored
    obtain ⟨pages, hok, hpaged⟩ := paged_of_answers h.coherent.valueBatch hstored
    exact ⟨pages, _, Prod.ext hok rfl, h.readValuePageBatch l bids, hpaged⟩
  winners := by
    intro s c l bids h hstored
    obtain ⟨blocks, hok, hpaged⟩ := paged_of_answers h.coherent.blockBatch hstored
    obtain ⟨keyPages, valuePages, hwinners, hkeys, hvalues⟩ :=
      winners_of_batch (B := asBlockBackend B A cfg) rfl (Prod.ext hok rfl) hpaged hstored
    exact ⟨keyPages, valuePages, _, hwinners, h.readBlockBatch l bids, hkeys, hvalues⟩
  prefetches := by
    rintro prefetch ⟨⟩ s c l bids mode h hl hstored
    rw [← h.layers] at hl hstored
    have hheld : ∀ l' < s.predictor.totalLayers, ∀ bid ∈ bids,
        (V.content s.storageBackend (l', bid)).isSome := by
      intro l' hl' bid hbid
      obtain ⟨kv, hkv⟩ := Option.isSome_iff_exists.mp (hstored l' hl' bid hbid)
      rw [h.tracks.stored _ kv hkv]
      rfl
    obtain ⟨out, s', hcall, hlayers⟩ :=
      predictAndPrefetch_ok hcap h.tracks.valid hl hheld
    have htracks := h.tracks.predictAndPrefetch cfg l bids 0
    rw [hcall] at htracks
    exact ⟨out, s', hcall, htracks, h.format, hlayers.trans h.layers⟩

theorem servesScores [Field α] [LinearOrder α] {val : DType → Bytes → α}
    (hsome : B.computeTopkFilter.isSome) (hscores : BlockBackend.ScoresStored val V) :
    ServesScores (asBlockBackend B A cfg) val (Reading V cfg) := by
  rintro filter ⟨⟩ s c l cands blk query topK scale qHeads kvHeads headDim h hblk
  obtain ⟨inner, hinner⟩ := Option.isSome_iff_exists.mp hsome
  have hanswer := hscores inner hinner s.storageBackend l cands blk query topK scale qHeads kvHeads
    headDim h.tracks.valid fun cand hcand => h.tracks.stored _ _ (hblk cand hcand)
  have hkeeps := V.topk_keeps inner hinner s.storageBackend l cands query topK scale qHeads kvHeads
    headDim h.tracks.valid
  refine ⟨{ s with storageBackend := (inner s.storageBackend l cands query topK scale qHeads
    kvHeads headDim).2 }, ?_, ?_⟩
  · simp only [hinner, hanswer]
  · exact h.same ((SameData.refl h.tracks.valid).fetched hkeeps) rfl

theorem asStored_of_format {a : NDArray} (h : InFormat cfg a) :
    asStored A cfg (.array a) = .ok a := by
  have hshape : a.shape ≠ [] := by
    rw [h.1]
    exact List.cons_ne_nil _ _
  obtain ⟨dtype, shape, data, size_eq⟩ := a
  obtain ⟨-, rfl⟩ := h
  simp only [asStored, NDArray.ascontiguousarray_of_ne hshape, A.astype_self]

theorem predictor_writeBlock (s : RealInferencePrefetchAdapter σ) (l b : Nat) (k v : Payload)
    (h t : Nat) : (writeBlock B A cfg s l b k v h t).2.predictor = s.predictor := by
  unfold writeBlock
  split
  · rfl
  · split
    · rfl
    · dsimp only
      split <;> rfl

/-- A write of the format goes to the store and stages nothing. -/
theorem Writing.write (h : Writing V cfg s c) {k v : NDArray} (hk : InFormat cfg k)
    (hv : InFormat cfg v) (l bid : Nat) :
    ∃ s', (asBlockBackend B A cfg).writeBlock s l bid k v 0 0 = (.ok (), s') ∧
      Writing V cfg s' (Function.update c (l, bid) (some (k, v))) := by
  obtain ⟨hok, hstaged, htracks, hcontent⟩ := writeBlock_ok h.tracks
    (asStored_of_format (A := A) hk) (asStored_of_format hv) l bid 0 0
  have hunstaged : ∀ key, (writeBlock B A cfg s l bid (.array k) (.array v) 0 0).2.stagedData key =
      none := by
    rw [hstaged]
    exact h.unstaged
  refine ⟨_, Prod.ext hok rfl, ⟨htracks.valid, ?_, ?_, htracks.noShape⟩, hunstaged, ?_, ?_⟩
  · intro key kv hkv
    rcases of_update_eq_some hkv with ⟨rfl, hnew⟩ | ⟨hkey, hold⟩
    · cases hnew
      exact hcontent
    · apply htracks.stored
      rw [Function.update_of_ne hkey]
      exact hold
  · intro key kv data _ hdata
    cases (hunstaged key).symm.trans hdata
  · intro key kv hkv
    rcases of_update_eq_some hkv with ⟨-, hnew⟩ | ⟨-, hold⟩
    · cases hnew
      exact ⟨hk, hv⟩
    · exact h.format key kv hold
  · rw [show (asBlockBackend B A cfg).writeBlock s l bid k v 0 0 =
      writeBlock B A cfg s l bid (.array k) (.array v) 0 0 from rfl, predictor_writeBlock]
    exact h.layers

variable (A) in
def decodes (V : B.ReturnsLastWrite) (hcap : 0 < cfg.bufferCapacityBlocks) {numLayers : Nat}
    (hlayers : cfg.numLayers = numLayers) {resetBackend : σ → σ}
    (hreset : ∀ b, V.Valid b → V.Keeps b (resetBackend b)) :
    Decodes (asBlockBackend B A cfg) (resetStats resetBackend) numLayers (InFormat cfg) where
  writing := Writing V cfg
  reading := Reading V cfg
  stores := fun _ _ l bid _ _ h hk hv => h.write hk hv l bid
  serves := hlayers ▸ serves hcap
  ready := by
    intro s c h
    have hkeeps := hreset s.storageBackend h.tracks.valid
    refine ⟨⟨hkeeps.valid, ?_, ?_, h.tracks.noShape⟩, h.format, h.layers⟩
    · intro key kv hkv
      show V.content (resetBackend s.storageBackend) key = some kv
      rw [hkeeps.content_eq]
      exact h.tracks.stored key kv hkv
    · rintro key kv data - ⟨⟩

theorem writing_init {b : σ} (hb : V.Valid b) : Writing V cfg (init cfg b) fun _ => none :=
  ⟨tracks_init cfg hb, fun _ => rfl, fun _ _ hkv => (by cases hkv), rfl⟩

end Decoding

end AiSsd.Prefetch.RealInferencePrefetchAdapter
