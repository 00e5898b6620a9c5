import AiSsd.CacheManager.Context

/-!
# Offload passes

Over a backend that accepts every block, a pass leaves exactly the cold blocks on the SSD.
Cold blocks stay cold as the context grows, so no block is stored twice; and nothing a pass
does changes where a block lies in the context or how large it is.
-/

namespace AiSsd.CacheManager

open Lib Numpy Schemas

/-! ## What a pass leaves alone -/

/-- The blocks under their ids, up to tier, hotness, location and tensors. -/
def shapes (blocks : Dict Int CachedBlock) : List (Int × KVBlock) :=
  blocks.entries.map fun e => (e.1, e.2.shape)

def tierOf (blocks : Dict Int CachedBlock) (id : Int) : Option StorageTier :=
  (blocks.get? id).map fun b => b.storageTier

def Owned (blocks : Dict Int CachedBlock) : Prop :=
  ∀ id b, blocks.get? id = some b → b.blockId = id

section

variable {blocks : Dict Int CachedBlock} {id : Int} {b b' : CachedBlock}

theorem shapes_set (hget : blocks.get? id = some b) (hshape : b'.shape = b.shape) :
    shapes (blocks.set id b') = shapes blocks :=
  Dict.map_set_of_eq hget CachedBlock.shape hshape

theorem tierOf_set (k : Int) :
    tierOf (blocks.set id b') k = if id = k then some b'.storageTier else tierOf blocks k := by
  unfold tierOf
  rw [Dict.get?_set]
  split <;> rfl

theorem Owned.set (h : Owned blocks) (hget : blocks.get? id = some b)
    (hshape : b'.shape = b.shape) : Owned (blocks.set id b') := by
  intro k d hd
  rw [Dict.get?_set] at hd
  split at hd
  · rename_i hk
    cases hd
    have hid : b'.shape.blockId = b.shape.blockId := by rw [hshape]
    change b'.blockId = b.blockId at hid
    rw [hid, ← hk]
    exact h id b hget
  · exact h k d hd

end

/-! ## One pass -/

section

variable {σ : Type} {backend : SsdBackend σ}

/-- No block was given to the backend twice, and those that were are on the SSD. -/
structure StoredOnce (blocks : Dict Int CachedBlock) (stored : List Int) : Prop where
  nodup : stored.Nodup
  onSsd : ∀ id ∈ stored, tierOf blocks id = some .ssd

theorem StoredOnce.offload {blocks : Dict Int CachedBlock} {stored : List Int}
    (h : StoredOnce blocks stored) {id : Int} (hnew : id ∉ stored) (b : CachedBlock) :
    StoredOnce (blocks.set id b.offload) (stored ++ [id]) where
  nodup := List.nodup_append_comm.mp (List.nodup_cons.mpr ⟨hnew, h.nodup⟩)
  onSsd := by
    intro k hk
    rw [tierOf_set]
    split
    · rfl
    · rename_i hne
      rcases List.mem_append.mp hk with hk | hk
      · exact h.onSsd k hk
      · exact absurd (List.mem_singleton.mp hk).symm hne

structure Offloaded (cold : List Int) (blocks blocks' : Dict Int CachedBlock)
    (stored : List Int) : Prop where
  shapes_eq : shapes blocks' = shapes blocks
  tier : ∀ id, tierOf blocks' id =
    if id ∈ cold then (tierOf blocks id).map fun _ => .ssd else tierOf blocks id
  owned : Owned blocks'
  once : StoredOnce blocks' stored

theorem evictToSsd_accepts (h : backend.Accepts) {cold : List Int} (hcold : cold.Nodup)
    {blocks : Dict Int CachedBlock} (howned : Owned blocks) {ssd : σ × List Int}
    (honce : StoredOnce blocks ssd.2) :
    ∃ ids blocks' ssd', evictToSsd backend.recording cold blocks ssd = (.ok ids, blocks', ssd') ∧
      Offloaded cold blocks blocks' ssd'.2 := by
  induction cold generalizing blocks ssd with
  | nil => exact ⟨[], blocks, ssd, rfl, rfl, fun _ => rfl, howned, honce⟩
  | cons id cold ih =>
      rw [List.nodup_cons] at hcold
      by_cases hskip : ∀ b, blocks.get? id = some b → b.storageTier = .ssd
      · obtain ⟨ids, blocks', ssd', hrun, hoff⟩ := ih hcold.2 howned honce
        rw [evictToSsd_skip backend.recording hskip]
        refine ⟨ids, blocks', ssd', hrun, hoff.shapes_eq, ?_, hoff.owned, hoff.once⟩
        intro k
        rw [hoff.tier k]
        by_cases hk : k = id
        · subst hk
          rw [if_neg hcold.1, if_pos List.mem_cons_self, tierOf]
          cases hget : blocks.get? k with
          | none => rfl
          | some b => simp [hskip b hget]
        · simp only [List.mem_cons, hk, false_or]
      · push Not at hskip
        obtain ⟨b, hget, hmem⟩ := hskip
        have htier : tierOf blocks id = some b.storageTier := by
          rw [tierOf, hget]
          rfl
        obtain ⟨tier, loc, ssd₁, hstore⟩ := h ssd.1 b
        have hshape : ({ b with
          storageTier := tier, physicalLocation := loc } : CachedBlock).offload.shape =
            b.shape := rfl
        have hrecord : backend.recording.storeBlock ssd b =
            (.ok (), { b with storageTier := tier, physicalLocation := loc },
              (ssd₁, ssd.2 ++ [id])) := by
          rw [← howned id b hget]
          simp only [SsdBackend.recording, hstore]
        have hnew : id ∉ ssd.2 := by
          intro hstored
          have honSsd := honce.onSsd id hstored
          rw [htier] at honSsd
          exact hmem (Option.some.inj honSsd)
        have honce' := honce.offload hnew
          { b with storageTier := tier, physicalLocation := loc }
        obtain ⟨ids, blocks', ssd', hrun, hoff⟩ := @ih hcold.2 _ (howned.set hget hshape)
          (ssd₁, ssd.2 ++ [id]) honce'
        rw [evictToSsd_store hget hmem hrecord, hrun]
        refine ⟨b.blockId :: ids, blocks', ssd', rfl, ?_, ?_, hoff.owned, hoff.once⟩
        · rw [hoff.shapes_eq, shapes_set hget hshape]
        · intro k
          rw [hoff.tier k, tierOf_set]
          by_cases hk : k = id
          · subst hk
            rw [if_neg hcold.1, if_pos rfl, if_pos List.mem_cons_self, htier]
            rfl
          · simp only [List.mem_cons, hk, Ne.symm hk, false_or, if_false]

def IsCold (classifier : HotColdClassifier) (blocks : Dict Int CachedBlock) (contextLength : Int)
    (id : Int) : Prop :=
  ∃ block, (id, block) ∈ shapes blocks ∧ classifier.classifyBlock block contextLength = false

theorem mem_shapes_iff {blocks : Dict Int CachedBlock} {id : Int} {block : KVBlock} :
    (id, block) ∈ shapes blocks ↔ ∃ b, blocks.get? id = some b ∧ b.shape = block := by
  unfold shapes
  constructor
  · intro hmem
    obtain ⟨e, he, heq⟩ := List.mem_map.mp hmem
    cases heq
    exact ⟨e.2, (blocks.mem_entries_iff _ _).mp he, rfl⟩
  · rintro ⟨b, hget, rfl⟩
    exact List.mem_map.mpr ⟨(id, b), (blocks.mem_entries_iff _ _).mpr hget, rfl⟩

theorem isCold_iff {classifier : HotColdClassifier} {blocks : Dict Int CachedBlock} {id : Int}
    {b : CachedBlock} (hget : blocks.get? id = some b) (contextLength : Int) :
    IsCold classifier blocks contextLength id ↔
      classifier.classifyBlock b.toKVBlock contextLength = false := by
  constructor
  · rintro ⟨block, hmem, hcold⟩
    obtain ⟨b', hget', rfl⟩ := mem_shapes_iff.mp hmem
    cases hget.symm.trans hget'
    exact hcold
  · intro hcold
    exact ⟨b.shape, mem_shapes_iff.mpr ⟨b, hget, rfl⟩, hcold⟩

theorem mem_cold_iff (classifier : HotColdClassifier) (blocks : Dict Int CachedBlock)
    (contextLength id : Int) :
    id ∈ (classifier.partitionBlocks blocks contextLength).1.2 ↔
      IsCold classifier blocks contextLength id := by
  constructor
  · intro hmem
    obtain ⟨e, he, rfl⟩ := List.mem_map.mp hmem
    obtain ⟨hentry, hcold⟩ := List.mem_filter.mp he
    rw [isCold_iff ((blocks.mem_entries_iff _ _).mp hentry)]
    simpa using hcold
  · rintro ⟨block, hmem, hcold⟩
    obtain ⟨b, hget, rfl⟩ := mem_shapes_iff.mp hmem
    refine List.mem_map.mpr ⟨(id, b), List.mem_filter.mpr ⟨?_, ?_⟩, rfl⟩
    · exact (blocks.mem_entries_iff _ _).mpr hget
    · rw [HotColdClassifier.classifyBlock_shape] at hcold
      simp [hcold]

theorem shapes_rescored (classifier : HotColdClassifier) (blocks : Dict Int CachedBlock)
    (contextLength : Int) :
    shapes (classifier.partitionBlocks blocks contextLength).2 = shapes blocks :=
  List.map_map

theorem tierOf_rescored (classifier : HotColdClassifier) (blocks : Dict Int CachedBlock)
    (contextLength id : Int) :
    tierOf (classifier.partitionBlocks blocks contextLength).2 id = tierOf blocks id := by
  unfold tierOf
  rw [HotColdClassifier.get?_partitionBlocks, Option.map_map]
  rfl

theorem owned_rescored (classifier : HotColdClassifier) {blocks : Dict Int CachedBlock}
    (h : Owned blocks) (contextLength : Int) :
    Owned (classifier.partitionBlocks blocks contextLength).2 := by
  intro id b hget
  rw [HotColdClassifier.get?_partitionBlocks] at hget
  obtain ⟨old, hold, rfl⟩ := Option.map_eq_some_iff.mp hget
  exact h id old hold

/-- A pass keeps the shapes, moves exactly the cold blocks and stores nothing twice. -/
theorem runOffloadPass_accepts (h : backend.Accepts) {c : PagedKVCache (σ × List Int)}
    (howned : Owned c.blockManager.blocks)
    (honce : StoredOnce c.blockManager.blocks c.ssd.2) (contextLength : Int) :
    ∃ blocks ssd, (c.runOffloadPass (some backend.recording) contextLength).2 =
        { c with blockManager := { c.blockManager with blocks := blocks }, ssd := ssd } ∧
      Offloaded (c.classifier.partitionBlocks c.blockManager.blocks contextLength).1.2
        (c.classifier.partitionBlocks c.blockManager.blocks contextLength).2 blocks ssd.2 := by
  have honce' : StoredOnce (c.classifier.partitionBlocks c.blockManager.blocks contextLength).2
      c.ssd.2 := ⟨honce.nodup, fun id hid => by rw [tierOf_rescored]; exact honce.onSsd id hid⟩
  obtain ⟨ids, blocks, ssd, hrun, hoff⟩ := evictToSsd_accepts h
    (c.classifier.nodup_cold c.blockManager.blocks contextLength)
    (owned_rescored c.classifier howned contextLength) honce'
  refine ⟨blocks, ssd, ?_, hoff⟩
  unfold PagedKVCache.runOffloadPass
  dsimp only
  rw [hrun]

end

/-! ## Runs -/

def Settled (classifier : HotColdClassifier) (blocks : Dict Int CachedBlock)
    (contextLength : Int) : Prop :=
  ∀ id, tierOf blocks id = some .ssd ↔ IsCold classifier blocks contextLength id

theorem Settled.later {classifier : HotColdClassifier} {blocks : Dict Int CachedBlock}
    {contextLength later : Int} (h : Settled classifier blocks contextLength)
    (hle : contextLength ≤ later) {id : Int} (hssd : tierOf blocks id = some .ssd) :
    IsCold classifier blocks later id := by
  obtain ⟨block, hmem, hcold⟩ := (h id).mp hssd
  exact ⟨block, hmem, classifier.classifyBlock_mono hle hcold⟩

theorem isCold_congr {classifier : HotColdClassifier} {blocks blocks' : Dict Int CachedBlock}
    (h : shapes blocks' = shapes blocks) (contextLength id : Int) :
    IsCold classifier blocks' contextLength id ↔ IsCold classifier blocks contextLength id := by
  unfold IsCold
  rw [h]

theorem Offloaded.settled {classifier : HotColdClassifier} {blocks blocks' : Dict Int CachedBlock}
    {contextLength : Int} {stored : List Int}
    (h : Offloaded (classifier.partitionBlocks blocks contextLength).1.2
      (classifier.partitionBlocks blocks contextLength).2 blocks' stored)
    (hbefore : ∀ id, tierOf blocks id = some .ssd → IsCold classifier blocks contextLength id) :
    Settled classifier blocks' contextLength := by
  intro id
  have hshapes : shapes blocks' = shapes blocks := by
    rw [h.shapes_eq, shapes_rescored]
  have hmem := mem_cold_iff classifier blocks contextLength id
  rw [isCold_congr hshapes, h.tier id, tierOf_rescored]
  constructor
  · intro hssd
    split at hssd
    · rename_i hcold
      exact hmem.mp hcold
    · exact hbefore id hssd
  · intro hcold
    rw [if_pos (hmem.mpr hcold)]
    obtain ⟨block, hblock, -⟩ := hcold
    obtain ⟨b, hget, -⟩ := mem_shapes_iff.mp hblock
    rw [tierOf, hget]
    rfl

section

variable {σ : Type} {backend : SsdBackend σ}

/-- What holds of the cache after passes up to `last` over a backend that accepts every
block, when it started with the blocks `start`. -/
structure Passed (config : CacheConfig) (start : Dict Int CachedBlock) (last : Option Int)
    (c : PagedKVCache (σ × List Int)) : Prop where
  config_eq : c.config = config
  shapes_eq : shapes c.blockManager.blocks = shapes start
  owned : Owned c.blockManager.blocks
  once : StoredOnce c.blockManager.blocks c.ssd.2
  settled : ∀ ctx ∈ last, Settled c.classifier c.blockManager.blocks ctx
  unsettled : last = none → ∀ id, tierOf c.blockManager.blocks id ≠ some .ssd

variable {config : CacheConfig} {start : Dict Int CachedBlock} {last : Option Int}
  {c : PagedKVCache (σ × List Int)}

theorem Passed.pass (h : Passed config start last c) (haccepts : backend.Accepts) {ctx : Int}
    (hle : ∀ prev ∈ last, prev ≤ ctx) :
    Passed config start (some ctx) (c.runOffloadPass (some backend.recording) ctx).2 := by
  obtain ⟨blocks, ssd, hrun, hoff⟩ := runOffloadPass_accepts haccepts h.owned h.once ctx
  have hbefore : ∀ id, tierOf c.blockManager.blocks id = some .ssd →
      IsCold c.classifier c.blockManager.blocks ctx id := by
    intro id hssd
    cases last with
    | none => exact absurd hssd (h.unsettled rfl id)
    | some prev => exact (h.settled prev rfl).later (hle prev rfl) hssd
  rw [hrun]
  refine ⟨h.config_eq, ?_, hoff.owned, hoff.once, ?_, fun hnone => by cases hnone⟩
  · rw [← h.shapes_eq, ← shapes_rescored c.classifier c.blockManager.blocks ctx]
    exact hoff.shapes_eq
  · intro ctx' hctx
    cases hctx
    exact hoff.settled hbefore

theorem Passed.passes (h : Passed config start last c) (haccepts : backend.Accepts)
    {ctxs : List Int} (hmono : ctxs.Pairwise (· ≤ ·)) (hle : ∀ prev ∈ last, ∀ ctx ∈ ctxs, prev ≤ ctx) :
    Passed config start (ctxs.getLast?.or last)
      ((PagedKVCache.machine backend.recording).exec c (ctxs.map .runOffloadPass)) := by
  induction ctxs generalizing last c with
  | nil => exact h
  | cons ctx ctxs ih =>
      rw [List.pairwise_cons] at hmono
      have hnext := ih (h.pass haccepts fun prev hprev => hle prev hprev ctx List.mem_cons_self)
        hmono.2 (fun prev hprev later hlater => by
          cases hprev
          exact hmono.1 later hlater)
      rw [List.getLast?_cons]
      cases hlast : ctxs.getLast? with
      | none =>
          rw [hlast] at hnext
          exact hnext
      | some final =>
          rw [hlast] at hnext
          exact hnext

def initialized (config : CacheConfig) (ssd : σ) (contextLength : Nat) (attachTensors : Bool) :
    PagedKVCache (σ × List Int) :=
  ((PagedKVCache.init config (ssd, [])).initializeContext contextLength attachTensors).2

theorem passed_initialized (config : CacheConfig) (ssd : σ) (contextLength : Nat)
    (attachTensors : Bool) :
    Passed config (initialized config ssd contextLength attachTensors).blockManager.blocks none
      (initialized config ssd contextLength attachTensors) := by
  have hnum := (PagedKVCache.extended_init config (ssd, ([] : List Int)) contextLength
    attachTensors).numbered
  refine ⟨rfl, rfl, hnum.own, ⟨List.nodup_nil, by simp [initialized,
    PagedKVCache.initializeContext, PagedKVCache.init]⟩, by simp, ?_⟩
  intro _ id hssd
  obtain ⟨b, hget, htier⟩ := Option.map_eq_some_iff.mp hssd
  rw [PagedKVCache.tier_init (BlockManager.mem_allBlocks.mpr ⟨id, hget⟩)] at htier
  cases htier

theorem memory_bytes (c : PagedKVCache σ) :
    c.getHostMemoryBytes + c.getOffloadedMemoryBytes =
      (c.blockManager.allBlocks.map fun b => b.totalSizeBytes).sum := by
  unfold PagedKVCache.getHostMemoryBytes PagedKVCache.getOffloadedMemoryBytes
  rw [Int.add_comm]
  exact List.sum_map_filter_add_sum_map_filter_not _ _ _

/-- The cache after its context is set up and passes over a backend that records what it is
given. -/
def afterPasses (backend : SsdBackend σ) (config : CacheConfig) (ssd : σ) (contextLength : Nat)
    (attachTensors : Bool) (ctxs : List Int) : PagedKVCache (σ × List Int) :=
  (PagedKVCache.machine backend.recording).exec
    (initialized config ssd contextLength attachTensors) (ctxs.map .runOffloadPass)

/-- After any passes at growing context lengths the blocks of every head tile the context, the
SSD holds exactly the blocks that are cold at the last pass, no block was stored twice, and
host and SSD bytes are together those of all keys and values. By
`KVBlock.bytesPerElem` an element takes 4 bytes as `FP32`, 2 as `FP16`, in letters of either case,
and 1 in any other dtype. -/
theorem offload_passes (haccepts : backend.Accepts) (config : CacheConfig)
    (hdim : 1 ≤ config.headDim) (ssd : σ) (contextLength : Nat) (attachTensors : Bool)
    (ctxs : List Int) (hmono : ctxs.Pairwise (· ≤ ·)) :
    let c := afterPasses backend config ssd contextLength attachTensors ctxs
    (∀ l < config.layers, ∀ hd < config.heads,
      Tiles (fun b : CachedBlock => b.tokenStart) (fun b => b.tokenCount) 0 (c.blocksOf l hd)
        contextLength) ∧
    (∀ b ∈ c.blockManager.allBlocks, ∃ l < config.layers, ∃ hd < config.heads,
      b ∈ c.blocksOf l hd) ∧
    (∀ ctx ∈ ctxs.getLast?, ∀ b ∈ c.blockManager.allBlocks,
      b.storageTier = .ssd ↔
        (HotColdClassifier.mk config.sinkTokens config.recentTokens).classifyBlock b.toKVBlock ctx =
          false) ∧
    c.ssd.2.Nodup ∧
    c.getHostMemoryBytes + c.getOffloadedMemoryBytes =
      2 * config.layers * config.heads * config.headDim * contextLength *
        KVBlock.bytesPerElem config.dtype := by
  intro c
  have hpassed : Passed config (initialized config ssd contextLength attachTensors).blockManager.blocks
      (ctxs.getLast?.or none) c :=
    (passed_initialized config ssd contextLength attachTensors).passes haccepts hmono (by simp)
  have hcontext : c.OfContext config contextLength := by
    have hshapes := congrArg (List.map Prod.snd) hpassed.shapes_eq
    unfold shapes at hshapes
    rw [List.map_map, List.map_map] at hshapes
    have hinit := PagedKVCache.ofContext_init config (ssd, ([] : List Int)) contextLength
      attachTensors
    unfold PagedKVCache.OfContext BlockManager.allBlocks at hinit ⊢
    rw [List.map_map] at hinit ⊢
    exact hshapes.trans hinit
  refine ⟨fun l hl hd hh => hcontext.tiles hl hh, fun b hb => hcontext.mem_blocksOf hb, ?_,
    hpassed.once.nodup, ?_⟩
  · intro ctx hctx b hb
    obtain ⟨id, hget⟩ := BlockManager.mem_allBlocks.mp hb
    have hlast : ctx ∈ ctxs.getLast?.or none := by
      rw [Option.or_none]
      exact hctx
    have hsettled := hpassed.settled ctx hlast id
    have hclassifier : c.classifier = ⟨config.sinkTokens, config.recentTokens⟩ := by
      unfold PagedKVCache.classifier
      rw [hpassed.config_eq]
    have htier : tierOf c.blockManager.blocks id = some b.storageTier :=
      congrArg (Option.map fun b : CachedBlock => b.storageTier) hget
    rw [isCold_iff hget, htier, Option.some_inj] at hsettled
    rw [← hclassifier]
    exact hsettled
  · rw [memory_bytes, hcontext.total_bytes hdim]

end

/-- Two layers of one head over the mock: ten tokens in blocks of four. -/
def tenTokens : CacheConfig := ⟨2, 1, 64, 4, "FP16", 2, 3, by decide⟩

theorem offload_passes_ten_tokens :
    let c := afterPasses MockSSD.backend tenTokens MockSSD.init 10 true [10, 12]
    c.ssd.2.Nodup ∧ c.getHostMemoryBytes + c.getOffloadedMemoryBytes = 2 * 2 * 1 * 64 * 10 * 2 := by
  obtain ⟨-, -, -, honce, hbytes⟩ := offload_passes MockSSD.accepts_backend tenTokens (by decide)
    MockSSD.init 10 true [10, 12] (by decide)
  exact ⟨honce, hbytes⟩

end AiSsd.CacheManager
