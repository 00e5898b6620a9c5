import AiSsd.CacheManager.Blocks
import AiSsd.Lib.Machine
import AiSsd.Lib.Tiling

/-!
# The paged KV cache

`PagedKVCache` allocates the blocks of a context for every layer and head, and in each
offload pass hands the cold ones that are still in memory to an SSD backend. A backend gets
the block object, so it answers with the block as it leaves it.
-/

namespace AiSsd.CacheManager

open Lib Numpy Schemas

/-! ## Backends -/

/-- What the eviction uses of a backend: `store_block` and its effect on the block. -/
structure SsdBackend (σ : Type) where
  storeBlock : σ → CachedBlock → Except PyErr Unit × CachedBlock × σ

namespace SsdBackend

variable {σ : Type}

/-- Every block is stored, with at most its tier and its location changed. -/
def Accepts (backend : SsdBackend σ) : Prop :=
  ∀ ssd b, ∃ tier loc ssd', backend.storeBlock ssd b =
    (.ok (), { b with storageTier := tier, physicalLocation := loc }, ssd')

def recording (backend : SsdBackend σ) : SsdBackend (σ × List Int) where
  storeBlock := fun ssd b =>
    let r := backend.storeBlock ssd.1 b
    (r.1, r.2.1, r.2.2, ssd.2 ++ [b.blockId])

end SsdBackend

/-! ## The mock -/

structure MockSSD where
  storage : Dict Int CachedBlock
  writeCount : Nat
  hostToDeviceBytes : Int
  flashWriteBytes : Int

namespace MockSSD

def init : MockSSD := ⟨Dict.empty, 0, 0, 0⟩

/-- `f"mock_ch{block_id % 8}_die0_pg{block_id}"`. -/
def location (blockId : Int) : Ftl.Text :=
  s!"mock_ch{blockId % 8}_die0_pg{blockId}".toList

def backend : SsdBackend MockSSD where
  storeBlock := fun ssd b =>
    let b := { b with storageTier := .ssd, physicalLocation := some (location b.blockId) }
    (.ok (), b,
      { storage := ssd.storage.set b.blockId b
        writeCount := ssd.writeCount + 1
        hostToDeviceBytes := ssd.hostToDeviceBytes + b.totalSizeBytes
        flashWriteBytes := ssd.flashWriteBytes + b.totalSizeBytes })

theorem accepts_backend : backend.Accepts := fun _ _ => ⟨_, _, _, rfl⟩

end MockSSD

/-! ## Eviction -/

/-- What `evict_to_ssd` does to a block once it is stored. -/
def CachedBlock.offload (b : CachedBlock) : CachedBlock :=
  { b with storageTier := .ssd, kData := none, vData := none }

section

variable {σ : Type} (backend : SsdBackend σ)

def evictToSsd : (cold : List Int) → Dict Int CachedBlock → σ →
    Except PyErr (List Int) × Dict Int CachedBlock × σ
  | [], blocks, ssd => (.ok [], blocks, ssd)
  | id :: cold, blocks, ssd =>
      match blocks.get? id with
      | none => evictToSsd cold blocks ssd
      | some b =>
          if b.storageTier = .ssd then evictToSsd cold blocks ssd
          else
            match backend.storeBlock ssd b with
            | (.error err, b, ssd) => (.error err, blocks.set id b, ssd)
            | (.ok _, b, ssd) =>
                let r := evictToSsd cold (blocks.set id b.offload) ssd
                (r.1.map (b.blockId :: ·), r.2)

variable {blocks : Dict Int CachedBlock} {id : Int}

theorem evictToSsd_skip (h : ∀ b, blocks.get? id = some b → b.storageTier = .ssd)
    (cold : List Int) (ssd : σ) :
    evictToSsd backend (id :: cold) blocks ssd = evictToSsd backend cold blocks ssd := by
  rw [evictToSsd]
  cases hget : blocks.get? id with
  | none => rfl
  | some b => simp [h b hget]

variable {backend}

/-- A block in memory that the backend takes is offloaded, and the loop goes on. -/
theorem evictToSsd_store {b b' : CachedBlock} {ssd ssd' : σ} (hget : blocks.get? id = some b)
    (hmem : b.storageTier ≠ .ssd) (hstore : backend.storeBlock ssd b = (.ok (), b', ssd'))
    (cold : List Int) :
    evictToSsd backend (id :: cold) blocks ssd =
      ((evictToSsd backend cold (blocks.set id b'.offload) ssd').1.map (b'.blockId :: ·),
        (evictToSsd backend cold (blocks.set id b'.offload) ssd').2) := by
  rw [evictToSsd]
  simp [hget, hmem, hstore]

end

/-! ## The cache -/

/-- Constructor arguments. `initialize_context` divides by the block size. -/
structure CacheConfig where
  layers : Nat
  heads : Nat
  headDim : Nat
  blockTokens : Nat
  dtype : String
  sinkTokens : Int
  recentTokens : Int
  blockTokens_pos : 0 < blockTokens

structure PagedKVCache (σ : Type) where
  config : CacheConfig
  blockManager : BlockManager
  ssd : σ

namespace PagedKVCache

variable {σ : Type}

def init (config : CacheConfig) (ssd : σ) : PagedKVCache σ :=
  ⟨config, BlockManager.init config.blockTokens config.headDim config.dtype, ssd⟩

variable (c : PagedKVCache σ)

def classifier : HotColdClassifier := ⟨c.config.sinkTokens, c.config.recentTokens⟩

structure Corner where
  layerId : Nat
  headId : Nat
  idx : Nat

/-- The blocks of `initialize_context`, in the order of its loops. -/
def corners (config : CacheConfig) (contextLength : Nat) : List Corner :=
  (List.range config.layers).flatMap fun layerId =>
    (List.range config.heads).flatMap fun headId =>
      (List.range (pieces contextLength config.blockTokens)).map fun idx => ⟨layerId, headId, idx⟩

def allocateCorner (config : CacheConfig) (contextLength : Nat) (attachTensors : Bool)
    (m : BlockManager) (corner : Corner) : BlockManager :=
  let tokenStart := corner.idx * config.blockTokens
  m.allocateBlock corner.layerId tokenStart (min config.blockTokens (contextLength - tokenStart))
    corner.headId 1 .gpu attachTensors

def initializeContext (contextLength : Nat) (attachTensors : Bool) : Nat × PagedKVCache σ :=
  let m := (corners c.config contextLength).foldl
    (allocateCorner c.config contextLength attachTensors) c.blockManager
  (m.totalBlocks, { c with blockManager := m })

def runOffloadPass (backend : Option (SsdBackend σ)) (contextLength : Int) :
    Except PyErr (Nat × Nat) × PagedKVCache σ :=
  let ((hot, cold), blocks) := c.classifier.partitionBlocks c.blockManager.blocks contextLength
  match backend with
  | none =>
      (.ok (hot.length, cold.length), { c with blockManager := { c.blockManager with blocks := blocks } })
  | some backend =>
      let r := evictToSsd backend cold blocks c.ssd
      (r.1.map fun _ => (hot.length, cold.length),
        { c with blockManager := { c.blockManager with blocks := r.2.1 }, ssd := r.2.2 })

def getHostMemoryBytes : Int :=
  ((c.blockManager.allBlocks.filter fun b => b.storageTier ≠ .ssd).map
    fun b => b.totalSizeBytes).sum

def getOffloadedMemoryBytes : Int :=
  ((c.blockManager.allBlocks.filter fun b => b.storageTier = .ssd).map
    fun b => b.totalSizeBytes).sum

/-! ## Runs -/

inductive Op where
  | initializeContext (contextLength : Nat) (attachTensors : Bool)
  | runOffloadPass (contextLength : Int)

inductive Answer where
  | blocks (total : Nat)
  | counts (hot cold : Nat)

def step (backend : SsdBackend σ) (c : PagedKVCache σ) :
    Op → Except PyErr Answer × PagedKVCache σ
  | .initializeContext contextLength attachTensors =>
      let r := c.initializeContext contextLength attachTensors
      (.ok (.blocks r.1), r.2)
  | .runOffloadPass contextLength =>
      let r := c.runOffloadPass (some backend) contextLength
      (r.1.map fun n => .counts n.1 n.2, r.2)

def machine (backend : SsdBackend σ) : Machine (PagedKVCache σ) Op (Except PyErr Answer) where
  step := step backend

end PagedKVCache

end AiSsd.CacheManager
