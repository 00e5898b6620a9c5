import AiSsd.Lib.Dict
import AiSsd.Numpy.NDArray
import AiSsd.Schemas.KVBlock
import Mathlib.Algebra.Order.Ring.Rat

/-!
# Blocks of a paged KV cache

`BlockManager` numbers and keeps the blocks, and `HotColdClassifier` tells which of them stay
in memory at a context length. A list of blocks that is passed on is a list of references,
here the ids under which the manager keeps them. Hotness scores are exact.
-/

namespace AiSsd.CacheManager

open Lib Numpy Schemas

structure CachedBlock extends KVBlock where
  kData : Option NDArray
  vData : Option NDArray
deriving DecidableEq

namespace CachedBlock

/-- What stays of a block whatever tier it moves to. -/
def shape (b : CachedBlock) : KVBlock :=
  { b.toKVBlock with storageTier := .gpu, hotness := 1, physicalLocation := none }

end CachedBlock

/-! ## The manager -/

structure BlockManager where
  blockTokens : Nat
  headDim : Nat
  dtype : String
  nextBlockId : Nat
  blocks : Dict Int CachedBlock

namespace BlockManager

def init (blockTokens headDim : Nat) (dtype : String) : BlockManager :=
  ⟨blockTokens, headDim, dtype, 0, Dict.empty⟩

variable (m : BlockManager)

def npDtype : DType := if upper m.dtype = "FP16" then float16 else float32

/-- `token_count or self.block_tokens`. -/
def tokensOf (tokenCount : Nat) : Nat := if tokenCount = 0 then m.blockTokens else tokenCount

def newBlock (layerId tokenStart tokenCount kvHeadStart kvHeadCount : Nat) (tier : StorageTier)
    (attachTensors : Bool) : CachedBlock :=
  let cnt := m.tokensOf tokenCount
  let tensor :=
    if attachTensors then some (NDArray.zeros [cnt, kvHeadCount, m.headDim] m.npDtype) else none
  { toKVBlock := KVBlock.createDefault m.nextBlockId layerId tokenStart cnt kvHeadStart kvHeadCount
      m.headDim m.dtype tier 1
    kData := tensor
    vData := tensor }

def allocateBlock (layerId tokenStart tokenCount kvHeadStart kvHeadCount : Nat)
    (tier : StorageTier) (attachTensors : Bool) : BlockManager :=
  { m with
    nextBlockId := m.nextBlockId + 1
    blocks := m.blocks.set m.nextBlockId
      (m.newBlock layerId tokenStart tokenCount kvHeadStart kvHeadCount tier attachTensors) }

def getBlock (blockId : Int) : Option CachedBlock := m.blocks.get? blockId

def totalBlocks : Nat := m.blocks.size

def allBlocks : List CachedBlock := m.blocks.entries.map Prod.snd

/-- The ids are handed out in order, and every block is kept under its own. -/
structure Numbered (m : BlockManager) : Prop where
  below : ∀ id b, m.getBlock id = some b → 0 ≤ id ∧ id < m.nextBlockId
  own : ∀ id b, m.getBlock id = some b → b.blockId = id

variable {m}

theorem numbered_init (blockTokens headDim : Nat) (dtype : String) :
    (init blockTokens headDim dtype).Numbered :=
  ⟨fun _ _ h => (by cases h), fun _ _ h => (by cases h)⟩

theorem Numbered.next_new (h : m.Numbered) : m.blocks.get? (m.nextBlockId : Int) = none := by
  cases hget : m.blocks.get? (m.nextBlockId : Int) with
  | none => rfl
  | some b =>
      have hlt := (h.below _ b hget).2
      omega

theorem Numbered.allocateBlock (h : m.Numbered)
    (layerId tokenStart tokenCount kvHeadStart kvHeadCount : Nat) (tier : StorageTier)
    (attachTensors : Bool) :
    (m.allocateBlock layerId tokenStart tokenCount kvHeadStart kvHeadCount tier
      attachTensors).Numbered := by
  constructor
  · intro id b hget
    unfold BlockManager.allocateBlock getBlock at hget
    rw [Dict.get?_set] at hget
    show 0 ≤ id ∧ id < ((m.nextBlockId + 1 : Nat) : Int)
    split at hget
    · omega
    · have hold := h.below id b hget
      omega
  · intro id b hget
    unfold BlockManager.allocateBlock getBlock at hget
    rw [Dict.get?_set] at hget
    split at hget
    · rename_i hid
      cases hget
      exact hid
    · exact h.own id b hget

theorem Numbered.allBlocks_allocateBlock (h : m.Numbered)
    (layerId tokenStart tokenCount kvHeadStart kvHeadCount : Nat) (tier : StorageTier)
    (attachTensors : Bool) :
    (m.allocateBlock layerId tokenStart tokenCount kvHeadStart kvHeadCount tier
        attachTensors).allBlocks =
      m.allBlocks ++
        [m.newBlock layerId tokenStart tokenCount kvHeadStart kvHeadCount tier attachTensors] := by
  unfold BlockManager.allocateBlock allBlocks
  rw [Dict.entries_set_of_new h.next_new, List.map_append]
  rfl

theorem mem_allBlocks {b : CachedBlock} : b ∈ m.allBlocks ↔ ∃ id, m.getBlock id = some b := by
  unfold allBlocks getBlock
  constructor
  · intro hmem
    obtain ⟨e, he, rfl⟩ := List.mem_map.mp hmem
    exact ⟨e.1, (m.blocks.mem_entries_iff _ _).mp he⟩
  · rintro ⟨id, hget⟩
    exact List.mem_map.mpr ⟨(id, b), (m.blocks.mem_entries_iff _ _).mpr hget, rfl⟩

end BlockManager

/-! ## Hot and cold -/

structure HotColdClassifier where
  sinkTokens : Int
  recentTokens : Int

namespace HotColdClassifier

variable (c : HotColdClassifier)

def classifyBlock (block : KVBlock) (totalContextTokens : Int) : Bool :=
  let tokenEnd := block.tokenStart + block.tokenCount
  if block.tokenStart < c.sinkTokens then true
  else decide (tokenEnd > max 0 (totalContextTokens - c.recentTokens))

def rescore (totalContextTokens : Int) (b : CachedBlock) : CachedBlock :=
  { b with
    hotness :=
      if c.classifyBlock b.toKVBlock totalContextTokens then 1
      else max (1 / 10)
        (1 - ((totalContextTokens - b.tokenStart : Int) : Rat) / (max 1 totalContextTokens : Int)) }

def partitionBlocks (blocks : Dict Int CachedBlock) (totalContextTokens : Int) :
    (List Int × List Int) × Dict Int CachedBlock :=
  let hot := fun e : Int × CachedBlock => c.classifyBlock e.2.toKVBlock totalContextTokens
  let ids := fun es : List (Int × CachedBlock) => es.map Prod.fst
  ((ids (blocks.entries.filter hot), ids (blocks.entries.filter fun e => !hot e)),
    blocks.mapValues (c.rescore totalContextTokens))

theorem nodup_cold (blocks : Dict Int CachedBlock) (totalContextTokens : Int) :
    (c.partitionBlocks blocks totalContextTokens).1.2.Nodup :=
  (List.filter_sublist.map Prod.fst).nodup blocks.nodup

theorem get?_partitionBlocks (blocks : Dict Int CachedBlock) (totalContextTokens id : Int) :
    (c.partitionBlocks blocks totalContextTokens).2.get? id =
      (blocks.get? id).map (c.rescore totalContextTokens) :=
  Dict.get?_mapValues _ _ _

theorem classifyBlock_shape (b : CachedBlock) (totalContextTokens : Int) :
    c.classifyBlock b.shape totalContextTokens = c.classifyBlock b.toKVBlock totalContextTokens :=
  rfl

theorem classifyBlock_mono {block : KVBlock} {total later : Int} (hle : total ≤ later)
    (hcold : c.classifyBlock block total = false) : c.classifyBlock block later = false := by
  unfold classifyBlock at hcold ⊢
  dsimp only at hcold ⊢
  split at hcold
  · cases hcold
  · rename_i hsink
    rw [if_neg hsink]
    have hend := of_decide_eq_false hcold
    apply decide_eq_false
    omega

end HotColdClassifier

end AiSsd.CacheManager
