import AiSsd.Lib.Chunks
import AiSsd.Lib.Machine
import AiSsd.PyErr
import AiSsd.Tiering.KVBlock
import Mathlib.Algebra.GroupWithZero.Nat

/-!
# The tiered KV manager

Prefill cuts a sequence into blocks, a decode step grows the last block or opens
one, and after either the blocks that left the window are stored and dropped from
RAM. The storage is any implementation of the two calls the manager makes.
-/

namespace AiSsd.Tiering

open Lib

universe u v w

/-- `store_kv` and `load_kv`. A block whose arrays are unset is passed as it is. -/
structure KVStorage (σ : Type w) (α : Type u) (β : Type v) where
  storeKv : σ → (blockId layerId : Nat) → Option (List α) → Option (List β) →
    Except PyErr Bool × σ
  loadKv : σ → (blockId layerId : Nat) → Except PyErr (List α × List β) × σ

/-- Storage that returns what was stored. What it does for a block that never was is its own. -/
structure KVStorage.ReturnsStored {σ : Type w} {α : Type u} {β : Type v}
    (S : KVStorage σ α β) where
  view : σ → (layerId blockId : Nat) → Option (List α × List β)
  store_ok : ∀ s blockId layerId k v,
    (S.storeKv s blockId layerId (some k) (some v)).1 = .ok true
  view_store : ∀ s blockId layerId k v l b,
    view (S.storeKv s blockId layerId (some k) (some v)).2 l b =
      if layerId = l ∧ blockId = b then some (k, v) else view s l b
  load_stored : ∀ s blockId layerId kv, view s layerId blockId = some kv →
    (S.loadKv s blockId layerId).1 = .ok kv
  view_load : ∀ s blockId layerId l b,
    view (S.loadKv s blockId layerId).2 l b = view s l b

structure TieredKVManager (σ : Type w) (α : Type u) (β : Type v) where
  storage : σ
  blockPool : KVBlockPool α β

namespace TieredKVManager

variable {σ : Type w} {α : Type u} {β : Type v} (policy : TieringPolicy) (S : KVStorage σ α β)

def init (storage : σ) : TieredKVManager σ α β := ⟨storage, KVBlockPool.empty⟩

def offloaded (block : KVBlock α β) : KVBlock α β :=
  { block with isInRam := false, tier := .coldSsd, kData := none, vData := none }

/-- Store the arrays of a block and drop them from RAM. A raise of the storage
leaves the block as it is. -/
def offload (m : TieredKVManager σ α β) (layerId : Nat) (block : KVBlock α β) :
    Except PyErr Unit × TieredKVManager σ α β :=
  match S.storeKv m.storage block.blockId layerId block.kData block.vData with
  | (.error err, storage) => (.error err, { m with storage := storage })
  | (.ok _, storage) =>
      (.ok (), { storage := storage, blockPool := m.blockPool.assign (offloaded block) })

/-- The eviction loop: offload every listed block `leaves` holds of. -/
def evictLoop (layerId : Nat) (leaves : KVBlock α β → Bool) :
    List Nat → TieredKVManager σ α β → Except PyErr Unit × TieredKVManager σ α β
  | [], m => (.ok (), m)
  | id :: ids, m =>
      match m.blockPool.getBlock id with
      | none => evictLoop layerId leaves ids m
      | some block =>
          if leaves block then
            match offload S m layerId block with
            | (.error err, m') => (.error err, m')
            | (.ok (), m') => evictLoop layerId leaves ids m'
          else evictLoop layerId leaves ids m

/-- Pass `b_idx` of the prefill loop: allocate the block of one slice. -/
def prefillBlock (layerId : Nat) (kSeq : List α) (vSeq : List β) (pool : KVBlockPool α β)
    (bIdx : Nat) : KVBlock α β × KVBlockPool α β :=
  let tStart := bIdx * policy.tokensPerBlock
  let tEnd := min (tStart + policy.tokensPerBlock) kSeq.length
  let cnt := tEnd - tStart
  let kChunk := slice kSeq tStart tEnd
  let vChunk := slice vSeq tStart tEnd
  let isSink := decide ((tStart : Int) < policy.sinkTokens)
  pool.allocateBlock layerId tStart cnt (some kChunk) (some vChunk) isSink

/-- The allocated ids and the pool after the first `n` passes. -/
def prefillBlocks (layerId : Nat) (kSeq : List α) (vSeq : List β) (pool : KVBlockPool α β) :
    Nat → List Nat × KVBlockPool α β
  | 0 => ([], pool)
  | n + 1 =>
      let (ids, pool) := prefillBlocks layerId kSeq vSeq pool n
      let (block, pool) := prefillBlock policy layerId kSeq vSeq pool n
      (ids ++ [block.blockId], pool)

def prefillSequence (m : TieredKVManager σ α β) (layerId : Nat) (kSeq : List α) (vSeq : List β) :
    Except PyErr Unit × TieredKVManager σ α β :=
  let seqLen := kSeq.length
  let numBlocks := (seqLen + policy.tokensPerBlock - 1) / policy.tokensPerBlock
  let (ids, pool) := prefillBlocks policy layerId kSeq vSeq m.blockPool numBlocks
  evictLoop S layerId (fun block => !HotColdClassifier.isHot policy block seqLen) ids
    { m with blockPool := pool }

/-- `sum(b.token_count for b in layer_blocks)`. -/
def totalTokens (m : TieredKVManager σ α β) (layerId : Nat) : Nat :=
  ((m.blockPool.getLayerBlocks layerId).map fun b => b.tokenCount).sum

/-- The last block with one more token. A block without arrays starts over. -/
def grown (block : KVBlock α β) (kToken : α) (vToken : β) : KVBlock α β :=
  match block.kData, block.vData with
  | some k, some v =>
      { block with
        kData := some (k ++ [kToken])
        vData := some (v ++ [vToken])
        tokenCount := block.tokenCount + 1 }
  | _, _ =>
      { block with
        kData := some [kToken]
        vData := some [vToken]
        tokenCount := block.tokenCount + 1 }

/-- The first half of `append_token`: where the token goes. -/
def placeToken (m : TieredKVManager σ α β) (layerId : Nat) (kToken : α) (vToken : β) :
    TieredKVManager σ α β :=
  match (m.blockPool.getLayerBlocks layerId).getLast? with
  | some last =>
      if last.tokenCount < policy.tokensPerBlock then
        { m with blockPool := m.blockPool.assign (grown last kToken vToken) }
      else
        { m with
          blockPool := (m.blockPool.allocateBlock layerId (m.totalTokens layerId) 1
            (some [kToken]) (some [vToken]) false).2 }
  | none =>
      { m with
        blockPool := (m.blockPool.allocateBlock layerId (m.totalTokens layerId) 1
          (some [kToken]) (some [vToken]) false).2 }

/-- What the decode step offloads: RAM blocks that are neither pinned nor hot. -/
def leavesRam (total : Nat) (block : KVBlock α β) : Bool :=
  block.isInRam && !block.isPinned && !HotColdClassifier.isHot policy block total

def appendToken (m : TieredKVManager σ α β) (layerId : Nat) (kToken : α) (vToken : β) :
    Except PyErr Unit × TieredKVManager σ α β :=
  let m' := placeToken policy m layerId kToken vToken
  evictLoop S layerId (leavesRam policy (m'.totalTokens layerId))
    (m'.blockPool.layerIds layerId) m'

def fetchColdBlock (m : TieredKVManager σ α β) (blockId layerId : Nat) :
    Except PyErr (KVBlock α β) × TieredKVManager σ α β :=
  match m.blockPool.getBlock blockId with
  | none => (.error (.valueError s!"Block {blockId} not found in pool"), m)
  | some block =>
      if block.isInRam then (.ok block, m)
      else
        match S.loadKv m.storage blockId layerId with
        | (.error err, storage) => (.error err, { m with storage := storage })
        | (.ok (k, v), storage) =>
            let block' :=
              { block with isInRam := true, tier := .hotRam, kData := some k, vData := some v }
            (.ok block', { storage := storage, blockPool := m.blockPool.assign block' })

/-- The arrays of the blocks in RAM, concatenated, and the positions they cover. -/
def getHotKv (m : TieredKVManager σ α β) (layerId : Nat) : List α × List β × List Nat :=
  (m.blockPool.getLayerBlocks layerId).foldr
    (fun b rest =>
      match b.isInRam, b.kData, b.vData with
      | true, some k, some v =>
          (k ++ rest.1, v ++ rest.2.1,
            (List.range b.tokenCount).map (b.tokenStart + ·) ++ rest.2.2)
      | _, _, _ => rest)
    ([], [], [])

def getColdBlocks (m : TieredKVManager σ α β) (layerId : Nat) : List (KVBlock α β) :=
  (m.blockPool.getLayerBlocks layerId).filter fun b => !b.isInRam

/-! ## The manager as a machine -/

/-- `prefill` hands over as many K rows as V rows. -/
inductive Op (α : Type u) (β : Type v) where
  | prefill (layerId : Nat) (rows : List (α × β))
  | append (layerId : Nat) (kToken : α) (vToken : β)
  | fetch (blockId layerId : Nat)

def Op.target : Op α β → Option Nat
  | .prefill l _ => some l
  | .append l _ _ => some l
  | .fetch _ _ => none

/-- A call returns nothing, or the block it fetched. -/
def step (m : TieredKVManager σ α β) :
    Op α β → Except PyErr (Option (KVBlock α β)) × TieredKVManager σ α β
  | .prefill l rows =>
      let r := prefillSequence policy S m l (rows.map Prod.fst) (rows.map Prod.snd)
      (r.1.map fun _ => none, r.2)
  | .append l k v =>
      let r := appendToken policy S m l k v
      (r.1.map fun _ => none, r.2)
  | .fetch id l =>
      let r := fetchColdBlock S m id l
      (r.1.map some, r.2)

def machine : Machine (TieredKVManager σ α β) (Op α β) (Except PyErr (Option (KVBlock α β))) where
  step := step policy S

/-- Every layer is prefilled at most once, before anything is appended to it. -/
def PrefillOnce (ops : List (Op α β)) : Prop :=
  ops.Pairwise fun earlier later => ∀ l rows, later = .prefill l rows → earlier.target ≠ some l

/-- A fetch that brings an offloaded block back has it from storage as it is there under the
block's own layer. -/
def FetchesOwn (m : TieredKVManager σ α β) : Op α β → Prop
  | .fetch id l => ∀ b, m.blockPool.getBlock id = some b → b.isInRam = false →
      ∀ kv, (S.loadKv m.storage id l).1 = .ok kv → (S.loadKv m.storage id b.layerId).1 = .ok kv
  | .prefill _ _ => True
  | .append _ _ _ => True

def Op.adds (l : Nat) : Op α β → List (α × β)
  | .prefill l' rows => if l' = l then rows else []
  | .append l' k v => if l' = l then [(k, v)] else []
  | .fetch _ _ => []

/-- The prefilled tokens of a layer followed by the appended ones. -/
def history (ops : List (Op α β)) (l : Nat) : List (α × β) := ops.flatMap (Op.adds l)

end TieredKVManager

end AiSsd.Tiering
