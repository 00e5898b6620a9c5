import AiSsd.Attention.Pruner

/-!
# Decode attention over any storage

The tiering manager and the pruner over the storage interface: prefill, decode appends and
fetches grow and move the blocks, and a decode attends over the blocks in RAM and those the
storage selects. Over the mock controller it is the decode of the pruner.
-/

namespace AiSsd.Attention

open Lib Storage Tiering

universe u v

variable {σ : Type v} {α : Type u} {heads dim : Nat}

structure KVStorageInterface (σ : Type v) (α : Type u) (heads dim : Nat) extends
    KVStorage σ (Row α heads dim) (Row α heads dim) where
  inStorageTopkAttention : σ → Row α heads dim → (layerId topK : Nat) →
    Except PyErr (MockSSDController.TopkAnswer α heads dim) × σ

namespace OffloadEngine

open InStorageAttentionPruner (pairColumns accumulate)

abbrev Manager (σ : Type v) (α : Type u) (heads dim : Nat) :=
  TieredKVManager σ (Row α heads dim) (Row α heads dim)

inductive Op (α : Type u) (heads dim : Nat) where
  | tier (op : TieredKVManager.Op (Row α heads dim) (Row α heads dim))
  | decode (query : Row α heads dim) (layerId : Nat) (topK : Option Nat)

inductive Answer (α : Type u) (heads dim : Nat) where
  | tiered (block : Option (KVBlock (Row α heads dim) (Row α heads dim)))
  | decoded (context : Row α heads dim) (stats : DecodeStats)

def stats (m : Manager σ α heads dim) (layerId kVal : Nat) (fed : FedPartitions α heads dim) :
    DecodeStats :=
  let coldBlocks := m.getColdBlocks layerId
  let coldTokens := (coldBlocks.map fun b => b.tokenCount).sum
  let hotTokens := (m.getHotKv layerId).2.2.length
  let retrieved := fed.cold.length
  { layerId := layerId
    hotTokens := hotTokens
    totalColdTokens := coldTokens
    coldBlocksTotal := coldBlocks.length
    coldBlocksRetrieved := min kVal coldBlocks.length
    retrievedTokens := retrieved
    totalEffectiveTokens := hotTokens + retrieved
    pruningRatio := if 0 < coldTokens then 1 - (retrieved : ℚ) / (max 1 coldTokens : Nat) else 0 }

variable [Field α] [LinearOrder α]

def hotPartition (sqrt : α → α) (m : Manager σ α heads dim) (query : Row α heads dim)
    (layerId : Nat) : Except PyErr (Partition α heads dim) :=
  let (hotK, hotV, hotIndices) := m.getHotKv layerId
  if 0 < hotIndices.length then
    pairColumns (hotK.map (logit query (attentionScale sqrt dim))) hotV
  else .ok []

variable (T : KVStorageInterface σ α heads dim) (sqrt : α → α)

def coldPartition (m : Manager σ α heads dim) (query : Row α heads dim) (layerId kVal : Nat) :
    Except PyErr (Partition α heads dim) × Manager σ α heads dim :=
  if m.getColdBlocks layerId = [] then (.ok [], m)
  else
    match T.inStorageTopkAttention m.storage query layerId kVal with
    | (.error err, storage) => (.error err, { m with storage := storage })
    | (.ok .three, storage) =>
        (.error (.valueError "not enough values to unpack (expected 4, got 3)"),
          { m with storage := storage })
    | (.ok (.four topkIds topkVals topkLogits _), storage) =>
        let m := { m with storage := storage }
        if 0 < topkIds.length then (pairColumns topkLogits topkVals.flatten, m) else (.ok [], m)

def fedPartitions (m : Manager σ α heads dim) (query : Row α heads dim) (layerId kVal : Nat) :
    Except PyErr (FedPartitions α heads dim) × Manager σ α heads dim :=
  match hotPartition sqrt m query layerId with
  | .error err => (.error err, m)
  | .ok hot =>
      match coldPartition T m query layerId kVal with
      | (.error err, m) => (.error err, m)
      | (.ok cold, m) => (.ok ⟨hot, cold⟩, m)

def computeDecodeAttention (e : Exponential α) (defaultTopK : Nat) (m : Manager σ α heads dim)
    (query : Row α heads dim) (layerId : Nat) (topK : Option Nat) :
    Except PyErr (Row α heads dim × DecodeStats) × Manager σ α heads dim :=
  let kVal := topK.getD defaultTopK
  match fedPartitions T sqrt m query layerId kVal with
  | (.error err, m) => (.error err, m)
  | (.ok fed, m') => (.ok ((accumulate e fed).finalize, stats m layerId kVal fed), m')

/-- A manager and a pruner at work, operation by operation. -/
def engine (policy : TieringPolicy) (e : Exponential α) (defaultTopK : Nat) :
    Machine (Manager σ α heads dim) (Op α heads dim) (Except PyErr (Answer α heads dim)) where
  step m
    | .tier op =>
        let r := TieredKVManager.step policy T.toKVStorage m op
        (r.1.map .tiered, r.2)
    | .decode query layerId topK =>
        let r := computeDecodeAttention T sqrt e defaultTopK m query layerId topK
        (r.1.map fun out => .decoded out.1 out.2, r.2)

/-- Without a decode the manager works alone. -/
theorem exec_tier (policy : TieringPolicy) (e : Exponential α) (defaultTopK : Nat)
    (m : Manager σ α heads dim)
    (ops : List (TieredKVManager.Op (Row α heads dim) (Row α heads dim))) :
    (engine T sqrt policy e defaultTopK).exec m (ops.map .tier) =
      (TieredKVManager.machine policy T.toKVStorage).exec m ops := by
  induction ops generalizing m with
  | nil => rfl
  | cons op ops ih => exact ih (TieredKVManager.step policy T.toKVStorage m op).2

/-! ## Over the mock controller -/

def mockStorage (widths : ElementWidths) (np : IndexSort α) :
    KVStorageInterface (MockSSDController α heads dim) α heads dim where
  toKVStorage := MockSSDController.kvStorage widths
  inStorageTopkAttention := MockSSDController.inStorageTopkAttention widths np sqrt

section Mock

variable (widths : ElementWidths) (np : IndexSort α) (m : Attention.Manager α heads dim)
  (query : Row α heads dim) (layerId : Nat)

theorem coldPartition_mock (kVal : Nat) :
    coldPartition (mockStorage sqrt widths np) m query layerId kVal =
      InStorageAttentionPruner.coldPartition widths np sqrt m query layerId kVal := by
  have hcall : (mockStorage sqrt widths np).inStorageTopkAttention m.storage query layerId kVal =
      MockSSDController.inStorageTopkAttention widths np sqrt m.storage query layerId kVal := rfl
  unfold coldPartition InStorageAttentionPruner.coldPartition
  rw [hcall]
  rcases MockSSDController.inStorageTopkAttention widths np sqrt m.storage query layerId kVal with
    ⟨_ | _ | _, storage⟩ <;> rfl

theorem fedPartitions_mock (kVal : Nat) :
    fedPartitions (mockStorage sqrt widths np) sqrt m query layerId kVal =
      InStorageAttentionPruner.fedPartitions widths np sqrt m query layerId kVal := by
  have hhot : hotPartition sqrt m query layerId =
      InStorageAttentionPruner.hotPartition sqrt m query layerId := rfl
  unfold fedPartitions InStorageAttentionPruner.fedPartitions
  rw [coldPartition_mock, hhot]
  cases InStorageAttentionPruner.hotPartition sqrt m query layerId with
  | error err => rfl
  | ok hot =>
      rcases InStorageAttentionPruner.coldPartition widths np sqrt m query layerId kVal with
        ⟨_ | _, m'⟩ <;> rfl

theorem computeDecodeAttention_mock (e : Exponential α) (defaultTopK : Nat) (topK : Option Nat) :
    computeDecodeAttention (mockStorage sqrt widths np) sqrt e defaultTopK m query layerId topK =
      InStorageAttentionPruner.computeDecodeAttention widths np sqrt e defaultTopK m query layerId
        topK := by
  unfold computeDecodeAttention InStorageAttentionPruner.computeDecodeAttention
  dsimp only
  rw [fedPartitions_mock]
  rcases InStorageAttentionPruner.fedPartitions widths np sqrt m query layerId
    (topK.getD defaultTopK) with ⟨_ | _, m'⟩ <;> rfl

end Mock

end OffloadEngine

end AiSsd.Attention
