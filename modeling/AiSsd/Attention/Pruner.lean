import AiSsd.Storage.MockSsd
import AiSsd.Tiering.Runs

/-!
# Decode attention over RAM and storage

`InStorageAttentionPruner` feeds the blocks resident in RAM to the accumulator,
then, when the layer has a cold block, the blocks the storage selects.
-/

namespace AiSsd.Attention

open Lib Storage Tiering

universe u

variable {α : Type u} {heads dim : Nat} [Field α] [LinearOrder α]

abbrev Manager (α : Type u) (heads dim : Nat) :=
  TieredKVManager (MockSSDController α heads dim) (Row α heads dim) (Row α heads dim)

/-- `stats` of one decode step. -/
structure DecodeStats where
  layerId : Nat
  hotTokens : Nat
  totalColdTokens : Nat
  coldBlocksTotal : Nat
  coldBlocksRetrieved : Nat
  retrievedTokens : Nat
  totalEffectiveTokens : Nat
  pruningRatio : ℚ

/-- The partitions one decode step hands to the accumulator, in order. -/
structure FedPartitions (α : Type u) (heads dim : Nat) where
  hot : Partition α heads dim
  cold : Partition α heads dim

namespace InStorageAttentionPruner

/-- Logit columns and value rows of one call; `matmul` refuses unequal lengths. -/
def pairColumns (logits : List (Fin heads → α)) (values : List (Row α heads dim)) :
    Except PyErr (Partition α heads dim) :=
  if logits.length = values.length then .ok (logits.zipWith PartitionToken.mk values)
  else .error (.valueError "matmul: input operands have mismatched core dimensions")

variable (widths : ElementWidths) (np : IndexSort α) (sqrt : α → α)

/-- The RAM half: nothing to feed when no block is resident. -/
def hotPartition (m : Manager α heads dim) (query : Row α heads dim) (layerId : Nat) :
    Except PyErr (Partition α heads dim) :=
  let (hotK, hotV, hotIndices) := m.getHotKv layerId
  if 0 < hotIndices.length then
    pairColumns (hotK.map (logit query (attentionScale sqrt dim))) hotV
  else .ok []

/-- The storage half, asked only when the layer has a cold block. An answer of
three arrays cannot be unpacked into four. -/
def coldPartition (m : Manager α heads dim) (query : Row α heads dim) (layerId kVal : Nat) :
    Except PyErr (Partition α heads dim) × Manager α heads dim :=
  if m.getColdBlocks layerId = [] then (.ok [], m)
  else
    match MockSSDController.inStorageTopkAttention widths np sqrt m.storage query layerId kVal with
    | (.error err, storage) => (.error err, { m with storage := storage })
    | (.ok .three, storage) =>
        (.error (.valueError "not enough values to unpack (expected 4, got 3)"),
          { m with storage := storage })
    | (.ok (.four topkIds topkVals topkLogits _), storage) =>
        let m := { m with storage := storage }
        if 0 < topkIds.length then (pairColumns topkLogits topkVals.flatten, m) else (.ok [], m)

def fedPartitions (m : Manager α heads dim) (query : Row α heads dim) (layerId kVal : Nat) :
    Except PyErr (FedPartitions α heads dim) × Manager α heads dim :=
  match hotPartition sqrt m query layerId with
  | .error err => (.error err, m)
  | .ok hot =>
      match coldPartition widths np sqrt m query layerId kVal with
      | (.error err, m) => (.error err, m)
      | (.ok cold, m) => (.ok ⟨hot, cold⟩, m)

def stats (m : Manager α heads dim) (layerId kVal : Nat) (fed : FedPartitions α heads dim) :
    DecodeStats :=
  let coldBlocks := m.getColdBlocks layerId
  let coldTokens := (coldBlocks.map fun b => b.tokenCount).sum
  let hotTokens := (m.getHotKv layerId).2.2.length
  let retrieved := fed.cold.length
  { layerId := layerId
    hotTokens := hotTokens
    totalColdTokens := coldTokens
    coldBlocksTotal := coldBlocks.length
    coldBlocksRetrieved := min kVal coldBlocks.length
    retrievedTokens := retrieved
    totalEffectiveTokens := hotTokens + retrieved
    pruningRatio := if 0 < coldTokens then 1 - (retrieved : ℚ) / (max 1 coldTokens : Nat) else 0 }

def accumulate (e : Exponential α) (fed : FedPartitions α heads dim) :
    OnlineSoftmaxAccumulator α heads dim :=
  [fed.hot, fed.cold].foldl (OnlineSoftmaxAccumulator.updateWithPartition e)
    OnlineSoftmaxAccumulator.init

def computeDecodeAttention (e : Exponential α) (defaultTopK : Nat) (m : Manager α heads dim)
    (query : Row α heads dim) (layerId : Nat) (topK : Option Nat) :
    Except PyErr (Row α heads dim × DecodeStats) × Manager α heads dim :=
  let kVal := topK.getD defaultTopK
  match fedPartitions widths np sqrt m query layerId kVal with
  | (.error err, m) => (.error err, m)
  | (.ok fed, m') => (.ok ((accumulate e fed).finalize, stats m layerId kVal fed), m')

end InStorageAttentionPruner

end AiSsd.Attention
