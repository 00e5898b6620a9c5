import AiSsd.Ftl.StoreSafety
import AiSsd.Schemas.KVBlock
import AiSsd.Storage.MockSsd

/-!
# The physical adapter with exact numbers

`PhysicalTensorAwareStorageAdapter` over arrays of exact numbers, with its attention inside the
storage. Every block goes to a page of the storage simulator as well, and what is read from the
flash is read there by its global id. The clock is left out, as are the guarded listeners.
-/

namespace AiSsd.Storage

open Lib Attention Numpy Tiering Ftl

universe u

variable {α : Type u} {heads dim : Nat} {cfg : SimulatorConfig}

structure PhysicalEntry (α : Type u) (heads dim : Nat) extends FlashEntry α heads dim where
  globalId : Int

inductive PhysicalEvent where
  | loadKv (layerId blockId bytes : Nat)
  | inStorageTopk (layerId : Nat) (blockIds : List Nat) (streamedBytes : Nat)
deriving Repr, DecidableEq

structure PhysicalTensorAwareStorageAdapter (cfg : SimulatorConfig) (α : Type u)
    (heads dim : Nat) where
  storageSimulator : StorageSimulator cfg
  flashStore : Dict (Nat × Nat) (PhysicalEntry α heads dim)
  controllerDramCache : List (Nat × Nat)
  globalIdMap : Dict (Nat × Nat) Int
  telemetry : Telemetry
  traceLog : List PhysicalEvent

namespace PhysicalTensorAwareStorageAdapter

def init (mode : FtlMode) : PhysicalTensorAwareStorageAdapter cfg α heads dim :=
  ⟨StorageSimulator.init cfg mode, Dict.empty, [], Dict.empty, Telemetry.zero, []⟩

/-- `(layer_id << 16) | (block_id & 0xFFFF)`. -/
def encodeGlobalBlockId (layerId blockId : Nat) : Int := layerId * 65536 + blockId % 65536

variable (widths : ElementWidths)

open MockSSDController (nbytes)

def p2Block (blockId layerId : Nat) (keyData valueData : List (Row α heads dim)) :
    Schemas.KVBlock where
  blockId := encodeGlobalBlockId layerId blockId
  layerId := layerId
  tokenStart := blockId * keyData.length
  tokenCount := keyData.length
  kvHeadStart := 0
  kvHeadCount := heads
  headDim := dim
  dtype := if widths.kv = 2 then "FP16" else "FP32"
  keySizeBytes := nbytes widths keyData
  valueSizeBytes := nbytes widths valueData
  storageTier := .ssd
  hotness := 1
  physicalLocation := none

variable (s : PhysicalTensorAwareStorageAdapter cfg α heads dim)

/-- Up to the call of the simulator: the transfer is counted and the id recorded. -/
def announce (blockId layerId payloadBytes : Nat) :
    PhysicalTensorAwareStorageAdapter cfg α heads dim :=
  { s with
    globalIdMap := s.globalIdMap.set (layerId, blockId) (encodeGlobalBlockId layerId blockId)
    telemetry :=
      { s.telemetry with
        hostToDeviceBytes := s.telemetry.hostToDeviceBytes + payloadBytes } }

def storeKv (blockId layerId : Nat) (keyData valueData : Option (List (Row α heads dim))) :
    Except PyErr Bool × PhysicalTensorAwareStorageAdapter cfg α heads dim :=
  match keyData, valueData with
  | some k, some v =>
      let payloadBytes := nbytes widths k + nbytes widths v
      let s := s.announce blockId layerId payloadBytes
      match s.storageSimulator.storeBlock (p2Block widths blockId layerId k v).ftl with
      | (.error err, sim) => (.error err, { s with storageSimulator := sim })
      | (.ok _, sim) =>
          (.ok true,
            { s with
              storageSimulator := sim
              telemetry :=
                { s.telemetry with
                  flashWriteBytes := s.telemetry.flashWriteBytes + payloadBytes
                  nandWriteOps := s.telemetry.nandWriteOps + 1 }
              flashStore := s.flashStore.set (layerId, blockId)
                ⟨⟨k, v⟩, encodeGlobalBlockId layerId blockId⟩ })
  -- `None` has no `nbytes`
  | _, _ => (.error .attributeError, s)

/-- The reads of `estimate_read_latency`, asked for when there is something to read. -/
def readPages (gids : List Int) : StorageSimulator cfg :=
  if gids = [] then s.storageSimulator else (s.storageSimulator.estimateReadLatency gids).2

def loadKv (blockId layerId : Nat) :
    Except PyErr (List (Row α heads dim) × List (Row α heads dim)) ×
      PhysicalTensorAwareStorageAdapter cfg α heads dim :=
  match s.flashStore.get? (layerId, blockId) with
  | none =>
      (.error (.keyError
        s!"Block {blockId} for layer {layerId} not found in physical storage"), s)
  | some entry =>
      let payloadBytes := nbytes widths entry.k + nbytes widths entry.v
      let cached := s.controllerDramCache.contains (layerId, blockId)
      let read := s.telemetry.readFlash cached payloadBytes
      (.ok (entry.k, entry.v),
        { s with
          storageSimulator := s.readPages (if cached then [] else [entry.globalId])
          telemetry := { read with deviceToHostBytes := read.deviceToHostBytes + payloadBytes }
          traceLog := s.traceLog ++ [.loadKv layerId blockId payloadBytes] })

/-- The two calls the tiering manager makes. -/
def kvStorage : KVStorage (PhysicalTensorAwareStorageAdapter cfg α heads dim) (Row α heads dim)
    (Row α heads dim) where
  storeKv := storeKv widths
  loadKv := loadKv widths

/-! ## Attention inside the storage -/

section Attention

variable [Field α] [LinearOrder α]

/-- `[(bid, entry) ...]` of a layer, sorted by block id. -/
def layerEntries (layerId : Nat) : List (Nat × PhysicalEntry α heads dim) :=
  ((s.flashStore.entries.filter fun e => e.1.1 == layerId).map fun e => (e.1.2, e.2)).insertionSort
    fun a b => a.1 ≤ b.1

/-- The values of the selected blocks: what is not cached is read by the ids of the map. -/
def readValues (layerId : Nat) :
    List (Nat × PhysicalEntry α heads dim) → List Int → Telemetry →
      Except PyErr (List Int) × Telemetry
  | [], gids, t => (.ok gids, t)
  | b :: rest, gids, t =>
      let cached := s.controllerDramCache.contains (layerId, b.1)
      let t := t.readFlash cached (nbytes widths b.2.v)
      if cached then readValues layerId rest gids t
      else
        match s.globalIdMap.get? (layerId, b.1) with
        | none => (.error (.keyError s!"({layerId}, {b.1})"), t)
        | some gid => readValues layerId rest (gids ++ [gid]) t

/-- The query sent, the keys read, and their products counted. -/
def scoreKeys (layerId tokensPerBlock : Nat) (blocks : List (Nat × PhysicalEntry α heads dim)) :
    PhysicalTensorAwareStorageAdapter cfg α heads dim :=
  let cached := fun bid => s.controllerDramCache.contains (layerId, bid)
  let keysRead := blocks.foldl
    (fun t b => t.readFlash (cached b.1) (nbytes widths b.2.k))
    { s.telemetry with
      hostToDeviceBytes := s.telemetry.hostToDeviceBytes + heads * dim * widths.kv }
  let uncached := (blocks.filter fun b => !cached b.1).map fun b => b.2.globalId
  let macs := blocks.length * tokensPerBlock * heads * dim
  { s with
    storageSimulator := s.readPages uncached
    telemetry := { keysRead with computeMacCount := keysRead.computeMacCount + macs } }

def streamTop (query : Row α heads dim) (scale : α) (layerId : Nat)
    (selected : List (Nat × PhysicalEntry α heads dim))
    (topkValues : List (List (Row α heads dim))) (topkScores : List α) :
    Except PyErr (MockSSDController.TopkAnswer α heads dim) ×
      PhysicalTensorAwareStorageAdapter cfg α heads dim :=
  match s.readValues widths layerId selected [] s.telemetry with
  | (.error err, t) => (.error err, { s with telemetry := t })
  | (.ok gids, t) =>
      let topkLogits := selected.flatMap fun b => b.2.k.map (logit query scale)
      let payload := (topkValues.map (nbytes widths)).sum +
        topkLogits.length * heads * widths.logit + topkScores.length * 4 + selected.length * 4
      (.ok (.four (selected.map Prod.fst) topkValues topkLogits topkScores),
        { s with
          storageSimulator := s.readPages gids
          telemetry := { t with deviceToHostBytes := t.deviceToHostBytes + payload }
          traceLog := s.traceLog ++ [.inStorageTopk layerId (selected.map Prod.fst) payload] })

open MockSSDController (blockScore topIndices npStack)

variable (np : IndexSort α) (sqrt : α → α)

/-- Ids, stacked values, logit columns and scores. Four empty arrays when the layer has nothing
stored. -/
def inStorageTopkAttention (query : Row α heads dim) (layerId topK : Nat) :
    Except PyErr (MockSSDController.TopkAnswer α heads dim) ×
      PhysicalTensorAwareStorageAdapter cfg α heads dim :=
  let blocks := s.layerEntries layerId
  match blocks with
  | [] => (.ok (.four [] [] [] []), s)
  | firstEntry :: _ =>
      let effectiveK := min topK blocks.length
      let scored := s.scoreKeys widths layerId firstEntry.2.k.length blocks
      let scale := attentionScale sqrt dim
      match blocks.mapM fun b => blockScore query scale b.2.k with
      | .error err => (.error err, scored)
      | .ok blockScores =>
          let chosen := topIndices np blockScores effectiveK
          let selected := chosen.filterMap fun i => blocks[i]?
          match npStack (selected.map fun b => b.2.v) with
          | .error err => (.error err, scored)
          | .ok topkValues =>
              scored.streamTop widths query scale layerId selected topkValues
                (chosen.filterMap fun i => blockScores[i]?)

end Attention

end PhysicalTensorAwareStorageAdapter

end AiSsd.Storage
