import AiSsd.DramCache.Controller
import AiSsd.Ftl.StorageSimulator
import AiSsd.Schemas.KVBlock

/-!
# The physical adapter

`PhysicalTensorAwareStorageAdapter` keeps the same cache over the storage simulator: a store
maps the block to a page first, and only then reaches the adapter's own tables. Listeners
are guarded and left out.
-/

namespace AiSsd.DramCache

open Lib Numpy Storage Ftl

/-- `(layer_id << 16) | (block_id & 0xFFFF)`. -/
def encodeGlobalBlockId (layerId blockId : Int) : Int := layerId * 65536 + blockId % 65536

structure PhysicalEntry extends FlashEntry where
  globalId : Int

inductive PhysicalEvent where
  | loadKv (layerId blockId : Int) (bytes : Nat)
  | prefetchKv (layerId : Int) (blockIds : List Int) (bytes : Nat)

structure PhysicalTensorAwareStorageAdapter (cfg : SimulatorConfig) where
  controllerDramCapacityBytes : Nat
  storageSimulator : StorageSimulator cfg
  flashStore : Dict Key PhysicalEntry
  controllerDramCache : Finset Key
  controllerDramUsedBytes : Nat
  globalIdMap : Dict Key Int
  telemetry : Telemetry
  traceLog : List PhysicalEvent

namespace PhysicalTensorAwareStorageAdapter

variable {cfg : SimulatorConfig}

variable (cfg) in
def init (mode : FtlMode) (controllerDramSizeMb : Nat) :
    PhysicalTensorAwareStorageAdapter cfg where
  controllerDramCapacityBytes := controllerDramSizeMb * 1024 * 1024
  storageSimulator := StorageSimulator.init cfg mode
  flashStore := Dict.empty
  controllerDramCache := ∅
  controllerDramUsedBytes := 0
  globalIdMap := Dict.empty
  telemetry := Telemetry.zero
  traceLog := []

/-- Tokens, heads and dimension of an array, with defaults for fewer than three dimensions. -/
def geometryOf (keyData : NDArray) : Nat × Nat × Nat :=
  match keyData.shape with
  | tokens :: heads :: dim :: _ => (tokens, heads, dim)
  | _ => (16, 1, 128)

def tokenStartOf (blockId : Int) (keyData : NDArray) : Option KVBlockMetadata → Int
  | some metadata => metadata.tokenStart
  | none => blockId * (geometryOf keyData).1

def p2Block (blockId layerId : Int) (keyData valueData : NDArray)
    (metadata : Option KVBlockMetadata) : Schemas.KVBlock where
  blockId := encodeGlobalBlockId layerId blockId
  layerId := layerId
  tokenStart := tokenStartOf blockId keyData metadata
  tokenCount := (geometryOf keyData).1
  kvHeadStart := 0
  kvHeadCount := (geometryOf keyData).2.1
  headDim := (geometryOf keyData).2.2
  dtype := if keyData.dtype.itemsize = 2 then "FP16" else "FP32"
  keySizeBytes := keyData.nbytes
  valueSizeBytes := valueData.nbytes
  storageTier := .ssd
  hotness := 1
  physicalLocation := none

def metadataOf (blockId layerId : Int) (keyData : NDArray) :
    Option KVBlockMetadata → KVBlockMetadata
  | some metadata => metadata
  | none =>
      let g := geometryOf keyData
      ⟨blockId, layerId, tokenStartOf blockId keyData none, g.1, g.2.1, g.2.2,
        keyData.dtype.name, keyData.dtype.itemsize, 0⟩

variable (s : PhysicalTensorAwareStorageAdapter cfg)

/-- Up to the call of the simulator: the transfer is counted and the id recorded. -/
def announce (blockId layerId : Int) (payloadBytes : Nat) :
    PhysicalTensorAwareStorageAdapter cfg :=
  { s with
    globalIdMap := s.globalIdMap.set (layerId, blockId) (encodeGlobalBlockId layerId blockId)
    telemetry :=
      { s.telemetry with
        hostToDeviceBytes := s.telemetry.hostToDeviceBytes + payloadBytes } }

def storeKv (blockId layerId : Int) (keyData valueData : NDArray)
    (metadata : Option KVBlockMetadata) :
    Except PyErr Bool × PhysicalTensorAwareStorageAdapter cfg :=
  let payloadBytes := keyData.nbytes + valueData.nbytes
  let s := s.announce blockId layerId payloadBytes
  let block := p2Block blockId layerId keyData valueData metadata
  match s.storageSimulator.storeBlock block.ftl with
  | (.error err, sim) => (.error err, { s with storageSimulator := sim })
  | (.ok _, sim) =>
      let entry :=
        { k := keyData.ascontiguousarray
          v := valueData.ascontiguousarray
          metadata := metadataOf blockId layerId keyData metadata
          globalId := encodeGlobalBlockId layerId blockId }
      (.ok true,
        { s with
          storageSimulator := sim
          telemetry :=
            { s.telemetry with
              flashWriteBytes := s.telemetry.flashWriteBytes + payloadBytes
              nandWriteOps := s.telemetry.nandWriteOps + 1 }
          flashStore := s.flashStore.set (layerId, blockId) entry })

/-- A store answers as its simulator does, whose state it keeps. Either way the pair has an id. -/
theorem storeKv_simulator (blockId layerId : Int) (keyData valueData : NDArray)
    (metadata : Option KVBlockMetadata) :
    let store := s.storageSimulator.storeBlock
      (p2Block blockId layerId keyData valueData metadata).ftl
    let stored := s.storeKv blockId layerId keyData valueData metadata
    stored.1 = store.1.map (fun _ => true) ∧ stored.2.storageSimulator = store.2 ∧
      stored.2.globalIdMap =
        s.globalIdMap.set (layerId, blockId) (encodeGlobalBlockId layerId blockId) := by
  dsimp only
  unfold storeKv announce
  dsimp only
  rcases s.storageSimulator.storeBlock (p2Block blockId layerId keyData valueData metadata).ftl with
    ⟨err | loc, sim⟩
  · exact ⟨rfl, rfl, rfl⟩
  · exact ⟨rfl, rfl, rfl⟩

def loadKv (blockId layerId : Int) :
    Except PyErr (NDArray × NDArray) × PhysicalTensorAwareStorageAdapter cfg :=
  match s.flashStore.get? (layerId, blockId) with
  | none =>
      (.error (.keyError
        s!"Block {blockId} for layer {layerId} not found in physical storage"), s)
  | some entry =>
      let payloadBytes := entry.payloadBytes
      let cached : Bool := (layerId, blockId) ∈ s.controllerDramCache
      let sim :=
        if cached then s.storageSimulator
        else (s.storageSimulator.estimateReadLatency [entry.globalId]).2
      let read := s.telemetry.readFlash cached payloadBytes
      (.ok (entry.k, entry.v),
        { s with
          storageSimulator := sim
          telemetry := { read with deviceToHostBytes := read.deviceToHostBytes + payloadBytes }
          traceLog := s.traceLog ++ [.loadKv layerId blockId payloadBytes] })

def evictKv (blockId layerId : Int) :
    Except PyErr Bool × PhysicalTensorAwareStorageAdapter cfg :=
  if s.flashStore.contains (layerId, blockId) then
    (.ok true,
      { s with
        flashStore := s.flashStore.erase (layerId, blockId)
        controllerDramCache := s.controllerDramCache.erase (layerId, blockId)
        globalIdMap := s.globalIdMap.erase (layerId, blockId) })
  else (.ok false, s)

/-- One pass of the loop of `prefetch_kv`, with the ids to read so far. -/
def prefetchOne (layerId : Int) (acc : List Int × PhysicalTensorAwareStorageAdapter cfg)
    (bid : Int) : List Int × PhysicalTensorAwareStorageAdapter cfg :=
  let s := acc.2
  match s.flashStore.get? (layerId, bid) with
  | none => acc
  | some entry =>
      if (layerId, bid) ∉ s.controllerDramCache ∧
          s.controllerDramUsedBytes + entry.payloadBytes ≤ s.controllerDramCapacityBytes then
        (acc.1 ++ [entry.globalId],
          { s with
            controllerDramCache := insert (layerId, bid) s.controllerDramCache
            controllerDramUsedBytes := s.controllerDramUsedBytes + entry.payloadBytes
            telemetry := s.telemetry.readFlash false entry.payloadBytes })
      else acc

/-- Every block staged adds one id, so their number is what is returned. -/
def prefetchKv (blockIds : List Int) (layerId : Int) :
    Except PyErr Nat × PhysicalTensorAwareStorageAdapter cfg :=
  let r := blockIds.foldl (prefetchOne layerId) ([], s)
  let staged := r.1.length
  let sim :=
    if r.1 = [] then r.2.storageSimulator
    else (r.2.storageSimulator.estimateReadLatency r.1).2
  (.ok staged,
    { r.2 with
      storageSimulator := sim
      traceLog := r.2.traceLog ++ [.prefetchKv layerId blockIds (staged * 4096)] })

def step (s : PhysicalTensorAwareStorageAdapter cfg) :
    Op → Except PyErr Answer × PhysicalTensorAwareStorageAdapter cfg
  | .storeKv blockId layerId keyData valueData metadata =>
      let r := s.storeKv blockId layerId keyData valueData metadata
      (r.1.map .done, r.2)
  | .loadKv blockId layerId =>
      let r := s.loadKv blockId layerId
      (r.1.map fun kv => .arrays kv.1 kv.2, r.2)
  | .prefetchKv blockIds layerId =>
      let r := s.prefetchKv blockIds layerId
      (r.1.map .staged, r.2)
  | .evictKv blockId layerId =>
      let r := s.evictKv blockId layerId
      (r.1.map .done, r.2)

variable (cfg) in
def machine : Machine (PhysicalTensorAwareStorageAdapter cfg) Op (Except PyErr Answer) where
  step := step

end PhysicalTensorAwareStorageAdapter

end AiSsd.DramCache
