import AiSsd.Lib.CachedStore
import AiSsd.Lib.Machine
import AiSsd.Numpy.NDArray
import AiSsd.Storage.MockSsd

/-!
# The controller's DRAM cache

`MockSSDController` with arrays of any shape and dtype, and the cache its DRAM holds of the
stored blocks: prefetching stages a block when it fits, and a counter of used bytes is kept
along the way. Simulated times are left out, and so are listeners, whose calls would come
after the event as operations of their own.
-/

namespace AiSsd.DramCache

open Lib Numpy Storage

/-- `(layer_id, block_id)`. -/
abbrev Key := Int × Int

structure KVBlockMetadata where
  blockId : Int
  layerId : Int
  tokenStart : Int
  tokenCount : Int
  numHeads : Int
  headDim : Int
  dtypeStr : String
  dtypeBytes : Int
  accessCount : Nat
deriving DecidableEq

def KVBlockMetadata.touch (m : KVBlockMetadata) : KVBlockMetadata :=
  { m with accessCount := m.accessCount + 1 }

structure FlashEntry where
  k : NDArray
  v : NDArray
  metadata : KVBlockMetadata
deriving DecidableEq

def FlashEntry.payloadBytes (entry : FlashEntry) : Nat := entry.k.nbytes + entry.v.nbytes

def FlashEntry.touch (entry : FlashEntry) : FlashEntry :=
  { entry with metadata := entry.metadata.touch }

inductive AccessEvent where
  | store (layerId blockId : Int) (bytes : Nat)
  | load (layerId blockId : Int) (bytes : Nat)
deriving DecidableEq

structure MockSSDController where
  dramCapacityBytes : Nat
  flashStore : Dict Key FlashEntry
  controllerDramCache : Finset Key
  controllerDramUsedBytes : Nat
  telemetry : Telemetry
  traceLog : List AccessEvent

namespace MockSSDController

def init (controllerDramSizeMb : Nat) : MockSSDController where
  dramCapacityBytes := controllerDramSizeMb * 1024 * 1024
  flashStore := Dict.empty
  controllerDramCache := ∅
  controllerDramUsedBytes := 0
  telemetry := Telemetry.zero
  traceLog := []

variable (s : MockSSDController)

/-- The metadata passed, or else what the shape says, which must have three entries. -/
def metadataOf (blockId layerId : Int) (keyData : NDArray) :
    Option KVBlockMetadata → Except PyErr KVBlockMetadata
  | some metadata => .ok metadata
  | none =>
      match keyData.shape with
      | tokens :: heads :: dim :: _ =>
          .ok ⟨blockId, layerId, 0, tokens, heads, dim, keyData.dtype.name,
            keyData.dtype.itemsize, 0⟩
      | _ => .error .indexError

def storeKv (blockId layerId : Int) (keyData valueData : NDArray)
    (metadata : Option KVBlockMetadata) : Except PyErr Bool × MockSSDController :=
  let payloadBytes := keyData.nbytes + valueData.nbytes
  let counted :=
    { s with
      telemetry :=
        { s.telemetry with
          hostToDeviceBytes := s.telemetry.hostToDeviceBytes + payloadBytes
          flashWriteBytes := s.telemetry.flashWriteBytes + payloadBytes
          nandWriteOps := s.telemetry.nandWriteOps + 1 } }
  match metadataOf blockId layerId keyData metadata with
  | .error err => (.error err, counted)
  | .ok metadata =>
      let entry := ⟨keyData.ascontiguousarray, valueData.ascontiguousarray, metadata⟩
      (.ok true,
        { counted with
          flashStore := s.flashStore.set (layerId, blockId) entry
          traceLog := s.traceLog ++ [.store layerId blockId payloadBytes] })

def loadKv (blockId layerId : Int) :
    Except PyErr (NDArray × NDArray) × MockSSDController :=
  match s.flashStore.get? (layerId, blockId) with
  | none =>
      (.error (.keyError
        s!"KV Block (layer={layerId}, block={blockId}) not found in storage."), s)
  | some entry =>
      let payloadBytes := entry.payloadBytes
      let cached : Bool := (layerId, blockId) ∈ s.controllerDramCache
      let read := s.telemetry.readFlash cached payloadBytes
      let staged := if cached then 0 else payloadBytes
      (.ok (entry.k, entry.v),
        { s with
          flashStore := s.flashStore.set (layerId, blockId) entry.touch
          telemetry :=
            { read with
              controllerDramWriteBytes := read.controllerDramWriteBytes + staged
              deviceToHostBytes := read.deviceToHostBytes + payloadBytes }
          traceLog := s.traceLog ++ [.load layerId blockId payloadBytes] })

def evictKv (blockId layerId : Int) : Except PyErr Bool × MockSSDController :=
  if s.flashStore.contains (layerId, blockId) then
    (.ok true,
      { s with
        flashStore := s.flashStore.erase (layerId, blockId)
        controllerDramCache := s.controllerDramCache.erase (layerId, blockId) })
  else (.ok false, s)

/-- One pass of the loop of `prefetch_kv`, with the number staged so far. -/
def prefetchOne (layerId : Int) (acc : Nat × MockSSDController) (bid : Int) :
    Nat × MockSSDController :=
  let s := acc.2
  match s.flashStore.get? (layerId, bid) with
  | none => acc
  | some entry =>
      if (layerId, bid) ∉ s.controllerDramCache ∧
          s.controllerDramUsedBytes + entry.payloadBytes ≤ s.dramCapacityBytes then
        (acc.1 + 1,
          { s with
            controllerDramCache := insert (layerId, bid) s.controllerDramCache
            controllerDramUsedBytes := s.controllerDramUsedBytes + entry.payloadBytes
            telemetry := s.telemetry.readFlash false entry.payloadBytes })
      else acc

def prefetchKv (blockIds : List Int) (layerId : Int) : Except PyErr Nat × MockSSDController :=
  let r := blockIds.foldl (prefetchOne layerId) (0, s)
  (.ok r.1, r.2)

end MockSSDController

/-! ## Runs -/

inductive Op where
  | storeKv (blockId layerId : Int) (keyData valueData : NDArray)
      (metadata : Option KVBlockMetadata)
  | loadKv (blockId layerId : Int)
  | prefetchKv (blockIds : List Int) (layerId : Int)
  | evictKv (blockId layerId : Int)

inductive Answer where
  | done (changed : Bool)
  | arrays (k v : NDArray)
  | staged (count : Nat)

namespace MockSSDController

def step (s : MockSSDController) : Op → Except PyErr Answer × MockSSDController
  | .storeKv blockId layerId keyData valueData metadata =>
      let r := s.storeKv blockId layerId keyData valueData metadata
      (r.1.map .done, r.2)
  | .loadKv blockId layerId =>
      let r := s.loadKv blockId layerId
      (r.1.map fun kv => .arrays kv.1 kv.2, r.2)
  | .prefetchKv blockIds layerId =>
      let r := s.prefetchKv blockIds layerId
      (r.1.map .staged, r.2)
  | .evictKv blockId layerId =>
      let r := s.evictKv blockId layerId
      (r.1.map .done, r.2)

def machine : Machine MockSSDController Op (Except PyErr Answer) where
  step := step

end MockSSDController

end AiSsd.DramCache
