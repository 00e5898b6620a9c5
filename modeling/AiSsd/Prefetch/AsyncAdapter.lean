import AiSsd.Prefetch.InferenceAdapter

/-!
# The prefetch adapter with its background fetches

The whole of `RealInferencePrefetchAdapter`: over any storage backend, whose methods it
looks for with `hasattr`, and with the asynchronous pipeline, whose staged entries carry a
future until a read resolves them. A call either returns, by value or by raising, or waits
for a future. Wall-clock times and the counters of waits are left out.
-/

namespace AiSsd.Prefetch.Async

open Lib Numpy Storage
open Adapters (Astype)
open Prefetch.RealInferencePrefetchAdapter (asStored reshaped reshapedBlock)

universe u v w

/-! ## Backends -/

/-- A backend; a method that `hasattr` does not find is `none`. `mock` is whether the class
name contains `Mock`. -/
structure Backend (σ : Type v) where
  mock : Bool
  writeBlock : Option (σ → (layerIdx blockId : Nat) → (kBlock vBlock : NDArray) →
    (headId tokenStart : Nat) → Except PyErr Unit × σ)
  write : Option (σ → (blockId offset : Nat) → (data : Bytes) → (layerId headId : Nat) →
    Except PyErr Unit × σ)
  readKeyPage : Option (BlockRead σ NDArray)
  readValuePage : Option (BlockRead σ NDArray)
  readBlock : Option (BlockRead σ (NDArray × NDArray))
  readKeyPageBatch : Option (BatchRead σ NDArray)
  readValuePageBatch : Option (BatchRead σ NDArray)
  readBlockBatch : Option (BatchRead σ (NDArray × NDArray))
  read : Option (σ → (blockId offset length layerId headId : Nat) → Except PyErr Bytes × σ)
  evictBlock : Option (σ → (layerIdx blockId : Nat) → Bool × σ)
  resetStats : Option (σ → σ)

namespace Backend

variable {σ : Type v} {α : Type u}

/-- A block store seen as a backend. Resetting its counters changes nothing it stores. -/
def ofBlockBackend (B : BlockBackend σ α) : Backend σ where
  mock := false
  writeBlock := some B.writeBlock
  write := none
  readKeyPage := some B.readKeyPage
  readValuePage := some B.readValuePage
  readBlock := some B.readBlock
  readKeyPageBatch := B.readKeyPageBatch
  readValuePageBatch := B.readValuePageBatch
  readBlockBatch := B.readBlockBatch
  read := none
  evictBlock := B.evictBlock
  resetStats := none

end Backend

/-! ## Staged blocks and background fetches -/

/-- `data` is `data_k` and `data_v`, which are set together. A future is its number in the
order of submission. -/
structure StagedInferenceBlock where
  blockId : Nat
  layerId : Nat
  headId : Nat
  sizeBytes : Nat
  data : Option (NDArray × NDArray)
  future : Option Nat
  isUseful : Bool
  metadata : Option BlockMeta

inductive FutureState where
  | running
  | done
  | failed (err : PyErr)
deriving Repr, DecidableEq

/-- A submitted call of `_fetch_block_batch_sync`: its arguments, how far it has come, and
the future it is waiting for in a read of its own. -/
structure BackgroundFetch where
  layerId : Nat
  blockIds : List Nat
  headId : Nat
  tokenStart : Nat
  remaining : List Nat
  fetched : Dict Nat (NDArray × NDArray)
  waitingOn : Option Nat
  state : FutureState

abbrev StagingBuffer := Dict (Nat × Nat) StagedInferenceBlock

structure RealInferencePrefetchAdapter (σ : Type v) where
  storageBackend : σ
  stagingBuffer : StagingBuffer
  blockMeta : Dict (Nat × Nat) BlockMeta
  blockPayloads : Dict (Nat × Nat) (NDArray × NDArray)
  predictor : NextLayerPredictor
  telemetry : AdapterTelemetry
  futures : List BackgroundFetch

inductive Outcome (ρ : Type w) where
  | returns (result : Except PyErr ρ)
  | waits (future : Nat)

namespace Outcome

variable {ρ τ : Type w}

def map (f : ρ → τ) : Outcome ρ → Outcome τ
  | .returns result => .returns (result.map f)
  | .waits future => .waits future

end Outcome

namespace RealInferencePrefetchAdapter

variable {σ : Type v} (B : Backend σ) (A : Astype) (cfg : AdapterConfig)

def init (storageBackend : σ) : RealInferencePrefetchAdapter σ where
  storageBackend := storageBackend
  stagingBuffer := Dict.empty
  blockMeta := Dict.empty
  blockPayloads := Dict.empty
  predictor := ⟨cfg.numLayers, ⟨1000, []⟩⟩
  telemetry := AdapterTelemetry.zero
  futures := []

/-! ## The staging buffer -/

def countDropped (t : AdapterTelemetry) (entry : StagedInferenceBlock) : AdapterTelemetry :=
  if entry.isUseful then t
  else
    { t with
      uselessPrefetches := t.uselessPrefetches + 1
      wastedBytes := t.wastedBytes + entry.sizeBytes }

/-- `while len(buffer) >= capacity: buffer.popitem(last=False)`, which raises on an empty
buffer. The fuel is one more than the buffer can be popped. -/
def dropOldest (capacity : Nat) :
    Nat → StagingBuffer → AdapterTelemetry → Except PyErr Unit × StagingBuffer × AdapterTelemetry
  | 0, buffer, t => (.ok (), buffer, t)
  | fuel + 1, buffer, t =>
      if buffer.size ≥ capacity then
        match buffer.popFirst? with
        | none => (.error (.keyError "dictionary is empty"), buffer, t)
        | some ((_, oldestEntry), rest) =>
            dropOldest capacity fuel rest (countDropped t oldestEntry)
      else (.ok (), buffer, t)

def ensureBufferCapacity (s : RealInferencePrefetchAdapter σ) :
    Except PyErr Unit × RealInferencePrefetchAdapter σ :=
  let r := dropOldest cfg.bufferCapacityBlocks (s.stagingBuffer.size + 1) s.stagingBuffer s.telemetry
  (r.1, { s with stagingBuffer := r.2.1, telemetry := r.2.2 })

/-- `for _ in miss_bids: self._ensure_buffer_capacity()`. -/
def ensureCapacityFor :
    List Nat → RealInferencePrefetchAdapter σ → Except PyErr Unit × RealInferencePrefetchAdapter σ
  | [], s => (.ok (), s)
  | _ :: missBids, s =>
      match ensureBufferCapacity cfg s with
      | (.error err, s) => (.error err, s)
      | (.ok (), s) => ensureCapacityFor missBids s

/-! ## Resolving a future -/

def populateOne (layerId : Nat) (buffer : StagingBuffer) (pair : Nat × NDArray × NDArray) :
    StagingBuffer :=
  match buffer.get? (layerId, pair.1) with
  | some entry =>
      buffer.set (layerId, pair.1) { entry with data := some pair.2, future := none }
  | none => buffer

/-- `for b_id, (k_arr, v_arr) in batch_dict.items()`. -/
def populate (layerId : Nat) (batch : Dict Nat (NDArray × NDArray)) (buffer : StagingBuffer) :
    StagingBuffer :=
  batch.entries.foldl (populateOne layerId) buffer

def resolveEntry (s : RealInferencePrefetchAdapter σ) (entry : StagedInferenceBlock) :
    Outcome Unit × RealInferencePrefetchAdapter σ :=
  match entry.future with
  | none => (.returns (.ok ()), s)
  | some future =>
      match s.futures[future]? with
      | none => (.waits future, s)
      | some fetch =>
          match fetch.state with
          | .running => (.waits future, s)
          | .failed err => (.returns (.error err), s)
          | .done =>
              (.returns (.ok ()),
                { s with stagingBuffer := populate entry.layerId fetch.fetched s.stagingBuffer })

/-! ## Reading one block -/

/-- `self._block_meta.get(key, {}).get("shape", default)`. -/
def metaShape (s : RealInferencePrefetchAdapter σ) (key : Nat × Nat) : List Nat :=
  ((s.blockMeta.get? key).bind fun m => m.shape).getD cfg.defaultShape

/-- The first demand read of a staged block makes its prefetch useful. -/
def markUseful (t : AdapterTelemetry) (entry : StagedInferenceBlock) (sizeBytes : Nat) :
    AdapterTelemetry :=
  if entry.isUseful then t
  else
    { t with
      usefulPrefetches := t.usefulPrefetches + 1
      usefulBytes := t.usefulBytes + sizeBytes }

/-- What every hit does: resolve the entry, move it to the recent end, mark and count it. -/
def hit (s : RealInferencePrefetchAdapter σ) (key : Nat × Nat) (entry : StagedInferenceBlock)
    (sizeBytes : Nat) :
    Outcome (Option (NDArray × NDArray)) × RealInferencePrefetchAdapter σ :=
  match resolveEntry s entry with
  | (.waits future, s) => (.waits future, s)
  | (.returns (.error err), s) => (.returns (.error err), s)
  | (.returns (.ok ()), s) =>
      let entry := (s.stagingBuffer.get? key).getD entry
      (.returns (.ok entry.data),
        { s with
          stagingBuffer := (s.stagingBuffer.moveToEnd key).set key { entry with isUseful := true }
          telemetry := (markUseful s.telemetry entry sizeBytes).recordHit sizeBytes })

/-- `raw or b"\x00" * length`. -/
def orZeros (raw : Bytes) (length : Nat) : Bytes :=
  if raw = [] then List.replicate length 0 else raw

def keyBytes (raw : Bytes) : Bytes := raw.take keyPageBytes

/-- `raw[KEY_PAGE_BYTES:KEY_PAGE_BYTES + VALUE_PAGE_BYTES]`. -/
def valueBytes (raw : Bytes) : Bytes := (raw.take (keyPageBytes + valuePageBytes)).drop keyPageBytes

def decodePair (dtype : DType) (shape : List Nat) (kRaw vRaw : Bytes) :
    Except PyErr (NDArray × NDArray) :=
  match NDArray.decode kRaw dtype shape with
  | .error err => .error err
  | .ok k =>
      match NDArray.decode vRaw dtype shape with
      | .error err => .error err
      | .ok v => .ok (k, v)

/-- The bytes an entry without arrays stands for; `data` is never set. -/
def zeroBlock : Bytes := List.replicate cfg.bytesPerBlock 0

def stagedKeyPage (_ : List Nat) : Option (NDArray × NDArray) → Except PyErr NDArray
  | some kv => .ok kv.1
  | none => NDArray.frombuffer (keyBytes (zeroBlock cfg)) cfg.npDtype

def stagedValuePage (_ : List Nat) : Option (NDArray × NDArray) → Except PyErr NDArray
  | some kv => .ok kv.2
  | none => NDArray.frombuffer (valueBytes (zeroBlock cfg)) cfg.npDtype

def stagedBlock (shape : List Nat) :
    Option (NDArray × NDArray) → Except PyErr (NDArray × NDArray)
  | some kv => reshapedBlock shape kv
  | none =>
      decodePair cfg.npDtype shape (keyBytes (zeroBlock cfg)) (valueBytes (zeroBlock cfg))

/-- The four ways to a block that is not staged: the backend's own method, the payload kept
for a mock, the backend's byte read, and zeros. -/
def fetchMiss {ρ : Type} (method : Option (BlockRead σ ρ)) (ofPayload : NDArray × NDArray → ρ)
    (offset length : Nat) (parse : Bytes → Except PyErr ρ) (missing : Except PyErr ρ)
    (s : RealInferencePrefetchAdapter σ) (layerIdx blockId headId tokenStart : Nat) :
    Except PyErr ρ × σ :=
  match method with
  | some read => read s.storageBackend layerIdx blockId headId tokenStart
  | none =>
      match s.blockPayloads.get? (layerIdx, blockId) with
      | some payload => (.ok (ofPayload payload), s.storageBackend)
      | none =>
          match B.read with
          | some read =>
              match read s.storageBackend blockId offset length layerIdx headId with
              | (.error err, b) => (.error err, b)
              | (.ok data, b) => (parse (orZeros data length), b)
          | none => (missing, s.storageBackend)

def zeroPage : NDArray := NDArray.zeros cfg.defaultShape cfg.npDtype

def fetchKeyPage : BlockRead (RealInferencePrefetchAdapter σ) NDArray :=
  fun s layerIdx blockId headId tokenStart =>
    let r := fetchMiss B B.readKeyPage Prod.fst 0 keyPageBytes
      (fun raw => NDArray.frombuffer raw cfg.npDtype) (.ok (zeroPage cfg))
      s layerIdx blockId headId tokenStart
    (r.1, { s with storageBackend := r.2 })

def fetchValuePage : BlockRead (RealInferencePrefetchAdapter σ) NDArray :=
  fun s layerIdx blockId headId tokenStart =>
    let r := fetchMiss B B.readValuePage Prod.snd keyPageBytes valuePageBytes
      (fun raw => NDArray.frombuffer raw cfg.npDtype) (.ok (zeroPage cfg))
      s layerIdx blockId headId tokenStart
    (r.1, { s with storageBackend := r.2 })

def fetchBlock : BlockRead (RealInferencePrefetchAdapter σ) (NDArray × NDArray) :=
  fun s layerIdx blockId headId tokenStart =>
    let r := fetchMiss B B.readBlock id 0 cfg.bytesPerBlock
      (fun raw => decodePair cfg.npDtype (metaShape cfg s (layerIdx, blockId)) (keyBytes raw)
        (valueBytes raw))
      (.ok (zeroPage cfg, zeroPage cfg)) s layerIdx blockId headId tokenStart
    (r.1, { s with storageBackend := r.2 })

/-- `self.misses += 1`. -/
def countMiss (s : RealInferencePrefetchAdapter σ) : RealInferencePrefetchAdapter σ :=
  { s with telemetry := { s.telemetry with misses := s.telemetry.misses + 1 } }

def recordMisses (s : RealInferencePrefetchAdapter σ) (sizeBytes : Nat) (missBids : List Nat) :
    RealInferencePrefetchAdapter σ :=
  { s with telemetry := missBids.foldl (fun t _ => t.recordMiss sizeBytes) s.telemetry }

abbrev AdapterRead (σ : Type v) (ρ : Type) :=
  RealInferencePrefetchAdapter σ → (layerIdx blockId headId tokenStart : Nat) →
    Outcome ρ × RealInferencePrefetchAdapter σ

def readSingle {ρ : Type} (sizeBytes : Nat)
    (staged : List Nat → Option (NDArray × NDArray) → Except PyErr ρ)
    (fetch : BlockRead (RealInferencePrefetchAdapter σ) ρ) : AdapterRead σ ρ :=
  fun s layerIdx blockId headId tokenStart =>
    let key := (layerIdx, blockId)
    match s.stagingBuffer.get? key with
    | some entry =>
        match hit s key entry sizeBytes with
        | (.waits future, s) => (.waits future, s)
        | (.returns (.error err), s) => (.returns (.error err), s)
        | (.returns (.ok data), s) => (.returns (staged (metaShape cfg s key) data), s)
    | none =>
        match fetch (countMiss s) layerIdx blockId headId tokenStart with
        | (.error err, s) => (.returns (.error err), s)
        | (.ok ret, s) => (.returns (.ok ret), recordMisses s sizeBytes [blockId])

def readKeyPage : AdapterRead σ NDArray :=
  readSingle cfg keyPageBytes (stagedKeyPage cfg) (fetchKeyPage B cfg)

def readValuePage : AdapterRead σ NDArray :=
  readSingle cfg valuePageBytes (stagedValuePage cfg) (fetchValuePage B cfg)

def readBlock : AdapterRead σ (NDArray × NDArray) :=
  readSingle cfg cfg.bytesPerBlock (stagedBlock cfg) (fetchBlock B cfg)

/-! ## Reading a batch -/

/-- The first loop of a batch read: results of the hits and the ids that missed. -/
def collectHits {ρ : Type} (sizeBytes : Nat)
    (staged : List Nat → Option (NDArray × NDArray) → Except PyErr ρ) (layerIdx : Nat) :
    List Nat → Dict Nat ρ → List Nat → RealInferencePrefetchAdapter σ →
      Outcome (Dict Nat ρ × List Nat) × RealInferencePrefetchAdapter σ
  | [], results, missBids, s => (.returns (.ok (results, missBids)), s)
  | bid :: bids, results, missBids, s =>
      let key := (layerIdx, bid)
      match s.stagingBuffer.get? key with
      | some entry =>
          match hit s key entry sizeBytes with
          | (.waits future, s) => (.waits future, s)
          | (.returns (.error err), s) => (.returns (.error err), s)
          | (.returns (.ok data), s) =>
              match staged (metaShape cfg s key) data with
              | .error err => (.returns (.error err), s)
              | .ok ret => collectHits sizeBytes staged layerIdx bids (results.set bid ret) missBids s
      | none =>
          collectHits sizeBytes staged layerIdx bids results (missBids ++ [bid]) (countMiss s)

/-- `for bid in miss_bids: results[bid] = self.read_...(layer_idx, bid, ...)`. -/
def readMissesEach {ρ : Type} (single : AdapterRead σ ρ) (layerIdx headId tokenStart : Nat) :
    List Nat → Dict Nat ρ → RealInferencePrefetchAdapter σ →
      Outcome (Dict Nat ρ) × RealInferencePrefetchAdapter σ
  | [], results, s => (.returns (.ok results), s)
  | bid :: bids, results, s =>
      match single s layerIdx bid headId tokenStart with
      | (.waits future, s) => (.waits future, s)
      | (.returns (.error err), s) => (.returns (.error err), s)
      | (.returns (.ok ret), s) =>
          readMissesEach single layerIdx headId tokenStart bids (results.set bid ret) s

def fetchMisses {ρ : Type} (batch : Option (BatchRead σ ρ)) (single : AdapterRead σ ρ)
    (s : RealInferencePrefetchAdapter σ) (layerIdx : Nat) (missBids : List Nat)
    (headId tokenStart : Nat) (results : Dict Nat ρ) :
    Outcome (Dict Nat ρ) × RealInferencePrefetchAdapter σ :=
  if missBids = [] then (.returns (.ok results), s)
  else
    match batch with
    | some read =>
        let r := read s.storageBackend layerIdx missBids headId tokenStart
        (.returns (r.1.map results.update), { s with storageBackend := r.2 })
    | none => readMissesEach single layerIdx headId tokenStart missBids results s

abbrev AdapterBatchRead (σ : Type v) (ρ : Type) :=
  RealInferencePrefetchAdapter σ → (layerIdx : Nat) → List Nat → (headId tokenStart : Nat) →
    Outcome (Dict Nat ρ) × RealInferencePrefetchAdapter σ

/-- What the three batch reads share. While it waits nothing is changed: the hits it has
counted are counted when it comes back to them. -/
def readBatch {ρ : Type} (sizeBytes : Nat)
    (staged : List Nat → Option (NDArray × NDArray) → Except PyErr ρ)
    (batch : Option (BatchRead σ ρ)) (single : AdapterRead σ ρ) : AdapterBatchRead σ ρ :=
  fun s layerIdx blockIds headId tokenStart =>
    if blockIds = [] then (.returns (.ok Dict.empty), s)
    else
      match collectHits cfg sizeBytes staged layerIdx blockIds Dict.empty [] s with
      | (.waits future, _) => (.waits future, s)
      | (.returns (.error err), s) => (.returns (.error err), s)
      | (.returns (.ok (results, missBids)), s₁) =>
          match fetchMisses batch single s₁ layerIdx missBids headId tokenStart results with
          | (.waits future, _) => (.waits future, s)
          | (.returns (.error err), s) => (.returns (.error err), s)
          | (.returns (.ok results), s) =>
              let s := recordMisses s sizeBytes missBids
              (.returns (.ok results),
                { s with
                  telemetry :=
                    { s.telemetry with
                      storageBatches := s.telemetry.storageBatches + 1
                      batchedRequests := s.telemetry.batchedRequests + blockIds.length } })

def stagedKeyOfBatch (shape : List Nat) : Option (NDArray × NDArray) → Except PyErr NDArray
  | some kv => reshaped shape kv.1
  | none => NDArray.decode (keyBytes (zeroBlock cfg)) cfg.npDtype shape

def stagedValueOfBatch (shape : List Nat) : Option (NDArray × NDArray) → Except PyErr NDArray
  | some kv => reshaped shape kv.2
  | none => NDArray.decode (valueBytes (zeroBlock cfg)) cfg.npDtype shape

def readKeyPageBatch : AdapterBatchRead σ NDArray :=
  readBatch cfg keyPageBytes (stagedKeyOfBatch cfg) B.readKeyPageBatch (readKeyPage B cfg)

def readValuePageBatch : AdapterBatchRead σ NDArray :=
  readBatch cfg valuePageBytes (stagedValueOfBatch cfg) B.readValuePageBatch (readValuePage B cfg)

def readBlockBatch : AdapterBatchRead σ (NDArray × NDArray) :=
  readBatch cfg cfg.bytesPerBlock (stagedBlock cfg) B.readBlockBatch (readBlock B cfg)

/-! ## Writing and evicting -/

def hasRealBackend : Bool := !B.mock && (B.writeBlock.isSome || B.write.isSome)

/-- The backend's `write_block`, or its byte write of K and V end to end, or nothing. -/
def delegateWrite (b : σ) (layerIdx blockId : Nat) (kArr vArr : NDArray)
    (headId tokenStart : Nat) : Except PyErr Unit × σ :=
  match B.writeBlock with
  | some writeBlock => writeBlock b layerIdx blockId kArr vArr headId tokenStart
  | none =>
      match B.write with
      | some write => write b blockId 0 (kArr.data ++ vArr.data) layerIdx headId
      | none => (.ok (), b)

def writeBlock (s : RealInferencePrefetchAdapter σ) (layerIdx blockId : Nat)
    (kBlock vBlock : Payload) (headId tokenStart : Nat) :
    Except PyErr Unit × RealInferencePrefetchAdapter σ :=
  match asStored A cfg kBlock with
  | .error err => (.error err, s)
  | .ok kArr =>
      match asStored A cfg vBlock with
      | .error err => (.error err, s)
      | .ok vArr =>
          let s := { s with
            blockMeta := s.blockMeta.set (layerIdx, blockId)
              { kShape := kArr.shape
                vShape := vArr.shape
                dtype := kArr.dtype
                headId := headId
                tokenStart := tokenStart
                shape := none }
            blockPayloads :=
              if hasRealBackend B then s.blockPayloads
              else s.blockPayloads.set (layerIdx, blockId) (kArr, vArr) }
          match delegateWrite B s.storageBackend layerIdx blockId kArr vArr headId tokenStart with
          | (.error err, b) => (.error err, { s with storageBackend := b })
          | (.ok (), b) =>
              (.ok (),
                { s with
                  storageBackend := b
                  telemetry :=
                    { s.telemetry with
                      blocksWritten := s.telemetry.blocksWritten + 1
                      bytesWritten := s.telemetry.bytesWritten + (kArr.nbytes + vArr.nbytes) } })

def evictBlock (s : RealInferencePrefetchAdapter σ) (layerIdx blockId : Nat) :
    Bool × RealInferencePrefetchAdapter σ :=
  let key := (layerIdx, blockId)
  let s := { s with stagingBuffer := s.stagingBuffer.erase key }
  match B.evictBlock with
  | some evict =>
      let r := evict s.storageBackend layerIdx blockId
      (r.1, { s with storageBackend := r.2 })
  | none =>
      if s.blockPayloads.contains key then
        (true, { s with blockPayloads := s.blockPayloads.erase key })
      else (false, s)

/-- The buffer is emptied with the counters. Fetches under way are not stopped. -/
def resetStats (s : RealInferencePrefetchAdapter σ) : RealInferencePrefetchAdapter σ :=
  { s with
    stagingBuffer := Dict.empty
    telemetry := AdapterTelemetry.zero
    storageBackend := (B.resetStats.getD id) s.storageBackend }

/-! ## Prefetching -/

def missing (s : RealInferencePrefetchAdapter σ) (layerId : Nat) (blockIds : List Nat) :
    List Nat :=
  blockIds.filter fun bid => !s.stagingBuffer.contains (layerId, bid)

/-- A new entry, with its arrays or with the future they will come from. -/
def stage (s : RealInferencePrefetchAdapter σ) (layerId bid headId : Nat)
    (data : Option (NDArray × NDArray)) (future : Option Nat) : RealInferencePrefetchAdapter σ :=
  let entry : StagedInferenceBlock :=
    { blockId := bid
      layerId := layerId
      headId := headId
      sizeBytes := cfg.bytesPerBlock
      data := data
      future := future
      isUseful := false
      metadata := s.blockMeta.get? (layerId, bid) }
  { s with
    stagingBuffer := s.stagingBuffer.set (layerId, bid) entry
    telemetry :=
      { s.telemetry with
        prefetchRequests := s.telemetry.prefetchRequests + 1
        prefetchedBytes := s.telemetry.prefetchedBytes + cfg.bytesPerBlock } }

/-- `peak_memory_bytes`, at the end of a prefetch. -/
def recordPeak (s : RealInferencePrefetchAdapter σ) : RealInferencePrefetchAdapter σ :=
  let currentMemoryBytes := s.stagingBuffer.size * cfg.bytesPerBlock
  { s with
    telemetry :=
      { s.telemetry with
        peakMemoryBytes := max s.telemetry.peakMemoryBytes currentMemoryBytes } }

/-- Bytes cut in the middle, which is how a prefetch reads a block from bytes. -/
def decodeHalves (shape : List Nat) (raw : Bytes) : Except PyErr (NDArray × NDArray) :=
  decodePair cfg.npDtype shape (raw.take (raw.length / 2)) (raw.drop (raw.length / 2))

def fetchBlocks (b : σ) (layerId : Nat) (missBids : List Nat) (headId tokenStart : Nat) :
    Except PyErr (Dict Nat (NDArray × NDArray)) × σ :=
  match B.readBlockBatch with
  | some read => read b layerId missBids headId tokenStart
  | none => (.ok Dict.empty, b)

def fetchForStaging (fetched : Dict Nat (NDArray × NDArray)) :
    BlockRead (RealInferencePrefetchAdapter σ) (NDArray × NDArray) :=
  fun s layerId bid headId tokenStart =>
    match fetched.get? bid with
    | some kv => (.ok kv, s)
    | none =>
        let decode := decodeHalves cfg (metaShape cfg s (layerId, bid))
        let r := fetchMiss B B.readBlock id 0 cfg.bytesPerBlock decode (decode (zeroBlock cfg))
          s layerId bid headId tokenStart
        (r.1, { s with storageBackend := r.2 })

def stageEach (fetched : Dict Nat (NDArray × NDArray)) (layerId headId tokenStart : Nat) :
    List Nat → List Nat → RealInferencePrefetchAdapter σ →
      Except PyErr (List Nat) × RealInferencePrefetchAdapter σ
  | [], dispatched, s => (.ok dispatched, recordPeak cfg s)
  | bid :: bids, dispatched, s =>
      match fetchForStaging B cfg fetched s layerId bid headId tokenStart with
      | (.error err, s) => (.error err, s)
      | (.ok kv, s) =>
          stageEach fetched layerId headId tokenStart bids (dispatched ++ [bid])
            (stage cfg s layerId bid headId (some kv) none)

/-- The synchronous path, after room has been made for the misses. -/
def prefetchSync (s : RealInferencePrefetchAdapter σ) (layerId : Nat) (missBids : List Nat)
    (headId tokenStart : Nat) : Except PyErr (List Nat) × RealInferencePrefetchAdapter σ :=
  match fetchBlocks B s.storageBackend layerId missBids headId tokenStart with
  | (.error err, b) => (.error err, { s with storageBackend := b })
  | (.ok fetched, b) =>
      stageEach B cfg fetched layerId headId tokenStart missBids [] { s with storageBackend := b }

/-- `submit(self._fetch_block_batch_sync, ...)`: the future's number is how many there were. -/
def submit (s : RealInferencePrefetchAdapter σ) (layerId : Nat) (missBids : List Nat)
    (headId tokenStart : Nat) : RealInferencePrefetchAdapter σ :=
  { s with
    futures := s.futures ++
      [{ layerId := layerId
         blockIds := missBids
         headId := headId
         tokenStart := tokenStart
         remaining := missBids
         fetched := Dict.empty
         waitingOn := none
         state := .running }] }

/-! ## The background fetches -/

def setFetch (s : RealInferencePrefetchAdapter σ) (future : Nat) (fetch : BackgroundFetch) :
    RealInferencePrefetchAdapter σ :=
  { s with futures := s.futures.set future fetch }

/-- The next storage call of a fetch: all its blocks at once where the backend has a batch
read, otherwise the adapter's own read of its next block. -/
def fetchNext (s : RealInferencePrefetchAdapter σ) (future : Nat) :
    RealInferencePrefetchAdapter σ :=
  match s.futures[future]? with
  | none => s
  | some fetch =>
      if fetch.state = .running then
        match fetch.remaining with
        | [] => s
        | bid :: rest =>
            match B.readBlockBatch with
            | some read =>
                match read s.storageBackend fetch.layerId fetch.blockIds fetch.headId
                    fetch.tokenStart with
                | (.error err, b) =>
                    setFetch { s with storageBackend := b } future { fetch with state := .failed err }
                | (.ok fetched, b) =>
                    setFetch { s with storageBackend := b } future
                      { fetch with remaining := [], fetched := fetched }
            | none =>
                match readBlock B cfg s fetch.layerId bid fetch.headId fetch.tokenStart with
                | (.waits other, s) => setFetch s future { fetch with waitingOn := some other }
                | (.returns (.error err), s) =>
                    setFetch s future { fetch with state := .failed err, waitingOn := none }
                | (.returns (.ok kv), s) =>
                    setFetch s future
                      { fetch with
                        remaining := rest
                        fetched := fetch.fetched.set bid kv
                        waitingOn := none }
      else s

/-- A fetch with nothing left to read sets its result. -/
def complete (s : RealInferencePrefetchAdapter σ) (future : Nat) :
    RealInferencePrefetchAdapter σ :=
  match s.futures[future]? with
  | none => s
  | some fetch =>
      if fetch.state = .running ∧ fetch.remaining = [] then
        setFetch s future { fetch with state := .done }
      else s

/-- A running fetch raises, whatever it was at. -/
def fail (s : RealInferencePrefetchAdapter σ) (future : Nat) (err : PyErr) :
    RealInferencePrefetchAdapter σ :=
  match s.futures[future]? with
  | none => s
  | some fetch =>
      if fetch.state = .running then setFetch s future { fetch with state := .failed err } else s

end RealInferencePrefetchAdapter

end AiSsd.Prefetch.Async
