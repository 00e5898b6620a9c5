import AiSsd.Adapters.Tensors
import AiSsd.Lib.Machine
import AiSsd.Storage.InferenceBackend

/-!
# The prefetch adapter

`RealInferencePrefetchAdapter` stages blocks of a store in host memory and answers
reads of staged blocks from there. Modelled with the asynchronous pipeline off and
over a store with its own `write_block` and reads, so that a staged block always has
its arrays and never a pending future.
-/

namespace AiSsd.Prefetch

open Lib Numpy Storage
open Adapters (Astype)

universe u v

/-! ## The predictor -/

structure AccessHistory where
  capacity : Nat
  history : List (Nat × List Nat)

def AccessHistory.recordAccess (h : AccessHistory) (layerId : Nat) (blockIds : List Nat) :
    AccessHistory :=
  let appended := h.history ++ [(layerId, blockIds)]
  { h with history := if appended.length > h.capacity then appended.tail else appended }

structure NextLayerPredictor where
  totalLayers : Nat
  history : AccessHistory

def NextLayerPredictor.predictNextLayerBlocks (p : NextLayerPredictor) (currentLayerId : Nat)
    (currentBlockIds : List Nat) (stride : Nat) :
    Except PyErr (Nat × List Nat) × NextLayerPredictor :=
  if p.totalLayers = 0 then (.error .zeroDivisionError, p)
  else
    let nextLayer := (currentLayerId + 1) % p.totalLayers
    let predicted := currentBlockIds.foldl (fun predicted bid =>
      let targetBid := bid + stride
      if targetBid ∈ predicted then predicted else predicted ++ [targetBid]) []
    (.ok (nextLayer, predicted),
      { p with history := p.history.recordAccess currentLayerId currentBlockIds })

/-! ## The adapter -/

def keyPageBytes : Nat := 4096

def valuePageBytes : Nat := 4096

def int8 : DType := ⟨"int8", 1, Nat.one_pos⟩

/-- Constructor arguments the operations read; `dtypeStr` is lower case. -/
structure AdapterConfig where
  bufferCapacityBlocks : Nat
  bytesPerBlock : Nat
  tokensPerBlock : Nat
  kvHeadsPerBlock : Nat
  headDim : Nat
  dtypeStr : String
  numLayers : Nat

namespace AdapterConfig

variable (cfg : AdapterConfig)

def bytesPerElem : Nat :=
  if cfg.dtypeStr ∈ ["fp32", "float32"] then 4
  else if cfg.dtypeStr ∈ ["fp16", "float16", "bf16"] then 2
  else 1

def npDtype : DType :=
  if cfg.bytesPerElem = 4 then float32 else if cfg.bytesPerElem = 2 then float16 else int8

/-- `(tokens_per_block, kv_heads_per_block, head_dim)`. -/
def defaultShape : List Nat := [cfg.tokensPerBlock, cfg.kvHeadsPerBlock, cfg.headDim]

end AdapterConfig

/-- What `_block_meta` keeps of a write. Reads ask it for `shape`, a key of its own
beside `k_shape` and `v_shape`. -/
structure BlockMeta where
  kShape : List Nat
  vShape : List Nat
  dtype : DType
  headId : Nat
  tokenStart : Nat
  shape : Option (List Nat)

structure StagedInferenceBlock where
  blockId : Nat
  layerId : Nat
  headId : Nat
  sizeBytes : Nat
  dataK : NDArray
  dataV : NDArray
  isUseful : Bool
  metadata : Option BlockMeta

structure AdapterTelemetry where
  demandReads : Nat
  demandHits : Nat
  demandMisses : Nat
  prefetchRequests : Nat
  usefulPrefetches : Nat
  uselessPrefetches : Nat
  prefetchedBytes : Nat
  usefulBytes : Nat
  wastedBytes : Nat
  demandBytes : Nat
  peakMemoryBytes : Nat
  storageBatches : Nat
  batchedRequests : Nat
  misses : Nat
  blocksWritten : Nat
  bytesWritten : Nat

namespace AdapterTelemetry

def zero : AdapterTelemetry := ⟨0, 0, 0, 0, 0, 0, 0, 0, 0, 0, 0, 0, 0, 0, 0, 0⟩

def recordHit (t : AdapterTelemetry) (sizeBytes : Nat) : AdapterTelemetry :=
  { t with
    demandReads := t.demandReads + 1
    demandHits := t.demandHits + 1
    demandBytes := t.demandBytes + sizeBytes }

def recordMiss (t : AdapterTelemetry) (sizeBytes : Nat) : AdapterTelemetry :=
  { t with
    demandReads := t.demandReads + 1
    demandMisses := t.demandMisses + 1
    demandBytes := t.demandBytes + sizeBytes }

def markUseful (t : AdapterTelemetry) (entry : StagedInferenceBlock) (sizeBytes : Nat) :
    AdapterTelemetry :=
  if entry.isUseful then t
  else
    { t with
      usefulPrefetches := t.usefulPrefetches + 1
      usefulBytes := t.usefulBytes + sizeBytes }

def countDropped (t : AdapterTelemetry) (entry : StagedInferenceBlock) : AdapterTelemetry :=
  if entry.isUseful then t
  else
    { t with
      uselessPrefetches := t.uselessPrefetches + 1
      wastedBytes := t.wastedBytes + entry.sizeBytes }

end AdapterTelemetry

abbrev StagingBuffer := Dict (Nat × Nat) StagedInferenceBlock

structure RealInferencePrefetchAdapter (σ : Type v) where
  storageBackend : σ
  stagingBuffer : StagingBuffer
  blockMeta : Dict (Nat × Nat) BlockMeta
  predictor : NextLayerPredictor
  telemetry : AdapterTelemetry

namespace RealInferencePrefetchAdapter

variable {σ : Type v} {α : Type u} (B : BlockBackend σ α) (A : Astype) (cfg : AdapterConfig)

def init (storageBackend : σ) : RealInferencePrefetchAdapter σ where
  storageBackend := storageBackend
  stagingBuffer := Dict.empty
  blockMeta := Dict.empty
  predictor := ⟨cfg.numLayers, ⟨1000, []⟩⟩
  telemetry := AdapterTelemetry.zero

/-! ## The staging buffer -/

/-- `while len(buffer) >= capacity: buffer.popitem(last=False)`, which raises on an empty
buffer. The fuel is one more than the buffer can be popped. -/
def dropOldest (capacity : Nat) :
    Nat → StagingBuffer → AdapterTelemetry → Except PyErr Unit × StagingBuffer × AdapterTelemetry
  | 0, buffer, t => (.ok (), buffer, t)
  | fuel + 1, buffer, t =>
      if buffer.size ≥ capacity then
        match buffer.popFirst? with
        | none => (.error (.keyError "dictionary is empty"), buffer, t)
        | some ((_, oldestEntry), rest) =>
            dropOldest capacity fuel rest (t.countDropped oldestEntry)
      else (.ok (), buffer, t)

def ensureBufferCapacity (s : RealInferencePrefetchAdapter σ) :
    Except PyErr Unit × RealInferencePrefetchAdapter σ :=
  let r := dropOldest cfg.bufferCapacityBlocks (s.stagingBuffer.size + 1) s.stagingBuffer s.telemetry
  (r.1, { s with stagingBuffer := r.2.1, telemetry := r.2.2 })

/-- The fuel lasts: the loop ends with room for a block, or by raising on an empty buffer. -/
theorem size_dropOldest (capacity fuel : Nat) (buffer : StagingBuffer) (t : AdapterTelemetry)
    (hfuel : buffer.size < fuel) :
    ((dropOldest capacity fuel buffer t).1 = .ok () ∧
        (dropOldest capacity fuel buffer t).2.1.size < capacity) ∨
      (capacity = 0 ∧ (dropOldest capacity fuel buffer t).2.1.size = 0) := by
  induction fuel generalizing buffer t with
  | zero => omega
  | succ fuel ih =>
      unfold dropOldest
      by_cases hfull : buffer.size ≥ capacity
      · rw [if_pos hfull]
        cases hpop : buffer.popFirst? with
        | none =>
            have hempty := Dict.popFirst?_eq_none hpop
            exact Or.inr ⟨by omega, hempty⟩
        | some popped =>
            obtain ⟨⟨key, oldest⟩, rest⟩ := popped
            have hsize := Dict.size_of_popFirst? hpop
            exact ih rest _ (by omega)
      · rw [if_neg hfull]
        exact Or.inl ⟨rfl, Nat.lt_of_not_ge hfull⟩

/-- `for _ in miss_bids: self._ensure_buffer_capacity()`. -/
def ensureCapacityFor :
    List Nat → RealInferencePrefetchAdapter σ → Except PyErr Unit × RealInferencePrefetchAdapter σ
  | [], s => (.ok (), s)
  | _ :: missBids, s =>
      match ensureBufferCapacity cfg s with
      | (.error err, s) => (.error err, s)
      | (.ok (), s) => ensureCapacityFor missBids s

/-- `np.ascontiguousarray(arr, dtype=np_dtype)` of an array, `np.frombuffer` of bytes. -/
def asStored : Payload → Except PyErr NDArray
  | .array a =>
      let arr := a.ascontiguousarray
      .ok
        { dtype := cfg.npDtype
          shape := arr.shape
          data := A.astype arr.dtype cfg.npDtype arr.data
          size_eq := A.length_astype _ _ _ _ arr.size_eq }
  | .raw bytes => NDArray.frombuffer bytes cfg.npDtype

/-! ## Writing -/

def writeBlock (s : RealInferencePrefetchAdapter σ) (layerIdx blockId : Nat)
    (kBlock vBlock : Payload) (headId tokenStart : Nat) :
    Except PyErr Unit × RealInferencePrefetchAdapter σ :=
  match asStored A cfg kBlock with
  | .error err => (.error err, s)
  | .ok kArr =>
      match asStored A cfg vBlock with
      | .error err => (.error err, s)
      | .ok vArr =>
          let s := { s with
            blockMeta := s.blockMeta.set (layerIdx, blockId)
              { kShape := kArr.shape
                vShape := vArr.shape
                dtype := kArr.dtype
                headId := headId
                tokenStart := tokenStart
                shape := none } }
          match B.writeBlock s.storageBackend layerIdx blockId kArr vArr headId tokenStart with
          | (.error err, b) => (.error err, { s with storageBackend := b })
          | (.ok (), b) =>
              let totalBytes := kArr.nbytes + vArr.nbytes
              (.ok (),
                { s with
                  storageBackend := b
                  telemetry :=
                    { s.telemetry with
                      blocksWritten := s.telemetry.blocksWritten + 1
                      bytesWritten := s.telemetry.bytesWritten + totalBytes } })

/-! ## Prefetching -/

def fetchBlocks (b : σ) (layerId : Nat) (missBids : List Nat) (headId tokenStart : Nat) :
    Except PyErr (Dict Nat (NDArray × NDArray)) × σ :=
  match B.readBlockBatch with
  | some read => read b layerId missBids headId tokenStart
  | none => (.ok Dict.empty, b)

def fetchBlock (fetched : Dict Nat (NDArray × NDArray)) (b : σ)
    (layerId bid headId tokenStart : Nat) : Except PyErr (NDArray × NDArray) × σ :=
  match fetched.get? bid with
  | some kv => (.ok kv, b)
  | none => B.readBlock b layerId bid headId tokenStart

def stage (s : RealInferencePrefetchAdapter σ) (layerId bid headId : Nat)
    (kv : NDArray × NDArray) : RealInferencePrefetchAdapter σ :=
  let entry : StagedInferenceBlock :=
    { blockId := bid
      layerId := layerId
      headId := headId
      sizeBytes := cfg.bytesPerBlock
      dataK := kv.1
      dataV := kv.2
      isUseful := false
      metadata := s.blockMeta.get? (layerId, bid) }
  { s with
    stagingBuffer := s.stagingBuffer.set (layerId, bid) entry
    telemetry :=
      { s.telemetry with
        prefetchRequests := s.telemetry.prefetchRequests + 1
        prefetchedBytes := s.telemetry.prefetchedBytes + cfg.bytesPerBlock } }

def stageEach (fetched : Dict Nat (NDArray × NDArray)) (layerId headId tokenStart : Nat) :
    List Nat → List Nat → RealInferencePrefetchAdapter σ →
      Except PyErr (List Nat) × RealInferencePrefetchAdapter σ
  | [], dispatched, s => (.ok dispatched, s)
  | bid :: bids, dispatched, s =>
      match fetchBlock B fetched s.storageBackend layerId bid headId tokenStart with
      | (.error err, b) => (.error err, { s with storageBackend := b })
      | (.ok kv, b) =>
          stageEach fetched layerId headId tokenStart bids (dispatched ++ [bid])
            (stage cfg { s with storageBackend := b } layerId bid headId kv)

def prefetch (s : RealInferencePrefetchAdapter σ) (blockIds : List Nat)
    (layerId headId tokenStart : Nat) :
    Except PyErr (List Nat) × RealInferencePrefetchAdapter σ :=
  let missBids := blockIds.filter fun bid => !s.stagingBuffer.contains (layerId, bid)
  if missBids = [] then (.ok [], s)
  else
    match ensureCapacityFor cfg missBids s with
    | (.error err, s) => (.error err, s)
    | (.ok (), s) =>
        match fetchBlocks B s.storageBackend layerId missBids headId tokenStart with
        | (.error err, b) => (.error err, { s with storageBackend := b })
        | (.ok fetched, b) =>
            match stageEach B cfg fetched layerId headId tokenStart missBids []
                { s with storageBackend := b } with
            | (.error err, s) => (.error err, s)
            | (.ok dispatched, s) =>
                let currentMemoryBytes := s.stagingBuffer.size * cfg.bytesPerBlock
                (.ok dispatched,
                  { s with
                    telemetry :=
                      { s.telemetry with
                        peakMemoryBytes :=
                          max s.telemetry.peakMemoryBytes currentMemoryBytes } })

def predictAndPrefetch (s : RealInferencePrefetchAdapter σ) (currentLayerId : Nat)
    (currentBlockIds : List Nat) (stride : Nat) :
    Except PyErr (Nat × List Nat) × RealInferencePrefetchAdapter σ :=
  match s.predictor.predictNextLayerBlocks currentLayerId currentBlockIds stride with
  | (.error err, p) => (.error err, { s with predictor := p })
  | (.ok (nextLayer, predictedBids), p) =>
      match prefetch B cfg { s with predictor := p } predictedBids nextLayer 0 0 with
      | (.error err, s) => (.error err, s)
      | (.ok dispatched, s) => (.ok (nextLayer, dispatched), s)

/-! ## Reading -/

/-- `self._block_meta.get(key, {}).get("shape", default)`. -/
def metaShape (s : RealInferencePrefetchAdapter σ) (key : Nat × Nat) : List Nat :=
  ((s.blockMeta.get? key).bind fun m => m.shape).getD cfg.defaultShape

/-- `a.reshape(shape) if a.shape != shape else a`. -/
def reshaped (shape : List Nat) (a : NDArray) : Except PyErr NDArray :=
  if a.shape ≠ shape then a.reshape shape else .ok a

def reshapedBlock (shape : List Nat) (kv : NDArray × NDArray) : Except PyErr (NDArray × NDArray) :=
  match reshaped shape kv.1 with
  | .error err => .error err
  | .ok k =>
      match reshaped shape kv.2 with
      | .error err => .error err
      | .ok v => .ok (k, v)

def hit (s : RealInferencePrefetchAdapter σ) (key : Nat × Nat) (entry : StagedInferenceBlock)
    (sizeBytes : Nat) : RealInferencePrefetchAdapter σ :=
  { s with
    stagingBuffer := (s.stagingBuffer.moveToEnd key).set key { entry with isUseful := true }
    telemetry := (s.telemetry.markUseful entry sizeBytes).recordHit sizeBytes }

/-- `self.misses += 1`. -/
def countMiss (s : RealInferencePrefetchAdapter σ) : RealInferencePrefetchAdapter σ :=
  { s with telemetry := { s.telemetry with misses := s.telemetry.misses + 1 } }

def recordMisses (s : RealInferencePrefetchAdapter σ) (sizeBytes : Nat) (missBids : List Nat) :
    RealInferencePrefetchAdapter σ :=
  { s with telemetry := missBids.foldl (fun t _ => t.recordMiss sizeBytes) s.telemetry }

/-- What the three single reads share: a hit answers from the staged arrays, a miss from
the store. `staged` is given the shape `_block_meta` has for the block. -/
def readSingle {ρ : Type} (sizeBytes : Nat)
    (staged : List Nat → NDArray × NDArray → Except PyErr ρ) (fetch : BlockRead σ ρ) :
    BlockRead (RealInferencePrefetchAdapter σ) ρ :=
  fun s layerIdx blockId headId tokenStart =>
    match s.stagingBuffer.get? (layerIdx, blockId) with
    | some entry =>
        (staged (metaShape cfg s (layerIdx, blockId)) (entry.dataK, entry.dataV),
          hit s (layerIdx, blockId) entry sizeBytes)
    | none =>
        let s := countMiss s
        match fetch s.storageBackend layerIdx blockId headId tokenStart with
        | (.error err, b) => (.error err, { s with storageBackend := b })
        | (.ok ret, b) => (.ok ret, recordMisses { s with storageBackend := b } sizeBytes [blockId])

/-- A page read returns the staged array in whatever shape it has. -/
def readKeyPage : BlockRead (RealInferencePrefetchAdapter σ) NDArray :=
  readSingle cfg keyPageBytes (fun _ kv => .ok kv.1) B.readKeyPage

def readValuePage : BlockRead (RealInferencePrefetchAdapter σ) NDArray :=
  readSingle cfg valuePageBytes (fun _ kv => .ok kv.2) B.readValuePage

def readBlock : BlockRead (RealInferencePrefetchAdapter σ) (NDArray × NDArray) :=
  readSingle cfg cfg.bytesPerBlock reshapedBlock B.readBlock

/-! ## Reading a batch -/

/-- The first loop of a batch read: results of the hits and the ids that missed. -/
def collectHits {ρ : Type} (sizeBytes : Nat)
    (staged : List Nat → NDArray × NDArray → Except PyErr ρ) (layerIdx : Nat) :
    List Nat → Dict Nat ρ → List Nat → RealInferencePrefetchAdapter σ →
      Except PyErr (Dict Nat ρ × List Nat) × RealInferencePrefetchAdapter σ
  | [], results, missBids, s => (.ok (results, missBids), s)
  | bid :: bids, results, missBids, s =>
      match s.stagingBuffer.get? (layerIdx, bid) with
      | some entry =>
          match staged (metaShape cfg s (layerIdx, bid)) (entry.dataK, entry.dataV) with
          | .error err => (.error err, hit s (layerIdx, bid) entry sizeBytes)
          | .ok ret =>
              collectHits sizeBytes staged layerIdx bids (results.set bid ret) missBids
                (hit s (layerIdx, bid) entry sizeBytes)
      | none =>
          collectHits sizeBytes staged layerIdx bids results (missBids ++ [bid]) (countMiss s)

def fetchMisses {ρ : Type} (batch : Option (BatchRead σ ρ))
    (single : BlockRead (RealInferencePrefetchAdapter σ) ρ) (s : RealInferencePrefetchAdapter σ)
    (layerIdx : Nat) (missBids : List Nat) (headId tokenStart : Nat) (results : Dict Nat ρ) :
    Except PyErr (Dict Nat ρ) × RealInferencePrefetchAdapter σ :=
  if missBids = [] then (.ok results, s)
  else
    match batch with
    | some read =>
        let r := read s.storageBackend layerIdx missBids headId tokenStart
        (r.1.map results.update, { s with storageBackend := r.2 })
    | none =>
        readEach (fun s bid => single s layerIdx bid headId tokenStart) missBids results s

def readBatch {ρ : Type} (sizeBytes : Nat)
    (staged : List Nat → NDArray × NDArray → Except PyErr ρ) (batch : Option (BatchRead σ ρ))
    (single : BlockRead (RealInferencePrefetchAdapter σ) ρ) :
    BatchRead (RealInferencePrefetchAdapter σ) ρ :=
  fun s layerIdx blockIds headId tokenStart =>
    if blockIds = [] then (.ok Dict.empty, s)
    else
      match collectHits cfg sizeBytes staged layerIdx blockIds Dict.empty [] s with
      | (.error err, s) => (.error err, s)
      | (.ok (results, missBids), s) =>
          match fetchMisses batch single s layerIdx missBids headId tokenStart results with
          | (.error err, s) => (.error err, s)
          | (.ok results, s) =>
              let s := recordMisses s sizeBytes missBids
              (.ok results,
                { s with
                  telemetry :=
                    { s.telemetry with
                      storageBatches := s.telemetry.storageBatches + 1
                      batchedRequests := s.telemetry.batchedRequests + blockIds.length } })

def readKeyPageBatch : BatchRead (RealInferencePrefetchAdapter σ) NDArray :=
  readBatch cfg keyPageBytes (fun shape kv => reshaped shape kv.1) B.readKeyPageBatch
    (readKeyPage B cfg)

def readValuePageBatch : BatchRead (RealInferencePrefetchAdapter σ) NDArray :=
  readBatch cfg valuePageBytes (fun shape kv => reshaped shape kv.2) B.readValuePageBatch
    (readValuePage B cfg)

def readBlockBatch : BatchRead (RealInferencePrefetchAdapter σ) (NDArray × NDArray) :=
  readBatch cfg cfg.bytesPerBlock reshapedBlock B.readBlockBatch (readBlock B cfg)

/-! ## Evicting -/

def evictBlock (s : RealInferencePrefetchAdapter σ) (layerIdx blockId : Nat) :
    Bool × RealInferencePrefetchAdapter σ :=
  let s := { s with stagingBuffer := s.stagingBuffer.erase (layerIdx, blockId) }
  match B.evictBlock with
  | some evict =>
      let r := evict s.storageBackend layerIdx blockId
      (r.1, { s with storageBackend := r.2 })
  | none => (false, s)

/-! ## The adapter as a machine -/

inductive Op where
  | writeBlock (layerIdx blockId : Nat) (kBlock vBlock : Payload) (headId tokenStart : Nat)
  | prefetch (blockIds : List Nat) (layerId headId tokenStart : Nat)
  | predictAndPrefetch (currentLayerId : Nat) (currentBlockIds : List Nat) (stride : Nat)
  | readKeyPage (layerIdx blockId headId tokenStart : Nat)
  | readValuePage (layerIdx blockId headId tokenStart : Nat)
  | readBlock (layerIdx blockId headId tokenStart : Nat)
  | readKeyPageBatch (layerIdx : Nat) (blockIds : List Nat) (headId tokenStart : Nat)
  | readValuePageBatch (layerIdx : Nat) (blockIds : List Nat) (headId tokenStart : Nat)
  | readBlockBatch (layerIdx : Nat) (blockIds : List Nat) (headId tokenStart : Nat)
  | evictBlock (layerIdx blockId : Nat)

inductive Answer where
  | done
  | dispatched (blockIds : List Nat)
  | predicted (nextLayer : Nat) (dispatched : List Nat)
  | page (a : NDArray)
  | block (kv : NDArray × NDArray)
  | pages (pages : Dict Nat NDArray)
  | blocks (blocks : Dict Nat (NDArray × NDArray))
  | evicted (found : Bool)

def step (s : RealInferencePrefetchAdapter σ) :
    Op → Except PyErr Answer × RealInferencePrefetchAdapter σ
  | .writeBlock l b k v h t =>
      let r := writeBlock B A cfg s l b k v h t
      (r.1.map fun _ => .done, r.2)
  | .prefetch bids l h t => let r := prefetch B cfg s bids l h t; (r.1.map .dispatched, r.2)
  | .predictAndPrefetch l bids stride =>
      let r := predictAndPrefetch B cfg s l bids stride
      (r.1.map fun p => .predicted p.1 p.2, r.2)
  | .readKeyPage l b h t => let r := readKeyPage B cfg s l b h t; (r.1.map .page, r.2)
  | .readValuePage l b h t => let r := readValuePage B cfg s l b h t; (r.1.map .page, r.2)
  | .readBlock l b h t => let r := readBlock B cfg s l b h t; (r.1.map .block, r.2)
  | .readKeyPageBatch l bs h t => let r := readKeyPageBatch B cfg s l bs h t; (r.1.map .pages, r.2)
  | .readValuePageBatch l bs h t =>
      let r := readValuePageBatch B cfg s l bs h t
      (r.1.map .pages, r.2)
  | .readBlockBatch l bs h t => let r := readBlockBatch B cfg s l bs h t; (r.1.map .blocks, r.2)
  | .evictBlock l b => let r := evictBlock B s l b; (.ok (.evicted r.1), r.2)

def machine : Machine (RealInferencePrefetchAdapter σ) Op (Except PyErr Answer) where
  step := step B A cfg

end RealInferencePrefetchAdapter

end AiSsd.Prefetch
