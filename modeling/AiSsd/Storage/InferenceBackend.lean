import AiSsd.Lib.Machine
import AiSsd.Numpy.Reduce
import AiSsd.Storage.BlockBackend
import AiSsd.Storage.TensorMapping
import Mathlib.Algebra.GroupWithZero.Nat
import Mathlib.Data.List.Sort

/-!
# The inference storage backend, file mode

Payloads go to the end of a backing file and a table keeps where each block's K and
V lie and how to read them back. Every operation is `Except PyErr` paired with the
backend it leaves behind; a raise keeps the counters it already moved.
-/

namespace AiSsd.Storage

open Lib Numpy

universe u v

/-- Constructor arguments the operations read. -/
structure BackendConfig where
  channels : Nat
  diesPerChannel : Nat
  planesPerDie : Nat
  pagesPerBlock : Nat
  blocksPerPlane : Nat
  numLayers : Nat
  numHeads : Nat
  tokensPerBlock : Nat
  headDim : Nat
  mappingMode : MappingMode
  enableBatching : Bool
  channels_pos : 0 < channels
  dies_pos : 0 < diesPerChannel
  planes_pos : 0 < planesPerDie
  pages_pos : 0 < pagesPerBlock
  blocks_pos : 0 < blocksPerPlane

namespace BackendConfig

variable (cfg : BackendConfig)

def mapper : DeterministicTensorMapper where
  channels := cfg.channels
  diesPerChannel := cfg.diesPerChannel
  planesPerDie := cfg.planesPerDie
  blocksPerPlane := cfg.blocksPerPlane
  pagesPerBlock := cfg.pagesPerBlock
  sectorSizeBytes := 4096
  maxTokensPerHead := 65536
  numLayers := cfg.numLayers
  numHeads := cfg.numHeads
  channels_pos := cfg.channels_pos
  dies_pos := cfg.dies_pos
  planes_pos := cfg.planes_pos
  blocks_pos := cfg.blocks_pos
  pages_pos := cfg.pages_pos

/-- The shape a payload of plain bytes is given. -/
def canonicalShape : List Nat := [cfg.tokensPerBlock, cfg.numHeads, cfg.headDim]

/-- Channel 0, where batch reads count a missing block. -/
def channelZero : Fin cfg.channels := ⟨0, cfg.channels_pos⟩

end BackendConfig

structure Entry (channels : Nat) where
  kOffset : Nat
  kSize : Nat
  kShape : List Nat
  kDtype : DType
  vOffset : Nat
  vSize : Nat
  vShape : List Nat
  vDtype : DType
  headId : Nat
  tokenStart : Nat
  channel : Fin channels
  channels : List (Fin channels)
  lba : Nat
deriving DecidableEq

/-- What a read is for: `TOPK_FILTER`, `TOPK_FETCH` or both pages. -/
inductive ReadKind where
  | key
  | value
  | block
deriving Repr, DecidableEq

inductive AccessRecord where
  | write (layerId headId blockId channel bytes : Nat)
  | read (kind : ReadKind) (layerId headId blockId channel bytes : Nat)
  | batchRead (kind : ReadKind) (layerId headId batchSize bytes : Nat)
  | computationalTopk (layerId candsCount topK bytesScanned : Nat)
deriving Repr, DecidableEq

structure BackendTelemetry (channels : Nat) where
  channelCounters : Fin channels → Nat
  perChannelReads : Fin channels → Nat
  perChannelWrites : Fin channels → Nat
  perChannelReadBytes : Fin channels → Nat
  perChannelWriteBytes : Fin channels → Nat
  bytesRead : Nat
  bytesWritten : Nat
  blocksRead : Nat
  blocksWritten : Nat
  requests : Nat
  keyPageReadRequests : Nat
  valuePageReadRequests : Nat
  combinedBlockReadRequests : Nat
  storageBatches : Nat
  batchedRequests : Nat
  storageComputationalTopkCalls : Nat
  storageInternalKBlocks : Nat
  storageInternalKBytes : Nat
  accessLog : List AccessRecord

namespace BackendTelemetry

variable {channels : Nat}

def zero : BackendTelemetry channels where
  channelCounters := fun _ => 0
  perChannelReads := fun _ => 0
  perChannelWrites := fun _ => 0
  perChannelReadBytes := fun _ => 0
  perChannelWriteBytes := fun _ => 0
  bytesRead := 0
  bytesWritten := 0
  blocksRead := 0
  blocksWritten := 0
  requests := 0
  keyPageReadRequests := 0
  valuePageReadRequests := 0
  combinedBlockReadRequests := 0
  storageBatches := 0
  batchedRequests := 0
  storageComputationalTopkCalls := 0
  storageInternalKBlocks := 0
  storageInternalKBytes := 0
  accessLog := []

/-- `counters[ch] += n`. -/
def bump (counters : Fin channels → Nat) (ch : Fin channels) (n : Nat) : Fin channels → Nat :=
  Function.update counters ch (counters ch + n)

/-- One more write of `bytes` on a channel. -/
def channelWrite (t : BackendTelemetry channels) (ch : Fin channels) (bytes : Nat) :
    BackendTelemetry channels :=
  { t with
    channelCounters := bump t.channelCounters ch 1
    perChannelWrites := bump t.perChannelWrites ch 1
    perChannelWriteBytes := bump t.perChannelWriteBytes ch bytes }

/-- One more read of `bytes` on a channel. -/
def channelRead (t : BackendTelemetry channels) (ch : Fin channels) (bytes : Nat) :
    BackendTelemetry channels :=
  { t with
    perChannelReads := bump t.perChannelReads ch 1
    perChannelReadBytes := bump t.perChannelReadBytes ch bytes }

/-- The totals of `count` reads of one kind. A key page is not a block read. -/
def countReads (t : BackendTelemetry channels) (kind : ReadKind) (count bytes : Nat) :
    BackendTelemetry channels :=
  let t := { t with requests := t.requests + count, bytesRead := t.bytesRead + bytes }
  match kind with
  | .key => { t with keyPageReadRequests := t.keyPageReadRequests + count }
  | .value =>
      { t with
        blocksRead := t.blocksRead + count
        valuePageReadRequests := t.valuePageReadRequests + count }
  | .block =>
      { t with
        blocksRead := t.blocksRead + count
        combinedBlockReadRequests := t.combinedBlockReadRequests + count }

def log (t : BackendTelemetry channels) (record : AccessRecord) : BackendTelemetry channels :=
  let appended := t.accessLog ++ [record]
  { t with accessLog := appended.drop (appended.length - 200) }

end BackendTelemetry

structure RealInferenceStorageBackend (cfg : BackendConfig) where
  storage : Dict (Nat × Nat) (Entry cfg.channels)
  file : ByteFile
  fileOffset : Nat
  telemetry : BackendTelemetry cfg.channels

inductive Payload where
  | array (a : NDArray)
  | raw (bytes : Bytes)

structure Packed where
  bytes : Bytes
  shape : List Nat
  dtype : DType

namespace RealInferenceStorageBackend

variable {cfg : BackendConfig}

def init : RealInferenceStorageBackend cfg := ⟨Dict.empty, ByteFile.empty, 0, BackendTelemetry.zero⟩

/-! ## Writing -/

variable (cfg) in
def pack : Payload → Packed
  | .array a =>
      let arr := a.ascontiguousarray
      ⟨arr.data, arr.shape, arr.dtype⟩
  | .raw bytes => ⟨bytes, cfg.canonicalShape, float32⟩

/-- `k_block.shape[1]` of a three-dimensional array, otherwise one. -/
def headsInBlock : Payload → Nat
  | .array a =>
      match a.shape with
      | [_, heads, _] => heads
      | _ => 1
  | .raw _ => 1

variable (cfg) in
def coordinate (layerIdx blockId headId tokenStart : Nat) : TensorCoordinate where
  layerId := layerIdx
  headId := headId
  tokenIdx := tokenStart
  tokensPerBlock := cfg.tokensPerBlock
  blockId := some blockId
  blocksPerHead := 44

def assignChannels (layerIdx blockId headId tokenStart headBytes : Nat) :
    List Nat → BackendTelemetry cfg.channels →
      Except PyErr (List (Fin cfg.channels)) × BackendTelemetry cfg.channels
  | [], t => (.ok [], t)
  | hOff :: rest, t =>
      let coord := coordinate cfg layerIdx blockId (headId + hOff) tokenStart
      match cfg.mapper.tensorToNandPhysical coord cfg.mappingMode (some t.channelCounters) with
      | .error err => (.error err, t)
      | .ok nand =>
          match assignChannels layerIdx blockId headId tokenStart headBytes rest
              (t.channelWrite nand.channel headBytes) with
          | (.error err, t) => (.error err, t)
          | (.ok chs, t) => (.ok (nand.channel :: chs), t)

def writeBlock (s : RealInferenceStorageBackend cfg) (layerIdx blockId : Nat)
    (kBlock vBlock : Payload) (headId tokenStart : Nat) :
    Except PyErr Unit × RealInferenceStorageBackend cfg :=
  let k := pack cfg kBlock
  let v := pack cfg vBlock
  let kSize := k.bytes.length
  let vSize := v.bytes.length
  let totalBlockBytes := kSize + vSize
  let heads := headsInBlock kBlock
  match assignChannels layerIdx blockId headId tokenStart (totalBlockBytes / heads)
      (List.range heads) s.telemetry with
  | (.error err, t) => (.error err, { s with telemetry := t })
  | (.ok assigned, t) =>
      let primaryCh := assigned.headD cfg.channelZero
      -- the address is computed with the default block size of a coordinate
      let lbaCoord : TensorCoordinate := ⟨layerIdx, headId, tokenStart, 16, some blockId, 44⟩
      match cfg.mapper.tensorToLba lbaCoord cfg.mappingMode with
      | .error err => (.error err, { s with telemetry := t })
      | .ok lbaAddr =>
          let kOffset := s.fileOffset
          let vOffset := kOffset + kSize
          let entry : Entry cfg.channels :=
            { kOffset := kOffset
              kSize := kSize
              kShape := k.shape
              kDtype := k.dtype
              vOffset := vOffset
              vSize := vSize
              vShape := v.shape
              vDtype := v.dtype
              headId := headId
              tokenStart := tokenStart
              channel := primaryCh
              channels := assigned
              lba := lbaAddr.lba }
          (.ok (),
            { storage := s.storage.set (layerIdx, blockId) entry
              file := (s.file.pwrite k.bytes kOffset).pwrite v.bytes vOffset
              fileOffset := s.fileOffset + totalBlockBytes
              telemetry :=
                BackendTelemetry.log
                  { t with
                    blocksWritten := t.blocksWritten + 1
                    bytesWritten := t.bytesWritten + totalBlockBytes
                    requests := t.requests + 1 }
                  (.write layerIdx headId blockId primaryCh totalBlockBytes) })

/-! ## Reading one block -/

variable (cfg) in
def zeroPage : NDArray := NDArray.zeros cfg.canonicalShape float32

def fetchKey (file : ByteFile) : Option (Entry cfg.channels) → Except PyErr (NDArray × Nat)
  | none => .ok (zeroPage cfg, (zeroPage cfg).nbytes)
  | some e =>
      match NDArray.decode (file.pread e.kSize e.kOffset) e.kDtype e.kShape with
      | .error err => .error err
      | .ok k => .ok (k, e.kSize)

def fetchValue (file : ByteFile) : Option (Entry cfg.channels) → Except PyErr (NDArray × Nat)
  | none => .ok (zeroPage cfg, (zeroPage cfg).nbytes)
  | some e =>
      match NDArray.decode (file.pread e.vSize e.vOffset) e.vDtype e.vShape with
      | .error err => .error err
      | .ok v => .ok (v, e.vSize)

def decodeBlock (e : Entry cfg.channels) (kRaw vRaw : Bytes) :
    Except PyErr ((NDArray × NDArray) × Nat) :=
  match NDArray.decode kRaw e.kDtype e.kShape with
  | .error err => .error err
  | .ok k =>
      match NDArray.decode vRaw e.vDtype e.vShape with
      | .error err => .error err
      | .ok v => .ok ((k, v), e.kSize + e.vSize)

def fetchBlock (file : ByteFile) :
    Option (Entry cfg.channels) → Except PyErr ((NDArray × NDArray) × Nat)
  | none => .ok ((zeroPage cfg, zeroPage cfg), (zeroPage cfg).nbytes + (zeroPage cfg).nbytes)
  | some e => decodeBlock e (file.pread e.kSize e.kOffset) (file.pread e.vSize e.vOffset)

def fetchBlockSpan (file : ByteFile) :
    Option (Entry cfg.channels) → Except PyErr ((NDArray × NDArray) × Nat)
  | none => .ok ((zeroPage cfg, zeroPage cfg), (zeroPage cfg).nbytes + (zeroPage cfg).nbytes)
  | some e =>
      let raw := file.pread (e.kSize + e.vSize) e.kOffset
      decodeBlock e (raw.take e.kSize) ((raw.take (e.kSize + e.vSize)).drop e.kSize)

/-- What the three single reads share: map, fetch, count, log. -/
def readSingle {ρ : Type} (kind : ReadKind)
    (fetch : ByteFile → Option (Entry cfg.channels) → Except PyErr (ρ × Nat))
    (s : RealInferenceStorageBackend cfg) (layerIdx blockId headId tokenStart : Nat) :
    Except PyErr ρ × RealInferenceStorageBackend cfg :=
  match cfg.mapper.tensorToNandPhysical (coordinate cfg layerIdx blockId headId tokenStart)
      cfg.mappingMode none with
  | .error err => (.error err, s)
  | .ok nand =>
      match fetch s.file (s.storage.get? (layerIdx, blockId)) with
      | .error err => (.error err, s)
      | .ok (ret, bytes) =>
          (.ok ret,
            { s with
              telemetry :=
                ((s.telemetry.channelRead nand.channel bytes).countReads kind 1 bytes).log
                  (.read kind layerIdx headId blockId nand.channel bytes) })

def readKeyPage (s : RealInferenceStorageBackend cfg) (layerIdx blockId headId tokenStart : Nat) :
    Except PyErr NDArray × RealInferenceStorageBackend cfg :=
  readSingle .key fetchKey s layerIdx blockId headId tokenStart

def readValuePage (s : RealInferenceStorageBackend cfg)
    (layerIdx blockId headId tokenStart : Nat) :
    Except PyErr NDArray × RealInferenceStorageBackend cfg :=
  readSingle .value fetchValue s layerIdx blockId headId tokenStart

def readBlock (s : RealInferenceStorageBackend cfg) (layerIdx blockId headId tokenStart : Nat) :
    Except PyErr (NDArray × NDArray) × RealInferenceStorageBackend cfg :=
  readSingle .block fetchBlock s layerIdx blockId headId tokenStart

/-! ## Reading a batch -/

def batchLoop {ρ : Type}
    (fetch : ByteFile → Option (Entry cfg.channels) → Except PyErr (ρ × Nat))
    (s : RealInferenceStorageBackend cfg) (layerIdx : Nat) :
    List Nat → Dict Nat ρ → Nat → BackendTelemetry cfg.channels →
      Except PyErr (Dict Nat ρ × Nat) × BackendTelemetry cfg.channels
  | [], results, total, t => (.ok (results, total), t)
  | bid :: bids, results, total, t =>
      let entry := s.storage.get? (layerIdx, bid)
      match fetch s.file entry with
      | .error err => (.error err, t)
      | .ok (ret, bytes) =>
          let ch := (entry.map fun e => e.channel).getD cfg.channelZero
          batchLoop fetch s layerIdx bids (results.set bid ret) (total + bytes)
            (t.channelRead ch bytes)

def readBatch {ρ : Type} (kind : ReadKind)
    (fetch : ByteFile → Option (Entry cfg.channels) → Except PyErr (ρ × Nat))
    (single : RealInferenceStorageBackend cfg → (layerIdx blockId headId tokenStart : Nat) →
      Except PyErr ρ × RealInferenceStorageBackend cfg)
    (s : RealInferenceStorageBackend cfg) (layerIdx : Nat) (blockIds : List Nat)
    (headId tokenStart : Nat) :
    Except PyErr (Dict Nat ρ) × RealInferenceStorageBackend cfg :=
  if blockIds = [] then (.ok Dict.empty, s)
  else if cfg.enableBatching = false then
    readEach (fun s bid => single s layerIdx bid headId tokenStart) blockIds Dict.empty s
  else
    match batchLoop fetch s layerIdx blockIds Dict.empty 0 s.telemetry with
    | (.error err, t) => (.error err, { s with telemetry := t })
    | (.ok (results, totalBytes), t) =>
        let batchCount := blockIds.length
        (.ok results,
          { s with
            telemetry :=
              (BackendTelemetry.countReads
                { t with
                  storageBatches := t.storageBatches + 1
                  batchedRequests := t.batchedRequests + batchCount }
                kind batchCount totalBytes).log
                  (.batchRead kind layerIdx headId batchCount totalBytes) })

def readKeyPageBatch (s : RealInferenceStorageBackend cfg) (layerIdx : Nat) (blockIds : List Nat)
    (headId tokenStart : Nat) :
    Except PyErr (Dict Nat NDArray) × RealInferenceStorageBackend cfg :=
  readBatch .key fetchKey readKeyPage s layerIdx blockIds headId tokenStart

def readValuePageBatch (s : RealInferenceStorageBackend cfg) (layerIdx : Nat)
    (blockIds : List Nat) (headId tokenStart : Nat) :
    Except PyErr (Dict Nat NDArray) × RealInferenceStorageBackend cfg :=
  readBatch .value fetchValue readValuePage s layerIdx blockIds headId tokenStart

def readBlockBatch (s : RealInferenceStorageBackend cfg) (layerIdx : Nat) (blockIds : List Nat)
    (headId tokenStart : Nat) :
    Except PyErr (Dict Nat (NDArray × NDArray)) × RealInferenceStorageBackend cfg :=
  readBatch .block fetchBlockSpan readBlock s layerIdx blockIds headId tokenStart

/-! ## Eviction -/

def evictBlock (s : RealInferenceStorageBackend cfg) (layerIdx blockId : Nat) :
    Bool × RealInferenceStorageBackend cfg :=
  if s.storage.contains (layerIdx, blockId) then
    (true, { s with storage := s.storage.erase (layerIdx, blockId) })
  else (false, s)

def containsBlock (s : RealInferenceStorageBackend cfg) (layerIdx blockId : Nat) : Bool :=
  s.storage.contains (layerIdx, blockId)

/-! ## In-storage top-k -/

section Topk

variable {α : Type u} [Field α] [LinearOrder α] (val : DType → Bytes → α)

/-- `scores.sort(key=lambda x: x[0], reverse=True)`: descending, ties in their old order. -/
def sortDescending (scores : List (α × Nat × Nat)) : List (α × Nat × Nat) :=
  scores.insertionSort fun a b => b.1 ≤ a.1

/-- Offset, length, id and tokens of a candidate. A missing one is read at 0. -/
def candidateInfo (s : RealInferenceStorageBackend cfg) (layerIdx : Nat) (cand : Nat × Nat) :
    Nat × Nat × Nat × Nat :=
  match s.storage.get? (layerIdx, cand.1) with
  | some e => (e.kOffset, e.kSize, cand.1, cand.2)
  | none => (0, 4096, cand.1, cand.2)

def countCandidates (s : RealInferenceStorageBackend cfg) (layerIdx : Nat)
    (candBids : List (Nat × Nat)) : BackendTelemetry cfg.channels :=
  candBids.foldl
    (fun t cand =>
      match s.storage.get? (layerIdx, cand.1) with
      | some e => t.channelRead e.channel e.kSize
      | none => t)
    s.telemetry

def candidateKeys (s : RealInferenceStorageBackend cfg) (layerIdx : Nat)
    (info : Nat × Nat × Nat × Nat) : Except PyErr NDArray :=
  let raw := s.file.pread info.2.1 info.1
  match s.storage.get? (layerIdx, info.2.2.1) with
  | some e => NDArray.decode raw e.kDtype e.kShape
  | none => NDArray.decode raw float32 cfg.canonicalShape

/-- A key block with its id and tokens, scored. -/
def scoreCandidate (query : List (List α)) (scale : α) (qHeads gqaRatio : Nat)
    (p : NDArray × Nat × Nat) : Except PyErr (α × Nat × Nat) :=
  (blockMaxScore val query p.1 qHeads gqaRatio scale p.2.2).map fun score => (score, p.2)

/-- The NumPy path: score every candidate, sort, keep `top_k`. -/
def scoreCandidates (query : List (List α)) (candBids : List (Nat × Nat)) (kBlocks : List NDArray)
    (topK : Nat) (scale : α) (qHeads kvHeads : Nat) : Except PyErr (List (α × Nat × Nat)) :=
  let gqaRatio := if kvHeads > 0 then qHeads / kvHeads else 1
  match (kBlocks.zip candBids).mapM (scoreCandidate val query scale qHeads gqaRatio) with
  | .error err => .error err
  | .ok scores => .ok ((sortDescending scores).take topK)

/-- The scored candidates of either path. -/
def topkResults (kernel : Option (Kernel α)) (s : RealInferenceStorageBackend cfg)
    (layerIdx : Nat) (candBids : List (Nat × Nat)) (query : List (List α)) (topK : Nat) (scale : α)
    (qHeads kvHeads headDim : Nat) : Except PyErr (List (α × Nat × Nat)) :=
  match (candBids.map (candidateInfo s layerIdx)).mapM (candidateKeys s layerIdx) with
  | .error err => .error err
  | .ok kBlocks =>
      match kernel with
      | some computeTopkGqa =>
          match computeTopkGqa query kBlocks (candBids.map Prod.snd) topK qHeads kvHeads
              headDim with
          | .error err => .error err
          | .ok (indices, scores) => namedScores candBids indices scores
      | none => scoreCandidates val query candBids kBlocks topK scale qHeads kvHeads

def computeTopkFilter (kernel : Option (Kernel α)) (s : RealInferenceStorageBackend cfg)
    (layerIdx : Nat) (candBids : List (Nat × Nat)) (query : List (List α)) (topK : Nat) (scale : α)
    (qHeads kvHeads headDim : Nat) :
    Except PyErr (List (α × Nat × Nat)) × RealInferenceStorageBackend cfg :=
  if candBids = [] then (.ok [], s)
  else
    let counted := countCandidates s layerIdx candBids
    match topkResults val kernel s layerIdx candBids query topK scale qHeads kvHeads headDim with
    | .error err => (.error err, { s with telemetry := counted })
    | .ok results =>
        let totalKBytes := ((candBids.map (candidateInfo s layerIdx)).map fun c => c.2.1).sum
        (.ok results,
          { s with
            telemetry :=
              { counted with
                storageBatches := counted.storageBatches + 1
                requests := counted.requests + 1
                storageComputationalTopkCalls := counted.storageComputationalTopkCalls + 1
                storageInternalKBlocks := counted.storageInternalKBlocks + candBids.length
                storageInternalKBytes := counted.storageInternalKBytes + totalKBytes
                bytesRead := counted.bytesRead + totalKBytes
                -- this operation does not trim the log
                accessLog := counted.accessLog ++
                  [.computationalTopk layerIdx candBids.length topK totalKBytes] } })

end Topk

end RealInferenceStorageBackend

end AiSsd.Storage
