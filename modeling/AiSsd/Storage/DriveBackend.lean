import AiSsd.Storage.FailedWrite
import AiSsd.Storage.PayloadRuns

/-!
# The backend over any drive

All methods in both storage modes. In file mode pages are read by `os.pread`, one after another;
in `nvme_qemu` mode the client reads, fetches a batch in one call and filters on the device.
What the drive returns or raises is open.
-/

namespace AiSsd.Storage

open Lib Numpy

universe u

/-- A device that also reads: `os.pread` in file mode, the client otherwise. Only the client has
the other methods. -/
structure Drive (δ : Type) (α : Type u) extends Device δ where
  read : δ → (length offset : Nat) → Except PyErr Bytes × δ
  readBatch : δ → (requests : List (Nat × Nat × Nat)) → Except PyErr (Dict Nat Bytes) × δ
  computeTopk : δ → (query : List (List α)) → (candidates : List (Nat × Nat × Nat × Nat)) →
    (topK : Nat) → (scale : α) → (qHeads kvHeads headDim : Nat) → (isFp16 : Bool) →
    Except PyErr (List (α × Nat × Nat)) × δ
  resetStats : δ → δ
  close : δ → δ

/-- The backing file with room for every write; file mode has no client. -/
def backingDrive (α : Type u) : Drive ByteFile α where
  toDevice := backingFile
  read file length offset := (.ok (file.pread length offset), file)
  readBatch file _ := (.error .attributeError, file)
  computeTopk file _ _ _ _ _ _ _ _ := (.error .attributeError, file)
  resetStats file := file
  close file := file

/-- What the reads of one kind differ in: the span of an entry, how its bytes are read back with
the count of bytes, and what stands for a missing block. -/
structure PageReader (cfg : BackendConfig) (ρ : Type) where
  kind : ReadKind
  offset : Entry cfg.channels → Nat
  size : Entry cfg.channels → Nat
  decode : Entry cfg.channels → Bytes → Except PyErr (ρ × Nat)
  missing : ρ × Nat

namespace DeviceBackend

open RealInferenceStorageBackend (zeroPage decodeBlock coordinate scoreCandidates)

section Pages

variable (cfg : BackendConfig)

def keyPages : PageReader cfg NDArray where
  kind := .key
  offset e := e.kOffset
  size e := e.kSize
  decode e raw := (NDArray.decode raw e.kDtype e.kShape).map fun k => (k, e.kSize)
  missing := (zeroPage cfg, (zeroPage cfg).nbytes)

def valuePages : PageReader cfg NDArray where
  kind := .value
  offset e := e.vOffset
  size e := e.vSize
  decode e raw := (NDArray.decode raw e.vDtype e.vShape).map fun v => (v, e.vSize)
  missing := (zeroPage cfg, (zeroPage cfg).nbytes)

def blockPages : PageReader cfg (NDArray × NDArray) where
  kind := .block
  offset e := e.kOffset
  size e := e.kSize + e.vSize
  decode e raw := decodeBlock e (raw.take e.kSize) ((raw.take (e.kSize + e.vSize)).drop e.kSize)
  missing := ((zeroPage cfg, zeroPage cfg), (zeroPage cfg).nbytes + (zeroPage cfg).nbytes)

end Pages

variable {cfg : BackendConfig} {δ ρ : Type} {α : Type u} (D : Drive δ α) (mode : StorageMode)

def init (device : δ) : DeviceBackend cfg δ := ⟨Dict.empty, device, 0, BackendTelemetry.zero⟩

/-! ## Reading one block -/

def fetchSpan (page : PageReader cfg ρ) (device : δ) :
    Option (Entry cfg.channels) → Except PyErr (ρ × Nat) × δ
  | none => (.ok page.missing, device)
  | some e =>
      match D.read device (page.size e) (page.offset e) with
      | (.error err, device) => (.error err, device)
      | (.ok raw, device) => (page.decode e raw, device)

/-- `read_block` reads the file once for each page and the drive once for both. -/
def fetchBlock (device : δ) (entry : Option (Entry cfg.channels)) :
    Except PyErr ((NDArray × NDArray) × Nat) × δ :=
  match mode, entry with
  | .nvmeQemu, entry => fetchSpan D (blockPages cfg) device entry
  | .file, none => (.ok (blockPages cfg).missing, device)
  | .file, some e =>
      match D.read device e.kSize e.kOffset with
      | (.error err, device) => (.error err, device)
      | (.ok kRaw, device) =>
          match D.read device e.vSize e.vOffset with
          | (.error err, device) => (.error err, device)
          | (.ok vRaw, device) => (decodeBlock e kRaw vRaw, device)

def lookUp (fetch : δ → Option (Entry cfg.channels) → Except PyErr (ρ × Nat) × δ)
    (s : DeviceBackend cfg δ) (layerIdx blockId headId tokenStart : Nat) :
    Except PyErr (ρ × Fin cfg.channels × Nat) × δ :=
  match cfg.mapper.tensorToNandPhysical (coordinate cfg layerIdx blockId headId tokenStart)
      cfg.mappingMode none with
  | .error err => (.error err, s.device)
  | .ok nand =>
      match fetch s.device (s.storage.get? (layerIdx, blockId)) with
      | (.error err, device) => (.error err, device)
      | (.ok (ret, bytes), device) => (.ok (ret, nand.channel, bytes), device)

/-- What the three single reads share: look up, count, log. -/
def readSingle (kind : ReadKind)
    (fetch : δ → Option (Entry cfg.channels) → Except PyErr (ρ × Nat) × δ)
    (s : DeviceBackend cfg δ) (layerIdx blockId headId tokenStart : Nat) :
    Except PyErr ρ × DeviceBackend cfg δ :=
  match lookUp fetch s layerIdx blockId headId tokenStart with
  | (.error err, device) => (.error err, { s with device := device })
  | (.ok (ret, ch, bytes), device) =>
      (.ok ret,
        { s with
          device := device
          telemetry :=
            ((s.telemetry.channelRead ch bytes).countReads kind 1 bytes).log
              (.read kind layerIdx headId blockId ch bytes) })

def readKeyPage (s : DeviceBackend cfg δ) (layerIdx blockId headId tokenStart : Nat) :
    Except PyErr NDArray × DeviceBackend cfg δ :=
  readSingle .key (fetchSpan D (keyPages cfg)) s layerIdx blockId headId tokenStart

def readValuePage (s : DeviceBackend cfg δ) (layerIdx blockId headId tokenStart : Nat) :
    Except PyErr NDArray × DeviceBackend cfg δ :=
  readSingle .value (fetchSpan D (valuePages cfg)) s layerIdx blockId headId tokenStart

def readBlock (s : DeviceBackend cfg δ) (layerIdx blockId headId tokenStart : Nat) :
    Except PyErr (NDArray × NDArray) × DeviceBackend cfg δ :=
  readSingle .block (fetchBlock D mode) s layerIdx blockId headId tokenStart

/-! ## Reading a batch -/

/-- The loop of one batched transaction; `raw` gives the bytes of a stored block. -/
def batchLoop (page : PageReader cfg ρ)
    (raw : δ → Nat → Entry cfg.channels → Except PyErr Bytes × δ) (s : DeviceBackend cfg δ)
    (layerIdx : Nat) : List Nat → Dict Nat ρ → Nat → BackendTelemetry cfg.channels → δ →
      Except PyErr (Dict Nat ρ × Nat) × BackendTelemetry cfg.channels × δ
  | [], results, total, t, device => (.ok (results, total), t, device)
  | bid :: bids, results, total, t, device =>
      match s.storage.get? (layerIdx, bid) with
      | none =>
          batchLoop page raw s layerIdx bids (results.set bid page.missing.1)
            (total + page.missing.2) (t.channelRead cfg.channelZero page.missing.2) device
      | some e =>
          match raw device bid e with
          | (.error err, device) => (.error err, t, device)
          | (.ok bytes, device) =>
              match page.decode e bytes with
              | .error err => (.error err, t, device)
              | .ok (ret, count) =>
                  batchLoop page raw s layerIdx bids (results.set bid ret) (total + count)
                    (t.channelRead e.channel count) device

def batchRequests (page : PageReader cfg ρ) (s : DeviceBackend cfg δ) (layerIdx : Nat)
    (blockIds : List Nat) : List (Nat × Nat × Nat) :=
  blockIds.filterMap fun bid =>
    (s.storage.get? (layerIdx, bid)).map fun e => (page.offset e, page.size e, bid)

def transaction (page : PageReader cfg ρ) (s : DeviceBackend cfg δ) (layerIdx : Nat)
    (blockIds : List Nat) :
    Except PyErr (Dict Nat ρ × Nat) × BackendTelemetry cfg.channels × δ :=
  match mode with
  | .file =>
      batchLoop page (fun device _ e => D.read device (page.size e) (page.offset e)) s layerIdx
        blockIds Dict.empty 0 s.telemetry s.device
  | .nvmeQemu =>
      let reqs := batchRequests page s layerIdx blockIds
      match if reqs = [] then (.ok Dict.empty, s.device) else D.readBatch s.device reqs with
      | (.error err, device) => (.error err, s.telemetry, device)
      | (.ok rawDict, device) =>
          -- a block that the reply leaves out reads as no bytes
          batchLoop page (fun device bid _ => (.ok ((rawDict.get? bid).getD []), device)) s
            layerIdx blockIds Dict.empty 0 s.telemetry device

def readBatch (page : PageReader cfg ρ)
    (single : DeviceBackend cfg δ → (layerIdx blockId headId tokenStart : Nat) →
      Except PyErr ρ × DeviceBackend cfg δ)
    (s : DeviceBackend cfg δ) (layerIdx : Nat) (blockIds : List Nat) (headId tokenStart : Nat) :
    Except PyErr (Dict Nat ρ) × DeviceBackend cfg δ :=
  if blockIds = [] then (.ok Dict.empty, s)
  else if cfg.enableBatching = false then
    readEach (fun s bid => single s layerIdx bid headId tokenStart) blockIds Dict.empty s
  else
    match transaction D mode page s layerIdx blockIds with
    | (.error err, t, device) => (.error err, { s with device := device, telemetry := t })
    | (.ok (results, totalBytes), t, device) =>
        let batchCount := blockIds.length
        (.ok results,
          { s with
            device := device
            telemetry :=
              (BackendTelemetry.countReads
                { t with
                  storageBatches := t.storageBatches + 1
                  batchedRequests := t.batchedRequests + batchCount }
                page.kind batchCount totalBytes).log
                  (.batchRead page.kind layerIdx headId batchCount totalBytes) })

def readKeyPageBatch (s : DeviceBackend cfg δ) (layerIdx : Nat) (blockIds : List Nat)
    (headId tokenStart : Nat) : Except PyErr (Dict Nat NDArray) × DeviceBackend cfg δ :=
  readBatch D mode (keyPages cfg) (readKeyPage D) s layerIdx blockIds headId tokenStart

def readValuePageBatch (s : DeviceBackend cfg δ) (layerIdx : Nat) (blockIds : List Nat)
    (headId tokenStart : Nat) : Except PyErr (Dict Nat NDArray) × DeviceBackend cfg δ :=
  readBatch D mode (valuePages cfg) (readValuePage D) s layerIdx blockIds headId tokenStart

def readBlockBatch (s : DeviceBackend cfg δ) (layerIdx : Nat) (blockIds : List Nat)
    (headId tokenStart : Nat) :
    Except PyErr (Dict Nat (NDArray × NDArray)) × DeviceBackend cfg δ :=
  readBatch D mode (blockPages cfg) (readBlock D mode) s layerIdx blockIds headId tokenStart

/-! ## Eviction, counters -/

def evictBlock (s : DeviceBackend cfg δ) (layerIdx blockId : Nat) : Bool × DeviceBackend cfg δ :=
  if s.storage.contains (layerIdx, blockId) then
    (true, { s with storage := s.storage.erase (layerIdx, blockId) })
  else (false, s)

def containsBlock (s : DeviceBackend cfg δ) (layerIdx blockId : Nat) : Bool :=
  s.storage.contains (layerIdx, blockId)

def getTraceLog (s : DeviceBackend cfg δ) : List AccessRecord := s.telemetry.accessLog

def resetStats (s : DeviceBackend cfg δ) : DeviceBackend cfg δ :=
  { s with
    telemetry := BackendTelemetry.zero
    device :=
      match mode with
      | .file => s.device
      | .nvmeQemu => D.resetStats s.device }

def close (s : DeviceBackend cfg δ) : DeviceBackend cfg δ := { s with device := D.close s.device }

/-! ## In-storage top-k -/

section Topk

variable [Field α] [LinearOrder α] (dtype : String) (val : DType → Bytes → α)
  (kernel : Option (Kernel α))

def isFp16 : Bool :=
  ["float16", "fp16", "torch.float16", "half"].contains dtype.toLower

def candidateInfo (s : DeviceBackend cfg δ) (layerIdx : Nat) (cand : Nat × Nat) :
    Nat × Nat × Nat × Nat :=
  match s.storage.get? (layerIdx, cand.1) with
  | some e => (e.kOffset, e.kSize, cand.1, cand.2)
  | none => (0, 4096, cand.1, cand.2)

def countCandidates (s : DeviceBackend cfg δ) (layerIdx : Nat) (candBids : List (Nat × Nat)) :
    BackendTelemetry cfg.channels :=
  candBids.foldl
    (fun t cand =>
      match s.storage.get? (layerIdx, cand.1) with
      | some e => t.channelRead e.channel e.kSize
      | none => t)
    s.telemetry

def decodeKeys (s : DeviceBackend cfg δ) (layerIdx blockId : Nat) (raw : Bytes) :
    Except PyErr NDArray :=
  match s.storage.get? (layerIdx, blockId) with
  | some e => NDArray.decode raw e.kDtype e.kShape
  | none => NDArray.decode raw float32 cfg.canonicalShape

/-- The key blocks of all candidates, read one after another. -/
def scanCandidates (s : DeviceBackend cfg δ) (layerIdx : Nat) :
    List (Nat × Nat × Nat × Nat) → δ → Except PyErr (List NDArray) × δ
  | [], device => (.ok [], device)
  | info :: infos, device =>
      match D.read device info.2.1 info.1 with
      | (.error err, device) => (.error err, device)
      | (.ok raw, device) =>
          match decodeKeys s layerIdx info.2.2.1 raw with
          | .error err => (.error err, device)
          | .ok kBlk =>
              match scanCandidates s layerIdx infos device with
              | (.error err, device) => (.error err, device)
              | (.ok kBlocks, device) => (.ok (kBlk :: kBlocks), device)

/-- The native kernel's answer or the NumPy path's. -/
def rankBlocks (candBids : List (Nat × Nat)) (kBlocks : List NDArray) (query : List (List α))
    (topK : Nat) (scale : α) (qHeads kvHeads headDim : Nat) :
    Except PyErr (List (α × Nat × Nat)) :=
  match kernel with
  | some computeTopkGqa =>
      match computeTopkGqa query kBlocks (candBids.map Prod.snd) topK qHeads kvHeads headDim with
      | .error err => .error err
      | .ok (indices, scores) => namedScores candBids indices scores
  | none => scoreCandidates val query candBids kBlocks topK scale qHeads kvHeads

/-- The scored candidates, from the device or from the blocks that were read. -/
def topkResults (s : DeviceBackend cfg δ) (layerIdx : Nat) (candBids : List (Nat × Nat))
    (query : List (List α)) (topK : Nat) (scale : α) (qHeads kvHeads headDim : Nat) :
    Except PyErr (List (α × Nat × Nat)) × δ :=
  let candsInfo := candBids.map (candidateInfo s layerIdx)
  match mode with
  | .nvmeQemu =>
      D.computeTopk s.device query candsInfo topK scale qHeads kvHeads headDim (isFp16 dtype)
  | .file =>
      match scanCandidates D s layerIdx candsInfo s.device with
      | (.error err, device) => (.error err, device)
      | (.ok kBlocks, device) =>
          (rankBlocks val kernel candBids kBlocks query topK scale qHeads kvHeads headDim, device)

def computeTopkFilter (s : DeviceBackend cfg δ) (layerIdx : Nat) (candBids : List (Nat × Nat))
    (query : List (List α)) (topK : Nat) (scale : α) (qHeads kvHeads headDim : Nat) :
    Except PyErr (List (α × Nat × Nat)) × DeviceBackend cfg δ :=
  if candBids = [] then (.ok [], s)
  else
    let counted := countCandidates s layerIdx candBids
    match topkResults D mode dtype val kernel s layerIdx candBids query topK scale qHeads kvHeads
        headDim with
    | (.error err, device) => (.error err, { s with device := device, telemetry := counted })
    | (.ok results, device) =>
        let totalKBytes := ((candBids.map (candidateInfo s layerIdx)).map fun c => c.2.1).sum
        (.ok results,
          { s with
            device := device
            telemetry :=
              { counted with
                storageBatches := counted.storageBatches + 1
                requests := counted.requests + 1
                storageComputationalTopkCalls := counted.storageComputationalTopkCalls + 1
                storageInternalKBlocks := counted.storageInternalKBlocks + candBids.length
                storageInternalKBytes := counted.storageInternalKBytes + totalKBytes
                bytesRead := counted.bytesRead + totalKBytes
                accessLog := counted.accessLog ++
                  [.computationalTopk layerIdx candBids.length topK totalKBytes] } })

end Topk

/-! ## The backend as a machine -/

open RealInferenceStorageBackend (Request Answer)

inductive Call (α : Type u) where
  | request (request : Request α)
  | containsBlock (layerIdx blockId : Nat)
  | getTraceLog
  | resetStats
  | close

inductive Returned (α : Type u) where
  | answer (answer : Answer α)
  | contained (found : Bool)
  | traceLog (log : List AccessRecord)
  | nothing

section Runs

variable [Field α] [LinearOrder α] (dtype : String) (val : DType → Bytes → α)
  (kernel : Option (Kernel α))

def serve (s : DeviceBackend cfg δ) :
    Request α → Except PyErr (Answer α) × DeviceBackend cfg δ
  | .write l b k v h ts =>
      let r := writeBlock D.toDevice mode s l b k v h ts
      (r.1.map fun _ => .done, r.2)
  | .other (.write l b k v h ts) =>
      let r := writeBlock D.toDevice mode s l b (.array k) (.array v) h ts
      (r.1.map fun _ => .done, r.2)
  | .other (.evict l b) => let r := evictBlock s l b; (.ok (.evicted r.1), r.2)
  | .other (.readKeyPage l b h ts) => let r := readKeyPage D s l b h ts; (r.1.map .page, r.2)
  | .other (.readValuePage l b h ts) =>
      let r := readValuePage D s l b h ts
      (r.1.map .page, r.2)
  | .other (.readBlock l b h ts) => let r := readBlock D mode s l b h ts; (r.1.map .block, r.2)
  | .other (.readKeyPageBatch l bs h ts) =>
      let r := readKeyPageBatch D mode s l bs h ts
      (r.1.map .pages, r.2)
  | .other (.readValuePageBatch l bs h ts) =>
      let r := readValuePageBatch D mode s l bs h ts
      (r.1.map .pages, r.2)
  | .other (.readBlockBatch l bs h ts) =>
      let r := readBlockBatch D mode s l bs h ts
      (r.1.map .blocks, r.2)
  | .other (.computeTopkFilter l cands query topK scale qHeads kvHeads headDim) =>
      let r := computeTopkFilter D mode dtype val kernel s l cands query topK scale qHeads kvHeads
        headDim
      (r.1.map .topk, r.2)

def step (s : DeviceBackend cfg δ) : Call α → Except PyErr (Returned α) × DeviceBackend cfg δ
  | .request request =>
      let r := serve D mode dtype val kernel s request
      (r.1.map .answer, r.2)
  | .containsBlock l b => (.ok (.contained (containsBlock s l b)), s)
  | .getTraceLog => (.ok (.traceLog (getTraceLog s)), s)
  | .resetStats => (.ok .nothing, resetStats D mode s)
  | .close => (.ok .nothing, close D s)

variable (cfg) in
def machine : Machine (DeviceBackend cfg δ) (Call α) (Except PyErr (Returned α)) where
  step := step D mode dtype val kernel

end Runs

/-! ## Over the backing file

In file mode over a file with room this is the backend that the reads are about. -/

section OverFile

open RealInferenceStorageBackend (fetchKey fetchValue fetchBlockSpan)

variable (s : RealInferenceStorageBackend cfg)

theorem fetchSpan_keyPages (file : ByteFile) (entry : Option (Entry cfg.channels)) :
    fetchSpan (backingDrive α) (keyPages cfg) file entry = (fetchKey file entry, file) := by
  cases entry with
  | none => rfl
  | some e =>
      simp only [fetchSpan, backingDrive, keyPages, fetchKey]
      cases NDArray.decode (file.pread e.kSize e.kOffset) e.kDtype e.kShape <;> rfl

theorem fetchSpan_valuePages (file : ByteFile) (entry : Option (Entry cfg.channels)) :
    fetchSpan (backingDrive α) (valuePages cfg) file entry = (fetchValue file entry, file) := by
  cases entry with
  | none => rfl
  | some e =>
      simp only [fetchSpan, backingDrive, valuePages, fetchValue]
      cases NDArray.decode (file.pread e.vSize e.vOffset) e.vDtype e.vShape <;> rfl

theorem fetchSpan_blockPages (file : ByteFile) (entry : Option (Entry cfg.channels)) :
    fetchSpan (backingDrive α) (blockPages cfg) file entry =
      (fetchBlockSpan file entry, file) := by
  cases entry <;> rfl

theorem fetchBlock_file (file : ByteFile) (entry : Option (Entry cfg.channels)) :
    fetchBlock (backingDrive α) .file file entry =
      (RealInferenceStorageBackend.fetchBlock file entry, file) := by
  cases entry <;> rfl

theorem readSingle_overFile {kind : ReadKind}
    {fetch : ByteFile → Option (Entry cfg.channels) → Except PyErr (ρ × Nat) × ByteFile}
    {fetch' : ByteFile → Option (Entry cfg.channels) → Except PyErr (ρ × Nat)}
    (hfetch : ∀ file entry, fetch file entry = (fetch' file entry, file)) (l b h ts : Nat) :
    readSingle kind fetch s.overFile l b h ts =
      ((RealInferenceStorageBackend.readSingle kind fetch' s l b h ts).1,
        (RealInferenceStorageBackend.readSingle kind fetch' s l b h ts).2.overFile) := by
  unfold readSingle lookUp RealInferenceStorageBackend.readSingle
  dsimp only [RealInferenceStorageBackend.overFile]
  cases cfg.mapper.tensorToNandPhysical (coordinate cfg l b h ts) cfg.mappingMode none with
  | error err => rfl
  | ok nand =>
      dsimp only
      rw [hfetch]
      cases fetch' s.file (s.storage.get? (l, b)) <;> rfl

theorem readEach_overFile
    {read : DeviceBackend cfg ByteFile → Nat → Except PyErr ρ × DeviceBackend cfg ByteFile}
    {read' : RealInferenceStorageBackend cfg → Nat →
      Except PyErr ρ × RealInferenceStorageBackend cfg}
    (hread : ∀ s b, read s.overFile b = ((read' s b).1, (read' s b).2.overFile))
    (bids : List Nat) (results : Dict Nat ρ) :
    readEach read bids results s.overFile =
      ((readEach read' bids results s).1, (readEach read' bids results s).2.overFile) := by
  induction bids generalizing results s with
  | nil => rfl
  | cons bid bids ih =>
      unfold readEach
      rw [hread]
      rcases read' s bid with ⟨_ | ret, s'⟩
      · rfl
      · exact ih s' (results.set bid ret)

theorem batchLoop_overFile {page : PageReader cfg ρ}
    {fetch : ByteFile → Option (Entry cfg.channels) → Except PyErr (ρ × Nat)}
    (hfetch : ∀ file entry, fetchSpan (backingDrive α) page file entry = (fetch file entry, file))
    (l : Nat) (bids : List Nat) (results : Dict Nat ρ) (total : Nat)
    (t : BackendTelemetry cfg.channels) :
    batchLoop page (fun device _ e => (backingDrive α).read device (page.size e) (page.offset e))
        s.overFile l bids results total t s.file =
      ((RealInferenceStorageBackend.batchLoop fetch s l bids results total t).1,
        (RealInferenceStorageBackend.batchLoop fetch s l bids results total t).2, s.file) := by
  induction bids generalizing results total t with
  | nil => rfl
  | cons bid bids ih =>
      unfold batchLoop RealInferenceStorageBackend.batchLoop
      dsimp only [RealInferenceStorageBackend.overFile]
      have hone := congrArg Prod.fst (hfetch s.file (s.storage.get? (l, bid)))
      revert hone
      cases s.storage.get? (l, bid) with
      | none =>
          intro hone
          have hmissing : fetch s.file none = .ok page.missing := hone.symm
          rw [hmissing]
          exact ih _ _ _
      | some e =>
          intro hone
          have hstored : fetch s.file (some e) =
              page.decode e (s.file.pread (page.size e) (page.offset e)) := hone.symm
          rw [hstored]
          dsimp only [backingDrive]
          cases page.decode e (s.file.pread (page.size e) (page.offset e)) with
          | error err => rfl
          | ok r => exact ih _ _ _

theorem readBatch_overFile {page : PageReader cfg ρ}
    {fetch : ByteFile → Option (Entry cfg.channels) → Except PyErr (ρ × Nat)}
    {single : DeviceBackend cfg ByteFile → (layerIdx blockId headId tokenStart : Nat) →
      Except PyErr ρ × DeviceBackend cfg ByteFile}
    {single' : RealInferenceStorageBackend cfg → (layerIdx blockId headId tokenStart : Nat) →
      Except PyErr ρ × RealInferenceStorageBackend cfg}
    (hfetch : ∀ file entry, fetchSpan (backingDrive α) page file entry = (fetch file entry, file))
    (hsingle : ∀ s l b h ts, single s.overFile l b h ts =
      ((single' s l b h ts).1, (single' s l b h ts).2.overFile))
    (l : Nat) (bids : List Nat) (h ts : Nat) :
    readBatch (backingDrive α) .file page single s.overFile l bids h ts =
      ((RealInferenceStorageBackend.readBatch page.kind fetch single' s l bids h ts).1,
        (RealInferenceStorageBackend.readBatch page.kind fetch single' s l bids h ts).2.overFile)
    := by
  unfold readBatch RealInferenceStorageBackend.readBatch
  split
  · rfl
  · split
    · exact readEach_overFile s (fun s b => hsingle s l b h ts) bids Dict.empty
    · have hloop := batchLoop_overFile s hfetch l bids Dict.empty 0 s.telemetry
      have htransaction : transaction (backingDrive α) .file page s.overFile l bids =
          ((RealInferenceStorageBackend.batchLoop fetch s l bids Dict.empty 0 s.telemetry).1,
            (RealInferenceStorageBackend.batchLoop fetch s l bids Dict.empty 0 s.telemetry).2,
            s.file) := hloop
      rw [htransaction]
      rcases RealInferenceStorageBackend.batchLoop fetch s l bids Dict.empty 0 s.telemetry with
        ⟨_ | _, t⟩ <;> rfl

theorem evictBlock_overFile (l b : Nat) :
    evictBlock s.overFile l b = ((s.evictBlock l b).1, (s.evictBlock l b).2.overFile) := by
  unfold evictBlock RealInferenceStorageBackend.evictBlock
  by_cases hstored : s.storage.contains (l, b) = true
  · simp [RealInferenceStorageBackend.overFile, hstored]
  · simp [RealInferenceStorageBackend.overFile, hstored]

section Topk

variable [Field α] [LinearOrder α] (dtype : String) (val : DType → Bytes → α)
  (kernel : Option (Kernel α))

omit [Field α] [LinearOrder α] in
theorem scanCandidates_overFile (l : Nat) (infos : List (Nat × Nat × Nat × Nat)) :
    scanCandidates (backingDrive α) s.overFile l infos s.file =
      (infos.mapM (RealInferenceStorageBackend.candidateKeys s l), s.file) := by
  induction infos with
  | nil => rfl
  | cons info infos ih =>
      have hkeys : decodeKeys s.overFile l info.2.2.1 (s.file.pread info.2.1 info.1) =
          RealInferenceStorageBackend.candidateKeys s l info := rfl
      have hread : (backingDrive α).read s.file info.2.1 info.1 =
          (.ok (s.file.pread info.2.1 info.1), s.file) := rfl
      rw [scanCandidates, hread, List.mapM_cons]
      dsimp only
      rw [hkeys, ih]
      cases RealInferenceStorageBackend.candidateKeys s l info with
      | error err => rfl
      | ok kBlk => cases infos.mapM (RealInferenceStorageBackend.candidateKeys s l) <;> rfl

theorem computeTopkFilter_overFile (l : Nat) (cands : List (Nat × Nat)) (query : List (List α))
    (topK : Nat) (scale : α) (qHeads kvHeads headDim : Nat) :
    computeTopkFilter (backingDrive α) .file dtype val kernel s.overFile l cands query topK scale
        qHeads kvHeads headDim =
      ((RealInferenceStorageBackend.computeTopkFilter val kernel s l cands query topK scale qHeads
          kvHeads headDim).1,
        (RealInferenceStorageBackend.computeTopkFilter val kernel s l cands query topK scale
          qHeads kvHeads headDim).2.overFile) := by
  have hresults : topkResults (backingDrive α) .file dtype val kernel s.overFile l cands query
      topK scale qHeads kvHeads headDim =
        (RealInferenceStorageBackend.topkResults val kernel s l cands query topK scale qHeads
          kvHeads headDim, s.file) := by
    have hinfo : cands.map (candidateInfo s.overFile l) =
        cands.map (RealInferenceStorageBackend.candidateInfo s l) := rfl
    have hscan : scanCandidates (backingDrive α) s.overFile l
        (cands.map (RealInferenceStorageBackend.candidateInfo s l)) s.file = _ :=
      scanCandidates_overFile s l _
    unfold topkResults RealInferenceStorageBackend.topkResults
    dsimp only [RealInferenceStorageBackend.overFile] at hinfo hscan ⊢
    rw [hinfo, hscan]
    cases (cands.map (RealInferenceStorageBackend.candidateInfo s l)).mapM
      (RealInferenceStorageBackend.candidateKeys s l) with
    | error err => rfl
    | ok kBlocks => cases kernel <;> rfl
  unfold computeTopkFilter RealInferenceStorageBackend.computeTopkFilter
  rw [hresults]
  split
  · rfl
  · cases RealInferenceStorageBackend.topkResults val kernel s l cands query topK scale qHeads
      kvHeads headDim <;> rfl

/-- Every request is served alike, from states that are alike. -/
theorem serve_overFile (request : Request α) :
    serve (backingDrive α) .file dtype val kernel s.overFile request =
      ((RealInferenceStorageBackend.serve cfg val kernel s request).1,
        (RealInferenceStorageBackend.serve cfg val kernel s request).2.overFile) := by
  have hkey : ∀ s : RealInferenceStorageBackend cfg, ∀ l b h ts,
      readKeyPage (backingDrive α) s.overFile l b h ts =
        ((s.readKeyPage l b h ts).1, (s.readKeyPage l b h ts).2.overFile) :=
    fun s => readSingle_overFile s fetchSpan_keyPages
  have hvalue : ∀ s : RealInferenceStorageBackend cfg, ∀ l b h ts,
      readValuePage (backingDrive α) s.overFile l b h ts =
        ((s.readValuePage l b h ts).1, (s.readValuePage l b h ts).2.overFile) :=
    fun s => readSingle_overFile s fetchSpan_valuePages
  have hblock : ∀ s : RealInferenceStorageBackend cfg, ∀ l b h ts,
      readBlock (backingDrive α) .file s.overFile l b h ts =
        ((s.readBlock l b h ts).1, (s.readBlock l b h ts).2.overFile) :=
    fun s => readSingle_overFile s fetchBlock_file
  cases request with
  | write l b k v h ts =>
      have hwrite := writeBlock_overFile s l b k v h ts
      simp only [serve, RealInferenceStorageBackend.serve, backingDrive, hwrite]
  | other op =>
      cases op with
      | write l b k v h ts =>
          have hwrite := writeBlock_overFile s l b (.array k) (.array v) h ts
          simp only [serve, RealInferenceStorageBackend.serve, RealInferenceStorageBackend.step,
            backingDrive, hwrite]
      | evict l b =>
          simp only [serve, RealInferenceStorageBackend.serve, RealInferenceStorageBackend.step,
            evictBlock_overFile]
      | readKeyPage l b h ts =>
          simp only [serve, RealInferenceStorageBackend.serve, RealInferenceStorageBackend.step,
            hkey]
      | readValuePage l b h ts =>
          simp only [serve, RealInferenceStorageBackend.serve, RealInferenceStorageBackend.step,
            hvalue]
      | readBlock l b h ts =>
          simp only [serve, RealInferenceStorageBackend.serve, RealInferenceStorageBackend.step,
            hblock]
      | readKeyPageBatch l bids h ts =>
          have hbatch : readKeyPageBatch (backingDrive α) .file s.overFile l bids h ts =
              ((s.readKeyPageBatch l bids h ts).1, (s.readKeyPageBatch l bids h ts).2.overFile) :=
            readBatch_overFile s fetchSpan_keyPages hkey l bids h ts
          simp only [serve, RealInferenceStorageBackend.serve, RealInferenceStorageBackend.step,
            hbatch]
      | readValuePageBatch l bids h ts =>
          have hbatch : readValuePageBatch (backingDrive α) .file s.overFile l bids h ts =
              ((s.readValuePageBatch l bids h ts).1,
                (s.readValuePageBatch l bids h ts).2.overFile) :=
            readBatch_overFile s fetchSpan_valuePages hvalue l bids h ts
          simp only [serve, RealInferenceStorageBackend.serve, RealInferenceStorageBackend.step,
            hbatch]
      | readBlockBatch l bids h ts =>
          have hbatch : readBlockBatch (backingDrive α) .file s.overFile l bids h ts =
              ((s.readBlockBatch l bids h ts).1, (s.readBlockBatch l bids h ts).2.overFile) :=
            readBatch_overFile s fetchSpan_blockPages hblock l bids h ts
          simp only [serve, RealInferenceStorageBackend.serve, RealInferenceStorageBackend.step,
            hbatch]
      | computeTopkFilter l cands query topK scale qHeads kvHeads headDim =>
          simp only [serve, RealInferenceStorageBackend.serve, RealInferenceStorageBackend.step,
            computeTopkFilter_overFile]

theorem exec_overFile (requests : List (Request α)) :
    (machine cfg (backingDrive α) .file dtype val kernel).exec s.overFile
        (requests.map .request) =
      ((RealInferenceStorageBackend.server cfg val kernel).exec s requests).overFile := by
  induction requests generalizing s with
  | nil => rfl
  | cons request requests ih =>
      have hstep : ((machine cfg (backingDrive α) .file dtype val kernel).step s.overFile
          (.request request)).2 =
            (RealInferenceStorageBackend.serve cfg val kernel s request).2.overFile := by
        simp only [machine, step, serve_overFile]
      rw [List.map_cons, Machine.exec_cons, hstep, ih]
      rfl

end Topk

end OverFile

end DeviceBackend

end AiSsd.Storage
