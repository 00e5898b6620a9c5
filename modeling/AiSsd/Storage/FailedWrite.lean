import AiSsd.Nvme.Link
import AiSsd.Storage.BackendReads
import Mathlib.Algebra.BigOperators.Fin

/-!
# Writes that fail

`write_block` places its heads before it writes the bytes. When the device raises, the table,
the file offset and the totals are still those before the call, but the channels have counted
the heads.
-/

namespace AiSsd.Storage

open Lib Numpy

/-- What a write goes through. It may raise; what it then did to the device stays. -/
structure Device (δ : Type) where
  write : δ → (data : Bytes) → (offset : Nat) → Except PyErr Unit × δ

def backingFile : Device ByteFile where
  write file data offset := (.ok (), file.pwrite data offset)

/-- The client of the guest's daemon. `write_block` drops the count that it returns. -/
def nvmeClient {δ F : Type} (g : Nvme.Guest δ) (fl : Nvme.FloatOps F) :
    Device (Nvme.Link δ) where
  write link data offset :=
    match Nvme.call g fl link (.write offset data) with
    | (.error err, link) => (.error err, link)
    | (.ok _, link) => (.ok (), link)

inductive StorageMode where
  | file
  | nvmeQemu
deriving Repr, DecidableEq

structure DeviceBackend (cfg : BackendConfig) (δ : Type) where
  storage : Dict (Nat × Nat) (Entry cfg.channels)
  device : δ
  fileOffset : Nat
  telemetry : BackendTelemetry cfg.channels

/-- The backend of `InferenceBackend`, as one over its backing file. -/
def RealInferenceStorageBackend.overFile {cfg : BackendConfig}
    (s : RealInferenceStorageBackend cfg) : DeviceBackend cfg ByteFile :=
  ⟨s.storage, s.file, s.fileOffset, s.telemetry⟩

namespace DeviceBackend

open RealInferenceStorageBackend (pack headsInBlock assignChannels assignChannels_ok KnownMode)

variable {cfg : BackendConfig} {δ : Type}

/-- Two writes to the file, or one to the drive. -/
def writePages (dev : Device δ) (mode : StorageMode) (device : δ) (kBytes vBytes : Bytes)
    (kOffset : Nat) : Except PyErr Unit × δ :=
  match mode with
  | .nvmeQemu => dev.write device (kBytes ++ vBytes) kOffset
  | .file =>
      match dev.write device kBytes kOffset with
      | (.error err, device) => (.error err, device)
      | (.ok _, device) => dev.write device vBytes (kOffset + kBytes.length)

def writeBlock (dev : Device δ) (mode : StorageMode) (s : DeviceBackend cfg δ)
    (layerIdx blockId : Nat) (kBlock vBlock : Payload) (headId tokenStart : Nat) :
    Except PyErr Unit × DeviceBackend cfg δ :=
  let k := pack cfg kBlock
  let v := pack cfg vBlock
  let kSize := k.bytes.length
  let vSize := v.bytes.length
  let totalBlockBytes := kSize + vSize
  let heads := headsInBlock kBlock
  match assignChannels layerIdx blockId headId tokenStart (totalBlockBytes / heads)
      (List.range heads) s.telemetry with
  | (.error err, t) => (.error err, { s with telemetry := t })
  | (.ok assigned, t) =>
      let primaryCh := assigned.headD cfg.channelZero
      let lbaCoord : TensorCoordinate := ⟨layerIdx, headId, tokenStart, 16, some blockId, 44⟩
      match cfg.mapper.tensorToLba lbaCoord cfg.mappingMode with
      | .error err => (.error err, { s with telemetry := t })
      | .ok lbaAddr =>
          let kOffset := s.fileOffset
          let vOffset := kOffset + kSize
          match writePages dev mode s.device k.bytes v.bytes kOffset with
          | (.error err, device) => (.error err, { s with device := device, telemetry := t })
          | (.ok _, device) =>
              let entry : Entry cfg.channels :=
                { kOffset := kOffset
                  kSize := kSize
                  kShape := k.shape
                  kDtype := k.dtype
                  vOffset := vOffset
                  vSize := vSize
                  vShape := v.shape
                  vDtype := v.dtype
                  headId := headId
                  tokenStart := tokenStart
                  channel := primaryCh
                  channels := assigned
                  lba := lbaAddr.lba }
              (.ok (),
                { storage := s.storage.set (layerIdx, blockId) entry
                  device := device
                  fileOffset := s.fileOffset + totalBlockBytes
                  telemetry :=
                    BackendTelemetry.log
                      { t with
                        blocksWritten := t.blocksWritten + 1
                        bytesWritten := t.bytesWritten + totalBlockBytes
                        requests := t.requests + 1 }
                      (.write layerIdx headId blockId primaryCh totalBlockBytes) })

/-- Over a file with room this is the backend that the reads are about. -/
theorem writeBlock_overFile (s : RealInferenceStorageBackend cfg) (l b : Nat) (k v : Payload)
    (h ts : Nat) :
    writeBlock backingFile .file s.overFile l b k v h ts =
      ((s.writeBlock l b k v h ts).1, (s.writeBlock l b k v h ts).2.overFile) := by
  unfold writeBlock RealInferenceStorageBackend.writeBlock
  dsimp only [RealInferenceStorageBackend.overFile]
  rcases assignChannels l b h ts
    (((pack cfg k).bytes.length + (pack cfg v).bytes.length) / headsInBlock k)
    (List.range (headsInBlock k)) s.telemetry with ⟨_ | assigned, t⟩
  · rfl
  · dsimp only
    cases cfg.mapper.tensorToLba ⟨l, h, ts, 16, some b, 44⟩ cfg.mappingMode <;> rfl

/-! ## What the channels count -/

theorem sum_bump {channels : Nat} (counters : Fin channels → Nat) (ch : Fin channels) (n : Nat) :
    ∑ c, BackendTelemetry.bump counters ch n c = ∑ c, counters c + n := by
  unfold BackendTelemetry.bump
  rw [Finset.sum_update_of_mem (Finset.mem_univ ch),
    ← Finset.add_sum_erase Finset.univ counters (Finset.mem_univ ch),
    Finset.sdiff_singleton_eq_erase]
  omega

/-- Placing heads changes what the channels count and nothing else, and every head is counted. -/
theorem assignChannels_counts {l b h ts n : Nat} {offsets : List Nat}
    {t t' : BackendTelemetry cfg.channels} {chs : List (Fin cfg.channels)}
    (hassign : assignChannels l b h ts n offsets t = (.ok chs, t')) :
    t' = { t with
      channelCounters := t'.channelCounters
      perChannelWrites := t'.perChannelWrites
      perChannelWriteBytes := t'.perChannelWriteBytes } ∧
      ∑ c, t'.channelCounters c = ∑ c, t.channelCounters c + offsets.length := by
  induction offsets generalizing t chs with
  | nil =>
      obtain ⟨-, rfl⟩ := Prod.mk.inj hassign
      exact ⟨rfl, rfl⟩
  | cons hOff rest ih =>
      unfold assignChannels at hassign
      dsimp only at hassign
      split at hassign
      · cases hassign
      · rename_i nand _
        split at hassign
        · cases hassign
        · rename_i chs' t'' hrest
          obtain ⟨-, rfl⟩ := Prod.mk.inj hassign
          obtain ⟨hsame, hsum⟩ := ih hrest
          have hone : ∑ c, (t.channelWrite nand.channel n).channelCounters c =
              ∑ c, t.channelCounters c + 1 := sum_bump t.channelCounters nand.channel 1
          refine ⟨hsame, ?_⟩
          rw [hsum, hone, List.length_cons]
          omega

/-! ## A write that raises -/

/-- The mapper places the block, the call reaches the device and the device raises. -/
def DeviceRaises (dev : Device δ) (mode : StorageMode) (s : DeviceBackend cfg δ)
    (layerIdx blockId : Nat) (kBlock vBlock : Payload) (headId tokenStart : Nat) (err : PyErr) :
    Prop :=
  ∃ assigned t lbaAddr device,
    assignChannels layerIdx blockId headId tokenStart
      (((pack cfg kBlock).bytes.length + (pack cfg vBlock).bytes.length) / headsInBlock kBlock)
      (List.range (headsInBlock kBlock)) s.telemetry = (.ok assigned, t) ∧
    cfg.mapper.tensorToLba ⟨layerIdx, headId, tokenStart, 16, some blockId, 44⟩ cfg.mappingMode =
      .ok lbaAddr ∧
    writePages dev mode s.device (pack cfg kBlock).bytes (pack cfg vBlock).bytes s.fileOffset =
      (.error err, device)

structure Unchanged (s s' : DeviceBackend cfg δ) : Prop where
  storage_eq : s'.storage = s.storage
  fileOffset_eq : s'.fileOffset = s.fileOffset
  telemetry_eq : s'.telemetry = s.telemetry

variable {dev : Device δ} {mode : StorageMode} {s : DeviceBackend cfg δ} {l b h ts : Nat}
  {k v : Payload} {err : PyErr}

theorem deviceRaises_of_writePages (hmode : KnownMode cfg)
    (hraise : (writePages dev mode s.device (pack cfg k).bytes (pack cfg v).bytes
      s.fileOffset).1 = .error err) : DeviceRaises dev mode s l b k v h ts err := by
  obtain ⟨assigned, t, hassign⟩ := assignChannels_ok hmode l b h ts
    (((pack cfg k).bytes.length + (pack cfg v).bytes.length) / headsInBlock k)
    (List.range (headsInBlock k)) s.telemetry
  obtain ⟨lba, hlba⟩ := cfg.mapper.tensorToLba_ok hmode ⟨l, h, ts, 16, some b, 44⟩
  exact ⟨assigned, t, lba, _, hassign, hlba, Prod.ext hraise rfl⟩

/-- The error is passed on. Only the counts of the channels have moved, one for each head. -/
theorem writeBlock_raised (hfail : DeviceRaises dev mode s l b k v h ts err) :
    ∃ t device, writeBlock dev mode s l b k v h ts =
        (.error err, { s with device := device, telemetry := t }) ∧
      t = { s.telemetry with
        channelCounters := t.channelCounters
        perChannelWrites := t.perChannelWrites
        perChannelWriteBytes := t.perChannelWriteBytes } ∧
      ∑ c, t.channelCounters c = ∑ c, s.telemetry.channelCounters c + headsInBlock k := by
  obtain ⟨assigned, t, lba, device, hassign, hlba, hwrite⟩ := hfail
  obtain ⟨hsame, hsum⟩ := assignChannels_counts hassign
  rw [List.length_range] at hsum
  refine ⟨t, device, ?_, hsame, hsum⟩
  unfold writeBlock
  simp only [hassign, hlba, hwrite]

/-- A write whose device raises leaves the backend as it was exactly when the key block has no
heads to place. -/
theorem write_block_atomic_iff (dev : Device δ) (mode : StorageMode) (s : DeviceBackend cfg δ)
    (layerIdx blockId : Nat) (kBlock vBlock : Payload) (headId tokenStart : Nat) (err : PyErr)
    (hfail : DeviceRaises dev mode s layerIdx blockId kBlock vBlock headId tokenStart err) :
    (writeBlock dev mode s layerIdx blockId kBlock vBlock headId tokenStart).1 = .error err ∧
      (Unchanged s (writeBlock dev mode s layerIdx blockId kBlock vBlock headId tokenStart).2 ↔
        headsInBlock kBlock = 0) := by
  obtain ⟨t, device, hwrite, -, hsum⟩ := writeBlock_raised hfail
  rw [hwrite]
  refine ⟨rfl, fun hsame => ?_, fun hheads => ⟨rfl, rfl, ?_⟩⟩
  · -- the counters of all channels together tell how many heads were placed
    have htotal : ∑ c, t.channelCounters c = ∑ c, s.telemetry.channelCounters c :=
      congrArg (fun t' => ∑ c, t'.channelCounters c) hsame.telemetry_eq
    omega
  · obtain ⟨assigned, t', lba, device', hassign, hlba, hraise⟩ := hfail
    rw [hheads] at hassign
    obtain ⟨-, rfl⟩ := Prod.mk.inj hassign
    unfold writeBlock at hwrite
    simp only [hheads, hlba, hraise, assignChannels, List.range_zero] at hwrite
    exact (congrArg (fun s' => s'.telemetry) (Prod.mk.inj hwrite).2).symm

/-! ## A drive that refuses -/

def failingGuest : Nvme.Guest Unit where
  pread d _ _ := (none, d)
  pwrite d _ _ := (none, d)
  fdatasync d := d
  malloc d _ := (true, d)
  length_pread := by simp
  pwrite_le := by simp

def oneHeadConfig : BackendConfig where
  channels := 2
  diesPerChannel := 1
  planesPerDie := 1
  pagesPerBlock := 16
  blocksPerPlane := 16
  numLayers := 1
  numHeads := 1
  tokensPerBlock := 1
  headDim := 1
  mappingMode := .tensorAware
  enableBatching := true
  channels_pos := Nat.two_pos
  dies_pos := Nat.one_pos
  planes_pos := Nat.one_pos
  pages_pos := by decide
  blocks_pos := by decide

/-- Nothing is stored, and the client has just connected. -/
def emptyDrive : DeviceBackend oneHeadConfig (Nvme.Link Unit) :=
  ⟨Dict.empty, ⟨⟨(), fun _ => 0⟩, .ready, [], [], 0, 0⟩, 0, BackendTelemetry.zero⟩

def failingClient : Device (Nvme.Link Unit) := nvmeClient failingGuest Nvme.intFloat

def onePage (heads : Nat) : Payload := .array (NDArray.zeros [1, heads, 1] float32)

theorem write_block_atomic_iff_no_heads :
    (writeBlock failingClient .nvmeQemu emptyDrive 0 0 (onePage 0) (onePage 1) 0 0).1 =
        .error (.ioError "NVMe write failed at offset 0, length 4, status 1") ∧
      (Unchanged emptyDrive
          (writeBlock failingClient .nvmeQemu emptyDrive 0 0 (onePage 0) (onePage 1) 0 0).2 ↔
        headsInBlock (onePage 0) = 0) :=
  write_block_atomic_iff failingClient .nvmeQemu emptyDrive 0 0 (onePage 0) (onePage 1) 0 0 _
    (deviceRaises_of_writePages (fun name h => by cases h) (by decide +kernel))

def refused : Except PyErr Unit × DeviceBackend oneHeadConfig (Nvme.Link Unit) :=
  writeBlock failingClient .nvmeQemu emptyDrive 0 0 (onePage 1) (onePage 1) 0 0

/-- Nothing was written, yet channel 0 counts a write, and the next block that it takes would be
placed one page further. -/
theorem refused_block_is_counted :
    refused.1 = .error (.ioError "NVMe write failed at offset 0, length 8, status 1") ∧
      (writePages failingClient .nvmeQemu emptyDrive.device (pack oneHeadConfig (onePage 1)).bytes
        (pack oneHeadConfig (onePage 1)).bytes emptyDrive.fileOffset).1 = refused.1 ∧
      emptyDrive.telemetry.channelCounters oneHeadConfig.channelZero = 0 ∧
      refused.2.telemetry.channelCounters oneHeadConfig.channelZero = 1 ∧
      refused.2.telemetry.perChannelWrites oneHeadConfig.channelZero = 1 ∧
      refused.2.telemetry.perChannelWriteBytes oneHeadConfig.channelZero = 8 := by
  decide +kernel

end DeviceBackend

end AiSsd.Storage
