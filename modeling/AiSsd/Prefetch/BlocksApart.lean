import AiSsd.Adapters.ActiveState
import AiSsd.Prefetch.AsyncReads
import AiSsd.Prefetch.FileStore

/-!
# Blocks of several layers in one file

The adapter writes a block to the file backend at its block id and hands the layer on,
which the file backend does not use. The blocks with one id share one extent of the file,
and a read finds there what the last write with that id left, of whatever layer.
-/

namespace AiSsd.Prefetch.Async

open Lib Numpy Storage
open Adapters (Astype)
open Adapters.TransformerKVStateProvider (floatNumerics)
open Prefetch.RealInferencePrefetchAdapter (asStored)
open Async.RealInferencePrefetchAdapter

variable (A : Astype) (cfg : AdapterConfig)

def storedBytes (p : Payload) : Except PyErr Bytes := (asStored A cfg p).map NDArray.data

def recordWrite (last : Nat → Option (Payload × Payload)) : Call → Nat → Option (Payload × Payload)
  | .writeBlock _ blockId kBlock vBlock _ _ => Function.update last blockId (some (kBlock, vBlock))
  | _ => last

def lastWrite (calls : List Call) : Nat → Option (Payload × Payload) :=
  calls.foldl recordWrite fun _ => none

def Call.Canonical : Call → Prop
  | .writeBlock _ _ kBlock vBlock _ _ =>
      (storedBytes A cfg kBlock).map List.length = .ok keyPageBytes ∧
        (storedBytes A cfg vBlock).map List.length = .ok valuePageBytes
  | .readKeyPage .. => True
  | .readValuePage .. => True
  | .readBlock .. => True
  | _ => False

variable {A : Astype} {cfg : AdapterConfig}

theorem of_map_length_eq_ok {r : Except PyErr Bytes} {n : Nat} (h : r.map List.length = .ok n) :
    ∃ raw, r = .ok raw ∧ raw.length = n := by
  cases r with
  | error err => cases h
  | ok raw => exact ⟨raw, rfl, Except.ok.inj h⟩

namespace FileStorageBackend

variable (s : FileStorageBackend)

/-! ## Extents -/

theorem file_write (blockId : Nat) (data : Bytes) :
    (s.write blockId 0 data).file = s.file.pwrite data (blockId * s.blockSize) := rfl

theorem pread_write_self (blockId : Nat) (data : Bytes) :
    (s.write blockId 0 data).file.pread data.length (blockId * s.blockSize) = data := by
  rw [file_write]
  exact ByteFile.pread_pwrite_self s.file data _

theorem extents_apart {blockId other n stride : Nat} (hne : other ≠ blockId) (hn : n ≤ stride) :
    other * stride + n ≤ blockId * stride ∨ blockId * stride + n ≤ other * stride := by
  rcases Nat.lt_or_gt_of_ne hne with hlt | hlt
  · left
    calc other * stride + n ≤ other * stride + stride := Nat.add_le_add_left hn _
      _ = (other + 1) * stride := (Nat.succ_mul other stride).symm
      _ ≤ blockId * stride := Nat.mul_le_mul_right _ hlt
  · right
    calc blockId * stride + n ≤ blockId * stride + stride := Nat.add_le_add_left hn _
      _ = (blockId + 1) * stride := (Nat.succ_mul blockId stride).symm
      _ ≤ other * stride := Nat.mul_le_mul_right _ hlt

/-- A block that is all there keeps its bytes when another is written. -/
theorem pread_write_other {blockId other : Nat} {data : Bytes} (hne : other ≠ blockId)
    (hstride : data.length ≤ s.blockSize)
    (hthere : (s.file.pread data.length (other * s.blockSize)).length = data.length)
    (hpos : 0 < data.length) :
    (s.write blockId 0 data).file.pread data.length (other * s.blockSize) =
      s.file.pread data.length (other * s.blockSize) := by
  rw [file_write]
  apply ByteFile.pread_pwrite_disjoint
  · rw [ByteFile.length_pread] at hthere
    omega
  · exact extents_apart hne hstride

end FileStorageBackend

/-! ## What a run leaves in the file -/

/-- The adapter stages nothing and keeps no payloads of its own; each block id last written
has the bytes of that write at its place in the file. -/
structure KeepsWrites (A : Astype) (cfg : AdapterConfig)
    (last : Nat → Option (Payload × Payload))
    (s : RealInferencePrefetchAdapter FileStorageBackend) : Prop where
  unstaged : ∀ key, s.stagingBuffer.get? key = none
  unkept : ∀ key, s.blockPayloads.get? key = none
  shape_eq : ∀ key, metaShape cfg s key = cfg.defaultShape
  stride : keyPageBytes + valuePageBytes ≤ s.storageBackend.blockSize
  holds : ∀ blockId k v, last blockId = some (k, v) → ∃ kRaw vRaw,
    storedBytes A cfg k = .ok kRaw ∧ kRaw.length = keyPageBytes ∧
    storedBytes A cfg v = .ok vRaw ∧ vRaw.length = valuePageBytes ∧
    s.storageBackend.file.pread (keyPageBytes + valuePageBytes)
      (blockId * s.storageBackend.blockSize) = kRaw ++ vRaw

namespace KeepsWrites

variable {last : Nat → Option (Payload × Payload)}
  {s s' : RealInferencePrefetchAdapter FileStorageBackend}

theorem init {b : FileStorageBackend} (hstride : keyPageBytes + valuePageBytes ≤ b.blockSize) :
    KeepsWrites A cfg (fun _ => none) (RealInferencePrefetchAdapter.init cfg b) where
  unstaged := fun _ => rfl
  unkept := fun _ => rfl
  shape_eq := fun _ => rfl
  stride := hstride
  holds := fun _ _ _ hnone => by cases hnone

/-- Counters aside, nothing that a read of the file could find is changed. -/
theorem of_same (h : KeepsWrites A cfg last s) (hbuffer : s'.stagingBuffer = s.stagingBuffer)
    (hpayloads : s'.blockPayloads = s.blockPayloads) (hmeta : s'.blockMeta = s.blockMeta)
    (hfile : s'.storageBackend.file = s.storageBackend.file)
    (hsize : s'.storageBackend.blockSize = s.storageBackend.blockSize) :
    KeepsWrites A cfg last s' where
  unstaged := fun key => by rw [hbuffer, h.unstaged]
  unkept := fun key => by rw [hpayloads, h.unkept]
  shape_eq := fun key => by rw [← h.shape_eq key, metaShape, metaShape, hmeta]
  stride := by rw [hsize]; exact h.stride
  holds := by rw [hfile, hsize]; exact h.holds

/-! ### Writes -/

theorem asStored_of_storedBytes {p : Payload} {raw : Bytes} (h : storedBytes A cfg p = .ok raw) :
    ∃ arr, asStored A cfg p = .ok arr ∧ arr.data = raw := by
  unfold storedBytes at h
  cases hstored : asStored A cfg p with
  | error err =>
      rw [hstored] at h
      cases h
  | ok arr =>
      rw [hstored] at h
      exact ⟨arr, rfl, Except.ok.inj h⟩

/-- A write of whole pages puts them at the extent of its block id. -/
theorem writeBlock_file (s : RealInferencePrefetchAdapter FileStorageBackend) (l blockId : Nat)
    {k v : Payload} {kRaw vRaw : Bytes} (head t : Nat) (hk : storedBytes A cfg k = .ok kRaw)
    (hv : storedBytes A cfg v = .ok vRaw) :
    ∃ entry tel, entry.shape = none ∧ (writeBlock fileStorage A cfg s l blockId k v head t).2 =
      { s with
        blockMeta := s.blockMeta.set (l, blockId) entry
        storageBackend := s.storageBackend.write blockId 0 (kRaw ++ vRaw)
        telemetry := tel } := by
  obtain ⟨kArr, hkArr, rfl⟩ := asStored_of_storedBytes hk
  obtain ⟨vArr, hvArr, rfl⟩ := asStored_of_storedBytes hv
  simp only [writeBlock, hkArr, hvArr]
  exact ⟨⟨kArr.shape, vArr.shape, kArr.dtype, head, t, none⟩, _, rfl, rfl⟩

theorem write (h : KeepsWrites A cfg last s) (l blockId : Nat) {k v : Payload} (head t : Nat)
    (hk : (storedBytes A cfg k).map List.length = .ok keyPageBytes)
    (hv : (storedBytes A cfg v).map List.length = .ok valuePageBytes) :
    KeepsWrites A cfg (Function.update last blockId (some (k, v)))
      (writeBlock fileStorage A cfg s l blockId k v head t).2 := by
  obtain ⟨kRaw, hkRaw, hklen⟩ := of_map_length_eq_ok hk
  obtain ⟨vRaw, hvRaw, hvlen⟩ := of_map_length_eq_ok hv
  have hlen : (kRaw ++ vRaw).length = keyPageBytes + valuePageBytes := by
    rw [List.length_append, hklen, hvlen]
  obtain ⟨entry, tel, hshape, hwrite⟩ := writeBlock_file s l blockId head t hkRaw hvRaw
  rw [hwrite]
  refine ⟨h.unstaged, h.unkept, ?_, h.stride, ?_⟩
  · intro key
    have hold := h.shape_eq key
    unfold metaShape at hold ⊢
    rw [Dict.get?_set]
    split
    · simp [hshape]
    · exact hold
  · intro other k' v' hlast
    by_cases hother : other = blockId
    · subst hother
      rw [Function.update_self, Option.some.injEq, Prod.mk.injEq] at hlast
      obtain ⟨rfl, rfl⟩ := hlast
      refine ⟨kRaw, vRaw, hkRaw, hklen, hvRaw, hvlen, ?_⟩
      have hself := s.storageBackend.pread_write_self other (kRaw ++ vRaw)
      rw [hlen] at hself
      exact hself
    · rw [Function.update_of_ne hother] at hlast
      obtain ⟨kOld, vOld, hk', hklen', hv', hvlen', hfile⟩ := h.holds other k' v' hlast
      refine ⟨kOld, vOld, hk', hklen', hv', hvlen', ?_⟩
      have hstride := h.stride
      have hkept := @FileStorageBackend.pread_write_other s.storageBackend blockId other
        (kRaw ++ vRaw) hother
        (by rw [hlen]; exact hstride)
        (by rw [hlen, hfile, List.length_append, hklen', hvlen'])
        (by rw [hlen]; decide)
      rw [hlen] at hkept
      exact hkept.trans hfile

/-! ### Reads -/

section Reads

variable {ρ : Type}

theorem fetchMiss_file (h : KeepsWrites A cfg last s) (ofPayload : NDArray × NDArray → ρ)
    (offset length : Nat) (parse : Bytes → Except PyErr ρ) (missing : Except PyErr ρ)
    (l blockId head t : Nat) :
    fetchMiss fileStorage none ofPayload offset length parse missing s l blockId head t =
      (parse (orZeros (s.storageBackend.file.pread length
          (blockId * s.storageBackend.blockSize + offset)) length),
        (s.storageBackend.read blockId offset length).2) := by
  simp only [fetchMiss, h.unkept]
  rfl

theorem readSingle_keeps (h : KeepsWrites A cfg last s) (sizeBytes : Nat)
    (staged : List Nat → Option (NDArray × NDArray) → Except PyErr ρ)
    {fetch : BlockRead (RealInferencePrefetchAdapter FileStorageBackend) ρ}
    (hfetch : ∀ s l b h t, KeepsWrites A cfg last s → KeepsWrites A cfg last (fetch s l b h t).2)
    (l blockId head t : Nat) :
    KeepsWrites A cfg last (readSingle cfg sizeBytes staged fetch s l blockId head t).2 := by
  have hcounted : KeepsWrites A cfg last (countMiss s) := h.of_same rfl rfl rfl rfl rfl
  have hfetched := hfetch (countMiss s) l blockId head t hcounted
  unfold readSingle
  simp only [h.unstaged]
  revert hfetched
  rcases fetch (countMiss s) l blockId head t with ⟨_ | ret, s'⟩
  · exact id
  · intro hfetched
    exact hfetched.of_same rfl rfl rfl rfl rfl

theorem fetchMiss_keeps (h : KeepsWrites A cfg last s) (ofPayload : NDArray × NDArray → ρ)
    (offset length : Nat) (parse : Bytes → Except PyErr ρ) (missing : Except PyErr ρ)
    (l blockId head t : Nat) :
    KeepsWrites A cfg last
      { s with
        storageBackend :=
          (fetchMiss fileStorage none ofPayload offset length parse missing s l blockId head t).2 } := by
  rw [h.fetchMiss_file]
  exact h.of_same rfl rfl rfl rfl rfl

end Reads

/-! ### Runs -/

theorem call (h : KeepsWrites A cfg last s) {c : Call} (hc : c.Canonical A cfg) :
    (Pipeline.call fileStorage A cfg s c).2.registration = none ∧
      KeepsWrites A cfg (recordWrite last c) (Pipeline.call fileStorage A cfg s c).2.adapter := by
  cases c with
  | writeBlock l blockId k v head t => exact ⟨rfl, h.write l blockId head t hc.1 hc.2⟩
  | readKeyPage l blockId head t =>
      exact ⟨rfl, h.readSingle_keeps _ _ (fun _ _ _ _ _ h => h.fetchMiss_keeps _ _ _ _ _ _ _ _ _)
        l blockId head t⟩
  | readValuePage l blockId head t =>
      exact ⟨rfl, h.readSingle_keeps _ _ (fun _ _ _ _ _ h => h.fetchMiss_keeps _ _ _ _ _ _ _ _ _)
        l blockId head t⟩
  | readBlock l blockId head t =>
      exact ⟨rfl, h.readSingle_keeps _ _ (fun _ _ _ _ _ h => h.fetchMiss_keeps _ _ _ _ _ _ _ _ _)
        l blockId head t⟩
  | prefetch bids l head t isAsync => exact hc.elim
  | predictAndPrefetch l bids stride isAsync => exact hc.elim
  | readKeyPageBatch l bids head t => exact hc.elim
  | readValuePageBatch l bids head t => exact hc.elim
  | readBlockBatch l bids head t => exact hc.elim
  | evictBlock l b => exact hc.elim
  | resetStats => exact hc.elim

/-- After a run of writes and reads each block id holds what was last written to it. -/
theorem run {p : Pipeline FileStorageBackend} (h : KeepsWrites A cfg last p.adapter)
    (hidle : p.registration = none) {calls : List Call} (hcalls : ∀ c ∈ calls, c.Canonical A cfg) :
    KeepsWrites A cfg (calls.foldl recordWrite last)
      ((Pipeline.machine fileStorage A cfg).exec p (calls.map .call)).adapter := by
  induction calls generalizing last p with
  | nil => exact h
  | cons c calls ih =>
      obtain ⟨hc, hrest⟩ := List.forall_mem_cons.mp hcalls
      obtain ⟨hnext, hkeeps⟩ := h.call hc
      have hstep : (Pipeline.step fileStorage A cfg p (.call c)).2 =
          (Pipeline.call fileStorage A cfg p.adapter c).2 := by
        simp [Pipeline.step, hidle]
      rw [List.map_cons, Machine.exec_cons, List.foldl_cons]
      apply ih _ _ hrest
      · exact hstep ▸ hkeeps
      · exact hstep ▸ hnext

/-! ### What is read back -/

theorem itemsize_dvd_page : keyPageBytes % cfg.npDtype.itemsize = 0 := by
  unfold AdapterConfig.npDtype
  repeat' split
  all_goals decide

/-- The pages of a block id, at their two places in the file. -/
theorem pread_pages {file : ByteFile} {place : Nat} {kRaw vRaw : Bytes}
    (hklen : kRaw.length = keyPageBytes)
    (hfile : file.pread (keyPageBytes + valuePageBytes) place = kRaw ++ vRaw) :
    file.pread keyPageBytes place = kRaw ∧ file.pread valuePageBytes (place + keyPageBytes) = vRaw := by
  have hkey : file.pread keyPageBytes place = kRaw := by
    rw [← ByteFile.pread_take _ _ (Nat.le_add_right keyPageBytes valuePageBytes), hfile, ← hklen,
      List.take_left]
  refine ⟨hkey, ?_⟩
  rw [ByteFile.pread_add, hkey] at hfile
  exact List.append_cancel_left hfile

theorem page_ne_nil {raw : Bytes} (h : raw.length = keyPageBytes) : raw ≠ [] := by
  rintro rfl
  cases h

theorem frombuffer_page {raw : Bytes} (h : raw.length = keyPageBytes) :
    ∃ a, NDArray.frombuffer raw cfg.npDtype = .ok a ∧ a.data = raw :=
  NDArray.frombuffer_ok (by rw [h]; exact itemsize_dvd_page)

theorem readKeyPage_data (h : KeepsWrites A cfg last s) {blockId : Nat} {k v : Payload}
    (hlast : last blockId = some (k, v)) (l head t : Nat) :
    ∃ a, (readKeyPage fileStorage cfg s l blockId head t).1 = .returns (.ok a) ∧
      storedBytes A cfg k = .ok a.data := by
  obtain ⟨kRaw, vRaw, hk, hklen, -, -, hfile⟩ := h.holds blockId k v hlast
  obtain ⟨hpage, -⟩ := pread_pages hklen hfile
  obtain ⟨a, ha, hdata⟩ := @frombuffer_page cfg kRaw hklen
  refine ⟨a, ?_, by rw [hdata, hk]⟩
  have hcounted : KeepsWrites A cfg last (countMiss s) := h.of_same rfl rfl rfl rfl rfl
  unfold readKeyPage
  rw [readSingle_unstaged (h.unstaged _)]
  unfold fetchKeyPage
  rw [show fileStorage.readKeyPage = none from rfl, hcounted.fetchMiss_file]
  simp only [countMiss, Nat.add_zero, hpage, orZeros, if_neg (page_ne_nil hklen), ha]

theorem readValuePage_data (h : KeepsWrites A cfg last s) {blockId : Nat} {k v : Payload}
    (hlast : last blockId = some (k, v)) (l head t : Nat) :
    ∃ a, (readValuePage fileStorage cfg s l blockId head t).1 = .returns (.ok a) ∧
      storedBytes A cfg v = .ok a.data := by
  obtain ⟨kRaw, vRaw, -, hklen, hv, hvlen, hfile⟩ := h.holds blockId k v hlast
  obtain ⟨-, hpage⟩ := pread_pages hklen hfile
  obtain ⟨a, ha, hdata⟩ := @frombuffer_page cfg vRaw hvlen
  refine ⟨a, ?_, by rw [hdata, hv]⟩
  have hcounted : KeepsWrites A cfg last (countMiss s) := h.of_same rfl rfl rfl rfl rfl
  unfold readValuePage
  rw [readSingle_unstaged (h.unstaged _)]
  unfold fetchValuePage
  rw [show fileStorage.readValuePage = none from rfl, hcounted.fetchMiss_file]
  simp only [countMiss, hpage, orZeros, if_neg (page_ne_nil hvlen), ha]

/-- The bytes `read_block` cuts into K and V. -/
def blockRaw (cfg : AdapterConfig) (s : RealInferencePrefetchAdapter FileStorageBackend)
    (blockId : Nat) : Bytes :=
  orZeros (s.storageBackend.file.pread cfg.bytesPerBlock
    (blockId * s.storageBackend.blockSize)) cfg.bytesPerBlock

theorem length_blockRaw_le (s : RealInferencePrefetchAdapter FileStorageBackend) (blockId : Nat) :
    (blockRaw cfg s blockId).length ≤ cfg.bytesPerBlock := by
  unfold blockRaw orZeros
  split
  · rw [List.length_replicate]
  · exact ByteFile.length_pread_le _ _ _

theorem readBlock_returns (h : KeepsWrites A cfg last s) (l blockId head t : Nat) :
    (readBlock fileStorage cfg s l blockId head t).1 =
      .returns (decodePair cfg.npDtype cfg.defaultShape (keyBytes (blockRaw cfg s blockId))
        (valueBytes (blockRaw cfg s blockId))) := by
  have hcounted : KeepsWrites A cfg last (countMiss s) := h.of_same rfl rfl rfl rfl rfl
  unfold readBlock
  rw [readSingle_unstaged (h.unstaged _)]
  unfold fetchBlock
  rw [show fileStorage.readBlock = none from rfl, hcounted.fetchMiss_file, hcounted.shape_eq]
  rfl

theorem halves_blockRaw {blockId : Nat} {kRaw vRaw : Bytes} (hklen : kRaw.length = keyPageBytes)
    (hfile : s.storageBackend.file.pread (keyPageBytes + valuePageBytes)
      (blockId * s.storageBackend.blockSize) = kRaw ++ vRaw)
    (hlong : keyPageBytes + valuePageBytes ≤ cfg.bytesPerBlock) :
    keyBytes (blockRaw cfg s blockId) = kRaw ∧ valueBytes (blockRaw cfg s blockId) = vRaw := by
  have htake := ByteFile.pread_take s.storageBackend.file
    (blockId * s.storageBackend.blockSize) hlong
  rw [hfile] at htake
  have hraw : blockRaw cfg s blockId = s.storageBackend.file.pread cfg.bytesPerBlock
      (blockId * s.storageBackend.blockSize) := by
    unfold blockRaw orZeros
    rw [if_neg]
    intro hnil
    rw [hnil, List.take_nil] at htake
    exact page_ne_nil hklen (List.append_eq_nil_iff.mp htake.symm).1
  constructor
  · have hkey := congrArg (List.take keyPageBytes) htake
    rw [List.take_take, Nat.min_eq_left (Nat.le_add_right _ _), ← hklen, List.take_left] at hkey
    rw [hraw, keyBytes, ← hklen]
    exact hkey
  · rw [hraw, valueBytes, htake, ← hklen, List.drop_left]

end KeepsWrites

theorem of_decodePair_eq_ok {dtype : DType} {shape : List Nat} {kRaw vRaw : Bytes}
    {kv : NDArray × NDArray} (h : decodePair dtype shape kRaw vRaw = .ok kv) :
    NDArray.decode kRaw dtype shape = .ok kv.1 ∧ NDArray.decode vRaw dtype shape = .ok kv.2 := by
  unfold decodePair at h
  cases hk : NDArray.decode kRaw dtype shape with
  | error err =>
      rw [hk] at h
      cases h
  | ok k =>
      rw [hk] at h
      cases hv : NDArray.decode vRaw dtype shape with
      | error err =>
          rw [hv] at h
          cases h
      | ok v =>
          rw [hv] at h
          cases h
          exact ⟨rfl, rfl⟩

/-- `read_block` gives back given pages exactly when these are the pages of the last write
with the block id, it asks for as many bytes as they have, and its shape takes a page. -/
theorem KeepsWrites.readBlock_data_iff {last : Nat → Option (Payload × Payload)}
    {s : RealInferencePrefetchAdapter FileStorageBackend} (h : KeepsWrites A cfg last s)
    {blockId : Nat} {k v k' v' : Payload} (hlast : last blockId = some (k', v'))
    (hk : (storedBytes A cfg k).map List.length = .ok keyPageBytes)
    (hv : (storedBytes A cfg v).map List.length = .ok valuePageBytes) (l head t : Nat) :
    (∃ kv, (readBlock fileStorage cfg s l blockId head t).1 = .returns (.ok kv) ∧
        storedBytes A cfg k = .ok kv.1.data ∧ storedBytes A cfg v = .ok kv.2.data) ↔
      keyPageBytes + valuePageBytes ≤ cfg.bytesPerBlock ∧
        cfg.defaultShape.prod * cfg.npDtype.itemsize = keyPageBytes ∧
        storedBytes A cfg k' = storedBytes A cfg k ∧ storedBytes A cfg v' = storedBytes A cfg v := by
  obtain ⟨kRaw, hkRaw, hklen⟩ := of_map_length_eq_ok hk
  obtain ⟨vRaw, hvRaw, hvlen⟩ := of_map_length_eq_ok hv
  obtain ⟨kOld, vOld, hkOld, hkOldLen, hvOld, hvOldLen, hfile⟩ := h.holds blockId k' v' hlast
  rw [h.readBlock_returns, hkRaw, hvRaw, hkOld, hvOld]
  simp only [Outcome.returns.injEq, Except.ok.injEq]
  constructor
  · rintro ⟨kv, hdecode, hkData, hvData⟩
    obtain ⟨hkDecode, hvDecode⟩ := of_decodePair_eq_ok hdecode
    obtain ⟨hkType, hkShape, hkBytes⟩ := NDArray.of_decode_eq_ok hkDecode
    obtain ⟨-, -, hvBytes⟩ := NDArray.of_decode_eq_ok hvDecode
    have hvFull : (valueBytes (blockRaw cfg s blockId)).length = valuePageBytes := by
      rw [← hvBytes, ← hvData, hvlen]
    have hlong : keyPageBytes + valuePageBytes ≤ cfg.bytesPerBlock := by
      have hle := @KeepsWrites.length_blockRaw_le cfg s blockId
      have hpos : 0 < valuePageBytes := by decide
      rw [valueBytes, List.length_drop, List.length_take] at hvFull
      omega
    obtain ⟨hkHalf, hvHalf⟩ := KeepsWrites.halves_blockRaw hkOldLen hfile hlong
    refine ⟨hlong, ?_, ?_, ?_⟩
    · rw [← hkShape, ← hkType, ← kv.1.size_eq, ← hkData, hklen]
    · rw [hkData, hkBytes, hkHalf]
    · rw [hvData, hvBytes, hvHalf]
  · rintro ⟨hlong, hshape, rfl, rfl⟩
    obtain ⟨hkHalf, hvHalf⟩ := KeepsWrites.halves_blockRaw hkOldLen hfile hlong
    obtain ⟨kArr, hkArr, hkData⟩ := NDArray.decode_ok (hklen.trans hshape.symm)
    obtain ⟨vArr, hvArr, hvData⟩ := NDArray.decode_ok
      ((hvlen.trans (rfl : valuePageBytes = keyPageBytes)).trans hshape.symm)
    refine ⟨(kArr, vArr), ?_, hkData.symm, hvData.symm⟩
    rw [hkHalf, hvHalf]
    simp only [decodePair, hkArr, hvArr]

/-! ## Every written block -/

theorem isSome_recordWrites {calls : List Call} {last : Nat → Option (Payload × Payload)}
    {blockId : Nat} (h : (last blockId).isSome) : (calls.foldl recordWrite last blockId).isSome := by
  induction calls generalizing last with
  | nil => exact h
  | cons c calls ih =>
      apply ih
      cases c with
      | writeBlock l b k v head t =>
          by_cases hb : blockId = b
          · simp [recordWrite, hb]
          · simpa [recordWrite, hb] using h
      | _ => exact h

theorem exists_lastWrite {calls : List Call} {l blockId : Nat} {k v : Payload} {head t : Nat}
    (hmem : .writeBlock l blockId k v head t ∈ calls) :
    ∃ k' v', lastWrite calls blockId = some (k', v') := by
  have hsome : (lastWrite calls blockId).isSome := by
    obtain ⟨before, after, rfl⟩ := List.append_of_mem hmem
    unfold lastWrite
    rw [List.foldl_append, List.foldl_cons]
    apply isSome_recordWrites
    simp [recordWrite]
  obtain ⟨⟨k', v'⟩, hlast⟩ := Option.isSome_iff_exists.mp hsome
  exact ⟨k', v', hlast⟩

variable (A cfg) in
def afterCalls (b : FileStorageBackend) (calls : List Call) :
    RealInferencePrefetchAdapter FileStorageBackend :=
  ((Pipeline.machine fileStorage A cfg).exec (Pipeline.init cfg b) (calls.map .call)).adapter

theorem keepsWrites_afterCalls {b : FileStorageBackend}
    (hstride : keyPageBytes + valuePageBytes ≤ b.blockSize) {calls : List Call}
    (hcalls : ∀ c ∈ calls, c.Canonical A cfg) :
    KeepsWrites A cfg (lastWrite calls) (afterCalls A cfg b calls) :=
  KeepsWrites.run (p := Pipeline.init cfg b) (KeepsWrites.init hstride) rfl hcalls

theorem readKeyPage_written_iff {b : FileStorageBackend}
    (hstride : keyPageBytes + valuePageBytes ≤ b.blockSize) {calls : List Call}
    (hcalls : ∀ c ∈ calls, c.Canonical A cfg) {blockId : Nat} {k' v' : Payload}
    (hlast : lastWrite calls blockId = some (k', v')) (k : Payload) (l head t : Nat) :
    (∃ a, (readKeyPage fileStorage cfg (afterCalls A cfg b calls) l blockId head t).1 =
        .returns (.ok a) ∧ storedBytes A cfg k = .ok a.data) ↔
      storedBytes A cfg k' = storedBytes A cfg k := by
  obtain ⟨a, hread, hdata⟩ :=
    (keepsWrites_afterCalls hstride hcalls).readKeyPage_data hlast l head t
  rw [hread, hdata]
  constructor
  · rintro ⟨a', ⟨⟩, hk⟩
    exact hk.symm
  · intro hk
    exact ⟨a, rfl, hk.symm⟩

theorem readValuePage_written_iff {b : FileStorageBackend}
    (hstride : keyPageBytes + valuePageBytes ≤ b.blockSize) {calls : List Call}
    (hcalls : ∀ c ∈ calls, c.Canonical A cfg) {blockId : Nat} {k' v' : Payload}
    (hlast : lastWrite calls blockId = some (k', v')) (v : Payload) (l head t : Nat) :
    (∃ a, (readValuePage fileStorage cfg (afterCalls A cfg b calls) l blockId head t).1 =
        .returns (.ok a) ∧ storedBytes A cfg v = .ok a.data) ↔
      storedBytes A cfg v' = storedBytes A cfg v := by
  obtain ⟨a, hread, hdata⟩ :=
    (keepsWrites_afterCalls hstride hcalls).readValuePage_data hlast l head t
  rw [hread, hdata]
  constructor
  · rintro ⟨a', ⟨⟩, hv⟩
    exact hv.symm
  · intro hv
    exact ⟨a, rfl, hv.symm⟩

/-- After any run of writes of whole pages and of reads, a block that was written reads as
its own pages exactly when the last write with its block id, in whatever layer, had the same
bytes; `read_block` moreover asks for both pages and takes each as one array. -/
theorem reads_written_iff (A : Astype) (cfg : AdapterConfig) (b : FileStorageBackend)
    (hstride : keyPageBytes + valuePageBytes ≤ b.blockSize) (calls : List Call)
    (hcalls : ∀ c ∈ calls, c.Canonical A cfg) (l blockId : Nat) (k v : Payload)
    (headId tokenStart : Nat) (hmem : .writeBlock l blockId k v headId tokenStart ∈ calls)
    (head t : Nat) :
    ((∃ a, (readKeyPage fileStorage cfg (afterCalls A cfg b calls) l blockId head t).1 =
          .returns (.ok a) ∧ storedBytes A cfg k = .ok a.data) ↔
        ∃ w ∈ lastWrite calls blockId, storedBytes A cfg w.1 = storedBytes A cfg k) ∧
      ((∃ a, (readValuePage fileStorage cfg (afterCalls A cfg b calls) l blockId head t).1 =
          .returns (.ok a) ∧ storedBytes A cfg v = .ok a.data) ↔
        ∃ w ∈ lastWrite calls blockId, storedBytes A cfg w.2 = storedBytes A cfg v) ∧
      ((∃ kv, (readBlock fileStorage cfg (afterCalls A cfg b calls) l blockId head t).1 =
          .returns (.ok kv) ∧ storedBytes A cfg k = .ok kv.1.data ∧
          storedBytes A cfg v = .ok kv.2.data) ↔
        keyPageBytes + valuePageBytes ≤ cfg.bytesPerBlock ∧
          cfg.defaultShape.prod * cfg.npDtype.itemsize = keyPageBytes ∧
          ∃ w ∈ lastWrite calls blockId, storedBytes A cfg w.1 = storedBytes A cfg k ∧
            storedBytes A cfg w.2 = storedBytes A cfg v) := by
  obtain ⟨k', v', hlast⟩ := exists_lastWrite hmem
  obtain ⟨hk, hv⟩ := hcalls _ hmem
  simp only [hlast, Option.mem_some_iff, exists_eq_left']
  exact ⟨readKeyPage_written_iff hstride hcalls hlast k l head t,
    readValuePage_written_iff hstride hcalls hlast v l head t,
    (keepsWrites_afterCalls hstride hcalls).readBlock_data_iff hlast hk hv l head t⟩

/-! ## Two layers with one block id -/

/-- The defaults in `int8`, whose pages hold one block. -/
def pageConfig : AdapterConfig where
  bufferCapacityBlocks := 64
  bytesPerBlock := 8192
  tokensPerBlock := 16
  kvHeadsPerBlock := 2
  headDim := 128
  dtypeStr := "int8"
  numLayers := 24

def pageOf (x : UInt8) : Payload := .raw (List.replicate keyPageBytes x)

def layersWrites : List Call :=
  [.writeBlock 0 0 (pageOf 0) (pageOf 0) 0 0, .writeBlock 1 0 (pageOf 1) (pageOf 1) 0 0]

theorem storedBytes_pageOf (x : UInt8) :
    storedBytes floatNumerics.toAstype pageConfig (pageOf x) =
      .ok (List.replicate keyPageBytes x) := by
  obtain ⟨a, ha, hdata⟩ := @KeepsWrites.frombuffer_page pageConfig
    (List.replicate keyPageBytes x) List.length_replicate
  show (NDArray.frombuffer (List.replicate keyPageBytes x) pageConfig.npDtype).map NDArray.data = _
  rw [ha, Except.map, hdata]

theorem canonical_layersWrites :
    ∀ c ∈ layersWrites, c.Canonical floatNumerics.toAstype pageConfig := by
  have hpage : ∀ x, (storedBytes floatNumerics.toAstype pageConfig (pageOf x)).map List.length =
      .ok keyPageBytes := by
    intro x
    rw [storedBytes_pageOf, Except.map, List.length_replicate]
  intro c hc
  simp only [layersWrites, List.mem_cons, List.not_mem_nil, or_false] at hc
  rcases hc with rfl | rfl
  · exact ⟨hpage 0, hpage 0⟩
  · exact ⟨hpage 1, hpage 1⟩

/-- The block written last reads as its own pages. -/
theorem reads_written_iff_last :
    (∃ a, (readKeyPage fileStorage pageConfig
        (afterCalls floatNumerics.toAstype pageConfig (.create 8192) layersWrites) 1 0 0 0).1 =
          .returns (.ok a) ∧
        storedBytes floatNumerics.toAstype pageConfig (pageOf 1) = .ok a.data) :=
  (reads_written_iff floatNumerics.toAstype pageConfig (.create 8192) (Nat.le_refl _) layersWrites
    canonical_layersWrites 1 0 (pageOf 1) (pageOf 1) 0 0 (by simp [layersWrites]) 0 0).1.mpr
    ⟨(pageOf 1, pageOf 1), rfl, rfl⟩

/-- Block 0 of layer 0 reads as what was written to block 0 of layer 1. -/
theorem layers_share_a_block :
    (∀ c ∈ layersWrites, c.Canonical floatNumerics.toAstype pageConfig) ∧
      ¬ ∃ a, (readKeyPage fileStorage pageConfig
          (afterCalls floatNumerics.toAstype pageConfig (.create 8192) layersWrites) 0 0 0 0).1 =
            .returns (.ok a) ∧
          storedBytes floatNumerics.toAstype pageConfig (pageOf 0) = .ok a.data := by
  refine ⟨canonical_layersWrites, ?_⟩
  rw [@readKeyPage_written_iff floatNumerics.toAstype pageConfig (.create 8192) (Nat.le_refl _)
    layersWrites canonical_layersWrites 0 (pageOf 1) (pageOf 1) rfl (pageOf 0) 0 0 0]
  rw [storedBytes_pageOf, storedBytes_pageOf, Except.ok.injEq]
  intro hsame
  obtain ⟨-, hnone | hbyte⟩ := List.replicate_inj.mp hsame
  · cases hnone
  · exact absurd hbyte (by decide)

end AiSsd.Prefetch.Async
