import AiSsd.Storage.InferenceBackend
import Mathlib.Algebra.Field.Rat
import Mathlib.Algebra.Order.Ring.Rat
import Mathlib.Data.List.Induction

/-!
# Reads return the last write

The backing file only grows and every stored extent lies below its end, so a later
write, rewrite or eviction never touches one. An entry therefore keeps describing
the bytes of the last write to its block, and all six reads decode them alike.
-/

namespace AiSsd.Storage

open Lib Numpy

universe u

namespace RealInferenceStorageBackend

variable {cfg : BackendConfig} {s s' : RealInferenceStorageBackend cfg}

/-! ## Operations that leave the store alone -/

/-- Same table, same file: everything a read depends on. -/
structure SameStore (s s' : RealInferenceStorageBackend cfg) : Prop where
  storage_eq : s'.storage = s.storage
  file_eq : s'.file = s.file
  offset_eq : s'.fileOffset = s.fileOffset

theorem SameStore.refl (s : RealInferenceStorageBackend cfg) : SameStore s s := ⟨rfl, rfl, rfl⟩

theorem SameStore.trans {s'' : RealInferenceStorageBackend cfg} (h : SameStore s s')
    (h' : SameStore s' s'') : SameStore s s'' :=
  ⟨h'.storage_eq.trans h.storage_eq, h'.file_eq.trans h.file_eq, h'.offset_eq.trans h.offset_eq⟩

theorem sameStore_telemetry (t : BackendTelemetry cfg.channels) :
    SameStore s { s with telemetry := t } := ⟨rfl, rfl, rfl⟩

section Same

variable {ρ : Type} (kind : ReadKind)
  (fetch : ByteFile → Option (Entry cfg.channels) → Except PyErr (ρ × Nat))

theorem sameStore_readSingle (s : RealInferenceStorageBackend cfg) (l b h ts : Nat) :
    SameStore s (readSingle kind fetch s l b h ts).2 := by
  unfold readSingle
  split
  · exact SameStore.refl s
  · split
    · exact SameStore.refl s
    · exact sameStore_telemetry _

theorem sameStore_readEach
    {read : RealInferenceStorageBackend cfg → Nat → Except PyErr ρ × RealInferenceStorageBackend cfg}
    (hread : ∀ s b, SameStore s (read s b).2) (bids : List Nat) (results : Dict Nat ρ)
    (s : RealInferenceStorageBackend cfg) : SameStore s (readEach read bids results s).2 := by
  induction bids generalizing results s with
  | nil => exact SameStore.refl s
  | cons bid bids ih =>
      have hone := hread s bid
      unfold readEach
      revert hone
      rcases read s bid with ⟨_ | ret, s'⟩
      · intro hone
        exact hone
      · intro hone
        exact hone.trans (ih (results.set bid ret) s')

theorem sameStore_readBatch
    {single : RealInferenceStorageBackend cfg → (layerIdx blockId headId tokenStart : Nat) →
      Except PyErr ρ × RealInferenceStorageBackend cfg}
    (hsingle : ∀ s l b h ts, SameStore s (single s l b h ts).2)
    (s : RealInferenceStorageBackend cfg) (l : Nat) (bids : List Nat) (h ts : Nat) :
    SameStore s (readBatch kind fetch single s l bids h ts).2 := by
  unfold readBatch
  split
  · exact SameStore.refl s
  · split
    · exact sameStore_readEach (fun s b => hsingle s l b h ts) bids Dict.empty s
    · split <;> exact sameStore_telemetry _

end Same

theorem sameStore_readKeyPage (s : RealInferenceStorageBackend cfg) (l b h ts : Nat) :
    SameStore s (readKeyPage s l b h ts).2 := sameStore_readSingle _ _ s l b h ts

theorem sameStore_readValuePage (s : RealInferenceStorageBackend cfg) (l b h ts : Nat) :
    SameStore s (readValuePage s l b h ts).2 := sameStore_readSingle _ _ s l b h ts

theorem sameStore_readBlock (s : RealInferenceStorageBackend cfg) (l b h ts : Nat) :
    SameStore s (readBlock s l b h ts).2 := sameStore_readSingle _ _ s l b h ts

theorem sameStore_computeTopkFilter {α : Type u} [Field α] [LinearOrder α]
    (val : DType → Bytes → α) (kernel : Option (Kernel α)) (s : RealInferenceStorageBackend cfg)
    (l : Nat) (cands : List (Nat × Nat)) (query : List (List α)) (topK : Nat) (scale : α)
    (qHeads kvHeads headDim : Nat) :
    SameStore s
      (computeTopkFilter val kernel s l cands query topK scale qHeads kvHeads headDim).2 := by
  unfold computeTopkFilter
  split
  · exact SameStore.refl s
  · dsimp only
    split <;> exact sameStore_telemetry _

/-! ## Writing -/

def KnownMode (cfg : BackendConfig) : Prop := ∀ name, cfg.mappingMode ≠ .other name

theorem assignChannels_ok (hmode : KnownMode cfg) (l b h ts n : Nat) (offsets : List Nat)
    (t : BackendTelemetry cfg.channels) :
    ∃ chs t', assignChannels l b h ts n offsets t = (.ok chs, t') := by
  induction offsets generalizing t with
  | nil => exact ⟨[], t, rfl⟩
  | cons hOff rest ih =>
      obtain ⟨nand, hnand⟩ := cfg.mapper.tensorToNandPhysical_ok hmode
        (coordinate cfg l b (h + hOff) ts) (some t.channelCounters)
      obtain ⟨chs, t', hrest⟩ := ih (t.channelWrite nand.channel n)
      unfold assignChannels
      simp only [hnand, hrest]
      exact ⟨_, _, rfl⟩

/-- A stored block: where the bytes of its payloads are and how to read them back. -/
structure Extents (file : ByteFile) (e : Entry cfg.channels) (k v : Packed) : Prop where
  kSize_eq : e.kSize = k.bytes.length
  kShape_eq : e.kShape = k.shape
  kDtype_eq : e.kDtype = k.dtype
  vSize_eq : e.vSize = v.bytes.length
  vShape_eq : e.vShape = v.shape
  vDtype_eq : e.vDtype = v.dtype
  vOffset_eq : e.vOffset = e.kOffset + e.kSize
  inside : e.vOffset + e.vSize ≤ file.size
  kBytes : file.pread e.kSize e.kOffset = k.bytes
  vBytes : file.pread e.vSize e.vOffset = v.bytes

/-- A write past the extents of an entry leaves them as they are. -/
theorem Extents.pwrite {file : ByteFile} {e : Entry cfg.channels} {k v : Packed}
    (h : Extents file e k v) (data : Bytes) {offset : Nat} (hoff : file.size ≤ offset) :
    Extents (file.pwrite data offset) e k v := by
  have hin := h.inside
  have hv := h.vOffset_eq
  have hsize : file.size ≤ (file.pwrite data offset).size := by
    by_cases hd : data = []
    · rw [hd, ByteFile.pwrite_nil]
    · rw [ByteFile.size_pwrite file offset hd]
      omega
  exact
    { h with
      inside := Nat.le_trans hin hsize
      kBytes := by
        rw [ByteFile.pread_pwrite_below file data (by omega) (by omega)]
        exact h.kBytes
      vBytes := by
        rw [ByteFile.pread_pwrite_below file data (by omega) (by omega)]
        exact h.vBytes }

/-- A write in a known mode appends both payloads and binds their entry. -/
theorem writeBlock_payload (hmode : KnownMode cfg) (hend : s.fileOffset = s.file.size)
    (l b : Nat) (k v : Payload) (h ts : Nat) :
    ∃ e t, writeBlock s l b k v h ts =
        (.ok (),
          { storage := s.storage.set (l, b) e
            file := (s.file.pwrite (pack cfg k).bytes s.fileOffset).pwrite (pack cfg v).bytes
              (s.fileOffset + (pack cfg k).bytes.length)
            fileOffset := s.fileOffset + ((pack cfg k).bytes.length + (pack cfg v).bytes.length)
            telemetry := t }) ∧
      Extents ((s.file.pwrite (pack cfg k).bytes s.fileOffset).pwrite (pack cfg v).bytes
        (s.fileOffset + (pack cfg k).bytes.length)) e (pack cfg k) (pack cfg v) := by
  obtain ⟨chs, t, hchs⟩ := assignChannels_ok hmode l b h ts
    (((pack cfg k).bytes.length + (pack cfg v).bytes.length) / headsInBlock k)
    (List.range (headsInBlock k)) s.telemetry
  obtain ⟨addr, haddr⟩ := cfg.mapper.tensorToLba_ok hmode ⟨l, h, ts, 16, some b, 44⟩
  have hsize : (s.file.pwrite (pack cfg k).bytes s.fileOffset).size =
      s.fileOffset + (pack cfg k).bytes.length := by
    rw [hend]
    exact ByteFile.size_pwrite_end s.file (pack cfg k).bytes
  have hsize' : ((s.file.pwrite (pack cfg k).bytes s.fileOffset).pwrite (pack cfg v).bytes
      (s.fileOffset + (pack cfg k).bytes.length)).size =
      s.fileOffset + (pack cfg k).bytes.length + (pack cfg v).bytes.length := by
    rw [← hsize]
    exact ByteFile.size_pwrite_end _ (pack cfg v).bytes
  unfold writeBlock
  simp only [hchs, haddr]
  refine ⟨_, _, rfl, ?_⟩
  exact
    { kSize_eq := rfl
      kShape_eq := rfl
      kDtype_eq := rfl
      vSize_eq := rfl
      vShape_eq := rfl
      vDtype_eq := rfl
      vOffset_eq := rfl
      inside := Nat.le_of_eq hsize'.symm
      kBytes := by
        rw [ByteFile.pread_pwrite_below _ (pack cfg v).bytes (Nat.le_of_eq hsize.symm)
          (Nat.le_refl _), ByteFile.pread_pwrite_self]
      vBytes := ByteFile.pread_pwrite_self _ _ _ }

/-- A stored block of two arrays: where its bytes are and what they decode to. -/
structure EntryHolds (file : ByteFile) (e : Entry cfg.channels) (k v : NDArray) : Prop where
  kSize_eq : e.kSize = k.data.length
  kShape_eq : e.kShape = k.shape
  kDtype_eq : e.kDtype = k.dtype
  vSize_eq : e.vSize = v.data.length
  vShape_eq : e.vShape = v.shape
  vDtype_eq : e.vDtype = v.dtype
  vOffset_eq : e.vOffset = e.kOffset + e.kSize
  inside : e.vOffset + e.vSize ≤ file.size
  kData : file.pread e.kSize e.kOffset = k.data
  vData : file.pread e.vSize e.vOffset = v.data

theorem entryHolds_iff {file : ByteFile} {e : Entry cfg.channels} {k v : NDArray} :
    EntryHolds file e k v ↔
      Extents file e ⟨k.data, k.shape, k.dtype⟩ ⟨v.data, v.shape, v.dtype⟩ :=
  ⟨fun h => ⟨h.1, h.2, h.3, h.4, h.5, h.6, h.7, h.8, h.9, h.10⟩,
    fun h => ⟨h.1, h.2, h.3, h.4, h.5, h.6, h.7, h.8, h.9, h.10⟩⟩

/-- A write past the extent of an entry leaves the entry as it is. -/
theorem EntryHolds.pwrite {file : ByteFile} {e : Entry cfg.channels} {k v : NDArray}
    (h : EntryHolds file e k v) (data : Bytes) {offset : Nat} (hoff : file.size ≤ offset) :
    EntryHolds (file.pwrite data offset) e k v :=
  entryHolds_iff.mpr ((entryHolds_iff.mp h).pwrite data hoff)

theorem writeBlock_ok (hmode : KnownMode cfg) (hend : s.fileOffset = s.file.size)
    (l b : Nat) (k v : NDArray) (h ts : Nat) :
    ∃ e t, writeBlock s l b (.array k) (.array v) h ts =
        (.ok (),
          { storage := s.storage.set (l, b) e
            file := (s.file.pwrite k.data s.fileOffset).pwrite v.data
              (s.fileOffset + k.data.length)
            fileOffset := s.fileOffset + (k.data.length + v.data.length)
            telemetry := t }) ∧
      EntryHolds ((s.file.pwrite k.data s.fileOffset).pwrite v.data
        (s.fileOffset + k.data.length)) e k.ascontiguousarray v.ascontiguousarray := by
  have hk : (pack cfg (.array k)).bytes = k.data := NDArray.data_ascontiguousarray k
  have hv : (pack cfg (.array v)).bytes = v.data := NDArray.data_ascontiguousarray v
  obtain ⟨e, t, hwrite, hextents⟩ := writeBlock_payload hmode hend l b (.array k) (.array v) h ts
  rw [hk, hv] at hwrite hextents
  exact ⟨e, t, hwrite, entryHolds_iff.mpr hextents⟩

theorem sameStore_writeBlock (hmode : ¬ KnownMode cfg) (l b : Nat) (k v : Payload) (h ts : Nat) :
    SameStore s (writeBlock s l b k v h ts).2 := by
  obtain ⟨name, hname⟩ : ∃ name, cfg.mappingMode = .other name := by
    simpa [KnownMode] using hmode
  unfold writeBlock
  dsimp only
  split
  · exact sameStore_telemetry _
  · rw [hname]
    exact sameStore_telemetry _

/-! ## What the reads decode -/

section Fetch

variable {file : ByteFile} {e : Entry cfg.channels} {k v : NDArray}

theorem fetchKey_some (h : EntryHolds file e k v) : fetchKey file (some e) = .ok (k, e.kSize) := by
  have hdec : NDArray.decode (file.pread e.kSize e.kOffset) e.kDtype e.kShape = .ok k := by
    rw [h.kData, h.kDtype_eq, h.kShape_eq, NDArray.decode_data]
  simp only [fetchKey, hdec]

theorem fetchValue_some (h : EntryHolds file e k v) :
    fetchValue file (some e) = .ok (v, e.vSize) := by
  have hdec : NDArray.decode (file.pread e.vSize e.vOffset) e.vDtype e.vShape = .ok v := by
    rw [h.vData, h.vDtype_eq, h.vShape_eq, NDArray.decode_data]
  simp only [fetchValue, hdec]

theorem decodeBlock_ok (h : EntryHolds file e k v) :
    decodeBlock e k.data v.data = .ok ((k, v), e.kSize + e.vSize) := by
  have hk := NDArray.decode_data k
  have hv := NDArray.decode_data v
  rw [← h.kDtype_eq, ← h.kShape_eq] at hk
  rw [← h.vDtype_eq, ← h.vShape_eq] at hv
  simp only [decodeBlock, hk, hv]

theorem fetchBlock_some (h : EntryHolds file e k v) :
    fetchBlock file (some e) = .ok ((k, v), e.kSize + e.vSize) := by
  rw [fetchBlock, h.kData, h.vData]
  exact decodeBlock_ok h

/-- One read over both pages splits where the two reads meet. -/
theorem fetchBlockSpan_eq_fetchBlock (hv : e.vOffset = e.kOffset + e.kSize) :
    fetchBlockSpan file (some e) = fetchBlock file (some e) := by
  have hfirst := ByteFile.pread_take file e.kOffset (Nat.le_add_right e.kSize e.vSize)
  have hall : (file.pread (e.kSize + e.vSize) e.kOffset).take (e.kSize + e.vSize) =
      file.pread (e.kSize + e.vSize) e.kOffset :=
    List.take_of_length_le (ByteFile.length_pread_le file _ _)
  have hrest := ByteFile.pread_drop file e.kSize e.vSize e.kOffset
  simp only [fetchBlockSpan, fetchBlock, hfirst, hall, hrest, hv]

theorem fetchBlockSpan_some (h : EntryHolds file e k v) :
    fetchBlockSpan file (some e) = .ok ((k, v), e.kSize + e.vSize) := by
  rw [fetchBlockSpan_eq_fetchBlock h.vOffset_eq]
  exact fetchBlock_some h

end Fetch

section Collect

variable {ρ : Type} {kind : ReadKind}
  {fetch : ByteFile → Option (Entry cfg.channels) → Except PyErr (ρ × Nat)}

theorem readSingle_ok (hmode : KnownMode cfg) {l b : Nat} {ret : ρ} {n : Nat}
    (hfetch : fetch s.file (s.storage.get? (l, b)) = .ok (ret, n)) (head ts : Nat) :
    (readSingle kind fetch s l b head ts).1 = .ok ret := by
  obtain ⟨nand, hnand⟩ := cfg.mapper.tensorToNandPhysical_ok hmode (coordinate cfg l b head ts) none
  simp only [readSingle, hnand, hfetch]

/-- A batch answers every listed block with what its fetch returns. -/
theorem batchLoop_ok {l : Nat} {bids : List Nat} {ret : Nat → ρ} {bytes : Nat → Nat}
    (hfetch : ∀ b ∈ bids, fetch s.file (s.storage.get? (l, b)) = .ok (ret b, bytes b))
    (results : Dict Nat ρ) (total : Nat) (t : BackendTelemetry cfg.channels) :
    ∃ out n t', batchLoop fetch s l bids results total t = (.ok (out, n), t') ∧
      ∀ b, out.get? b = if b ∈ bids then some (ret b) else results.get? b := by
  induction bids generalizing results total t with
  | nil => exact ⟨results, total, t, rfl, fun b => by simp⟩
  | cons bid bids ih =>
      obtain ⟨out, n, t', hloop, hout⟩ :=
        ih (fun b hb => hfetch b (List.mem_cons_of_mem bid hb)) (results.set bid (ret bid))
          (total + bytes bid)
          (t.channelRead (((s.storage.get? (l, bid)).map fun e => e.channel).getD cfg.channelZero)
            (bytes bid))
      refine ⟨out, n, t', ?_, ?_⟩
      · rw [batchLoop, hfetch bid List.mem_cons_self]
        exact hloop
      · intro b
        rw [hout b, Dict.get?_set_listed (f := fun b => some (ret b)) rfl]

theorem readEach_ok
    {read : RealInferenceStorageBackend cfg → Nat → Except PyErr ρ × RealInferenceStorageBackend cfg}
    (hsame : ∀ s b, SameStore s (read s b).2) {bids : List Nat} {ret : Nat → ρ}
    (hread : ∀ s', SameStore s s' → ∀ b ∈ bids, (read s' b).1 = .ok (ret b))
    {s' : RealInferenceStorageBackend cfg} (hs : SameStore s s') (results : Dict Nat ρ) :
    ∃ out, (readEach read bids results s').1 = .ok out ∧
      ∀ b, out.get? b = if b ∈ bids then some (ret b) else results.get? b := by
  induction bids generalizing results s' with
  | nil => exact ⟨results, rfl, fun b => by simp⟩
  | cons bid bids ih =>
      have hret := hread s' hs bid List.mem_cons_self
      have hone := hsame s' bid
      rw [readEach]
      revert hret hone
      rcases read s' bid with ⟨_ | ret', s''⟩
      · intro hret _
        cases hret
      · intro hret hone
        cases hret
        obtain ⟨out, hloop, hout⟩ :=
          ih (fun s' hs' b hb => hread s' hs' b (List.mem_cons_of_mem bid hb)) (hs.trans hone)
            (results.set bid (ret bid))
        refine ⟨out, hloop, ?_⟩
        intro b
        rw [hout b, Dict.get?_set_listed (f := fun b => some (ret b)) rfl]

/-- Batching on or off, a batch read answers every listed block with its value. -/
theorem readBatch_ok
    {single : RealInferenceStorageBackend cfg → (layerIdx blockId headId tokenStart : Nat) →
      Except PyErr ρ × RealInferenceStorageBackend cfg}
    (hsame : ∀ s l b h ts, SameStore s (single s l b h ts).2) {l : Nat} {bids : List Nat}
    (ret : Nat → ρ) {bytes : Nat → Nat} {head ts : Nat}
    (hfetch : ∀ b ∈ bids, fetch s.file (s.storage.get? (l, b)) = .ok (ret b, bytes b))
    (hsingle : ∀ s', SameStore s s' → ∀ b ∈ bids, (single s' l b head ts).1 = .ok (ret b)) :
    ∃ out, (readBatch kind fetch single s l bids head ts).1 = .ok out ∧
      ∀ b, out.get? b = if b ∈ bids then some (ret b) else none := by
  unfold readBatch
  by_cases hnil : bids = []
  · rw [if_pos hnil]
    exact ⟨Dict.empty, rfl, fun b => by simp [hnil]⟩
  · rw [if_neg hnil]
    split
    · obtain ⟨out, hout, hget⟩ := readEach_ok (fun s b => hsame s l b head ts) hsingle
        (SameStore.refl s) Dict.empty
      exact ⟨out, hout, hget⟩
    · obtain ⟨out, n, t', hloop, hget⟩ := batchLoop_ok hfetch Dict.empty 0 s.telemetry
      refine ⟨out, ?_, hget⟩
      simp only [hloop]

end Collect

/-! ## Runs -/

section Runs

variable {α : Type u}

inductive Op (α : Type u) where
  | write (layerIdx blockId : Nat) (k v : NDArray) (headId tokenStart : Nat)
  | evict (layerIdx blockId : Nat)
  | readKeyPage (layerIdx blockId headId tokenStart : Nat)
  | readValuePage (layerIdx blockId headId tokenStart : Nat)
  | readBlock (layerIdx blockId headId tokenStart : Nat)
  | readKeyPageBatch (layerIdx : Nat) (blockIds : List Nat) (headId tokenStart : Nat)
  | readValuePageBatch (layerIdx : Nat) (blockIds : List Nat) (headId tokenStart : Nat)
  | readBlockBatch (layerIdx : Nat) (blockIds : List Nat) (headId tokenStart : Nat)
  | computeTopkFilter (layerIdx : Nat) (candBids : List (Nat × Nat)) (query : List (List α))
      (topK : Nat) (scale : α) (qHeads kvHeads headDim : Nat)

inductive Answer (α : Type u) where
  | done
  | evicted (found : Bool)
  | page (a : NDArray)
  | block (kv : NDArray × NDArray)
  | pages (results : Dict Nat NDArray)
  | blocks (results : Dict Nat (NDArray × NDArray))
  | topk (results : List (α × Nat × Nat))

def Op.writes (key : Nat × Nat) : Op α → Option (NDArray × NDArray)
  | .write l b k v _ _ => if (l, b) = key then some (k, v) else none
  | _ => none

def Op.Reads : Op α → Prop
  | .write .. => False
  | .evict .. => False
  | _ => True

def lastWrite (ops : List (Op α)) (key : Nat × Nat) : Option (NDArray × NDArray) :=
  ops.reverse.findSome? (Op.writes key)

theorem lastWrite_concat (ops : List (Op α)) (op : Op α) (key : Nat × Nat) :
    lastWrite (ops ++ [op]) key = (op.writes key).or (lastWrite ops key) := by
  rw [lastWrite, List.reverse_append, List.findSome?_append]
  cases hw : op.writes key <;> simp [lastWrite, hw]

structure Current (s : RealInferenceStorageBackend cfg) (ops : List (Op α)) : Prop where
  atEnd : s.fileOffset = s.file.size
  known : ∀ key e, s.storage.get? key = some e → KnownMode cfg
  entries : ∀ key e, s.storage.get? key = some e → ∃ k v, lastWrite ops key = some (k, v) ∧
    EntryHolds s.file e k.ascontiguousarray v.ascontiguousarray

/-- Every entry describes the last payloads of its block, below the end of the file. -/
structure Describes (s : RealInferenceStorageBackend cfg)
    (last : Nat × Nat → Option (Payload × Payload)) : Prop where
  atEnd : s.fileOffset = s.file.size
  known : ∀ key e, s.storage.get? key = some e → KnownMode cfg
  entries : ∀ key e, s.storage.get? key = some e → ∃ k v, last key = some (k, v) ∧
    Extents s.file e (pack cfg k) (pack cfg v)

section Describes

variable {last : Nat × Nat → Option (Payload × Payload)}

theorem describes_init (last : Nat × Nat → Option (Payload × Payload)) :
    Describes (init : RealInferenceStorageBackend cfg) last where
  atEnd := rfl
  known := by simp [init]
  entries := by simp [init]

theorem Describes.of_same (h : Describes s last) (hsame : SameStore s s') : Describes s' last where
  atEnd := by rw [hsame.offset_eq, hsame.file_eq, h.atEnd]
  known := by
    rw [hsame.storage_eq]
    exact h.known
  entries := by
    rw [hsame.storage_eq, hsame.file_eq]
    exact h.entries

/-- A write is appended; the other entries lie below it. -/
theorem Describes.write (h : Describes s last) (l b : Nat) (k v : Payload) (head ts : Nat) :
    Describes (writeBlock s l b k v head ts).2
      fun key => if (l, b) = key then some (k, v) else last key := by
  by_cases hmode : KnownMode cfg
  · obtain ⟨e, t, hwrite, hextents⟩ := writeBlock_payload hmode h.atEnd l b k v head ts
    rw [hwrite]
    have hend : (s.file.pwrite (pack cfg k).bytes s.fileOffset).size =
        s.fileOffset + (pack cfg k).bytes.length := by
      rw [h.atEnd]
      exact ByteFile.size_pwrite_end s.file _
    refine ⟨?_, fun _ _ _ => hmode, ?_⟩
    · show s.fileOffset + (_ + _) = ByteFile.size _
      rw [← hend, ByteFile.size_pwrite_end, hend, Nat.add_assoc]
    · intro key e' he'
      rw [Dict.get?_set] at he'
      by_cases hkey : (l, b) = key
      · rw [if_pos hkey, Option.some.injEq] at he'
        subst he'
        exact ⟨k, v, if_pos hkey, hextents⟩
      · rw [if_neg hkey] at he'
        obtain ⟨k', v', hlast, hold⟩ := h.entries key e' he'
        refine ⟨k', v', (if_neg hkey).trans hlast, ?_⟩
        exact (hold.pwrite _ (Nat.le_of_eq h.atEnd.symm)).pwrite _ (Nat.le_of_eq hend)
  · -- nothing can be stored in an unknown mode, before or after
    have hsame := h.of_same (sameStore_writeBlock hmode l b k v head ts)
    exact ⟨hsame.atEnd, hsame.known, fun key e he => absurd (hsame.known key e he) hmode⟩

theorem Describes.evict (h : Describes s last) (l b : Nat) :
    Describes (evictBlock s l b).2 last := by
  have hkept : ∀ key e, (s.storage.erase (l, b)).get? key = some e →
      s.storage.get? key = some e := by
    intro key e he
    rw [Dict.get?_erase] at he
    split at he
    · cases he
    · exact he
  unfold evictBlock
  split
  · exact ⟨h.atEnd, fun key e he => h.known key e (hkept key e he),
      fun key e he => h.entries key e (hkept key e he)⟩
  · exact h

end Describes

theorem current_iff {ops : List (Op α)} :
    Current s ops ↔
      Describes s fun key => (lastWrite ops key).map fun kv => (.array kv.1, .array kv.2) := by
  constructor
  · intro h
    refine ⟨h.atEnd, h.known, fun key e he => ?_⟩
    obtain ⟨k, v, hlast, hentry⟩ := h.entries key e he
    exact ⟨.array k, .array v, by rw [hlast]; rfl, entryHolds_iff.mp hentry⟩
  · intro h
    refine ⟨h.atEnd, h.known, fun key e he => ?_⟩
    obtain ⟨k, v, hlast, hextents⟩ := h.entries key e he
    obtain ⟨kv, hkv, hpair⟩ := Option.map_eq_some_iff.mp hlast
    cases hpair
    exact ⟨kv.1, kv.2, hkv, entryHolds_iff.mpr hextents⟩

theorem current_init : Current (init : RealInferenceStorageBackend cfg) ([] : List (Op α)) :=
  current_iff.mpr (describes_init _)

/-- An operation that writes nothing and keeps the store keeps what is current. -/
theorem Current.of_same {ops : List (Op α)} {op : Op α} (h : Current s ops)
    (hsame : SameStore s s') (hop : ∀ key, op.writes key = none) : Current s' (ops ++ [op]) := by
  have hkeeps := (current_iff.mp h).of_same hsame
  simpa [current_iff, lastWrite_concat, hop] using hkeeps

theorem current_write {ops : List (Op α)} (h : Current s ops) (l b : Nat) (k v : NDArray)
    (head ts : Nat) :
    Current (writeBlock s l b (.array k) (.array v) head ts).2
      (ops ++ [.write l b k v head ts]) := by
  have hlast : (fun key => (lastWrite (ops ++ [.write l b k v head ts]) key).map
      fun kv => (Payload.array kv.1, Payload.array kv.2)) = fun key =>
        if (l, b) = key then some (.array k, .array v)
        else (lastWrite ops key).map fun kv => (.array kv.1, .array kv.2) := by
    funext key
    rw [lastWrite_concat, Op.writes]
    split <;> rfl
  rw [current_iff, hlast]
  exact (current_iff.mp h).write l b (.array k) (.array v) head ts

theorem current_evict {ops : List (Op α)} (h : Current s ops) (l b : Nat) :
    Current (evictBlock s l b).2 (ops ++ [.evict l b]) := by
  have hkeeps := (current_iff.mp h).evict l b
  simpa [current_iff, lastWrite_concat, Op.writes] using hkeeps

/-! ## The six reads -/

/-- Every read of the block, alone or in any batch it is listed in, answers `k` and `v`. -/
structure ReadsBack (s : RealInferenceStorageBackend cfg) (l b : Nat) (k v : NDArray) : Prop where
  key : ∀ head ts, (readKeyPage s l b head ts).1 = .ok k
  value : ∀ head ts, (readValuePage s l b head ts).1 = .ok v
  block : ∀ head ts, (readBlock s l b head ts).1 = .ok (k, v)
  keyBatch : ∀ bids head ts, b ∈ bids →
    ∃ out, (readKeyPageBatch s l bids head ts).1 = .ok out ∧ out.get? b = some k
  valueBatch : ∀ bids head ts, b ∈ bids →
    ∃ out, (readValuePageBatch s l bids head ts).1 = .ok out ∧ out.get? b = some v
  blockBatch : ∀ bids head ts, b ∈ bids →
    ∃ out, (readBlockBatch s l bids head ts).1 = .ok out ∧ out.get? b = some (k, v)

/-- What the pages of a block, stored or missing, decode to. -/
theorem fetch_ok {ops : List (Op α)} (h : Current s ops) (l b : Nat) :
    ∃ k v nk nv n, fetchKey s.file (s.storage.get? (l, b)) = .ok (k, nk) ∧
      fetchValue s.file (s.storage.get? (l, b)) = .ok (v, nv) ∧
      fetchBlock s.file (s.storage.get? (l, b)) = .ok ((k, v), n) ∧
      fetchBlockSpan s.file (s.storage.get? (l, b)) = .ok ((k, v), n) := by
  cases he : s.storage.get? (l, b) with
  | none => exact ⟨_, _, _, _, _, rfl, rfl, rfl, rfl⟩
  | some e =>
      obtain ⟨k, v, _, hentry⟩ := h.entries (l, b) e he
      exact ⟨_, _, _, _, _, fetchKey_some hentry, fetchValue_some hentry, fetchBlock_some hentry,
        fetchBlockSpan_some hentry⟩

/-- What every read of a layer answers, stored blocks and missing ones alike. -/
structure ReadsAll (s : RealInferenceStorageBackend cfg) (l : Nat)
    (blk : Nat → NDArray × NDArray) : Prop where
  key : ∀ b head ts, (readKeyPage s l b head ts).1 = .ok (blk b).1
  value : ∀ b head ts, (readValuePage s l b head ts).1 = .ok (blk b).2
  block : ∀ b head ts, (readBlock s l b head ts).1 = .ok (blk b)
  keyBatch : ∀ bids head ts, ∃ out, (readKeyPageBatch s l bids head ts).1 = .ok out ∧
    ∀ b, out.get? b = if b ∈ bids then some (blk b).1 else none
  valueBatch : ∀ bids head ts, ∃ out, (readValuePageBatch s l bids head ts).1 = .ok out ∧
    ∀ b, out.get? b = if b ∈ bids then some (blk b).2 else none
  blockBatch : ∀ bids head ts, ∃ out, (readBlockBatch s l bids head ts).1 = .ok out ∧
    ∀ b, out.get? b = if b ∈ bids then some (blk b) else none

/-- In a known mode all six paths of a current backend answer alike. -/
theorem readsAll_of_current {ops : List (Op α)} (h : Current s ops) (hmode : KnownMode cfg)
    (l : Nat) : ∃ blk, ReadsAll s l blk ∧
      ∀ b, ∃ n, fetchBlock s.file (s.storage.get? (l, b)) = .ok (blk b, n) := by
  choose kOf vOf nk nv nb hkey hvalue hblock hspan using fun b' => fetch_ok h l b'
  -- a state a read leaves behind fetches what `s` fetches
  have hkeys : ∀ s', SameStore s s' → ∀ b' head ts,
      (readKeyPage s' l b' head ts).1 = .ok (kOf b') := by
    intro s' hs b' head ts
    exact readSingle_ok hmode (by rw [hs.file_eq, hs.storage_eq]; exact hkey b') head ts
  have hvalues : ∀ s', SameStore s s' → ∀ b' head ts,
      (readValuePage s' l b' head ts).1 = .ok (vOf b') := by
    intro s' hs b' head ts
    exact readSingle_ok hmode (by rw [hs.file_eq, hs.storage_eq]; exact hvalue b') head ts
  have hblocks : ∀ s', SameStore s s' → ∀ b' head ts,
      (readBlock s' l b' head ts).1 = .ok (kOf b', vOf b') := by
    intro s' hs b' head ts
    exact readSingle_ok hmode (by rw [hs.file_eq, hs.storage_eq]; exact hblock b') head ts
  refine ⟨fun b => (kOf b, vOf b), ⟨hkeys s (SameStore.refl s), hvalues s (SameStore.refl s),
    hblocks s (SameStore.refl s), ?_, ?_, ?_⟩, fun b => ⟨nb b, hblock b⟩⟩
  · intro bids head ts
    exact readBatch_ok sameStore_readKeyPage kOf (fun b' _ => hkey b')
      (fun s' hs b' _ => hkeys s' hs b' head ts)
  · intro bids head ts
    exact readBatch_ok sameStore_readValuePage vOf (fun b' _ => hvalue b')
      (fun s' hs b' _ => hvalues s' hs b' head ts)
  · intro bids head ts
    exact readBatch_ok sameStore_readBlock (fun b' => (kOf b', vOf b')) (fun b' _ => hspan b')
      (fun s' hs b' _ => hblocks s' hs b' head ts)

/-- A block whose pages are known reads as them on all six paths. -/
theorem readsBack_of_current {ops : List (Op α)} (h : Current s ops) (hmode : KnownMode cfg)
    {l b : Nat} {k v : NDArray} {n : Nat}
    (hfetch : fetchBlock s.file (s.storage.get? (l, b)) = .ok ((k, v), n)) :
    ReadsBack s l b k v := by
  obtain ⟨blk, hall, hblk⟩ := readsAll_of_current h hmode l
  obtain ⟨n', hn'⟩ := hblk b
  have hpair : blk b = (k, v) := by
    have hsame := hn'.symm.trans hfetch
    rw [Except.ok.injEq, Prod.mk.injEq] at hsame
    exact hsame.1
  refine ⟨?_, ?_, ?_, ?_, ?_, ?_⟩
  · intro head ts
    rw [hall.key, hpair]
  · intro head ts
    rw [hall.value, hpair]
  · intro head ts
    rw [hall.block, hpair]
  · intro bids head ts hb
    obtain ⟨out, hout, hget⟩ := hall.keyBatch bids head ts
    exact ⟨out, hout, by rw [hget b, if_pos hb, hpair]⟩
  · intro bids head ts hb
    obtain ⟨out, hout, hget⟩ := hall.valueBatch bids head ts
    exact ⟨out, hout, by rw [hget b, if_pos hb, hpair]⟩
  · intro bids head ts hb
    obtain ⟨out, hout, hget⟩ := hall.blockBatch bids head ts
    exact ⟨out, hout, by rw [hget b, if_pos hb, hpair]⟩

/-- `read` is `written` with the same bytes and dtype. A zero-dimensional array comes
back with shape `(1,)`, every other with its own shape. -/
structure ReturnedAs (written read : NDArray) : Prop where
  dtype_eq : read.dtype = written.dtype
  data_eq : read.data = written.data
  shape_eq : read.shape = if written.shape = [] then [1] else written.shape

theorem returnedAs_ascontiguousarray (a : NDArray) : ReturnedAs a a.ascontiguousarray :=
  ⟨NDArray.dtype_ascontiguousarray a, NDArray.data_ascontiguousarray a,
    NDArray.shape_ascontiguousarray a⟩

/-! ## The backend as a machine -/

variable [Field α] [LinearOrder α] (cfg) (val : DType → Bytes → α) (kernel : Option (Kernel α))

def step (s : RealInferenceStorageBackend cfg) :
    Op α → Except PyErr (Answer α) × RealInferenceStorageBackend cfg
  | .write l b k v h ts =>
      let r := writeBlock s l b (.array k) (.array v) h ts
      (r.1.map fun _ => .done, r.2)
  | .evict l b => let r := evictBlock s l b; (.ok (.evicted r.1), r.2)
  | .readKeyPage l b h ts => let r := readKeyPage s l b h ts; (r.1.map .page, r.2)
  | .readValuePage l b h ts => let r := readValuePage s l b h ts; (r.1.map .page, r.2)
  | .readBlock l b h ts => let r := readBlock s l b h ts; (r.1.map .block, r.2)
  | .readKeyPageBatch l bs h ts => let r := readKeyPageBatch s l bs h ts; (r.1.map .pages, r.2)
  | .readValuePageBatch l bs h ts =>
      let r := readValuePageBatch s l bs h ts
      (r.1.map .pages, r.2)
  | .readBlockBatch l bs h ts => let r := readBlockBatch s l bs h ts; (r.1.map .blocks, r.2)
  | .computeTopkFilter l cands query topK scale qHeads kvHeads headDim =>
      let r := computeTopkFilter val kernel s l cands query topK scale qHeads kvHeads headDim
      (r.1.map .topk, r.2)

def machine : Machine (RealInferenceStorageBackend cfg) (Op α) (Except PyErr (Answer α)) where
  step := step cfg val kernel

variable {cfg} {val} {kernel}

/-- An operation that neither writes nor evicts keeps the store. -/
theorem sameStore_step {op : Op α} (hop : op.Reads) :
    SameStore s (step cfg val kernel s op).2 := by
  cases op with
  | write l b k v head ts => exact hop.elim
  | evict l b => exact hop.elim
  | readKeyPage l b head ts => exact sameStore_readKeyPage s l b head ts
  | readValuePage l b head ts => exact sameStore_readValuePage s l b head ts
  | readBlock l b head ts => exact sameStore_readBlock s l b head ts
  | readKeyPageBatch l bs head ts =>
      exact sameStore_readBatch _ _ sameStore_readKeyPage s l bs head ts
  | readValuePageBatch l bs head ts =>
      exact sameStore_readBatch _ _ sameStore_readValuePage s l bs head ts
  | readBlockBatch l bs head ts =>
      exact sameStore_readBatch _ _ sameStore_readBlock s l bs head ts
  | computeTopkFilter l cands query topK scale qHeads kvHeads headDim =>
      exact sameStore_computeTopkFilter val kernel s l cands query topK scale qHeads kvHeads headDim

theorem current_step {ops : List (Op α)} (h : Current s ops) (op : Op α) :
    Current (step cfg val kernel s op).2 (ops ++ [op]) := by
  cases op with
  | write l b k v head ts => exact current_write h l b k v head ts
  | evict l b => exact current_evict h l b
  | _ => exact h.of_same (sameStore_step trivial) fun _ => rfl

theorem current_run (ops : List (Op α)) :
    Current ((machine cfg val kernel).exec init ops) ops := by
  induction ops using List.reverseRecOn with
  | nil => exact current_init
  | append_singleton ops op ih =>
      rw [Machine.exec_concat]
      exact current_step ih op

/-- After any run, every stored block reads as the payload of its last write, on all
six paths, whatever else was written, rewritten, read, scored or evicted. -/
theorem stored_block_reads_last_write (val : DType → Bytes → α) (kernel : Option (Kernel α))
    (ops : List (Op α)) (l b : Nat)
    (hstored : containsBlock ((machine cfg val kernel).exec init ops) l b = true) :
    ∃ k v k' v', lastWrite ops (l, b) = some (k, v) ∧ ReturnedAs k k' ∧ ReturnedAs v v' ∧
      ReadsBack ((machine cfg val kernel).exec init ops) l b k' v' := by
  have h : Current ((machine cfg val kernel).exec init ops) ops := current_run ops
  generalize (machine cfg val kernel).exec init ops = s at h hstored ⊢
  obtain ⟨e, he⟩ := Option.isSome_iff_exists.mp hstored
  obtain ⟨k, v, hlast, hentry⟩ := h.entries (l, b) e he
  refine ⟨k, v, k.ascontiguousarray, v.ascontiguousarray, hlast, returnedAs_ascontiguousarray k,
    returnedAs_ascontiguousarray v, ?_⟩
  refine readsBack_of_current h (h.known (l, b) e he) (n := e.kSize + e.vSize) ?_
  rw [he]
  exact fetchBlock_some hentry

end Runs

/-! ## Two runs -/

def tinyConfig : BackendConfig where
  channels := 1
  diesPerChannel := 1
  planesPerDie := 1
  pagesPerBlock := 1
  blocksPerPlane := 1
  numLayers := 1
  numHeads := 1
  tokensPerBlock := 1
  headDim := 1
  mappingMode := .tensorAware
  enableBatching := true
  channels_pos := Nat.one_pos
  dies_pos := Nat.one_pos
  planes_pos := Nat.one_pos
  pages_pos := Nat.one_pos
  blocks_pos := Nat.one_pos

def oneFloat (byte : UInt8) : NDArray := ⟨float32, [1, 1, 1], [byte, 0, 0, 0], rfl⟩

def zeroDim : NDArray := ⟨float32, [], [7, 0, 0, 0], rfl⟩

/-- A block rewritten and another evicted in between still reads as its last write. -/
theorem stored_block_reads_last_write_rewritten :
    ∃ k v k' v', lastWrite (α := ℚ)
        [.write 0 3 (oneFloat 1) (oneFloat 2) 0 0, .write 0 4 (oneFloat 5) (oneFloat 6) 0 0,
          .write 0 3 (oneFloat 3) (oneFloat 4) 0 0, .evict 0 4] (0, 3) = some (k, v) ∧
      ReturnedAs k k' ∧ ReturnedAs v v' ∧
      ReadsBack ((machine tinyConfig (fun _ _ => (0 : ℚ)) none).exec init
        [.write 0 3 (oneFloat 1) (oneFloat 2) 0 0, .write 0 4 (oneFloat 5) (oneFloat 6) 0 0,
          .write 0 3 (oneFloat 3) (oneFloat 4) 0 0, .evict 0 4]) 0 3 k' v' :=
  stored_block_reads_last_write (fun _ _ => (0 : ℚ)) none _ 0 3 rfl

/-- A zero-dimensional payload reads back with shape `(1,)`, not with its own shape. -/
theorem zero_dim_payload_reads_back_one_dim :
    lastWrite (α := ℚ) [.write 0 0 zeroDim zeroDim 0 0] (0, 0) = some (zeroDim, zeroDim) ∧
      containsBlock ((machine tinyConfig (fun _ _ => (0 : ℚ)) none).exec init
        [.write 0 0 zeroDim zeroDim 0 0]) 0 0 = true ∧
      (readKeyPage ((machine tinyConfig (fun _ _ => (0 : ℚ)) none).exec init
        [.write 0 0 zeroDim zeroDim 0 0]) 0 0 0 0).1 = .ok zeroDim.ascontiguousarray ∧
      zeroDim.ascontiguousarray.shape ≠ zeroDim.shape := by
  refine ⟨rfl, rfl, rfl, by decide⟩

end RealInferenceStorageBackend

end AiSsd.Storage
