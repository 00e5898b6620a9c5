import AiSsd.Lib.Simulation
import AiSsd.Prefetch.StorageBackend

/-!
# The file backend against the mock

Both keep blocks of bytes, the mock each one by itself and the file one behind the other. As long
as no request runs over the end of its block, a new file serves every run of batches as the mock
does, with zeros for what was never written. A write that runs over rewrites the next blocks of
the file, and extends one block of the mock.
-/

namespace AiSsd.Prefetch.V2

open Lib

def StorageRequest.transfer (req : StorageRequest) : Nat :=
  if req.isWrite then (req.payload.getD []).length else req.length

theorem StorageRequest.transfer_write {req : StorageRequest} (h : req.isWrite = true) :
    req.transfer = (req.payload.getD []).length := by
  simp [transfer, h]

theorem StorageRequest.transfer_read {req : StorageRequest} (h : req.isWrite = false) :
    req.transfer = req.length := by
  simp [transfer, h]

namespace StorageBackend

variable {γ γ' : Type} (B : StorageBackend γ)

def batches : Machine γ (List StorageRequest) (Except PyErr (List StorageResult)) :=
  ⟨B.submitBatch⟩

variable {B} {B' : StorageBackend γ'} {R : γ → γ' → Prop}
  {A : StorageResult → StorageResult → Prop}

/-- Requests served alike make batches served alike. -/
theorem submitBatch_same {reqs : List StorageRequest}
    (hserve : ∀ req ∈ reqs, ∀ s t, R s t →
      BothReturn A (B.serve s req).1 (B'.serve t req).1 ∧ R (B.serve s req).2 (B'.serve t req).2)
    {s : γ} {t : γ'} (h : R s t) :
    BothReturn (List.Forall₂ A) (B.submitBatch s reqs).1 (B'.submitBatch t reqs).1 ∧
      R (B.submitBatch s reqs).2 (B'.submitBatch t reqs).2 := by
  induction reqs generalizing s t with
  | nil => exact ⟨.ok .nil, h⟩
  | cons req reqs ih =>
      rw [List.forall_mem_cons] at hserve
      obtain ⟨hanswer, hnext⟩ := hserve.1 s t h
      have hrest := ih hserve.2 hnext
      unfold submitBatch
      revert hanswer hrest
      rcases B.serve s req with ⟨r, s₁⟩
      rcases B'.serve t req with ⟨r', t₁⟩
      rintro ⟨hres⟩
      dsimp only
      rcases B.submitBatch s₁ reqs with ⟨rs, s₂⟩
      rcases B'.submitBatch t₁ reqs with ⟨rs', t₂⟩
      rintro ⟨⟨hresults⟩, hend⟩
      exact ⟨.ok (.cons hres hresults), hend⟩

end StorageBackend

/-- Both served, with the same bytes up to the end of the shorter answer and zeros from there on. -/
structure SameAnswer (res res' : StorageResult) : Prop where
  blockId : res.blockId = res'.blockId
  isWrite : res.isWrite = res'.isWrite
  served : res.success = true ∧ res'.success = true
  errorMsg : res.errorMsg = none ∧ res'.errorMsg = none
  length_le : res.length ≤ res'.length
  length_write : res.isWrite = true → res.length = res'.length
  hasData : res.data.isSome = res'.data.isSome
  data : ∀ i, byteAt (res.data.getD []) i = byteAt (res'.data.getD []) i

namespace MockStorageBackend

/-- The bytes of a block, none before its first write. -/
def block (t : MockStorageBackend) (blockId : Int) : Bytes := (t.store.get? blockId).getD []

theorem byteAt_patched (t : MockStorageBackend) (req : StorageRequest) (data : Bytes) (i : Nat) :
    byteAt (t.patched req data) i =
      if req.offset ≤ i ∧ i < req.offset + data.length then byteAt data (i - req.offset)
      else byteAt (t.block req.blockId) i := by
  have hfresh : ∀ i, byteAt ((t.store.get? req.blockId).getD
      (List.replicate (max 4096 (req.offset + data.length)) 0)) i =
        byteAt (t.block req.blockId) i := by
    intro i
    rw [block]
    cases t.store.get? req.blockId with
    | none => exact byteAt_zeros _ i
    | some buf => rfl
  unfold patched
  dsimp only
  rw [byteAt_splice _ _ (by simp only [List.length_append, List.length_replicate]; omega),
    byteAt_append_zeros, hfresh]
  by_cases hbelow : i < req.offset
  · rw [if_pos hbelow, if_neg (by omega)]
  · rw [if_neg hbelow]
    by_cases hinside : i < req.offset + data.length
    · rw [if_pos hinside, if_pos ⟨by omega, hinside⟩]
    · rw [if_neg hinside, if_neg (by omega)]

variable {t : MockStorageBackend} {req : StorageRequest}

theorem block_write (h : t.failBlockId ≠ some req.blockId) (blockId : Int) :
    (t.write req).2.block blockId =
      if req.blockId = blockId then t.patched req (req.payload.getD []) else t.block blockId := by
  unfold write
  rw [if_neg h]
  simp only [block, Dict.get?_set]
  split
  · rfl
  · rfl

theorem read_served (h : t.failBlockId ≠ some req.blockId) :
    ∃ data, (t.read req).1 =
        { blockId := req.blockId
          length := req.length
          latencyUs := t.readLatencyUs
          data := some data } ∧
      (∀ i, byteAt data i =
        if i < req.length then byteAt (t.block req.blockId) (req.offset + i) else 0) ∧
      (t.read req).2 =
        { t with
          totalReads := t.totalReads + 1
          bytesRead := t.bytesRead + req.length
          totalLatencyUs := t.totalLatencyUs + t.readLatencyUs } := by
  unfold read
  rw [if_neg h]
  refine ⟨_, rfl, ?_, rfl⟩
  intro i
  rw [block]
  cases t.store.get? req.blockId with
  | none => simp
  | some buf => rw [byteAt_take, byteAt_drop]; rfl

end MockStorageBackend

/-! ## One store -/

/-- A request that both serve: the mock does not fail its block, and the file system does not
refuse its transfer. -/
structure Served (fs : FileSystem) (blockSize : Nat) (failBlockId : Option Int)
    (req : StorageRequest) : Prop where
  block : 0 ≤ req.blockId
  notFailed : failBlockId ≠ some req.blockId
  notRefused : fs.refusal req.isWrite (req.blockId * blockSize + req.offset) req.transfer = none

structure Inside (fs : FileSystem) (blockSize : Nat) (failBlockId : Option Int)
    (req : StorageRequest) : Prop extends Served fs blockSize failBlockId req where
  fits : req.offset + req.transfer ≤ blockSize

/-- The same bytes in every block, zero where nothing was written, and the same counts. A file
ends with its last byte, so that reads of it bring no more than the mock counts. -/
structure SameStore (blockSize : Nat) (failBlockId : Option Int) (s : FileStorageBackend)
    (t : MockStorageBackend) : Prop where
  blockSize_eq : s.blockSize = blockSize
  failBlockId_eq : t.failBlockId = failBlockId
  bytes : ∀ b i : Nat, i < blockSize →
    byteAt s.file.bytes (b * blockSize + i) = byteAt (t.block b) i
  totalReads_eq : s.totalReads = t.totalReads
  totalWrites_eq : s.totalWrites = t.totalWrites
  bytesRead_le : s.bytesRead ≤ t.bytesRead
  bytesWritten_eq : s.bytesWritten = t.bytesWritten

variable {fs : FileSystem} {blockSize : Nat} {failBlockId : Option Int} {s : FileStorageBackend}
  {t : MockStorageBackend} {req : StorageRequest}

/-- The block of a request by number, and where its transfer starts in the file. -/
theorem Served.exists_position (h : Served fs blockSize failBlockId req) :
    ∃ b : Nat, req.blockId = b ∧
      req.blockId * blockSize + req.offset = ((b * blockSize + req.offset : Nat) : Int) := by
  obtain ⟨b, hb⟩ := Int.eq_ofNat_of_zero_le h.block
  refine ⟨b, hb, ?_⟩
  rw [hb]
  push_cast
  rfl

theorem Served.notRefused_write (h : Served fs blockSize failBlockId req)
    (hwrite : req.isWrite = true) :
    fs.refusal true (req.blockId * blockSize + req.offset) (req.payload.getD []).length = none := by
  rw [← hwrite, ← StorageRequest.transfer_write hwrite]
  exact h.notRefused

namespace SameStore

theorem notFailed (h : SameStore blockSize failBlockId s t)
    (hreq : Served fs blockSize failBlockId req) : t.failBlockId ≠ some req.blockId := by
  rw [h.failBlockId_eq]
  exact hreq.notFailed

theorem create (blockSize : Nat) (readLatencyUs writeLatencyUs : Rat)
    (failBlockId : Option Int) :
    SameStore blockSize failBlockId (FileStorageBackend.create blockSize ByteFile.empty)
      (MockStorageBackend.create readLatencyUs writeLatencyUs failBlockId) where
  blockSize_eq := rfl
  failBlockId_eq := rfl
  bytes := fun _ _ _ => rfl
  totalReads_eq := rfl
  totalWrites_eq := rfl
  bytesRead_le := Nat.le_refl 0
  bytesWritten_eq := rfl

theorem read (h : SameStore blockSize failBlockId s t) (hreq : Inside fs blockSize failBlockId req)
    (hread : req.isWrite = false) :
    SameAnswer (s.read fs req).1 (t.read req).1 ∧
      SameStore blockSize failBlockId (s.read fs req).2 (t.read req).2 := by
  obtain ⟨b, hb, hpos⟩ := hreq.exists_position
  have hfits := hreq.fits
  have hrefuse := hreq.notRefused
  have hnotFailed := h.notFailed hreq.toServed
  obtain ⟨data, hres, hdata, ht⟩ := MockStorageBackend.read_served hnotFailed
  rw [StorageRequest.transfer_read hread] at hfits hrefuse
  rw [hread, hpos] at hrefuse
  have hlen := s.file.length_pread_le req.length (b * blockSize + req.offset)
  rw [hres, ht]
  simp only [FileStorageBackend.read, FileStorageBackend.blockOffset, h.blockSize_eq, hpos, hrefuse,
    Int.toNat_natCast]
  refine ⟨⟨rfl, rfl, ⟨rfl, rfl⟩, ⟨rfl, rfl⟩, hlen, nofun, rfl, ?_⟩,
    ⟨rfl, h.failBlockId_eq, h.bytes, ?_, h.totalWrites_eq, ?_, h.bytesWritten_eq⟩⟩
  · intro i
    simp only [Option.getD_some]
    rw [hdata, ByteFile.byteAt_pread]
    split
    · next hi =>
        rw [Nat.add_assoc, h.bytes b (req.offset + i) (by omega), hb]
    · rfl
  · exact congrArg (· + 1) h.totalReads_eq
  · exact Nat.add_le_add h.bytesRead_le hlen

/-- The bytes that run over the end of their block are the bytes that are there. -/
def OverrunsAlike (blockSize : Nat) (t : MockStorageBackend) (req : StorageRequest) : Prop :=
  ∀ j < (req.payload.getD []).length, blockSize ≤ req.offset + j →
    byteAt (req.payload.getD []) j =
      byteAt (t.block (req.blockId + ((req.offset + j) / blockSize : Nat)))
        ((req.offset + j) % blockSize)

theorem overrunsAlike_of_fits {req : StorageRequest}
    (h : req.offset + (req.payload.getD []).length ≤ blockSize) :
    OverrunsAlike blockSize t req := by
  intro j hj hover
  omega

def SameBytesAfter (fs : FileSystem) (blockSize : Nat) (s : FileStorageBackend)
    (t : MockStorageBackend) (req : StorageRequest) : Prop :=
  ∀ b i : Nat, i < blockSize →
    byteAt (s.write fs req).2.file.bytes (b * blockSize + i) = byteAt ((t.write req).2.block b) i

/-- The answers to a write, and what has to hold of the bytes for the stores to stay the same. -/
theorem write_answer (h : SameStore blockSize failBlockId s t)
    (hreq : Served fs blockSize failBlockId req) (hwrite : req.isWrite = true) :
    SameAnswer (s.write fs req).1 (t.write req).1 ∧
      (SameStore blockSize failBlockId (s.write fs req).2 (t.write req).2 ↔
        SameBytesAfter fs blockSize s t req) := by
  have hrefuse := hreq.notRefused_write hwrite
  have hnotFailed := h.notFailed hreq
  simp only [SameBytesAfter, FileStorageBackend.write, FileStorageBackend.blockOffset,
    h.blockSize_eq, hrefuse, MockStorageBackend.write, if_neg hnotFailed]
  refine ⟨⟨rfl, rfl, ⟨rfl, rfl⟩, ⟨rfl, rfl⟩, Nat.le_refl _, fun _ => rfl, rfl, fun _ => rfl⟩, ?_⟩
  constructor
  · exact fun hafter => hafter.bytes
  · intro hbytes
    exact ⟨rfl, h.failBlockId_eq, hbytes, h.totalReads_eq, congrArg (· + 1) h.totalWrites_eq,
      h.bytesRead_le, congrArg (· + (req.payload.getD []).length) h.bytesWritten_eq⟩

theorem file_write (h : SameStore blockSize failBlockId s t)
    (hreq : Served fs blockSize failBlockId req) (hwrite : req.isWrite = true) {b : Nat}
    (hb : req.blockId = b) :
    (s.write fs req).2.file =
      s.file.pwrite (req.payload.getD []) (b * blockSize + req.offset) := by
  have hrefuse := hreq.notRefused_write hwrite
  simp only [FileStorageBackend.write, FileStorageBackend.blockOffset, h.blockSize_eq, hrefuse]
  congr 1
  rw [hb]
  omega

theorem sameBytes_of_overrun (h : SameStore blockSize failBlockId s t)
    (hreq : Served fs blockSize failBlockId req) (hwrite : req.isWrite = true)
    (hover : OverrunsAlike blockSize t req) : SameBytesAfter fs blockSize s t req := by
  obtain ⟨b, hb⟩ := Int.eq_ofNat_of_zero_le hreq.block
  have hnotFailed := h.notFailed hreq
  intro b' i hi
  rw [h.file_write hreq hwrite hb, ByteFile.byteAt_pwrite,
    MockStorageBackend.block_write hnotFailed, hb]
  by_cases hsame : b = b'
  · subst hsame
    rw [if_pos rfl, MockStorageBackend.byteAt_patched, hb]
    by_cases hin : req.offset ≤ i ∧ i < req.offset + (req.payload.getD []).length
    · rw [if_pos hin, if_pos (by omega)]
      congr 1
      omega
    · rw [if_neg hin, if_neg (by omega)]
      exact h.bytes b i hi
  · rw [if_neg (fun heq => hsame (Int.natCast_inj.mp heq)), ← h.bytes b' i hi]
    split
    · next hin =>
        -- the write reaches a later block, and `j` is the byte of it that lands here
        obtain ⟨j, hj⟩ := Nat.exists_eq_add_of_le hin.1
        obtain ⟨hend, hblock, hplace⟩ := place_of_later hi hsame hj
        rw [hj, Nat.add_sub_cancel_left, hover j (by omega) hend, hplace, hb, ← Int.natCast_add,
          hblock, ← h.bytes b' i hi, hj]
    · rfl

theorem overrun_of_sameBytes (hpos : 0 < blockSize) (h : SameStore blockSize failBlockId s t)
    (hreq : Served fs blockSize failBlockId req) (hwrite : req.isWrite = true)
    (hsame : SameBytesAfter fs blockSize s t req) : OverrunsAlike blockSize t req := by
  obtain ⟨b, hb⟩ := Int.eq_ofNat_of_zero_le hreq.block
  have hnotFailed := h.notFailed hreq
  intro j hj hover
  have hplace : (b + (req.offset + j) / blockSize) * blockSize + (req.offset + j) % blockSize =
      b * blockSize + req.offset + j := by
    rw [Nat.add_mul, Nat.add_assoc, Nat.div_add_mod', Nat.add_assoc]
  have hlater : b ≠ b + (req.offset + j) / blockSize := by
    have := Nat.div_pos hover hpos
    omega
  have hbyte := hsame (b + (req.offset + j) / blockSize) _ (Nat.mod_lt (req.offset + j) hpos)
  rw [h.file_write hreq hwrite hb, MockStorageBackend.block_write hnotFailed, hb,
    if_neg (fun heq => hlater (Int.natCast_inj.mp heq)), ByteFile.byteAt_pwrite, hplace,
    if_pos (by omega), Nat.add_sub_cancel_left] at hbyte
  rw [hbyte, hb, Int.natCast_add]

theorem write (h : SameStore blockSize failBlockId s t) (hreq : Inside fs blockSize failBlockId req)
    (hwrite : req.isWrite = true) :
    SameAnswer (s.write fs req).1 (t.write req).1 ∧
      SameStore blockSize failBlockId (s.write fs req).2 (t.write req).2 := by
  obtain ⟨hanswer, hafter⟩ := h.write_answer hreq.toServed hwrite
  have hfits := hreq.fits
  rw [StorageRequest.transfer_write hwrite] at hfits
  have hbytes := h.sameBytes_of_overrun hreq.toServed hwrite (overrunsAlike_of_fits hfits)
  exact ⟨hanswer, hafter.mpr hbytes⟩

theorem serve (h : SameStore blockSize failBlockId s t)
    (hreq : Inside fs blockSize failBlockId req) :
    BothReturn SameAnswer ((fileStorage fs).serve s req).1 (mockStorage.serve t req).1 ∧
      SameStore blockSize failBlockId ((fileStorage fs).serve s req).2
        (mockStorage.serve t req).2 := by
  unfold StorageBackend.serve
  cases hkind : req.isWrite with
  | true =>
      obtain ⟨hanswer, hafter⟩ := h.write hreq hkind
      exact ⟨.ok hanswer, hafter⟩
  | false =>
      obtain ⟨hanswer, hafter⟩ := h.read hreq hkind
      exact ⟨.ok hanswer, hafter⟩

end SameStore

/-! ## Runs of batches -/

/-- A new file answers every run of batches whose requests stay in their blocks as the mock does:
each request is served, with the bytes that the mock has, and the same reads, writes and written
bytes are counted. -/
theorem file_answers_like_mock {fs : FileSystem} {blockSize : Nat} {failBlockId : Option Int}
    (readLatencyUs writeLatencyUs : Rat) {batches : List (List StorageRequest)}
    (h : ∀ reqs ∈ batches, ∀ req ∈ reqs, Inside fs blockSize failBlockId req) :
    let s := FileStorageBackend.create blockSize ByteFile.empty
    let t := MockStorageBackend.create readLatencyUs writeLatencyUs failBlockId
    List.Forall₂ (BothReturn (List.Forall₂ SameAnswer)) ((fileStorage fs).batches.trace s batches)
        (mockStorage.batches.trace t batches) ∧
      SameStore blockSize failBlockId ((fileStorage fs).batches.exec s batches)
        (mockStorage.batches.exec t batches) := by
  intro s t
  have hstart := SameStore.create blockSize readLatencyUs writeLatencyUs failBlockId
  have hstep : ∀ reqs ∈ batches, Simulates (SameStore blockSize failBlockId)
      (BothReturn (List.Forall₂ SameAnswer)) (fun _ => False)
      (fun s => (fileStorage fs).batches.step s reqs) fun t => mockStorage.batches.step t reqs := by
    intro reqs hreqs s t hst
    exact .inr (StorageBackend.submitBatch_same
      (fun req hreq s t hst => hst.serve (h reqs hreqs req hreq)) hst)
  rcases Machine.simulates_run hstep (fun _ _ => id) hstart with hpast | hrun
  · exact hpast.elim
  · exact hrun

/-- A file that takes every transfer from its start on. -/
def regularFile : FileSystem where
  refusal _ filePos _ := if filePos < 0 then some "[Errno 22] Invalid argument" else none
  elapsedUs _ := 1
  refuses_negative := by
    intro isWrite filePos length hneg
    rw [if_pos hneg]
    rfl

/-- Three bytes for block 1, then reads of blocks 1 and 0. -/
def twoBatches : List (List StorageRequest) :=
  [[{ blockId := 1, isWrite := true, payload := some [7, 8, 9] }],
    [{ blockId := 1, offset := 2, length := 2 }, { blockId := 0, length := 4 }]]

theorem inside_twoBatches :
    ∀ reqs ∈ twoBatches, ∀ req ∈ reqs, Inside regularFile 4 (some 7) req := by
  simp only [twoBatches, List.forall_mem_cons]
  exact ⟨⟨⟨⟨by decide, by decide, rfl⟩, by decide⟩, nofun⟩,
    ⟨⟨⟨by decide, by decide, rfl⟩, by decide⟩, ⟨⟨by decide, by decide, rfl⟩, by decide⟩, nofun⟩,
    nofun⟩

theorem file_answers_like_mock_regular :
    List.Forall₂ (BothReturn (List.Forall₂ SameAnswer))
        ((fileStorage regularFile).batches.trace (FileStorageBackend.create 4 ByteFile.empty)
          twoBatches)
        (mockStorage.batches.trace (MockStorageBackend.create 25 200 (some 7)) twoBatches) ∧
      SameStore 4 (some 7)
        ((fileStorage regularFile).batches.exec (FileStorageBackend.create 4 ByteFile.empty)
          twoBatches)
        (mockStorage.batches.exec (MockStorageBackend.create 25 200 (some 7)) twoBatches) :=
  file_answers_like_mock 25 200 inside_twoBatches

/-- One write keeps the file like the mock exactly when what runs over the end of its block
rewrites the bytes of the blocks behind it. -/
theorem write_keeps_alike_iff {fs : FileSystem} {blockSize : Nat} {failBlockId : Option Int}
    {s : FileStorageBackend} {t : MockStorageBackend} {req : StorageRequest}
    (hpos : 0 < blockSize) (h : SameStore blockSize failBlockId s t)
    (hreq : Served fs blockSize failBlockId req) (hwrite : req.isWrite = true) :
    SameStore blockSize failBlockId (s.write fs req).2 (t.write req).2 ↔
      SameStore.OverrunsAlike blockSize t req := by
  rw [(h.write_answer hreq hwrite).2]
  exact ⟨h.overrun_of_sameBytes hpos hreq hwrite, h.sameBytes_of_overrun hreq hwrite⟩

/-- Four bytes at the second place of a block of four: the last one is in the next block. -/
def overrunningWrite : StorageRequest where
  blockId := 0
  offset := 1
  isWrite := true
  payload := some [1, 2, 3, 4]

theorem write_keeps_alike_iff_overrunning :
    ¬ SameStore 4 none
      ((FileStorageBackend.create 4 ByteFile.empty).write regularFile overrunningWrite).2
      ((MockStorageBackend.create 25 200 none).write overrunningWrite).2 := by
  intro hsame
  have hserved : Served regularFile 4 none overrunningWrite := ⟨by decide, by decide, rfl⟩
  have hover := (write_keeps_alike_iff (by decide) (SameStore.create 4 25 200 none) hserved rfl).mp
    hsame 3 (by decide) (by decide)
  exact absurd hover (by decide)

end AiSsd.Prefetch.V2
