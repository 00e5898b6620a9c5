import AiSsd.Lib.ByteFile
import AiSsd.Lib.Dict
import AiSsd.PyErr
import Mathlib.Data.Rat.Defs

/-!
# Storage backends by request

`StorageBackend` serves a batch by one read or write for each request, in order. A backend
reports a failed request in its result, or raises; a result names the block of its request.
`MockStorageBackend` keeps the blocks in memory and answers with fixed latencies.
`FileStorageBackend` keeps block `b` of its file at `b * block_size`; what its calls raise is
reported in their results.
-/

namespace AiSsd.Prefetch.V2

open Lib

structure StorageRequest where
  blockId : Int
  offset : Nat := 0
  length : Nat := 4096
  isWrite : Bool := false
  payload : Option Bytes := none
  layerId : Int := 0
  headId : Int := 0
  metadata : List (String × Bool) := []
deriving DecidableEq

structure StorageResult where
  blockId : Int
  length : Nat
  latencyUs : Rat
  success : Bool := true
  errorMsg : Option String := none
  data : Option Bytes := none
  isWrite : Bool := false
deriving DecidableEq

/-- The methods a backend has to define. Every subclass puts the id that it was asked for
in its result. -/
structure StorageBackend (γ : Type) where
  read : γ → StorageRequest → Except PyErr StorageResult × γ
  write : γ → StorageRequest → Except PyErr StorageResult × γ
  read_blockId : ∀ s req res, (read s req).1 = .ok res → res.blockId = req.blockId
  write_blockId : ∀ s req res, (write s req).1 = .ok res → res.blockId = req.blockId

namespace StorageBackend

variable {γ : Type} (B : StorageBackend γ)

def serve (s : γ) (req : StorageRequest) : Except PyErr StorageResult × γ :=
  if req.isWrite then B.write s req else B.read s req

def submitBatch : γ → List StorageRequest → Except PyErr (List StorageResult) × γ
  | s, [] => (.ok [], s)
  | s, req :: reqs =>
      match B.serve s req with
      | (.error err, s) => (.error err, s)
      | (.ok res, s) =>
          match submitBatch s reqs with
          | (.error err, s) => (.error err, s)
          | (.ok results, s) => (.ok (res :: results), s)

variable {B}

theorem serve_blockId {s : γ} {req : StorageRequest} {res : StorageResult}
    (h : (B.serve s req).1 = .ok res) : res.blockId = req.blockId := by
  unfold serve at h
  split at h
  · exact B.write_blockId s req res h
  · exact B.read_blockId s req res h

theorem submitBatch_blockIds {s : γ} {reqs : List StorageRequest} {results : List StorageResult}
    (h : (B.submitBatch s reqs).1 = .ok results) :
    results.map StorageResult.blockId = reqs.map StorageRequest.blockId := by
  induction reqs generalizing s results with
  | nil =>
      cases h
      rfl
  | cons req reqs ih =>
      unfold submitBatch at h
      have hserve := @serve_blockId γ B s req
      revert h hserve
      rcases B.serve s req with ⟨_ | res, s₁⟩
      · rintro ⟨⟩
      · have hrest := @ih s₁
        revert hrest
        rcases hbatch : B.submitBatch s₁ reqs with ⟨_ | rest, s₂⟩
        · simp [hbatch]
        · intro hrest h hserve
          simp only [hbatch, Except.ok.injEq] at h
          subst h
          rw [List.map_cons, List.map_cons, hserve rfl, hrest rfl]

end StorageBackend

/-! ## The mock backend -/

structure MockStorageBackend where
  readLatencyUs : Rat
  writeLatencyUs : Rat
  failBlockId : Option Int
  store : Dict Int Bytes
  totalReads : Nat
  totalWrites : Nat
  bytesRead : Nat
  bytesWritten : Nat
  totalLatencyUs : Rat

namespace MockStorageBackend

def create (readLatencyUs writeLatencyUs : Rat) (failBlockId : Option Int) : MockStorageBackend :=
  ⟨readLatencyUs, writeLatencyUs, failBlockId, Dict.empty, 0, 0, 0, 0, 0⟩

variable (s : MockStorageBackend)

def read (req : StorageRequest) : StorageResult × MockStorageBackend :=
  if s.failBlockId = some req.blockId then
    ({ blockId := req.blockId
       length := 0
       latencyUs := s.readLatencyUs
       success := false
       errorMsg := some s!"Simulated read failure on block {req.blockId}" }, s)
  else
    let data :=
      match s.store.get? req.blockId with
      | some buf => (buf.drop req.offset).take req.length
      | none => List.replicate req.length 0
    ({ blockId := req.blockId
       length := req.length
       latencyUs := s.readLatencyUs
       data := some data },
      { s with
        totalReads := s.totalReads + 1
        bytesRead := s.bytesRead + req.length
        totalLatencyUs := s.totalLatencyUs + s.readLatencyUs })

/-- The block after `data` at `offset`: zero-filled up to there, and of a page at least. -/
def patched (req : StorageRequest) (data : Bytes) : Bytes :=
  let fresh := List.replicate (max 4096 (req.offset + data.length)) 0
  let target := (s.store.get? req.blockId).getD fresh
  let target := target ++ List.replicate (req.offset + data.length - target.length) 0
  target.take req.offset ++ data ++ target.drop (req.offset + data.length)

def write (req : StorageRequest) : StorageResult × MockStorageBackend :=
  if s.failBlockId = some req.blockId then
    ({ blockId := req.blockId
       length := 0
       latencyUs := s.writeLatencyUs
       success := false
       errorMsg := some s!"Simulated write failure on block {req.blockId}"
       isWrite := true }, s)
  else
    let data := req.payload.getD []
    ({ blockId := req.blockId
       length := data.length
       latencyUs := s.writeLatencyUs
       isWrite := true },
      { s with
        store := s.store.set req.blockId (s.patched req data)
        totalWrites := s.totalWrites + 1
        bytesWritten := s.bytesWritten + data.length
        totalLatencyUs := s.totalLatencyUs + s.writeLatencyUs })

theorem read_blockId (req : StorageRequest) : (s.read req).1.blockId = req.blockId := by
  unfold read
  split
  · rfl
  · rfl

theorem write_blockId (req : StorageRequest) : (s.write req).1.blockId = req.blockId := by
  unfold write
  split
  · rfl
  · rfl

end MockStorageBackend

def mockStorage : StorageBackend MockStorageBackend where
  read s req := (.ok (s.read req).1, (s.read req).2)
  write s req := (.ok (s.write req).1, (s.write req).2)
  read_blockId := by
    rintro s req res ⟨⟩
    exact s.read_blockId req
  write_blockId := by
    rintro s req res ⟨⟩
    exact s.write_blockId req

/-! ## The file backend -/

/-- What the calls on a file depend on besides its bytes: the message of the exception that a
transfer of so many bytes at a position raises, if it does, and the time that each call takes.
A transfer that raises moves nothing, and before the start of the file there is none. -/
structure FileSystem where
  refusal : (isWrite : Bool) → (filePos : Int) → (length : Nat) → Option String
  elapsedUs : Nat → Rat
  refuses_negative : ∀ isWrite filePos length, filePos < 0 →
    (refusal isWrite filePos length).isSome

/-- The open file and the counters of its backend. `calls` numbers the calls for the clock. -/
structure FileStorageBackend where
  blockSize : Nat
  file : ByteFile
  calls : Nat
  totalReads : Nat
  totalWrites : Nat
  bytesRead : Nat
  bytesWritten : Nat
  totalLatencyUs : Rat

namespace FileStorageBackend

def create (blockSize : Nat) (file : ByteFile) : FileStorageBackend :=
  ⟨blockSize, file, 0, 0, 0, 0, 0, 0⟩

variable (fs : FileSystem) (s : FileStorageBackend)

def blockOffset (blockId : Int) (offset : Nat) : Int := blockId * s.blockSize + offset

def read (req : StorageRequest) : StorageResult × FileStorageBackend :=
  let filePos := s.blockOffset req.blockId req.offset
  let elapsedUs := fs.elapsedUs s.calls
  match fs.refusal false filePos req.length with
  | some message =>
      ({ blockId := req.blockId
         length := 0
         latencyUs := elapsedUs
         success := false
         errorMsg := some message }, { s with calls := s.calls + 1 })
  | none =>
      let data := s.file.pread req.length filePos.toNat
      ({ blockId := req.blockId
         length := data.length
         latencyUs := elapsedUs
         data := some data },
        { s with
          calls := s.calls + 1
          totalReads := s.totalReads + 1
          bytesRead := s.bytesRead + data.length
          totalLatencyUs := s.totalLatencyUs + elapsedUs })

def write (req : StorageRequest) : StorageResult × FileStorageBackend :=
  let data := req.payload.getD []
  let filePos := s.blockOffset req.blockId req.offset
  let elapsedUs := fs.elapsedUs s.calls
  match fs.refusal true filePos data.length with
  | some message =>
      ({ blockId := req.blockId
         length := 0
         latencyUs := elapsedUs
         success := false
         errorMsg := some message
         isWrite := true }, { s with calls := s.calls + 1 })
  | none =>
      ({ blockId := req.blockId
         length := data.length
         latencyUs := elapsedUs
         isWrite := true },
        { s with
          file := s.file.pwrite data filePos.toNat
          calls := s.calls + 1
          totalWrites := s.totalWrites + 1
          bytesWritten := s.bytesWritten + data.length
          totalLatencyUs := s.totalLatencyUs + elapsedUs })

theorem read_blockId (req : StorageRequest) : (s.read fs req).1.blockId = req.blockId := by
  unfold read
  dsimp only
  split
  · rfl
  · rfl

theorem write_blockId (req : StorageRequest) : (s.write fs req).1.blockId = req.blockId := by
  unfold write
  dsimp only
  split
  · rfl
  · rfl

end FileStorageBackend

def fileStorage (fs : FileSystem) : StorageBackend FileStorageBackend where
  read s req := (.ok (s.read fs req).1, (s.read fs req).2)
  write s req := (.ok (s.write fs req).1, (s.write fs req).2)
  read_blockId := by
    rintro s req res ⟨⟩
    exact s.read_blockId fs req
  write_blockId := by
    rintro s req res ⟨⟩
    exact s.write_blockId fs req

end AiSsd.Prefetch.V2
