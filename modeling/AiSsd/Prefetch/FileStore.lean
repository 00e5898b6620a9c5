import AiSsd.Prefetch.AsyncAdapter

/-!
# The file backend

`FileStorageBackend` keeps block `b` of its file at `b * block_size`. It takes a layer and
a head with every call and uses neither. Of the adapter's methods it has the byte read and
write and `reset_stats`; a failed call is reported in the result, which no file here does.
-/

namespace AiSsd.Prefetch.Async

open Lib Numpy

structure FileStorageBackend where
  blockSize : Nat
  file : ByteFile
  totalReads : Nat
  totalWrites : Nat
  bytesRead : Nat
  bytesWritten : Nat

namespace FileStorageBackend

def create (blockSize : Nat) : FileStorageBackend := ⟨blockSize, ByteFile.empty, 0, 0, 0, 0⟩

variable (s : FileStorageBackend)

def blockOffset (blockId offset : Nat) : Nat := blockId * s.blockSize + offset

def read (blockId offset length : Nat) : Bytes × FileStorageBackend :=
  let data := s.file.pread length (s.blockOffset blockId offset)
  (data,
    { s with
      totalReads := s.totalReads + 1
      bytesRead := s.bytesRead + data.length })

def write (blockId offset : Nat) (data : Bytes) : FileStorageBackend :=
  { s with
    file := s.file.pwrite data (s.blockOffset blockId offset)
    totalWrites := s.totalWrites + 1
    bytesWritten := s.bytesWritten + data.length }

def resetStats : FileStorageBackend :=
  { s with
    totalReads := 0
    totalWrites := 0
    bytesRead := 0
    bytesWritten := 0 }

end FileStorageBackend

def fileStorage : Backend FileStorageBackend where
  mock := false
  writeBlock := none
  write := some fun s blockId offset data _ _ => (.ok (), s.write blockId offset data)
  readKeyPage := none
  readValuePage := none
  readBlock := none
  readKeyPageBatch := none
  readValuePageBatch := none
  readBlockBatch := none
  read := some fun s blockId offset length _ _ =>
    let r := s.read blockId offset length
    (.ok r.1, r.2)
  evictBlock := none
  resetStats := some FileStorageBackend.resetStats

end AiSsd.Prefetch.Async
