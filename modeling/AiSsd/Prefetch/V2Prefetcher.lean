import AiSsd.Lib.Machine
import AiSsd.Prefetch.StorageBackend
import Mathlib.Algebra.Order.Ring.Rat

/-!
# The request-level prefetcher

`V2Prefetcher` requests what a prefetch names and has not staged, in one batch, and stages the
results when the batch is back. Room is made while the requests are collected. Times are exact.
-/

namespace AiSsd.Prefetch.V2

open Lib

structure StagedBlockEntry where
  blockId : Int
  layerId : Int
  sizeBytes : Nat
  stagedAtUs : Rat
  readyAtUs : Rat
  isUseful : Bool := false
  accessedAtUs : Option Rat := none
deriving DecidableEq

/-- `not e.is_useful`. -/
def StagedBlockEntry.unused (e : StagedBlockEntry) : Bool := !e.isUseful

abbrev StagingBuffer := Dict (Int × Int) StagedBlockEntry

structure PrefetcherConfig where
  bufferCapacity : Nat := 512
  bytesPerBlock : Nat := 4096
  gpuComputeTimePerLayerUs : Rat := 65

structure V2Prefetcher (γ : Type) where
  backend : γ
  stagedBuffer : StagingBuffer
  prefetchRequests : Nat
  usefulPrefetches : Nat
  uselessPrefetches : Nat
  latePrefetches : Nat
  demandHits : Nat
  demandMisses : Nat
  extraBytesRead : Nat
  pipelineStalls : Nat
  totalStallPenaltyUs : Rat
  peakMemoryBytes : Nat

namespace V2Prefetcher

variable {γ : Type}

def init (backend : γ) : V2Prefetcher γ := ⟨backend, Dict.empty, 0, 0, 0, 0, 0, 0, 0, 0, 0, 0⟩

variable (B : StorageBackend γ) (cfg : PrefetcherConfig)

def currentMemoryBytes (s : V2Prefetcher γ) : Nat := s.stagedBuffer.size * cfg.bytesPerBlock

/-! ## Prefetching -/

def countDropped (s : V2Prefetcher γ) (oldest : StagedBlockEntry) : V2Prefetcher γ :=
  if oldest.isUseful then s
  else
    { s with
      uselessPrefetches := s.uselessPrefetches + 1
      extraBytesRead := s.extraBytesRead + oldest.sizeBytes }

def evictIfFull (s : V2Prefetcher γ) : Except PyErr Unit × V2Prefetcher γ :=
  if s.stagedBuffer.size ≥ cfg.bufferCapacity then
    match s.stagedBuffer.popFirst? with
    | none => (.error (.keyError "dictionary is empty"), s)
    | some ((_, oldest), rest) => (.ok (), countDropped { s with stagedBuffer := rest } oldest)
  else (.ok (), s)

def collect (layerId : Int) :
    List Int → List Int → V2Prefetcher γ → Except PyErr (List Int) × V2Prefetcher γ
  | [], prefetched, s => (.ok prefetched, s)
  | bid :: blockIds, prefetched, s =>
      if s.stagedBuffer.contains (layerId, bid) then collect layerId blockIds prefetched s
      else
        match evictIfFull cfg s with
        | (.error err, s) => (.error err, s)
        | (.ok _, s) => collect layerId blockIds (prefetched ++ [bid]) s

def prefetchRequest (layerId bid : Int) : StorageRequest where
  blockId := bid
  layerId := layerId
  length := cfg.bytesPerBlock
  metadata := [("prefetch", true)]

def stagedEntry (layerId : Int) (currentTimeUs : Rat) (res : StorageResult) : StagedBlockEntry where
  blockId := res.blockId
  layerId := layerId
  sizeBytes := res.length
  stagedAtUs := currentTimeUs
  readyAtUs := currentTimeUs + res.latencyUs

/-- Stage the results of a batch, whether they report a success or not. -/
def stageResults (s : V2Prefetcher γ) (layerId : Int) (currentTimeUs : Rat)
    (results : List StorageResult) : V2Prefetcher γ :=
  { s with
    prefetchRequests := s.prefetchRequests + results.length
    stagedBuffer := s.stagedBuffer.setEach <| results.map fun res =>
      ((layerId, res.blockId), stagedEntry layerId currentTimeUs res) }

def recordPeak (s : V2Prefetcher γ) : V2Prefetcher γ :=
  { s with peakMemoryBytes := max s.peakMemoryBytes (s.currentMemoryBytes cfg) }

def prefetchBlocks (s : V2Prefetcher γ) (blockIds : List Int) (layerId : Int)
    (currentTimeUs : Rat) : Except PyErr (List Int) × V2Prefetcher γ :=
  match collect cfg layerId blockIds [] s with
  | (.error err, s) => (.error err, s)
  | (.ok [], s) => (.ok [], s)
  | (.ok prefetched, s) =>
      match B.submitBatch s.backend (prefetched.map (prefetchRequest cfg layerId)) with
      | (.error err, backend) => (.error err, { s with backend := backend })
      | (.ok results, backend) =>
          (.ok prefetched,
            recordPeak cfg
              (stageResults { s with backend := backend } layerId currentTimeUs results))

/-! ## Demand reads -/

structure AccessTally where
  hits : List Int
  misses : List Int
  stallsForLayer : Rat

def AccessTally.zero : AccessTally := ⟨[], [], 0⟩

/-- A staged block that is read, and how long the reader waits for it. -/
def accessStaged (s : V2Prefetcher γ) (key : Int × Int) (entry : StagedBlockEntry)
    (demandTimeUs : Rat) : V2Prefetcher γ :=
  { s with
    stagedBuffer :=
      (s.stagedBuffer.moveToEnd key).set key
        { entry with isUseful := true, accessedAtUs := some demandTimeUs }
    usefulPrefetches := if entry.isUseful then s.usefulPrefetches else s.usefulPrefetches + 1
    demandHits := s.demandHits + 1
    latePrefetches :=
      if entry.readyAtUs > demandTimeUs then s.latePrefetches + 1 else s.latePrefetches }

def AccessTally.recordHit (tally : AccessTally) (bid : Int) (entry : StagedBlockEntry)
    (demandTimeUs : Rat) : AccessTally :=
  { tally with
    hits := tally.hits ++ [bid]
    stallsForLayer :=
      if entry.readyAtUs > demandTimeUs then
        max tally.stallsForLayer (entry.readyAtUs - demandTimeUs)
      else tally.stallsForLayer }

def accessEach (layerId : Int) (demandTimeUs : Rat) :
    List Int → AccessTally → V2Prefetcher γ → AccessTally × V2Prefetcher γ
  | [], tally, s => (tally, s)
  | bid :: blockIds, tally, s =>
      match s.stagedBuffer.get? (layerId, bid) with
      | some entry =>
          accessEach layerId demandTimeUs blockIds (tally.recordHit bid entry demandTimeUs)
            (accessStaged s (layerId, bid) entry demandTimeUs)
      | none =>
          accessEach layerId demandTimeUs blockIds { tally with misses := tally.misses ++ [bid] }
            { s with demandMisses := s.demandMisses + 1 }

def missRequest (layerId bid : Int) : StorageRequest where
  blockId := bid
  layerId := layerId
  length := cfg.bytesPerBlock
  metadata := [("demand_miss", true)]

def netStall (s : V2Prefetcher γ) (stallsForLayer : Rat) : Rat × V2Prefetcher γ :=
  let netStallUs := max 0 (stallsForLayer - cfg.gpuComputeTimePerLayerUs)
  (netStallUs,
    if netStallUs > 0 then
      { s with
        pipelineStalls := s.pipelineStalls + 1
        totalStallPenaltyUs := s.totalStallPenaltyUs + netStallUs }
    else s)

def accessBlocks (s : V2Prefetcher γ) (blockIds : List Int) (layerId : Int)
    (demandTimeUs : Rat) : Except PyErr (List Int × List Int × Rat) × V2Prefetcher γ :=
  match accessEach layerId demandTimeUs blockIds AccessTally.zero s with
  | (⟨hits, [], stalls⟩, s) =>
      let (net, s) := netStall cfg s stalls
      (.ok (hits, [], net), s)
  | (⟨hits, misses, stalls⟩, s) =>
      match B.submitBatch s.backend (misses.map (missRequest cfg layerId)) with
      | (.error err, backend) => (.error err, { s with backend := backend })
      | (.ok results, backend) =>
          let missLatencyUs := (results.map StorageResult.latencyUs).sum
          let (net, s) := netStall cfg { s with backend := backend } (stalls + missLatencyUs)
          (.ok (hits, misses, net), s)

/-! ## Telemetry -/

/-- What `get_telemetry` reports, its ratios before they are rounded. -/
structure Telemetry where
  prefetchRequests : Nat
  usefulPrefetches : Nat
  uselessPrefetches : Nat
  latePrefetches : Nat
  demandHits : Nat
  demandMisses : Nat
  demandHitRate : Rat
  prefetchAccuracy : Rat
  extraBytesRead : Nat
  pipelineStalls : Nat
  totalStallPenaltyUs : Rat
  peakMemoryBytes : Nat

/-- `sum(1 for e in self._staged_buffer.values() if not e.is_useful)`. -/
def unaccessed (s : V2Prefetcher γ) : Nat := s.stagedBuffer.countValues StagedBlockEntry.unused

def getTelemetry (s : V2Prefetcher γ) : Telemetry where
  prefetchRequests := s.prefetchRequests
  usefulPrefetches := s.usefulPrefetches
  uselessPrefetches := s.uselessPrefetches + s.unaccessed
  latePrefetches := s.latePrefetches
  demandHits := s.demandHits
  demandMisses := s.demandMisses
  demandHitRate :=
    if s.demandHits + s.demandMisses > 0 then
      s.demandHits / (s.demandHits + s.demandMisses : Rat)
    else 0
  prefetchAccuracy :=
    if s.prefetchRequests > 0 then s.usefulPrefetches / (s.prefetchRequests : Rat) else 0
  extraBytesRead := s.extraBytesRead + s.unaccessed * cfg.bytesPerBlock
  pipelineStalls := s.pipelineStalls
  totalStallPenaltyUs := s.totalStallPenaltyUs
  peakMemoryBytes := s.peakMemoryBytes

/-! ## Runs -/

inductive Call where
  | prefetchBlocks (blockIds : List Int) (layerId : Int) (currentTimeUs : Rat)
  | accessBlocks (blockIds : List Int) (layerId : Int) (demandTimeUs : Rat)

inductive Reply where
  | prefetched (blockIds : List Int)
  | accessed (hits misses : List Int) (netStallUs : Rat)

def call (s : V2Prefetcher γ) : Call → Except PyErr Reply × V2Prefetcher γ
  | .prefetchBlocks blockIds layerId currentTimeUs =>
      let r := prefetchBlocks B cfg s blockIds layerId currentTimeUs
      (r.1.map Reply.prefetched, r.2)
  | .accessBlocks blockIds layerId demandTimeUs =>
      let r := accessBlocks B cfg s blockIds layerId demandTimeUs
      (r.1.map fun a => Reply.accessed a.1 a.2.1 a.2.2, r.2)

def prefetcher : Machine (V2Prefetcher γ) Call (Except PyErr Reply) := ⟨call B cfg⟩

end V2Prefetcher

end AiSsd.Prefetch.V2
