import AiSsd.Api.LayerlessLookups
import AiSsd.Api.System
import AiSsd.Ftl.SequentialReads
import AiSsd.Schemas.KVBlock
import Mathlib.Algebra.Order.Field.Rat
import Mathlib.Data.Rat.Floor

/-!
# The end-to-end simulation

`run_simulation` partitions a context into hot and cold blocks, stores and reads the blocks to
retrieve on a conventional and a tensor-aware drive, and runs the prefetcher through the
layers. Numbers are exact, and `round` is a parameter: the report shows rounded numbers.
-/

namespace AiSsd.Api.InferencePipeline

open Lib Ftl

/-! ## The report -/

structure MemoryReport where
  baselineMb : Rat
  proposedMb : Rat
  reductionPercent : Rat
deriving DecidableEq

structure StorageReport where
  bytesRequested : Nat
  bytesTransferred : Nat
  trafficReductionPercent : Rat
deriving DecidableEq

structure FtlReport where
  baselineReadUs : Rat
  tensorAwareReadUs : Rat
  speedupX : Rat
deriving DecidableEq

structure PrefetchReport where
  predictionAccuracy : Rat
  cacheHitRate : Rat
  pipelineStalls : Nat
  bubblePenaltyUs : Rat
deriving DecidableEq

structure LatencyReport where
  baselineMs : Rat
  proposedMs : Rat
  overheadPercent : Rat
deriving DecidableEq

structure Report where
  contextLength : Nat
  memory : MemoryReport
  storage : StorageReport
  ftl : FtlReport
  prefetch : PrefetchReport
  latency : LatencyReport
deriving DecidableEq

/-- The arguments of `run_simulation` that it uses. -/
structure Setting where
  contextLength : Nat
  numLayers : Nat
  numHeads : Nat
  headDim : Nat
  offloadPct : Rat
  topkPct : Rat
  dtype : String

namespace Setting

variable (x : Setting)

/-- `int(q)`: towards zero. -/
def int (q : Rat) : Int := q.num.tdiv q.den

def baselineMb : Rat :=
  let bytesPerElem : Nat := if Schemas.upper x.dtype = "FP16" then 2 else 4
  (2 * x.numLayers * x.numHeads * x.headDim * x.contextLength * bytesPerElem : Nat) / (1024 * 1024)

/-- `cold_blocks_per_layer`, of blocks of 16 tokens. -/
def coldBlocks : Nat :=
  let totalBlocksPerLayer := max 1 (x.contextLength / 16)
  (max 1 (int (totalBlocksPerLayer * (x.offloadPct / 100)))).toNat

def kBlocks : Nat := (max 1 (int (x.coldBlocks * (x.topkPct / 100)))).toNat

def bytesRequested : Nat := x.numLayers * x.coldBlocks * 4096

def bytesTransferred : Nat := x.numLayers * x.kBlocks * 4096

theorem kBlocks_pos : 0 < x.kBlocks := by
  unfold kBlocks
  omega

theorem coldBlocks_pos : 0 < x.coldBlocks := by
  unfold coldBlocks
  dsimp only
  omega

end Setting

structure Measured where
  conventionalUs : Nat
  tensorAwareUs : Nat
  prefetchHitRate : Rat
  stalls : Nat
  bubblePenaltyUs : Rat

def report (round : Rat → Nat → Rat) (x : Setting) (m : Measured) : Report :=
  let traffic : Rat := (1 - x.bytesTransferred / x.bytesRequested) * 100
  let speedup : Rat := if m.tensorAwareUs > 0 then m.conventionalUs / m.tensorAwareUs else 1
  let baseMs : Rat := 100 + x.contextLength / 1000 * (1 / 2)
  let proposedMs := baseMs + m.bubblePenaltyUs / 1000
  { contextLength := x.contextLength
    memory :=
      { baselineMb := round x.baselineMb 1
        proposedMb := round (x.baselineMb * (1 - x.offloadPct / 100)) 1
        reductionPercent := round x.offloadPct 1 }
    storage :=
      { bytesRequested := x.bytesRequested
        bytesTransferred := x.bytesTransferred
        trafficReductionPercent := round traffic 1 }
    ftl :=
      { baselineReadUs := round m.conventionalUs 1
        tensorAwareReadUs := round m.tensorAwareUs 1
        speedupX := round speedup 2 }
    prefetch :=
      { predictionAccuracy := 9 / 10
        cacheHitRate := round m.prefetchHitRate 2
        pipelineStalls := m.stalls
        bubblePenaltyUs := round m.bubblePenaltyUs 1 }
    latency :=
      { baselineMs := round baseMs 2
        proposedMs := round proposedMs 2
        overheadPercent := round ((proposedMs - baseMs) / baseMs * 100) 1 } }

/-! ## The drives -/

/-- `StorageSimulator(mode, channels=8)`. -/
abbrev Drive := StorageSimulator StorageSimulator.defaultConfig

/-- `create_default(block_id=bid, layer_id=0, token_start=bid * 16)`. -/
def sampleBlock (bid : Nat) : Ftl.KVBlock :=
  (Schemas.KVBlock.createDefault bid 0 (bid * 16 : Nat) 16 0 1 128 "FP16" .ssd 1).ftl

/-- Every sample block goes to the conventional drive, and then to the tensor-aware one with
what the first has set on it. -/
def storeSamples : List Nat → Drive → Drive → Except PyErr (Drive × Drive)
  | [], conventional, tensorAware => .ok (conventional, tensorAware)
  | bid :: bids, conventional, tensorAware =>
      let block := sampleBlock bid
      match conventional.storeBlock block with
      | (.error err, _) => .error err
      | (.ok loc, conventional) =>
          match tensorAware.storeBlock
              { block with storageTier := "SSD", physicalLocation := some loc } with
          | (.error err, _) => .error err
          | (.ok _, tensorAware) => storeSamples bids conventional tensorAware

def measureDrives (kBlocks : Nat) : Except PyErr (Nat × Nat) :=
  let new := StorageSimulator.init StorageSimulator.defaultConfig
  (storeSamples (List.range kBlocks) (new .conventional) (new .tensorAware)).map
    fun (conventional, tensorAware) =>
      let sampleBids := StorageSimulator.firstIds kBlocks
      ((conventional.estimateReadLatency sampleBids).1,
        (tensorAware.estimateReadLatency sampleBids).1)

/-! ## The prefetcher -/

def hitRate (stats : PrefetchStats) : Rat :=
  if stats.blocksRequested > 0 then stats.blocksHit / stats.blocksRequested
  else
    let total := stats.hits + stats.misses
    if total > 0 then stats.hits / total else 0

variable {σ : Type} (engine : SsdEngine σ)

def prefetchLayer (needed : List Int) (latencyUs : Rat) (layerId : Nat)
    (p : SpeculativePrefetcher) (ssd : σ) : Except PyErr Unit × SpeculativePrefetcher × σ :=
  let asked := (p.isStaged needed (some layerId) latencyUs).2
  let r := asked.prefetchNextLayer layerId needed engine.prefetchKv ssd
  (r.1.map fun _ => (), r.2)

def prefetchLayers (needed : List Int) (latencyUs : Rat) :
    List Nat → SpeculativePrefetcher → σ → Except PyErr Unit × SpeculativePrefetcher × σ
  | [], p, ssd => (.ok (), p, ssd)
  | layerId :: layers, p, ssd =>
      match prefetchLayer engine needed latencyUs layerId p ssd with
      | (.error err, p, ssd) => (.error err, p, ssd)
      | (.ok _, p, ssd) => prefetchLayers needed latencyUs layers p ssd

def measurePrefetch (numLayers kBlocks : Nat) (latencyUs : Rat) (s : AISSDSystem σ) :
    Except PyErr (Rat × Nat × Rat) × AISSDSystem σ :=
  match s.prefetcher with
  | none => (.ok (0, numLayers, numLayers * latencyUs), s)
  | some p =>
      let cleared := { p.clear with bufferCapacity := max 512 (kBlocks * 4) }
      let r := prefetchLayers engine (StorageSimulator.firstIds kBlocks) latencyUs
        (List.range numLayers) cleared s.ssdEngine
      (r.1.map fun _ =>
          (hitRate r.2.1.stats, r.2.1.stats.pipelineStalls, r.2.1.stats.totalStallPenaltyUs),
        { s with prefetcher := some r.2.1, ssdEngine := r.2.2 })

def runSimulation (round : Rat → Nat → Rat) (s : AISSDSystem σ) (x : Setting) :
    Except PyErr Report × AISSDSystem σ :=
  -- the traffic is divided by the bytes requested
  if x.bytesRequested = 0 then (.error .zeroDivisionError, s)
  else
    match measureDrives x.kBlocks with
    | .error err => (.error err, s)
    | .ok (conventionalUs, tensorAwareUs) =>
        match measurePrefetch engine x.numLayers x.kBlocks tensorAwareUs s with
        | (.error err, s) => (.error err, s)
        | (.ok (prefetchHitRate, stalls, bubblePenaltyUs), s) =>
            (.ok (report round x
              ⟨conventionalUs, tensorAwareUs, prefetchHitRate, stalls, bubblePenaltyUs⟩), s)

end AiSsd.Api.InferencePipeline
