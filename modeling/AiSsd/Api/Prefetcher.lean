import AiSsd.Lib.Dict
import AiSsd.PyErr
import Mathlib.Algebra.Order.Field.Basic
import Mathlib.Algebra.Order.Ring.Rat
import Mathlib.Data.Finset.Card

/-!
# The speculative prefetcher

`SpeculativePrefetcher` keeps the blocks staged in host memory in the order of their use, the
oldest first, and beside them a set of block ids for callers that give no layer. A request
hits when four fifths of its blocks are staged. Ratios and penalties are exact.
-/

namespace AiSsd.Api

open Lib

namespace NextLayerPredictor

def totalLayers : Int := 32

/-- The blocks of the current layer moved by `stride`, each one once. -/
def predictNextLayerBlocks (currentLayerId : Int) (currentBlockIds : List Int) (stride : Int) :
    Int × List Int :=
  let predicted := currentBlockIds.foldl
    (fun predicted bid =>
      let targetBid := bid + stride
      if targetBid ∈ predicted then predicted else predicted ++ [targetBid]) []
  ((currentLayerId + 1) % totalLayers, predicted)

end NextLayerPredictor

structure PrefetchStats where
  hits : Nat
  misses : Nat
  blocksHit : Nat
  blocksRequested : Nat
  pipelineStalls : Nat
  totalStallPenaltyUs : Rat
  totalPrefetchedBytes : Nat
deriving DecidableEq

def PrefetchStats.zero : PrefetchStats := ⟨0, 0, 0, 0, 0, 0, 0⟩

structure SpeculativePrefetcher where
  bufferCapacity : Nat
  bytesPerBlock : Nat
  gpuComputeTimePerLayerUs : Rat
  stagedBuffer : Dict (Int × Int) Bool
  legacyStagedBlocks : Finset Int
  stats : PrefetchStats

namespace SpeculativePrefetcher

def init (bufferCapacity bytesPerBlock : Nat) (gpuComputeTimePerLayerUs : Rat) :
    SpeculativePrefetcher :=
  ⟨bufferCapacity, bytesPerBlock, gpuComputeTimePerLayerUs, Dict.empty, ∅, PrefetchStats.zero⟩

variable (p : SpeculativePrefetcher)

/-- The key at the recent end of the buffer, the oldest one dropped when it is full. -/
def pushKey (key : Int × Int) : Except PyErr (Dict (Int × Int) Bool) :=
  if p.stagedBuffer.contains key then .ok (p.stagedBuffer.moveToEnd key)
  else if p.stagedBuffer.size ≥ p.bufferCapacity then
    match p.stagedBuffer.popFirst? with
    | none => .error (.keyError "dictionary is empty")
    | some (_, rest) => .ok (rest.set key true)
  else .ok (p.stagedBuffer.set key true)

def stageOne (layerId bid : Int) : Except PyErr SpeculativePrefetcher := do
  let buffer ← p.pushKey (layerId, bid)
  let legacy :=
    if p.legacyStagedBlocks.card < p.bufferCapacity then insert bid p.legacyStagedBlocks
    else p.legacyStagedBlocks
  return { p with
    stagedBuffer := buffer
    legacyStagedBlocks := legacy
    stats :=
      { p.stats with totalPrefetchedBytes := p.stats.totalPrefetchedBytes + p.bytesPerBlock } }

def stageBlocks (layerId : Int) : List Int → SpeculativePrefetcher →
    Except PyErr Unit × SpeculativePrefetcher
  | [], p => (.ok (), p)
  | bid :: blockIds, p =>
      match p.stageOne layerId bid with
      | .error err => (.error err, p)
      | .ok p => stageBlocks layerId blockIds p

/-- Stage what the predictor gives, then hand it to the storage backend if that one prefetches;
what the backend raises is dropped. -/
def prefetchNextLayer {σ : Type} (currentLayerId : Int) (activeBlockIds : List Int)
    (prefetchKv : Option (σ → List Int → Int → Except PyErr Unit × σ)) (backend : σ) :
    Except PyErr (List Int) × SpeculativePrefetcher × σ :=
  let (nextLayer, predictedBids) :=
    NextLayerPredictor.predictNextLayerBlocks currentLayerId activeBlockIds 0
  match stageBlocks nextLayer predictedBids p with
  | (.error err, p) => (.error err, p, backend)
  | (.ok _, p) =>
      match prefetchKv with
      | none => (.ok predictedBids, p, backend)
      | some prefetchKv => (.ok predictedBids, p, (prefetchKv backend predictedBids nextLayer).2)

def clear : SpeculativePrefetcher :=
  { p with stagedBuffer := Dict.empty, legacyStagedBlocks := ∅, stats := PrefetchStats.zero }

/-- `len(buffer) or len(legacy)`. -/
def usedCapacityBlocks : Nat :=
  if p.stagedBuffer.size = 0 then p.legacyStagedBlocks.card else p.stagedBuffer.size

/-- A block counts as staged for its layer, or for any layer when none is given. -/
def isIn (layerId : Option Int) (bid : Int) : Bool :=
  match layerId with
  | some layerId => p.stagedBuffer.contains (layerId, bid)
  | none =>
      decide (bid ∈ p.legacyStagedBlocks) || p.stagedBuffer.keys.any fun key => key.2 == bid

def checkStaging (blockIds : List Int) (layerId : Option Int) : List Int × List Int :=
  (blockIds.filter (p.isIn layerId), blockIds.filter fun bid => !p.isIn layerId bid)

/-- `hit_ratio >= 0.80`. -/
def isHit (hits total : Nat) : Bool := decide ((4 : Rat) / 5 ≤ (hits : Rat) / total)

def isStaged (blockIds : List Int) (layerId : Option Int) (estimatedFlashLatencyUs : Rat) :
    Bool × SpeculativePrefetcher :=
  if blockIds = [] then (true, p)
  else
    let (hits, missing) := p.checkStaging blockIds layerId
    let asked :=
      { p.stats with
        blocksHit := p.stats.blocksHit + hits.length
        blocksRequested := p.stats.blocksRequested + blockIds.length }
    let hit := isHit hits.length blockIds.length
    let stats :=
      if hit then
        let stallUs :=
          if missing = [] then 0
          else
            max 0 (missing.length * (estimatedFlashLatencyUs / blockIds.length) -
              p.gpuComputeTimePerLayerUs)
        { asked with
          hits := asked.hits + 1
          totalStallPenaltyUs := asked.totalStallPenaltyUs + stallUs }
      else
        { asked with
          misses := asked.misses + 1
          pipelineStalls := asked.pipelineStalls + 1
          totalStallPenaltyUs := asked.totalStallPenaltyUs +
            max 0 (estimatedFlashLatencyUs - p.gpuComputeTimePerLayerUs) }
    (hit, { p with stats := stats })

variable {p}

theorem contains_pushKey {key : Int × Int} {buffer : Dict (Int × Int) Bool}
    (h : p.pushKey key = .ok buffer) {k : Int × Int} (hk : buffer.contains k = true) :
    p.stagedBuffer.contains k = true ∨ k = key := by
  have hset : ∀ {d : Dict (Int × Int) Bool}, (d.set key true).contains k = true →
      d.contains k = true ∨ k = key := by
    intro d hd
    rw [Dict.contains_set, Bool.or_eq_true] at hd
    exact hd.symm.imp_right fun heq => (of_decide_eq_true heq).symm
  unfold pushKey at h
  split at h
  · cases h
    rw [Dict.contains_moveToEnd] at hk
    exact .inl hk
  · split at h
    · split at h
      · cases h
      · rename_i e rest hpop
        cases h
        refine (hset hk).imp_left fun hrest => ?_
        unfold Dict.contains at hrest ⊢
        rw [Dict.get?_of_popFirst? hpop] at hrest
        split at hrest
        · cases hrest
        · exact hrest
    · cases h
      exact hset hk

theorem contains_stageBlocks {layerId : Int} {blockIds : List Int} {k : Int × Int}
    (h : (stageBlocks layerId blockIds p).2.stagedBuffer.contains k = true) :
    p.stagedBuffer.contains k = true ∨ k.1 = layerId ∧ k.2 ∈ blockIds := by
  induction blockIds generalizing p with
  | nil => exact .inl h
  | cons bid blockIds ih =>
      unfold stageBlocks stageOne at h
      cases hpush : p.pushKey (layerId, bid) with
      | error err =>
          rw [hpush] at h
          exact .inl h
      | ok buffer =>
          rw [hpush] at h
          rcases ih h with hbuffer | ⟨hlayer, hmem⟩
          · rcases contains_pushKey hpush hbuffer with hold | rfl
            · exact .inl hold
            · exact .inr ⟨rfl, List.mem_cons_self⟩
          · exact .inr ⟨hlayer, List.mem_cons_of_mem bid hmem⟩

theorem stagedBuffer_isStaged (blockIds : List Int) (layerId : Option Int)
    (estimatedFlashLatencyUs : Rat) :
    (p.isStaged blockIds layerId estimatedFlashLatencyUs).2.stagedBuffer = p.stagedBuffer := by
  unfold isStaged
  split <;> rfl

theorem isStaged_hit {blockIds : List Int} (hblocks : blockIds ≠ []) (layerId : Option Int)
    (estimatedFlashLatencyUs : Rat) :
    (p.isStaged blockIds layerId estimatedFlashLatencyUs).1 =
      isHit (blockIds.countP (p.isIn layerId)) blockIds.length := by
  simp only [isStaged, if_neg hblocks, checkStaging, List.countP_eq_length_filter]

theorem isHit_iff {hits total : Nat} (htotal : 0 < total) :
    isHit hits total = true ↔ 4 * total ≤ 5 * hits := by
  have hpos : (0 : Rat) < total := Nat.cast_pos.mpr htotal
  unfold isHit
  rw [decide_eq_true_iff, div_le_div_iff₀ (by norm_num) hpos, Rat.mul_comm (hits : Rat)]
  exact_mod_cast Iff.rfl

end SpeculativePrefetcher

end AiSsd.Api
