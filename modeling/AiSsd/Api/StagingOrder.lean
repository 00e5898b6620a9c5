import AiSsd.Api.Prefetcher
import AiSsd.Lib.Recency

/-!
# The order of the staging buffer

A block that is staged moves to the recent end of the buffer, and the oldest one goes when the
buffer is full. So the buffer holds the blocks staged last, in the order in which they were.
-/

namespace AiSsd.Api.SpeculativePrefetcher

open Lib Lib.Recency

def stagedKeys (layerId : Int) (blockIds : List Int) : List (Int × Int) :=
  blockIds.map fun bid => (layerId, bid)

/-- `stage_blocks` of the calls one after the other, up to the first that raises. -/
def stageCalls : List (Int × List Int) → SpeculativePrefetcher →
    Except PyErr Unit × SpeculativePrefetcher
  | [], p => (.ok (), p)
  | (layerId, blockIds) :: calls, p =>
      match stageBlocks layerId blockIds p with
      | (.error err, p) => (.error err, p)
      | (.ok _, p) => stageCalls calls p

variable {p : SpeculativePrefetcher}

/-! ## One block -/

theorem pushKey_eq_touch (hcapacity : 0 < p.bufferCapacity) (key : Int × Int) :
    ∃ buffer, p.pushKey key = .ok buffer ∧
      buffer.keys = touch p.bufferCapacity p.stagedBuffer.keys key := by
  unfold pushKey touch
  by_cases hmem : key ∈ p.stagedBuffer.keys
  · rw [if_pos ((Dict.contains_iff _ _).mpr hmem), if_pos hmem]
    exact ⟨_, rfl, Dict.keys_moveToEnd hmem⟩
  · rw [if_neg (mt (Dict.contains_iff _ _).mp hmem), if_neg hmem, Dict.length_keys]
    by_cases hfull : p.stagedBuffer.size ≥ p.bufferCapacity
    · rw [if_pos hfull, if_pos hfull]
      cases hpop : p.stagedBuffer.popFirst? with
      | none =>
          have hempty := Dict.popFirst?_eq_none hpop
          omega
      | some popped =>
          have hkeys := Dict.keys_of_popFirst? hpop
          refine ⟨popped.2.set key true, rfl, ?_⟩
          rw [hkeys, List.mem_cons, not_or] at hmem
          rw [Dict.keys_set, if_neg hmem.2, hkeys, List.tail_cons]
    · rw [if_neg hfull, if_neg hfull]
      exact ⟨_, rfl, by rw [Dict.keys_set, if_neg hmem]⟩

theorem stageOne_eq_touch (hcapacity : 0 < p.bufferCapacity) (layerId bid : Int) :
    ∃ p', p.stageOne layerId bid = .ok p' ∧ p'.bufferCapacity = p.bufferCapacity ∧
      p'.stagedBuffer.keys = touch p.bufferCapacity p.stagedBuffer.keys (layerId, bid) := by
  obtain ⟨buffer, hpush, hkeys⟩ := pushKey_eq_touch hcapacity (layerId, bid)
  unfold stageOne
  rw [hpush]
  exact ⟨_, rfl, rfl, hkeys⟩

/-! ## Calls -/

/-- A call touches its blocks in their order, repeated ones again. -/
theorem stageBlocks_eq_touch (hcapacity : 0 < p.bufferCapacity) (layerId : Int)
    (blockIds : List Int) :
    (stageBlocks layerId blockIds p).1 = .ok () ∧
      (stageBlocks layerId blockIds p).2.bufferCapacity = p.bufferCapacity ∧
      (stageBlocks layerId blockIds p).2.stagedBuffer.keys =
        (stagedKeys layerId blockIds).foldl (touch p.bufferCapacity) p.stagedBuffer.keys := by
  induction blockIds generalizing p with
  | nil => exact ⟨rfl, rfl, rfl⟩
  | cons bid blockIds ih =>
      obtain ⟨p', hstage, hsame, hkeys⟩ := stageOne_eq_touch hcapacity layerId bid
      have hrest := @ih p' (by omega)
      rw [hsame, hkeys] at hrest
      simpa [stageBlocks, hstage, stagedKeys] using hrest

theorem stageCalls_eq_touch (hcapacity : 0 < p.bufferCapacity) (calls : List (Int × List Int)) :
    (stageCalls calls p).1 = .ok () ∧
      (stageCalls calls p).2.stagedBuffer.keys =
        (calls.flatMap fun call => stagedKeys call.1 call.2).foldl (touch p.bufferCapacity)
          p.stagedBuffer.keys := by
  induction calls generalizing p with
  | nil => exact ⟨rfl, rfl⟩
  | cons call calls ih =>
      obtain ⟨layerId, blockIds⟩ := call
      obtain ⟨hok, hsame, hkeys⟩ := stageBlocks_eq_touch hcapacity layerId blockIds
      unfold stageCalls
      generalize stageBlocks layerId blockIds p = r at hok hsame hkeys
      obtain ⟨answer, p'⟩ := r
      dsimp only at hok hsame hkeys
      subst hok
      have hrest := @ih p' (by omega)
      rw [hsame, hkeys] at hrest
      simpa using hrest

/-- Whatever is staged by whatever calls, with repetitions within a call or across calls: no
call raises, and the buffer holds the last distinct blocks, the one staged last at its end. -/
theorem buffer_in_recency_order (bytesPerBlock : Nat) (gpuComputeTimePerLayerUs : Rat)
    {capacity : Nat} (hcapacity : 0 < capacity) (calls : List (Int × List Int)) :
    (stageCalls calls (init capacity bytesPerBlock gpuComputeTimePerLayerUs)).1 = .ok () ∧
      (stageCalls calls
        (init capacity bytesPerBlock gpuComputeTimePerLayerUs)).2.stagedBuffer.keys =
        (calls.flatMap fun call => stagedKeys call.1 call.2).dedup.rtake capacity := by
  have hrun := @stageCalls_eq_touch (init capacity bytesPerBlock gpuComputeTimePerLayerUs)
    hcapacity calls
  refine ⟨hrun.1, hrun.2.trans ?_⟩
  have htouch := foldl_touch hcapacity [] (calls.flatMap fun call => stagedKeys call.1 call.2)
  simpa [init, Dict.empty, Dict.keys] using htouch

/-- A hit, two evictions and a repeated block within one call. -/
theorem buffer_in_recency_order_three :
    (stageCalls [(0, [1, 2, 3]), (1, [1]), (0, [2, 4, 4])] (init 3 4096 65)).1 = .ok () ∧
      (stageCalls [(0, [1, 2, 3]), (1, [1]), (0, [2, 4, 4])] (init 3 4096 65)).2.stagedBuffer.keys =
        [(1, 1), (0, 2), (0, 4)] :=
  buffer_in_recency_order 4096 65 (by decide) [(0, [1, 2, 3]), (1, [1]), (0, [2, 4, 4])]

end AiSsd.Api.SpeculativePrefetcher
