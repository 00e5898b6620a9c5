import AiSsd.Api.StagingOrder
import AiSsd.Lib.Machine

/-!
# Lookups without a layer

A lookup that gives no layer also asks the set of block ids, which takes ids while it has room
and loses none before `clear`. The buffer keeps the last blocks, the set the first ids; a
lookup is exact when every id of the set still has a block in the buffer.
-/

namespace AiSsd.Api.SpeculativePrefetcher

open Lib Lib.Recency

/-- A call; a prefetch may come with a storage backend that prefetches. -/
inductive StagingOp (σ : Type) where
  | stageBlocks (layerId : Int) (blockIds : List Int)
  | prefetchNextLayer (currentLayerId : Int) (activeBlockIds : List Int)
      (prefetchKv : Option (σ → List Int → Int → Except PyErr Unit × σ))
  | clear

variable {σ : Type}

/-- The prefetcher beside the state of the storage backends. -/
def stagingMachine (σ : Type) :
    Machine (SpeculativePrefetcher × σ) (StagingOp σ) (Except PyErr Unit) where
  step := fun (p, backend) op =>
    match op with
    | .stageBlocks layerId blockIds =>
        let r := SpeculativePrefetcher.stageBlocks layerId blockIds p
        (r.1, r.2, backend)
    | .prefetchNextLayer currentLayerId activeBlockIds prefetchKv =>
        let r := p.prefetchNextLayer currentLayerId activeBlockIds prefetchKv backend
        (r.1.map fun _ => (), r.2)
    | .clear => (.ok (), p.clear, backend)

/-- The keys the calls stage, from the last `clear` on. -/
def stagedSince (ops : List (StagingOp σ)) : List (Int × Int) :=
  ops.foldl (fun staged op =>
    match op with
    | .stageBlocks layerId blockIds => staged ++ stagedKeys layerId blockIds
    | .prefetchNextLayer currentLayerId activeBlockIds _ =>
        let predicted :=
          NextLayerPredictor.predictNextLayerBlocks currentLayerId activeBlockIds 0
        staged ++ stagedKeys predicted.1 predicted.2
    | .clear => []) []

def HoldsBlock (p : SpeculativePrefetcher) (bid : Int) : Prop :=
  ∃ layerId, p.stagedBuffer.contains (layerId, bid) = true

/-- A lookup without a layer hits what the buffer holds, and the capacity in use is the number
of blocks in it. -/
def LooksUpExactly (p : SpeculativePrefetcher) : Prop :=
  (∀ (blockIds : List Int), ∀ bid ∈ blockIds,
      bid ∈ (p.checkStaging blockIds none).1 ↔ p.HoldsBlock bid) ∧
    p.usedCapacityBlocks = p.stagedBuffer.size

/-- Each of the first ids still has a block among the last ones. -/
def FirstStillLast (capacity : Nat) (staged : List (Int × Int)) : Prop :=
  ∀ bid ∈ firstKeys capacity (staged.map Prod.snd),
    ∃ layerId, (layerId, bid) ∈ staged.dedup.rtake capacity

structure HoldsStaged (p : SpeculativePrefetcher) (capacity : Nat) (staged : List (Int × Int)) :
    Prop where
  bound : p.bufferCapacity = capacity
  buffer : p.stagedBuffer.keys = staged.dedup.rtake capacity
  legacy : p.legacyStagedBlocks = firstKeys capacity (staged.map Prod.snd)

variable {p : SpeculativePrefetcher} {capacity : Nat} {staged : List (Int × Int)}

/-! ## What the calls stage -/

theorem HoldsStaged.stageOne (h : p.HoldsStaged capacity staged) (hcapacity : 0 < capacity)
    (layerId bid : Int) :
    ∃ p', p.stageOne layerId bid = .ok p' ∧
      p'.HoldsStaged capacity (staged ++ [(layerId, bid)]) := by
  have hroom : 0 < p.bufferCapacity := by rw [h.bound]; exact hcapacity
  obtain ⟨buffer, hpush, hkeys⟩ := pushKey_eq_touch hroom (layerId, bid)
  unfold SpeculativePrefetcher.stageOne
  rw [hpush]
  refine ⟨_, rfl, h.bound, ?_, ?_⟩
  · have htouch := foldl_touch hcapacity staged [(layerId, bid)]
    rw [h.bound, h.buffer] at hkeys
    exact hkeys.trans htouch
  · dsimp only
    rw [List.map_append, List.map_singleton, firstKeys_concat, h.legacy, h.bound]

theorem HoldsStaged.stageBlocks (h : p.HoldsStaged capacity staged) (hcapacity : 0 < capacity)
    (layerId : Int) (blockIds : List Int) :
    (stageBlocks layerId blockIds p).1 = .ok () ∧
      (stageBlocks layerId blockIds p).2.HoldsStaged capacity
        (staged ++ stagedKeys layerId blockIds) := by
  induction blockIds generalizing p staged with
  | nil => exact ⟨rfl, by simpa [stagedKeys, SpeculativePrefetcher.stageBlocks] using h⟩
  | cons bid blockIds ih =>
      obtain ⟨p', hstage, h'⟩ := h.stageOne hcapacity layerId bid
      have hrest := ih h'
      simpa [SpeculativePrefetcher.stageBlocks, hstage, stagedKeys] using hrest

/-- A buffer without room takes nothing: the first block raises. -/
theorem stageBlocks_of_no_room (h : p.HoldsStaged 0 staged) (layerId : Int)
    (blockIds : List Int) : (stageBlocks layerId blockIds p).2 = p := by
  cases blockIds with
  | nil => rfl
  | cons bid blockIds =>
      have hempty : p.stagedBuffer.entries = [] := by
        have hkeys : p.stagedBuffer.keys = [] := by simpa [List.rtake] using h.buffer
        simpa [Dict.keys] using hkeys
      have hpush : ∃ err, p.pushKey (layerId, bid) = .error err := by
        have hbuffer : p.stagedBuffer = Dict.empty := Dict.eq_of_entries hempty
        unfold pushKey
        rw [hbuffer]
        simp [Dict.contains, Dict.size, Dict.empty, Dict.get?, Dict.lookup, Dict.popFirst?, h.bound]
      obtain ⟨err, herr⟩ := hpush
      unfold SpeculativePrefetcher.stageBlocks SpeculativePrefetcher.stageOne
      rw [herr]
      rfl

theorem HoldsStaged.of_no_room (h : p.HoldsStaged 0 staged) (staged' : List (Int × Int)) :
    p.HoldsStaged 0 staged' :=
  ⟨h.bound, by simpa [List.rtake] using h.buffer, by simpa [firstKeys] using h.legacy⟩

/-- A call adds what it stages, whether the buffer has room or raises. -/
theorem HoldsStaged.append (h : p.HoldsStaged capacity staged) (layerId : Int)
    (blockIds : List Int) :
    (SpeculativePrefetcher.stageBlocks layerId blockIds p).2.HoldsStaged capacity
      (staged ++ stagedKeys layerId blockIds) := by
  cases capacity with
  | zero =>
      rw [stageBlocks_of_no_room h]
      exact h.of_no_room _
  | succ n => exact (h.stageBlocks (Nat.succ_pos n) layerId blockIds).2

theorem prefetchNextLayer_stages (currentLayerId : Int) (activeBlockIds : List Int)
    (prefetchKv : Option (σ → List Int → Int → Except PyErr Unit × σ)) (backend : σ) :
    (p.prefetchNextLayer currentLayerId activeBlockIds prefetchKv backend).2.1 =
      (stageBlocks
        (NextLayerPredictor.predictNextLayerBlocks currentLayerId activeBlockIds 0).1
        (NextLayerPredictor.predictNextLayerBlocks currentLayerId activeBlockIds 0).2 p).2 := by
  unfold prefetchNextLayer
  dsimp only
  split
  · rename_i hrun
    rw [hrun]
  · rename_i hrun
    rw [hrun]
    cases prefetchKv <;> rfl

theorem stagedSince_concat (ops : List (StagingOp σ)) (op : StagingOp σ) :
    stagedSince (ops ++ [op]) =
      match op with
      | .stageBlocks layerId blockIds => stagedSince ops ++ stagedKeys layerId blockIds
      | .prefetchNextLayer currentLayerId activeBlockIds _ =>
          stagedSince ops ++ stagedKeys
            (NextLayerPredictor.predictNextLayerBlocks currentLayerId activeBlockIds 0).1
            (NextLayerPredictor.predictNextLayerBlocks currentLayerId activeBlockIds 0).2
      | .clear => [] := by
  rw [stagedSince, List.foldl_append]
  cases op <;> rfl

theorem holdsStaged_init (bytesPerBlock : Nat) (gpuComputeTimePerLayerUs : Rat) :
    (init capacity bytesPerBlock gpuComputeTimePerLayerUs).HoldsStaged capacity [] :=
  ⟨rfl, by simp [init, Dict.keys, Dict.empty, List.rtake],
    by simp [init, firstKeys, firstOccurrences]⟩

/-- After every run the prefetcher holds what the calls since the last `clear` staged. -/
theorem holdsStaged_exec (bytesPerBlock : Nat) (gpuComputeTimePerLayerUs : Rat) (backend : σ)
    (ops : List (StagingOp σ)) :
    ((stagingMachine σ).exec
      (init capacity bytesPerBlock gpuComputeTimePerLayerUs, backend) ops).1.HoldsStaged
        capacity (stagedSince ops) := by
  induction ops using List.reverseRecOn with
  | nil => exact holdsStaged_init bytesPerBlock gpuComputeTimePerLayerUs
  | append_singleton ops op ih =>
      rw [Machine.exec_concat, stagedSince_concat]
      generalize (stagingMachine σ).exec
        (init capacity bytesPerBlock gpuComputeTimePerLayerUs, backend) ops = s at ih ⊢
      cases op with
      | stageBlocks layerId blockIds => exact ih.append layerId blockIds
      | prefetchNextLayer currentLayerId activeBlockIds prefetchKv =>
          simp only [stagingMachine, prefetchNextLayer_stages]
          exact ih.append _ _
      | clear =>
          exact ⟨ih.bound, by simp [clear, stagingMachine, Dict.keys, Dict.empty, List.rtake],
            by simp [clear, stagingMachine, firstKeys, firstOccurrences]⟩

/-! ## When lookups are exact -/

theorem holdsBlock_iff (h : p.HoldsStaged capacity staged) (bid : Int) :
    p.HoldsBlock bid ↔ ∃ layerId, (layerId, bid) ∈ staged.dedup.rtake capacity := by
  simp only [HoldsBlock, Dict.contains_iff, h.buffer]

theorem isIn_none_iff (bid : Int) :
    p.isIn none bid = true ↔ bid ∈ p.legacyStagedBlocks ∨ p.HoldsBlock bid := by
  simp [isIn, HoldsBlock, Dict.contains_iff]

/-- An empty buffer leaves the set empty as well. -/
theorem HoldsStaged.usedCapacityBlocks_eq (h : p.HoldsStaged capacity staged) :
    p.usedCapacityBlocks = p.stagedBuffer.size := by
  unfold usedCapacityBlocks
  split
  · rename_i hempty
    rw [hempty, h.legacy, card_firstKeys]
    rw [← Dict.length_keys, h.buffer, List.rtake, List.length_drop] at hempty
    cases staged with
    | nil => simp [firstOccurrences]
    | cons key staged =>
        have hmem : key ∈ (key :: staged).dedup := List.mem_dedup.mpr List.mem_cons_self
        have hpos := List.length_pos_of_mem hmem
        have hnone : capacity = 0 := by omega
        simp [hnone]
  · rfl

theorem looksUpExactly_iff (h : p.HoldsStaged capacity staged) :
    p.LooksUpExactly ↔ FirstStillLast capacity staged := by
  have hhit : ∀ (blockIds : List Int) (bid : Int), bid ∈ blockIds →
      (bid ∈ (p.checkStaging blockIds none).1 ↔ bid ∈ p.legacyStagedBlocks ∨ p.HoldsBlock bid) := by
    intro blockIds bid hbid
    rw [checkStaging, List.mem_filter, isIn_none_iff, and_iff_right hbid]
  constructor
  · intro hexact bid hfirst
    rw [← h.legacy] at hfirst
    have hlookup := (hhit [bid] bid List.mem_cons_self).mpr (.inl hfirst)
    exact (holdsBlock_iff h bid).mp ((hexact.1 [bid] bid List.mem_cons_self).mp hlookup)
  · intro hlast
    refine ⟨fun blockIds bid hbid => ?_, h.usedCapacityBlocks_eq⟩
    rw [hhit blockIds bid hbid, or_iff_right_of_imp]
    intro hfirst
    rw [h.legacy] at hfirst
    exact (holdsBlock_iff h bid).mpr (hlast bid hfirst)

/-- After any calls, lookups without a layer are exact if and only if each of the first ids
staged since the last `clear`, as many as the buffer holds blocks, has a block among the last
ones staged. -/
theorem layerless_lookups_exact_iff (capacity bytesPerBlock : Nat) (gpuComputeTimePerLayerUs : Rat)
    (backend : σ) (ops : List (StagingOp σ)) :
    ((stagingMachine σ).exec
      (init capacity bytesPerBlock gpuComputeTimePerLayerUs, backend) ops).1.LooksUpExactly ↔
      FirstStillLast capacity (stagedSince ops) :=
  looksUpExactly_iff (holdsStaged_exec bytesPerBlock gpuComputeTimePerLayerUs backend ops)

/-- The second block pushes the first one out, and a lookup still hits it. -/
theorem evicted_block_hits :
    ¬ ((stagingMachine Unit).exec (init 1 4096 65, ())
        [.stageBlocks 0 [0], .stageBlocks 0 [1]]).1.LooksUpExactly := by
  intro h
  have hheld := (h.1 [0] 0 (by decide)).mp (by decide)
  obtain ⟨layerId, hlayer⟩ := hheld
  rw [Dict.contains_iff] at hlayer
  have hkeys : ((stagingMachine Unit).exec (init 1 4096 65, ())
      [.stageBlocks 0 [0], .stageBlocks 0 [1]]).1.stagedBuffer.keys = [(0, 1)] := by decide
  rw [hkeys] at hlayer
  simp at hlayer

end AiSsd.Api.SpeculativePrefetcher
