import AiSsd.Api.InferencePipeline

/-!
# What the simulation reports

The figures of a run are known before it. The drives' latencies follow from how many of the
blocks share a channel. The prefetcher misses the first layer, hits while the predictor counts
on, and misses again from the layer on at which the predictor has gone back to the first one.
-/

namespace AiSsd.Api

open Lib Lib.Recency Ftl

/-! ## One request of the prefetcher -/

namespace SpeculativePrefetcher

variable {p : SpeculativePrefetcher}

theorem isStaged_of_all {blockIds : List Int} {layerId : Option Int} (hne : blockIds ≠ [])
    (hall : ∀ bid ∈ blockIds, p.isIn layerId bid = true) (latencyUs : Rat) :
    (p.isStaged blockIds layerId latencyUs).2 = { p with stats := { p.stats with
      hits := p.stats.hits + 1
      blocksHit := p.stats.blocksHit + blockIds.length
      blocksRequested := p.stats.blocksRequested + blockIds.length } } := by
  have hhits : blockIds.filter (p.isIn layerId) = blockIds := List.filter_eq_self.mpr hall
  have hmissing : (blockIds.filter fun bid => !p.isIn layerId bid) = [] := by
    simpa [List.filter_eq_nil_iff] using hall
  have hhit : isHit blockIds.length blockIds.length = true :=
    (isHit_iff (List.length_pos_iff.mpr hne)).mpr (by omega)
  simp [isStaged, checkStaging, hne, hhits, hmissing, hhit]

theorem isStaged_of_none {blockIds : List Int} {layerId : Option Int} (hne : blockIds ≠ [])
    (hnone : ∀ bid ∈ blockIds, p.isIn layerId bid = false) (latencyUs : Rat) :
    (p.isStaged blockIds layerId latencyUs).2 = { p with stats := { p.stats with
      misses := p.stats.misses + 1
      blocksRequested := p.stats.blocksRequested + blockIds.length
      pipelineStalls := p.stats.pipelineStalls + 1
      totalStallPenaltyUs := p.stats.totalStallPenaltyUs +
        max 0 (latencyUs - p.gpuComputeTimePerLayerUs) } } := by
  have hpos := List.length_pos_iff.mpr hne
  have hhits : blockIds.filter (p.isIn layerId) = [] := by
    simpa [List.filter_eq_nil_iff] using hnone
  have hhit : isHit 0 blockIds.length = false := by
    rw [← Bool.not_eq_true, isHit_iff hpos]
    omega
  simp [isStaged, checkStaging, hne, hhits, hhit]

/-- Staging counts the bytes and nothing else. -/
theorem stats_stageBlocks (layerId : Int) (blockIds : List Int) (p : SpeculativePrefetcher) :
    (stageBlocks layerId blockIds p).2.gpuComputeTimePerLayerUs = p.gpuComputeTimePerLayerUs ∧
      (stageBlocks layerId blockIds p).2.stats = { p.stats with
        totalPrefetchedBytes :=
          (stageBlocks layerId blockIds p).2.stats.totalPrefetchedBytes } := by
  induction blockIds generalizing p with
  | nil => exact ⟨rfl, rfl⟩
  | cons bid blockIds ih =>
      unfold stageBlocks stageOne
      cases p.pushKey (layerId, bid) with
      | error err => exact ⟨rfl, rfl⟩
      | ok buffer =>
          obtain ⟨hgpu, hstats⟩ := ih _
          exact ⟨hgpu, hstats⟩

end SpeculativePrefetcher

namespace InferencePipeline

open SpeculativePrefetcher StorageSimulator

/-! ## The drives -/

theorem channelOf_sampleBlock (bid : Nat) :
    TensorAwareFtl.channelOf defaultConfig.ftlGeometry (sampleBlock bid) =
      TensorAwareFtl.channelOf defaultConfig.ftlGeometry (headBlock 0 0 16 bid) := rfl

variable {i : Nat} {conventional tensorAware : Drive}

theorem storeSamples_room (hfilled : conventional.FilledTo i)
    (hspread : tensorAware.SpreadTo sampleBlock i)
    (hroom : i < defaultConfig.ftlGeometry.totalPages) :
    ∃ conventional' tensorAware' : Drive,
      (∀ bids, storeSamples (i :: bids) conventional tensorAware =
        storeSamples bids conventional' tensorAware') ∧
      conventional'.FilledTo (i + 1) ∧ tensorAware'.SpreadTo sampleBlock (i + 1) := by
  have hid : (sampleBlock i).blockId = i := rfl
  obtain ⟨loc, hok, hfilled'⟩ := hfilled.storeBlock_room hid hroom
  let block := { sampleBlock i with storageTier := "SSD", physicalLocation := some loc }
  have hid' : block.blockId = i := rfl
  obtain ⟨loc', hok', hspread'⟩ := hspread.storeBlock hid' rfl
  have hconventional : conventional.storeBlock (sampleBlock i) =
      (.ok loc, (conventional.storeBlock (sampleBlock i)).2) := Prod.ext hok rfl
  have htensorAware : tensorAware.storeBlock block =
      (.ok loc', (tensorAware.storeBlock block).2) := Prod.ext hok' rfl
  refine ⟨_, _, ?_, hfilled', hspread'⟩
  intro bids
  rw [storeSamples, hconventional]
  dsimp only
  rw [htensorAware]

/-- The next `m` blocks are stored while the conventional drive has room. -/
theorem storeSamples_fits (m : Nat) (hfilled : conventional.FilledTo i)
    (hspread : tensorAware.SpreadTo sampleBlock i)
    (hroom : i + m ≤ defaultConfig.ftlGeometry.totalPages) :
    ∃ conventional' tensorAware' : Drive,
      (∀ bids, storeSamples (List.range' i m ++ bids) conventional tensorAware =
        storeSamples bids conventional' tensorAware') ∧
      conventional'.FilledTo (i + m) ∧ tensorAware'.SpreadTo sampleBlock (i + m) := by
  induction m generalizing i conventional tensorAware with
  | zero => exact ⟨conventional, tensorAware, fun _ => rfl, hfilled, hspread⟩
  | succ m ih =>
      obtain ⟨conventional', tensorAware', hone, hfilled', hspread'⟩ :=
        storeSamples_room hfilled hspread (by omega)
      obtain ⟨conventional'', tensorAware'', hrest, hfilled'', hspread''⟩ :=
        ih hfilled' hspread' (by omega)
      have hsucc : i + 1 + m = i + (m + 1) := by omega
      rw [hsucc] at hfilled'' hspread''
      refine ⟨conventional'', tensorAware'', ?_, hfilled'', hspread''⟩
      intro bids
      rw [List.range'_succ, List.cons_append, hone, hrest]

theorem range_split {n k : Nat} (h : n < k) :
    List.range k = List.range' 0 n ++ n :: List.range' (n + 1) (k - (n + 1)) := by
  have hjoin := @List.range'_append_1 0 n (k - (n + 1) + 1)
  rw [Nat.zero_add] at hjoin
  rw [← List.range'_succ, hjoin, List.range_eq_range']
  congr 1
  omega

theorem measureDrives_eq {kBlocks : Nat} (hk : 0 < kBlocks) :
    measureDrives kBlocks =
      if 524288 < kBlocks then
        .error (ConventionalFtl.capacityError defaultConfig.ftlGeometry 524288)
      else .ok (10 + 30 * min kBlocks 65536, 10 + 30 * ((kBlocks + 7) / 8)) := by
  have htotal : defaultConfig.ftlGeometry.totalPages = 524288 := rfl
  unfold measureDrives
  dsimp only
  by_cases hfull : 524288 < kBlocks
  · -- the first blocks fill the conventional drive, and the next one is refused
    obtain ⟨conventional, tensorAware, hrun, hfilled, -⟩ := storeSamples_fits 524288
      filledTo_init (spreadTo_init sampleBlock) (by omega)
    have hid : (sampleBlock 524288).blockId = (524288 : Nat) := rfl
    have hrefused := hfilled.storeBlock_full hid (by omega)
    rw [if_pos hfull, range_split hfull, hrun, storeSamples, hrefused]
    rfl
  · obtain ⟨conventional, tensorAware, hrun, hfilled, hspread⟩ := storeSamples_fits kBlocks
      filledTo_init (spreadTo_init sampleBlock) (by omega)
    have hall := hrun []
    rw [List.append_nil, ← List.range_eq_range', storeSamples] at hall
    rw [Nat.zero_add] at hfilled hspread
    have happart : Balance.WindowsApart fun i =>
        TensorAwareFtl.channelOf defaultConfig.ftlGeometry (sampleBlock i) := by
      simp only [channelOf_sampleBlock]
      exact TensorAwareFtl.windowsApart_head (by decide) 0 0
    have hconventional := hfilled.latency hk
    have htensorAware := hspread.latency happart hk
    rw [if_neg hfull]
    simp only [hall, Except.map, hconventional, htensorAware]
    rfl

/-! ## The layers -/

/-- What the layers before `l` have staged. -/
def stagedBefore (kBlocks l : Nat) : List (Int × Int) :=
  (List.range l).flatMap fun i : Nat => stagedKeys (((i : Int) + 1) % 32) (firstIds kBlocks)

/-- How many layers before `l` found their blocks: the first one did not, nor did those that the
predictor took for earlier ones. -/
def hitsBefore (l : Nat) : Nat := min l 32 - 1

/-- What has been counted before layer `l`. -/
structure CountedBefore (kBlocks : Nat) (gpuUs latencyUs : Rat) (l : Nat)
    (p : SpeculativePrefetcher) : Prop where
  gpu : p.gpuComputeTimePerLayerUs = gpuUs
  requested : p.stats.blocksRequested = kBlocks * l
  hit : p.stats.blocksHit = kBlocks * hitsBefore l
  stalls : p.stats.pipelineStalls = l - hitsBefore l
  penalty : p.stats.totalStallPenaltyUs = (l - hitsBefore l : Nat) * max 0 (latencyUs - gpuUs)

/-- The prefetcher before layer `l`. -/
structure BeforeLayer (kBlocks : Nat) (gpuUs latencyUs : Rat) (l : Nat)
    (p : SpeculativePrefetcher) : Prop where
  holds : p.HoldsStaged (max 512 (kBlocks * 4)) (stagedBefore kBlocks l)
  counted : CountedBefore kBlocks gpuUs latencyUs l p

variable {kBlocks l : Nat} {gpuUs latencyUs : Rat} {p : SpeculativePrefetcher}

theorem length_firstIds (n : Nat) : (firstIds n).length = n := by
  simp [firstIds]

theorem nodup_firstIds (n : Nat) : (firstIds n).Nodup :=
  List.nodup_range.map Nat.cast_injective

theorem firstIds_ne_nil {n : Nat} (hn : 0 < n) : firstIds n ≠ [] := by
  rw [← List.length_pos_iff, length_firstIds]
  exact hn

theorem stagedBefore_succ (kBlocks l : Nat) :
    stagedBefore kBlocks (l + 1) =
      stagedBefore kBlocks l ++ stagedKeys (((l : Int) + 1) % 32) (firstIds kBlocks) := by
  simp [stagedBefore, List.range_succ]

/-- Staged layers are layers of the predictor, and not the first one before the last is asked. -/
theorem layer_of_mem_stagedBefore {key : Int × Int} (h : key ∈ stagedBefore kBlocks l) :
    ∃ i < l, key.1 = ((i : Int) + 1) % 32 := by
  simp only [stagedBefore, stagedKeys, List.mem_flatMap, List.mem_range, List.mem_map] at h
  obtain ⟨i, hi, bid, -, rfl⟩ := h
  exact ⟨i, hi, rfl⟩

theorem isIn_before (h : p.HoldsStaged (max 512 (kBlocks * 4)) (stagedBefore kBlocks l))
    {bid : Int} (hbid : bid ∈ firstIds kBlocks) :
    p.isIn (some l) bid = decide (0 < l ∧ l < 32) := by
  have hiff : p.isIn (some l) bid = true ↔
      ((l : Int), bid) ∈ (stagedBefore kBlocks l).dedup.rtake (max 512 (kBlocks * 4)) := by
    rw [← h.buffer, ← Dict.contains_iff]
    rfl
  rw [Bool.eq_iff_iff, hiff, decide_eq_true_iff]
  constructor
  · intro hheld
    have hstaged : ((l : Int), bid) ∈ stagedBefore kBlocks l :=
      List.mem_dedup.mp (List.mem_of_mem_drop hheld)
    obtain ⟨i, hi, hlayer⟩ := layer_of_mem_stagedBefore hstaged
    dsimp only at hlayer
    omega
  · intro hl
    -- the layer before staged them last, and they fit
    obtain ⟨i, rfl⟩ : ∃ i, l = i + 1 := ⟨l - 1, by omega⟩
    have hlayer : ((i : Int) + 1) % 32 = ((i + 1 : Nat) : Int) := by omega
    rw [stagedBefore_succ, hlayer]
    apply mem_rtake_of_recent
    · simp only [stagedKeys, List.length_map, length_firstIds]
      omega
    · exact List.mem_map.mpr ⟨bid, hbid, rfl⟩

theorem BeforeLayer.asked (h : BeforeLayer kBlocks gpuUs latencyUs l p) (hk : 0 < kBlocks) :
    CountedBefore kBlocks gpuUs latencyUs (l + 1)
      (p.isStaged (firstIds kBlocks) (some l) latencyUs).2 := by
  obtain ⟨hgpu, hrequested, hhit, hstalls, hpenalty⟩ := h.counted
  have hne := firstIds_ne_nil hk
  by_cases hl : 0 < l ∧ l < 32
  · have hall : ∀ bid ∈ firstIds kBlocks, p.isIn (some l) bid = true := by
      intro bid hbid
      rw [isIn_before h.holds hbid, decide_eq_true hl]
    have hhits : hitsBefore (l + 1) = hitsBefore l + 1 := by unfold hitsBefore; omega
    have hsame : l + 1 - (hitsBefore l + 1) = l - hitsBefore l := by omega
    rw [isStaged_of_all hne hall]
    refine ⟨hgpu, ?_, ?_, ?_, ?_⟩
    · simp [hrequested, length_firstIds, Nat.mul_succ]
    · simp [hhit, hhits, length_firstIds, Nat.mul_succ]
    · simp [hstalls, hhits]
    · simp [hpenalty, hhits]
  · have hnone : ∀ bid ∈ firstIds kBlocks, p.isIn (some l) bid = false := by
      intro bid hbid
      rw [isIn_before h.holds hbid, decide_eq_false hl]
    have hhits : hitsBefore (l + 1) = hitsBefore l := by unfold hitsBefore; omega
    have hmore : l + 1 - hitsBefore l = l - hitsBefore l + 1 := by unfold hitsBefore; omega
    rw [isStaged_of_none hne hnone]
    refine ⟨hgpu, ?_, ?_, ?_, ?_⟩
    · simp [hrequested, length_firstIds, Nat.mul_succ]
    · simp [hhit, hhits]
    · simp [hstalls, hhits, hmore]
    · simp only [hpenalty, hhits, hmore, hgpu]
      push_cast
      ring

theorem holdsStaged_isStaged {capacity : Nat} {staged : List (Int × Int)}
    (h : p.HoldsStaged capacity staged) (blockIds : List Int) (layerId : Option Int)
    (latencyUs : Rat) : (p.isStaged blockIds layerId latencyUs).2.HoldsStaged capacity staged := by
  unfold isStaged
  split
  · exact h
  · exact ⟨h.bound, h.buffer, h.legacy⟩

theorem CountedBefore.stageBlocks (h : CountedBefore kBlocks gpuUs latencyUs l p)
    (layerId : Int) (blockIds : List Int) :
    CountedBefore kBlocks gpuUs latencyUs l (stageBlocks layerId blockIds p).2 := by
  obtain ⟨hgpu, hstats⟩ := stats_stageBlocks layerId blockIds p
  exact ⟨hgpu.trans h.gpu, (congrArg PrefetchStats.blocksRequested hstats).trans h.requested,
    (congrArg PrefetchStats.blocksHit hstats).trans h.hit,
    (congrArg PrefetchStats.pipelineStalls hstats).trans h.stalls,
    (congrArg PrefetchStats.totalStallPenaltyUs hstats).trans h.penalty⟩

theorem predict_of_nodup (layerId : Int) {blockIds : List Int} (hnodup : blockIds.Nodup) :
    NextLayerPredictor.predictNextLayerBlocks layerId blockIds 0 =
      ((layerId + 1) % 32, blockIds) := by
  have hfold : ∀ seen : List Int, (seen ++ blockIds).Nodup →
      blockIds.foldl (fun predicted bid =>
        if bid + 0 ∈ predicted then predicted else predicted ++ [bid + 0]) seen =
          seen ++ blockIds := by
    clear hnodup
    induction blockIds with
    | nil => simp
    | cons bid blockIds ih =>
        intro seen hseen
        have hnew : bid ∉ seen := by
          intro hold
          exact (List.nodup_append.mp hseen).2.2 bid hold bid List.mem_cons_self rfl
        rw [List.append_cons] at hseen
        rw [List.foldl_cons, Int.add_zero, if_neg hnew, ih _ hseen, ← List.append_cons]
  unfold NextLayerPredictor.predictNextLayerBlocks
  rw [hfold [] hnodup, List.nil_append]
  rfl

variable {σ : Type} (engine : SsdEngine σ)

theorem BeforeLayer.prefetchLayer (h : BeforeLayer kBlocks gpuUs latencyUs l p)
    (hk : 0 < kBlocks) (ssd : σ) :
    (prefetchLayer engine (firstIds kBlocks) latencyUs l p ssd).1 = .ok () ∧
      BeforeLayer kBlocks gpuUs latencyUs (l + 1)
        (prefetchLayer engine (firstIds kBlocks) latencyUs l p ssd).2.1 := by
  have hcapacity : 0 < max 512 (kBlocks * 4) := by omega
  have hasked := h.asked hk
  have hheld := holdsStaged_isStaged h.holds (firstIds kBlocks) (some l) latencyUs
  unfold InferencePipeline.prefetchLayer
  dsimp only
  generalize (p.isStaged (firstIds kBlocks) (some l) latencyUs).2 = asked at hasked hheld
  have hstaged := hheld.stageBlocks hcapacity (((l : Int) + 1) % 32) (firstIds kBlocks)
  have hcounted := hasked.stageBlocks (((l : Int) + 1) % 32) (firstIds kBlocks)
  rw [← stagedBefore_succ] at hstaged
  simp only [prefetchNextLayer, predict_of_nodup _ (nodup_firstIds kBlocks)]
  generalize stageBlocks (((l : Int) + 1) % 32) (firstIds kBlocks) asked = r at hstaged hcounted
  obtain ⟨answer, staged⟩ := r
  obtain ⟨hok, hstaged⟩ := hstaged
  dsimp only at hok
  subst hok
  cases engine.prefetchKv with
  | none => exact ⟨rfl, hstaged, hcounted⟩
  | some prefetchKv => exact ⟨rfl, hstaged, hcounted⟩

theorem BeforeLayer.prefetchLayers (h : BeforeLayer kBlocks gpuUs latencyUs l p)
    (hk : 0 < kBlocks) (n : Nat) (ssd : σ) :
    (prefetchLayers engine (firstIds kBlocks) latencyUs (List.range' l n) p ssd).1 = .ok () ∧
      BeforeLayer kBlocks gpuUs latencyUs (l + n)
        (prefetchLayers engine (firstIds kBlocks) latencyUs (List.range' l n) p ssd).2.1 := by
  induction n generalizing l p ssd with
  | zero => exact ⟨rfl, h⟩
  | succ n ih =>
      obtain ⟨hok, hnext⟩ := h.prefetchLayer engine hk ssd
      rw [List.range'_succ, InferencePipeline.prefetchLayers]
      generalize InferencePipeline.prefetchLayer engine (firstIds kBlocks) latencyUs l p ssd = r
        at hok hnext
      obtain ⟨answer, p', ssd'⟩ := r
      dsimp only at hok hnext
      subst hok
      have hrest := ih hnext ssd'
      rwa [Nat.add_assoc, Nat.add_comm 1 n] at hrest

theorem beforeLayer_clear (kBlocks : Nat) (latencyUs : Rat) (p : SpeculativePrefetcher) :
    BeforeLayer kBlocks p.gpuComputeTimePerLayerUs latencyUs 0
      { p.clear with bufferCapacity := max 512 (kBlocks * 4) } where
  holds := ⟨rfl, by simp [clear, stagedBefore, Dict.keys, Dict.empty, List.rtake],
    by simp [clear, stagedBefore, firstKeys, firstOccurrences]⟩
  counted := by constructor <;> simp [clear, hitsBefore, PrefetchStats.zero]

/-! ## The report -/

/-- Hit rate, stalls and penalty of a run, with the compute time of a layer if there is a
prefetcher. -/
def prefetched (numLayers : Nat) (latencyUs : Rat) : Option Rat → Rat × Nat × Rat
  | none => (0, numLayers, numLayers * latencyUs)
  | some gpuUs =>
      let stalls := numLayers - hitsBefore numLayers
      ((hitsBefore numLayers : Rat) / numLayers, stalls, stalls * max 0 (latencyUs - gpuUs))

def figures (x : Setting) (gpuUs : Option Rat) : Measured :=
  let tensorAwareUs := 10 + 30 * ((x.kBlocks + 7) / 8)
  let ofLayers := prefetched x.numLayers tensorAwareUs gpuUs
  { conventionalUs := 10 + 30 * min x.kBlocks 65536
    tensorAwareUs := tensorAwareUs
    prefetchHitRate := ofLayers.1
    stalls := ofLayers.2.1
    bubblePenaltyUs := ofLayers.2.2 }

theorem measurePrefetch_eq {numLayers : Nat} (hlayers : 0 < numLayers) (hk : 0 < kBlocks)
    (latencyUs : Rat) (s : AISSDSystem σ) :
    (measurePrefetch engine numLayers kBlocks latencyUs s).1 =
      .ok (prefetched numLayers latencyUs
        (s.prefetcher.map SpeculativePrefetcher.gpuComputeTimePerLayerUs)) := by
  unfold measurePrefetch
  cases s.prefetcher with
  | none => rfl
  | some p =>
      obtain ⟨hok, -, hcounted⟩ :=
        (beforeLayer_clear kBlocks latencyUs p).prefetchLayers engine hk numLayers s.ssdEngine
      rw [← List.range_eq_range', Nat.zero_add] at hcounted
      rw [← List.range_eq_range'] at hok
      have hrate : ((kBlocks * hitsBefore numLayers : Nat) : Rat) / (kBlocks * numLayers : Nat) =
          hitsBefore numLayers / numLayers := by
        have hne : (kBlocks : Rat) ≠ 0 := Nat.cast_ne_zero.mpr hk.ne'
        push_cast
        exact mul_div_mul_left _ _ hne
      dsimp only
      rw [hok]
      simp only [Except.map, hitRate, hcounted.requested, hcounted.hit, hcounted.stalls,
        hcounted.penalty, if_pos (Nat.mul_pos hk hlayers), hrate, Option.map, prefetched]

/-- Whatever the engine, the setting and what the prefetcher had staged before: without layers
the traffic is divided by zero, more blocks than the conventional drive has pages are refused,
and every other run reports these figures. -/
theorem run_simulation_figures (round : Rat → Nat → Rat) (s : AISSDSystem σ) (x : Setting) :
    (runSimulation engine round s x).1 =
      if x.numLayers = 0 then .error .zeroDivisionError
      else if 524288 < x.kBlocks then
        .error (ConventionalFtl.capacityError defaultConfig.ftlGeometry 524288)
      else .ok (report round x
        (figures x (s.prefetcher.map SpeculativePrefetcher.gpuComputeTimePerLayerUs))) := by
  have hrequested : x.bytesRequested = 0 ↔ x.numLayers = 0 := by
    simp [Setting.bytesRequested, x.coldBlocks_pos.ne']
  unfold runSimulation
  by_cases hlayers : x.numLayers = 0
  · rw [if_pos (hrequested.mpr hlayers), if_pos hlayers]
  · rw [if_neg (mt hrequested.mp hlayers), if_neg hlayers, measureDrives_eq x.kBlocks_pos]
    by_cases hfull : 524288 < x.kBlocks
    · rw [if_pos hfull, if_pos hfull]
    · rw [if_neg hfull, if_neg hfull]
      dsimp only
      have hmeasured := measurePrefetch_eq engine (Nat.pos_of_ne_zero hlayers) x.kBlocks_pos
        ((10 + 30 * ((x.kBlocks + 7) / 8) : Nat) : Rat) s
      generalize measurePrefetch engine x.numLayers x.kBlocks _ s = r at hmeasured
      obtain ⟨answer, s'⟩ := r
      dsimp only at hmeasured
      subst hmeasured
      rfl

end InferencePipeline

end AiSsd.Api
