import AiSsd.Ftl.ChannelBalance
import AiSsd.Ftl.LocationCodec
import AiSsd.Ftl.PageAgreement
import AiSsd.Ftl.StoreSafety

/-!
# Blocks stored and read in sequence

Blocks `0, 1, 2, …` are stored one after another and then read in one batch. The latency of the
batch is that of the most loaded channel. Conventional allocation fills a channel before it
takes the next one; tensor-aware allocation spreads the blocks of a head over all of them.
-/

namespace AiSsd.Ftl

open Lib Lib.Balance

namespace FtlGeometry

variable (geo : FtlGeometry)

def pagesPerChannel : Nat :=
  geo.diesPerChannel * geo.planesPerDie * geo.blocksPerPlane * geo.pagesPerBlock

theorem pagesPerChannel_pos : 0 < geo.pagesPerChannel :=
  Nat.mul_pos (Nat.mul_pos (Nat.mul_pos geo.dies_pos geo.planes_pos) geo.blocks_pos) geo.pages_pos

theorem ch_unravel (idx : Nat) : (geo.unravel idx).ch = idx / geo.pagesPerChannel := by
  simp only [unravel, pagesPerChannel, Nat.div_div_eq_div_mul]
  congr 1
  ac_rfl

end FtlGeometry

theorem foldl_max_eq {loads : List Nat} {load : Nat} (hle : ∀ x ∈ loads, x ≤ load)
    (hmem : load ∈ loads) : loads.foldl max 0 = load := by
  rw [List.foldl_max, List.max?_eq_some_iff.mpr ⟨hmem, hle⟩]
  simp

/-- A channel that is filled before the next one has as many of the first blocks as it takes. -/
theorem count_filled {size : Nat} (hsize : 0 < size) (ch n : Nat) :
    Nat.count (fun i => i / size = ch) n ≤ min n size ∧
      Nat.count (fun i => i / size = 0) n = min n size := by
  simp only [Nat.count_eq_card_filter_range]
  constructor
  · apply Nat.le_min.mpr
    constructor
    · exact (Finset.card_filter_le _ _).trans (by simp)
    · -- the places within the channel are different
      have hplaces : ((Finset.range n).filter fun i => i / size = ch).card ≤
          (Finset.range size).card := by
        apply Finset.card_le_card_of_injOn (· % size)
        · intro i _
          simpa using Nat.mod_lt i hsize
        · intro i hi j hj hij
          simp only [Finset.coe_filter, Set.mem_ofPred_eq] at hi hj
          exact Nat.ext_div_mod (hi.2.trans hj.2.symm) hij
      simpa using hplaces
  · have hfirst : (Finset.range n).filter (fun i => i / size = 0) =
        Finset.range (min n size) := by
      ext i
      simp [Nat.div_eq_zero_iff]
      omega
    rw [hfirst, Finset.card_range]

namespace StorageSimulator

variable {cfg : SimulatorConfig} {s : StorageSimulator cfg}

/-! ## What a batch read sees -/

theorem getLocation_readPage (s : StorageSimulator cfg) (l : PhysicalLocation) :
    (s.readPage l).getLocation = s.getLocation := by
  unfold readPage
  split <;> rfl

theorem readEach_locations (blockIds : List Int) (locations : List Text)
    (s : StorageSimulator cfg) :
    (readEach blockIds locations s).1 = locations ++ blockIds.filterMap s.getLocation := by
  induction blockIds generalizing locations s with
  | nil => simp [readEach]
  | cons bid blockIds ih =>
      rw [readEach]
      split
      · rename_i hnone
        rw [ih, List.filterMap_cons_none hnone]
      · rename_i loc hsome
        split <;> simp [ih, getLocation_readPage, List.filterMap_cons_some hsome]

/-- The first `n` block ids. -/
def firstIds (n : Nat) : List Int := (List.range n).map Nat.cast

/-- The blocks `0, …, n - 1` are on these channels. -/
def OnChannels (s : StorageSimulator cfg) (channelAt : Nat → Nat) (n : Nat) : Prop :=
  ∀ i < n, ∃ l : PhysicalLocation, s.getLocation i = some l.text ∧ l.ch = channelAt i

variable {channelAt : Nat → Nat} {n : Nat}

theorem OnChannels.storeBlock (h : s.OnChannels channelAt n) {block : KVBlock}
    {l : PhysicalLocation} (hid : block.blockId = n) (hnext : s.nextPage block = some l)
    (hch : l.ch = channelAt n) : (s.storeBlock block).2.OnChannels channelAt (n + 1) := by
  intro i hi
  rw [getLocation_storeBlock hnext, hid]
  by_cases hlast : (n : Int) = i
  · obtain rfl : n = i := by omega
    exact ⟨l, if_pos rfl, hch⟩
  · rw [if_neg hlast]
    exact h i (by omega)

/-- The channel loads of the batch, one entry for each request. -/
theorem OnChannels.loads (h : s.OnChannels channelAt n) :
    ((firstIds n).filterMap s.getLocation).map extractChannel = (List.range n).map channelAt := by
  induction n with
  | zero => rfl
  | succ n ih =>
      obtain ⟨l, hloc, hch⟩ := h n (Nat.lt_succ_self n)
      have hbefore : s.OnChannels channelAt n := fun i hi => h i (Nat.lt_succ_of_lt hi)
      have hids : firstIds (n + 1) = firstIds n ++ [(n : Int)] := by
        simp [firstIds, List.range_succ]
      rw [hids, List.filterMap_append, List.map_append, ih hbefore, List.range_succ,
        List.map_append]
      simp [hloc, extractChannel_text, hch]

/-- The latency of a batch whose most loaded channel serves `load` of the requests. -/
theorem OnChannels.latency (h : s.OnChannels channelAt n) {load : Nat}
    (hle : ∀ i < n, Nat.count (fun j => channelAt j = channelAt i) n ≤ load)
    (hmax : ∃ i < n, Nat.count (fun j => channelAt j = channelAt i) n = load) :
    (s.estimateReadLatency (firstIds n)).1 = 10 + 30 * load := by
  have hcount : ∀ ch, ((List.range n).map channelAt).count ch =
      Nat.count (fun j => channelAt j = ch) n := by
    intro ch
    simp [List.count, List.countP_map, Nat.count, Function.comp_def, ← Bool.beq_eq_decide_eq]
  have hloads := h.loads
  obtain ⟨i, hi, hload⟩ := hmax
  have hne : (firstIds n).filterMap s.getLocation ≠ [] := by
    intro hnil
    rw [hnil] at hloads
    have hlen := congrArg List.length hloads
    simp at hlen
    omega
  simp only [estimateReadLatency, readEach_locations, List.nil_append, batchReadLatency,
    if_neg hne, hloads]
  have hfold : (((List.range n).map channelAt).map fun ch =>
      ((List.range n).map channelAt).count ch).foldl max 0 = load := by
    apply foldl_max_eq
    · simpa [hcount] using hle
    · exact List.mem_map.mpr ⟨channelAt i, List.mem_map.mpr ⟨i, List.mem_range.mpr hi, rfl⟩,
        (hcount _).trans hload⟩
  rw [hfold]
  omega

/-! ## Conventional and tensor-aware stores -/

/-- A conventional drive that has stored the blocks before `n`. -/
structure FilledTo (s : StorageSimulator cfg) (n : Nat) : Prop where
  ftl_eq : ∃ t, s.allocator.ftl = .conventional t ∧ t.linearCounter = n
  onChannels : s.OnChannels (fun i => i / cfg.ftlGeometry.pagesPerChannel) n

theorem filledTo_init : (init cfg .conventional).FilledTo 0 :=
  ⟨⟨_, rfl, rfl⟩, fun i hi => absurd hi (Nat.not_lt_zero i)⟩

theorem FilledTo.storeBlock_room (h : s.FilledTo n) {block : KVBlock}
    (hid : block.blockId = n) (hroom : n < cfg.ftlGeometry.totalPages) :
    ∃ loc, (s.storeBlock block).1 = .ok loc ∧ (s.storeBlock block).2.FilledTo (n + 1) := by
  obtain ⟨t, hftl, hcounter⟩ := h.ftl_eq
  have hnext := nextPage_conventional hftl block
  rw [if_neg (by omega)] at hnext
  obtain ⟨t', hftl', hcounter'⟩ := ftl_storeBlock hftl (by omega) block
  refine ⟨_, answer_storeBlock hnext, ⟨t', hftl', by omega⟩, ?_⟩
  apply h.onChannels.storeBlock hid hnext
  rw [hcounter, FtlGeometry.ch_unravel]

theorem FilledTo.storeBlock_full (h : s.FilledTo n) {block : KVBlock}
    (hid : block.blockId = n) (hfull : cfg.ftlGeometry.totalPages ≤ n) :
    s.storeBlock block = (.error (ConventionalFtl.capacityError cfg.ftlGeometry n), s) := by
  obtain ⟨t, hftl, hcounter⟩ := h.ftl_eq
  have hnext := nextPage_conventional hftl block
  rw [if_pos (by omega)] at hnext
  rw [storeBlock_refused hnext, hid]

theorem FilledTo.latency (h : s.FilledTo n) (hn : 0 < n) :
    (s.estimateReadLatency (firstIds n)).1 =
      10 + 30 * min n cfg.ftlGeometry.pagesPerChannel := by
  have hpages := cfg.ftlGeometry.pagesPerChannel_pos
  apply h.onChannels.latency
  · intro i _
    exact (count_filled hpages _ n).1
  · refine ⟨0, hn, ?_⟩
    rw [Nat.zero_div]
    exact (count_filled hpages 0 n).2

/-- A tensor-aware drive that has stored the blocks before `n`. -/
structure SpreadTo (s : StorageSimulator cfg) (blockAt : Nat → KVBlock) (n : Nat) : Prop where
  ftl_eq : ∃ t, s.allocator.ftl = .tensorAware t
  onChannels : s.OnChannels
    (fun i => (TensorAwareFtl.channelOf cfg.ftlGeometry (blockAt i) : Nat)) n

theorem spreadTo_init (blockAt : Nat → KVBlock) :
    (init cfg .tensorAware).SpreadTo blockAt 0 :=
  ⟨⟨_, rfl⟩, fun i hi => absurd hi (Nat.not_lt_zero i)⟩

theorem SpreadTo.storeBlock {blockAt : Nat → KVBlock} (h : s.SpreadTo blockAt n)
    {block : KVBlock} (hid : block.blockId = n)
    (hch : TensorAwareFtl.channelOf cfg.ftlGeometry block =
      TensorAwareFtl.channelOf cfg.ftlGeometry (blockAt n)) :
    ∃ loc, (s.storeBlock block).1 = .ok loc ∧
      (s.storeBlock block).2.SpreadTo blockAt (n + 1) := by
  obtain ⟨t, hftl⟩ := h.ftl_eq
  have hnext : s.nextPage block = some (t.placement block) := by
    rw [nextPage, hftl]
    rfl
  refine ⟨_, answer_storeBlock hnext, ?_, h.onChannels.storeBlock hid hnext ?_⟩
  · refine ⟨(t.allocate { block with storageTier := "SSD" }).2, ?_⟩
    unfold StorageSimulator.storeBlock KVStorageAllocator.storeBlock AnyFtl.allocate
    simp only [hftl, TensorAwareFtl.allocate, parsePhysicalLocation_text, storeAt_allocator]
  · exact congrArg Fin.val hch

theorem SpreadTo.latency {blockAt : Nat → KVBlock} (h : s.SpreadTo blockAt n)
    (happart : WindowsApart fun i => TensorAwareFtl.channelOf cfg.ftlGeometry (blockAt i))
    (hn : 0 < n) :
    (s.estimateReadLatency (firstIds n)).1 =
      10 + 30 * ((n + (cfg.channels - 1)) / cfg.channels) := by
  have hchannels : cfg.ftlGeometry.channels = cfg.channels := rfl
  apply h.onChannels.latency
  · intro i _
    simpa [load, Fin.ext_iff, hchannels] using load_le_begun happart n
      (TensorAwareFtl.channelOf cfg.ftlGeometry (blockAt i))
  · obtain ⟨i, hi, hload⟩ := exists_load_begun happart hn
    exact ⟨i, hi, by simpa [load, Fin.ext_iff, hchannels] using hload⟩

end StorageSimulator

end AiSsd.Ftl
