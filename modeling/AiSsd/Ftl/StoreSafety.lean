import AiSsd.Ftl.PageAgreement

/-!
# Stores stay inside the arrays

The translation layer is built with its own numbers of dies, planes and blocks. A store is
sound as long as the page it is given lies in the arrays of the simulator and is free or
already the block's. Conventional allocation over arrays with at least those numbers is
always sound; tensor-aware allocation places a block by its coordinates, and wraps.
-/

namespace AiSsd.Ftl.StorageSimulator

open Lib

variable {cfg : SimulatorConfig}

/-- What a store answers, and where it leaves the block. -/
structure StoreSound (s : StorageSimulator cfg) (block : KVBlock) : Prop where
  located : ∀ loc, (s.allocator.storeBlock { block with storageTier := "SSD" }).1 = .ok loc →
    ∃ l, parsePhysicalLocation loc = some l ∧ l.Within cfg.arrays
  raises : ∀ err, (s.storeBlock block).1 = .error err →
    err = ConventionalFtl.capacityError cfg.ftlGeometry block.blockId
  programmed : ∀ loc, (s.storeBlock block).1 = .ok loc →
    ∃ l, parsePhysicalLocation loc = some l ∧ (s.storeBlock block).2.Holds l block.blockId

def Sound (s : StorageSimulator cfg) : Op → Prop
  | .storeBlock block => s.StoreSound block
  | .estimateReadLatency _ => True

/-- The page of the next block lies in the arrays, and is free or the block's already. -/
def Fits (s : StorageSimulator cfg) : Op → Prop
  | .storeBlock block => ∀ l, s.nextPage block = some l →
      l.Within cfg.arrays ∧ ((s.pages l).state = .free ∨ s.Holds l block.blockId)
  | .estimateReadLatency _ => True

theorem holds_storeBlock {s : StorageSimulator cfg} {block : KVBlock} {l : PhysicalLocation}
    (h : s.nextPage block = some l) (hl : l.Within cfg.arrays) :
    (s.storeBlock block).2.Holds l block.blockId ↔
      (s.pages l).state = .free ∨ s.Holds l block.blockId := by
  have hpages := pages_storeBlock h
  by_cases hfree : (s.pages l).state = .free
  · rw [if_pos ⟨hl, hfree⟩] at hpages
    refine iff_of_true ⟨hl, ?_, ?_⟩ (Or.inl hfree)
    · rw [hpages, Function.update_self]
      rfl
    · rw [hpages, Function.update_self]
      rfl
  · rw [if_neg (fun hwas => hfree hwas.2)] at hpages
    constructor
    · rintro ⟨_, hvalid, hholds⟩
      rw [hpages] at hvalid hholds
      exact Or.inr ⟨hl, hvalid, hholds⟩
    · rintro (hwas | ⟨_, hvalid, hholds⟩)
      · exact absurd hwas hfree
      · exact ⟨hl, by rw [hpages]; exact hvalid, by rw [hpages]; exact hholds⟩

theorem storeSound_refused {s : StorageSimulator cfg} {block : KVBlock}
    (h : s.nextPage block = none) : s.StoreSound block := by
  have hstore := storeBlock_refused h
  constructor
  · intro loc hloc
    rcases s.allocator.storeBlock_spec { block with storageTier := "SSD" } with
      ⟨-, halloc⟩ | ⟨l, a, hnext, -, -⟩
    · rw [halloc] at hloc
      cases hloc
    · cases h.symm.trans hnext
  · intro err herr
    rw [hstore] at herr
    exact (Except.error.inj herr).symm
  · intro loc hloc
    rw [hstore] at hloc
    cases hloc

theorem storeSound_placed_iff {s : StorageSimulator cfg} {block : KVBlock}
    {l : PhysicalLocation} (h : s.nextPage block = some l) :
    s.StoreSound block ↔
      l.Within cfg.arrays ∧ ((s.pages l).state = .free ∨ s.Holds l block.blockId) := by
  have hanswer : (s.allocator.storeBlock { block with storageTier := "SSD" }).1 = .ok l.text := by
    rcases s.allocator.storeBlock_spec { block with storageTier := "SSD" } with
      ⟨hnext, -⟩ | ⟨l', a, hnext, halloc, -⟩
    · cases h.symm.trans hnext
    · rw [halloc, Option.some.inj (h.symm.trans hnext)]
  constructor
  · intro hsound
    obtain ⟨l₁, hparse, hl⟩ := hsound.located l.text hanswer
    obtain rfl := Option.some.inj ((parsePhysicalLocation_text l).symm.trans hparse)
    refine ⟨hl, (holds_storeBlock h hl).mp ?_⟩
    obtain ⟨l₂, hparse₂, hholds⟩ := hsound.programmed l.text (answer_storeBlock h)
    rwa [Option.some.inj (hparse.symm.trans hparse₂)]
  · rintro ⟨hl, hpage⟩
    have hok := answer_storeBlock h
    constructor
    · intro loc hloc
      obtain rfl := Except.ok.inj (hanswer.symm.trans hloc)
      exact ⟨l, parsePhysicalLocation_text l, hl⟩
    · intro err herr
      cases hok.symm.trans herr
    · intro loc hloc
      obtain rfl := Except.ok.inj (hok.symm.trans hloc)
      exact ⟨l, parsePhysicalLocation_text l, (holds_storeBlock h hl).mpr hpage⟩

theorem sound_iff_fits (s : StorageSimulator cfg) (op : Op) : s.Sound op ↔ s.Fits op := by
  cases op with
  | estimateReadLatency blockIds => rfl
  | storeBlock block =>
      simp only [Sound, Fits]
      cases hnext : s.nextPage block with
      | none => exact iff_of_true (storeSound_refused hnext) (fun l hl => by cases hl)
      | some l => simp [storeSound_placed_iff hnext]

/-- Every store of a run is sound exactly when each fits the arrays it finds. -/
theorem stores_sound_iff (mode : FtlMode) (ops : List Op) :
    (∀ pre op, pre ++ [op] <+: ops → Sound ((machine cfg).exec (init cfg mode) pre) op) ↔
      (machine cfg).Meets Fits (init cfg mode) ops := by
  rw [← (machine cfg).meets_iff_forall]
  exact (machine cfg).meets_congr sound_iff_fits _ ops

/-! ## Two kinds of drives -/

/-- One die a channel, where the translation layer stripes over four. -/
def oneDie : SimulatorConfig where
  channels := 8
  diesPerChannel := 1
  planesPerDie := 2
  blocksPerPlane := 64
  channels_pos := FtlGeometry.default_channels
  dies_pos := Nat.one_pos
  planes_pos := FtlGeometry.default_planes
  blocks_pos := FtlGeometry.default_blocks

/-- The first block of layer 1, which the layer's stripe puts on die 1. -/
def layerOneBlock : KVBlock := ⟨0, 1, 0, 16, 0, "DRAM", none⟩

/-- The location is outside the arrays, and is answered. -/
theorem store_outside_the_arrays :
    ((init oneDie .tensorAware).storeBlock layerOneBlock).1 =
        .ok (PhysicalLocation.text ⟨0, 1, 0, 0, 0⟩) ∧
      ¬ (init oneDie .tensorAware).StoreSound layerOneBlock := by
  have hnext : (init oneDie .tensorAware).nextPage layerOneBlock = some ⟨0, 1, 0, 0, 0⟩ := by
    decide +kernel
  constructor
  · exact answer_storeBlock hnext
  · intro hsound
    have hl := ((storeSound_placed_iff hnext).mp hsound).1
    exact absurd hl (by decide)

theorem nextPage_conventional {s : StorageSimulator cfg} {t : ConventionalFtl}
    (hftl : s.allocator.ftl = .conventional t) (block : KVBlock) :
    s.nextPage block = if t.linearCounter ≥ cfg.ftlGeometry.totalPages then none
      else some (cfg.ftlGeometry.unravel t.linearCounter) := by
  rw [StorageSimulator.nextPage, hftl]
  rfl

theorem ftl_storeBlock {s : StorageSimulator cfg} {t : ConventionalFtl}
    (hftl : s.allocator.ftl = .conventional t)
    (hroom : t.linearCounter < cfg.ftlGeometry.totalPages) (block : KVBlock) :
    ∃ t', (s.storeBlock block).2.allocator.ftl = .conventional t' ∧
      t'.linearCounter = t.linearCounter + 1 := by
  have halloc := ConventionalFtl.allocate_room hroom { block with storageTier := "SSD" }
  refine ⟨(ConventionalFtl.allocate cfg.ftlGeometry t { block with storageTier := "SSD" }).2,
    ?_, by rw [halloc]⟩
  unfold StorageSimulator.storeBlock KVStorageAllocator.storeBlock AnyFtl.allocate
  simp only [hftl, halloc, parsePhysicalLocation_text, storeAt_allocator]

end AiSsd.Ftl.StorageSimulator
