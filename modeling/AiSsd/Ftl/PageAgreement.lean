import AiSsd.Ftl.StorageSimulator
import AiSsd.Lib.Machine

/-!
# Translation tables and NAND pages

The translation tables and the pages are two records of where a block is. They agree when
each mapped block is held by the page at its location and each valid page is the location
of a mapped block. No operation invalidates a page, and a page that is not free is not
programmed, so they stay in agreement exactly as long as every stored block is new and
meets a free page, or is stored again onto the page it already has.
-/

namespace AiSsd.Ftl.StorageSimulator

open Lib

variable {cfg : SimulatorConfig}

/-! ## Runs -/

inductive Op where
  | storeBlock (block : KVBlock)
  | estimateReadLatency (blockIds : List Int)

inductive Answer where
  | location (loc : Text)
  | latency (us : Nat)

def step (s : StorageSimulator cfg) : Op → Except PyErr Answer × StorageSimulator cfg
  | .storeBlock block => let r := s.storeBlock block; (r.1.map .location, r.2)
  | .estimateReadLatency blockIds =>
      let r := s.estimateReadLatency blockIds
      (.ok (.latency r.1), r.2)

variable (cfg) in
def machine : Machine (StorageSimulator cfg) Op (Except PyErr Answer) where
  step := step

/-- The page the translation layer hands out for the next block, if it does not refuse. -/
def nextPage (s : StorageSimulator cfg) (block : KVBlock) : Option PhysicalLocation :=
  s.allocator.ftl.nextPage block

structure Holds (s : StorageSimulator cfg) (l : PhysicalLocation) (blockId : Int) : Prop where
  within : l.Within cfg.arrays
  valid : (s.pages l).state = .valid
  holds : (s.pages l).dataBlockId = some blockId

/-! ## What one call does -/

/-- The nested range checks ask that the page is in the arrays. -/
theorem storeAt_eq (s : StorageSimulator cfg) (blockId : Int) (l : PhysicalLocation) :
    s.storeAt blockId l = if l.Within cfg.arrays then s.programPage blockId l else s := by
  unfold storeAt PhysicalLocation.Within
  simp only [ite_and]

theorem storeAt_allocator (s : StorageSimulator cfg) (blockId : Int) (l : PhysicalLocation) :
    (s.storeAt blockId l).allocator = s.allocator := by
  rw [storeAt_eq]
  unfold programPage
  repeat' split
  all_goals rfl

/-- Only the page of the location changes, and only when it is in the arrays and free. -/
theorem storeAt_pages (s : StorageSimulator cfg) (blockId : Int) (l : PhysicalLocation) :
    (s.storeAt blockId l).pages =
      if l.Within cfg.arrays ∧ (s.pages l).state = .free then
        Function.update s.pages l ((s.pages l).program blockId)
      else s.pages := by
  rw [storeAt_eq]
  by_cases hwithin : l.Within cfg.arrays
  · by_cases hfree : (s.pages l).state = .free
    · simp [programPage, hwithin, hfree]
    · simp [programPage, hwithin, hfree]
  · simp [hwithin]

theorem storeBlock_refused {s : StorageSimulator cfg} {block : KVBlock}
    (h : s.nextPage block = none) :
    s.storeBlock block =
      (.error (ConventionalFtl.capacityError cfg.ftlGeometry block.blockId), s) := by
  rcases s.allocator.storeBlock_spec { block with storageTier := "SSD" } with
    ⟨-, hstore⟩ | ⟨l, a, hnext, -, -⟩
  · simp only [storeBlock, hstore]
  · cases h.symm.trans hnext

/-- A block that is not refused is mapped to the next page, and its page looked up. -/
theorem storeBlock_placed {s : StorageSimulator cfg} {block : KVBlock} {l : PhysicalLocation}
    (h : s.nextPage block = some l) :
    ∃ a : KVStorageAllocator cfg.ftlGeometry,
      s.storeBlock block = (.ok l.text, storeAt { s with allocator := a } block.blockId l) ∧
      ∀ b, a.getLocation b = if block.blockId = b then some l.text else s.getLocation b := by
  rcases s.allocator.storeBlock_spec { block with storageTier := "SSD" } with
    ⟨hnext, -⟩ | ⟨l', a, hnext, hstore, hloc⟩
  · cases h.symm.trans hnext
  · obtain rfl : l = l' := Option.some.inj (h.symm.trans hnext)
    refine ⟨a, ?_, hloc⟩
    simp only [storeBlock, hstore, parsePhysicalLocation_text]

theorem answer_storeBlock {s : StorageSimulator cfg} {block : KVBlock} {l : PhysicalLocation}
    (h : s.nextPage block = some l) : (s.storeBlock block).1 = .ok l.text := by
  obtain ⟨a, hstore, -⟩ := storeBlock_placed h
  rw [hstore]

theorem getLocation_storeBlock {s : StorageSimulator cfg} {block : KVBlock}
    {l : PhysicalLocation} (h : s.nextPage block = some l) (b : Int) :
    (s.storeBlock block).2.getLocation b =
      if block.blockId = b then some l.text else s.getLocation b := by
  obtain ⟨a, hstore, hloc⟩ := storeBlock_placed h
  rw [hstore, getLocation, storeAt_allocator]
  exact hloc b

theorem pages_storeBlock {s : StorageSimulator cfg} {block : KVBlock}
    {l : PhysicalLocation} (h : s.nextPage block = some l) :
    (s.storeBlock block).2.pages =
      if l.Within cfg.arrays ∧ (s.pages l).state = .free then
        Function.update s.pages l ((s.pages l).program block.blockId)
      else s.pages := by
  obtain ⟨a, hstore, -⟩ := storeBlock_placed h
  rw [hstore]
  exact storeAt_pages _ _ _

theorem readEach_keeps (blockIds : List Int) (locations : List Text) (s : StorageSimulator cfg) :
    (readEach blockIds locations s).2.allocator = s.allocator ∧
      ∀ l, ((readEach blockIds locations s).2.pages l).state = (s.pages l).state ∧
        ((readEach blockIds locations s).2.pages l).dataBlockId = (s.pages l).dataBlockId := by
  induction blockIds generalizing locations s with
  | nil => exact ⟨rfl, fun _ => ⟨rfl, rfl⟩⟩
  | cons bid blockIds ih =>
      rw [readEach]
      split
      · exact ih locations s
      · split
        · exact ih _ s
        · rename_i page _
          obtain ⟨halloc, hpages⟩ := ih (locations ++ [_]) (s.readPage page)
          rw [halloc]
          refine ⟨by unfold readPage; split <;> rfl, fun l => ?_⟩
          rw [(hpages l).1, (hpages l).2, readPage]
          split
          · by_cases hl : l = page
            · subst hl
              simp [FlashPage.read]
            · simp [Function.update_of_ne hl]
          · exact ⟨rfl, rfl⟩

/-! ## Agreement -/

structure Agree (s : StorageSimulator cfg) : Prop where
  mapped : ∀ b loc, s.getLocation b = some loc →
    ∃ l, loc = PhysicalLocation.text l ∧ s.Holds l b
  live : ∀ l, l.Within cfg.arrays → (s.pages l).state = .valid →
    ∃ b, s.getLocation b = some l.text

theorem Agree.holds {s : StorageSimulator cfg} (h : s.Agree) {b : Int} {l : PhysicalLocation}
    (hloc : s.getLocation b = some l.text) : s.Holds l b := by
  obtain ⟨l', htext, hholds⟩ := h.mapped b l.text hloc
  rwa [PhysicalLocation.text_injective htext]

theorem Agree.located {s : StorageSimulator cfg} (h : s.Agree) {b : Int} {l : PhysicalLocation}
    (hl : s.Holds l b) : s.getLocation b = some l.text := by
  obtain ⟨b', hloc⟩ := h.live l hl.within hl.valid
  have hb := (h.holds hloc).holds
  rw [hl.holds, Option.some.injEq] at hb
  rwa [hb]

theorem agree_init (mode : FtlMode) : (init cfg mode).Agree := by
  constructor
  · intro b loc hloc
    cases mode <;> cases hloc
  · intro l _ hvalid
    cases hvalid

theorem Agree.congr {s s' : StorageSimulator cfg} (h : s.Agree)
    (hloc : ∀ b, s'.getLocation b = s.getLocation b)
    (hpages : ∀ l, (s'.pages l).state = (s.pages l).state ∧
      (s'.pages l).dataBlockId = (s.pages l).dataBlockId) : s'.Agree := by
  constructor
  · intro b loc hb
    rw [hloc] at hb
    obtain ⟨l, htext, hholds⟩ := h.mapped b loc hb
    exact ⟨l, htext, hholds.within, (hpages l).1.trans hholds.valid,
      (hpages l).2.trans hholds.holds⟩
  · intro l hl hvalid
    obtain ⟨b, hb⟩ := h.live l hl ((hpages l).1.symm.trans hvalid)
    exact ⟨b, (hloc b).trans hb⟩

/-- The block to store is new and its page is in the arrays and free, or it is stored onto
the page it has. -/
def KeepsAgreement (s : StorageSimulator cfg) : Op → Prop
  | .storeBlock block => ∀ l, s.nextPage block = some l →
      (s.getLocation block.blockId = none ∧ l.Within cfg.arrays ∧ (s.pages l).state = .free) ∨
        s.getLocation block.blockId = some l.text
  | .estimateReadLatency _ => True

theorem Agree.storeBlock_new {s : StorageSimulator cfg} (h : s.Agree) {block : KVBlock}
    {l : PhysicalLocation} (hnext : s.nextPage block = some l)
    (hnew : s.getLocation block.blockId = none) (hl : l.Within cfg.arrays)
    (hfree : (s.pages l).state = .free) : (s.storeBlock block).2.Agree := by
  have hpages := pages_storeBlock hnext
  rw [if_pos ⟨hl, hfree⟩] at hpages
  -- every valid page of the old state is another one
  have hother : ∀ l', (s.pages l').state = .valid → l' ≠ l := by
    intro l' hvalid heq
    rw [heq, hfree] at hvalid
    cases hvalid
  constructor
  · intro b loc hloc
    rw [getLocation_storeBlock hnext] at hloc
    by_cases hb : block.blockId = b
    · rw [if_pos hb, Option.some.injEq] at hloc
      refine ⟨l, hloc.symm, hl, ?_, ?_⟩
      · rw [hpages, Function.update_self]
        rfl
      · rw [hpages, Function.update_self, ← hb]
        rfl
    · rw [if_neg hb] at hloc
      obtain ⟨l', htext, hholds⟩ := h.mapped b loc hloc
      have hne := hother l' hholds.valid
      refine ⟨l', htext, hholds.within, ?_, ?_⟩
      · rw [hpages, Function.update_of_ne hne]
        exact hholds.valid
      · rw [hpages, Function.update_of_ne hne]
        exact hholds.holds
  · intro l' hl' hvalid
    by_cases hll : l' = l
    · refine ⟨block.blockId, ?_⟩
      rw [getLocation_storeBlock hnext, if_pos rfl, hll]
    · rw [hpages, Function.update_of_ne hll] at hvalid
      obtain ⟨b, hb⟩ := h.live l' hl' hvalid
      refine ⟨b, ?_⟩
      rw [getLocation_storeBlock hnext, if_neg ?_]
      · exact hb
      · intro heq
        rw [← heq, hnew] at hb
        cases hb

/-- A block stored onto its own page: nothing changes. -/
theorem Agree.storeBlock_again {s : StorageSimulator cfg} (h : s.Agree) {block : KVBlock}
    {l : PhysicalLocation} (hnext : s.nextPage block = some l)
    (hagain : s.getLocation block.blockId = some l.text) : (s.storeBlock block).2.Agree := by
  have hvalid := (h.holds hagain).valid
  have hpages := pages_storeBlock hnext
  rw [if_neg (by rw [hvalid]; simp)] at hpages
  refine h.congr ?_ ?_
  · intro b
    rw [getLocation_storeBlock hnext]
    by_cases hb : block.blockId = b
    · rw [if_pos hb, ← hb, hagain]
    · rw [if_neg hb]
  · intro l'
    rw [hpages]
    exact ⟨rfl, rfl⟩

theorem Agree.step {s : StorageSimulator cfg} (h : s.Agree) {op : Op}
    (hop : s.KeepsAgreement op) : (s.step op).2.Agree := by
  cases op with
  | storeBlock block =>
      cases hnext : s.nextPage block with
      | none => simpa only [StorageSimulator.step, storeBlock_refused hnext] using h
      | some l =>
          rcases hop l hnext with ⟨hnew, hl, hfree⟩ | hagain
          · exact h.storeBlock_new hnext hnew hl hfree
          · exact h.storeBlock_again hnext hagain
  | estimateReadLatency blockIds =>
      obtain ⟨halloc, hpages⟩ := readEach_keeps blockIds [] s
      exact h.congr (fun b => congrArg (fun a => KVStorageAllocator.getLocation a b) halloc) hpages

/-- Agreement before and after a call: the old page of the block, or an occupied new one,
would be left valid for nobody. -/
theorem keepsAgreement_of_agree {s : StorageSimulator cfg} (h : s.Agree) {op : Op}
    (hafter : (s.step op).2.Agree) : s.KeepsAgreement op := by
  cases op with
  | estimateReadLatency blockIds => trivial
  | storeBlock block =>
      intro l hnext
      have hafter : (s.storeBlock block).2.Agree := hafter
      have hnewloc : (s.storeBlock block).2.getLocation block.blockId = some l.text := by
        rw [getLocation_storeBlock hnext, if_pos rfl]
      obtain ⟨hl, hvalid, hholds⟩ := hafter.holds hnewloc
      cases hold : s.getLocation block.blockId with
      | some loc =>
          right
          obtain ⟨l₀, htext, hholds₀⟩ := h.mapped block.blockId loc hold
          have hstill : (s.storeBlock block).2.Holds l₀ block.blockId := by
            have hnotfree : (s.pages l₀).state ≠ .free := by
              rw [hholds₀.valid]
              simp
            have hsame : (s.storeBlock block).2.pages l₀ = s.pages l₀ := by
              rw [pages_storeBlock hnext]
              split
              · rename_i hwas
                refine Function.update_of_ne ?_ _ _
                rintro rfl
                exact hnotfree hwas.2
              · rfl
            exact ⟨hholds₀.within, hsame ▸ hholds₀.valid, hsame ▸ hholds₀.holds⟩
          rw [htext, ← hafter.located hstill, hnewloc]
      | none =>
          left
          refine ⟨rfl, hl, ?_⟩
          by_contra hfree
          have hsame := pages_storeBlock hnext
          rw [if_neg (fun hwas => hfree hwas.2)] at hsame
          rw [hsame] at hvalid hholds
          have hwas := h.located ⟨hl, hvalid, hholds⟩
          rw [hold] at hwas
          cases hwas

/-- The tables and the pages agree in every state of a run exactly as long as each call
keeps them in agreement. -/
theorem agree_iff (mode : FtlMode) (ops : List Op) :
    (∀ pre, pre <+: ops → Agree ((machine cfg).exec (init cfg mode) pre)) ↔
      (machine cfg).Meets KeepsAgreement (init cfg mode) ops :=
  (machine cfg).forall_prefix_iff_meets (I := Agree) (C := Agree) (fun _ h => h)
    (fun _ _ h hop => h.step hop) (fun _ _ h hafter => keepsAgreement_of_agree h hafter) _ ops
    (agree_init mode)

def defaultConfig : SimulatorConfig where
  channels := 8
  diesPerChannel := 4
  planesPerDie := 2
  blocksPerPlane := 64
  channels_pos := FtlGeometry.default_channels
  dies_pos := FtlGeometry.default_dies
  planes_pos := FtlGeometry.default_planes
  blocks_pos := FtlGeometry.default_blocks

def firstBlock : KVBlock := ⟨0, 0, 0, 16, 0, "DRAM", none⟩

/-- A block stored twice leaves its first page valid, and no block is there. -/
theorem rewritten_block_leaves_its_page_valid :
    ¬ ((machine defaultConfig).exec (init defaultConfig .conventional)
        [.storeBlock firstBlock, .storeBlock firstBlock]).Agree := by
  intro h
  have hnext : (init defaultConfig .conventional).nextPage firstBlock = some ⟨0, 0, 0, 0, 0⟩ := by
    decide +kernel
  have hagain : ((init defaultConfig .conventional).storeBlock firstBlock).2.nextPage firstBlock =
      some ⟨0, 0, 0, 0, 1⟩ := by
    decide +kernel
  obtain ⟨b, hb⟩ := h.live ⟨0, 0, 0, 0, 0⟩ (by decide) (by decide +kernel)
  have hloc := (getLocation_storeBlock hagain b).symm.trans hb
  rw [getLocation_storeBlock hnext] at hloc
  by_cases hfirst : firstBlock.blockId = b
  · rw [if_pos hfirst] at hloc
    cases PhysicalLocation.text_injective (Option.some.inj hloc)
  · rw [if_neg hfirst, if_neg hfirst] at hloc
    cases hloc

end AiSsd.Ftl.StorageSimulator
