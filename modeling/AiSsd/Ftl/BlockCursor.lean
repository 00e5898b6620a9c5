import AiSsd.Ftl.StoreSafety

/-!
# The cursor of a block

A flash block programs its pages in order: those below its cursor are programmed, the others are
free. `allocate_page` goes by the cursor, a store by the location it is given; the store moves the
cursor behind its page, so the rule survives it exactly when the page is not beyond the cursor.
-/

namespace AiSsd.Ftl

open Lib

/-! ## Blocks -/

def PhysicalLocation.block (l : PhysicalLocation) : Nat × Nat × Nat × Nat :=
  (l.ch, l.die, l.pl, l.blk)

theorem PhysicalLocation.eq_of_block {l l' : PhysicalLocation} (hblock : l.block = l'.block)
    (hpg : l.pg = l'.pg) : l = l' := by
  obtain ⟨ch, die, pl, blk, pg⟩ := l
  obtain ⟨ch', die', pl', blk', pg'⟩ := l'
  cases hblock
  cases hpg
  rfl

/-- A `FlashBlock` of the arrays. -/
structure BlockAddress (cfg : SimulatorConfig) where
  ch : Nat
  die : Nat
  pl : Nat
  blk : Nat
  ch_lt : ch < cfg.arrays.channels
  die_lt : die < cfg.arrays.diesPerChannel
  pl_lt : pl < cfg.arrays.planesPerDie
  blk_lt : blk < cfg.arrays.blocksPerPlane

namespace BlockAddress

variable {cfg : SimulatorConfig} (b : BlockAddress cfg)

def key : Nat × Nat × Nat × Nat := (b.ch, b.die, b.pl, b.blk)

/-- `self.pages[pg]`. -/
def page (pg : Nat) : PhysicalLocation := ⟨b.ch, b.die, b.pl, b.blk, pg⟩

@[simp] theorem block_page (pg : Nat) : (b.page pg).block = b.key := rfl

@[simp] theorem pg_page (pg : Nat) : (b.page pg).pg = pg := rfl

theorem within_page {pg : Nat} : (b.page pg).Within cfg.arrays ↔ pg < cfg.arrays.pagesPerBlock := by
  simp [page, PhysicalLocation.Within, b.ch_lt, b.die_lt, b.pl_lt, b.blk_lt]

end BlockAddress

def PageState.value : PageState → String
  | .free => "FREE"
  | .valid => "VALID"
  | .invalid => "INVALID"

namespace FlashPage

variable (page : FlashPage)

/-- `program` of a free page, with an id or without one. -/
def programAs (dataBlockId : Option Int) : FlashPage :=
  { page with
    state := .valid
    dataBlockId := dataBlockId
    programCount := page.programCount + 1 }

/-- The number of programs is kept. -/
def erase : FlashPage := { page with state := .free, dataBlockId := none, readCount := 0 }

end FlashPage

structure NandSimulator (cfg : SimulatorConfig) extends StorageSimulator cfg where
  eraseCount : Nat × Nat × Nat × Nat → Nat

namespace NandSimulator

variable {cfg : SimulatorConfig}

variable (cfg) in
def init (mode : FtlMode) : NandSimulator cfg := ⟨StorageSimulator.init cfg mode, fun _ => 0⟩

variable (s : NandSimulator cfg) (b : BlockAddress cfg)

/-- The page at the cursor, none when the block is full. A page that is not free raises. -/
def allocatePage (dataBlockId logicalBlockId : Option Int) :
    Except PyErr (Option Nat) × NandSimulator cfg :=
  let bid := dataBlockId.or logicalBlockId
  let pg := s.freePageIndex b.key
  if pg ≥ cfg.arrays.pagesPerBlock then (.ok none, s)
  else if (s.pages (b.page pg)).state = .free then
    (.ok (some pg),
      { s with
        pages := Function.update s.pages (b.page pg) ((s.pages (b.page pg)).programAs bid)
        freePageIndex := Function.update s.freePageIndex b.key (pg + 1) })
  else
    let state := (s.pages (b.page pg)).state.value
    (.error (.valueError s!"Cannot program non-free page {pg} (state: {state})"), s)

def erase : NandSimulator cfg :=
  { s with
    pages := fun l => if l.block = b.key then (s.pages l).erase else s.pages l
    freePageIndex := Function.update s.freePageIndex b.key 0
    eraseCount := Function.update s.eraseCount b.key (s.eraseCount b.key + 1) }

def storeBlock (block : KVBlock) : Except PyErr Text × NandSimulator cfg :=
  let r := s.toStorageSimulator.storeBlock block
  (r.1, { s with toStorageSimulator := r.2 })

def IsFull : Prop := s.freePageIndex b.key ≥ cfg.arrays.pagesPerBlock

def freePageCount : Nat :=
  (List.range cfg.arrays.pagesPerBlock).countP fun pg => (s.pages (b.page pg)).state = .free

/-! ## Runs -/

inductive Op (cfg : SimulatorConfig) where
  | storeBlock (block : KVBlock)
  | allocatePage (b : BlockAddress cfg) (dataBlockId logicalBlockId : Option Int)
  | erase (b : BlockAddress cfg)

inductive Answer where
  | location (loc : Text)
  | page (pg : Option Nat)
  | done

def step (s : NandSimulator cfg) : Op cfg → Except PyErr Answer × NandSimulator cfg
  | .storeBlock block => let r := s.storeBlock block; (r.1.map .location, r.2)
  | .allocatePage b dataBlockId logicalBlockId =>
      let r := s.allocatePage b dataBlockId logicalBlockId
      (r.1.map .page, r.2)
  | .erase b => (.ok .done, s.erase b)

variable (cfg) in
def machine : Machine (NandSimulator cfg) (Op cfg) (Except PyErr Answer) where
  step := step

def Op.Erases : Op cfg → Nat × Nat × Nat × Nat → Prop
  | .erase b, block => b.key = block
  | _, _ => False

instance (op : Op cfg) (block : Nat × Nat × Nat × Nat) : Decidable (op.Erases block) := by
  cases op <;> unfold Op.Erases <;> infer_instance

/-- How often each page was programmed since its block was erased last. -/
def countPrograms (counts : PhysicalLocation → Nat) (s : NandSimulator cfg) (op : Op cfg)
    (_ : Except PyErr Answer) : PhysicalLocation → Nat := fun l =>
  if op.Erases l.block then 0
  else counts l + (((s.step op).2.pages l).programCount - (s.pages l).programCount)

variable (cfg) in
def programsSinceErase (mode : FtlMode) (ops : List (Op cfg)) : PhysicalLocation → Nat :=
  (machine cfg).history countPrograms (init cfg mode) (fun _ => 0) ops

def Sequential (s : NandSimulator cfg) : Prop :=
  ∀ l, l.Within cfg.arrays → ((s.pages l).state ≠ .free ↔ l.pg < s.freePageIndex l.block)

structure FollowsRule (s : NandSimulator cfg) (programs : PhysicalLocation → Nat) : Prop where
  sequential : s.Sequential
  full : ∀ b, s.IsFull b ↔ s.freePageCount b = 0
  once : ∀ l, programs l ≤ 1

/-- The page of a store is not beyond the cursor of its block. -/
def InOrder (s : NandSimulator cfg) : Op cfg → Prop
  | .storeBlock block => ∀ l, s.nextPage block = some l → l.Within cfg.arrays →
      l.pg ≤ s.freePageIndex l.block
  | _ => True

/-! ## What one call does -/

variable {s : NandSimulator cfg} {b : BlockAddress cfg} {l : PhysicalLocation}

theorem sequential_init (mode : FtlMode) : (init cfg mode).Sequential := by
  intro l _
  simp [init, StorageSimulator.init, FlashPage.fresh]

theorem Sequential.isFull_iff (h : s.Sequential) (b : BlockAddress cfg) :
    s.IsFull b ↔ s.freePageCount b = 0 := by
  have hpage : ∀ pg < cfg.arrays.pagesPerBlock,
      ((s.pages (b.page pg)).state ≠ .free ↔ pg < s.freePageIndex b.key) :=
    fun pg hpg => h (b.page pg) (b.within_page.mpr hpg)
  simp only [IsFull, freePageCount, List.countP_eq_zero, List.mem_range, decide_eq_true_eq]
  constructor
  · intro hfull pg hpg
    exact (hpage pg hpg).mpr (Nat.lt_of_lt_of_le hpg hfull)
  · intro hnone
    by_contra hroom
    have hlt : s.freePageIndex b.key < cfg.arrays.pagesPerBlock := by omega
    exact absurd ((hpage _ hlt).mp (hnone _ hlt)) (Nat.lt_irrefl _)

/-- Programming the page at the cursor, and moving the cursor behind it. -/
theorem Sequential.program (h : s.Sequential) (hcursor : l.pg = s.freePageIndex l.block)
    (bid : Option Int) {s' : NandSimulator cfg}
    (hpages : s'.pages = Function.update s.pages l ((s.pages l).programAs bid))
    (hindex : s'.freePageIndex = Function.update s.freePageIndex l.block (l.pg + 1)) :
    s'.Sequential := by
  intro l' hl'
  have hold := h l' hl'
  rw [hpages, hindex]
  by_cases hpage : l' = l
  · subst hpage
    simp [FlashPage.programAs]
  · rw [Function.update_of_ne hpage]
    by_cases hblock : l'.block = l.block
    · -- another page of the same block is below the new cursor when it was below the old one
      have hne : l'.pg ≠ l.pg := by
        intro hpg
        exact hpage (PhysicalLocation.eq_of_block hblock hpg)
      rw [hblock] at hold ⊢
      rw [Function.update_self, hold, ← hcursor]
      omega
    · rw [Function.update_of_ne hblock]
      exact hold

theorem Sequential.allocatePage (h : s.Sequential) (b : BlockAddress cfg)
    (dataBlockId logicalBlockId : Option Int) :
    (s.allocatePage b dataBlockId logicalBlockId).2.Sequential := by
  unfold NandSimulator.allocatePage
  dsimp only
  split
  · exact h
  · split
    · exact h.program (l := b.page (s.freePageIndex b.key)) rfl _ rfl rfl
    · exact h

theorem Sequential.erase (h : s.Sequential) (b : BlockAddress cfg) : (s.erase b).Sequential := by
  intro l hl
  have hold := h l hl
  by_cases hblock : l.block = b.key
  · simp [NandSimulator.erase, hblock, FlashPage.erase]
  · simpa [NandSimulator.erase, hblock] using hold

/-- Only the cursor of the page's block moves, and only when the page is programmed. -/
theorem storeAt_freePageIndex (s : StorageSimulator cfg) (blockId : Int) (l : PhysicalLocation) :
    (s.storeAt blockId l).freePageIndex =
      if l.Within cfg.arrays ∧ (s.pages l).state = .free then
        Function.update s.freePageIndex l.block (max (s.freePageIndex l.block) (l.pg + 1))
      else s.freePageIndex := by
  rw [StorageSimulator.storeAt_eq]
  by_cases hwithin : l.Within cfg.arrays
  · by_cases hfree : (s.pages l).state = .free
    · simp [StorageSimulator.programPage, PhysicalLocation.block, hwithin, hfree]
    · simp [StorageSimulator.programPage, hwithin, hfree]
  · simp [hwithin]

theorem freePageIndex_storeBlock {block : KVBlock} (h : s.nextPage block = some l) :
    (s.storeBlock block).2.freePageIndex =
      if l.Within cfg.arrays ∧ (s.pages l).state = .free then
        Function.update s.freePageIndex l.block (max (s.freePageIndex l.block) (l.pg + 1))
      else s.freePageIndex := by
  obtain ⟨a, hstore, -⟩ := StorageSimulator.storeBlock_placed h
  simp only [storeBlock, hstore]
  exact storeAt_freePageIndex _ _ _

theorem pages_storeBlock {block : KVBlock} (h : s.nextPage block = some l) :
    (s.storeBlock block).2.pages =
      if l.Within cfg.arrays ∧ (s.pages l).state = .free then
        Function.update s.pages l ((s.pages l).programAs (some block.blockId))
      else s.pages :=
  StorageSimulator.pages_storeBlock h

theorem storeBlock_refused {block : KVBlock} (h : s.nextPage block = none) :
    (s.storeBlock block).2 = s := by
  simp only [storeBlock, StorageSimulator.storeBlock_refused h]

theorem Sequential.storeBlock (h : s.Sequential) {block : KVBlock}
    (horder : s.InOrder (.storeBlock block)) : (s.storeBlock block).2.Sequential := by
  cases hnext : s.nextPage block with
  | none =>
      rw [storeBlock_refused hnext]
      exact h
  | some l =>
      have hpages := pages_storeBlock hnext
      have hindex := freePageIndex_storeBlock hnext
      by_cases hlands : l.Within cfg.arrays ∧ (s.pages l).state = .free
      · rw [if_pos hlands] at hpages hindex
        -- a free page is not below the cursor, so it is at the cursor
        have hle := horder l hnext hlands.1
        have hge : ¬ l.pg < s.freePageIndex l.block := fun hlt =>
          (h l hlands.1).mpr hlt hlands.2
        rw [Nat.max_eq_right (by omega)] at hindex
        exact h.program (by omega) _ hpages hindex
      · rw [if_neg hlands] at hpages hindex
        intro l' hl'
        rw [hpages, hindex]
        exact h l' hl'

theorem Sequential.step (h : s.Sequential) {op : Op cfg} (horder : s.InOrder op) :
    (s.step op).2.Sequential := by
  cases op with
  | storeBlock block => exact h.storeBlock horder
  | allocatePage b dataBlockId logicalBlockId => exact h.allocatePage b _ _
  | erase b => exact h.erase b

/-- A page beyond the cursor leaves free pages below the new one. -/
theorem inOrder_of_sequential (h : s.Sequential) {op : Op cfg}
    (hafter : (s.step op).2.Sequential) : s.InOrder op := by
  cases op with
  | allocatePage b dataBlockId logicalBlockId => trivial
  | erase b => trivial
  | storeBlock block =>
      intro l hnext hl
      by_contra hbeyond
      have hafter : (s.storeBlock block).2.Sequential := hafter
      have hfree : (s.pages l).state = .free := by
        by_contra hnot
        exact hbeyond (Nat.le_of_lt ((h l hl).mp hnot))
      have hpages := pages_storeBlock hnext
      have hindex := freePageIndex_storeBlock hnext
      rw [if_pos ⟨hl, hfree⟩] at hpages hindex
      -- the page at the old cursor
      let skipped : PhysicalLocation := { l with pg := s.freePageIndex l.block }
      have hblock : skipped.block = l.block := rfl
      have hwithin : skipped.Within cfg.arrays := by
        obtain ⟨hch, hdie, hpl, hblk, hpg⟩ := hl
        exact ⟨hch, hdie, hpl, hblk, Nat.lt_trans (Nat.lt_of_not_le hbeyond) hpg⟩
      have hne : skipped ≠ l := by
        intro heq
        have hpg : s.freePageIndex l.block = l.pg := congrArg PhysicalLocation.pg heq
        omega
      have hnow := hafter skipped hwithin
      have hwas := h skipped hwithin
      rw [hpages, hindex, Function.update_of_ne hne, hwas, hblock, Function.update_self] at hnow
      have hpg : skipped.pg = s.freePageIndex l.block := rfl
      omega

/-! ## Beyond the cursor -/

def FreeBeyond (s : NandSimulator cfg) : Prop :=
  ∀ l, l.Within cfg.arrays → s.freePageIndex l.block ≤ l.pg → (s.pages l).state = .free

/-- A page is programmed, and the cursor of its block moved behind it. -/
theorem FreeBeyond.program (h : s.FreeBeyond) {bid : Option Int} {index : Nat}
    (hkeeps : s.freePageIndex l.block ≤ index) (hbehind : l.pg < index) {s' : NandSimulator cfg}
    (hpages : s'.pages = Function.update s.pages l ((s.pages l).programAs bid))
    (hindex : s'.freePageIndex = Function.update s.freePageIndex l.block index) :
    s'.FreeBeyond := by
  intro l' hl' hbeyond
  rw [hindex] at hbeyond
  have hne : l' ≠ l := by
    rintro rfl
    rw [Function.update_self] at hbeyond
    omega
  rw [hpages, Function.update_of_ne hne]
  apply h l' hl'
  by_cases hblock : l'.block = l.block
  · rw [hblock, Function.update_self] at hbeyond
    rw [hblock]
    omega
  · rwa [Function.update_of_ne hblock] at hbeyond

theorem FreeBeyond.step (h : s.FreeBeyond) (op : Op cfg) : (s.step op).2.FreeBeyond := by
  cases op with
  | storeBlock block =>
      have hgoal : (s.storeBlock block).2.FreeBeyond := by
        cases hnext : s.nextPage block with
        | none =>
            rw [storeBlock_refused hnext]
            exact h
        | some l =>
            have hpages := pages_storeBlock hnext
            have hindex := freePageIndex_storeBlock hnext
            split at hpages
            · rename_i hlands
              rw [if_pos hlands] at hindex
              exact h.program (Nat.le_max_left _ _) (Nat.le_max_right _ _) hpages hindex
            · rename_i hmisses
              rw [if_neg hmisses] at hindex
              intro l' hl'
              rw [hpages, hindex]
              exact h l' hl'
      exact hgoal
  | allocatePage b dataBlockId logicalBlockId =>
      simp only [NandSimulator.step, allocatePage]
      split
      · exact h
      · split
        · exact h.program (l := b.page (s.freePageIndex b.key)) (Nat.le_succ _)
            (Nat.lt_succ_self _) rfl rfl
        · exact h
  | erase b =>
      intro l hl hbeyond
      by_cases hblock : l.block = b.key
      · simp [NandSimulator.step, erase, hblock, FlashPage.erase]
      · simp only [NandSimulator.step, erase, hblock, if_false,
          Function.update_of_ne hblock] at hbeyond ⊢
        exact h l hl hbeyond

/-! ## Programs and erases -/

/-- A page is erased with its block, or was free and is programmed, or stays. -/
theorem page_step (s : NandSimulator cfg) (op : Op cfg) (l : PhysicalLocation) :
    op.Erases l.block ∧ (s.step op).2.pages l = (s.pages l).erase ∨
      ¬ op.Erases l.block ∧ ((s.step op).2.pages l = s.pages l ∨
        (s.pages l).state = .free ∧ ∃ bid, (s.step op).2.pages l = (s.pages l).programAs bid) := by
  cases op with
  | erase b =>
      by_cases hblock : l.block = b.key
      · exact .inl ⟨hblock.symm, if_pos hblock⟩
      · exact .inr ⟨fun h => hblock h.symm, .inl (if_neg hblock)⟩
  | storeBlock block =>
      refine .inr ⟨id, ?_⟩
      cases hnext : s.nextPage block with
      | none =>
          left
          exact congrArg (fun s : NandSimulator cfg => s.pages l) (storeBlock_refused hnext)
      | some l' =>
          have hpages : (s.step (.storeBlock block)).2.pages = _ := pages_storeBlock hnext
          rw [hpages]
          by_cases hlands : l'.Within cfg.arrays ∧ (s.pages l').state = .free
          · rw [if_pos hlands]
            by_cases hl : l = l'
            · subst hl
              exact .inr ⟨hlands.2, _, Function.update_self _ _ _⟩
            · exact .inl (Function.update_of_ne hl _ _)
          · rw [if_neg hlands]
            exact .inl rfl
  | allocatePage b dataBlockId logicalBlockId =>
      refine .inr ⟨id, ?_⟩
      simp only [step, allocatePage]
      split
      · exact .inl rfl
      · split
        · rename_i hfree
          by_cases hl : l = b.page (s.freePageIndex b.key)
          · rw [hl]
            exact .inr ⟨hfree, _, Function.update_self _ _ _⟩
          · exact .inl (Function.update_of_ne hl _ _)
        · exact .inl rfl

/-- A page has been programmed at most once since the last erase, and not at all if it is free. -/
def Once (s : NandSimulator cfg) (programs : PhysicalLocation → Nat) : Prop :=
  ∀ l, programs l ≤ 1 ∧ ((s.pages l).state = .free → programs l = 0)

theorem Once.step {programs : PhysicalLocation → Nat} (h : s.Once programs) (op : Op cfg) :
    (s.step op).2.Once (countPrograms programs s op (s.step op).1) := by
  intro l
  obtain ⟨hle, hfree⟩ := h l
  unfold countPrograms
  rcases s.page_step op l with ⟨herased, -⟩ | ⟨hkept, hsame | ⟨hwas, bid, hprogram⟩⟩
  · rw [if_pos herased]
    exact ⟨Nat.zero_le 1, fun _ => rfl⟩
  · rw [if_neg hkept, hsame, Nat.sub_self, Nat.add_zero]
    exact ⟨hle, hfree⟩
  · rw [if_neg hkept, hprogram, hfree hwas]
    simp [FlashPage.programAs]

/-- In every run, either mode, no page is programmed twice without an erase. -/
theorem once_exec (mode : FtlMode) (ops : List (Op cfg)) :
    ((machine cfg).exec (init cfg mode) ops).Once (programsSinceErase cfg mode ops) := by
  refine (machine cfg).history_invariant (I := Once) (fun s t op h => h.step op) _ _ ops ?_
  intro l
  exact ⟨Nat.zero_le 1, fun _ => rfl⟩

/-! ## The rule -/

/-- The rule holds in every state of a run exactly when no store is given a page beyond the cursor
of its block. -/
theorem follows_rule_iff (mode : FtlMode) (ops : List (Op cfg)) :
    (∀ pre, pre <+: ops →
        ((machine cfg).exec (init cfg mode) pre).FollowsRule (programsSinceErase cfg mode pre)) ↔
      (machine cfg).Meets InOrder (init cfg mode) ops := by
  rw [← (machine cfg).forall_prefix_iff_meets (I := Sequential) (C := Sequential)
    (fun _ h => h) (fun _ _ h horder => h.step horder)
    (fun _ _ h hafter => inOrder_of_sequential h hafter) _ ops (sequential_init mode)]
  apply forall_congr'
  intro pre
  apply imp_congr_right
  intro _
  constructor
  · intro h
    exact h.sequential
  · intro h
    exact ⟨h, h.isFull_iff, fun l => (once_exec mode pre l).1⟩

/-- Two layers share the counter of a channel but not a die: the second block is programmed on
page 1 of its die, below whose cursor page 0 is free. -/
theorem second_layer_skips_a_page :
    let ops := [Op.storeBlock ⟨0, 0, 0, 16, 0, "DRAM", none⟩,
      Op.storeBlock ⟨1, 1, 0, 16, 0, "DRAM", none⟩]
    let s := (machine StorageSimulator.defaultConfig).exec
      (init StorageSimulator.defaultConfig .tensorAware) ops
    s.freePageIndex (0, 1, 0, 0) = 2 ∧ (s.pages ⟨0, 1, 0, 0, 0⟩).state = .free ∧
      ¬ s.FollowsRule (programsSinceErase StorageSimulator.defaultConfig .tensorAware ops) := by
  intro ops s
  have hindex : s.freePageIndex (0, 1, 0, 0) = 2 := by decide +kernel
  have hfree : (s.pages ⟨0, 1, 0, 0, 0⟩).state = .free := by decide +kernel
  refine ⟨hindex, hfree, fun h => ?_⟩
  have hbelow : (0 : Nat) < s.freePageIndex (0, 1, 0, 0) := by omega
  exact (h.sequential ⟨0, 1, 0, 0, 0⟩ (by decide)).mpr hbelow hfree

end NandSimulator

end AiSsd.Ftl
