import AiSsd.Ftl.Conventional
import AiSsd.Ftl.TensorAware

/-!
# The storage simulator

`StorageSimulator` asks the translation layer for a location and programs the page it
names in its own arrays. The arrays have the geometry the simulator was given; the
translation layer is told the number of channels and takes its other dimensions from the
defaults. Bus and die times are left out: nothing the operations decide depends on them.
-/

namespace AiSsd.Ftl

open Lib

/-! ## The allocator -/

/-- `"tensor_aware"`; every other mode is conventional. -/
inductive FtlMode where
  | tensorAware
  | conventional
deriving Repr, DecidableEq

/-- `self.ftl`. -/
inductive AnyFtl (geo : FtlGeometry) where
  | tensorAware (s : TensorAwareFtl geo)
  | conventional (s : ConventionalFtl)

namespace AnyFtl

variable {geo : FtlGeometry}

def tables : AnyFtl geo → BaseFtl
  | .tensorAware s => s.toBaseFtl
  | .conventional s => s.toBaseFtl

def allocate (ftl : AnyFtl geo) (block : KVBlock) : Except PyErr Text × AnyFtl geo :=
  match ftl with
  | .tensorAware s => let r := s.allocate block; (r.1, .tensorAware r.2)
  | .conventional s => let r := s.allocate geo block; (r.1, .conventional r.2)

def nextPage (ftl : AnyFtl geo) (block : KVBlock) : Option PhysicalLocation :=
  match ftl with
  | .tensorAware s => some (s.placement block)
  | .conventional s =>
      if s.linearCounter ≥ geo.totalPages then none else some (geo.unravel s.linearCounter)

/-- An allocation records the next page, or refuses and changes nothing. -/
theorem allocate_spec (ftl : AnyFtl geo) (block : KVBlock) :
    (ftl.nextPage block = none ∧
        ftl.allocate block = (.error (ConventionalFtl.capacityError geo block.blockId), ftl)) ∨
      ∃ l ftl', ftl.nextPage block = some l ∧ ftl.allocate block = (.ok l.text, ftl') ∧
        ftl'.tables = ftl.tables.recordMapping block.blockId l.text := by
  cases ftl with
  | tensorAware s => exact Or.inr ⟨s.placement block, _, rfl, rfl, rfl⟩
  | conventional s =>
      by_cases hfull : s.linearCounter ≥ geo.totalPages
      · left
        simp only [nextPage, if_pos hfull, allocate, ConventionalFtl.allocate_full hfull, and_self]
      · right
        have halloc := ConventionalFtl.allocate_room (Nat.lt_of_not_le hfull) block
        refine ⟨geo.unravel s.linearCounter, _, if_neg hfull, congrArg (fun r =>
          (r.1, AnyFtl.conventional r.2)) halloc, rfl⟩

end AnyFtl

structure KVStorageAllocator (geo : FtlGeometry) where
  ftl : AnyFtl geo
  storedBlocks : Dict Int KVBlock

namespace KVStorageAllocator

variable {geo : FtlGeometry}

variable (geo) in
def init : FtlMode → KVStorageAllocator geo
  | .tensorAware => ⟨.tensorAware (TensorAwareFtl.init geo), Dict.empty⟩
  | .conventional => ⟨.conventional ConventionalFtl.init, Dict.empty⟩

/-- The block object is kept with the location the allocation sets on it. -/
def storeBlock (a : KVStorageAllocator geo) (block : KVBlock) :
    Except PyErr Text × KVStorageAllocator geo :=
  match a.ftl.allocate block with
  | (.error err, ftl) => (.error err, { a with ftl := ftl })
  | (.ok loc, ftl) =>
      (.ok loc,
        { ftl := ftl
          storedBlocks :=
            a.storedBlocks.set block.blockId { block with physicalLocation := some loc } })

def loadBlock (a : KVStorageAllocator geo) (blockId : Int) : Option KVBlock :=
  a.storedBlocks.get? blockId

def getLocation (a : KVStorageAllocator geo) (blockId : Int) : Option Text :=
  a.ftl.tables.translate blockId

/-- The block is mapped to the next page, or refused with nothing changed. -/
theorem storeBlock_spec (a : KVStorageAllocator geo) (block : KVBlock) :
    (a.ftl.nextPage block = none ∧
        a.storeBlock block = (.error (ConventionalFtl.capacityError geo block.blockId), a)) ∨
      ∃ l a', a.ftl.nextPage block = some l ∧ a.storeBlock block = (.ok l.text, a') ∧
        ∀ b, a'.getLocation b = if block.blockId = b then some l.text else a.getLocation b := by
  rcases a.ftl.allocate_spec block with ⟨hnext, halloc⟩ | ⟨l, ftl', hnext, halloc, htables⟩
  · left
    simp only [storeBlock, halloc, hnext, and_self]
  · right
    refine ⟨l, (a.storeBlock block).2, hnext, ?_, ?_⟩
    · simp only [storeBlock, halloc]
    · intro b
      simp only [storeBlock, halloc, getLocation, htables]
      exact BaseFtl.translate_recordMapping _ _ _ _

end KVStorageAllocator

/-! ## Pages -/

inductive PageState where
  | free
  | valid
  | invalid
deriving Repr, DecidableEq

structure FlashPage where
  state : PageState
  dataBlockId : Option Int
  programCount : Nat
  readCount : Nat
deriving Repr, DecidableEq

namespace FlashPage

def fresh : FlashPage := ⟨.free, none, 0, 0⟩

/-- Programming a page that is not free raises; `store_block` asks first. -/
def program (page : FlashPage) (dataBlockId : Int) : FlashPage :=
  { page with
    state := .valid
    dataBlockId := some dataBlockId
    programCount := page.programCount + 1 }

def read (page : FlashPage) : FlashPage := { page with readCount := page.readCount + 1 }

end FlashPage

/-! ## Latency of a batch read -/

def matchChannel (s : Text) : Option Nat := do
  let (ch, _) ← number (← literal ['c', 'h'] s)
  return ch

def searchChannel : Text → Option Nat
  | [] => none
  | c :: rest =>
      if c = '_' then (matchChannel rest).or (searchChannel rest) else searchChannel rest

/-- `(?:^|_)ch(\d+)`, searched, with channel 0 when nothing matches. -/
def extractChannel (loc : Text) : Nat := ((matchChannel loc).or (searchChannel loc)).getD 0

/-- In microseconds: 10 for the bus to the host, and for each request of the most loaded
channel 25 to sense and 5 to transfer. -/
def batchReadLatency (locations : List Text) : Nat :=
  if locations = [] then 0
  else
    let loads := locations.map extractChannel
    10 + (loads.map fun ch => loads.count ch).foldl max 0 * (25 + 5)

/-! ## The simulator -/

/-- Constructor arguments, all positive. -/
structure SimulatorConfig where
  channels : Nat
  diesPerChannel : Nat
  planesPerDie : Nat
  blocksPerPlane : Nat
  channels_pos : 0 < channels
  dies_pos : 0 < diesPerChannel
  planes_pos : 0 < planesPerDie
  blocks_pos : 0 < blocksPerPlane

namespace SimulatorConfig

variable (cfg : SimulatorConfig)

def arrays : FtlGeometry where
  channels := cfg.channels
  diesPerChannel := cfg.diesPerChannel
  planesPerDie := cfg.planesPerDie
  blocksPerPlane := cfg.blocksPerPlane
  pagesPerBlock := 128
  channels_pos := cfg.channels_pos
  dies_pos := cfg.dies_pos
  planes_pos := cfg.planes_pos
  blocks_pos := cfg.blocks_pos
  pages_pos := FtlGeometry.default_pages

/-- `TensorAwareFTL(channels=channels)`: four dies, two planes, 64 blocks, 128 pages. -/
def ftlGeometry : FtlGeometry where
  channels := cfg.channels
  diesPerChannel := 4
  planesPerDie := 2
  blocksPerPlane := 64
  pagesPerBlock := 128
  channels_pos := cfg.channels_pos
  dies_pos := FtlGeometry.default_dies
  planes_pos := FtlGeometry.default_planes
  blocks_pos := FtlGeometry.default_blocks
  pages_pos := FtlGeometry.default_pages

end SimulatorConfig

/-- `pages` and `free_page_index` of the blocks are looked up inside the arrays only. -/
structure StorageSimulator (cfg : SimulatorConfig) where
  allocator : KVStorageAllocator cfg.ftlGeometry
  pages : PhysicalLocation → FlashPage
  freePageIndex : Nat × Nat × Nat × Nat → Nat

namespace StorageSimulator

variable {cfg : SimulatorConfig}

variable (cfg) in
def init (mode : FtlMode) : StorageSimulator cfg where
  allocator := KVStorageAllocator.init cfg.ftlGeometry mode
  pages := fun _ => FlashPage.fresh
  freePageIndex := fun _ => 0

variable (s : StorageSimulator cfg)

def getLocation (blockId : Int) : Option Text := s.allocator.getLocation blockId

def programPage (blockId : Int) (l : PhysicalLocation) : StorageSimulator cfg :=
  if (s.pages l).state = .free then
    let block := (l.ch, l.die, l.pl, l.blk)
    { s with
      pages := Function.update s.pages l ((s.pages l).program blockId)
      freePageIndex :=
        Function.update s.freePageIndex block (max (s.freePageIndex block) (l.pg + 1)) }
  else s

/-- The nested range checks. A page outside the arrays is left alone. -/
def storeAt (blockId : Int) (l : PhysicalLocation) : StorageSimulator cfg :=
  if l.ch < cfg.arrays.channels then
    if l.die < cfg.arrays.diesPerChannel then
      if l.pl < cfg.arrays.planesPerDie ∧ l.blk < cfg.arrays.blocksPerPlane ∧
          l.pg < cfg.arrays.pagesPerBlock then
        s.programPage blockId l
      else s
    else s
  else s

def storeBlock (block : KVBlock) : Except PyErr Text × StorageSimulator cfg :=
  match s.allocator.storeBlock { block with storageTier := "SSD" } with
  | (.error err, a) => (.error err, { s with allocator := a })
  | (.ok loc, a) =>
      match parsePhysicalLocation loc with
      | none => (.ok loc, { s with allocator := a })
      | some l => (.ok loc, storeAt { s with allocator := a } block.blockId l)

def readPage (l : PhysicalLocation) : StorageSimulator cfg :=
  if l.Within cfg.arrays then
    { s with pages := Function.update s.pages l (s.pages l).read }
  else s

/-- The loop of `estimate_read_latency`: reads the pages and collects the locations. -/
def readEach : List Int → List Text → StorageSimulator cfg → List Text × StorageSimulator cfg
  | [], locations, s => (locations, s)
  | bid :: blockIds, locations, s =>
      match s.getLocation bid with
      | none => readEach blockIds locations s
      | some loc =>
          match parsePhysicalLocation loc with
          | none => readEach blockIds (locations ++ [loc]) s
          | some l => readEach blockIds (locations ++ [loc]) (s.readPage l)

def estimateReadLatency (blockIds : List Int) : Nat × StorageSimulator cfg :=
  let r := readEach blockIds [] s
  (batchReadLatency r.1, r.2)

end StorageSimulator

end AiSsd.Ftl
