import AiSsd.DramCache.CapacityFailure
import AiSsd.Ftl.StoreSafety
import AiSsd.Ftl.StoreTiming

/-!
# The simulator that a switch rebuilds

A switch of the mode stores every block of the flash store again. A new adapter that stores the
same blocks hands over the same ones when their metadata describes their keys, and its simulator
is then the same one when it has the default dies, planes and blocks.
-/

namespace AiSsd.DramCache

open Lib Numpy Ftl

/-! ## The whole simulator -/

/-- The simulator with its channels, and with the block objects that its allocator keeps. -/
structure WholeSimulator (cfg : SimulatorConfig) where
  timed : TimedSimulator cfg
  blocks : Dict Int Schemas.KVBlock

namespace WholeSimulator

variable {cfg : SimulatorConfig}

variable (cfg) in
def init (mode : FtlMode) : WholeSimulator cfg := ⟨TimedSimulator.init cfg mode, Dict.empty⟩

def storeBlock (w : WholeSimulator cfg) (block : Schemas.KVBlock) :
    Except PyErr Text × WholeSimulator cfg :=
  let r := w.timed.storeBlock block.ftl
  match r.1.1 with
  | .error err => (.error err, { w with timed := r.2 })
  | .ok loc =>
      (.ok loc,
        { timed := r.2
          blocks := w.blocks.set block.blockId { block with physicalLocation := some loc } })

def storeEach : List Schemas.KVBlock → WholeSimulator cfg → Except PyErr Unit × WholeSimulator cfg
  | [], w => (.ok (), w)
  | block :: blocks, w =>
      match w.storeBlock block with
      | (.error err, w) => (.error err, w)
      | (.ok _, w) => storeEach blocks w

end WholeSimulator

namespace PhysicalTensorAwareStorageAdapter

variable {cfg : SimulatorConfig}

def storeEntries : List (Key × PhysicalEntry) → PhysicalTensorAwareStorageAdapter cfg →
    Except PyErr Unit × PhysicalTensorAwareStorageAdapter cfg
  | [], s => (.ok (), s)
  | (key, entry) :: entries, s =>
      match s.storeKv key.2 key.1 entry.k entry.v (some entry.metadata) with
      | (.error err, s) => (.error err, s)
      | (.ok _, s) => storeEntries entries s

def blockAgain (e : Key × PhysicalEntry) : Schemas.KVBlock :=
  storedBlock e.1 e.2 (encodeGlobalBlockId e.1.1 e.1.2)

def blockAnew (e : Key × PhysicalEntry) : Schemas.KVBlock :=
  p2Block e.1.2 e.1.1 e.2.k e.2.v (some e.2.metadata)

def Describes (metadata : KVBlockMetadata) (k : NDArray) : Prop :=
  metadata.tokenCount = (geometryOf k).1 ∧ metadata.numHeads = (geometryOf k).2.1 ∧
    metadata.headDim = (geometryOf k).2.2 ∧ (metadata.dtypeBytes = 2 ↔ k.dtype.itemsize = 2)

instance (metadata : KVBlockMetadata) (k : NDArray) : Decidable (Describes metadata k) :=
  inferInstanceAs (Decidable (_ ∧ _))

/-! ## The blocks that are handed over -/

theorem blockAgain_eq_iff (e : Key × PhysicalEntry) :
    blockAgain e = blockAnew e ↔ Describes e.2.metadata e.2.k := by
  have hdtype : ((if e.2.metadata.dtypeBytes = 2 then "FP16" else "FP32") =
      if e.2.k.dtype.itemsize = 2 then "FP16" else "FP32") ↔
        (e.2.metadata.dtypeBytes = 2 ↔ e.2.k.dtype.itemsize = 2) := by
    by_cases hmeta : e.2.metadata.dtypeBytes = 2 <;>
      by_cases hitem : e.2.k.dtype.itemsize = 2 <;> simp [hmeta, hitem]
  unfold blockAgain blockAnew storedBlock p2Block Describes
  simp only [tokenStartOf, Schemas.KVBlock.mk.injEq, hdtype, true_and, and_true]

/-! ## The switch and the new adapter -/

section Stores

variable {w : WholeSimulator cfg} {block : Schemas.KVBlock}

theorem storeBlock_whole (w : WholeSimulator cfg) (block : Schemas.KVBlock) :
    (w.storeBlock block).1 = (w.timed.simulator.storeBlock block.ftl).1 ∧
      (w.storeBlock block).2.timed.simulator = (w.timed.simulator.storeBlock block.ftl).2 := by
  obtain ⟨hanswer, hsim⟩ := w.timed.storeBlock_simulator block.ftl
  rw [← hanswer, ← hsim, WholeSimulator.storeBlock]
  split
  · rename_i err h
    exact ⟨h.symm, rfl⟩
  · rename_i loc h
    exact ⟨h.symm, rfl⟩

/-- A switch stores the blocks of the entries, when their ids are recorded. -/
theorem reregister_whole (ids : Dict Key Int) {entries : List (Key × PhysicalEntry)}
    (hids : ∀ e ∈ entries, ids.get? e.1 = some (encodeGlobalBlockId e.1.1 e.1.2))
    (w : WholeSimulator cfg) :
    (reregister ids entries w.timed.simulator).1 =
        (WholeSimulator.storeEach (entries.map blockAgain) w).1 ∧
      (reregister ids entries w.timed.simulator).2 =
        (WholeSimulator.storeEach (entries.map blockAgain) w).2.timed.simulator := by
  induction entries generalizing w with
  | nil => exact ⟨rfl, rfl⟩
  | cons e entries ih =>
      obtain ⟨key, entry⟩ := e
      rw [List.forall_mem_cons] at hids
      obtain ⟨hanswer, hsim⟩ := storeBlock_whole w (blockAgain (key, entry))
      rw [blockAgain] at hanswer hsim
      rw [List.map_cons, WholeSimulator.storeEach, reregister, hids.1]
      dsimp only [blockAgain]
      rcases hstore : w.storeBlock (storedBlock key entry (encodeGlobalBlockId key.1 key.2)) with
        ⟨_ | _, w'⟩
      · rw [hstore] at hanswer hsim
        rw [← Prod.mk.eta (p := StorageSimulator.storeBlock _ _), ← hanswer, ← hsim]
        exact ⟨rfl, rfl⟩
      · rw [hstore] at hanswer hsim
        rw [← Prod.mk.eta (p := StorageSimulator.storeBlock _ _), ← hanswer, ← hsim]
        exact ih hids.2 w'

theorem storeKv_whole {s : PhysicalTensorAwareStorageAdapter cfg} {w : WholeSimulator cfg}
    (hsim : s.storageSimulator = w.timed.simulator) (e : Key × PhysicalEntry) :
    (s.storeKv e.1.2 e.1.1 e.2.k e.2.v (some e.2.metadata)).1 =
        (w.storeBlock (blockAnew e)).1.map (fun _ => true) ∧
      (s.storeKv e.1.2 e.1.1 e.2.k e.2.v (some e.2.metadata)).2.storageSimulator =
        (w.storeBlock (blockAnew e)).2.timed.simulator := by
  obtain ⟨hanswer, hstate⟩ := storeBlock_whole w (blockAnew e)
  obtain ⟨hkv, hkept, -⟩ := s.storeKv_simulator e.1.2 e.1.1 e.2.k e.2.v (some e.2.metadata)
  rw [hanswer, hstate, ← hsim, blockAnew]
  exact ⟨hkv, hkept⟩

theorem storeEntries_whole (entries : List (Key × PhysicalEntry))
    {s : PhysicalTensorAwareStorageAdapter cfg} {w : WholeSimulator cfg}
    (hsim : s.storageSimulator = w.timed.simulator) :
    (storeEntries entries s).1 = (WholeSimulator.storeEach (entries.map blockAnew) w).1 ∧
      (storeEntries entries s).2.storageSimulator =
        (WholeSimulator.storeEach (entries.map blockAnew) w).2.timed.simulator := by
  induction entries generalizing s w with
  | nil => exact ⟨rfl, hsim⟩
  | cons e entries ih =>
      obtain ⟨hanswer, hstate⟩ := storeKv_whole hsim e
      rw [List.map_cons, WholeSimulator.storeEach, storeEntries]
      rcases hstore : w.storeBlock (blockAnew e) with ⟨err | loc, w'⟩
      · rw [hstore] at hanswer hstate
        rcases hkv : s.storeKv e.1.2 e.1.1 e.2.k e.2.v (some e.2.metadata) with ⟨r, s'⟩
        rw [hkv] at hanswer hstate
        cases hanswer
        exact ⟨rfl, hstate⟩
      · rw [hstore] at hanswer hstate
        rcases hkv : s.storeKv e.1.2 e.1.1 e.2.k e.2.v (some e.2.metadata) with ⟨r, s'⟩
        rw [hkv] at hanswer hstate
        cases hanswer
        exact ih hstate

theorem blocks_storeBlock {block : Schemas.KVBlock} {loc : Text} {w w' : WholeSimulator cfg}
    (h : w.storeBlock block = (.ok loc, w')) :
    w'.blocks.get? block.blockId = some { block with physicalLocation := some loc } := by
  unfold WholeSimulator.storeBlock at h
  dsimp only at h
  split at h
  · cases h
  · cases h
    exact Dict.get?_set_self _ _ _

theorem blocks_storeBlock_of_ne {block : Schemas.KVBlock} {id : Int} (hne : block.blockId ≠ id)
    (w : WholeSimulator cfg) : (w.storeBlock block).2.blocks.get? id = w.blocks.get? id := by
  unfold WholeSimulator.storeBlock
  dsimp only
  split
  · rfl
  · exact Dict.get?_set_of_ne _ _ hne

/-- A block that was stored is kept, until another one of its id is stored. -/
theorem blocks_storeEach_of_ne {blocks : List Schemas.KVBlock} {id : Int}
    (hne : ∀ block ∈ blocks, block.blockId ≠ id) (w : WholeSimulator cfg) :
    (WholeSimulator.storeEach blocks w).2.blocks.get? id = w.blocks.get? id := by
  induction blocks generalizing w with
  | nil => rfl
  | cons block blocks ih =>
      rw [List.forall_mem_cons] at hne
      have hblock := blocks_storeBlock_of_ne hne.1 w
      rw [WholeSimulator.storeEach]
      split
      · rename_i err w' h
        rw [← hblock, h]
      · rename_i loc w' h
        rw [ih hne.2, ← hblock, h]

/-- When all blocks are stored and have ids of their own, each of them is kept. -/
theorem blocks_storeEach {blocks : List Schemas.KVBlock}
    (hnodup : (blocks.map Schemas.KVBlock.blockId).Nodup) {w : WholeSimulator cfg}
    (hok : (WholeSimulator.storeEach blocks w).1 = .ok ()) :
    ∀ block ∈ blocks, ∃ loc, (WholeSimulator.storeEach blocks w).2.blocks.get? block.blockId =
      some { block with physicalLocation := some loc } := by
  induction blocks generalizing w with
  | nil => simp
  | cons block blocks ih =>
      rw [List.map_cons, List.nodup_cons] at hnodup
      rw [WholeSimulator.storeEach] at hok ⊢
      rcases hstore : w.storeBlock block with ⟨_ | loc, w'⟩
      · rw [hstore] at hok
        cases hok
      · rw [hstore] at hok
        dsimp only at hok ⊢
        rw [List.forall_mem_cons]
        refine ⟨⟨loc, ?_⟩, ih hnodup.2 hok⟩
        rw [blocks_storeEach_of_ne]
        · exact blocks_storeBlock hstore
        · intro other hother heq
          exact hnodup.1 (heq ▸ List.mem_map_of_mem hother)

end Stores

/-! ## What a switch promises -/

def wholeAgain (d : Drive) (mode : FtlMode) : WholeSimulator d.1.rebuilt :=
  (WholeSimulator.storeEach (d.2.flashStore.entries.map blockAgain)
    (WholeSimulator.init d.1.rebuilt mode)).2

def wholeAnew (cfg : SimulatorConfig) (d : Drive) (mode : FtlMode) : WholeSimulator cfg :=
  (WholeSimulator.storeEach (d.2.flashStore.entries.map blockAnew)
    (WholeSimulator.init cfg mode)).2

/-- A switch ends as a new adapter of the first geometry and the new mode does after storing the
blocks in their order: with the same simulator, or raising at the same block. What is loaded is
what was loaded before. -/
structure ChangesModeOnly (cfg : SimulatorConfig) (mb : Nat) (d : Drive) (mode : FtlMode) :
    Prop where
  raises : (d.2.setMode mode).1 = (storeEntries d.2.flashStore.entries (init cfg mode mb)).1
  simulator : (⟨d.1.rebuilt, (d.2.setMode mode).2.storageSimulator⟩ : Σ c, StorageSimulator c) =
    ⟨cfg, (storeEntries d.2.flashStore.entries (init cfg mode mb)).2.storageSimulator⟩
  whole : (⟨d.1.rebuilt, wholeAgain d mode⟩ : Σ c, WholeSimulator c) = ⟨cfg, wholeAnew cfg d mode⟩
  loads : ∀ blockId layerId,
    ((d.2.setMode mode).2.loadKv blockId layerId).1 = (d.2.loadKv blockId layerId).1

/-- The dimensions that are not handed on are the defaults, and what a switch reads from the
metadata of a block agrees with its keys. -/
structure CarriesOver (cfg : SimulatorConfig) (d : Drive) : Prop where
  dies : cfg.diesPerChannel = 4
  planes : cfg.planesPerDie = 2
  blocks : cfg.blocksPerPlane = 64
  described : ∀ e ∈ d.2.flashStore.entries, Describes e.2.metadata e.2.k

/-! ## When it keeps the promise -/

/-- The new arrays are the same whatever switches came before. -/
theorem rebuilt_exec (cfg : SimulatorConfig) (mode : FtlMode) (mb : Nat) (calls : List Call) :
    (drives.exec (start cfg mode mb) calls).1.rebuilt = cfg.rebuilt := by
  refine drives.exec_invariant (I := fun d => d.1.rebuilt = cfg.rebuilt) ?_ _ calls rfl
  intro d c hd
  cases c with
  | op op => exact hd
  | setMode mode => exact hd
  | observe blockIds telemetry traceLog => exact hd

theorem rebuilt_eq_iff (cfg : SimulatorConfig) : cfg.rebuilt = cfg ↔
    cfg.diesPerChannel = 4 ∧ cfg.planesPerDie = 2 ∧ cfg.blocksPerPlane = 64 := by
  obtain ⟨channels, dies, planes, blocks, _, _, _, _⟩ := cfg
  simp only [SimulatorConfig.rebuilt, SimulatorConfig.mk.injEq, true_and]
  exact ⟨fun h => ⟨h.1.symm, h.2.1.symm, h.2.2.symm⟩, fun h => ⟨h.1.symm, h.2.1.symm, h.2.2.symm⟩⟩

variable {d : Drive} {mode : FtlMode} {mb : Nat}

theorem setMode_whole (h : d.2.Identified) (mode : FtlMode) :
    (d.2.setMode mode).1 = (WholeSimulator.storeEach (d.2.flashStore.entries.map blockAgain)
        (WholeSimulator.init d.1.rebuilt mode)).1 ∧
      (d.2.setMode mode).2.storageSimulator = (wholeAgain d mode).timed.simulator := by
  refine reregister_whole d.2.globalIdMap (fun e he => ?_) (WholeSimulator.init d.1.rebuilt mode)
  exact h.get? ((Dict.lookup_eq_some_iff d.2.flashStore.nodup e.1 e.2).mpr he)

theorem storeEntries_init (cfg : SimulatorConfig) (mb : Nat) (d : Drive) (mode : FtlMode) :
    (storeEntries d.2.flashStore.entries (init cfg mode mb)).1 =
        (WholeSimulator.storeEach (d.2.flashStore.entries.map blockAnew)
          (WholeSimulator.init cfg mode)).1 ∧
      (storeEntries d.2.flashStore.entries (init cfg mode mb)).2.storageSimulator =
        (wholeAnew cfg d mode).timed.simulator :=
  storeEntries_whole d.2.flashStore.entries rfl

theorem loadKv_setMode (d : Drive) (mode : FtlMode) (blockId layerId : Int) :
    ((d.2.setMode mode).2.loadKv blockId layerId).1 = (d.2.loadKv blockId layerId).1 := by
  have hstore : (d.2.setMode mode).2.flashStore = d.2.flashStore := rfl
  unfold loadKv
  rw [hstore]
  cases d.2.flashStore.get? (layerId, blockId) <;> rfl

theorem storeEach_congr {cfg cfg' : SimulatorConfig} (hcfg : cfg = cfg')
    {blocks blocks' : List Schemas.KVBlock} (hblocks : blocks = blocks') (mode : FtlMode) :
    (WholeSimulator.storeEach blocks (WholeSimulator.init cfg mode)).1 =
        (WholeSimulator.storeEach blocks' (WholeSimulator.init cfg' mode)).1 ∧
      (⟨cfg, (WholeSimulator.storeEach blocks (WholeSimulator.init cfg mode)).2⟩ :
          Σ c, WholeSimulator c) =
        ⟨cfg', (WholeSimulator.storeEach blocks' (WholeSimulator.init cfg' mode)).2⟩ := by
  subst hcfg hblocks
  exact ⟨rfl, rfl⟩

theorem simulator_congr {cfg cfg' : SimulatorConfig} {w : WholeSimulator cfg}
    {w' : WholeSimulator cfg'}
    (h : (⟨cfg, w⟩ : Σ c, WholeSimulator c) = ⟨cfg', w'⟩) :
    (⟨cfg, w.timed.simulator⟩ : Σ c, StorageSimulator c) = ⟨cfg', w'.timed.simulator⟩ := by
  cases h
  rfl

/-- When everything carries over, a switch changes the mode alone. -/
theorem changesModeOnly_of_carriesOver (hids : d.2.Identified)
    (hrebuilt : d.1.rebuilt = cfg.rebuilt) (h : CarriesOver cfg d) :
    ChangesModeOnly cfg mb d mode := by
  have hcfg : d.1.rebuilt = cfg :=
    hrebuilt.trans ((rebuilt_eq_iff cfg).mpr ⟨h.dies, h.planes, h.blocks⟩)
  have hblocks : d.2.flashStore.entries.map blockAgain = d.2.flashStore.entries.map blockAnew :=
    List.map_congr_left fun e he => (blockAgain_eq_iff e).mpr (h.described e he)
  obtain ⟨hanswer, hsim⟩ := setMode_whole hids mode
  obtain ⟨hanswer', hsim'⟩ := storeEntries_init cfg mb d mode
  obtain ⟨hraises, hwhole⟩ := storeEach_congr hcfg hblocks mode
  refine ⟨?_, ?_, hwhole, loadKv_setMode d mode⟩
  · rw [hanswer, hanswer', hraises]
  · rw [hsim, hsim']
    exact simulator_congr hwhole

/-- When no two stored pairs have one id and a switch returns, it changes the mode alone only when
everything carries over. -/
theorem carriesOver_of_changesModeOnly (hids : d.2.Identified)
    (hrebuilt : d.1.rebuilt = cfg.rebuilt)
    (hapart : (d.2.flashStore.keys.map fun key => encodeGlobalBlockId key.1 key.2).Nodup)
    (hok : (d.2.setMode mode).1 = .ok ()) (h : ChangesModeOnly cfg mb d mode) :
    CarriesOver cfg d := by
  have hcfg : cfg.rebuilt = cfg := hrebuilt.symm.trans (congrArg Sigma.fst h.whole)
  obtain ⟨hdies, hplanes, hblocks⟩ := (rebuilt_eq_iff cfg).mp hcfg
  refine ⟨hdies, hplanes, hblocks, fun e he => (blockAgain_eq_iff e).mp ?_⟩
  have hagain := (setMode_whole hids mode).1.symm.trans hok
  have hanew := ((storeEntries_init cfg mb d mode).1.symm.trans h.raises.symm).trans hok
  have hidsAgain : ((d.2.flashStore.entries.map blockAgain).map
      Schemas.KVBlock.blockId).Nodup := by
    simpa [blockAgain, storedBlock, Dict.keys, Function.comp_def] using hapart
  have hidsAnew : ((d.2.flashStore.entries.map blockAnew).map
      Schemas.KVBlock.blockId).Nodup := by
    simpa [blockAnew, p2Block, Dict.keys, Function.comp_def] using hapart
  obtain ⟨loc, hloc⟩ := blocks_storeEach hidsAgain hagain _ (List.mem_map_of_mem he)
  obtain ⟨loc', hloc'⟩ := blocks_storeEach hidsAnew hanew _ (List.mem_map_of_mem he)
  have hkept : (wholeAgain d mode).blocks = (wholeAnew cfg d mode).blocks :=
    congrArg (fun w : Σ c, WholeSimulator c => w.2.blocks) h.whole
  have hsame : some { blockAgain e with physicalLocation := some loc } =
      some { blockAnew e with physicalLocation := some loc' } := by
    rw [← hloc, ← hloc']
    exact congrArg (fun blocks => Dict.get? blocks (encodeGlobalBlockId e.1.1 e.1.2)) hkept
  exact congrArg (fun b => { b with physicalLocation := none }) (Option.some.inj hsame)

/-- After any run, a switch changes the mode alone when everything carries over; and only then,
unless two stored pairs share an id or the switch raises. -/
theorem changes_mode_only_iff (cfg : SimulatorConfig) (mode₀ : FtlMode) (mb : Nat)
    (calls : List Call) (mode : FtlMode) :
    let d := drives.exec (start cfg mode₀ mb) calls
    (CarriesOver cfg d → ChangesModeOnly cfg mb d mode) ∧
      ((d.2.flashStore.keys.map fun key => encodeGlobalBlockId key.1 key.2).Nodup →
        (d.2.setMode mode).1 = .ok () → ChangesModeOnly cfg mb d mode → CarriesOver cfg d) := by
  intro d
  have hids : d.2.Identified := identified_exec cfg mode₀ mb calls
  have hrebuilt : d.1.rebuilt = cfg.rebuilt := rebuilt_exec cfg mode₀ mb calls
  exact ⟨changesModeOnly_of_carriesOver hids hrebuilt,
    carriesOver_of_changesModeOnly hids hrebuilt⟩

theorem changes_mode_only_one_block :
    ChangesModeOnly StorageSimulator.defaultConfig 1
      (drives.exec (start StorageSimulator.defaultConfig .tensorAware 1)
        [.op (.storeKv 0 1 oneFloat oneFloat none)]) .conventional := by
  refine (changes_mode_only_iff StorageSimulator.defaultConfig .tensorAware 1
    [.op (.storeKv 0 1 oneFloat oneFloat none)] .conventional).1 ⟨rfl, rfl, rfl, ?_⟩
  decide +kernel

/-- A drive with one die in each channel: the block of layer 1 is placed on a second die, whose
page is not there. After a switch there are four dies, and the page is programmed. -/
theorem one_die_becomes_four :
    let d := drives.exec (start StorageSimulator.oneDie .conventional 1)
      [.op (.storeKv 0 1 oneFloat oneFloat none)]
    ((d.2.setMode .tensorAware).2.storageSimulator.pages ⟨0, 1, 0, 0, 0⟩).state = .valid ∧
      ((storeEntries d.2.flashStore.entries (init StorageSimulator.oneDie .tensorAware
        1)).2.storageSimulator.pages ⟨0, 1, 0, 0, 0⟩).state = .free ∧
      ¬ ChangesModeOnly StorageSimulator.oneDie 1 d .tensorAware := by
  refine ⟨by decide +kernel, by decide +kernel, fun h => ?_⟩
  have hdies := congrArg (fun w : Σ c, WholeSimulator c => w.1.diesPerChannel) h.whole
  cases hdies

end PhysicalTensorAwareStorageAdapter

end AiSsd.DramCache
