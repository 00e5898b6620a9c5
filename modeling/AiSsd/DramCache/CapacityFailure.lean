import AiSsd.CacheManager.CapacityAbort
import AiSsd.DramCache.ModeSwitch

/-!
# Stores that find no page

`store_kv` counts the transfer and records the global id before it asks the simulator for a
page. When the drive is full the flash store and the simulator are untouched, so the blocks
that were stored are still there, but the count and the id stay.
-/

namespace AiSsd.DramCache.PhysicalTensorAwareStorageAdapter

open Lib Numpy Ftl

variable {cfg : SimulatorConfig}

def OutOfPages (s : PhysicalTensorAwareStorageAdapter cfg) (blockId layerId : Int)
    (keyData valueData : NDArray) (metadata : Option KVBlockMetadata) : Prop :=
  (s.storageSimulator.storeBlock (p2Block blockId layerId keyData valueData metadata).ftl).1 =
    .error (ConventionalFtl.capacityError cfg.ftlGeometry (encodeGlobalBlockId layerId blockId))

/-- Counters, ids, flash store and the tables of the translation layer are as they were. -/
structure Unchanged (s s' : PhysicalTensorAwareStorageAdapter cfg) : Prop where
  telemetry_eq : s'.telemetry = s.telemetry
  globalIdMap_eq : s'.globalIdMap = s.globalIdMap
  flashStore_eq : s'.flashStore = s.flashStore
  tables_eq : s'.storageSimulator.allocator.ftl.tables = s.storageSimulator.allocator.ftl.tables

/-- Every load answers the same, and every switch of the mode registers the same blocks. -/
structure SeesSameBlocks (s s' : PhysicalTensorAwareStorageAdapter cfg) : Prop where
  flashStore_eq : s'.flashStore = s.flashStore
  loadKv_eq : ∀ blockId layerId, (s'.loadKv blockId layerId).1 = (s.loadKv blockId layerId).1
  setMode_eq : ∀ mode, (s'.setMode mode).1 = (s.setMode mode).1 ∧
    (s'.setMode mode).2.flashStore = (s.setMode mode).2.flashStore ∧
    (s'.setMode mode).2.storageSimulator = (s.setMode mode).2.storageSimulator

variable {s : PhysicalTensorAwareStorageAdapter cfg} {blockId layerId : Int}
  {keyData valueData : NDArray} {metadata : Option KVBlockMetadata}

/-- A refusal for want of pages leaves the simulator alone. -/
theorem storeBlock_of_capacity {sim : StorageSimulator cfg} {block : Ftl.KVBlock}
    (h : (sim.storeBlock block).1 =
      .error (ConventionalFtl.capacityError cfg.ftlGeometry block.blockId)) :
    sim.storeBlock block =
      (.error (ConventionalFtl.capacityError cfg.ftlGeometry block.blockId), sim) := by
  cases hnext : sim.nextPage block with
  | none => exact StorageSimulator.storeBlock_refused hnext
  | some l =>
      rw [StorageSimulator.answer_storeBlock hnext] at h
      cases h

/-- All that is left of the call is what came before the simulator's. -/
theorem storeKv_refused (h : s.OutOfPages blockId layerId keyData valueData metadata) :
    s.storeKv blockId layerId keyData valueData metadata =
      (.error (ConventionalFtl.capacityError cfg.ftlGeometry
        (encodeGlobalBlockId layerId blockId)),
        s.announce blockId layerId (keyData.nbytes + valueData.nbytes)) := by
  have hsim := @storeBlock_of_capacity _ s.storageSimulator
    (p2Block blockId layerId keyData valueData metadata).ftl h
  unfold storeKv
  dsimp only [announce]
  rw [hsim]
  rfl

theorem storeKv_refused_keeps (h : s.OutOfPages blockId layerId keyData valueData metadata) :
    (s.storeKv blockId layerId keyData valueData metadata).2.telemetry.hostToDeviceBytes =
        s.telemetry.hostToDeviceBytes + (keyData.nbytes + valueData.nbytes) ∧
      (s.storeKv blockId layerId keyData valueData metadata).2.globalIdMap.get?
        (layerId, blockId) = some (encodeGlobalBlockId layerId blockId) := by
  rw [storeKv_refused h]
  exact ⟨rfl, Dict.get?_set_self _ _ _⟩

theorem unchanged_announce_iff (hids : s.Identified) (payloadBytes : Nat) :
    Unchanged s (s.announce blockId layerId payloadBytes) ↔
      payloadBytes = 0 ∧ s.globalIdMap.contains (layerId, blockId) = true := by
  constructor
  · intro h
    have hcount : s.telemetry.hostToDeviceBytes + payloadBytes = s.telemetry.hostToDeviceBytes :=
      congrArg (fun t => t.hostToDeviceBytes) h.telemetry_eq
    refine ⟨by omega, ?_⟩
    rw [← h.globalIdMap_eq]
    simp [announce, Dict.contains_set]
  · rintro ⟨rfl, hcontains⟩
    obtain ⟨gid, hgid⟩ := Option.isSome_iff_exists.mp hcontains
    obtain rfl := hids.recorded _ _ hgid
    exact ⟨rfl, Dict.set_of_get? hgid, rfl, rfl⟩

/-- The loop of `set_mode` looks up the ids of the blocks that it registers. -/
theorem reregister_congr {ids ids' : Dict Key Int} {entries : List (Key × PhysicalEntry)}
    (h : ∀ e ∈ entries, ids'.get? e.1 = ids.get? e.1) (sim : StorageSimulator cfg) :
    reregister ids' entries sim = reregister ids entries sim := by
  induction entries generalizing sim with
  | nil => rfl
  | cons e entries ih =>
      obtain ⟨key, entry⟩ := e
      have hkey : ids'.get? key = ids.get? key := h (key, entry) List.mem_cons_self
      unfold reregister
      rw [hkey]
      cases ids.get? key with
      | none => rfl
      | some gid =>
          dsimp only
          split
          · rfl
          · exact ih (fun e' he' => h e' (List.mem_cons_of_mem _ he')) _

theorem seesSameBlocks_announce (hids : s.Identified) (blockId layerId : Int)
    (payloadBytes : Nat) : SeesSameBlocks s (s.announce blockId layerId payloadBytes) := by
  have hannounced := hids.announce blockId layerId payloadBytes
  refine ⟨rfl, fun b l => ?_, fun mode => ?_⟩
  · unfold loadKv announce
    dsimp only
    cases s.flashStore.get? (l, b) <;> rfl
  · have hsame : ∀ e ∈ s.flashStore.entries,
        (s.announce blockId layerId payloadBytes).globalIdMap.get? e.1 =
          s.globalIdMap.get? e.1 := by
      intro e he
      have hentry := (Dict.mem_entries_iff s.flashStore e.1 e.2).mp he
      rw [hids.get? hentry]
      exact hannounced.get? hentry
    have hloop := reregister_congr hsame (StorageSimulator.init cfg.rebuilt mode)
    exact ⟨(congrArg (fun r => r.1) hloop :), rfl, (congrArg (fun r => r.2) hloop :)⟩

/-! ## A full drive -/

def oneChannel : SimulatorConfig where
  channels := 1
  diesPerChannel := 4
  planesPerDie := 2
  blocksPerPlane := 64
  channels_pos := Nat.one_pos
  dies_pos := FtlGeometry.default_dies
  planes_pos := FtlGeometry.default_planes
  blocks_pos := FtlGeometry.default_blocks

def oneFloat : NDArray := NDArray.zeros [1, 1, 1] float32

def noFloats : NDArray := NDArray.zeros [0, 1, 1] float32

def storeFirst : Call := .op (.storeKv 0 0 oneFloat oneFloat none)

/-- Conventional placement after `n` stores of block 0. -/
def filled (n : Nat) : PhysicalTensorAwareStorageAdapter oneChannel :=
  (machine oneChannel).exec (init oneChannel .conventional 1)
    (List.replicate n (.storeKv 0 0 oneFloat oneFloat none))

theorem exec_op (cfg : SimulatorConfig) (ops : List Op)
    (s : PhysicalTensorAwareStorageAdapter cfg) :
    drives.exec ⟨cfg, s⟩ (ops.map .op) = ⟨cfg, (machine cfg).exec s ops⟩ := by
  induction ops generalizing s with
  | nil => rfl
  | cons op ops ih => exact ih ((machine cfg).step s op).2

theorem drives_filled (n : Nat) :
    drives.exec (start oneChannel .conventional 1) (List.replicate n storeFirst) =
      ⟨oneChannel, filled n⟩ := by
  have h := exec_op oneChannel (List.replicate n (.storeKv 0 0 oneFloat oneFloat none))
    (init oneChannel .conventional 1)
  rwa [List.map_replicate] at h

/-- While there are pages each store takes one, and only block 0 has an id. -/
theorem filled_spec {n : Nat} (hn : n ≤ oneChannel.ftlGeometry.totalPages) :
    CacheManager.AtPage (filled n).storageSimulator n ∧
      ∀ key, key ≠ (0, 0) → (filled n).globalIdMap.get? key = none := by
  induction n with
  | zero => exact ⟨⟨_, rfl, rfl⟩, fun _ _ => rfl⟩
  | succ n ih =>
      obtain ⟨hpage, hids⟩ := ih (Nat.le_of_succ_le hn)
      have husable : CacheManager.PageUsable oneChannel n := hn
      have hstep : filled (n + 1) = ((filled n).storeKv 0 0 oneFloat oneFloat none).2 := by
        rw [filled, List.replicate_succ', Machine.exec_concat]
        rfl
      obtain ⟨loc, -, hplaced⟩ := hpage.storeBlock_ok husable (p2Block 0 0 oneFloat oneFloat none).ftl
      obtain ⟨-, hsim, hmap⟩ := (filled n).storeKv_simulator 0 0 oneFloat oneFloat none
      rw [hstep, hsim, hmap]
      refine ⟨hplaced.atPage, fun key hkey => ?_⟩
      exact (Dict.get?_set_of_ne _ _ (Ne.symm hkey)).trans (hids key hkey)

theorem outOfPages_filled {n : Nat} (hn : n = oneChannel.ftlGeometry.totalPages)
    (blockId layerId : Int) (keyData valueData : NDArray) (metadata : Option KVBlockMetadata) :
    (filled n).OutOfPages blockId layerId keyData valueData metadata := by
  obtain ⟨hpage, -⟩ := filled_spec (Nat.le_of_eq hn)
  have hnext := hpage.nextPage (p2Block blockId layerId keyData valueData metadata).ftl
  rw [if_pos (Nat.le_of_eq hn.symm)] at hnext
  exact congrArg Prod.fst (StorageSimulator.storeBlock_refused hnext)

@[irreducible] def fullDrive : Drive :=
  drives.exec (start oneChannel .conventional 1) (List.replicate 65536 storeFirst)

theorem exists_fullDrive_eq :
    ∃ n, n = oneChannel.ftlGeometry.totalPages ∧ fullDrive = ⟨oneChannel, filled n⟩ := by
  unfold fullDrive
  exact ⟨65536, rfl, drives_filled 65536⟩

theorem outOfPages_fullDrive (blockId layerId : Int) (keyData valueData : NDArray)
    (metadata : Option KVBlockMetadata) :
    fullDrive.2.OutOfPages blockId layerId keyData valueData metadata := by
  obtain ⟨n, hn, hdrive⟩ := exists_fullDrive_eq
  rw [hdrive]
  exact outOfPages_filled hn _ _ _ _ _

theorem get?_fullDrive {key : Key} (h : key ≠ (0, 0)) :
    fullDrive.2.globalIdMap.get? key = none := by
  obtain ⟨n, hn, hdrive⟩ := exists_fullDrive_eq
  rw [hdrive]
  exact (filled_spec (Nat.le_of_eq hn)).2 key h

/-! ## The exact condition -/

/-- In every state that calls lead to, a store that finds no page leaves the adapter as it was
exactly when its payload is empty and its id is recorded already. Whatever the payload, loads
and switches of the mode see the blocks they saw before. -/
theorem store_kv_atomic_iff (cfg : SimulatorConfig) (mode : FtlMode) (controllerDramSizeMb : Nat)
    (calls : List Call) (blockId layerId : Int) (keyData valueData : NDArray)
    (metadata : Option KVBlockMetadata)
    (hfull : (drives.exec (start cfg mode controllerDramSizeMb) calls).2.OutOfPages blockId layerId
      keyData valueData metadata) :
    let s := (drives.exec (start cfg mode controllerDramSizeMb) calls).2
    let r := s.storeKv blockId layerId keyData valueData metadata
    (∃ err, r.1 = .error err) ∧
      (Unchanged s r.2 ↔
        keyData.nbytes + valueData.nbytes = 0 ∧
          s.globalIdMap.contains (layerId, blockId) = true) ∧
      SeesSameBlocks s r.2 := by
  intro s r
  have hids := identified_exec cfg mode controllerDramSizeMb calls
  have hr : r = _ := storeKv_refused hfull
  rw [hr]
  exact ⟨⟨_, rfl⟩, unchanged_announce_iff hids _, seesSameBlocks_announce hids _ _ _⟩

/-- Block 0 again, with no bytes: the id is there and nothing is counted. -/
theorem store_kv_atomic_iff_empty :
    (∃ err, (fullDrive.2.storeKv 0 0 noFloats noFloats none).1 = .error err) ∧
      (Unchanged fullDrive.2 (fullDrive.2.storeKv 0 0 noFloats noFloats none).2 ↔
        noFloats.nbytes + noFloats.nbytes = 0 ∧
          fullDrive.2.globalIdMap.contains (0, 0) = true) ∧
      SeesSameBlocks fullDrive.2 (fullDrive.2.storeKv 0 0 noFloats noFloats none).2 := by
  have hfull := outOfPages_fullDrive 0 0 noFloats noFloats none
  unfold fullDrive at hfull ⊢
  exact store_kv_atomic_iff oneChannel .conventional 1 (List.replicate 65536 storeFirst) 0 0
    noFloats noFloats none hfull

/-- A block that finds no page on a full drive: its eight bytes are counted as sent, and it has a
global id although it is stored nowhere. -/
theorem refused_block_keeps_its_id :
    (fullDrive.2.OutOfPages 1 0 oneFloat oneFloat none ∧
      (fullDrive.2.storeKv 1 0 oneFloat oneFloat none).2.telemetry.hostToDeviceBytes =
        fullDrive.2.telemetry.hostToDeviceBytes + 8) ∧
      fullDrive.2.globalIdMap.get? (0, 1) = none ∧
      (fullDrive.2.storeKv 1 0 oneFloat oneFloat none).2.globalIdMap.get? (0, 1) = some 1 ∧
      ¬ Unchanged fullDrive.2 (fullDrive.2.storeKv 1 0 oneFloat oneFloat none).2 := by
  have hfull := outOfPages_fullDrive 1 0 oneFloat oneFloat none
  have hids : fullDrive.2.globalIdMap.get? (0, 1) = none := get?_fullDrive (by decide)
  have hbytes : oneFloat.nbytes + oneFloat.nbytes = 8 := by decide
  obtain ⟨hcount, hmap⟩ := storeKv_refused_keeps hfull
  rw [hbytes] at hcount
  refine ⟨⟨hfull, hcount⟩, hids, hmap, fun hsame => ?_⟩
  rw [hsame.globalIdMap_eq, hids] at hmap
  cases hmap

end AiSsd.DramCache.PhysicalTensorAwareStorageAdapter
