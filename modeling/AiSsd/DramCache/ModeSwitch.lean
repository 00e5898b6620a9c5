import AiSsd.DramCache.Physical

/-!
# Switching the translation layer

`set_mode` builds a new simulator and stores every block of the flash store in it again, under
the global id that was recorded for it. Only the number of channels is handed on; the other
dimensions of the new arrays are the defaults.
-/

namespace AiSsd.Ftl

/-- `StorageSimulator(mode=mode, channels=self.channels)`. -/
def SimulatorConfig.rebuilt (cfg : SimulatorConfig) : SimulatorConfig where
  channels := cfg.channels
  diesPerChannel := 4
  planesPerDie := 2
  blocksPerPlane := 64
  channels_pos := cfg.channels_pos
  dies_pos := FtlGeometry.default_dies
  planes_pos := FtlGeometry.default_planes
  blocks_pos := FtlGeometry.default_blocks

end AiSsd.Ftl

namespace AiSsd.DramCache

open Lib Numpy Storage Ftl

namespace PhysicalTensorAwareStorageAdapter

variable {cfg : SimulatorConfig}

/-- A block of the flash store, as it is handed to the new simulator. -/
def storedBlock (key : Key) (entry : PhysicalEntry) (gid : Int) : Schemas.KVBlock where
  blockId := gid
  layerId := key.1
  tokenStart := entry.metadata.tokenStart
  tokenCount := entry.metadata.tokenCount
  kvHeadStart := 0
  kvHeadCount := entry.metadata.numHeads
  headDim := entry.metadata.headDim
  dtype := if entry.metadata.dtypeBytes = 2 then "FP16" else "FP32"
  keySizeBytes := entry.k.nbytes
  valueSizeBytes := entry.v.nbytes
  storageTier := .ssd
  hotness := 1
  physicalLocation := none

/-- The loop of `set_mode`. -/
def reregister (globalIdMap : Dict Key Int) :
    List (Key × PhysicalEntry) → StorageSimulator cfg → Except PyErr Unit × StorageSimulator cfg
  | [], sim => (.ok (), sim)
  | (key, entry) :: entries, sim =>
      match globalIdMap.get? key with
      | none => (.error (.keyError s!"({key.1}, {key.2})"), sim)
      | some gid =>
          match sim.storeBlock (storedBlock key entry gid).ftl with
          | (.error err, sim) => (.error err, sim)
          | (.ok _, sim) => reregister globalIdMap entries sim

def setMode (s : PhysicalTensorAwareStorageAdapter cfg) (mode : FtlMode) :
    Except PyErr Unit × PhysicalTensorAwareStorageAdapter cfg.rebuilt :=
  let r := reregister s.globalIdMap s.flashStore.entries (StorageSimulator.init cfg.rebuilt mode)
  (r.1,
    { controllerDramCapacityBytes := s.controllerDramCapacityBytes
      storageSimulator := r.2
      flashStore := s.flashStore
      controllerDramCache := s.controllerDramCache
      controllerDramUsedBytes := s.controllerDramUsedBytes
      globalIdMap := s.globalIdMap
      telemetry := s.telemetry
      traceLog := s.traceLog })

/-! ## Runs -/

abbrev Drive := Σ cfg : SimulatorConfig, PhysicalTensorAwareStorageAdapter cfg

/-- `observe` is anything that reads pages and touches counters and log alone, as
`in_storage_topk_attention` and `reset_telemetry` do. -/
inductive Call where
  | op (op : Op)
  | setMode (mode : FtlMode)
  | observe (blockIds : List Int) (telemetry : Telemetry) (traceLog : List PhysicalEvent)

def call : Drive → Call → Except PyErr (Option Answer) × Drive
  | ⟨cfg, s⟩, .op op => ((s.step op).1.map some, ⟨cfg, (s.step op).2⟩)
  | ⟨cfg, s⟩, .setMode mode => ((s.setMode mode).1.map fun _ => none, ⟨cfg.rebuilt, (s.setMode mode).2⟩)
  | ⟨cfg, s⟩, .observe blockIds telemetry traceLog =>
      (.ok none,
        ⟨cfg,
          { s with
            storageSimulator := (s.storageSimulator.estimateReadLatency blockIds).2
            telemetry := telemetry
            traceLog := traceLog }⟩)

def drives : Machine Drive Call (Except PyErr (Option Answer)) where
  step := call

variable (cfg) in
def start (mode : FtlMode) (controllerDramSizeMb : Nat) : Drive := ⟨cfg, init cfg mode controllerDramSizeMb⟩

/-! ## Global ids -/

structure Identified (s : PhysicalTensorAwareStorageAdapter cfg) : Prop where
  recorded : ∀ key gid, s.globalIdMap.get? key = some gid → gid = encodeGlobalBlockId key.1 key.2
  stored : ∀ key entry, s.flashStore.get? key = some entry →
    s.globalIdMap.contains key = true ∧ entry.globalId = encodeGlobalBlockId key.1 key.2

variable {s : PhysicalTensorAwareStorageAdapter cfg}

theorem identified_init (mode : FtlMode) (mb : Nat) : Identified (init cfg mode mb) where
  recorded := by
    intro key gid h
    cases h
  stored := by
    intro key entry h
    cases h

theorem Identified.congr {cfg' : SimulatorConfig} {s' : PhysicalTensorAwareStorageAdapter cfg'}
    (h : s.Identified) (hstore : s'.flashStore = s.flashStore)
    (hmap : s'.globalIdMap = s.globalIdMap) : s'.Identified where
  recorded := hmap ▸ h.recorded
  stored := by
    rw [hstore, hmap]
    exact h.stored

theorem Identified.get? (h : s.Identified) {key : Key} {entry : PhysicalEntry}
    (hentry : s.flashStore.get? key = some entry) :
    s.globalIdMap.get? key = some (encodeGlobalBlockId key.1 key.2) := by
  obtain ⟨gid, hgid⟩ := Option.isSome_iff_exists.mp (h.stored key entry hentry).1
  rw [hgid, h.recorded key gid hgid]

theorem Identified.announce (h : s.Identified) (blockId layerId : Int) (payloadBytes : Nat) :
    (s.announce blockId layerId payloadBytes).Identified where
  recorded := by
    intro key gid hgid
    rw [PhysicalTensorAwareStorageAdapter.announce, Dict.get?_set] at hgid
    split at hgid
    · rename_i heq
      subst heq
      exact (Option.some.inj hgid).symm
    · exact h.recorded key gid hgid
  stored := by
    intro key entry hentry
    obtain ⟨hmap, hid⟩ := h.stored key entry hentry
    refine ⟨?_, hid⟩
    rw [PhysicalTensorAwareStorageAdapter.announce, Dict.contains_set, hmap, Bool.or_true]

theorem Identified.storeKv (h : s.Identified) (blockId layerId : Int) (keyData valueData : NDArray)
    (metadata : Option KVBlockMetadata) :
    (s.storeKv blockId layerId keyData valueData metadata).2.Identified := by
  have hannounced := h.announce blockId layerId (keyData.nbytes + valueData.nbytes)
  unfold PhysicalTensorAwareStorageAdapter.storeKv
  dsimp only
  split
  · exact hannounced.congr rfl rfl
  · refine ⟨hannounced.recorded, fun key entry hentry => ?_⟩
    dsimp only at hentry
    rw [Dict.get?_set] at hentry
    split at hentry
    · rename_i heq
      subst heq
      obtain rfl := Option.some.inj hentry
      exact ⟨by simp [PhysicalTensorAwareStorageAdapter.announce, Dict.contains_set], rfl⟩
    · exact hannounced.stored key entry hentry

theorem Identified.evictKv (h : s.Identified) (blockId layerId : Int) :
    (s.evictKv blockId layerId).2.Identified := by
  unfold PhysicalTensorAwareStorageAdapter.evictKv
  split
  · refine ⟨fun key gid hgid => ?_, fun key entry hentry => ?_⟩
    · dsimp only at hgid
      rw [Dict.get?_erase] at hgid
      split at hgid
      · cases hgid
      · exact h.recorded key gid hgid
    · dsimp only at hentry ⊢
      rw [Dict.get?_erase] at hentry
      split at hentry
      · cases hentry
      · rename_i hne
        obtain ⟨hmap, hid⟩ := h.stored key entry hentry
        refine ⟨?_, hid⟩
        rwa [Dict.contains, Dict.get?_erase_of_ne _ hne]
  · exact h

theorem prefetchOne_tables (layerId : Int) (acc : List Int × PhysicalTensorAwareStorageAdapter cfg)
    (bid : Int) : (prefetchOne layerId acc bid).2.flashStore = acc.2.flashStore ∧
      (prefetchOne layerId acc bid).2.globalIdMap = acc.2.globalIdMap := by
  unfold prefetchOne
  dsimp only
  split
  · exact ⟨rfl, rfl⟩
  · split <;> exact ⟨rfl, rfl⟩

theorem prefetchKv_tables (s : PhysicalTensorAwareStorageAdapter cfg) (blockIds : List Int)
    (layerId : Int) : (s.prefetchKv blockIds layerId).2.flashStore = s.flashStore ∧
      (s.prefetchKv blockIds layerId).2.globalIdMap = s.globalIdMap := by
  have hfold : ∀ acc : List Int × PhysicalTensorAwareStorageAdapter cfg,
      (blockIds.foldl (prefetchOne layerId) acc).2.flashStore = acc.2.flashStore ∧
        (blockIds.foldl (prefetchOne layerId) acc).2.globalIdMap = acc.2.globalIdMap := by
    induction blockIds with
    | nil => exact fun acc => ⟨rfl, rfl⟩
    | cons bid bids ih =>
        intro acc
        obtain ⟨hstore, hmap⟩ := ih (prefetchOne layerId acc bid)
        obtain ⟨hstore', hmap'⟩ := prefetchOne_tables layerId acc bid
        exact ⟨hstore.trans hstore', hmap.trans hmap'⟩
  exact hfold ([], s)

theorem loadKv_tables (s : PhysicalTensorAwareStorageAdapter cfg) (blockId layerId : Int) :
    (s.loadKv blockId layerId).2.flashStore = s.flashStore ∧
      (s.loadKv blockId layerId).2.globalIdMap = s.globalIdMap := by
  unfold loadKv
  split <;> exact ⟨rfl, rfl⟩

theorem Identified.call {d : Drive} (h : d.2.Identified) (c : Call) :
    (PhysicalTensorAwareStorageAdapter.call d c).2.2.Identified := by
  obtain ⟨cfg, s⟩ := d
  cases c with
  | op op =>
      cases op with
      | storeKv blockId layerId keyData valueData metadata => exact h.storeKv _ _ _ _ _
      | loadKv blockId layerId =>
          exact h.congr (s.loadKv_tables blockId layerId).1 (s.loadKv_tables blockId layerId).2
      | prefetchKv blockIds layerId =>
          exact h.congr (s.prefetchKv_tables blockIds layerId).1
            (s.prefetchKv_tables blockIds layerId).2
      | evictKv blockId layerId => exact h.evictKv _ _
  | setMode mode => exact h.congr rfl rfl
  | observe blockIds telemetry traceLog => exact h.congr rfl rfl

/-- After any run the ids are the codes of their pairs. -/
theorem identified_exec (cfg : SimulatorConfig) (mode : FtlMode) (mb : Nat) (calls : List Call) :
    (drives.exec (start cfg mode mb) calls).2.Identified :=
  drives.exec_invariant (I := fun d => d.2.Identified) (fun _ c h => h.call c) _ calls
    (identified_init mode mb)

end PhysicalTensorAwareStorageAdapter

end AiSsd.DramCache
