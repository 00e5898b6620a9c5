import AiSsd.DramCache.Physical
import AiSsd.Ftl.StoreSafety

/-!
# The used bytes of the controller's DRAM

Evicting a block drops it from the cache and leaves the counter of used bytes as it was, and
storing over a cached block does not look at the counter either. So the counter is the sum of
the cached payloads exactly as long as nothing cached is evicted, or stored again with
another size.
-/

namespace AiSsd.DramCache

open Lib Numpy Ftl

theorem nbytes_ascontiguousarray (a : NDArray) : a.ascontiguousarray.nbytes = a.nbytes :=
  congrArg List.length a.data_ascontiguousarray

/-! ## The books of a controller -/

section Books

variable {ν : Type} {size : ν → Nat} {capacity : Nat}
  {stores : Int → Int → NDArray → NDArray → Option KVBlockMetadata → Prop} {c : CachedStore Key ν}
  {after : Op → CachedStore Key ν}

/-- Nothing cached is evicted, unless it is empty, or stored again with another size. Some stores
raise before the flash store. -/
def Keeps (size : ν → Nat)
    (stores : Int → Int → NDArray → NDArray → Option KVBlockMetadata → Prop)
    (c : CachedStore Key ν) : Op → Prop
  | .storeKv blockId layerId keyData valueData metadata =>
      (layerId, blockId) ∈ c.cached → stores blockId layerId keyData valueData metadata →
        keyData.nbytes + valueData.nbytes = c.bytesAt size (layerId, blockId)
  | .evictKv blockId layerId => (layerId, blockId) ∈ c.cached → c.bytesAt size (layerId, blockId) = 0
  | .loadKv _ _ => True
  | .prefetchKv _ _ => True

structure Books (size : ν → Nat) (capacity : Nat)
    (stores : Int → Int → NDArray → NDArray → Option KVBlockMetadata → Prop)
    (c : CachedStore Key ν) (after : Op → CachedStore Key ν) : Prop where
  stored : ∀ blockId layerId keyData valueData metadata,
    stores blockId layerId keyData valueData metadata →
      ∃ value, size value = keyData.nbytes + valueData.nbytes ∧
        after (.storeKv blockId layerId keyData valueData metadata) = c.put (layerId, blockId) value
  refused : ∀ blockId layerId keyData valueData metadata,
    ¬ stores blockId layerId keyData valueData metadata →
      after (.storeKv blockId layerId keyData valueData metadata) = c
  loaded : ∀ blockId layerId, after (.loadKv blockId layerId) = c ∨
    ∃ value, size value = c.bytesAt size (layerId, blockId) ∧
      after (.loadKv blockId layerId) = c.put (layerId, blockId) value
  prefetched : ∀ blockIds layerId, after (.prefetchKv blockIds layerId) =
    blockIds.foldl (fun c bid => c.tryStage size capacity (layerId, bid)) c
  evicted : ∀ blockId layerId, after (.evictKv blockId layerId) = c.evict (layerId, blockId)

theorem Books.accounted_iff (books : Books size capacity stores c after)
    (h : CachedStore.Accounted size capacity c) (op : Op) :
    CachedStore.Accounted size capacity (after op) ↔ Keeps size stores c op := by
  cases op with
  | storeKv blockId layerId keyData valueData metadata =>
      by_cases hstores : stores blockId layerId keyData valueData metadata
      · obtain ⟨value, hsize, hput⟩ := books.stored _ _ _ _ _ hstores
        rw [hput, h.put_iff, hsize]
        exact ⟨fun hkeeps hkey _ => hkeeps hkey, fun hkeeps hkey => hkeeps hkey hstores⟩
      · rw [books.refused _ _ _ _ _ hstores]
        exact iff_of_true h fun _ hyes => absurd hyes hstores
  | loadKv blockId layerId =>
      refine iff_of_true ?_ trivial
      rcases books.loaded blockId layerId with hsame | ⟨value, hsize, hput⟩
      · rwa [hsame]
      · rw [hput, h.put_iff]
        exact fun _ => hsize
  | prefetchKv blockIds layerId =>
      refine iff_of_true ?_ trivial
      rw [books.prefetched]
      exact List.foldlRecOn (motive := CachedStore.Accounted size capacity) blockIds _ h
        fun c hc bid _ => hc.tryStage (layerId, bid)
  | evictKv blockId layerId =>
      rw [books.evicted]
      exact h.evict_iff (layerId, blockId)

end Books

/-! ## The simulated controller -/

namespace MockSSDController

def ledger (s : MockSSDController) : CachedStore Key FlashEntry :=
  ⟨s.flashStore, s.controllerDramCache, s.controllerDramUsedBytes⟩

/-- The counter is right, within the capacity, and what is cached is in the flash store. -/
def Accounted (s : MockSSDController) : Prop :=
  CachedStore.Accounted FlashEntry.payloadBytes s.dramCapacityBytes s.ledger

/-- Nothing cached is evicted, unless it is empty, or stored again with another size. A store
without metadata and of fewer than three dimensions raises before the flash store. -/
def KeepsCached (s : MockSSDController) : Op → Prop
  | .storeKv blockId layerId keyData valueData metadata =>
      (layerId, blockId) ∈ s.controllerDramCache → (metadata = none → 3 ≤ keyData.ndim) →
        keyData.nbytes + valueData.nbytes =
          s.ledger.bytesAt FlashEntry.payloadBytes (layerId, blockId)
  | .evictKv blockId layerId =>
      (layerId, blockId) ∈ s.controllerDramCache →
        s.ledger.bytesAt FlashEntry.payloadBytes (layerId, blockId) = 0
  | .loadKv _ _ => True
  | .prefetchKv _ _ => True

variable (s : MockSSDController)

theorem metadataOf_error {blockId layerId : Int} {keyData : NDArray}
    {metadata : Option KVBlockMetadata} (h : ¬ (metadata = none → 3 ≤ keyData.ndim)) :
    ∃ err, metadataOf blockId layerId keyData metadata = .error err := by
  push Not at h
  obtain ⟨rfl, hdim⟩ := h
  unfold NDArray.ndim at hdim
  dsimp only [metadataOf]
  split
  · rename_i hshape
    rw [hshape] at hdim
    simp only [List.length_cons] at hdim
    omega
  · exact ⟨_, rfl⟩

theorem metadataOf_ok {blockId layerId : Int} {keyData : NDArray}
    {metadata : Option KVBlockMetadata} (h : metadata = none → 3 ≤ keyData.ndim) :
    ∃ m, metadataOf blockId layerId keyData metadata = .ok m := by
  cases metadata with
  | some m => exact ⟨m, rfl⟩
  | none =>
      have hdim := h rfl
      unfold NDArray.ndim at hdim
      unfold metadataOf
      match keyData.shape, hdim with
      | _ :: _ :: _ :: _, _ => exact ⟨_, rfl⟩

theorem prefetchOne_ledger (layerId : Int) (acc : Nat × MockSSDController) (bid : Int) :
    (prefetchOne layerId acc bid).2.dramCapacityBytes = acc.2.dramCapacityBytes ∧
      (prefetchOne layerId acc bid).2.ledger =
        acc.2.ledger.tryStage FlashEntry.payloadBytes acc.2.dramCapacityBytes (layerId, bid) := by
  unfold prefetchOne CachedStore.tryStage ledger
  dsimp only
  cases acc.2.flashStore.get? (layerId, bid) with
  | none => exact ⟨rfl, rfl⟩
  | some entry =>
      dsimp only
      split
      · exact ⟨rfl, rfl⟩
      · exact ⟨rfl, rfl⟩

theorem prefetch_ledger (layerId : Int) (blockIds : List Int) (acc : Nat × MockSSDController) :
    (blockIds.foldl (prefetchOne layerId) acc).2.dramCapacityBytes = acc.2.dramCapacityBytes ∧
      (blockIds.foldl (prefetchOne layerId) acc).2.ledger = blockIds.foldl (fun c bid =>
        c.tryStage FlashEntry.payloadBytes acc.2.dramCapacityBytes (layerId, bid)) acc.2.ledger := by
  induction blockIds generalizing acc with
  | nil => exact ⟨rfl, rfl⟩
  | cons bid blockIds ih =>
      obtain ⟨hcapacity, hledger⟩ := prefetchOne_ledger layerId acc bid
      have hrest := ih (prefetchOne layerId acc bid)
      rw [hcapacity, hledger] at hrest
      exact hrest

theorem dramCapacityBytes_step (op : Op) :
    (s.step op).2.dramCapacityBytes = s.dramCapacityBytes := by
  cases op with
  | storeKv blockId layerId keyData valueData metadata =>
      dsimp only [step, storeKv]
      split <;> rfl
  | loadKv blockId layerId =>
      dsimp only [step, loadKv]
      split <;> rfl
  | prefetchKv blockIds layerId => exact (prefetch_ledger layerId blockIds (0, s)).1
  | evictKv blockId layerId =>
      dsimp only [step, evictKv]
      split <;> rfl

theorem books : Books FlashEntry.payloadBytes s.dramCapacityBytes
    (fun _ _ keyData _ metadata => metadata = none → 3 ≤ keyData.ndim) s.ledger
    fun op => (s.step op).2.ledger where
  stored := by
    intro blockId layerId keyData valueData metadata hmeta
    obtain ⟨m, hm⟩ := @metadataOf_ok blockId layerId _ _ hmeta
    refine ⟨⟨keyData.ascontiguousarray, valueData.ascontiguousarray, m⟩, ?_, ?_⟩
    · simp only [FlashEntry.payloadBytes, nbytes_ascontiguousarray]
    · dsimp only [step, storeKv]
      rw [hm]
      rfl
  refused := by
    intro blockId layerId keyData valueData metadata hmeta
    obtain ⟨err, herr⟩ := @metadataOf_error blockId layerId _ _ hmeta
    dsimp only [step, storeKv]
    rw [herr]
    rfl
  loaded := by
    intro blockId layerId
    dsimp only [step, loadKv]
    split
    · exact .inl rfl
    · rename_i entry hentry
      have hbytes : s.ledger.bytesAt FlashEntry.payloadBytes (layerId, blockId) =
          entry.touch.payloadBytes := @CachedStore.bytesAt_of_get? _ _ _ _ s.ledger _ entry hentry
      exact .inr ⟨entry.touch, hbytes.symm, rfl⟩
  prefetched := fun blockIds layerId => (prefetch_ledger layerId blockIds (0, s)).2
  evicted := by
    intro blockId layerId
    dsimp only [step, evictKv, CachedStore.evict, ledger]
    split <;> rfl

variable {s}

theorem accounted_step_iff (h : s.Accounted) (op : Op) :
    (s.step op).2.Accounted ↔ s.KeepsCached op := by
  rw [Accounted, s.dramCapacityBytes_step op, s.books.accounted_iff h op]
  cases op <;> rfl

end MockSSDController

/-! ## The physical adapter -/

namespace PhysicalTensorAwareStorageAdapter

variable {cfg : SimulatorConfig}

def payloadBytes (entry : PhysicalEntry) : Nat := entry.toFlashEntry.payloadBytes

def ledger (s : PhysicalTensorAwareStorageAdapter cfg) : CachedStore Key PhysicalEntry :=
  ⟨s.flashStore, s.controllerDramCache, s.controllerDramUsedBytes⟩

/-- The counter is right, within the capacity, and what is cached is in the flash store. -/
def Accounted (s : PhysicalTensorAwareStorageAdapter cfg) : Prop :=
  CachedStore.Accounted payloadBytes s.controllerDramCapacityBytes s.ledger

def Placeable (s : PhysicalTensorAwareStorageAdapter cfg) (block : Schemas.KVBlock) : Prop :=
  ∃ l, s.storageSimulator.nextPage block.ftl = some l

/-- Nothing cached is evicted, unless it is empty, or stored again with another size. A block
the simulator does not place raises before the flash store. -/
def KeepsCached (s : PhysicalTensorAwareStorageAdapter cfg) : Op → Prop
  | .storeKv blockId layerId keyData valueData metadata =>
      (layerId, blockId) ∈ s.controllerDramCache →
        s.Placeable (p2Block blockId layerId keyData valueData metadata) →
          keyData.nbytes + valueData.nbytes = s.ledger.bytesAt payloadBytes (layerId, blockId)
  | .evictKv blockId layerId =>
      (layerId, blockId) ∈ s.controllerDramCache →
        s.ledger.bytesAt payloadBytes (layerId, blockId) = 0
  | .loadKv _ _ => True
  | .prefetchKv _ _ => True

variable (s : PhysicalTensorAwareStorageAdapter cfg)

theorem storeBlock_ok_iff (block : Schemas.KVBlock) :
    (∃ loc, (s.storageSimulator.storeBlock block.ftl).1 = .ok loc) ↔ s.Placeable block := by
  unfold Placeable
  cases hnext : s.storageSimulator.nextPage block.ftl with
  | none => simp [StorageSimulator.storeBlock_refused hnext]
  | some l => simp [StorageSimulator.answer_storeBlock hnext]

theorem prefetchOne_ledger (layerId : Int)
    (acc : List Int × PhysicalTensorAwareStorageAdapter cfg) (bid : Int) :
    (prefetchOne layerId acc bid).2.controllerDramCapacityBytes =
        acc.2.controllerDramCapacityBytes ∧
      (prefetchOne layerId acc bid).2.ledger =
        acc.2.ledger.tryStage payloadBytes acc.2.controllerDramCapacityBytes (layerId, bid) := by
  unfold prefetchOne CachedStore.tryStage ledger payloadBytes
  dsimp only
  cases acc.2.flashStore.get? (layerId, bid) with
  | none => exact ⟨rfl, rfl⟩
  | some entry =>
      dsimp only
      split
      · exact ⟨rfl, rfl⟩
      · exact ⟨rfl, rfl⟩

theorem prefetch_ledger (layerId : Int) (blockIds : List Int)
    (acc : List Int × PhysicalTensorAwareStorageAdapter cfg) :
    (blockIds.foldl (prefetchOne layerId) acc).2.controllerDramCapacityBytes =
        acc.2.controllerDramCapacityBytes ∧
      (blockIds.foldl (prefetchOne layerId) acc).2.ledger = blockIds.foldl (fun c bid =>
        c.tryStage payloadBytes acc.2.controllerDramCapacityBytes (layerId, bid)) acc.2.ledger := by
  induction blockIds generalizing acc with
  | nil => exact ⟨rfl, rfl⟩
  | cons bid blockIds ih =>
      obtain ⟨hcapacity, hledger⟩ := prefetchOne_ledger layerId acc bid
      have hrest := ih (prefetchOne layerId acc bid)
      rw [hcapacity, hledger] at hrest
      exact hrest

theorem controllerDramCapacityBytes_step (op : Op) :
    (s.step op).2.controllerDramCapacityBytes = s.controllerDramCapacityBytes := by
  cases op with
  | storeKv blockId layerId keyData valueData metadata =>
      dsimp only [step, storeKv]
      split <;> rfl
  | loadKv blockId layerId =>
      dsimp only [step, loadKv]
      split <;> rfl
  | prefetchKv blockIds layerId => exact (prefetch_ledger layerId blockIds ([], s)).1
  | evictKv blockId layerId =>
      dsimp only [step, evictKv]
      split <;> rfl

theorem books : Books payloadBytes s.controllerDramCapacityBytes
    (fun blockId layerId keyData valueData metadata =>
      s.Placeable (p2Block blockId layerId keyData valueData metadata)) s.ledger
    fun op => (s.step op).2.ledger where
  stored := by
    intro blockId layerId keyData valueData metadata hplace
    obtain ⟨loc, hloc⟩ := (s.storeBlock_ok_iff _).mpr hplace
    refine ⟨⟨⟨keyData.ascontiguousarray, valueData.ascontiguousarray,
      metadataOf blockId layerId keyData metadata⟩, encodeGlobalBlockId layerId blockId⟩, ?_, ?_⟩
    · simp only [payloadBytes, FlashEntry.payloadBytes, nbytes_ascontiguousarray]
    · dsimp only [step, storeKv, announce]
      split
      · rename_i hstore
        rw [hstore] at hloc
        cases hloc
      · rfl
  refused := by
    intro blockId layerId keyData valueData metadata hplace
    have hplaced := s.storeBlock_ok_iff (p2Block blockId layerId keyData valueData metadata)
    dsimp only [step, storeKv, announce]
    split
    · rfl
    · rename_i loc sim hstore
      rw [hstore] at hplaced
      exact absurd (hplaced.mp ⟨loc, rfl⟩) hplace
  loaded := by
    intro blockId layerId
    left
    dsimp only [step, loadKv]
    split <;> rfl
  prefetched := fun blockIds layerId => (prefetch_ledger layerId blockIds ([], s)).2
  evicted := by
    intro blockId layerId
    dsimp only [step, evictKv, CachedStore.evict, ledger]
    split <;> rfl

variable {s}

theorem accounted_step_iff (h : s.Accounted) (op : Op) :
    (s.step op).2.Accounted ↔ s.KeepsCached op := by
  rw [Accounted, s.controllerDramCapacityBytes_step op, s.books.accounted_iff h op]
  cases op <;> rfl

end PhysicalTensorAwareStorageAdapter

/-! ## Runs -/

/-- Every state of a run is accounted for exactly when every step keeps what is cached. -/
theorem accounted_iff_keepsCached (controllerDramSizeMb : Nat) (ops : List Op) :
    ((∀ pre, pre <+: ops →
        (MockSSDController.machine.exec (.init controllerDramSizeMb) pre).Accounted) ↔
      MockSSDController.machine.Meets MockSSDController.KeepsCached
        (.init controllerDramSizeMb) ops) ∧
    ∀ (cfg : SimulatorConfig) (mode : FtlMode),
      (∀ pre, pre <+: ops → ((PhysicalTensorAwareStorageAdapter.machine cfg).exec
          (.init cfg mode controllerDramSizeMb) pre).Accounted) ↔
        (PhysicalTensorAwareStorageAdapter.machine cfg).Meets
          PhysicalTensorAwareStorageAdapter.KeepsCached
          (.init cfg mode controllerDramSizeMb) ops := by
  constructor
  · exact MockSSDController.machine.forall_prefix_iff_meets (fun _ h => h)
      (fun s op h => (s.accounted_step_iff h op).mpr)
      (fun s op h => (s.accounted_step_iff h op).mp) _ ops CachedStore.accounted_init
  · intro cfg mode
    exact (PhysicalTensorAwareStorageAdapter.machine cfg).forall_prefix_iff_meets (fun _ h => h)
      (fun s op h => (s.accounted_step_iff h op).mpr)
      (fun s op h => (s.accounted_step_iff h op).mp) _ ops CachedStore.accounted_init

/-- A block of one float, staged and then evicted, is still counted. -/
theorem evicted_still_counted :
    ¬ (MockSSDController.machine.exec (.init 1)
      [.storeKv 0 0 (NDArray.zeros [1, 1, 1] float32) (NDArray.zeros [1, 1, 1] float32) none,
        .prefetchKv [0] 0, .evictKv 0 0]).Accounted := by
  intro h
  exact absurd h.used_eq (by decide)

end AiSsd.DramCache
