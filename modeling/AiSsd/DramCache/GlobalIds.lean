import AiSsd.DramCache.ModeSwitch
import AiSsd.Ftl.PagesApart
import AiSsd.Tiering.KVBlock
import Mathlib.Data.Set.Function

/-!
# Global block ids

The adapter packs a layer and sixteen bits of a block id into one id for the translation layer.
The ids of the tiering pool come from one counter without a bound, so two blocks of a layer whose
ids agree in these bits are one block to the translation layer. Blocks with different ids are on
different pages under conventional allocation; a tensor-aware one may place them together.
-/

namespace AiSsd.DramCache

open Lib Numpy Ftl Tiering

/-! ## The code of a pair -/

/-- One layer, and ids that agree in their sixteen low bits. -/
def SameId (key key' : Key) : Prop := key.1 = key'.1 ∧ key.2 % 65536 = key'.2 % 65536

instance (key key' : Key) : Decidable (SameId key key') := inferInstanceAs (Decidable (_ ∧ _))

theorem encode_eq_iff (key key' : Key) :
    encodeGlobalBlockId key.1 key.2 = encodeGlobalBlockId key'.1 key'.2 ↔ SameId key key' := by
  unfold encodeGlobalBlockId SameId
  omega

/-- The pairs of a layer and an id that the pool has given out. -/
def producedPairs {α β : Type} (requests : List (KVBlockPool.Request α β)) : Set Key :=
  {key | 0 ≤ key.1 ∧ ∃ id ∈ KVBlockPool.empty.issuedIds requests, key.2 = (id : Int)}

theorem encode_injOn_iff {α β : Type} (requests : List (KVBlockPool.Request α β)) :
    Set.InjOn (fun key : Key => encodeGlobalBlockId key.1 key.2) (producedPairs requests) ↔
      requests.length ≤ 65536 := by
  constructor
  · intro hinj
    by_contra hmany
    have hfirst : ((0, 0) : Key) ∈ producedPairs requests :=
      ⟨by decide, 0, KVBlockPool.mem_issuedIds.mpr (by omega), rfl⟩
    have hlast : ((0, 65536) : Key) ∈ producedPairs requests :=
      ⟨by decide, 65536, KVBlockPool.mem_issuedIds.mpr (by omega), rfl⟩
    cases hinj hfirst hlast rfl
  · intro hfew key hkey key' hkey' heq
    obtain ⟨-, id, hid, hkey⟩ := hkey
    obtain ⟨-, id', hid', hkey'⟩ := hkey'
    rw [KVBlockPool.mem_issuedIds] at hid hid'
    obtain ⟨hlayer, hblock⟩ := (encode_eq_iff key key').mp heq
    exact Prod.ext hlayer (by omega)

/-! ## The stored pairs -/

namespace PhysicalTensorAwareStorageAdapter

variable {cfg : SimulatorConfig} {s : PhysicalTensorAwareStorageAdapter cfg}

def entryOf (key : Key) : Int := encodeGlobalBlockId key.1 key.2

/-- No two stored pairs share an entry of the translation layer, or a page. -/
def Apart (s : PhysicalTensorAwareStorageAdapter cfg) : Prop :=
  ∀ key ∈ s.flashStore.keys, ∀ key' ∈ s.flashStore.keys, key ≠ key' →
    entryOf key ≠ entryOf key' ∧ ∀ loc, s.storageSimulator.getLocation (entryOf key) = some loc →
      s.storageSimulator.getLocation (entryOf key') ≠ some loc

def live (s : PhysicalTensorAwareStorageAdapter cfg) : Set Int :=
  {gid | ∃ key ∈ s.flashStore.keys, entryOf key = gid}

/-- Tensor-aware placement puts every block that `set_mode` stores again on a page of its own. -/
def RegistersApart (ids : Dict Key Int) :
    List (Key × PhysicalEntry) → StorageSimulator cfg → Prop
  | [], _ => True
  | (key, entry) :: entries, sim =>
      ∀ gid, ids.get? key = some gid →
        sim.PlacesApart Set.univ (storedBlock key entry gid).ftl ∧
          RegistersApart ids entries (sim.storeBlock (storedBlock key entry gid).ftl).2

/-- A store meets no other stored pair of its layer with the same sixteen bits. Under tensor-aware
placement neither it nor a switch of the mode puts a block on another one's page. -/
def StaysApart (d : Drive) : Call → Prop
  | .op (.storeKv blockId layerId keyData valueData metadata) =>
      (∀ key ∈ d.2.flashStore.keys, key ≠ (layerId, blockId) → ¬ SameId key (layerId, blockId)) ∧
        d.2.storageSimulator.PlacesApart d.2.live
          (p2Block blockId layerId keyData valueData metadata).ftl
  | .op _ => True
  | .setMode mode =>
      RegistersApart d.2.globalIdMap d.2.flashStore.entries
        (StorageSimulator.init d.1.rebuilt mode)
  | .observe _ _ _ => True

structure Separated (s : PhysicalTensorAwareStorageAdapter cfg) : Prop where
  ids : ∀ key ∈ s.flashStore.keys, ∀ key' ∈ s.flashStore.keys, entryOf key = entryOf key' →
    key = key'
  apart : s.storageSimulator.ApartOn s.live
  below : s.storageSimulator.PagesBelow

theorem separated_init (mode : FtlMode) (mb : Nat) : Separated (init cfg mode mb) where
  ids := by
    intro key hkey
    cases hkey
  apart := StorageSimulator.apartOn_init mode _
  below := StorageSimulator.pagesBelow_init mode

theorem Separated.gives (h : s.Separated) : s.Apart := by
  intro key hkey key' hkey' hne
  have hentry : entryOf key ≠ entryOf key' := fun heq => hne (h.ids key hkey key' hkey' heq)
  exact ⟨hentry, h.apart _ ⟨key, hkey, rfl⟩ _ ⟨key', hkey', rfl⟩ hentry⟩

theorem Separated.mono (h : s.Separated) {s' : PhysicalTensorAwareStorageAdapter cfg}
    (hkeys : s'.flashStore.keys ⊆ s.flashStore.keys)
    (hallocator : s'.storageSimulator.allocator = s.storageSimulator.allocator) :
    s'.Separated where
  ids := fun key hkey key' hkey' => h.ids key (hkeys hkey) key' (hkeys hkey')
  apart := by
    refine (h.apart.congr hallocator).mono ?_
    rintro gid ⟨key, hkey, rfl⟩
    exact ⟨key, hkeys hkey, rfl⟩
  below := h.below.congr hallocator

theorem storeKv_spec (s : PhysicalTensorAwareStorageAdapter cfg) (blockId layerId : Int)
    (keyData valueData : NDArray) (metadata : Option KVBlockMetadata) :
    let sim := s.storageSimulator
    let block := (p2Block blockId layerId keyData valueData metadata).ftl
    let s' := (s.storeKv blockId layerId keyData valueData metadata).2
    s'.storageSimulator = (sim.storeBlock block).2 ∧
      (s'.flashStore = s.flashStore ∨
        ∃ l entry, sim.nextPage block = some l ∧
          s'.flashStore = s.flashStore.set (layerId, blockId) entry) := by
  intro sim block s'
  refine ⟨(s.storeKv_simulator blockId layerId keyData valueData metadata).2.1, ?_⟩
  have hs' : s' = (s.storeKv blockId layerId keyData valueData metadata).2 := rfl
  unfold storeKv announce at hs'
  dsimp only at hs'
  cases hnext : sim.nextPage block with
  | none =>
      rw [show s.storageSimulator.storeBlock (p2Block blockId layerId keyData valueData
        metadata).ftl = _ from StorageSimulator.storeBlock_refused hnext] at hs'
      rw [hs']
      exact .inl rfl
  | some l =>
      obtain ⟨a, hstore, -⟩ := StorageSimulator.storeBlock_placed hnext
      rw [show s.storageSimulator.storeBlock (p2Block blockId layerId keyData valueData
        metadata).ftl = _ from hstore] at hs'
      rw [hs']
      exact .inr ⟨l, _, rfl, rfl⟩

theorem mem_keys_set {d : Dict Key PhysicalEntry} {key key' : Key} {entry : PhysicalEntry} :
    key' ∈ (d.set key entry).keys ↔ key' = key ∨ key' ∈ d.keys := by
  rw [← Dict.contains_iff, Dict.contains_set, Bool.or_eq_true, decide_eq_true_eq,
    Dict.contains_iff, eq_comm]

theorem Separated.storeKv (h : s.Separated) {blockId layerId : Int} {keyData valueData : NDArray}
    {metadata : Option KVBlockMetadata}
    (hids : ∀ key ∈ s.flashStore.keys, key ≠ (layerId, blockId) → ¬ SameId key (layerId, blockId))
    (hplaces : s.storageSimulator.PlacesApart s.live
      (p2Block blockId layerId keyData valueData metadata).ftl) :
    (s.storeKv blockId layerId keyData valueData metadata).2.Separated := by
  obtain ⟨hsim, hstore | ⟨l, entry, hnext, hstore⟩⟩ :=
    s.storeKv_spec blockId layerId keyData valueData metadata
  · refine ⟨hstore ▸ h.ids, ?_, hsim ▸ h.below.storeBlock _⟩
    rw [hsim, live, hstore]
    exact h.apart.storeBlock h.below hplaces
  · refine ⟨?_, ?_, hsim ▸ h.below.storeBlock _⟩
    · intro key hkey key' hkey' heq
      rw [hstore, mem_keys_set] at hkey hkey'
      have hsame := (encode_eq_iff key key').mp heq
      by_contra hne
      rcases hkey with rfl | hkey
      · exact hids key' (hkey'.resolve_left (Ne.symm hne)) (Ne.symm hne)
          ⟨hsame.1.symm, hsame.2.symm⟩
      · rcases hkey' with rfl | hkey'
        · exact hids key hkey hne hsame
        · exact hne (h.ids key hkey key' hkey' heq)
    · rw [hsim]
      refine (h.apart.storeBlock_placed h.below hplaces hnext).mono ?_
      rintro gid ⟨key, hkey, rfl⟩
      rw [hstore, mem_keys_set] at hkey
      rcases hkey with rfl | hkey
      · exact Set.mem_insert _ _
      · exact Set.mem_insert_of_mem _ ⟨key, hkey, rfl⟩

/-- Each block in turn is put on a page of its own. -/
theorem registers_apart {ids : Dict Key Int} {entries : List (Key × PhysicalEntry)}
    {sim : StorageSimulator cfg} (hapart : sim.ApartOn Set.univ) (hbelow : sim.PagesBelow)
    (hregisters : RegistersApart ids entries sim) :
    (reregister ids entries sim).2.ApartOn Set.univ ∧
      (reregister ids entries sim).2.PagesBelow := by
  induction entries generalizing sim with
  | nil => exact ⟨hapart, hbelow⟩
  | cons e entries ih =>
      obtain ⟨key, entry⟩ := e
      unfold reregister
      cases hid : ids.get? key with
      | none => exact ⟨hapart, hbelow⟩
      | some gid =>
          dsimp only
          obtain ⟨hplaces, hrest⟩ := hregisters gid hid
          have hapart' := hapart.storeBlock hbelow hplaces
          have hbelow' := hbelow.storeBlock (storedBlock key entry gid).ftl
          rcases hstore : sim.storeBlock (storedBlock key entry gid).ftl with ⟨_ | loc, sim'⟩
          · rw [hstore] at hapart' hbelow'
            exact ⟨hapart', hbelow'⟩
          · rw [hstore] at hapart' hbelow' hrest
            exact ih hapart' hbelow' hrest

theorem Separated.setMode (h : s.Separated) {mode : FtlMode}
    (hregisters : RegistersApart s.globalIdMap s.flashStore.entries
      (StorageSimulator.init cfg.rebuilt mode)) : (s.setMode mode).2.Separated := by
  obtain ⟨hapart, hbelow⟩ := registers_apart (StorageSimulator.apartOn_init mode _)
    (StorageSimulator.pagesBelow_init mode) hregisters
  exact ⟨h.ids, hapart.mono (Set.subset_univ _), hbelow⟩

theorem loadKv_allocator (s : PhysicalTensorAwareStorageAdapter cfg) (blockId layerId : Int) :
    (s.loadKv blockId layerId).2.storageSimulator.allocator = s.storageSimulator.allocator := by
  unfold loadKv
  split
  · rfl
  · dsimp only
    split
    · rfl
    · exact (StorageSimulator.readEach_keeps _ _ _).1

theorem prefetchKv_allocator (s : PhysicalTensorAwareStorageAdapter cfg) (blockIds : List Int)
    (layerId : Int) :
    (s.prefetchKv blockIds layerId).2.storageSimulator.allocator =
      s.storageSimulator.allocator := by
  have hfold : ∀ acc : List Int × PhysicalTensorAwareStorageAdapter cfg,
      (blockIds.foldl (prefetchOne layerId) acc).2.storageSimulator = acc.2.storageSimulator := by
    induction blockIds with
    | nil => exact fun acc => rfl
    | cons bid bids ih =>
        intro acc
        refine (ih (prefetchOne layerId acc bid)).trans ?_
        unfold prefetchOne
        dsimp only
        split
        · rfl
        · split <;> rfl
  have hloop := hfold ([], s)
  unfold prefetchKv
  dsimp only
  split
  · rw [hloop]
  · rw [hloop]
    exact (StorageSimulator.readEach_keeps _ _ _).1

theorem evictKv_keys (s : PhysicalTensorAwareStorageAdapter cfg) (blockId layerId : Int) :
    (s.evictKv blockId layerId).2.flashStore.keys ⊆ s.flashStore.keys ∧
      (s.evictKv blockId layerId).2.storageSimulator = s.storageSimulator := by
  unfold evictKv
  split
  · exact ⟨(List.filter_sublist.map Prod.fst).subset, rfl⟩
  · exact ⟨List.Subset.refl _, rfl⟩

theorem Separated.call {d : Drive} (h : d.2.Separated) {c : Call} (hc : StaysApart d c) :
    (PhysicalTensorAwareStorageAdapter.call d c).2.2.Separated := by
  obtain ⟨cfg, s⟩ := d
  cases c with
  | op op =>
      cases op with
      | storeKv blockId layerId keyData valueData metadata => exact h.storeKv hc.1 hc.2
      | loadKv blockId layerId =>
          have hkeys := congrArg Dict.keys (s.loadKv_tables blockId layerId).1
          exact h.mono (fun _ hkey => hkeys ▸ hkey) (s.loadKv_allocator blockId layerId)
      | prefetchKv blockIds layerId =>
          have hkeys := congrArg Dict.keys (s.prefetchKv_tables blockIds layerId).1
          exact h.mono (fun _ hkey => hkeys ▸ hkey) (s.prefetchKv_allocator blockIds layerId)
      | evictKv blockId layerId =>
          obtain ⟨hkeys, hsim⟩ := s.evictKv_keys blockId layerId
          exact h.mono hkeys (congrArg _ hsim)
  | setMode mode => exact h.setMode hc
  | observe blockIds telemetry traceLog =>
      exact h.mono (List.Subset.refl _) (StorageSimulator.readEach_keeps _ _ _).1

/-- Over the pairs of the layers and the pool's ids the code of a pair is injective exactly while
the pool has given out no more than 65536 ids. In a run in which every store meets no other stored
pair with the same code, and tensor-aware placement no other block's page, stored pairs never share
an entry or a page. -/
theorem global_ids_apart {α β : Type} (requests : List (KVBlockPool.Request α β))
    (cfg : SimulatorConfig) (mode : FtlMode) (controllerDramSizeMb : Nat) (calls : List Call)
    (hcalls : drives.Meets StaysApart (start cfg mode controllerDramSizeMb) calls) :
    (Set.InjOn (fun key : Key => encodeGlobalBlockId key.1 key.2) (producedPairs requests) ↔
        requests.length ≤ 65536) ∧
      ∀ pre, pre <+: calls →
        Apart (drives.exec (start cfg mode controllerDramSizeMb) pre).2 := by
  refine ⟨encode_injOn_iff requests, fun pre hpre => Separated.gives ?_⟩
  have hmeets : drives.Meets StaysApart (start cfg mode controllerDramSizeMb) pre := by
    rw [Machine.meets_iff_forall] at hcalls ⊢
    exact fun pre' c hc => hcalls pre' c (hc.trans hpre)
  exact drives.exec_invariant_of_meets (I := fun d => d.2.Separated) (fun _ _ h hc => h.call hc) _
    pre (separated_init mode controllerDramSizeMb) hmeets

/-! ## Ids that agree in sixteen bits -/

def storeSmall (blockId : Int) : Call :=
  .op (.storeKv blockId 0 (NDArray.zeros [1, 1, 1] float32) (NDArray.zeros [1, 1, 1] float32) none)

/-- As many blocks as the pool has to give out to reach the id 65536. -/
def manyRequests : List (KVBlockPool.Request Unit Unit) :=
  List.replicate 65537 ⟨0, 0, 16, none, none, false⟩

theorem global_ids_apart_neighbours :
    (Set.InjOn (fun key : Key => encodeGlobalBlockId key.1 key.2) (producedPairs manyRequests) ↔
        manyRequests.length ≤ 65536) ∧
      ∀ pre, pre <+: [storeSmall 0, storeSmall 1, .setMode .conventional] →
        Apart (drives.exec (start StorageSimulator.defaultConfig .conventional 1) pre).2 :=
  global_ids_apart manyRequests StorageSimulator.defaultConfig .conventional 1
    [storeSmall 0, storeSmall 1, .setMode .conventional]
    ⟨⟨by decide +kernel, trivial⟩, ⟨by decide +kernel, trivial⟩,
      fun _ _ => ⟨trivial, fun _ _ => ⟨trivial, trivial⟩⟩, trivial⟩

/-- The pool gives out both ids, and the second store takes over the entry of the first. -/
theorem distant_ids_share_an_entry :
    ((0, 0) : Key) ∈ producedPairs manyRequests ∧
      ((0, 65536) : Key) ∈ producedPairs manyRequests ∧
      encodeGlobalBlockId 0 0 = encodeGlobalBlockId 0 65536 ∧
      ¬ Apart (drives.exec (start StorageSimulator.defaultConfig .conventional 1)
        [storeSmall 0, storeSmall 65536]).2 := by
  have hissued : ∀ id < 65537, id ∈ KVBlockPool.empty.issuedIds manyRequests := by
    intro id hid
    rw [KVBlockPool.mem_issuedIds, manyRequests, List.length_replicate]
    exact hid
  refine ⟨⟨by decide, 0, hissued 0 (by decide), rfl⟩,
    ⟨by decide, 65536, hissued 65536 (by decide), rfl⟩, by decide, fun h => ?_⟩
  exact (h (0, 0) (by decide +kernel) (0, 65536) (by decide +kernel) (by decide)).1 (by decide)

end PhysicalTensorAwareStorageAdapter

end AiSsd.DramCache
