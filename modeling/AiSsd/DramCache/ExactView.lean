import AiSsd.DramCache.Physical
import AiSsd.Lib.Simulation
import AiSsd.Storage.PhysicalStorage

/-!
# The controllers over exact numbers

The storages under the tiering manager are these controllers, with every array read as rows of
exact numbers. While each array stored has the axes and the element width they are configured
for, both answer the same and keep the same telemetry, log and pages.
-/

namespace AiSsd.DramCache

open Lib Attention Numpy Storage Tiering Ftl

universe u

variable {α : Type u} {heads dim : Nat} {cfg : SimulatorConfig}

/-! ## Arrays of rows -/

/-- The array reads as these rows, in elements of the configured width. -/
structure Holds (widths : ElementWidths) (rowsOf : NDArray → List (Row α heads dim))
    (a : NDArray) (rows : List (Row α heads dim)) : Prop where
  rows_eq : rowsOf a = rows
  shape_eq : a.shape = [rows.length, heads, dim]
  itemsize_eq : a.dtype.itemsize = widths.kv

variable {widths : ElementWidths} {rowsOf : NDArray → List (Row α heads dim)} {a : NDArray}
  {rows : List (Row α heads dim)}

theorem Holds.nbytes_eq (h : Holds widths rowsOf a rows) :
    a.nbytes = Storage.MockSSDController.nbytes widths rows := by
  rw [NDArray.nbytes, a.size_eq, h.shape_eq, h.itemsize_eq, Storage.MockSSDController.nbytes]
  simp [Nat.mul_assoc]

theorem Holds.ascontiguousarray_eq (h : Holds widths rowsOf a rows) : a.ascontiguousarray = a :=
  NDArray.ascontiguousarray_of_ne (by simp [h.shape_eq])

structure HoldsEntry (widths : ElementWidths) (rowsOf : NDArray → List (Row α heads dim))
    (entry : FlashEntry) (exact : Storage.FlashEntry α heads dim) : Prop where
  k : Holds widths rowsOf entry.k exact.k
  v : Holds widths rowsOf entry.v exact.v

theorem HoldsEntry.payloadBytes_eq {entry : FlashEntry} {exact : Storage.FlashEntry α heads dim}
    (h : HoldsEntry widths rowsOf entry exact) :
    entry.payloadBytes = Storage.MockSSDController.nbytes widths exact.k +
      Storage.MockSSDController.nbytes widths exact.v := by
  rw [FlashEntry.payloadBytes, h.k.nbytes_eq, h.v.nbytes_eq]

def keyOf (key : Nat × Nat) : Key := (key.1, key.2)

theorem keyOf_injective : Function.Injective keyOf := by
  intro key key' h
  obtain ⟨hlayer, hblock⟩ := Prod.mk.inj h
  exact Prod.ext (Int.ofNat.inj hlayer) (Int.ofNat.inj hblock)

theorem contains_cache {cache : Finset Key} {cached : List (Nat × Nat)}
    (h : ∀ key, keyOf key ∈ cache ↔ key ∈ cached) (layerId blockId : Nat) :
    decide (((layerId : Int), (blockId : Int)) ∈ cache) = cached.contains (layerId, blockId) := by
  rw [Bool.eq_iff_iff, decide_eq_true_iff, List.contains_iff_mem]
  exact h (layerId, blockId)

/-! ## The calls of the tiering manager -/

inductive ManagerCall where
  | store (blockId layerId : Nat) (keyData valueData : NDArray)
  | load (blockId layerId : Nat)

/-- The manager passes no metadata. -/
def ManagerCall.op : ManagerCall → Op
  | .store blockId layerId keyData valueData => .storeKv blockId layerId keyData valueData none
  | .load blockId layerId => .loadKv blockId layerId

def ManagerCall.Fits (widths : ElementWidths) (rowsOf : NDArray → List (Row α heads dim)) :
    ManagerCall → Prop
  | .store _ _ keyData valueData =>
      Holds widths rowsOf keyData (rowsOf keyData) ∧
        Holds widths rowsOf valueData (rowsOf valueData)
  | .load _ _ => True

inductive ExactAnswer (α : Type u) (heads dim : Nat) where
  | done (changed : Bool)
  | rows (k v : List (Row α heads dim))

def exactMachine {σ : Type*} (storage : KVStorage σ (Row α heads dim) (Row α heads dim))
    (rowsOf : NDArray → List (Row α heads dim)) :
    Machine σ ManagerCall (Except PyErr (ExactAnswer α heads dim)) where
  step s
    | .store blockId layerId keyData valueData =>
        let r := storage.storeKv s blockId layerId (some (rowsOf keyData)) (some (rowsOf valueData))
        (r.1.map .done, r.2)
    | .load blockId layerId =>
        let r := storage.loadKv s blockId layerId
        (r.1.map fun kv => .rows kv.1 kv.2, r.2)

def callMachine {σ : Type*} (m : Machine σ Op (Except PyErr Answer)) :
    Machine σ ManagerCall (Except PyErr Answer) where
  step s call := m.step s call.op

inductive Shows (widths : ElementWidths) (rowsOf : NDArray → List (Row α heads dim)) :
    Except PyErr Answer → Except PyErr (ExactAnswer α heads dim) → Prop
  | done (changed : Bool) : Shows widths rowsOf (.ok (.done changed)) (.ok (.done changed))
  | arrays {k v : NDArray} {ks vs : List (Row α heads dim)} (hk : Holds widths rowsOf k ks)
      (hv : Holds widths rowsOf v vs) : Shows widths rowsOf (.ok (.arrays k v)) (.ok (.rows ks vs))
  | error (err : PyErr) : Shows widths rowsOf (.error err) (.error err)

/-! ## The simulated controller -/

namespace MockSSDController

/-- What the log of the exact controller says about stores and loads. -/
def accessOf : TraceEvent → Option AccessEvent
  | .store layerId blockId bytes => some (.store layerId blockId bytes)
  | .load layerId blockId bytes => some (.load layerId blockId bytes)
  | .inStorageTopk .. => none

/-- The same blocks by their keys, the same cache, counters and log. -/
structure ExactView (widths : ElementWidths) (rowsOf : NDArray → List (Row α heads dim))
    (s : MockSSDController) (t : Storage.MockSSDController α heads dim) : Prop where
  store : Dict.Viewed keyOf (HoldsEntry widths rowsOf) s.flashStore t.flashStore
  cache : ∀ key, keyOf key ∈ s.controllerDramCache ↔ key ∈ t.controllerDramCache
  telemetry : s.telemetry = t.telemetry
  log : s.traceLog = t.traceLog.filterMap accessOf

theorem exactView_init (controllerDramSizeMb : Nat) :
    ExactView widths rowsOf (init controllerDramSizeMb) Storage.MockSSDController.init where
  store := Dict.viewed_empty
  cache := fun _ => by simp [init, Storage.MockSSDController.init]
  telemetry := rfl
  log := rfl

theorem storeKv_exact {s : MockSSDController} {t : Storage.MockSSDController α heads dim}
    (h : ExactView widths rowsOf s t) (blockId layerId : Nat) {k v : NDArray}
    {ks vs : List (Row α heads dim)} (hk : Holds widths rowsOf k ks) (hv : Holds widths rowsOf v vs) :
    (s.storeKv blockId layerId k v none).1 = .ok true ∧
      (t.storeKv widths blockId layerId (some ks) (some vs)).1 = .ok true ∧
      ExactView widths rowsOf (s.storeKv blockId layerId k v none).2
        (t.storeKv widths blockId layerId (some ks) (some vs)).2 := by
  unfold storeKv metadataOf
  rw [hk.shape_eq, hk.ascontiguousarray_eq, hv.ascontiguousarray_eq, hk.nbytes_eq, hv.nbytes_eq]
  refine ⟨rfl, rfl, ?_⟩
  exact {
    store := h.store.set keyOf_injective (layerId, blockId) ⟨hk, hv⟩
    cache := h.cache
    telemetry := by
      dsimp only [Storage.MockSSDController.storeKv]
      rw [h.telemetry]
    log := by
      dsimp only [Storage.MockSSDController.storeKv]
      rw [List.filterMap_append, ← h.log]
      rfl }

theorem loadKv_exact {s : MockSSDController} {t : Storage.MockSSDController α heads dim}
    (h : ExactView widths rowsOf s t) (blockId layerId : Nat) :
    Shows widths rowsOf ((s.loadKv blockId layerId).1.map fun kv => .arrays kv.1 kv.2)
        ((t.loadKv widths blockId layerId).1.map fun kv => .rows kv.1 kv.2) ∧
      ExactView widths rowsOf (s.loadKv blockId layerId).2 (t.loadKv widths blockId layerId).2 := by
  unfold loadKv Storage.MockSSDController.loadKv
  rcases h.store.get? (layerId, blockId) with ⟨hnone, hnone'⟩ | ⟨entry, exact, hget, hget', hholds⟩
  · rw [keyOf] at hnone
    rw [hnone, hnone']
    exact ⟨.error _, h⟩
  · rw [keyOf] at hget
    rw [hget, hget']
    dsimp only
    rw [contains_cache h.cache layerId blockId, hholds.payloadBytes_eq, h.telemetry]
    refine ⟨.arrays hholds.k hholds.v, ?_⟩
    exact {
      store := by
        -- only the count of accesses changes, which the exact entry does not have
        have htouched := h.store.set keyOf_injective (layerId, blockId)
          (show HoldsEntry widths rowsOf entry.touch exact from ⟨hholds.k, hholds.v⟩)
        rwa [Dict.set_of_get? hget'] at htouched
      cache := h.cache
      telemetry := rfl
      log := by
        dsimp only
        rw [List.filterMap_append, ← h.log]
        rfl }

theorem call_simulates {call : ManagerCall} (hfits : call.Fits widths rowsOf) :
    Simulates (ExactView widths rowsOf) (Shows widths rowsOf) (fun _ => False)
      (fun s => (callMachine machine).step s call)
      fun t => (exactMachine (Storage.MockSSDController.kvStorage widths) rowsOf).step t call := by
  intro s t h
  right
  cases call with
  | store blockId layerId keyData valueData =>
      obtain ⟨hanswer, hanswer', hview⟩ := storeKv_exact h blockId layerId hfits.1 hfits.2
      dsimp only [callMachine, machine, step, ManagerCall.op, exactMachine,
        Storage.MockSSDController.kvStorage]
      rw [hanswer, hanswer']
      exact ⟨.done true, hview⟩
  | load blockId layerId => exact loadKv_exact h blockId layerId

/-- Every run answers the same and leaves the same blocks, telemetry and log. -/
theorem exact_run {calls : List ManagerCall} (hfits : ∀ call ∈ calls, call.Fits widths rowsOf)
    {s : MockSSDController} {t : Storage.MockSSDController α heads dim}
    (h : ExactView widths rowsOf s t) :
    List.Forall₂ (Shows widths rowsOf) ((callMachine machine).trace s calls)
        ((exactMachine (Storage.MockSSDController.kvStorage widths) rowsOf).trace t calls) ∧
      ExactView widths rowsOf ((callMachine machine).exec s calls)
        ((exactMachine (Storage.MockSSDController.kvStorage widths) rowsOf).exec t calls) :=
  (Machine.simulates_run (fun call hcall => call_simulates (hfits call hcall))
    (fun _ _ hpast => hpast) h).resolve_left id

end MockSSDController

/-! ## The physical adapter -/

namespace PhysicalTensorAwareStorageAdapter

/-- What the log of the exact adapter says about loads. -/
def loadOf : Storage.PhysicalEvent → Option PhysicalEvent
  | .loadKv layerId blockId bytes => some (.loadKv layerId blockId bytes)
  | .inStorageTopk .. => none

def HoldsPage (widths : ElementWidths) (rowsOf : NDArray → List (Row α heads dim))
    (entry : PhysicalEntry) (exact : Storage.PhysicalEntry α heads dim) : Prop :=
  HoldsEntry widths rowsOf entry.toFlashEntry exact.toFlashEntry ∧ entry.globalId = exact.globalId

structure ExactView (widths : ElementWidths) (rowsOf : NDArray → List (Row α heads dim))
    (s : PhysicalTensorAwareStorageAdapter cfg)
    (t : Storage.PhysicalTensorAwareStorageAdapter cfg α heads dim) : Prop where
  pages : s.storageSimulator = t.storageSimulator
  store : Dict.Viewed keyOf (HoldsPage widths rowsOf) s.flashStore t.flashStore
  cache : ∀ key, keyOf key ∈ s.controllerDramCache ↔ key ∈ t.controllerDramCache
  ids : Dict.Viewed keyOf (· = ·) s.globalIdMap t.globalIdMap
  telemetry : s.telemetry = t.telemetry
  log : s.traceLog = t.traceLog.filterMap loadOf

theorem exactView_init (mode : FtlMode) (controllerDramSizeMb : Nat) :
    ExactView widths rowsOf (init cfg mode controllerDramSizeMb)
      (Storage.PhysicalTensorAwareStorageAdapter.init mode) where
  pages := rfl
  store := Dict.viewed_empty
  cache := fun _ => by simp [init, Storage.PhysicalTensorAwareStorageAdapter.init]
  ids := Dict.viewed_empty
  telemetry := rfl
  log := rfl

theorem p2Block_exact {k v : NDArray} {ks vs : List (Row α heads dim)}
    (hk : Holds widths rowsOf k ks) (hv : Holds widths rowsOf v vs) (blockId layerId : Nat) :
    p2Block blockId layerId k v none =
      Storage.PhysicalTensorAwareStorageAdapter.p2Block widths blockId layerId ks vs := by
  unfold p2Block tokenStartOf geometryOf
  rw [hk.shape_eq, hk.itemsize_eq, hk.nbytes_eq, hv.nbytes_eq]
  rfl

theorem storeKv_exact {s : PhysicalTensorAwareStorageAdapter cfg}
    {t : Storage.PhysicalTensorAwareStorageAdapter cfg α heads dim}
    (h : ExactView widths rowsOf s t) (blockId layerId : Nat) {k v : NDArray}
    {ks vs : List (Row α heads dim)} (hk : Holds widths rowsOf k ks) (hv : Holds widths rowsOf v vs) :
    (s.storeKv blockId layerId k v none).1 = (t.storeKv widths blockId layerId (some ks) (some vs)).1 ∧
      ExactView widths rowsOf (s.storeKv blockId layerId k v none).2
        (t.storeKv widths blockId layerId (some ks) (some vs)).2 := by
  have hids := h.ids.set keyOf_injective (layerId, blockId)
    (rfl : encodeGlobalBlockId layerId blockId =
      Storage.PhysicalTensorAwareStorageAdapter.encodeGlobalBlockId layerId blockId)
  unfold storeKv Storage.PhysicalTensorAwareStorageAdapter.storeKv announce
    Storage.PhysicalTensorAwareStorageAdapter.announce
  dsimp only
  rw [p2Block_exact hk hv, hk.ascontiguousarray_eq, hv.ascontiguousarray_eq, hk.nbytes_eq,
    hv.nbytes_eq, h.pages, h.telemetry]
  rcases t.storageSimulator.storeBlock
      (Storage.PhysicalTensorAwareStorageAdapter.p2Block widths blockId layerId ks vs).ftl with
    ⟨err | loc, sim⟩
  · exact ⟨rfl, ⟨rfl, h.store, h.cache, hids, rfl, h.log⟩⟩
  · refine ⟨rfl, ⟨rfl, ?_, h.cache, hids, rfl, h.log⟩⟩
    exact h.store.set keyOf_injective (layerId, blockId) ⟨⟨hk, hv⟩, rfl⟩

theorem loadKv_exact {s : PhysicalTensorAwareStorageAdapter cfg}
    {t : Storage.PhysicalTensorAwareStorageAdapter cfg α heads dim}
    (h : ExactView widths rowsOf s t) (blockId layerId : Nat) :
    Shows widths rowsOf ((s.loadKv blockId layerId).1.map fun kv => .arrays kv.1 kv.2)
        ((t.loadKv widths blockId layerId).1.map fun kv => .rows kv.1 kv.2) ∧
      ExactView widths rowsOf (s.loadKv blockId layerId).2 (t.loadKv widths blockId layerId).2 := by
  unfold loadKv Storage.PhysicalTensorAwareStorageAdapter.loadKv
  rcases h.store.get? (layerId, blockId) with
    ⟨hnone, hnone'⟩ | ⟨entry, exact, hget, hget', hholds, hid⟩
  · rw [keyOf] at hnone
    rw [hnone, hnone']
    exact ⟨.error _, h⟩
  · rw [keyOf] at hget
    rw [hget, hget']
    dsimp only
    rw [contains_cache h.cache layerId blockId, hholds.payloadBytes_eq, h.telemetry]
    refine ⟨.arrays hholds.k hholds.v, ?_⟩
    exact {
      pages := by
        dsimp only
        unfold Storage.PhysicalTensorAwareStorageAdapter.readPages
        rw [h.pages, hid]
        cases t.controllerDramCache.contains (layerId, blockId) <;> rfl
      store := h.store
      cache := h.cache
      ids := h.ids
      telemetry := rfl
      log := by
        dsimp only
        rw [List.filterMap_append, ← h.log]
        rfl }

theorem call_simulates {call : ManagerCall} (hfits : call.Fits widths rowsOf) :
    Simulates (ExactView widths rowsOf) (Shows widths rowsOf) (fun _ => False)
      (fun s => (callMachine (machine cfg)).step s call)
      fun t => (exactMachine (Storage.PhysicalTensorAwareStorageAdapter.kvStorage widths)
        rowsOf).step t call := by
  intro s t h
  right
  cases call with
  | store blockId layerId keyData valueData =>
      obtain ⟨hanswer, hview⟩ := storeKv_exact h blockId layerId hfits.1 hfits.2
      refine ⟨?_, hview⟩
      dsimp only [callMachine, machine, step, ManagerCall.op, exactMachine,
        Storage.PhysicalTensorAwareStorageAdapter.kvStorage]
      rw [hanswer]
      cases (t.storeKv widths blockId layerId (some (rowsOf keyData))
        (some (rowsOf valueData))).1 with
      | error err => exact .error err
      | ok changed => exact .done changed
  | load blockId layerId => exact loadKv_exact h blockId layerId

/-- Every run answers the same and leaves the same blocks, pages, ids, telemetry and log. -/
theorem exact_run {calls : List ManagerCall} (hfits : ∀ call ∈ calls, call.Fits widths rowsOf)
    {s : PhysicalTensorAwareStorageAdapter cfg}
    {t : Storage.PhysicalTensorAwareStorageAdapter cfg α heads dim}
    (h : ExactView widths rowsOf s t) :
    List.Forall₂ (Shows widths rowsOf) ((callMachine (machine cfg)).trace s calls)
        ((exactMachine (Storage.PhysicalTensorAwareStorageAdapter.kvStorage widths) rowsOf).trace
          t calls) ∧
      ExactView widths rowsOf ((callMachine (machine cfg)).exec s calls)
        ((exactMachine (Storage.PhysicalTensorAwareStorageAdapter.kvStorage widths) rowsOf).exec
          t calls) :=
  (Machine.simulates_run (fun call hcall => call_simulates (hfits call hcall))
    (fun _ _ hpast => hpast) h).resolve_left id

end PhysicalTensorAwareStorageAdapter

end AiSsd.DramCache
