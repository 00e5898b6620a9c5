import AiSsd.Prefetch.BufferBound
import AiSsd.Prefetch.Transparency

/-!
# Which blocks the adapter contains

`contains_block` asks the staging buffer and then the backend. The backend's table has exactly
the blocks that were written and not evicted since. The staging buffer has blocks that a
prefetch asked for since they were last evicted, stored or not.
-/

namespace AiSsd.Prefetch.Async

open Lib Numpy Storage
open Adapters (Astype)
open Async.RealInferencePrefetchAdapter

universe u v

namespace RealInferencePrefetchAdapter

def containsBlock {σ : Type v} (has : Option (σ → (layerIdx blockId : Nat) → Bool))
    (s : RealInferencePrefetchAdapter σ) (layerIdx blockId : Nat) : Bool :=
  if s.stagingBuffer.contains (layerIdx, blockId) then true
  else
    match has with
    | some contains => contains s.storageBackend layerIdx blockId
    | none => s.blockPayloads.contains (layerIdx, blockId)

theorem backend_hit {σ : Type v} (s : RealInferencePrefetchAdapter σ) (key : Nat × Nat)
    (entry : StagedInferenceBlock) (sizeBytes : Nat) :
    (hit s key entry sizeBytes).2.storageBackend = s.storageBackend := by
  have hresolve : (resolveEntry s entry).2.storageBackend = s.storageBackend := by
    unfold resolveEntry
    split
    · rfl
    · split
      · rfl
      · split
        · rfl
        · rfl
        · rfl
  unfold hit
  revert hresolve
  rcases resolveEntry s entry with ⟨(_ | _) | _, s'⟩
  · exact id
  · exact id
  · exact id

section Backend

variable {α : Type u} [Field α] [LinearOrder α] {bcfg : BackendConfig} {val : DType → Bytes → α}
  {A : Astype} {cfg : AdapterConfig}
  {s s' : RealInferencePrefetchAdapter (RealInferenceStorageBackend bcfg)}

variable (bcfg val) in
abbrev realBackend : Backend (RealInferenceStorageBackend bcfg) :=
  .ofBlockBackend (RealInferenceStorageBackend.blockBackend bcfg val)

def SameTable (s s' : RealInferencePrefetchAdapter (RealInferenceStorageBackend bcfg)) : Prop :=
  RealInferenceStorageBackend.SameStore s.storageBackend s'.storageBackend

theorem SameTable.refl (s : RealInferencePrefetchAdapter (RealInferenceStorageBackend bcfg)) :
    SameTable s s := RealInferenceStorageBackend.SameStore.refl _

theorem SameTable.of_eq (h : s'.storageBackend = s.storageBackend) : SameTable s s' := by
  unfold SameTable
  rw [h]
  exact RealInferenceStorageBackend.SameStore.refl _

theorem readRelation_sameTable : ReadRelation (@SameTable bcfg) where
  refl := SameTable.refl
  trans := fun h h' => RealInferenceStorageBackend.SameStore.trans h h'
  counted := fun _ _ => SameTable.of_eq rfl
  ofHit := fun s key entry sizeBytes _ => SameTable.of_eq (backend_hit s key entry sizeBytes)

variable (s) (l b h t : Nat)

theorem sameTable_readKeyPage : SameTable s (readKeyPage (realBackend bcfg val) cfg s l b h t).2 := by
  refine readRelation_sameTable.readSingle _ _ ?_ s l b h t
  intro s l b h t
  exact RealInferenceStorageBackend.sameStore_readKeyPage s.storageBackend l b h t

theorem sameTable_readValuePage :
    SameTable s (readValuePage (realBackend bcfg val) cfg s l b h t).2 := by
  refine readRelation_sameTable.readSingle _ _ ?_ s l b h t
  intro s l b h t
  exact RealInferenceStorageBackend.sameStore_readValuePage s.storageBackend l b h t

theorem sameTable_readBlock : SameTable s (readBlock (realBackend bcfg val) cfg s l b h t).2 := by
  refine readRelation_sameTable.readSingle _ _ ?_ s l b h t
  intro s l b h t
  exact RealInferenceStorageBackend.sameStore_readBlock s.storageBackend l b h t

variable (bids : List Nat)

theorem sameTable_readKeyPageBatch :
    SameTable s (readKeyPageBatch (realBackend bcfg val) cfg s l bids h t).2 := by
  refine readRelation_sameTable.readBatch _ _ ?_ sameTable_readKeyPage s l bids h t
  rintro read ⟨⟩ s l bids h t
  exact RealInferenceStorageBackend.sameStore_readBatch _ _
    RealInferenceStorageBackend.sameStore_readKeyPage s.storageBackend l bids h t

theorem sameTable_readValuePageBatch :
    SameTable s (readValuePageBatch (realBackend bcfg val) cfg s l bids h t).2 := by
  refine readRelation_sameTable.readBatch _ _ ?_ sameTable_readValuePage s l bids h t
  rintro read ⟨⟩ s l bids h t
  exact RealInferenceStorageBackend.sameStore_readBatch _ _
    RealInferenceStorageBackend.sameStore_readValuePage s.storageBackend l bids h t

theorem sameStore_readBlockBatch (b : RealInferenceStorageBackend bcfg) :
    RealInferenceStorageBackend.SameStore b
      (RealInferenceStorageBackend.readBlockBatch b l bids h t).2 :=
  RealInferenceStorageBackend.sameStore_readBatch _ _
    RealInferenceStorageBackend.sameStore_readBlock b l bids h t

theorem sameTable_readBlockBatch :
    SameTable s (readBlockBatch (realBackend bcfg val) cfg s l bids h t).2 := by
  refine readRelation_sameTable.readBatch _ _ ?_ sameTable_readBlock s l bids h t
  rintro read ⟨⟩ s l bids h t
  exact sameStore_readBlockBatch l h t bids s.storageBackend

/-! ## Prefetches and background fetches -/

theorem sameTable_fetchNext (future : Nat) :
    SameTable s (fetchNext (realBackend bcfg val) cfg s future) := by
  have hstep := @fetchStep_fetchNext _ (realBackend bcfg val) cfg s future
  have hread := fun l b h t => @sameTable_readBlock α _ _ bcfg val cfg s l b h t
  generalize fetchNext (realBackend bcfg val) cfg s future = s' at hstep ⊢
  cases hstep with
  | idle => exact SameTable.refl s
  | batchRaised _ _ hbatch =>
      cases hbatch
      exact sameStore_readBlockBatch _ _ _ _ s.storageBackend
  | batchRead _ _ hbatch =>
      cases hbatch
      exact sameStore_readBlockBatch _ _ _ _ s.storageBackend
  | waits => exact hread _ _ _ _
  | raised => exact hread _ _ _ _
  | took => exact hread _ _ _ _

theorem sameTable_ensureCapacityFor (missBids : List Nat) :
    SameTable s (ensureCapacityFor cfg missBids s).2 :=
  ensureCapacityFor_keeps SameTable.refl (fun h h' => h.trans h')
    (fun _ => SameTable.of_eq rfl) missBids s

theorem sameTable_stageEach (fetched : Dict Nat (NDArray × NDArray)) (dispatched : List Nat) :
    SameTable s (stageEach (realBackend bcfg val) cfg fetched l h t bids dispatched s).2 := by
  induction bids generalizing dispatched s with
  | nil => exact SameTable.of_eq rfl
  | cons bid bids ih =>
      have hone : SameTable s (fetchForStaging (realBackend bcfg val) cfg fetched s l bid h t).2 := by
        unfold fetchForStaging
        split
        · exact SameTable.refl s
        · exact RealInferenceStorageBackend.sameStore_readBlock s.storageBackend l bid h t
      unfold stageEach
      revert hone
      rcases fetchForStaging (realBackend bcfg val) cfg fetched s l bid h t with ⟨_ | kv, s'⟩
      · exact id
      · intro hone
        have hstaged : SameTable s' (stage cfg s' l bid h (some kv) none) := SameTable.of_eq rfl
        exact (hone.trans hstaged).trans (ih _ _)

theorem sameTable_prefetchSync :
    SameTable s (prefetchSync (realBackend bcfg val) cfg s l bids h t).2 := by
  have hread := sameStore_readBlockBatch l h t bids s.storageBackend
  have hfetch : fetchBlocks (realBackend bcfg val) s.storageBackend l bids h t =
      RealInferenceStorageBackend.readBlockBatch s.storageBackend l bids h t := rfl
  unfold prefetchSync
  rw [hfetch]
  revert hread
  rcases RealInferenceStorageBackend.readBlockBatch s.storageBackend l bids h t with ⟨_ | fetched, b⟩
  · exact id
  · intro hread
    exact hread.trans (@sameTable_stageEach α _ _ bcfg val cfg { s with storageBackend := b }
      l h t bids fetched [])

/-! ## Writes and evictions -/

variable {s}

/-- A write that returns puts its block into the table, and one that raises changes none. -/
theorem storage_writeBlock (b : RealInferenceStorageBackend bcfg) (k v : Storage.Payload)
    (l bid h t : Nat) :
    (∃ err b', RealInferenceStorageBackend.writeBlock b l bid k v h t = (.error err, b') ∧
        b'.storage = b.storage) ∨
      ∃ e b', RealInferenceStorageBackend.writeBlock b l bid k v h t = (.ok (), b') ∧
        b'.storage = b.storage.set (l, bid) e := by
  unfold RealInferenceStorageBackend.writeBlock
  dsimp only
  split
  · exact Or.inl ⟨_, _, rfl, rfl⟩
  · split
    · exact Or.inl ⟨_, _, rfl, rfl⟩
    · exact Or.inr ⟨_, _, rfl, rfl⟩

def TableIs (s : RealInferencePrefetchAdapter (RealInferenceStorageBackend bcfg))
    (kept : Nat × Nat → Bool) : Prop :=
  ∀ key, s.storageBackend.storage.contains key = kept key

theorem TableIs.same {kept : Nat × Nat → Bool} (h : TableIs s kept) (hs : SameTable s s') :
    TableIs s' kept := by
  intro key
  rw [hs.storage_eq]
  exact h key

theorem tableIs_writeBlock {kept : Nat × Nat → Bool} (hkept : TableIs s kept) (l b : Nat)
    (k v : Payload) (h t : Nat) :
    match (writeBlock (realBackend bcfg val) A cfg s l b k v h t).1 with
    | .ok _ => TableIs (writeBlock (realBackend bcfg val) A cfg s l b k v h t).2
        (Function.update kept (l, b) true)
    | .error _ => TableIs (writeBlock (realBackend bcfg val) A cfg s l b k v h t).2 kept := by
  unfold writeBlock
  cases Prefetch.RealInferencePrefetchAdapter.asStored A cfg k with
  | error err => exact hkept
  | ok kArr =>
      cases Prefetch.RealInferencePrefetchAdapter.asStored A cfg v with
      | error err => exact hkept
      | ok vArr =>
          have hdelegate : delegateWrite (realBackend bcfg val) s.storageBackend l b kArr vArr h t =
              RealInferenceStorageBackend.writeBlock s.storageBackend l b (.array kArr)
                (.array vArr) h t := rfl
          dsimp only
          rw [hdelegate]
          rcases storage_writeBlock s.storageBackend (.array kArr) (.array vArr) l b h t with
            ⟨err, b', hwrite, hstored⟩ | ⟨e, b', hwrite, hstored⟩
          · rw [hwrite]
            intro key
            show b'.storage.contains key = kept key
            rw [hstored, hkept key]
          · rw [hwrite]
            intro key
            show b'.storage.contains key = _
            rw [hstored, Dict.contains_set, hkept key]
            by_cases hkey : (l, b) = key
            · simp [← hkey]
            · simp [hkey, Function.update_of_ne (Ne.symm hkey)]

theorem tableIs_evictBlock {kept : Nat × Nat → Bool} (hkept : TableIs s kept) (l b : Nat) :
    TableIs (evictBlock (realBackend bcfg val) s l b).2 (Function.update kept (l, b) false) := by
  intro key
  have hevict : (evictBlock (realBackend bcfg val) s l b).2.storageBackend =
      (RealInferenceStorageBackend.evictBlock s.storageBackend l b).2 := rfl
  have herased : (RealInferenceStorageBackend.evictBlock s.storageBackend l b).2.storage.get? key =
      if (l, b) = key then none else s.storageBackend.storage.get? key := by
    unfold RealInferenceStorageBackend.evictBlock
    split
    · exact Dict.get?_erase _ _ _
    · rename_i hnone
      split
      · rename_i hkey
        subst hkey
        simpa [Dict.contains] using hnone
      · rfl
  rw [hevict, Dict.contains, herased]
  by_cases hkey : (l, b) = key
  · simp [← hkey]
  · rw [if_neg hkey, Function.update_of_ne (Ne.symm hkey)]
    exact hkept key

end Backend

end RealInferencePrefetchAdapter

/-! ## Runs -/

namespace Pipeline

section Backend

variable {α : Type u} [Field α] [LinearOrder α] {bcfg : BackendConfig} {val : DType → Bytes → α}
  {A : Astype} {cfg : AdapterConfig}

/-- Which blocks have been written and not evicted since their last write. A write counts when
it returns. -/
def recordKept {σ : Type v} (kept : Nat × Nat → Bool) (_ : Pipeline σ) :
    Event → Option (Outcome Answer) → Nat × Nat → Bool
  | .call (.writeBlock l b _ _ _ _), some (.returns (.ok _)) => Function.update kept (l, b) true
  | .call (.evictBlock l b), some _ => Function.update kept (l, b) false
  | _, _ => kept

theorem sameTable_prefetch (s : RealInferencePrefetchAdapter (RealInferenceStorageBackend bcfg))
    (bids : List Nat) (l h t : Nat) (isAsync : Bool) (predictedLayer : Option Nat) :
    SameTable s (prefetch (realBackend bcfg val) cfg s bids l h t isAsync predictedLayer).2.adapter := by
  unfold prefetch
  dsimp only
  split
  · exact SameTable.refl s
  · have hroom := @sameTable_ensureCapacityFor bcfg cfg s (missing s l bids)
    revert hroom
    rcases ensureCapacityFor cfg (missing s l bids) s with ⟨_ | _, s'⟩
    · exact id
    · intro hroom
      dsimp only
      split
      · exact hroom
      · exact hroom.trans (sameTable_prefetchSync s' l h t (missing s l bids))

theorem tableIs_call {s : RealInferencePrefetchAdapter (RealInferenceStorageBackend bcfg)}
    {kept : Nat × Nat → Bool} (hkept : TableIs s kept) (p : Pipeline (RealInferenceStorageBackend bcfg))
    (c : Call) :
    TableIs (call (realBackend bcfg val) A cfg s c).2.adapter
      (recordKept kept p (.call c) (call (realBackend bcfg val) A cfg s c).1) := by
  cases c with
  | writeBlock l b k v h t =>
      have hwrite := @tableIs_writeBlock α _ _ bcfg val A cfg s kept hkept l b k v h t
      unfold call
      dsimp only [finished]
      revert hwrite
      rcases writeBlock (realBackend bcfg val) A cfg s l b k v h t with ⟨_ | _, s'⟩
      · exact id
      · exact id
  | prefetch bids l h t isAsync => exact hkept.same (sameTable_prefetch s bids l h t isAsync none)
  | predictAndPrefetch l bids stride isAsync =>
      unfold call predictAndPrefetch
      dsimp only
      rcases s.predictor.predictNextLayerBlocks l bids stride with ⟨_ | ⟨layer, predicted⟩, p'⟩
      · exact hkept
      · have hpredictor : SameTable s { s with predictor := p' } := SameTable.of_eq rfl
        exact hkept.same (hpredictor.trans (sameTable_prefetch _ predicted layer 0 0 isAsync _))
  | readKeyPage l b h t => exact hkept.same (sameTable_readKeyPage s l b h t)
  | readValuePage l b h t => exact hkept.same (sameTable_readValuePage s l b h t)
  | readBlock l b h t => exact hkept.same (sameTable_readBlock s l b h t)
  | readKeyPageBatch l bids h t => exact hkept.same (sameTable_readKeyPageBatch s l h t bids)
  | readValuePageBatch l bids h t => exact hkept.same (sameTable_readValuePageBatch s l h t bids)
  | readBlockBatch l bids h t => exact hkept.same (sameTable_readBlockBatch s l h t bids)
  | evictBlock l b => exact @tableIs_evictBlock α _ _ bcfg val s kept hkept l b
  | resetStats => exact hkept

theorem tableIs_step {p : Pipeline (RealInferenceStorageBackend bcfg)} {kept : Nat × Nat → Bool}
    (hkept : TableIs p.adapter kept) (e : Event) :
    TableIs (step (realBackend bcfg val) A cfg p e).2.adapter
      (recordKept kept p e (step (realBackend bcfg val) A cfg p e).1) := by
  cases e with
  | call c =>
      unfold step
      dsimp only
      split
      · exact tableIs_call hkept p c
      · cases c with
        | writeBlock => exact hkept
        | evictBlock => exact hkept
        | _ => exact hkept
  | registerNext =>
      have hsame : SameTable p.adapter (registerNext cfg p).2.adapter := by
        unfold registerNext
        split
        · exact SameTable.refl _
        · split
          · exact SameTable.refl _
          · dsimp only
            split
            · exact SameTable.of_eq rfl
            · exact SameTable.of_eq rfl
      exact hkept.same hsame
  | fetchNext future =>
      exact hkept.same (@sameTable_fetchNext α _ _ bcfg val cfg p.adapter future)
  | complete future =>
      have hsame : SameTable p.adapter (complete p.adapter future) := by
        unfold complete
        split
        · exact SameTable.refl _
        · split
          · exact SameTable.of_eq rfl
          · exact SameTable.refl _
      exact hkept.same hsame
  | fail future err =>
      have hsame : SameTable p.adapter (fail p.adapter future err) := by
        unfold fail
        split
        · exact SameTable.refl _
        · split
          · exact SameTable.of_eq rfl
          · exact SameTable.refl _
      exact hkept.same hsame

end Backend

/-! ## What a prefetch asks for -/

section Requested

variable {σ : Type v} {B : Backend σ} {A : Astype} {cfg : AdapterConfig}

def requestedBy (s : RealInferencePrefetchAdapter σ) : Call → List (Nat × Nat)
  | .prefetch bids l _ _ _ => bids.map fun b => (l, b)
  | .predictAndPrefetch l bids stride _ =>
      match (s.predictor.predictNextLayerBlocks l bids stride).1 with
      | .ok (layer, predicted) => predicted.map fun b => (layer, b)
      | .error _ => []
  | _ => []

def recordRequested (requested : Nat × Nat → Bool) (p : Pipeline σ) :
    Event → Option (Outcome Answer) → Nat × Nat → Bool
  | .call (.evictBlock l b), some _ => Function.update requested (l, b) false
  | .call c, _ =>
      if p.registration.isNone then
        fun key => (requestedBy p.adapter c).contains key || requested key
      else requested
  | _, _ => requested

structure StagedOf (p : Pipeline σ) (requested : Nat × Nat → Bool) : Prop where
  staged : ∀ key, p.adapter.stagingBuffer.contains key = true → requested key = true
  registers : ∀ r, p.registration = some r → ∀ b ∈ r.remaining, requested (r.layerId, b) = true

theorem StagedOf.same {p : Pipeline σ} {requested : Nat × Nat → Bool} (h : StagedOf p requested)
    {s : RealInferencePrefetchAdapter σ}
    (hs : ∀ key, s.stagingBuffer.contains key = p.adapter.stagingBuffer.contains key) :
    StagedOf ⟨s, p.registration⟩ requested :=
  ⟨fun key hkey => h.staged key ((hs key).symm.trans hkey), h.registers⟩

theorem contains_ensureCapacityFor (missBids : List Nat) (s : RealInferencePrefetchAdapter σ)
    (key : Nat × Nat) : s.stagingBuffer.contains key = false →
      (ensureCapacityFor cfg missBids s).2.stagingBuffer.contains key = false :=
  ensureCapacityFor_keeps
    (R := fun s s' => s.stagingBuffer.contains key = false → s'.stagingBuffer.contains key = false)
    (fun _ h => h) (fun h h' hkey => h' (h hkey)) (fun _ h => contains_dropOldest _ _ _ _ h)
    missBids s

theorem contains_stageEach (fetched : Dict Nat (NDArray × NDArray)) (l h t : Nat)
    (bids dispatched : List Nat) (s : RealInferencePrefetchAdapter σ) (key : Nat × Nat)
    (hkey : (stageEach B cfg fetched l h t bids dispatched s).2.stagingBuffer.contains key = true) :
    s.stagingBuffer.contains key = true ∨ key ∈ bids.map fun b => (l, b) := by
  induction bids generalizing dispatched s with
  | nil => exact Or.inl hkey
  | cons bid bids ih =>
      have hbuffer := @fetchForStaging_buffer σ B cfg fetched s l bid h t
      unfold stageEach at hkey
      revert hbuffer hkey
      rcases fetchForStaging B cfg fetched s l bid h t with ⟨_ | kv, s'⟩
      · intro hbuffer hkey
        exact Or.inl (hbuffer ▸ hkey)
      · intro hbuffer hkey
        dsimp only at hbuffer
        rcases ih _ _ hkey with hstaged | hlater
        · simp only [stage, hbuffer, Dict.contains_set, Bool.or_eq_true, decide_eq_true_eq] at hstaged
          rcases hstaged with heq | hstaged
          · exact Or.inr (by simp [← heq])
          · exact Or.inl hstaged
        · exact Or.inr (List.mem_cons_of_mem _ hlater)

theorem contains_prefetchSync (s : RealInferencePrefetchAdapter σ) (l : Nat) (bids : List Nat)
    (h t : Nat) (key : Nat × Nat)
    (hkey : (prefetchSync B cfg s l bids h t).2.stagingBuffer.contains key = true) :
    s.stagingBuffer.contains key = true ∨ key ∈ bids.map fun b => (l, b) := by
  unfold prefetchSync at hkey
  revert hkey
  rcases fetchBlocks B s.storageBackend l bids h t with ⟨_ | fetched, b⟩
  · exact Or.inl
  · exact contains_stageEach fetched l h t bids [] _ key

theorem stagedOf_prefetch {s : RealInferencePrefetchAdapter σ} {requested : Nat × Nat → Bool}
    (hstaged : ∀ key, s.stagingBuffer.contains key = true → requested key = true)
    {bids : List Nat} {l : Nat} (hbids : ∀ b ∈ bids, requested (l, b) = true) (h t : Nat)
    (isAsync : Bool) (predictedLayer : Option Nat) :
    StagedOf (prefetch B cfg s bids l h t isAsync predictedLayer).2 requested := by
  have hmissing : ∀ b ∈ missing s l bids, requested (l, b) = true :=
    fun b hb => hbids b (List.mem_of_mem_filter hb)
  unfold prefetch
  dsimp only
  split
  · exact ⟨hstaged, fun _ hr => by cases hr⟩
  · have hroom := @contains_ensureCapacityFor σ cfg (missing s l bids) s
    revert hroom
    rcases ensureCapacityFor cfg (missing s l bids) s with ⟨_ | _, s'⟩
    all_goals
      intro hroom
      have hkept : ∀ key, s'.stagingBuffer.contains key = true → requested key = true := by
        intro key hkey
        refine hstaged key ?_
        cases hold : s.stagingBuffer.contains key
        · exact hkey.symm.trans (hroom key hold) |>.symm
        · rfl
    · exact ⟨hkept, fun _ hr => by cases hr⟩
    · dsimp only
      split
      · refine ⟨hkept, ?_⟩
        rintro r ⟨⟩
        exact hmissing
      · refine ⟨fun key hkey => ?_, fun _ hr => by cases hr⟩
        rcases contains_prefetchSync s' l _ h t key hkey with hold | hnew
        · exact hkept key hold
        · obtain ⟨b, hb, rfl⟩ := List.mem_map.mp hnew
          exact hmissing b hb

theorem stagedOf_call {s : RealInferencePrefetchAdapter σ} {requested : Nat × Nat → Bool}
    (hstaged : ∀ key, s.stagingBuffer.contains key = true → requested key = true) (c : Call) :
    StagedOf (call B A cfg s c).2
      (recordRequested requested ⟨s, none⟩ (.call c) (call B A cfg s c).1) := by
  have hmore : ∀ keys : List (Nat × Nat), ∀ key, s.stagingBuffer.contains key = true →
      (keys.contains key || requested key) = true := by
    intro keys key hkey
    rw [hstaged key hkey, Bool.or_true]
  have hread : ∀ {s' : RealInferencePrefetchAdapter σ}, ReadOnly s s' →
      StagedOf ⟨s', none⟩ (fun key => ([] : List (Nat × Nat)).contains key || requested key) :=
    fun hs => ⟨fun key hkey => hmore [] key ((hs.contains_eq key).symm.trans hkey),
      fun _ hr => by cases hr⟩
  cases c with
  | writeBlock l b k v h t =>
      have hbuffer := (@writeBlock_keeps σ B cfg A s l b k v h t).1
      refine ⟨fun key hkey => hmore [] key ?_, fun _ hr => by cases hr⟩
      rw [← hbuffer]
      exact hkey
  | prefetch bids l h t isAsync =>
      refine stagedOf_prefetch (hmore _) (fun b hb => ?_) h t isAsync none
      simp [requestedBy, List.mem_map_of_mem hb]
  | predictAndPrefetch l bids stride isAsync =>
      unfold call predictAndPrefetch recordRequested requestedBy
      dsimp only
      rcases s.predictor.predictNextLayerBlocks l bids stride with ⟨_ | ⟨layer, predicted⟩, p⟩
      · exact ⟨hmore [], fun _ hr => by cases hr⟩
      · refine stagedOf_prefetch (s := { s with predictor := p }) (hmore _) (fun b hb => ?_) 0 0
          isAsync _
        simp [List.mem_map_of_mem hb]
  | readKeyPage l b h t => exact hread (readOnly_readKeyPage s l b h t)
  | readValuePage l b h t => exact hread (readOnly_readValuePage s l b h t)
  | readBlock l b h t => exact hread (readOnly_readBlock s l b h t)
  | readKeyPageBatch l bids h t =>
      exact hread (readOnly_readBatch _ _ _ readOnly_readKeyPage s l bids h t)
  | readValuePageBatch l bids h t =>
      exact hread (readOnly_readBatch _ _ _ readOnly_readValuePage s l bids h t)
  | readBlockBatch l bids h t =>
      exact hread (readOnly_readBatch _ _ _ readOnly_readBlock s l bids h t)
  | evictBlock l b =>
      have herased : ∀ key, (evictBlock B s l b).2.stagingBuffer.contains key =
          (s.stagingBuffer.erase (l, b)).contains key := by
        intro key
        unfold evictBlock
        dsimp only
        split
        · rfl
        · split
          · rfl
          · rfl
      refine ⟨fun key hkey => ?_, fun _ hr => by cases hr⟩
      have hkept := (herased key).symm.trans hkey
      show Function.update requested (l, b) false key = true
      by_cases heq : (l, b) = key
      · simp [Dict.contains, heq] at hkept
      · rw [Function.update_of_ne (Ne.symm heq)]
        refine hstaged key ?_
        simpa [Dict.contains, Dict.get?_erase_of_ne _ heq] using hkept
  | resetStats => exact ⟨fun _ hkey => (by cases hkey), fun _ hr => by cases hr⟩

theorem stagedOf_registerNext {p : Pipeline σ} {requested : Nat × Nat → Bool}
    (h : StagedOf p requested) : StagedOf (registerNext cfg p).2 requested := by
  unfold registerNext
  split
  · exact h
  · rename_i r hr
    have hregisters := h.registers r hr
    split
    · exact ⟨h.staged, fun _ hr => by cases hr⟩
    · rename_i bid rest hrest
      rw [hrest, List.forall_mem_cons] at hregisters
      have hstage : ∀ key, (stage cfg p.adapter r.layerId bid r.headId none
          (some r.future)).stagingBuffer.contains key = true → requested key = true := by
        intro key hkey
        simp only [stage, Dict.contains_set, Bool.or_eq_true, decide_eq_true_eq] at hkey
        rcases hkey with rfl | hkey
        · exact hregisters.1
        · exact h.staged key hkey
      dsimp only
      split
      · exact ⟨hstage, fun _ hr => by cases hr⟩
      · refine ⟨hstage, ?_⟩
        rintro r' ⟨⟩
        exact hregisters.2

theorem stagedOf_step {p : Pipeline σ} {requested : Nat × Nat → Bool} (h : StagedOf p requested)
    (e : Event) :
    StagedOf (step B A cfg p e).2 (recordRequested requested p e (step B A cfg p e).1) := by
  cases e with
  | call c =>
      obtain ⟨s, registration⟩ := p
      cases registration with
      | none => exact stagedOf_call h.staged c
      | some r =>
          have hignored : recordRequested requested ⟨s, some r⟩ (.call c) none = requested := by
            cases c with
            | _ => rfl
          show StagedOf ⟨s, some r⟩ (recordRequested requested ⟨s, some r⟩ (.call c) none)
          rw [hignored]
          exact h
  | registerNext => exact stagedOf_registerNext h
  | fetchNext future => exact h.same (@fetchNext_keys σ B cfg p.adapter future).1
  | complete future =>
      exact h.same fun key =>
        congrArg (fun d => Dict.contains d key) (complete_buffer p.adapter future)
  | fail future err =>
      exact h.same fun key =>
        congrArg (fun d => Dict.contains d key) (fail_buffer p.adapter future err)

end Requested

section Contains

variable {α : Type u} [Field α] [LinearOrder α]

/-- After every run `contains_block` is true exactly of the blocks that were written and not
evicted since, and of those that are staged; and only what a prefetch has asked for since its
last eviction is staged. -/
theorem contains_block_iff (bcfg : BackendConfig) (val : DType → Bytes → α) (A : Astype)
    (cfg : AdapterConfig) (events : List Event) (l b : Nat) :
    let m := machine (realBackend bcfg val) A cfg
    let start : Pipeline (RealInferenceStorageBackend bcfg) :=
      init cfg RealInferenceStorageBackend.init
    let s := (m.exec start events).adapter
    (containsBlock (some RealInferenceStorageBackend.containsBlock) s l b = true ↔
        m.history recordKept start (fun _ => false) events (l, b) = true ∨
          s.stagingBuffer.contains (l, b) = true) ∧
      (s.stagingBuffer.contains (l, b) = true →
        m.history recordRequested start (fun _ => false) events (l, b) = true) := by
  intro m start s
  have htable : TableIs s (m.history recordKept start (fun _ => false) events) :=
    m.history_invariant (I := fun p kept => TableIs p.adapter kept)
      (fun _ _ e hkept => tableIs_step hkept e) start _ events fun _ => rfl
  have hstaged : StagedOf (m.exec start events)
      (m.history recordRequested start (fun _ => false) events) :=
    m.history_invariant (I := StagedOf) (fun _ _ e h => stagedOf_step h e) start _ events
      ⟨fun _ hkey => (by cases hkey), fun _ hr => by cases hr⟩
  refine ⟨?_, hstaged.staged (l, b)⟩
  unfold containsBlock
  dsimp only
  rw [← htable (l, b), or_comm]
  cases s.stagingBuffer.contains (l, b)
  · simp [RealInferenceStorageBackend.containsBlock]
  · simp

/-- A block that was never written is contained once it is prefetched. -/
theorem prefetched_block_is_contained :
    let m := fileMachine
    let events : List Event := [.call (.prefetch [1] 0 0 0 false)]
    containsBlock (some RealInferenceStorageBackend.containsBlock)
        (m.exec fileStart events).adapter 0 1 = true ∧
      m.history recordKept fileStart (fun _ => false) events (0, 1) = false := by
  decide +kernel

end Contains

end Pipeline

end AiSsd.Prefetch.Async
