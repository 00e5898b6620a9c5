import AiSsd.Lib.Simulation
import AiSsd.Tiering.Manager

/-!
# One manager over two storages

A storage that simulates another gives the tiering manager the same life: over it every
operation returns what it returns over the other, and the pools of blocks stay equal.
-/

namespace AiSsd.Tiering

open Lib

universe u v w x

/-- Exceptions that differ at most in how a missing key is reported. -/
inductive SameClass : PyErr → PyErr → Prop
  | refl (err : PyErr) : SameClass err err
  | keyError (message message' : String) : SameClass (.keyError message) (.keyError message')

variable {σ : Type w} {τ : Type x} {α : Type u} {β : Type v}

/-- The two calls simulate those of the other storage, until that is past a limit. -/
structure StorageSimulation (S : KVStorage σ α β) (S' : KVStorage τ α β) (R : σ → τ → Prop)
    (Past : τ → Prop) : Prop where
  store : ∀ b l k v, Simulates R (Agree SameClass) Past (fun s => S.storeKv s b l k v)
    fun t => S'.storeKv t b l k v
  load : ∀ b l, Simulates R (Agree SameClass) Past (fun s => S.loadKv s b l)
    fun t => S'.loadKv t b l
  store_past : ∀ b l k v, StaysPast Past fun t => S'.storeKv t b l k v
  load_past : ∀ b l, StaysPast Past fun t => S'.loadKv t b l

namespace TieredKVManager

variable {S : KVStorage σ α β} {S' : KVStorage τ α β} {R : σ → τ → Prop} {Past : τ → Prop}
  {policy : TieringPolicy}

/-- One pool, and storages that `R` relates. -/
structure Paired (R : σ → τ → Prop) (m : TieredKVManager σ α β) (m' : TieredKVManager τ α β) :
    Prop where
  pool : m.blockPool = m'.blockPool
  storage : R m.storage m'.storage

theorem Paired.withPool {m : TieredKVManager σ α β} {m' : TieredKVManager τ α β}
    (h : Paired R m m') (pool : KVBlockPool α β) :
    Paired R { m with blockPool := pool } { m' with blockPool := pool } :=
  ⟨rfl, h.storage⟩

/-! ## Staying past the limit -/

section Past

variable (hS : StorageSimulation S S' R Past)

include hS

theorem offload_past (layerId : Nat) (block : KVBlock α β) :
    StaysPast (fun m : TieredKVManager τ α β => Past m.storage)
      fun m => offload S' m layerId block := by
  intro m hpast
  have hstore : Past (S'.storeKv m.storage block.blockId layerId block.kData block.vData).2 :=
    hS.store_past block.blockId layerId block.kData block.vData m.storage hpast
  dsimp only
  unfold offload
  revert hstore
  rcases S'.storeKv m.storage block.blockId layerId block.kData block.vData with ⟨_ | _, t⟩
  · exact id
  · exact id

theorem evictLoop_past (layerId : Nat) (leaves : KVBlock α β → Bool) (ids : List Nat) :
    StaysPast (fun m : TieredKVManager τ α β => Past m.storage)
      fun m => evictLoop S' layerId leaves ids m := by
  induction ids with
  | nil => exact fun m hpast => hpast
  | cons id ids ih =>
      intro m hpast
      dsimp only
      unfold evictLoop
      cases m.blockPool.getBlock id with
      | none => exact ih m hpast
      | some block =>
          dsimp only
          split
          · have hoff : Past (offload S' m layerId block).2.storage :=
              offload_past hS layerId block m hpast
            revert hoff
            rcases offload S' m layerId block with ⟨_ | _, m'⟩
            · exact fun hoff => hoff
            · exact fun hoff => ih m' hoff
          · exact ih m hpast

theorem step_past (op : Op α β) :
    StaysPast (fun m : TieredKVManager τ α β => Past m.storage) fun m => step policy S' m op := by
  intro m hpast
  cases op with
  | prefill l rows => exact evictLoop_past hS l _ _ _ hpast
  | append l k v =>
      refine evictLoop_past hS l _ _ _ ?_
      have hsame : (placeToken policy m l k v).storage = m.storage := by
        unfold placeToken
        split
        · split <;> rfl
        · rfl
      dsimp only
      rw [hsame]
      exact hpast
  | fetch id l =>
      dsimp only [step]
      unfold fetchColdBlock
      cases m.blockPool.getBlock id with
      | none => exact hpast
      | some block =>
          dsimp only
          split
          · exact hpast
          · have hload : Past (S'.loadKv m.storage id l).2 := hS.load_past id l m.storage hpast
            revert hload
            rcases S'.loadKv m.storage id l with ⟨_ | _, t⟩ <;> exact fun hload => hload

end Past

/-! ## Operations -/

section Operations

variable (hS : StorageSimulation S S' R Past)

include hS

theorem offload_simulates (layerId : Nat) (block : KVBlock α β) :
    Simulates (Paired R) (Agree SameClass) (fun m => Past m.storage)
      (fun m => offload S m layerId block) fun m => offload S' m layerId block := by
  rintro ⟨s, pool⟩ ⟨t, pool'⟩ ⟨rfl, hrel⟩
  have hstore := hS.store block.blockId layerId block.kData block.vData s t hrel
  dsimp only at hstore ⊢
  unfold offload
  dsimp only
  revert hstore
  rcases S.storeKv s block.blockId layerId block.kData block.vData with ⟨r, s'⟩
  rcases S'.storeKv t block.blockId layerId block.kData block.vData with ⟨r', t'⟩
  rintro (hlimit | ⟨hagree, hrel'⟩)
  · left
    cases r' <;> exact hlimit
  · right
    cases hagree with
    | ok stored => exact ⟨.ok (), rfl, hrel'⟩
    | error herr => exact ⟨.error herr, rfl, hrel'⟩

theorem evictLoop_simulates (layerId : Nat) (leaves : KVBlock α β → Bool) (ids : List Nat) :
    Simulates (Paired R) (Agree SameClass) (fun m => Past m.storage)
      (fun m => evictLoop S layerId leaves ids m) fun m => evictLoop S' layerId leaves ids m := by
  induction ids with
  | nil => exact fun m m' h => .inr ⟨.ok (), h⟩
  | cons id ids ih =>
      intro m m' h
      dsimp only
      unfold evictLoop
      rw [h.pool]
      cases m'.blockPool.getBlock id with
      | none => exact ih m m' h
      | some block =>
          dsimp only
          split
          · have hoff := offload_simulates hS layerId block m m' h
            dsimp only at hoff
            have hrest := evictLoop_past hS layerId leaves ids
            revert hoff
            rcases offload S m layerId block with ⟨r, n⟩
            rcases offload S' m' layerId block with ⟨r', n'⟩
            rintro (hlimit | ⟨hagree, hrel⟩)
            · left
              cases r' with
              | error err => exact hlimit
              | ok done => exact hrest n' hlimit
            · cases hagree with
              | ok done => exact ih n n' hrel
              | error herr => exact .inr ⟨.error herr, hrel⟩
          · exact ih m m' h

omit hS in
theorem placeToken_paired {m : TieredKVManager σ α β} {m' : TieredKVManager τ α β}
    (h : Paired R m m') (l : Nat) (k : α) (v : β) :
    Paired R (placeToken policy m l k v) (placeToken policy m' l k v) := by
  obtain ⟨s, pool⟩ := m
  obtain ⟨t, pool'⟩ := m'
  obtain ⟨rfl, hrel⟩ := h
  unfold placeToken totalTokens
  dsimp only
  split
  · split
    · exact ⟨rfl, hrel⟩
    · exact ⟨rfl, hrel⟩
  · exact ⟨rfl, hrel⟩

theorem fetchColdBlock_simulates (id l : Nat) :
    Simulates (Paired R) (Agree SameClass) (fun m => Past m.storage)
      (fun m => fetchColdBlock S m id l) fun m => fetchColdBlock S' m id l := by
  rintro ⟨s, pool⟩ ⟨t, pool'⟩ ⟨rfl, hrel⟩
  have hload := hS.load id l s t hrel
  dsimp only at hload ⊢
  unfold fetchColdBlock
  dsimp only
  cases pool.getBlock id with
  | none => exact .inr ⟨.error (.refl _), rfl, hrel⟩
  | some block =>
      dsimp only
      split
      · exact .inr ⟨.ok block, rfl, hrel⟩
      · revert hload
        rcases S.loadKv s id l with ⟨r, s'⟩
        rcases S'.loadKv t id l with ⟨r', t'⟩
        rintro (hlimit | ⟨hagree, hrel'⟩)
        · left
          cases r' <;> exact hlimit
        · right
          cases hagree with
          | ok kv => exact ⟨.ok _, rfl, hrel'⟩
          | error herr => exact ⟨.error herr, rfl, hrel'⟩

theorem step_simulates (op : Op α β) :
    Simulates (Paired R) (Agree SameClass) (fun m => Past m.storage)
      (fun m => step policy S m op) fun m => step policy S' m op := by
  intro m m' h
  cases op with
  | prefill l rows =>
      have hpool : (prefillBlocks policy l (rows.map Prod.fst) (rows.map Prod.snd) m.blockPool) =
          prefillBlocks policy l (rows.map Prod.fst) (rows.map Prod.snd) m'.blockPool := by
        rw [h.pool]
      dsimp only [step]
      unfold prefillSequence
      dsimp only
      rw [hpool]
      exact (evictLoop_simulates hS l _ _ _ _ (h.withPool _)).imp id
        fun hsame => ⟨hsame.1.map _, hsame.2⟩
  | append l k v =>
      have hplaced := @placeToken_paired σ τ α β R policy m m' h l k v
      have htotal : (placeToken policy m l k v).totalTokens l =
          (placeToken policy m' l k v).totalTokens l := by
        unfold totalTokens
        rw [hplaced.pool]
      dsimp only [step]
      unfold appendToken
      dsimp only
      rw [htotal, hplaced.pool]
      exact (evictLoop_simulates hS l _ _ _ _ hplaced).imp id
        fun hsame => ⟨hsame.1.map _, hsame.2⟩
  | fetch bid l =>
      exact (fetchColdBlock_simulates hS bid l m m' h).imp id
        fun hsame => ⟨hsame.1.map _, hsame.2⟩

end Operations

end TieredKVManager

end AiSsd.Tiering
