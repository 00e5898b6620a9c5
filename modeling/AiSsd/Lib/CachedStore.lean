import AiSsd.Lib.Dict
import Mathlib.Algebra.BigOperators.Group.Finset.Basic
import Mathlib.Data.Finset.Basic

/-!
# Counting what a cache holds

A store, the set of its keys that a bounded cache holds, and a counter of the cached bytes.
Staging counts what it adds. Storing and dropping leave the counter alone, so they keep it
right exactly when they do not change the size of what is cached.
-/

namespace Lib

universe u v

structure CachedStore (κ : Type u) (ν : Type v) where
  store : Dict κ ν
  cached : Finset κ
  used : Nat

namespace CachedStore

variable {κ : Type u} {ν : Type v} [DecidableEq κ]

def init : CachedStore κ ν := ⟨Dict.empty, ∅, 0⟩

def put (c : CachedStore κ ν) (key : κ) (value : ν) : CachedStore κ ν :=
  { c with store := c.store.set key value }

/-- The key leaves the store and the cache; the counter stays. -/
def drop (c : CachedStore κ ν) (key : κ) : CachedStore κ ν :=
  { c with store := c.store.erase key, cached := c.cached.erase key }

def stage (c : CachedStore κ ν) (key : κ) (bytes : Nat) : CachedStore κ ν :=
  { c with cached := insert key c.cached, used := c.used + bytes }

def evict (c : CachedStore κ ν) (key : κ) : CachedStore κ ν :=
  if c.store.contains key then c.drop key else c

variable (size : ν → Nat) (capacity : Nat)

def tryStage (c : CachedStore κ ν) (key : κ) : CachedStore κ ν :=
  match c.store.get? key with
  | none => c
  | some value =>
      if key ∉ c.cached ∧ c.used + size value ≤ capacity then c.stage key (size value) else c

def bytesAt (c : CachedStore κ ν) (key : κ) : Nat := ((c.store.get? key).map size).getD 0

/-- The counter is the sum of the cached sizes, within the capacity, and what is cached is
stored. -/
structure Accounted (c : CachedStore κ ν) : Prop where
  used_eq : c.used = ∑ key ∈ c.cached, c.bytesAt size key
  within : c.used ≤ capacity
  stored : ∀ key ∈ c.cached, c.store.contains key = true

variable {size capacity} {c : CachedStore κ ν}

theorem accounted_init : Accounted size capacity (init : CachedStore κ ν) where
  used_eq := rfl
  within := Nat.zero_le _
  stored := by simp [init]

theorem bytesAt_of_get? {key : κ} {value : ν} (h : c.store.get? key = some value) :
    c.bytesAt size key = size value := by
  unfold bytesAt
  rw [h]
  rfl

theorem bytesAt_put (key : κ) (value : ν) (k : κ) :
    (c.put key value).bytesAt size k = if key = k then size value else c.bytesAt size k := by
  unfold bytesAt put
  rw [Dict.get?_set]
  split <;> rfl

theorem bytesAt_drop (key : κ) {k : κ} (h : key ≠ k) :
    (c.drop key).bytesAt size k = c.bytesAt size k := by
  unfold bytesAt drop
  rw [Dict.get?_erase_of_ne _ h]

def otherBytes (size : ν → Nat) (c : CachedStore κ ν) (key : κ) : Nat :=
  ∑ k ∈ c.cached.erase key, c.bytesAt size k

theorem sum_cached {key : κ} (h : key ∈ c.cached) :
    ∑ k ∈ c.cached, c.bytesAt size k = c.bytesAt size key + c.otherBytes size key :=
  (Finset.add_sum_erase _ _ h).symm

theorem sum_put {key : κ} (value : ν) (h : key ∈ c.cached) :
    ∑ k ∈ (c.put key value).cached, (c.put key value).bytesAt size k =
      size value + c.otherBytes size key := by
  have hother : (c.put key value).otherBytes size key = c.otherBytes size key := by
    apply Finset.sum_congr rfl
    intro k hk
    rw [bytesAt_put, if_neg (Finset.ne_of_mem_erase hk).symm]
  have hkey : key ∈ (c.put key value).cached := h
  rw [sum_cached hkey, hother, bytesAt_put, if_pos rfl]

theorem sum_drop (key : κ) :
    ∑ k ∈ (c.drop key).cached, (c.drop key).bytesAt size k = c.otherBytes size key := by
  apply Finset.sum_congr rfl
  intro k hk
  exact bytesAt_drop key (Finset.ne_of_mem_erase hk).symm

/-- Storing keeps the account unless it changes the size of a cached key. -/
theorem Accounted.put_iff (h : Accounted size capacity c) (key : κ) (value : ν) :
    Accounted size capacity (c.put key value) ↔
      (key ∈ c.cached → size value = c.bytesAt size key) := by
  have hused := h.used_eq
  constructor
  · intro hnext hkey
    have hnextUsed : c.used = _ := hnext.used_eq
    rw [sum_put value hkey] at hnextUsed
    rw [sum_cached hkey] at hused
    omega
  · intro hsize
    refine ⟨?_, h.within, ?_⟩
    · show c.used = _
      by_cases hkey : key ∈ c.cached
      · rw [sum_put value hkey, hsize hkey, ← sum_cached hkey]
        exact hused
      · rw [hused]
        apply Finset.sum_congr rfl
        intro k hk
        rw [bytesAt_put, if_neg]
        rintro rfl
        exact hkey hk
    · intro k hk
      show (c.store.set key value).contains k = true
      rw [Dict.contains_set, h.stored k hk, Bool.or_true]

/-- Dropping keeps the account unless it drops cached bytes. -/
theorem Accounted.drop_iff (h : Accounted size capacity c) (key : κ) :
    Accounted size capacity (c.drop key) ↔ (key ∈ c.cached → c.bytesAt size key = 0) := by
  have hused := h.used_eq
  constructor
  · intro hnext hkey
    have hnextUsed : c.used = _ := hnext.used_eq
    rw [sum_drop] at hnextUsed
    rw [sum_cached hkey] at hused
    omega
  · intro hempty
    refine ⟨?_, h.within, ?_⟩
    · show c.used = _
      rw [sum_drop]
      by_cases hkey : key ∈ c.cached
      · rw [sum_cached hkey, hempty hkey] at hused
        omega
      · rw [hused, otherBytes, Finset.erase_eq_of_notMem hkey]
    · intro k hk
      have hne : key ≠ k := (Finset.ne_of_mem_erase hk).symm
      have hstored := h.stored k (Finset.mem_of_mem_erase hk)
      unfold Dict.contains at hstored ⊢
      rwa [drop, Dict.get?_erase_of_ne _ hne]

/-- Staging a stored key that is not cached and fits keeps the account. -/
theorem Accounted.stage (h : Accounted size capacity c) {key : κ} {value : ν}
    (hget : c.store.get? key = some value) (hnew : key ∉ c.cached)
    (hroom : c.used + size value ≤ capacity) :
    Accounted size capacity (c.stage key (size value)) where
  used_eq := by
    show c.used + size value = ∑ k ∈ insert key c.cached, c.bytesAt size k
    rw [Finset.sum_insert hnew, bytesAt_of_get? hget, h.used_eq, Nat.add_comm]
  within := hroom
  stored := by
    have hstored : c.store.contains key = true := by
      rw [Dict.contains, hget]
      rfl
    exact (Finset.forall_mem_insert _ _ _).mpr ⟨hstored, h.stored⟩

/-- Evicting keeps the account unless it drops cached bytes. -/
theorem Accounted.evict_iff (h : Accounted size capacity c) (key : κ) :
    Accounted size capacity (c.evict key) ↔ (key ∈ c.cached → c.bytesAt size key = 0) := by
  unfold evict
  split
  · exact h.drop_iff key
  · rename_i hmissing
    exact iff_of_true h fun hkey => absurd (h.stored key hkey) hmissing

/-- Staging what fits always keeps it. -/
theorem Accounted.tryStage (h : Accounted size capacity c) (key : κ) :
    Accounted size capacity (c.tryStage size capacity key) := by
  unfold CachedStore.tryStage
  split
  · exact h
  · rename_i value hget
    split
    · rename_i hroom
      exact h.stage hget hroom.1 hroom.2
    · exact h

end CachedStore

end Lib
