import Mathlib.Data.Finset.Card
import Mathlib.Data.List.Forall2
import Mathlib.Data.List.Nodup
import Mathlib.Tactic.Common

/-!
# Insertion-ordered dictionaries

A dictionary keeps its bindings in insertion order and binds every key at most
once. Rebinding a key keeps its place; `moveToEnd` and `popFirst?` give the
recency order an LRU buffer needs. Lookup is the observation every other
operation is characterised by.
-/

namespace Lib

universe u v w

/-- Bindings in insertion order. `nodup` rules out a key bound twice. -/
structure Dict (κ : Type u) (ν : Type v) where
  entries : List (κ × ν)
  nodup : (entries.map Prod.fst).Nodup

namespace Dict

variable {κ : Type u} {ν : Type v} {μ : Type w} [DecidableEq κ]

/-! ## Bindings as lists -/

/-- The first value bound to `key`. -/
def lookup (key : κ) : List (κ × ν) → Option ν
  | [] => none
  | (k, value) :: rest => if k = key then some value else lookup key rest

/-- Rebind `key` in place, or append it when it is new. -/
def assign (key : κ) (value : ν) : List (κ × ν) → List (κ × ν)
  | [] => [(key, value)]
  | (k, old) :: rest => if k = key then (k, value) :: rest else (k, old) :: assign key value rest

theorem lookup_assign (key : κ) (value : ν) (es : List (κ × ν)) (k : κ) :
    lookup k (assign key value es) = if key = k then some value else lookup k es := by
  induction es with
  | nil => simp [assign, lookup]
  | cons e es ih =>
      obtain ⟨j, old⟩ := e
      by_cases hj : j = key
      · subst hj
        by_cases hk : j = k <;> simp [assign, lookup, hk]
      · by_cases hk : j = k
        · subst hk
          simp [assign, lookup, hj, Ne.symm hj]
        · simp [assign, lookup, hj, hk, ih]

theorem keys_assign (key : κ) (value : ν) (es : List (κ × ν)) :
    (assign key value es).map Prod.fst =
      if key ∈ es.map Prod.fst then es.map Prod.fst else es.map Prod.fst ++ [key] := by
  induction es with
  | nil => simp [assign]
  | cons e es ih =>
      obtain ⟨j, old⟩ := e
      by_cases hj : j = key
      · simp [assign, hj]
      · by_cases hm : key ∈ es.map Prod.fst
        · rw [if_pos hm] at ih
          simp [assign, hj, ih, List.mem_cons_of_mem j hm]
        · rw [if_neg hm] at ih
          have hne : ¬ key ∈ j :: es.map Prod.fst := by
            simp only [List.mem_cons, not_or]
            exact ⟨Ne.symm hj, hm⟩
          rw [List.map_cons, if_neg hne]
          simp [assign, hj, ih]

theorem nodup_assign (key : κ) (value : ν) {es : List (κ × ν)}
    (h : (es.map Prod.fst).Nodup) : ((assign key value es).map Prod.fst).Nodup := by
  rw [keys_assign]
  split
  · exact h
  · rename_i hnot
    exact List.Nodup.append h (List.nodup_singleton key)
      (List.disjoint_singleton.mpr hnot)

theorem mem_assign_self (key : κ) (value : ν) (es : List (κ × ν)) :
    (key, value) ∈ assign key value es := by
  induction es with
  | nil => simp [assign]
  | cons e es ih =>
      obtain ⟨j, old⟩ := e
      by_cases hj : j = key
      · simp [assign, hj]
      · simp [assign, hj, ih]

theorem mem_assign {key : κ} {value : ν} {es : List (κ × ν)} {e : κ × ν}
    (h : e ∈ assign key value es) : e.2 = value ∨ e ∈ es := by
  induction es with
  | nil => simp_all [assign]
  | cons head es ih =>
      obtain ⟨j, old⟩ := head
      rw [assign] at h
      split at h
      · rcases List.mem_cons.mp h with rfl | hmem
        · exact .inl rfl
        · exact .inr (List.mem_cons_of_mem _ hmem)
      · rcases List.mem_cons.mp h with rfl | hmem
        · exact .inr List.mem_cons_self
        · exact (ih hmem).imp_right (List.mem_cons_of_mem _)

/-- Rebinding the same key in two lists of bindings that correspond. -/
theorem forall₂_assign {R : κ × ν → κ × μ → Prop} (hkey : ∀ e e', R e e' → e.1 = e'.1)
    {es : List (κ × ν)} {es' : List (κ × μ)} (h : List.Forall₂ R es es') {key : κ} {value : ν}
    {value' : μ} (hnew : R (key, value) (key, value')) :
    List.Forall₂ R (assign key value es) (assign key value' es') := by
  induction h with
  | nil => exact .cons hnew .nil
  | @cons e e' es es' he hrest ih =>
      obtain ⟨j, old⟩ := e
      obtain ⟨j', old'⟩ := e'
      obtain rfl : j = j' := hkey _ _ he
      by_cases hj : j = key
      · subst hj
        simpa [assign] using ⟨hnew, hrest⟩
      · simpa [assign, hj] using ⟨he, ih⟩

theorem lookup_filter_ne (key : κ) (es : List (κ × ν)) (k : κ) :
    lookup k (es.filter fun e => decide (e.1 ≠ key)) =
      if key = k then none else lookup k es := by
  induction es with
  | nil => simp [lookup]
  | cons e es ih =>
      obtain ⟨j, old⟩ := e
      by_cases hj : j = key
      · subst hj
        by_cases hk : j = k <;> simp_all [lookup]
      · by_cases hk : j = k
        · subst hk
          simp [lookup, hj, Ne.symm hj]
        · have hf : ((j, old) :: es).filter (fun e => decide (e.1 ≠ key)) =
              (j, old) :: es.filter fun e => decide (e.1 ≠ key) := by simp [hj]
          rw [hf, lookup, if_neg hk, ih, lookup, if_neg hk]

theorem lookup_eq_none_iff (es : List (κ × ν)) (k : κ) :
    lookup k es = none ↔ k ∉ es.map Prod.fst := by
  induction es with
  | nil => simp [lookup]
  | cons e es ih =>
      obtain ⟨j, old⟩ := e
      by_cases hj : j = k
      · simp [lookup, hj]
      · simp only [lookup, hj, if_false, ih, List.map_cons, List.mem_cons, not_or]
        exact ⟨fun h => ⟨Ne.symm hj, h⟩, fun h => h.2⟩

theorem lookup_eq_some_iff {es : List (κ × ν)} (h : (es.map Prod.fst).Nodup) (k : κ) (value : ν) :
    lookup k es = some value ↔ (k, value) ∈ es := by
  induction es with
  | nil => simp [lookup]
  | cons e es ih =>
      obtain ⟨j, old⟩ := e
      rw [List.map_cons, List.nodup_cons] at h
      by_cases hj : j = k
      · subst hj
        have hnot : (j, value) ∉ es := fun hm => h.1 (List.mem_map.mpr ⟨_, hm, rfl⟩)
        simp [lookup, hnot, eq_comm]
      · simp [lookup, hj, Ne.symm hj, ih h.2]

theorem mem_assign_iff {key : κ} {value : ν} {es : List (κ × ν)}
    (hnodup : (es.map Prod.fst).Nodup) (e : κ × ν) :
    e ∈ assign key value es ↔ e = (key, value) ∨ e.1 ≠ key ∧ e ∈ es := by
  obtain ⟨k, v⟩ := e
  rw [← lookup_eq_some_iff (nodup_assign key value hnodup), lookup_assign,
    ← lookup_eq_some_iff hnodup]
  by_cases hk : key = k
  · simp [hk, eq_comm]
  · simp [hk, Ne.symm hk]

/-! ## Operations -/

def empty : Dict κ ν := ⟨[], List.nodup_nil⟩

instance : Inhabited (Dict κ ν) := ⟨empty⟩

def get? (d : Dict κ ν) (key : κ) : Option ν := lookup key d.entries

def contains (d : Dict κ ν) (key : κ) : Bool := (d.get? key).isSome

def keys (d : Dict κ ν) : List κ := d.entries.map Prod.fst

def size (d : Dict κ ν) : Nat := d.entries.length

def set (d : Dict κ ν) (key : κ) (value : ν) : Dict κ ν :=
  ⟨assign key value d.entries, nodup_assign key value d.nodup⟩

def erase (d : Dict κ ν) (key : κ) : Dict κ ν :=
  ⟨d.entries.filter fun e => decide (e.1 ≠ key),
    (List.filter_sublist.map Prod.fst).nodup d.nodup⟩

/-- Move a bound key to the recent end; an unbound key changes nothing. -/
def moveToEnd (d : Dict κ ν) (key : κ) : Dict κ ν :=
  match d.get? key with
  | none => d
  | some value => (d.erase key).set key value

/-- The oldest binding and what is left, `none` on an empty dictionary. -/
def popFirst? (d : Dict κ ν) : Option ((κ × ν) × Dict κ ν) :=
  match d with
  | ⟨[], _⟩ => none
  | ⟨e :: rest, h⟩ => some (e, ⟨rest, (List.nodup_cons.mp h).2⟩)

/-- Rebind every key of `new`, in its order. -/
def update (d new : Dict κ ν) : Dict κ ν :=
  new.entries.foldl (fun acc e => acc.set e.1 e.2) d

def setEach (d : Dict κ ν) (binds : List (κ × ν)) : Dict κ ν :=
  binds.foldl (fun acc e => acc.set e.1 e.2) d

def mapValues (d : Dict κ ν) (f : ν → ν) : Dict κ ν where
  entries := d.entries.map fun e => (e.1, f e.2)
  nodup := by
    rw [List.map_map]
    exact d.nodup

/-! ## Lookup after each operation -/

@[simp] theorem get?_empty (k : κ) : (empty : Dict κ ν).get? k = none := rfl

theorem get?_set (d : Dict κ ν) (key : κ) (value : ν) (k : κ) :
    (d.set key value).get? k = if key = k then some value else d.get? k :=
  lookup_assign key value d.entries k

@[simp] theorem get?_set_self (d : Dict κ ν) (key : κ) (value : ν) :
    (d.set key value).get? key = some value := by
  rw [get?_set, if_pos rfl]

theorem get?_set_of_ne (d : Dict κ ν) {key k : κ} (value : ν) (h : key ≠ k) :
    (d.set key value).get? k = d.get? k := by
  rw [get?_set, if_neg h]

/-- Binding the keys of a list one after the other: the first one, then the others. -/
theorem get?_set_listed {f : κ → Option ν} {key : κ} {value : ν} (h : f key = some value)
    (d : Dict κ ν) (keys : List κ) (k : κ) :
    (if k ∈ keys then f k else (d.set key value).get? k) =
      if k ∈ key :: keys then f k else d.get? k := by
  rw [get?_set]
  by_cases hk : key = k
  · subst hk
    simp [h]
  · simp [hk, Ne.symm hk]

theorem get?_erase (d : Dict κ ν) (key k : κ) :
    (d.erase key).get? k = if key = k then none else d.get? k :=
  lookup_filter_ne key d.entries k

@[simp] theorem get?_erase_self (d : Dict κ ν) (key : κ) : (d.erase key).get? key = none := by
  rw [get?_erase, if_pos rfl]

theorem get?_erase_of_ne (d : Dict κ ν) {key k : κ} (h : key ≠ k) :
    (d.erase key).get? k = d.get? k := by
  rw [get?_erase, if_neg h]

@[simp] theorem get?_moveToEnd (d : Dict κ ν) (key k : κ) :
    (d.moveToEnd key).get? k = d.get? k := by
  unfold moveToEnd
  cases hv : d.get? key with
  | none => rfl
  | some value =>
      by_cases hk : key = k
      · subst hk
        simp [hv]
      · simp only [get?_set_of_ne _ value hk, get?_erase_of_ne _ hk]

theorem get?_of_popFirst? {d rest : Dict κ ν} {e : κ × ν} (h : d.popFirst? = some (e, rest))
    (k : κ) : rest.get? k = if e.1 = k then none else d.get? k := by
  obtain ⟨es, hnd⟩ := d
  cases es with
  | nil => simp [popFirst?] at h
  | cons f es =>
      simp only [popFirst?, Option.some.injEq, Prod.mk.injEq] at h
      obtain ⟨rfl, rfl⟩ := h
      have hnot : f.1 ∉ es.map Prod.fst := (List.nodup_cons.mp hnd).1
      by_cases hk : f.1 = k
      · subst hk
        simpa [get?] using (lookup_eq_none_iff es f.1).mpr hnot
      · simp [get?, lookup, hk]

omit [DecidableEq κ] in
theorem size_of_popFirst? {d rest : Dict κ ν} {e : κ × ν} (h : d.popFirst? = some (e, rest)) :
    d.size = rest.size + 1 := by
  obtain ⟨es, hnd⟩ := d
  cases es with
  | nil => simp [popFirst?] at h
  | cons f es =>
      simp only [popFirst?, Option.some.injEq, Prod.mk.injEq] at h
      obtain ⟨-, rfl⟩ := h
      rfl

omit [DecidableEq κ] in
theorem popFirst?_eq_none {d : Dict κ ν} (h : d.popFirst? = none) : d.size = 0 := by
  obtain ⟨es, hnd⟩ := d
  cases es with
  | nil => rfl
  | cons f es => simp [popFirst?] at h

theorem contains_iff (d : Dict κ ν) (k : κ) : d.contains k = true ↔ k ∈ d.keys := by
  have h := lookup_eq_none_iff d.entries k
  unfold contains keys get?
  cases hl : lookup k d.entries with
  | none => simpa using h.mp hl
  | some value =>
      have hk : ¬ k ∉ d.entries.map Prod.fst := fun hn => by simp [h.mpr hn] at hl
      simpa using hk

theorem contains_set (d : Dict κ ν) (key : κ) (value : ν) (k : κ) :
    (d.set key value).contains k = (decide (key = k) || d.contains k) := by
  unfold contains
  rw [get?_set]
  by_cases hk : key = k <;> simp [hk]

@[simp] theorem contains_moveToEnd (d : Dict κ ν) (key k : κ) :
    (d.moveToEnd key).contains k = d.contains k := by
  unfold contains
  rw [get?_moveToEnd]

/-! ## Sizes -/

omit [DecidableEq κ] in
theorem length_keys (d : Dict κ ν) : d.keys.length = d.size := List.length_map _

theorem keys_set (d : Dict κ ν) (key : κ) (value : ν) :
    (d.set key value).keys = if key ∈ d.keys then d.keys else d.keys ++ [key] :=
  keys_assign key value d.entries

theorem size_set (d : Dict κ ν) (key : κ) (value : ν) :
    (d.set key value).size = if d.contains key then d.size else d.size + 1 := by
  rw [← length_keys, keys_set, ← length_keys]
  by_cases hmem : key ∈ d.keys
  · rw [if_pos hmem, if_pos ((contains_iff d key).mpr hmem)]
  · rw [if_neg hmem, if_neg (mt (contains_iff d key).mp hmem), List.length_append]
    rfl

theorem keys_erase (d : Dict κ ν) (key : κ) : (d.erase key).keys = d.keys.erase key := by
  unfold keys erase
  rw [List.Nodup.erase_eq_filter d.nodup key, List.filter_map]
  refine congrArg (List.map Prod.fst) (List.filter_congr fun e _ => ?_)
  simp [bne, beq_eq_decide]

theorem size_erase (d : Dict κ ν) (key : κ) :
    (d.erase key).size = if d.contains key then d.size - 1 else d.size := by
  rw [← length_keys, keys_erase, List.length_erase, ← length_keys]
  by_cases hmem : key ∈ d.keys
  · rw [if_pos hmem, if_pos ((contains_iff d key).mpr hmem)]
  · rw [if_neg hmem, if_neg (mt (contains_iff d key).mp hmem)]

theorem size_pos_of_contains {d : Dict κ ν} {key : κ} (h : d.contains key = true) :
    0 < d.size := by
  rw [← length_keys]
  exact List.length_pos_of_mem ((contains_iff d key).mp h)

omit [DecidableEq κ] in
theorem nodup_keys (d : Dict κ ν) : d.keys.Nodup := d.nodup

/-- A bound key is moved behind the others. -/
theorem keys_moveToEnd {d : Dict κ ν} {key : κ} (h : key ∈ d.keys) :
    (d.moveToEnd key).keys = d.keys.erase key ++ [key] := by
  unfold moveToEnd
  cases hv : d.get? key with
  | none =>
      have hbound := (contains_iff d key).mpr h
      simp [contains, hv] at hbound
  | some value =>
      dsimp only
      rw [keys_set, keys_erase, if_neg]
      exact (nodup_keys d).not_mem_erase

omit [DecidableEq κ] in
theorem keys_of_popFirst? {d rest : Dict κ ν} {e : κ × ν} (h : d.popFirst? = some (e, rest)) :
    d.keys = e.1 :: rest.keys := by
  obtain ⟨es, hnd⟩ := d
  cases es with
  | nil => simp [popFirst?] at h
  | cons f es =>
      simp only [popFirst?, Option.some.injEq, Prod.mk.injEq] at h
      obtain ⟨rfl, rfl⟩ := h
      rfl

@[simp] theorem size_moveToEnd (d : Dict κ ν) (key : κ) : (d.moveToEnd key).size = d.size := by
  unfold moveToEnd
  cases hv : d.get? key with
  | none => rfl
  | some value =>
      have hmem : d.contains key = true := by rw [contains, hv]; rfl
      have hgone : (d.erase key).contains key = false := by rw [contains, get?_erase_self]; rfl
      have hpos := size_pos_of_contains hmem
      rw [size_set, hgone, size_erase, hmem]
      simp only [Bool.false_eq_true, if_false, if_true]
      omega

theorem mem_entries_iff (d : Dict κ ν) (k : κ) (value : ν) :
    (k, value) ∈ d.entries ↔ d.get? k = some value :=
  (lookup_eq_some_iff d.nodup k value).symm

theorem assign_of_new {es : List (κ × ν)} {key : κ} (h : key ∉ es.map Prod.fst) (value : ν) :
    assign key value es = es ++ [(key, value)] := by
  induction es with
  | nil => rfl
  | cons e es ih =>
      rw [List.map_cons, List.mem_cons, not_or] at h
      obtain ⟨j, old⟩ := e
      rw [assign, if_neg (Ne.symm h.1), ih h.2, List.cons_append]

theorem entries_set_of_new {d : Dict κ ν} {key : κ} (h : d.get? key = none) (value : ν) :
    (d.set key value).entries = d.entries ++ [(key, value)] :=
  assign_of_new ((lookup_eq_none_iff d.entries key).mp h) value

/-- Rebinding a key to a value with the same image keeps the images of all. -/
theorem map_set_of_eq {d : Dict κ ν} {key : κ} {old value : ν} (h : d.get? key = some old)
    (f : ν → μ) (hf : f value = f old) :
    (d.set key value).entries.map (fun e => (e.1, f e.2)) =
      d.entries.map fun e => (e.1, f e.2) := by
  obtain ⟨es, hnd⟩ := d
  show (assign key value es).map _ = es.map _
  change lookup key es = some old at h
  clear hnd
  induction es with
  | nil => cases h
  | cons e es ih =>
      obtain ⟨j, found⟩ := e
      unfold assign
      unfold lookup at h
      split at h
      · rename_i heq
        cases h
        rw [if_pos heq, List.map_cons, List.map_cons, hf]
      · rename_i hne
        rw [if_neg hne, List.map_cons, List.map_cons, ih h]

omit [DecidableEq κ] in
theorem eq_of_entries {d d' : Dict κ ν} (h : d.entries = d'.entries) : d = d' := by
  cases d
  cases d'
  cases h
  rfl

theorem set_of_get? {d : Dict κ ν} {key : κ} {value : ν} (h : d.get? key = some value) :
    d.set key value = d :=
  eq_of_entries (by simpa using map_set_of_eq h id rfl)

theorem set_set (d : Dict κ ν) (key : κ) (old value : ν) :
    (d.set key old).set key value = d.set key value := by
  obtain ⟨es, hnd⟩ := d
  apply eq_of_entries
  show assign key value (assign key old es) = assign key value es
  clear hnd
  induction es with
  | nil => simp [assign]
  | cons e es ih =>
      obtain ⟨j, found⟩ := e
      by_cases hj : j = key <;> simp [assign, hj, ih]

theorem get?_mapValues (d : Dict κ ν) (f : ν → ν) (k : κ) :
    (d.mapValues f).get? k = (d.get? k).map f := by
  obtain ⟨es, hnd⟩ := d
  show lookup k (es.map fun e => (e.1, f e.2)) = (lookup k es).map f
  clear hnd
  induction es with
  | nil => rfl
  | cons e es ih =>
      rw [List.map_cons]
      unfold lookup
      split
      · rfl
      · exact ih

/-- The same keys in the same order, each value seen through `f`. -/
def Mapped (f : ν → μ) (d : Dict κ ν) (d' : Dict κ μ) : Prop :=
  d'.entries = d.entries.map fun e => (e.1, f e.2)

section Mapped

variable {f : ν → μ} {d : Dict κ ν} {d' : Dict κ μ}

omit [DecidableEq κ] in
theorem mapped_empty : Mapped f (empty : Dict κ ν) (empty : Dict κ μ) := rfl

theorem Mapped.get? (h : Mapped f d d') (k : κ) : d'.get? k = (d.get? k).map f := by
  show lookup k d'.entries = (lookup k d.entries).map f
  rw [h]
  induction d.entries with
  | nil => rfl
  | cons e es ih =>
      rw [List.map_cons]
      unfold lookup
      split
      · rfl
      · exact ih

theorem Mapped.set (h : Mapped f d d') (k : κ) (value : ν) :
    Mapped f (d.set k value) (d'.set k (f value)) := by
  show assign k (f value) d'.entries = (assign k value d.entries).map fun e => (e.1, f e.2)
  rw [h]
  induction d.entries with
  | nil => rfl
  | cons e es ih =>
      rw [List.map_cons]
      unfold assign
      split
      · rfl
      · rw [List.map_cons, ih]

end Mapped

/-- What `d'` binds to a key, `d` binds to its image, up to `R`. -/
def Viewed {κ' : Type*} [DecidableEq κ'] (emb : κ' → κ) (R : ν → μ → Prop) (d : Dict κ ν)
    (d' : Dict κ' μ) : Prop :=
  ∀ k, Option.Rel R (d.get? (emb k)) (d'.get? k)

section Viewed

variable {κ' : Type*} [DecidableEq κ'] {emb : κ' → κ} {R : ν → μ → Prop} {d : Dict κ ν}
  {d' : Dict κ' μ}

theorem viewed_empty : Viewed emb R empty empty := fun _ => .none

theorem Viewed.get? (h : Viewed emb R d d') (k : κ') :
    d.get? (emb k) = none ∧ d'.get? k = none ∨
      ∃ value value', d.get? (emb k) = some value ∧ d'.get? k = some value' ∧ R value value' := by
  have hk := h k
  generalize d.get? (emb k) = r, d'.get? k = r' at hk
  cases hk with
  | none => exact .inl ⟨rfl, rfl⟩
  | some hvalue => exact .inr ⟨_, _, rfl, rfl, hvalue⟩

theorem Viewed.set (hemb : Function.Injective emb) (h : Viewed emb R d d') (k : κ') {value : ν}
    {value' : μ} (hvalue : R value value') :
    Viewed emb R (d.set (emb k) value) (d'.set k value') := by
  intro j
  rw [get?_set, get?_set]
  by_cases hj : k = j
  · rw [if_pos hj, if_pos (congrArg emb hj)]
    exact .some hvalue
  · rw [if_neg hj, if_neg fun heq => hj (hemb heq)]
    exact h j

end Viewed

theorem get?_update (d new : Dict κ ν) (k : κ) :
    (d.update new).get? k = (new.get? k).or (d.get? k) := by
  obtain ⟨es, hnd⟩ := new
  unfold update get?
  dsimp only
  induction es generalizing d with
  | nil => simp [lookup]
  | cons e es ih =>
      rw [List.map_cons, List.nodup_cons] at hnd
      have hrec := ih (d.set e.1 e.2) hnd.2
      rw [List.foldl_cons, hrec]
      by_cases hk : e.1 = k
      · subst hk
        have hn : lookup e.1 es = none := (lookup_eq_none_iff es e.1).mpr hnd.1
        have hs : lookup e.1 (d.set e.1 e.2).entries = some e.2 := get?_set_self d e.1 e.2
        simp [lookup, hn, hs]
      · have hs : lookup k (d.set e.1 e.2).entries = lookup k d.entries :=
          get?_set_of_ne d e.2 hk
        simp [lookup, hk, hs]

/-! ## Counting values -/

/-- How many keys are bound to a value that meets `p`. -/
def countValues (p : ν → Bool) (d : Dict κ ν) : Nat := d.entries.countP fun e => p e.2

theorem countP_assign (p : ν → Bool) (key : κ) (value : ν) (es : List (κ × ν)) :
    (assign key value es).countP (fun e => p e.2) + ((lookup key es).any p).toNat =
      es.countP (fun e => p e.2) + (p value).toNat := by
  induction es with
  | nil => cases hp : p value <;> simp [assign, lookup, hp]
  | cons e es ih =>
      obtain ⟨j, old⟩ := e
      by_cases hj : j = key
      · cases hp : p value <;> cases ho : p old <;> simp [assign, lookup, hj, hp, ho]
      · simp only [assign, lookup, hj, if_false, List.countP_cons]
        omega

theorem countP_filter_ne (p : ν → Bool) (key : κ) {es : List (κ × ν)}
    (h : (es.map Prod.fst).Nodup) :
    (es.filter fun e => decide (e.1 ≠ key)).countP (fun e => p e.2) +
      ((lookup key es).any p).toNat = es.countP fun e => p e.2 := by
  induction es with
  | nil => rfl
  | cons e es ih =>
      obtain ⟨j, old⟩ := e
      rw [List.map_cons, List.nodup_cons] at h
      by_cases hj : j = key
      · subst hj
        have hkept : es.filter (fun e => decide (e.1 ≠ j)) = es := by
          refine List.filter_eq_self.mpr fun e he => decide_eq_true fun heq => h.1 ?_
          exact List.mem_map.mpr ⟨e, he, heq⟩
        have hdrop : ((j, old) :: es).filter (fun e => decide (e.1 ≠ j)) =
            es.filter fun e => decide (e.1 ≠ j) := by simp
        rw [hdrop, hkept]
        cases ho : p old <;> simp [lookup, ho]
      · have hkept : ((j, old) :: es).filter (fun e => decide (e.1 ≠ key)) =
            (j, old) :: es.filter fun e => decide (e.1 ≠ key) := by simp [hj]
        have hrest := ih h.2
        rw [hkept, lookup, if_neg hj, List.countP_cons, List.countP_cons]
        omega

theorem countValues_set (p : ν → Bool) (d : Dict κ ν) (key : κ) (value : ν) :
    (d.set key value).countValues p + ((d.get? key).any p).toNat =
      d.countValues p + (p value).toNat :=
  countP_assign p key value d.entries

theorem countValues_erase (p : ν → Bool) (d : Dict κ ν) (key : κ) :
    (d.erase key).countValues p + ((d.get? key).any p).toNat = d.countValues p :=
  countP_filter_ne p key d.nodup

@[simp] theorem countValues_moveToEnd (p : ν → Bool) (d : Dict κ ν) (key : κ) :
    (d.moveToEnd key).countValues p = d.countValues p := by
  unfold moveToEnd
  cases hv : d.get? key with
  | none => rfl
  | some value =>
      have herase := countValues_erase p d key
      have hset := countValues_set p (d.erase key) key value
      rw [hv] at herase
      simp only [get?_erase_self, Option.any_none, Option.any_some, Bool.toNat_false] at herase hset
      dsimp only
      omega

omit [DecidableEq κ] in
theorem countValues_popFirst? (p : ν → Bool) {d rest : Dict κ ν} {e : κ × ν}
    (h : d.popFirst? = some (e, rest)) :
    rest.countValues p + (p e.2).toNat = d.countValues p := by
  obtain ⟨es, hnd⟩ := d
  cases es with
  | nil => cases h
  | cons f es =>
      simp only [popFirst?, Option.some.injEq, Prod.mk.injEq] at h
      obtain ⟨rfl, rfl⟩ := h
      cases hp : p f.2 <;> simp [countValues, hp]

omit [DecidableEq κ] in
theorem countValues_true (d : Dict κ ν) : d.countValues (fun _ => true) = d.size :=
  congrFun List.countP_true d.entries

theorem setEach_concat (d : Dict κ ν) (binds : List (κ × ν)) (e : κ × ν) :
    d.setEach (binds ++ [e]) = (d.setEach binds).set e.1 e.2 := by
  simp only [setEach, List.foldl_concat]

/-- Bindings of different keys, one after another. -/
theorem entries_setEach {es : List (κ × ν)} (h : (es.map Prod.fst).Nodup) :
    ((empty : Dict κ ν).setEach es).entries = es := by
  induction es using List.reverseRecOn with
  | nil => rfl
  | append_singleton es e ih =>
      rw [List.map_append, List.nodup_append] at h
      have hnew : e.1 ∉ es.map Prod.fst := fun hmem =>
        h.2.2 e.1 hmem e.1 (by simp) rfl
      rw [setEach_concat, entries_set_of_new, ih h.1]
      rw [get?, ih h.1]
      exact (lookup_eq_none_iff es e.1).mpr hnew

theorem any_get?_setEach (p : ν → Bool) (d : Dict κ ν) (binds : List (κ × ν)) {key : κ}
    (hp : ∀ e ∈ binds, p e.2 = true) (hnew : d.get? key = none) :
    ((d.setEach binds).get? key).any p =
      decide (key ∈ binds.map Prod.fst) := by
  induction binds using List.reverseRecOn with
  | nil => simp [setEach, hnew]
  | append_singleton binds e ih =>
      rw [List.forall_mem_append] at hp
      have he := hp.2 e List.mem_cons_self
      rw [setEach_concat, get?_set, List.map_append, List.map_singleton]
      by_cases hkey : e.1 = key
      · simp [hkey, he]
      · simp [hkey, Ne.symm hkey, ih hp.1]

/-- Binding unbound keys, some of them repeatedly: each one counts once. -/
theorem countValues_setEach (p : ν → Bool) (d : Dict κ ν) (binds : List (κ × ν))
    (hp : ∀ e ∈ binds, p e.2 = true) (hnew : ∀ e ∈ binds, d.get? e.1 = none) :
    (d.setEach binds).countValues p =
      d.countValues p + (binds.map Prod.fst).toFinset.card := by
  -- from the right: the last key is bound exactly when it is among the ones before it
  induction binds using List.reverseRecOn with
  | nil => simp [setEach]
  | append_singleton binds e ih =>
      rw [List.forall_mem_append] at hp hnew
      have hrest := ih hp.1 hnew.1
      have hset := (d.setEach binds).countValues_set p e.1 e.2
      rw [any_get?_setEach p d binds hp.1 (hnew.2 e List.mem_cons_self),
        hp.2 e List.mem_cons_self, hrest] at hset
      rw [setEach_concat, List.map_append, List.map_singleton]
      have hinsert : (binds.map Prod.fst ++ [e.1]).toFinset =
          insert e.1 (binds.map Prod.fst).toFinset := by
        ext k
        simp
      rw [hinsert]
      by_cases hmem : e.1 ∈ binds.map Prod.fst
      · rw [Finset.insert_eq_of_mem (List.mem_toFinset.mpr hmem)]
        simp only [hmem, decide_true, Bool.toNat_true] at hset
        omega
      · rw [Finset.card_insert_of_notMem (mt List.mem_toFinset.mp hmem)]
        simp only [hmem, decide_false, Bool.toNat_false, Bool.toNat_true] at hset
        omega

theorem size_setEach (d : Dict κ ν) (binds : List (κ × ν))
    (hnew : ∀ e ∈ binds, d.get? e.1 = none) :
    (d.setEach binds).size =
      d.size + (binds.map Prod.fst).toFinset.card := by
  rw [← countValues_true, ← countValues_true]
  exact countValues_setEach _ d binds (fun _ _ => rfl) hnew

end Dict

end Lib
