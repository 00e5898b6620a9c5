import Mathlib.Data.Finset.Card
import Mathlib.Data.Finset.Dedup
import Mathlib.Data.List.Dedup
import Mathlib.Data.List.DropRight
import Mathlib.Data.List.Induction
import Mathlib.Tactic.Common

/-!
# Recency order

Keys that are touched one after another have a recency order, their distinct keys in the order
of the last touches, which is what `dedup` leaves. A buffer that moves the touched key to its
end and drops its oldest key when it is full holds the last keys of that order. A set that only
takes new keys while it has room holds the first ones instead.
-/

namespace Lib.Recency

universe u

variable {κ : Type u} [DecidableEq κ]

/-! ## The last keys -/

/-- One touch of a buffer of at most `n` keys, oldest first. -/
def touch (n : Nat) (buffer : List κ) (key : κ) : List κ :=
  if key ∈ buffer then buffer.erase key ++ [key]
  else if buffer.length ≥ n then buffer.tail ++ [key]
  else buffer ++ [key]

theorem dedup_concat (touches : List κ) (key : κ) :
    (touches ++ [key]).dedup = touches.dedup.erase key ++ [key] := by
  induction touches with
  | nil => simp
  | cons k touches ih =>
      by_cases hmem : k ∈ touches
      · rw [List.cons_append, List.dedup_cons_of_mem (List.mem_append_left _ hmem), ih,
          List.dedup_cons_of_mem hmem]
      · by_cases hk : k = key
        · subst hk
          rw [List.cons_append, List.dedup_cons_of_mem (by simp), ih,
            List.dedup_cons_of_notMem hmem, List.erase_cons_head, List.erase_of_not_mem]
          simpa using hmem
        · rw [List.cons_append, List.dedup_cons_of_notMem (by simp [hmem, hk]), ih,
            List.dedup_cons_of_notMem hmem, List.erase_cons_tail (by simpa using hk),
            List.cons_append]

omit [DecidableEq κ] in
theorem rtake_append_of_length {n : Nat} (older : List κ) {newer : List κ}
    (h : newer.length = n) : (older ++ newer).rtake n = newer := by
  simp [List.rtake, h]

omit [DecidableEq κ] in
theorem rtake_of_length_le {n : Nat} {keys : List κ} (h : keys.length ≤ n) :
    keys.rtake n = keys := by
  simp [List.rtake, Nat.sub_eq_zero_of_le h]

omit [DecidableEq κ] in
theorem exists_older (n : Nat) (keys : List κ) :
    ∃ older, keys = older ++ keys.rtake n ∧
      (older = [] ∧ keys.length ≤ n ∨ (keys.rtake n).length = n) := by
  refine ⟨keys.take (keys.length - n), (List.take_append_drop _ _).symm, ?_⟩
  by_cases hle : keys.length ≤ n
  · exact Or.inl ⟨by simp [Nat.sub_eq_zero_of_le hle], hle⟩
  · refine Or.inr ?_
    rw [List.rtake, List.length_drop]
    omega

/-- A touch of the last `n + 1` keys gives the last `n + 1` keys. -/
theorem touch_rtake (n : Nat) (touches : List κ) (key : κ) :
    touch (n + 1) (touches.dedup.rtake (n + 1)) key =
      (touches ++ [key]).dedup.rtake (n + 1) := by
  rw [dedup_concat, List.rtake_concat_succ]
  have hnodup := touches.nodup_dedup
  obtain ⟨older, hsplit, hcases⟩ := exists_older (n + 1) touches.dedup
  generalize touches.dedup.rtake (n + 1) = newer at hsplit hcases
  rw [hsplit] at hnodup hcases ⊢
  rw [List.nodup_append] at hnodup
  unfold touch
  by_cases hmem : key ∈ newer
  · -- a staged key moves to the end
    have hnew : key ∉ older := fun hold => hnodup.2.2 key hold key hmem rfl
    have herase : (newer.erase key).length = newer.length - 1 := List.length_erase_of_mem hmem
    rw [if_pos hmem, List.erase_append_right _ hnew]
    cases hcases with
    | inl hall =>
        rw [hall.1, List.nil_append, rtake_of_length_le]
        have hle := hall.2
        rw [List.length_append] at hle
        omega
    | inr hfull => rw [rtake_append_of_length _ (by omega)]
  · rw [if_neg hmem]
    cases hcases with
    | inl hall =>
        -- nothing has been dropped so far
        have hle := hall.2
        rw [hall.1, List.nil_append] at hle ⊢
        rw [List.erase_of_not_mem hmem]
        by_cases hroom : newer.length ≥ n + 1
        · rw [if_pos hroom]
          have hlen : newer.length = n + 1 := by omega
          cases newer with
          | nil => simp at hlen
          | cons k newer =>
              rw [← List.singleton_append, rtake_append_of_length [k] (by simpa using hlen)]
              rfl
        · rw [if_neg hroom, rtake_of_length_le (by omega)]
    | inr hfull =>
        rw [if_pos (Nat.le_of_eq hfull.symm)]
        cases newer with
        | nil => simp at hfull
        | cons k newer =>
            have hlen : newer.length = n := by simpa using hfull
            have herase : ∃ rest, (older ++ k :: newer).erase key = rest ++ newer := by
              by_cases hold : key ∈ older
              · exact ⟨older.erase key ++ [k], by simp [List.erase_append_left _ hold]⟩
              · exact ⟨older ++ [k], by
                  simp [List.erase_append_right _ hold, List.erase_of_not_mem hmem]⟩
            obtain ⟨rest, hrest⟩ := herase
            rw [hrest, rtake_append_of_length _ hlen]
            rfl

theorem foldl_touch {n : Nat} (hn : 0 < n) (before touches : List κ) :
    touches.foldl (touch n) (before.dedup.rtake n) = (before ++ touches).dedup.rtake n := by
  obtain ⟨m, rfl⟩ : ∃ m, n = m + 1 := ⟨n - 1, by omega⟩
  induction touches generalizing before with
  | nil => simp
  | cons key touches ih =>
      rw [List.foldl_cons, touch_rtake, ih, List.append_assoc, List.singleton_append]

/-- What was touched last is held, if it fits. -/
theorem mem_rtake_of_recent {n : Nat} (older : List κ) {recent : List κ}
    (hfits : recent.length ≤ n) {key : κ} (hkey : key ∈ recent) :
    key ∈ (older ++ recent).dedup.rtake n := by
  have hrecent : recent.dedup.length ≤ n := (List.dedup_sublist recent).length_le.trans hfits
  obtain ⟨front, hsplit⟩ := List.suffix_union_right older recent.dedup
  rw [List.dedup_append, ← hsplit, List.rtake, List.drop_append, List.mem_append]
  right
  rw [List.length_append, Nat.sub_eq_zero_of_le (by omega), List.drop_zero]
  exact List.mem_dedup.mpr hkey

/-! ## The first keys -/

def firstOccurrences (keys : List κ) : List κ :=
  keys.foldl (fun seen key => if key ∈ seen then seen else seen ++ [key]) []

theorem firstOccurrences_concat (keys : List κ) (key : κ) :
    firstOccurrences (keys ++ [key]) =
      if key ∈ firstOccurrences keys then firstOccurrences keys
      else firstOccurrences keys ++ [key] := by
  rw [firstOccurrences, List.foldl_append]
  rfl

theorem mem_firstOccurrences {keys : List κ} {key : κ} :
    key ∈ firstOccurrences keys ↔ key ∈ keys := by
  induction keys using List.reverseRecOn with
  | nil => simp [firstOccurrences]
  | append_singleton keys last ih =>
      rw [firstOccurrences_concat, List.mem_append, List.mem_singleton, ← ih]
      split
      · rename_i hseen
        exact ⟨Or.inl, fun h => h.elim id fun heq => heq ▸ hseen⟩
      · rw [List.mem_append, List.mem_singleton]

theorem nodup_firstOccurrences (keys : List κ) : (firstOccurrences keys).Nodup := by
  induction keys using List.reverseRecOn with
  | nil => simp [firstOccurrences]
  | append_singleton keys key ih =>
      rw [firstOccurrences_concat]
      split
      · exact ih
      · rename_i hnew
        simpa [List.nodup_append] using ⟨ih, fun a ha heq => hnew (heq ▸ ha)⟩

/-- What a set of at most `n` keys that never drops one has taken. -/
def firstKeys (n : Nat) (keys : List κ) : Finset κ := ((firstOccurrences keys).take n).toFinset

theorem card_firstKeys (n : Nat) (keys : List κ) :
    (firstKeys n keys).card = min n (firstOccurrences keys).length := by
  have hnodup := (List.take_sublist n (firstOccurrences keys)).nodup (nodup_firstOccurrences keys)
  rw [firstKeys, List.toFinset_card_of_nodup hnodup, List.length_take]

theorem firstKeys_concat (n : Nat) (keys : List κ) (key : κ) :
    firstKeys n (keys ++ [key]) =
      if (firstKeys n keys).card < n then insert key (firstKeys n keys) else firstKeys n keys := by
  rw [card_firstKeys]
  by_cases hroom : (firstOccurrences keys).length < n
  · have hall : (firstOccurrences keys).take n = firstOccurrences keys :=
      List.take_of_length_le (Nat.le_of_lt hroom)
    rw [if_pos (by omega), firstKeys, firstKeys, firstOccurrences_concat, hall]
    split
    · rename_i hmem
      rw [hall, Finset.insert_eq_of_mem (List.mem_toFinset.mpr hmem)]
    · rw [List.take_of_length_le (by rw [List.length_append, List.length_singleton]; omega)]
      ext k
      simp
  · have hfull : n ≤ (firstOccurrences keys).length := Nat.le_of_not_lt hroom
    rw [if_neg (by omega), firstKeys, firstKeys, firstOccurrences_concat]
    split
    · rfl
    · rw [List.take_append_of_le_length hfull]

end Lib.Recency
