import AiSsd.NativeKernel.PlainFilter

/-!
# Places that keep the sentinel

A place of the answer that no block has taken holds index -1, and Python looks -1 up as the
last entry. So the answer names the best blocks when all places are taken, and also when one
place is left and the best of the blocks that did not exceed the sentinel is the last.
-/

namespace AiSsd.NativeKernel

open Lib
open Nvme (FloatOps)

variable {α : Type} [LinearOrder α] (fl : FloatOps α)

def above (scores : List α) : Nat := scores.countP fun s => decide (fl.minScore < s)

def LastIsBest (scores : List α) : Prop :=
  ∃ front last, scores = front ++ [last] ∧ last ≤ fl.minScore ∧
    ∀ s ∈ front, s ≤ fl.minScore → s < last

/-- Looking the indices up names the best blocks. -/
def NamesBest (k : Nat) (scores : List α) : Prop :=
  k ≤ above fl scores ∨ k = above fl scores + 1 ∧ LastIsBest fl scores

variable {fl}

/-- What exceeds the sentinel and what does not, each in order, with their places. -/
def upper (fl : FloatOps α) (scores : List α) : List (α × Int) :=
  descending Prod.fst ((indexed scores).filter fun p => decide (fl.minScore < p.1))

def lower (fl : FloatOps α) (scores : List α) : List (α × Int) :=
  descending Prod.fst ((indexed scores).filter fun p => !decide (fl.minScore < p.1))

theorem length_upper (scores : List α) : (upper fl scores).length = above fl scores := by
  rw [upper, (descending_perm _ _).length_eq, ← List.countP_eq_length_filter,
    countP_indexed (fun s => decide (fl.minScore < s)), above]

theorem length_lower (scores : List α) :
    (lower fl scores).length = scores.length - above fl scores := by
  have hsplit := @List.length_eq_length_filter_add _ (indexed scores)
    fun p => decide (fl.minScore < p.1)
  have hupper := countP_indexed (fun s => decide (fl.minScore < s)) scores
  rw [List.countP_eq_length_filter] at hupper
  rw [hupper, indexed, List.length_map, List.length_zipIdx, ← indexed] at hsplit
  rw [lower, (descending_perm _ _).length_eq, above]
  omega

theorem foldl_offer_left (hlt : ∀ a b, fl.lt a b = decide (a < b)) {scores : List α} {k : Nat}
    (hleft : above fl scores ≤ k) :
    (indexed (scores.map (max fl.minScore))).foldl (offer fl.lt Prod.fst)
        (List.replicate k (fl.minScore, (-1 : Int))) =
      upper fl scores ++ List.replicate (k - above fl scores) (fl.minScore, -1) := by
  rw [lt_eq hlt, foldl_offer_sorted, filter_indexed_cut, List.take_append]
  change (upper fl scores).take k ++
    (List.replicate k _).take (k - (upper fl scores).length) = _
  rw [length_upper, List.take_of_length_le (by rw [length_upper]; exact hleft),
    List.take_replicate, Nat.min_eq_left (Nat.sub_le _ _)]

/-- The best entries when not all of them exceed the sentinel. -/
theorem topBy_left {scores : List α} {k : Nat} (hleft : above fl scores ≤ k) :
    topBy Prod.fst k (indexed scores) =
      upper fl scores ++ (lower fl scores).take (k - above fl scores) := by
  rw [topBy_eq_take, descending_split fl.minScore, List.take_append]
  change (upper fl scores).take k ++ (lower fl scores).take (k - (upper fl scores).length) = _
  rw [length_upper, List.take_of_length_le (by rw [length_upper]; exact hleft)]

omit [LinearOrder α] in
theorem mem_indexed {scores : List α} {p : α × Int} (h : p ∈ indexed scores) :
    ∃ i, p.2 = (i : Nat) ∧ scores[i]? = some p.1 := by
  obtain ⟨e, he, rfl⟩ := List.mem_map.mp h
  exact ⟨e.2, rfl, List.mem_zipIdx_iff_getElem?.mp he⟩

theorem mem_lower {scores : List α} {p : α × Int} (h : p ∈ lower fl scores) :
    p ∈ indexed scores ∧ p.1 ≤ fl.minScore := by
  have hmem := (descending_perm _ _).mem_iff.mp h
  simpa using hmem

theorem nodup_lower (scores : List α) : ((lower fl scores).map Prod.snd).Nodup := by
  have hindices : ((indexed scores).map Prod.snd).Nodup := by
    rw [indexed_snd]
    exact List.nodup_range.map Nat.cast_injective
  have hsub : (lower fl scores).Perm
      ((indexed scores).filter fun p => !decide (fl.minScore < p.1)) := descending_perm _ _
  rw [(hsub.map Prod.snd).nodup_iff]
  exact (List.filter_sublist.map Prod.snd).nodup hindices

theorem lastIsBest_concat_iff {front : List α} {last : α} :
    LastIsBest fl (front ++ [last]) ↔
      last ≤ fl.minScore ∧ ∀ s ∈ front, s ≤ fl.minScore → s < last := by
  constructor
  · rintro ⟨front', last', heq, hle, hall⟩
    obtain ⟨rfl, hsame⟩ := List.append_inj' heq rfl
    cases hsame
    exact ⟨hle, hall⟩
  · rintro ⟨hle, hall⟩
    exact ⟨front, last, rfl, hle, hall⟩

theorem eq_last_of_mem_lower {front : List α} {last : α} {p : α × Int}
    (hp : p ∈ lower fl (front ++ [last])) (hplace : p.2 = (front.length : Int)) :
    p = (last, (front.length : Int)) := by
  obtain ⟨i, hi, hget⟩ := mem_indexed (mem_lower hp).1
  have hi : i = front.length := by
    rw [hplace] at hi
    exact_mod_cast hi.symm
  rw [hi, List.getElem?_concat_length] at hget
  exact Prod.ext (Option.some.inj hget).symm hplace

/-- What is below the last score, over the lower entries of the others and over their scores. -/
theorem lower_front_lt_iff {front : List α} {last : α} :
    (∀ y ∈ (indexed front).filter fun p => !decide (fl.minScore < p.1), y.1 < last) ↔
      ∀ s ∈ front, s ≤ fl.minScore → s < last := by
  constructor
  · intro h s hs hle
    rw [← indexed_fst front] at hs
    obtain ⟨p, hp, rfl⟩ := List.mem_map.mp hs
    exact h p (List.mem_filter.mpr ⟨hp, by simpa using hle⟩)
  · intro h y hy
    obtain ⟨hmem, hle⟩ := List.mem_filter.mp hy
    refine h y.1 ?_ (by simpa using hle)
    rw [← indexed_fst front]
    exact List.mem_map_of_mem hmem

/-- The best of the lower scores has the last place exactly when the last score is the best. -/
theorem lower_head_iff {front : List α} {last : α} :
    (∃ p rest, lower fl (front ++ [last]) = p :: rest ∧ p.2 = (front.length : Int)) ↔
      LastIsBest fl (front ++ [last]) := by
  have hfresh : (last, (front.length : Int)) ∉
      (indexed front).filter fun p => !decide (fl.minScore < p.1) := by
    intro hmem
    obtain ⟨i, hi, hget⟩ := mem_indexed (List.mem_of_mem_filter hmem)
    obtain ⟨hlt, -⟩ := List.getElem?_eq_some_iff.mp hget
    simp only [Nat.cast_inj] at hi
    omega
  rw [lastIsBest_concat_iff]
  by_cases hle : last ≤ fl.minScore
  · have hlower : lower fl (front ++ [last]) = descending Prod.fst
        ((indexed front).filter (fun p => !decide (fl.minScore < p.1)) ++
          [(last, (front.length : Int))]) := by
      rw [lower, indexed_concat, List.filter_append]
      simp [hle]
    have hhead := @head_descending_concat _ _ _ Prod.fst _ _ hfresh
    rw [lower_front_lt_iff, ← hlower] at hhead
    rw [and_iff_right hle, ← hhead]
    constructor
    · rintro ⟨p, rest, hlist, hplace⟩
      have hmem : p ∈ lower fl (front ++ [last]) := hlist ▸ List.mem_cons_self
      rw [hlist, eq_last_of_mem_lower hmem hplace]
      rfl
    · intro hsome
      cases hlist : lower fl (front ++ [last]) with
      | nil => simp [hlist] at hsome
      | cons p rest =>
          rw [hlist] at hsome
          have hp : p = (last, (front.length : Int)) := by simpa using hsome
          exact ⟨p, rest, rfl, by rw [hp]⟩
  · simp only [hle, false_and, iff_false]
    rintro ⟨p, rest, hlist, hplace⟩
    have hmem : p ∈ lower fl (front ++ [last]) := hlist ▸ List.mem_cons_self
    have hlow := (mem_lower hmem).2
    rw [eq_last_of_mem_lower hmem hplace] at hlow
    exact hle hlow

/-- Entries that all look up the last place are one entry, the best of the lower scores. -/
theorem replicate_eq_lower_iff {δ : Type} {front : List α} {last : α} {f : Int → δ}
    (hlast : f (-1) = f front.length)
    (hinj : ∀ i j : Nat, i ≤ front.length → j ≤ front.length → f i = f j → i = j) {n : Nat}
    (hn : 0 < n) (hlength : n ≤ (lower fl (front ++ [last])).length) :
    List.replicate n (f (-1)) = ((lower fl (front ++ [last])).take n).map (fun p => f p.2) ↔
      n = 1 ∧ LastIsBest fl (front ++ [last]) := by
  have hplace : ∀ p ∈ lower fl (front ++ [last]), ∃ i ≤ front.length, p.2 = (i : Nat) := by
    intro p hp
    obtain ⟨i, hi, hget⟩ := mem_indexed (mem_lower hp).1
    obtain ⟨hbound, -⟩ := List.getElem?_eq_some_iff.mp hget
    rw [List.length_append, List.length_singleton] at hbound
    exact ⟨i, by omega, hi⟩
  have hlook : ∀ p ∈ lower fl (front ++ [last]), f p.2 = f (-1) ↔ p.2 = (front.length : Int) := by
    intro p hp
    obtain ⟨i, hi, hsnd⟩ := hplace p hp
    rw [hsnd, hlast]
    constructor
    · intro h
      rw [hinj i front.length hi (Nat.le_refl _) h]
    · intro h
      rw [h]
  have hnodup := @nodup_lower α _ fl (front ++ [last])
  rw [← lower_head_iff]
  cases hlist : lower fl (front ++ [last]) with
  | nil =>
      rw [hlist] at hlength
      simp only [List.length_nil] at hlength
      omega
  | cons p rest =>
      rw [hlist] at hlook hnodup hlength
      have hp := hlook p List.mem_cons_self
      obtain ⟨n, rfl⟩ := Nat.exists_eq_add_of_lt hn
      rw [Nat.zero_add, List.replicate_succ, List.take_succ_cons, List.map_cons, List.cons.injEq]
      constructor
      · rintro ⟨hfirst, hothers⟩
        have hpSnd := hp.mp hfirst.symm
        have hnil : n = 0 := by
          cases n with
          | zero => rfl
          | succ n =>
              cases rest with
              | nil =>
                  simp only [List.length_cons, List.length_nil] at hlength
                  omega
              | cons q rest =>
                  rw [List.replicate_succ, List.take_succ_cons, List.map_cons,
                    List.cons.injEq] at hothers
                  have hq := (hlook q (by simp)).mp hothers.1.symm
                  rw [List.map_cons, List.map_cons, List.nodup_cons] at hnodup
                  exact absurd (by rw [hpSnd, hq]; exact List.mem_cons_self) hnodup.1
        exact ⟨by omega, p, rest, rfl, hpSnd⟩
      · rintro ⟨hone, p', rest', hcons, hpSnd⟩
        cases hcons
        have hnil : n = 0 := by omega
        subst hnil
        exact ⟨(hp.mpr hpSnd).symm, by simp⟩

/-- Where -1 is looked up as the last place, the kernel's answer names the best blocks exactly
when its places are taken, or one is left and the last block is the next best. -/
theorem names_best_iff (hlt : ∀ a b, fl.lt a b = decide (a < b)) {δ : Type} {f : Int → δ}
    {scores : List α} {k : Nat} (hne : scores ≠ []) (hk : k ≤ scores.length)
    (hlast : f (-1) = f ((scores.length - 1 : Nat) : Int))
    (hinj : ∀ i j : Nat, i < scores.length → j < scores.length → f i = f j → i = j) :
    ((indexed (scores.map (max fl.minScore))).foldl (offer fl.lt Prod.fst)
        (List.replicate k (fl.minScore, (-1 : Int)))).map (fun p => f p.2) =
      (topBy Prod.fst k (indexed scores)).map (fun p => f p.2) ↔ NamesBest fl k scores := by
  obtain ⟨front, last, rfl⟩ := (List.eq_nil_or_concat' scores).resolve_left hne
  rw [List.length_append, List.length_singleton] at hk hlast hinj
  rcases Nat.lt_or_ge (above fl (front ++ [last])) k with hleft | henough
  · have hlower := @length_lower α _ fl (front ++ [last])
    rw [List.length_append, List.length_singleton] at hlower
    have hreplicate := @replicate_eq_lower_iff α _ fl δ front last f (by simpa using hlast)
      (fun i j hi hj => hinj i j (by omega) (by omega)) _ (Nat.sub_pos_of_lt hleft) (by omega)
    rw [foldl_offer_left hlt hleft.le, topBy_left hleft.le, List.map_append, List.map_append,
      List.append_cancel_left_eq, List.map_replicate, hreplicate, NamesBest]
    have hnot : ¬ k ≤ above fl (front ++ [last]) := Nat.not_le_of_lt hleft
    have hone : k - above fl (front ++ [last]) = 1 ↔ k = above fl (front ++ [last]) + 1 := by omega
    rw [hone, or_iff_right hnot]
  · rw [foldl_offer_enough hlt henough]
    exact iff_of_true rfl (.inl henough)

end AiSsd.NativeKernel
