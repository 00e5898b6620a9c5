import AiSsd.Lib.TopK
import Mathlib.Data.List.DropRight
import Mathlib.Order.WithBot

/-!
# Keeping the best in place

A list of fixed length is offered items one after the other. An item better than the last one
goes in behind those that are not worse: the ones after it move back by one and the last one
falls out. Started from copies of a sentinel, the list ends as the stable descending sort of
what beats the sentinel, cut to its length and filled up with sentinels.
-/

namespace Lib

open scoped List

universe u v w

variable {β : Type u} {δ : Type w}

/-! ## The loops -/

/-- `while (pos > 0 && worse(items[pos - 1])) pos--;`. -/
def insertPos (worse : β → Bool) (items : List β) : (pos : Nat) → Nat
  | 0 => 0
  | pos + 1 => if (items[pos]?).any worse then insertPos worse items pos else pos + 1

/-- `for (; j > pos; j--) items[j] = items[j - 1];`. -/
def shiftDown (pos : Nat) : (j : Nat) → List β → List β
  | 0, items => items
  | j + 1, items =>
      if pos < j + 1 then shiftDown pos j ((items[j]?).elim items (items.set (j + 1))) else items

/-- Make room at `pos` and put the new item there. -/
def insertAt (pos : Nat) (new : β) (items : List β) : List β :=
  (shiftDown pos (items.length - 1) items).set pos new

def offer (worse : δ → δ → Bool) (key : β → δ) (items : List β) (new : β) : List β :=
  if (items.getLast?).any fun last => worse (key last) (key new) then
    insertAt (insertPos (fun x => worse (key x) (key new)) items (items.length - 1)) new items
  else items

theorem length_rdropWhile_le (p : β → Bool) (items : List β) :
    (items.rdropWhile p).length ≤ items.length := by
  have hfront := List.rdropWhile_prefix p items
  exact hfront.length_le

theorem insertPos_eq (worse : β → Bool) {items : List β} {pos : Nat} (hpos : pos ≤ items.length) :
    insertPos worse items pos = ((items.take pos).rdropWhile worse).length := by
  induction pos with
  | zero => rfl
  | succ pos ih =>
      have hlt : pos < items.length := hpos
      rw [insertPos, List.take_add_one, List.getElem?_eq_getElem hlt, Option.toList_some,
        List.rdropWhile_concat, Option.any_some, ih (Nat.le_of_lt hlt)]
      split
      · rfl
      · simpa using hpos

theorem length_shiftDown (pos j : Nat) (items : List β) :
    (shiftDown pos j items).length = items.length := by
  induction j generalizing items with
  | zero => rfl
  | succ j ih =>
      rw [shiftDown]
      split
      · rw [ih]
        cases items[j]? <;> simp
      · rfl

/-- The items behind `pos` up to `j` are those one place before. -/
theorem getElem?_shiftDown {pos j : Nat} {items : List β} (hj : j < items.length) (i : Nat) :
    (shiftDown pos j items)[i]? = if pos < i ∧ i ≤ j then items[i - 1]? else items[i]? := by
  induction j generalizing items with
  | zero =>
      rw [shiftDown, if_neg (by omega)]
  | succ j ih =>
      have hlt : j < items.length := Nat.lt_of_succ_lt hj
      rw [shiftDown]
      split
      · rename_i hpos
        rw [List.getElem?_eq_getElem hlt, Option.elim_some, ih (by simpa using hlt)]
        rcases Nat.lt_trichotomy i (j + 1) with hi | rfl | hi
        · rw [List.getElem?_set_ne (by omega), List.getElem?_set_ne (by omega)]
          by_cases hin : pos < i
          · rw [if_pos ⟨hin, Nat.le_of_lt_succ hi⟩, if_pos ⟨hin, Nat.le_of_lt hi⟩]
          · rw [if_neg (fun h => hin h.1), if_neg (fun h => hin h.1)]
        · rw [if_neg (by omega), if_pos ⟨hpos, Nat.le_refl _⟩, List.getElem?_set_self hj,
            Nat.add_sub_cancel, List.getElem?_eq_getElem hlt]
        · rw [if_neg (by omega), if_neg (by omega), List.getElem?_set_ne (by omega)]
      · rename_i hpos
        rw [if_neg (by omega)]

theorem insertAt_eq {pos : Nat} {items : List β} (hpos : pos < items.length) (new : β) :
    insertAt pos new items = items.take pos ++ new :: (items.drop pos).dropLast := by
  apply List.ext_getElem?
  intro i
  have hlast : items.length - 1 < items.length := by omega
  have hset : (insertAt pos new items)[i]? =
      if pos = i then some new else (shiftDown pos (items.length - 1) items)[i]? := by
    rw [insertAt, List.getElem?_set, length_shiftDown]
    simp [hpos]
  rw [hset, getElem?_shiftDown hlast, List.getElem?_append, List.length_take,
    Nat.min_eq_left (Nat.le_of_lt hpos)]
  rcases Nat.lt_trichotomy i pos with hi | rfl | hi
  · rw [if_neg (by omega), if_neg (by omega), if_pos hi, List.getElem?_take, if_pos hi]
  · simp
  · obtain ⟨m, rfl⟩ := Nat.exists_eq_add_of_lt hi
    have hsub : pos + m + 1 - pos = m + 1 := by omega
    rw [if_neg (by omega), if_neg (by omega : ¬ pos + m + 1 < pos), hsub,
      List.getElem?_cons_succ, List.getElem?_dropLast, List.getElem?_drop, List.length_drop]
    by_cases hin : pos + m + 1 ≤ items.length - 1
    · rw [if_pos ⟨hi, hin⟩, if_pos (by omega)]
      rfl
    · rw [if_neg (by omega), if_neg (by omega), List.getElem?_eq_none (by omega)]

theorem map_insertAt (f : β → δ) {pos : Nat} {items : List β} (hpos : pos < items.length)
    (new : β) : (insertAt pos new items).map f = insertAt pos (f new) (items.map f) := by
  rw [insertAt_eq hpos, insertAt_eq (by simpa using hpos)]
  simp [List.map_take, List.map_drop, List.map_dropLast]

theorem insertPos_map (worse : δ → Bool) (f : β → δ) (items : List β) (pos : Nat) :
    insertPos worse (items.map f) pos = insertPos (worse ∘ f) items pos := by
  induction pos with
  | zero => rfl
  | succ pos ih =>
      rw [insertPos, insertPos, ih, List.getElem?_map, Option.any_map]
      rfl

/-- Behind the last item that is not worse, the worse ones move back and the last is lost. -/
theorem insertAt_insertPos (worse : β → Bool) (front : List β) (last new : β) :
    insertAt (insertPos worse (front ++ [last]) front.length) new (front ++ [last]) =
      front.rdropWhile worse ++ new :: front.rtakeWhile worse := by
  have hpos : insertPos worse (front ++ [last]) front.length =
      (front.rdropWhile worse).length := by
    rw [insertPos_eq worse (by simp), List.take_left]
  have hsplit : front ++ [last] =
      front.rdropWhile worse ++ (front.rtakeWhile worse ++ [last]) := by
    rw [← List.append_assoc, List.rdropWhile_append_rtakeWhile]
  have hlt : (front.rdropWhile worse).length < (front ++ [last]).length := by
    rw [List.length_append, List.length_singleton]
    exact Nat.lt_succ_of_le (length_rdropWhile_le worse front)
  rw [hpos, insertAt_eq hlt, hsplit, List.take_left, List.drop_left, List.dropLast_concat]

/-- An offer puts the new item before the worse ones at the end, and drops the last. -/
theorem offer_eq (worse : δ → δ → Bool) (key : β → δ) (items : List β) (new : β) :
    offer worse key items new =
      (items.rdropWhile (fun x => worse (key x) (key new)) ++
        new :: items.rtakeWhile fun x => worse (key x) (key new)).dropLast := by
  unfold offer
  generalize hw : (fun x => worse (key x) (key new)) = w
  have hwx : ∀ x, worse (key x) (key new) = w x := fun x => congrFun hw x
  rcases List.eq_nil_or_concat' items with rfl | ⟨front, last, rfl⟩
  · rfl
  · rw [List.getLast?_concat, Option.any_some]
    by_cases hlast : w last = true
    · rw [if_pos hlast, List.length_append, List.length_singleton, Nat.add_sub_cancel,
        insertAt_insertPos, List.rdropWhile_concat_pos _ _ _ hlast,
        List.rtakeWhile_concat_pos _ _ _ hlast, ← List.cons_append, ← List.append_assoc,
        List.dropLast_concat]
    · rw [if_neg hlast, List.rdropWhile_concat_neg _ _ _ hlast,
        List.rtakeWhile_concat_neg _ _ _ hlast, List.dropLast_concat]

@[simp] theorem length_offer (worse : δ → δ → Bool) (key : β → δ) (items : List β) (new : β) :
    (offer worse key items new).length = items.length := by
  have hsplit := congrArg List.length
    (@List.rdropWhile_append_rtakeWhile _ (fun x => worse (key x) (key new)) items)
  rw [List.length_append] at hsplit
  rw [offer_eq, List.length_dropLast, List.length_append, List.length_cons]
  omega

@[simp] theorem length_foldl_offer (worse : δ → δ → Bool) (key : β → δ) (items xs : List β) :
    (xs.foldl (offer worse key) items).length = items.length := by
  induction xs generalizing items with
  | nil => rfl
  | cons x xs ih => rw [List.foldl_cons, ih, length_offer]

/-! ## What fills the list -/

theorem offer_of_not_worse {worse : δ → δ → Bool} {key : β → δ} {front : List β} {last new : β}
    (h : worse (key last) (key new) = false) :
    offer worse key (front ++ [last]) new = front ++ [last] := by
  unfold offer
  rw [List.getLast?_concat, Option.any_some, h]
  rfl

/-- A better item takes the place of the first sentinel, or one before. -/
theorem offer_replicate {worse : δ → δ → Bool} {key : β → δ} {sentinel new : β}
    (h : worse (key sentinel) (key new) = true) (items : List β) (n : Nat) :
    offer worse key (items ++ List.replicate (n + 1) sentinel) new =
      (items.rdropWhile (fun x => worse (key x) (key new)) ++
        new :: items.rtakeWhile fun x => worse (key x) (key new)) ++
          List.replicate n sentinel := by
  have hworse : ∀ x ∈ List.replicate (n + 1) sentinel, worse (key x) (key new) = true := by
    intro x hx
    rw [List.eq_of_mem_replicate hx]
    exact h
  rw [offer_eq, List.rdropWhile, List.rtakeWhile, List.reverse_append, List.reverse_replicate,
    List.dropWhile_append_of_pos hworse, List.takeWhile_append_of_pos hworse,
    List.reverse_append, List.reverse_replicate, List.replicate_succ', ← List.append_assoc,
    ← List.cons_append, ← List.append_assoc, List.dropLast_concat]
  rw [List.append_assoc]
  rfl

theorem perm_around (p : β → Bool) (items : List β) (new : β) :
    (items.rdropWhile p ++ new :: items.rtakeWhile p).Perm (items ++ [new]) := by
  have hsplit : items = items.rdropWhile p ++ items.rtakeWhile p :=
    List.rdropWhile_append_rtakeWhile.symm
  conv_rhs => rw [hsplit]
  exact List.perm_middle.trans (List.perm_append_singleton new _).symm

theorem nodup_map_of_subperm {f : β → δ} {xs ys : List β} (h : ys <+~ xs)
    (hnodup : (xs.map f).Nodup) : (ys.map f).Nodup := by
  obtain ⟨zs, hperm, hsub⟩ := h
  exact (hperm.map f).nodup_iff.mp ((hsub.map f).nodup hnodup)

/-- Whatever the comparison, the list ends as offered items followed by sentinels, one for
each place that no item beating the sentinel has taken. -/
theorem foldl_offer_fills (worse : δ → δ → Bool) (key : β → δ) (sentinel : β) (n : Nat)
    (xs : List β) :
    ∃ ys, xs.foldl (offer worse key) (List.replicate n sentinel) =
        ys ++ List.replicate (n - xs.countP fun x => worse (key sentinel) (key x)) sentinel ∧
      ys.length = min n (xs.countP fun x => worse (key sentinel) (key x)) ∧ ys <+~ xs := by
  induction xs using List.reverseRecOn with
  | nil => exact ⟨[], by simp, by simp, List.nil_subperm⟩
  | append_singleton xs x ih =>
      obtain ⟨ys, hlist, hlength, hsub⟩ := ih
      rw [List.foldl_concat, hlist, List.countP_append, List.countP_singleton]
      generalize xs.countP (fun x => worse (key sentinel) (key x)) = beat at hlength ⊢
      have hkeep : ys <+~ xs ++ [x] := hsub.trans (List.sublist_append_left xs [x]).subperm
      cases hfree : n - beat with
      | zero =>
          rw [List.replicate_zero, List.append_nil]
          refine ⟨offer worse key ys x, ?_, ?_, ?_⟩
          · rw [show n - (beat + _) = 0 by omega, List.replicate_zero, List.append_nil]
          · rw [length_offer]
            omega
          · rw [offer_eq]
            exact (List.dropLast_sublist _).subperm.trans
              ((perm_around _ ys x).subperm.trans ((List.subperm_append_right [x]).mpr hsub))
      | succ free =>
          by_cases hbeats : worse (key sentinel) (key x) = true
          · refine ⟨_, ?_, ?_, (perm_around (fun y => worse (key y) (key x)) ys x).subperm.trans
              ((List.subperm_append_right [x]).mpr hsub)⟩
            · rw [offer_replicate hbeats, if_pos hbeats]
              congr 2
              omega
            · rw [(perm_around _ ys x).length_eq, List.length_append, List.length_singleton,
                if_pos hbeats]
              omega
          · refine ⟨ys, ?_, ?_, hkeep⟩
            · rw [List.replicate_succ', ← List.append_assoc,
                offer_of_not_worse (Bool.eq_false_of_not_eq_true hbeats), if_neg hbeats,
                Nat.add_zero, hfree, List.replicate_succ', List.append_assoc]
            · rw [if_neg hbeats]
              omega

/-! ## The best in order -/

section Sorted

variable {γ : Type v} [LinearOrder γ] {key : β → γ}

/-- The list in descending order of the key, ties in their old order. -/
def descending (key : β → γ) (xs : List β) : List β :=
  xs.insertionSort fun a b => key b ≤ key a

theorem topBy_eq_take (n : Nat) (xs : List β) : topBy key n xs = (descending key xs).take n := rfl

theorem topBy_min_length (n : Nat) (xs : List β) :
    topBy key (min n xs.length) xs = topBy key n xs := by
  have hle : (descending key xs).length ≤ xs.length :=
    (List.perm_insertionSort _ xs).length_eq.le
  rw [topBy_eq_take, topBy_eq_take, ← List.take_take, List.take_of_length_le hle]

/-- The best of renamed items are the renamed best. -/
theorem topBy_map {key' : δ → γ} (f : β → δ) (h : ∀ x, key' (f x) = key x) (n : Nat)
    (xs : List β) : topBy key' n (xs.map f) = (topBy key n xs).map f := by
  unfold topBy
  rw [List.map_take, List.map_insertionSort (fun a b => key b ≤ key a)
    (fun a b => key' b ≤ key' a) f xs fun a _ b _ => by rw [h, h]]

theorem descending_perm (key : β → γ) (xs : List β) : (descending key xs).Perm xs :=
  List.perm_insertionSort _ xs

theorem descending_pairwise (key : β → γ) (xs : List β) :
    (descending key xs).Pairwise fun a b => key b ≤ key a := by
  have htotal : Std.Total fun a b : β => key b ≤ key a := ⟨fun a b => le_total (key b) (key a)⟩
  have htrans : IsTrans β fun a b => key b ≤ key a := ⟨fun _ _ _ hab hbc => le_trans hbc hab⟩
  exact List.pairwise_insertionSort _ xs

def insertAfter (key : β → γ) (x : β) : List β → List β
  | [] => [x]
  | y :: ys => if key x ≤ key y then y :: insertAfter key x ys else x :: y :: ys

theorem length_insertAfter (x : β) (ys : List β) :
    (insertAfter key x ys).length = ys.length + 1 := by
  induction ys with
  | nil => rfl
  | cons y ys ih =>
      rw [insertAfter]
      split
      · rw [List.length_cons, ih, List.length_cons]
      · rfl

theorem insertAfter_of_le {x : β} {ys : List β} (h : ∀ y ∈ ys, key x ≤ key y) :
    insertAfter key x ys = ys ++ [x] := by
  induction ys with
  | nil => rfl
  | cons y ys ih =>
      rw [List.forall_mem_cons] at h
      rw [insertAfter, if_pos h.1, ih h.2, List.cons_append]

theorem insertAfter_append {x : β} (ys : List β) {zs : List β} (h : ∀ z ∈ zs, key z < key x) :
    insertAfter key x (ys ++ zs) = insertAfter key x ys ++ zs := by
  induction ys with
  | nil =>
      cases zs with
      | nil => rfl
      | cons z zs => exact if_neg (not_le_of_gt (h z List.mem_cons_self))
  | cons y ys ih =>
      rw [List.cons_append, insertAfter, insertAfter, ih]
      split <;> rfl

theorem take_insertAfter (x : β) (ys : List β) (n : Nat) :
    (insertAfter key x (ys.take n)).take n = (insertAfter key x ys).take n := by
  induction ys generalizing n with
  | nil => rw [List.take_nil]
  | cons y ys ih =>
      cases n with
      | zero => rfl
      | succ n =>
          rw [List.take_succ_cons, insertAfter, insertAfter]
          split
          · rw [List.take_succ_cons, List.take_succ_cons, ih]
          · rw [List.take_succ_cons, List.take_succ_cons]
            congr 1
            cases n with
            | zero => rfl
            | succ n => rw [List.take_succ_cons, List.take_succ_cons, List.take_take]; simp

/-- Inserting first and inserting last do not disturb each other. -/
theorem orderedInsert_insertAfter (a x : β) (ys : List β) :
    (insertAfter key x ys).orderedInsert (fun a b => key b ≤ key a) a =
      insertAfter key x (ys.orderedInsert (fun a b => key b ≤ key a) a) := by
  induction ys with
  | nil =>
      rw [insertAfter, List.orderedInsert_cons, List.orderedInsert_nil]
      rfl
  | cons y ys ih =>
      rw [insertAfter, List.orderedInsert_cons]
      by_cases hxy : key x ≤ key y
      · rw [if_pos hxy, List.orderedInsert_cons]
        by_cases hya : key y ≤ key a
        · rw [if_pos hya, if_pos hya, insertAfter, if_pos (hxy.trans hya), insertAfter,
            if_pos hxy]
        · rw [if_neg hya, if_neg hya, ih, insertAfter, if_pos hxy]
      · have hyx : key y < key x := lt_of_not_ge hxy
        rw [if_neg hxy, List.orderedInsert_cons, List.orderedInsert_cons]
        by_cases hya : key y ≤ key a
        · rw [if_pos hya, insertAfter]
          split
          · rw [insertAfter, if_neg hxy]
          · rfl
        · have hax : ¬ key x ≤ key a := fun h => hya (hyx.le.trans h)
          rw [if_neg hya, if_neg hax, insertAfter, if_neg hxy]

/-- The stable sort takes in a new last element behind its equals. -/
theorem descending_concat (xs : List β) (x : β) :
    descending key (xs ++ [x]) = insertAfter key x (descending key xs) := by
  induction xs with
  | nil => rfl
  | cons y ys ih =>
      unfold descending at ih ⊢
      rw [List.cons_append, List.insertionSort_cons, ih, orderedInsert_insertAfter,
        List.insertionSort_cons]

/-- The last element comes first when all others are worse, and only then. -/
theorem head_descending_concat {xs : List β} {x : β} (hx : x ∉ xs) :
    (descending key (xs ++ [x])).head? = some x ↔ ∀ y ∈ xs, key y < key x := by
  have hperm := descending_perm key xs
  have hsorted := descending_pairwise key xs
  rw [descending_concat]
  cases hys : descending key xs with
  | nil =>
      rw [hys] at hperm
      simp [insertAfter, hperm.nil_eq.symm]
  | cons y ys =>
      rw [hys] at hperm hsorted
      have hall : (∀ z ∈ xs, key z < key x) ↔ key y < key x := by
        constructor
        · intro h
          exact h y (hperm.mem_iff.mp List.mem_cons_self)
        · intro h z hz
          cases List.mem_cons.mp (hperm.mem_iff.mpr hz) with
          | inl hzy => rwa [hzy]
          | inr hz => exact ((List.pairwise_cons.mp hsorted).1 z hz).trans_lt h
      have hne : y ≠ x := fun h => hx (hperm.mem_iff.mp (h ▸ List.mem_cons_self))
      rw [hall, insertAfter]
      split
      · next hle => simp [hne, not_lt.mpr hle]
      · next hlt => simp [not_le.mp hlt]

theorem descending_split (bound : γ) (xs : List β) :
    descending key xs = descending key (xs.filter fun x => decide (bound < key x)) ++
      descending key (xs.filter fun x => !decide (bound < key x)) := by
  have hfirst : ∀ (x : β) (ys zs : List β), (∀ z ∈ zs, key z ≤ key x) →
      (ys ++ zs).orderedInsert (fun a b => key b ≤ key a) x =
        ys.orderedInsert (fun a b => key b ≤ key a) x ++ zs := by
    intro x ys zs hzs
    induction ys with
    | nil =>
        cases zs with
        | nil => rfl
        | cons z zs => exact if_pos (hzs z List.mem_cons_self)
    | cons y ys ih =>
        rw [List.cons_append, List.orderedInsert_cons, List.orderedInsert_cons, ih]
        split <;> rfl
  have hlast : ∀ (x : β) (ys zs : List β), (∀ y ∈ ys, key x < key y) →
      (ys ++ zs).orderedInsert (fun a b => key b ≤ key a) x =
        ys ++ zs.orderedInsert (fun a b => key b ≤ key a) x := by
    intro x ys zs hys
    induction ys with
    | nil => rfl
    | cons y ys ih =>
        rw [List.forall_mem_cons] at hys
        rw [List.cons_append, List.orderedInsert_cons, if_neg (not_le_of_gt hys.1), ih hys.2,
          List.cons_append]
  unfold descending
  induction xs with
  | nil => rfl
  | cons x xs ih =>
      rw [List.insertionSort_cons, ih]
      by_cases hx : bound < key x
      · rw [List.filter_cons_of_pos (by simpa using hx), List.filter_cons_of_neg (by simpa using hx),
          List.insertionSort_cons]
        refine hfirst x _ _ fun z hz => ?_
        rw [List.mem_insertionSort, List.mem_filter] at hz
        have hz : key z ≤ bound := by simpa using hz.2
        exact hz.trans hx.le
      · rw [List.filter_cons_of_neg (by simpa using hx), List.filter_cons_of_pos (by simpa using hx),
          List.insertionSort_cons]
        refine hlast x _ _ fun y hy => ?_
        rw [List.mem_insertionSort, List.mem_filter] at hy
        exact (not_lt.mp hx).trans_lt (of_decide_eq_true hy.2)

/-- The best of what exceeds a bound are the best of all, when there are enough. -/
theorem topBy_filter {bound : γ} {n : Nat} {xs : List β}
    (h : n ≤ xs.countP fun x => decide (bound < key x)) :
    topBy key n (xs.filter fun x => decide (bound < key x)) = topBy key n xs := by
  rw [topBy_eq_take, topBy_eq_take, descending_split bound xs, List.take_append_of_le_length]
  rwa [(descending_perm key _).length_eq, ← List.countP_eq_length_filter]

theorem rdropWhile_cons_of_neg (p : β → Bool) {y : β} (h : p y = false) (ys : List β) :
    (y :: ys).rdropWhile p = y :: ys.rdropWhile p := by
  unfold List.rdropWhile
  rw [List.reverse_cons, List.dropWhile_append]
  split
  · rename_i hempty
    rw [List.isEmpty_iff.mp hempty]
    simp [h]
  · rw [List.reverse_append]
    rfl

theorem rtakeWhile_cons_of_neg (p : β → Bool) {y : β} (h : p y = false) (ys : List β) :
    (y :: ys).rtakeWhile p = ys.rtakeWhile p := by
  unfold List.rtakeWhile
  rw [List.reverse_cons, List.takeWhile_append]
  split
  · rename_i hall
    have hfront := List.takeWhile_prefix p (l := ys.reverse)
    rw [hfront.eq_of_length hall]
    simp [h]
  · rfl

theorem offer_of_sorted {items : List β} (h : items.Pairwise fun a b => key b ≤ key a) (new : β) :
    offer (fun a b => decide (a < b)) key items new = (insertAfter key new items).dropLast := by
  rw [offer_eq]
  congr 1
  induction items with
  | nil => rfl
  | cons y ys ih =>
      rw [List.pairwise_cons] at h
      rw [insertAfter]
      by_cases hle : key new ≤ key y
      · have hkeep : decide (key y < key new) = false := decide_eq_false (not_lt_of_ge hle)
        rw [if_pos hle, ← ih h.2, rdropWhile_cons_of_neg (fun x => decide (key x < key new)) hkeep,
          rtakeWhile_cons_of_neg (fun x => decide (key x < key new)) hkeep, List.cons_append]
      · have hall : ∀ z ∈ y :: ys, decide (key z < key new) = true := by
          rw [List.forall_mem_cons]
          have hlt : key y < key new := lt_of_not_ge hle
          exact ⟨decide_eq_true hlt, fun z hz => decide_eq_true ((h.1 z hz).trans_lt hlt)⟩
        rw [if_neg hle, List.rdropWhile_eq_nil_iff.mpr hall,
          List.rtakeWhile_eq_self_iff.mpr hall, List.nil_append]

theorem filled_pairwise {sentinel : β} {xs : List β} (h : ∀ x ∈ xs, key sentinel < key x)
    (n : Nat) : (descending key xs ++ List.replicate n sentinel).Pairwise
      fun a b => key b ≤ key a := by
  rw [List.pairwise_append]
  refine ⟨descending_pairwise key xs, ?_, ?_⟩
  · rw [List.pairwise_replicate]
    exact Or.inr le_rfl
  · intro x hx y hy
    rw [List.eq_of_mem_replicate hy]
    exact (h x ((descending_perm key xs).mem_iff.mp hx)).le

/-- After all offers: what beats the sentinel, sorted, cut and filled up. -/
theorem foldl_offer_sorted (sentinel : β) (n : Nat) (xs : List β) :
    xs.foldl (offer (fun a b => decide (a < b)) key) (List.replicate n sentinel) =
      (descending key (xs.filter fun x => decide (key sentinel < key x)) ++
        List.replicate n sentinel).take n := by
  induction xs using List.reverseRecOn with
  | nil => simp [descending]
  | append_singleton xs x ih =>
      let best := xs.filter fun x => decide (key sentinel < key x)
      have hbest : ∀ y ∈ best, key sentinel < key y :=
        fun y hy => of_decide_eq_true (List.mem_filter.mp hy).2
      have hsorted := (filled_pairwise hbest n).sublist (List.take_sublist n _)
      have hlength : ((descending key best ++ List.replicate n sentinel).take n).length = n := by
        simp
      rw [List.foldl_concat, ih, offer_of_sorted hsorted, List.filter_append]
      by_cases hx : key sentinel < key x
      · have hlast : ∀ y ∈ List.replicate n sentinel, key y < key x := by
          intro y hy
          rwa [List.eq_of_mem_replicate hy]
        rw [List.filter_singleton, decide_eq_true hx, cond_true, descending_concat,
          ← insertAfter_append _ hlast, ← take_insertAfter, List.dropLast_eq_take,
          length_insertAfter, hlength, Nat.add_sub_cancel]
      · have hle : ∀ y ∈ (descending key best ++ List.replicate n sentinel).take n,
            key x ≤ key y := by
          intro y hy
          refine (not_lt.mp hx).trans ?_
          rcases List.mem_append.mp (List.mem_of_mem_take hy) with hy | hy
          · exact (hbest y ((descending_perm key best).mem_iff.mp hy)).le
          · rw [List.eq_of_mem_replicate hy]
        rw [insertAfter_of_le hle, List.dropLast_concat, List.filter_singleton,
          decide_eq_false hx, cond_false, List.append_nil]

/-- When enough beat the sentinel, what is left is the best of them. -/
theorem foldl_offer_eq_topBy {sentinel : β} {n : Nat} {xs : List β}
    (h : n ≤ xs.countP fun x => decide (key sentinel < key x)) :
    xs.foldl (offer (fun a b => decide (a < b)) key) (List.replicate n sentinel) =
      topBy key n (xs.filter fun x => decide (key sentinel < key x)) := by
  rw [foldl_offer_sorted, topBy_eq_take, List.take_append_of_le_length]
  rwa [(descending_perm key _).length_eq, ← List.countP_eq_length_filter]

end Sorted

/-! ## Partial comparisons -/

section Partial

variable {γ : Type v} [LinearOrder γ] {value : δ → WithBot γ} {worse : δ → δ → Bool}
  {key : β → δ}

/-- The comparison is that of the values; what has no value is neither worse nor better. -/
def Compares (value : δ → WithBot γ) (worse : δ → δ → Bool) : Prop :=
  ∀ a b, worse a b = true ↔ value a ≠ ⊥ ∧ value a < value b

theorem rdropWhile_congr {p q : β → Bool} {items : List β} (h : ∀ x ∈ items, p x = q x) :
    items.rdropWhile p = items.rdropWhile q ∧ items.rtakeWhile p = items.rtakeWhile q := by
  induction items using List.reverseRecOn with
  | nil => exact ⟨rfl, rfl⟩
  | append_singleton items x ih =>
      have hx : p x = q x := h x (by simp)
      obtain ⟨hdrop, htake⟩ := ih fun y hy => h y (by simp [hy])
      rw [List.rdropWhile_concat, List.rdropWhile_concat, List.rtakeWhile_concat,
        List.rtakeWhile_concat, hx, hdrop, htake]
      exact ⟨rfl, rfl⟩

/-- A list whose items all have values is offered an item as the values compare. -/
theorem offer_of_values (h : Compares value worse) {items : List β}
    (hitems : ∀ x ∈ items, value (key x) ≠ ⊥) (new : β) :
    offer worse key items new =
      offer (fun a b => decide (a < b)) (fun x => value (key x)) items new := by
  have hagree : ∀ x ∈ items,
      worse (key x) (key new) = decide (value (key x) < value (key new)) := by
    intro x hx
    rw [Bool.eq_iff_iff, h, decide_eq_true_iff]
    exact and_iff_right (hitems x hx)
  obtain ⟨hdrop, htake⟩ := rdropWhile_congr hagree
  rw [offer_eq, offer_eq, hdrop, htake]

/-- Under a partial comparison too the list ends as what beats the sentinel, sorted by
value, cut and filled up. -/
theorem foldl_offer_of_values (h : Compares value worse) {sentinel : β}
    (hsentinel : value (key sentinel) ≠ ⊥) (n : Nat) (xs : List β) :
    xs.foldl (offer worse key) (List.replicate n sentinel) =
      (descending (fun x => value (key x)) (xs.filter fun x => worse (key sentinel) (key x)) ++
        List.replicate n sentinel).take n := by
  have hbeats : (fun x => decide (value (key sentinel) < value (key x))) =
      fun x => worse (key sentinel) (key x) := by
    funext x
    rw [Bool.eq_iff_iff, h, decide_eq_true_iff]
    exact (and_iff_right hsentinel).symm
  have hsorted := @foldl_offer_sorted β (WithBot γ) _ (fun x => value (key x)) sentinel n
  rw [← hbeats, ← hsorted]
  induction xs using List.reverseRecOn with
  | nil => rfl
  | append_singleton xs x ih =>
      rw [List.foldl_concat, List.foldl_concat, ih]
      apply offer_of_values h
      rw [hsorted]
      intro y hy
      rcases List.mem_append.mp (List.mem_of_mem_take hy) with hy | hy
      · have hlt := (List.mem_filter.mp ((descending_perm _ _).mem_iff.mp hy)).2
        exact ((bot_le).trans_lt (of_decide_eq_true hlt)).ne'
      · rwa [List.eq_of_mem_replicate hy]

end Partial

end Lib
