import AiSsd.Attention.StreamingSoftmax
import Mathlib.Order.Bounds.Basic

/-!
# Merging attention results

A result of some tokens is their largest logit, the sum of their weights shifted by it, and the
average of their values. Such a triple is determined by the tokens in any order, and a merge
gives the triple of both token lists together; order and grouping of merges follow from that.
-/

namespace AiSsd.Attention

open Lib Numpy

universe u

variable {α : Type u} {heads dim : Nat}

/-- `m`, `l` and `out` of one side of a merge. -/
structure AttentionTriple (α : Type u) (heads dim : Nat) where
  m : Fin heads → α
  l : Fin heads → α
  out : Row α heads dim

variable [Field α] [LinearOrder α] (e : Exponential α)

def mergeOnlineAttention (a b : AttentionTriple α heads dim) : AttentionTriple α heads dim :=
  let mMerged := fun h => max (a.m h) (b.m h)
  let dA := fun h => e.exp (a.m h - mMerged h)
  let dB := fun h => e.exp (b.m h - mMerged h)
  let lMerged := fun h => dA h * a.l h + dB h * b.l h
  let safeL := fun h => if lMerged h > 0 then lMerged h else 1
  let weightedA := fun h d => dA h * a.l h * a.out h d
  let weightedB := fun h d => dB h * b.l h * b.out h d
  { m := mMerged
    l := lMerged
    out := fun h d => (weightedA h d + weightedB h d) / safeL h }

namespace AttentionTriple

open OnlineSoftmaxAccumulator

/-- The result of attending to some tokens; without any there is no maximum, and the accumulator's
start stands in. -/
def ofTokens : Partition α heads dim → AttentionTriple α heads dim
  | [] =>
      let start : OnlineSoftmaxAccumulator α heads dim := init
      ⟨start.m, start.l, start.acc⟩
  | first :: rest =>
      let m := fun h => npMax (first.logit h) (logits h rest)
      let l := fun h => ((expPart e (m h) h (first :: rest)).map Prod.fst).sum
      { m := m
        l := l
        out := fun h d =>
          ((expPart e (m h) h (first :: rest)).map fun p => p.1 * p.2.value h d).sum / l h }

structure Summarises (t : AttentionTriple α heads dim) (part : Partition α heads dim) : Prop where
  m_greatest : ∀ h, IsGreatest {x | x ∈ logits h part} (t.m h)
  l_eq : ∀ h, t.l h = e.exp (-(t.m h)) * e.mass (logits h part)
  out_eq : ∀ h d, t.out h d = e.mean (channel h d part)

variable {e} {t a b : AttentionTriple α heads dim} {part part' xs ys : Partition α heads dim}

/-- The tokens may come in any order. -/
theorem Summarises.perm (ht : t.Summarises e part) (hperm : part.Perm part') :
    t.Summarises e part' where
  m_greatest := by
    intro h
    have hset : {x | x ∈ logits h part'} = {x | x ∈ logits h part} :=
      Set.ext fun x => (hperm.map _).mem_iff.symm
    rw [hset]
    exact ht.m_greatest h
  l_eq := by
    intro h
    have hmass : e.mass (logits h part) = e.mass (logits h part') := e.mass_perm (hperm.map _)
    rw [ht.l_eq h, hmass]
  out_eq := by
    intro h d
    rw [ht.out_eq h d]
    exact e.mean_perm (hperm.map _)

theorem Summarises.unique (ha : a.Summarises e part) (hb : b.Summarises e part) : a = b := by
  have hm : a.m = b.m := funext fun h => (ha.m_greatest h).unique (hb.m_greatest h)
  have hl : a.l = b.l := by
    funext h
    rw [ha.l_eq, hb.l_eq, hm]
  have hout : a.out = b.out := by
    funext h d
    rw [ha.out_eq, hb.out_eq]
  obtain ⟨_, _, _⟩ := a
  obtain ⟨_, _, _⟩ := b
  simp_all

omit [Field α] in
theorem isGreatest_npMax (first : α) (rest : List α) :
    IsGreatest {x | x ∈ first :: rest} (npMax first rest) :=
  ⟨npMax_mem first rest, fun x hx => le_npMax first rest x hx⟩

theorem summarises_ofTokens (hne : part ≠ []) : (ofTokens e part).Summarises e part := by
  cases part with
  | nil => exact absurd rfl hne
  | cons first rest =>
      refine ⟨fun h => isGreatest_npMax _ _, fun h => sum_expPart e _ h _, fun h d => ?_⟩
      have hl := sum_expPart e (npMax (first.logit h) (logits h rest)) h (first :: rest)
      have hacc := sum_expPart_mul e (npMax (first.logit h) (logits h rest)) h d (first :: rest)
      rw [← fst_channel h d (first :: rest)] at hl
      exact e.mean_of_shifted _ _ hl hacc

section Merge

variable [IsStrictOrderedRing α]

/-- What one side contributes to the merged sums, moved to the shift `m`. -/
theorem Summarises.rescaled (ha : a.Summarises e xs) (hxs : xs ≠ []) (m : α) (h : Fin heads) :
    e.exp (a.m h - m) * a.l h = e.exp (-m) * e.mass (logits h xs) ∧
      ∀ d, e.exp (a.m h - m) * a.l h * a.out h d = e.exp (-m) * e.moment (channel h d xs) := by
  have hl : e.exp (a.m h - m) * a.l h = e.exp (-m) * e.mass (logits h xs) := by
    rw [ha.l_eq h, ← e.exp_rescale (a.m h) m]
    ring
  refine ⟨hl, fun d => ?_⟩
  have hmass : e.mass (logits h xs) ≠ 0 := by
    apply ne_of_gt
    apply e.mass_pos
    simpa [logits] using hxs
  rw [hl, ha.out_eq h d, Exponential.mean, fst_channel, mul_assoc, mul_div_cancel₀ _ hmass]

theorem Summarises.merge (ha : a.Summarises e xs) (hb : b.Summarises e ys) (hxs : xs ≠ [])
    (hys : ys ≠ []) : (mergeOnlineAttention e a b).Summarises e (xs ++ ys) := by
  have hl : ∀ h, (mergeOnlineAttention e a b).l h =
      e.exp (-max (a.m h) (b.m h)) * e.mass (logits h (xs ++ ys)) := by
    intro h
    have happ : logits h (xs ++ ys) = logits h xs ++ logits h ys := List.map_append
    rw [happ, e.mass_append, mul_add, ← (ha.rescaled hxs _ h).1, ← (hb.rescaled hys _ h).1]
    rfl
  refine ⟨fun h => ?_, hl, fun h d => ?_⟩
  · have hset : {x | x ∈ logits h (xs ++ ys)} = {x | x ∈ logits h xs} ∪ {x | x ∈ logits h ys} := by
      ext x
      simp [logits]
    rw [hset]
    exact (ha.m_greatest h).union (hb.m_greatest h)
  · have hpos : (mergeOnlineAttention e a b).l h > 0 := by
      rw [hl h]
      apply mul_pos (e.exp_pos _)
      apply e.mass_pos
      simp [logits, hxs]
    have happ : channel h d (xs ++ ys) = channel h d xs ++ channel h d ys := List.map_append
    have hacc : e.exp (a.m h - max (a.m h) (b.m h)) * a.l h * a.out h d +
        e.exp (b.m h - max (a.m h) (b.m h)) * b.l h * b.out h d =
          e.exp (-max (a.m h) (b.m h)) * e.moment (channel h d (xs ++ ys)) := by
      rw [(ha.rescaled hxs _ h).2 d, (hb.rescaled hys _ h).2 d, happ, e.moment_append, mul_add]
    -- the guard of the division is not needed: some token has a weight
    have hout : (mergeOnlineAttention e a b).out h d =
        (e.exp (a.m h - max (a.m h) (b.m h)) * a.l h * a.out h d +
          e.exp (b.m h - max (a.m h) (b.m h)) * b.l h * b.out h d) /
            (mergeOnlineAttention e a b).l h := by
      have hsafe : (if (mergeOnlineAttention e a b).l h > 0 then
          (mergeOnlineAttention e a b).l h else 1) = (mergeOnlineAttention e a b).l h := if_pos hpos
      rw [← hsafe]
      rfl
    have hmass := hl h
    rw [← fst_channel h d] at hmass
    rw [hout]
    exact e.mean_of_shifted _ _ hmass hacc

theorem mergeOnlineAttention_ofTokens (hxs : xs ≠ []) (hys : ys ≠ []) :
    mergeOnlineAttention e (ofTokens e xs) (ofTokens e ys) = ofTokens e (xs ++ ys) :=
  ((summarises_ofTokens hxs).merge (summarises_ofTokens hys) hxs hys).unique
    (summarises_ofTokens (List.append_ne_nil_of_left_ne_nil hxs ys))

theorem mergeOnlineAttention_comm (hxs : xs ≠ []) (hys : ys ≠ []) :
    mergeOnlineAttention e (ofTokens e xs) (ofTokens e ys) =
      mergeOnlineAttention e (ofTokens e ys) (ofTokens e xs) := by
  have hleft := (summarises_ofTokens hxs).merge (summarises_ofTokens (e := e) hys) hxs hys
  have hright := (summarises_ofTokens hys).merge (summarises_ofTokens (e := e) hxs) hys hxs
  exact hleft.unique (hright.perm List.perm_append_comm)

theorem mergeOnlineAttention_assoc {zs : Partition α heads dim} (hxs : xs ≠ []) (hys : ys ≠ [])
    (hzs : zs ≠ []) :
    mergeOnlineAttention e (mergeOnlineAttention e (ofTokens e xs) (ofTokens e ys))
        (ofTokens e zs) =
      mergeOnlineAttention e (ofTokens e xs)
        (mergeOnlineAttention e (ofTokens e ys) (ofTokens e zs)) := by
  have hxy : xs ++ ys ≠ [] := List.append_ne_nil_of_left_ne_nil hxs ys
  have hyz : ys ++ zs ≠ [] := List.append_ne_nil_of_left_ne_nil hys zs
  rw [mergeOnlineAttention_ofTokens hxs hys, mergeOnlineAttention_ofTokens hys hzs,
    mergeOnlineAttention_ofTokens hxy hzs, mergeOnlineAttention_ofTokens hxs hyz,
    List.append_assoc]

/-- Merged one after another, the parts give the result of all their tokens. -/
theorem foldl_mergeOnlineAttention {first : Partition α heads dim} (hfirst : first ≠ [])
    {parts : List (Partition α heads dim)} (hparts : ∀ part ∈ parts, part ≠ []) :
    (parts.map (ofTokens e)).foldl (mergeOnlineAttention e) (ofTokens e first) =
      ofTokens e (first ++ parts.flatten) := by
  induction parts generalizing first with
  | nil => simp
  | cons part parts ih =>
      rw [List.forall_mem_cons] at hparts
      have hnext : first ++ part ≠ [] := List.append_ne_nil_of_left_ne_nil hfirst part
      rw [List.map_cons, List.foldl_cons, mergeOnlineAttention_ofTokens hfirst hparts.1,
        ih hnext hparts.2, List.flatten_cons, List.append_assoc]

/-- The accumulator finalizes to the output of its tokens, wherever its maximum started. -/
theorem finalize_foldl (e : Exponential α) {parts : List (Partition α heads dim)}
    (hne : parts.flatten ≠ []) :
    (parts.foldl (updateWithPartition e) init).finalize = (ofTokens e parts.flatten).out := by
  have hrep := represents_foldl e (represents_init e) parts
  rw [List.nil_append] at hrep
  funext h d
  rw [finalize_of_represents hrep h d, (summarises_ofTokens hne).out_eq h d]

end Merge

end AttentionTriple

open AttentionTriple in
/-- Over the reals merging is exact: it gives the triple of both token lists together, in any
order and grouping, and what the accumulator finalizes to when it is fed the same parts. -/
theorem merge_online_exact (heads dim : Nat) :
    (∀ xs ys : Partition ℝ heads dim, xs ≠ [] → ys ≠ [] →
      mergeOnlineAttention .real (ofTokens .real xs) (ofTokens .real ys) =
        ofTokens .real (xs ++ ys)) ∧
    (∀ xs ys : Partition ℝ heads dim, xs ≠ [] → ys ≠ [] →
      mergeOnlineAttention .real (ofTokens .real xs) (ofTokens .real ys) =
        mergeOnlineAttention .real (ofTokens .real ys) (ofTokens .real xs)) ∧
    (∀ xs ys zs : Partition ℝ heads dim, xs ≠ [] → ys ≠ [] → zs ≠ [] →
      mergeOnlineAttention .real
          (mergeOnlineAttention .real (ofTokens .real xs) (ofTokens .real ys))
          (ofTokens .real zs) =
        mergeOnlineAttention .real (ofTokens .real xs)
          (mergeOnlineAttention .real (ofTokens .real ys) (ofTokens .real zs))) ∧
    ∀ (first : Partition ℝ heads dim) (parts : List (Partition ℝ heads dim)), first ≠ [] →
      (∀ part ∈ parts, part ≠ []) →
      ((parts.map (ofTokens .real)).foldl (mergeOnlineAttention .real)
          (ofTokens .real first)).out =
        ((first :: parts).foldl (OnlineSoftmaxAccumulator.updateWithPartition .real)
          OnlineSoftmaxAccumulator.init).finalize := by
  refine ⟨fun xs ys => mergeOnlineAttention_ofTokens, fun xs ys => mergeOnlineAttention_comm,
    fun xs ys zs => mergeOnlineAttention_assoc, fun first parts hfirst hparts => ?_⟩
  have hne : (first :: parts).flatten ≠ [] := by
    rw [List.flatten_cons]
    exact List.append_ne_nil_of_left_ne_nil hfirst _
  rw [foldl_mergeOnlineAttention hfirst hparts, finalize_foldl .real hne, List.flatten_cons]

def onePart (logit value : ℝ) : Partition ℝ 1 1 := [⟨fun _ => logit, fun _ _ => value⟩]

open AttentionTriple in
theorem merge_online_exact_three_parts :
    mergeOnlineAttention .real (ofTokens .real (onePart 1 2)) (ofTokens .real (onePart (-3) 5)) =
        ofTokens .real (onePart 1 2 ++ onePart (-3) 5) ∧
      mergeOnlineAttention .real (ofTokens .real (onePart 1 2))
          (ofTokens .real (onePart (-3) 5)) =
        mergeOnlineAttention .real (ofTokens .real (onePart (-3) 5))
          (ofTokens .real (onePart 1 2)) ∧
      mergeOnlineAttention .real (mergeOnlineAttention .real (ofTokens .real (onePart 1 2))
          (ofTokens .real (onePart (-3) 5))) (ofTokens .real (onePart 0 7)) =
        mergeOnlineAttention .real (ofTokens .real (onePart 1 2))
          (mergeOnlineAttention .real (ofTokens .real (onePart (-3) 5))
            (ofTokens .real (onePart 0 7))) ∧
      (([onePart (-3) 5, onePart 0 7].map (ofTokens .real)).foldl (mergeOnlineAttention .real)
          (ofTokens .real (onePart 1 2))).out =
        ([onePart 1 2, onePart (-3) 5, onePart 0 7].foldl
          (OnlineSoftmaxAccumulator.updateWithPartition .real)
          OnlineSoftmaxAccumulator.init).finalize := by
  have hne : ∀ logit value, onePart logit value ≠ [] := fun _ _ => List.cons_ne_nil _ _
  obtain ⟨hmerge, hcomm, hassoc, hfold⟩ := merge_online_exact 1 1
  exact ⟨hmerge _ _ (hne 1 2) (hne (-3) 5), hcomm _ _ (hne 1 2) (hne (-3) 5),
    hassoc _ _ _ (hne 1 2) (hne (-3) 5) (hne 0 7), hfold _ _ (hne 1 2) (by simp [hne])⟩

end AiSsd.Attention
