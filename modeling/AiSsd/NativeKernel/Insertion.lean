import AiSsd.NativeKernel.ExactFloat
import AiSsd.NativeKernel.InstorageAttention
import AiSsd.Nvme.Daemon
import AiSsd.Storage.InferenceBackend

/-!
# Insertion is sorting

The kernel shifts two arrays in step, the daemon one array of structs. Both loops are offers to
a list of the best, so over scores that all exceed the sentinel they select what sorting the
scored blocks in descending order and cutting selects.
-/

namespace AiSsd.NativeKernel

open Lib
open Nvme (FloatOps TopItem emptyTop insertTop scanCandidates preadBuf Guest DaemonState
  TopkCandItem)
open Storage.RealInferenceStorageBackend (sortDescending)

variable {F : Type} (fl : FloatOps F)

/-! ## The kernel's arrays -/

def TopArrays.ofEntries (entries : List (F × Int)) : TopArrays F :=
  ⟨entries.map Prod.snd, entries.map Prod.fst⟩

theorem empty_eq_ofEntries (effectiveK : Nat) : TopArrays.empty fl effectiveK =
    .ofEntries (List.replicate effectiveK (fl.minScore, -1)) := by
  simp [TopArrays.empty, TopArrays.ofEntries]

theorem insert_ofEntries (entries : List (F × Int)) (b : Int) (score : F) :
    (TopArrays.ofEntries entries).insert fl b score =
      .ofEntries (offer fl.lt Prod.fst entries (score, b)) := by
  unfold TopArrays.insert offer
  rw [TopArrays.ofEntries, List.getLast?_map, Option.any_map]
  dsimp only [Function.comp_def]
  split
  · rename_i hlast
    have hne : entries ≠ [] := by
      rintro rfl
      cases hlast
    have hpos := List.length_pos_iff.mpr hne
    have hle : insertPos (fun x : F × Int => fl.lt x.1 score) entries (entries.length - 1) <
        entries.length := by
      rw [insertPos_eq _ (Nat.sub_le _ _)]
      have hfront := length_rdropWhile_le (fun x : F × Int => fl.lt x.1 score)
        (entries.take (entries.length - 1))
      rw [List.length_take] at hfront
      omega
    rw [insertPos_map, List.length_map, TopArrays.ofEntries, map_insertAt Prod.snd hle,
      map_insertAt Prod.fst hle]
    rfl
  · rfl

def indexed (scores : List F) : List (F × Int) := scores.zipIdx.map fun p => (p.1, (p.2 : Int))

theorem indexed_concat (scores : List F) (score : F) :
    indexed (scores ++ [score]) = indexed scores ++ [(score, (scores.length : Int))] := by
  simp [indexed, List.zipIdx_append]

theorem scanBlocks_eq_some_iff {effectiveK numBlocks : Nat} {score : Nat → Option F}
    {out : TopArrays F} : scanBlocks fl effectiveK numBlocks score = some out ↔
      ∃ scores : List F, (List.range numBlocks).map score = scores.map some ∧
        out = .ofEntries ((indexed scores).foldl (offer fl.lt Prod.fst)
          (List.replicate effectiveK (fl.minScore, -1))) := by
  induction numBlocks generalizing out with
  | zero =>
      have hnil : scanBlocks fl effectiveK 0 score =
          some (.ofEntries (List.replicate effectiveK (fl.minScore, -1))) :=
        congrArg some (empty_eq_ofEntries fl effectiveK)
      rw [hnil]
      constructor
      · intro h
        cases h
        exact ⟨[], rfl, rfl⟩
      · rintro ⟨scores, hscores, rfl⟩
        rw [List.map_eq_nil_iff.mp hscores.symm]
        rfl
  | succ n ih =>
      have hstep : scanBlocks fl effectiveK (n + 1) score =
          (scanBlocks fl effectiveK n score).bind fun out =>
            (score n).map (out.insert fl n) := by
        unfold scanBlocks
        rw [List.range_succ, List.foldlM_append]
        simp
      rw [hstep, Option.bind_eq_some_iff]
      constructor
      · rintro ⟨before, hbefore, hlast⟩
        obtain ⟨scores, hscores, rfl⟩ := ih.mp hbefore
        obtain ⟨last, hscore, rfl⟩ := Option.map_eq_some_iff.mp hlast
        have hlength : scores.length = n := by simpa using (congrArg List.length hscores).symm
        refine ⟨scores ++ [last], ?_, ?_⟩
        · rw [List.range_succ, List.map_append, hscores, List.map_append]
          simp [hscore]
        · rw [indexed_concat, List.foldl_append, insert_ofEntries, hlength]
          rfl
      · rintro ⟨scores, hscores, rfl⟩
        rw [List.range_succ, List.map_append, List.map_singleton] at hscores
        obtain ⟨front, rest, rfl, hfront, hrest⟩ := List.map_eq_append_iff.mp hscores.symm
        obtain ⟨last, rfl, hlast⟩ := List.map_eq_singleton_iff.mp hrest
        have hlength : front.length = n := by simpa using congrArg List.length hfront
        refine ⟨_, ih.mpr ⟨front, hfront.symm, rfl⟩, ?_⟩
        rw [← hlast, Option.map_some, insert_ofEntries, indexed_concat, List.foldl_append, hlength]
        rfl

/-! ## The daemon's structs -/

theorem insertPos_eq_insertPos (items : List (TopItem F)) (score : F) (pos : Nat) :
    Nvme.insertPos fl items score pos = insertPos (fun x => fl.lt x.score score) items pos := by
  induction pos with
  | zero => rfl
  | succ pos ih =>
      rw [Nvme.insertPos, insertPos]
      cases items[pos]? with
      | none => rfl
      | some item =>
          dsimp only
          rw [ih, Option.any_some]

/-- The daemon's insertion is the shifting loop. -/
theorem insertTop_eq_offer (items : List (TopItem F)) (new : TopItem F) :
    insertTop fl items new = offer fl.lt TopItem.score items new := by
  unfold insertTop offer
  cases hlast : items.getLast? with
  | none => rfl
  | some last =>
      have hpos : Nvme.insertPos fl items new.score (items.length - 1) < items.length := by
        have hne : items ≠ [] := by
          rintro rfl
          cases hlast
        have hlength := List.length_pos_iff.mpr hne
        have hle := Nvme.insertPos_le fl items new.score (items.length - 1)
        omega
      dsimp only
      rw [Option.any_some, ← insertPos_eq_insertPos, insertAt_eq hpos]

/-- The candidates a scan of the daemon can read, with their scores. -/
def scoredItems {δ : Type} (g : Guest δ) (score : (Nat → UInt8) → TopkCandItem → Option F) :
    DaemonState δ → List TopkCandItem → List (TopItem F)
  | _, [] => []
  | s, cand :: cands =>
      match preadBuf g s cand.itemLen cand.offset with
      | none => []
      | some (pr, s) =>
          if pr.map List.length = some cand.itemLen then
            match score s.ioBuf cand with
            | none => []
            | some sc => ⟨cand.blockId, sc, cand.actualTokens⟩ :: scoredItems g score s cands
          else scoredItems g score s cands

theorem scanCandidates_eq_foldl {δ : Type} {g : Guest δ}
    {score : (Nat → UInt8) → TopkCandItem → Option F} {s s' : DaemonState δ}
    {cands : List TopkCandItem} {top top' : List (TopItem F)}
    (h : scanCandidates g fl score s cands top = some (top', s')) :
    top' = (scoredItems g score s cands).foldl (offer fl.lt TopItem.score) top := by
  induction cands generalizing s top with
  | nil =>
      cases h
      rfl
  | cons cand cands ih =>
      unfold scanCandidates at h
      unfold scoredItems
      cases hread : preadBuf g s cand.itemLen cand.offset with
      | none =>
          rw [hread] at h
          cases h
      | some r =>
          obtain ⟨pr, s₁⟩ := r
          rw [hread] at h
          dsimp only at h ⊢
          split at h
          · rename_i hwhole
            rw [if_pos hwhole]
            cases hscore : score s₁.ioBuf cand with
            | none =>
                rw [hscore] at h
                cases h
            | some sc =>
                rw [hscore] at h
                rw [ih h, insertTop_eq_offer]
                rfl
          · rename_i hshort
            rw [if_neg hshort]
            exact ih h

/-! ## Selection -/

section Ordered

variable [LinearOrder F] {fl}

theorem lt_eq (hlt : ∀ a b, fl.lt a b = decide (a < b)) : fl.lt = fun a b => decide (a < b) :=
  funext fun a => funext fun b => hlt a b

theorem foldl_offer_all {β : Type} (key : β → F) (sentinel : β) {xs : List β}
    (hlt : ∀ a b, fl.lt a b = decide (a < b)) (hmin : ∀ x ∈ xs, key sentinel < key x) (topK : Nat) :
    xs.foldl (offer fl.lt key) (List.replicate (min topK xs.length) sentinel) =
      topBy key topK xs := by
  have hall : (xs.filter fun x => decide (key sentinel < key x)) = xs :=
    List.filter_eq_self.mpr fun x hx => decide_eq_true (hmin x hx)
  have hcount : min topK xs.length ≤ xs.countP fun x => decide (key sentinel < key x) := by
    rw [List.countP_eq_length_filter, hall]
    exact Nat.min_le_right _ _
  rw [lt_eq hlt, foldl_offer_eq_topBy hcount, hall, topBy_eq_take, topBy_eq_take,
    ← List.take_take, List.take_of_length_le (Nat.le_of_eq (descending_perm key xs).length_eq)]

/-- Over scores from a linear order that all exceed the sentinel, the kernel's arrays, the
daemon's list and the sorted list of the NumPy path hold the same selection: the first blocks
of the stable descending sort. -/
theorem insertion_selects_best (hlt : ∀ a b, fl.lt a b = decide (a < b)) (scores : List F)
    (hmin : ∀ s ∈ scores, fl.minScore < s) (topK : Nat) :
    let best := topBy Prod.fst topK scores.zipIdx
    best.length = min topK scores.length ∧ (best.map Prod.snd).Nodup ∧
    scanBlocks fl (effectiveK topK scores.length).toNat scores.length (fun b => scores[b]?) =
      some ⟨best.map fun p => (p.2 : Int), best.map Prod.fst⟩ ∧
    (∀ (δ : Type) (g : Guest δ) (score : (Nat → UInt8) → TopkCandItem → Option F)
      (s s' : DaemonState δ) (cands : List TopkCandItem) (top : List (TopItem F)),
      (scoredItems g score s cands).map TopItem.score = scores →
      scanCandidates g fl score s cands (emptyTop fl (min topK scores.length)) = some (top, s') →
      top = topBy TopItem.score topK (scoredItems g score s cands)) ∧
    ∀ actualTokens : Nat → Nat,
      ((sortDescending (scores.zipIdx.map fun p => (p.1, p.2, actualTokens p.2))).take topK).map
        (fun t => t.2.1) = best.map Prod.snd := by
  intro best
  have hindices : (scores.zipIdx.map Prod.snd).Nodup := by
    rw [List.zipIdx_map_snd]
    exact List.nodup_range'
  refine ⟨?_, ?_, ?_, ?_, ?_⟩
  · rw [length_topBy, List.length_zipIdx]
  · exact nodup_map_of_subperm (topBy_subperm Prod.fst topK scores.zipIdx) hindices
  · rw [scanBlocks_eq_some_iff, toNat_effectiveK]
    refine ⟨scores, ?_, ?_⟩
    · apply List.ext_getElem?
      intro i
      rw [List.getElem?_map, List.getElem?_map]
      by_cases hi : i < scores.length
      · rw [List.getElem?_range hi, List.getElem?_eq_getElem hi]
        simp [hi]
      · rw [List.getElem?_eq_none (by simpa using hi), List.getElem?_eq_none (by simpa using hi)]
        rfl
    · have hbeats : ∀ p ∈ indexed scores, fl.minScore < p.1 := by
        intro p hp
        obtain ⟨q, hq, rfl⟩ := List.mem_map.mp hp
        exact hmin q.1 (List.fst_mem_of_mem_zipIdx hq)
      have hlength : (indexed scores).length = scores.length := by simp [indexed]
      have hscan := foldl_offer_all Prod.fst (fl.minScore, (-1 : Int)) hlt hbeats topK
      rw [hlength] at hscan
      rw [hscan, indexed, topBy_map (fun p : F × Nat => (p.1, (p.2 : Int))) fun _ => rfl]
      simp [TopArrays.ofEntries, best]
  · intro δ g score s s' cands top hscores hscan
    have hbeats : ∀ item ∈ scoredItems g score s cands, fl.minScore < item.score :=
      fun item hitem => hmin _ (hscores ▸ List.mem_map_of_mem hitem)
    rw [scanCandidates_eq_foldl fl hscan, ← hscores, List.length_map]
    exact foldl_offer_all TopItem.score ⟨0, fl.minScore, 0⟩ hlt hbeats topK
  · intro actualTokens
    have hsort : topBy Prod.fst topK (scores.zipIdx.map fun p => (p.1, p.2, actualTokens p.2)) =
        best.map fun p => (p.1, p.2, actualTokens p.2) :=
      topBy_map (fun p : F × Nat => (p.1, p.2, actualTokens p.2)) (fun _ => rfl) topK _
    change (topBy Prod.fst topK (scores.zipIdx.map fun p => (p.1, p.2, actualTokens p.2))).map
      (fun t => t.2.1) = best.map Prod.snd
    rw [hsort, List.map_map]
    rfl

/-- Three blocks of which the first and the last are equally good. -/
theorem insertion_selects_best_tied :
    scanBlocks rationalOps 2 3 (fun b => [(3 : ℚ), 1, 3][b]?) = some ⟨[0, 2], [3, 3]⟩ :=
  (insertion_selects_best (fun _ _ => rfl) [3, 1, 3] (by decide +kernel) 2).2.2.1.trans
    (by decide +kernel)

end Ordered

end AiSsd.NativeKernel
