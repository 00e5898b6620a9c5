import AiSsd.Lib.Dict
import AiSsd.Lib.TopK
import AiSsd.Numpy.Reduce
import Mathlib.Logic.Function.Basic

/-!
# What callers ask of a block store

The provider and the prefetch adapter take any object with these methods and look
for the optional ones with `hasattr`. A store returns the last write when there is
a view of its state that writes update and reads answer from.
-/

namespace AiSsd.Storage

open Lib Numpy

universe u v w

abbrev BlockRead (σ : Type v) (ρ : Type) :=
  σ → (layerIdx blockId headId tokenStart : Nat) → Except PyErr ρ × σ

abbrev BatchRead (σ : Type v) (ρ : Type) :=
  σ → (layerIdx : Nat) → List Nat → (headId tokenStart : Nat) → Except PyErr (Dict Nat ρ) × σ

/-- `{bid: read(bid) for bid in block_ids}`, on top of what is already collected. -/
def readEach {σ : Type v} {ρ : Type} (read : σ → Nat → Except PyErr ρ × σ) :
    List Nat → Dict Nat ρ → σ → Except PyErr (Dict Nat ρ) × σ
  | [], results, s => (.ok results, s)
  | bid :: bids, results, s =>
      match read s bid with
      | (.error err, s) => (.error err, s)
      | (.ok ret, s) => readEach read bids (results.set bid ret) s

/-! ## The native kernel -/

/-- The native kernel's `compute_topk_gqa`: query, key blocks, actual tokens, `top_k`,
query heads, KV heads and head dimension to indices and scores. -/
abbrev Kernel (α : Type u) :=
  List (List α) → List NDArray → List Nat → (topK qHeads kvHeads headDim : Nat) →
    Except PyErr (List Int × List α)

/-- `[(top_scores[i], *cand_bids[idx]) for i, idx in enumerate(top_indices)]`. -/
def namedScores {α : Type u} (candBids : List (Nat × Nat)) (indices : List Int)
    (scores : List α) : Except PyErr (List (α × Nat × Nat)) :=
  indices.zipIdx.mapM fun p =>
    match scores[p.2]?, pyIndex candBids p.1 with
    | some score, .ok cand => .ok (score, cand)
    | _, _ => .error .indexError

/-! ## The interface -/

/-- The methods of a store; those its callers may find missing are `none` then. -/
structure BlockBackend (σ : Type v) (α : Type u) where
  writeBlock : σ → (layerIdx blockId : Nat) → (kBlock vBlock : NDArray) →
    (headId tokenStart : Nat) → Except PyErr Unit × σ
  readKeyPage : BlockRead σ NDArray
  readValuePage : BlockRead σ NDArray
  readBlock : BlockRead σ (NDArray × NDArray)
  readKeyPageBatch : Option (BatchRead σ NDArray)
  readValuePageBatch : Option (BatchRead σ NDArray)
  readBlockBatch : Option (BatchRead σ (NDArray × NDArray))
  evictBlock : Option (σ → (layerIdx blockId : Nat) → Bool × σ)
  computeTopkFilter : Option (σ → (layerIdx : Nat) → (candBids : List (Nat × Nat)) →
    (query : List (List α)) → (topK : Nat) → (scale : α) → (qHeads kvHeads headDim : Nat) →
    Except PyErr (List (α × Nat × Nat)) × σ)
  predictAndPrefetch : Option (σ → (currentLayerId : Nat) → (currentBlockIds : List Nat) →
    (asyncMode : Option Bool) → Except PyErr (Nat × List Nat) × σ)

/-- Which states are in order and what each block of one holds. -/
structure StoreView (σ : Type v) where
  Valid : σ → Prop
  content : σ → Nat × Nat → Option (NDArray × NDArray)

namespace StoreView

variable {σ : Type v} (w : StoreView σ)

structure Keeps (s s' : σ) : Prop where
  valid : w.Valid s'
  content_eq : w.content s' = w.content s

variable {w} in
theorem Keeps.refl {s : σ} (h : w.Valid s) : w.Keeps s s := ⟨h, rfl⟩

variable {w} in
theorem Keeps.trans {s s' s'' : σ} (h : w.Keeps s s') (h' : w.Keeps s' s'') : w.Keeps s s'' :=
  ⟨h'.valid, h'.content_eq.trans h.content_eq⟩

/-- `read` answers the `page` of a stored block and changes nothing. -/
structure Reads {ρ : Type} (page : NDArray × NDArray → ρ) (read : BlockRead σ ρ) : Prop where
  keeps : ∀ s l b h t, w.Valid s → w.Keeps s (read s l b h t).2
  returns : ∀ s l b h t kv, w.Valid s → w.content s (l, b) = some kv →
    (read s l b h t).1 = .ok (page kv)

/-- `read` answers every stored block of the batch, and nothing outside the batch. It
may raise for a block that is not stored. -/
structure ReadsBatch {ρ : Type} (page : NDArray × NDArray → ρ) (read : BatchRead σ ρ) :
    Prop where
  keeps : ∀ s l bs h t, w.Valid s → w.Keeps s (read s l bs h t).2
  succeeds : ∀ s l bs h t, w.Valid s → (∀ b ∈ bs, (w.content s (l, b)).isSome) →
    ∃ pages, (read s l bs h t).1 = .ok pages
  returns : ∀ s l bs h t pages, w.Valid s → (read s l bs h t).1 = .ok pages →
    ∀ b ∈ bs, ∀ kv, w.content s (l, b) = some kv → pages.get? b = some (page kv)
  only : ∀ s l bs h t pages, w.Valid s → (read s l bs h t).1 = .ok pages →
    ∀ b, b ∉ bs → pages.get? b = none

variable {w} in
/-- Reads that change nothing change nothing together. -/
theorem keeps_readEach {ρ : Type} {read : σ → Nat → Except PyErr ρ × σ}
    (hread : ∀ s b, w.Valid s → w.Keeps s (read s b).2) (bs : List Nat) (results : Dict Nat ρ)
    {s : σ} (hs : w.Valid s) : w.Keeps s (Storage.readEach read bs results s).2 := by
  induction bs generalizing results s with
  | nil => exact Keeps.refl hs
  | cons bid bs ih =>
      have hone := hread s bid hs
      unfold Storage.readEach
      revert hone
      rcases read s bid with ⟨_ | ret, s'⟩
      · intro hone
        exact hone
      · intro hone
        exact hone.trans (ih (results.set bid ret) hone.valid)

variable {w} in
/-- Single reads, collected, answer like a batch. -/
theorem Reads.readEach {ρ : Type} {page : NDArray × NDArray → ρ} {read : BlockRead σ ρ}
    (hread : w.Reads page read) {s : σ} {l h t : Nat} (bs : List Nat) (results : Dict Nat ρ)
    {s' : σ} (hs : w.Keeps s s') (hheld : ∀ b ∈ bs, (w.content s (l, b)).isSome) :
    ∃ pages s'', Storage.readEach (fun s b => read s l b h t) bs results s' = (.ok pages, s'') ∧
      w.Keeps s s'' ∧ ∀ b, pages.get? b =
        if b ∈ bs then (w.content s (l, b)).map page else results.get? b := by
  induction bs generalizing results s' with
  | nil => exact ⟨results, s', rfl, hs, fun b => by simp⟩
  | cons bid bs ih =>
      obtain ⟨kv, hkv⟩ := Option.isSome_iff_exists.mp (hheld bid List.mem_cons_self)
      have hret : (read s' l bid h t).1 = .ok (page kv) := by
        apply hread.returns s' l bid h t kv hs.valid
        rw [hs.content_eq, hkv]
      have hnext : w.Keeps s (read s' l bid h t).2 := hs.trans (hread.keeps s' l bid h t hs.valid)
      obtain ⟨pages, s'', hloop, hkeeps, hget⟩ := ih (results.set bid (page kv)) hnext
        fun b hb => hheld b (List.mem_cons_of_mem bid hb)
      refine ⟨pages, s'', ?_, hkeeps, ?_⟩
      · rw [Storage.readEach, ← hloop]
        rcases hr : read s' l bid h t with ⟨_ | ret, s₁⟩
        · rw [hr] at hret
          cases hret
        · rw [hr] at hret
          cases hret
          rfl
      · intro b
        have hpage : (w.content s (l, bid)).map page = some (page kv) := by rw [hkv, Option.map_some]
        rw [hget b, Dict.get?_set_listed (f := fun b => (w.content s (l, b)).map page) hpage]

variable {w} in
/-- What a finished collection holds: the pages of the stored blocks it was asked for, and
what it had before for all others. -/
theorem Reads.readEach_ok {ρ : Type} {page : NDArray × NDArray → ρ} {read : BlockRead σ ρ}
    (hread : w.Reads page read) {s : σ} {l h t : Nat} (bs : List Nat) (results : Dict Nat ρ)
    {s' : σ} (hs : w.Keeps s s') {pages : Dict Nat ρ}
    (hloop : (Storage.readEach (fun s b => read s l b h t) bs results s').1 = .ok pages) (b : Nat) :
    (b ∈ bs → ∀ kv, w.content s (l, b) = some kv → pages.get? b = some (page kv)) ∧
      (b ∉ bs → pages.get? b = results.get? b) := by
  induction bs generalizing results s' with
  | nil =>
      cases hloop
      exact ⟨fun hb => absurd hb List.not_mem_nil, fun _ => rfl⟩
  | cons bid bs ih =>
      have hnext : w.Keeps s (read s' l bid h t).2 := hs.trans (hread.keeps s' l bid h t hs.valid)
      have hret := hread.returns s' l bid h t
      rw [Storage.readEach] at hloop
      revert hloop hnext hret
      rcases read s' l bid h t with ⟨_ | ret, s₁⟩
      · rintro ⟨⟩
      · intro hloop hnext hret
        obtain ⟨hin, hout⟩ := ih (results.set bid ret) hnext hloop
        by_cases hb : b ∈ bs
        · exact ⟨fun _ => hin hb, fun hnot => absurd (List.mem_cons_of_mem bid hb) hnot⟩
        · refine ⟨?_, ?_⟩
          · intro hmem kv hkv
            obtain rfl : b = bid := by simpa [hb] using hmem
            rw [hout hb, Dict.get?_set_self]
            cases hret kv hs.valid (by rw [hs.content_eq, hkv])
            rfl
          · intro hnot
            rw [hout hb]
            exact Dict.get?_set_of_ne _ _ fun heq => hnot (heq ▸ List.mem_cons_self)

end StoreView

/-- A store whose reads return the last write. Payloads have at least one dimension. -/
structure BlockBackend.ReturnsLastWrite {σ : Type v} {α : Type u} (B : BlockBackend σ α) extends
    StoreView σ where
  write_ok : ∀ s l b k v h t, Valid s → k.shape ≠ [] → v.shape ≠ [] →
    (B.writeBlock s l b k v h t).1 = .ok ()
  write_valid : ∀ s l b k v h t, Valid s → k.shape ≠ [] → v.shape ≠ [] →
    Valid (B.writeBlock s l b k v h t).2
  write_content : ∀ s l b k v h t, Valid s → k.shape ≠ [] → v.shape ≠ [] →
    content (B.writeBlock s l b k v h t).2 = Function.update (content s) (l, b) (some (k, v))
  key : toStoreView.Reads Prod.fst B.readKeyPage
  value : toStoreView.Reads Prod.snd B.readValuePage
  block : toStoreView.Reads id B.readBlock
  keyBatch : ∀ read ∈ B.readKeyPageBatch, toStoreView.ReadsBatch Prod.fst read
  valueBatch : ∀ read ∈ B.readValuePageBatch, toStoreView.ReadsBatch Prod.snd read
  blockBatch : ∀ read ∈ B.readBlockBatch, toStoreView.ReadsBatch id read
  evict_valid : ∀ evict ∈ B.evictBlock, ∀ s l b, Valid s → Valid (evict s l b).2
  evict_content : ∀ evict ∈ B.evictBlock, ∀ s l b, Valid s →
    content (evict s l b).2 = Function.update (content s) (l, b) none
  topk_keeps : ∀ filter ∈ B.computeTopkFilter, ∀ s l cands q k scale qh kh d, Valid s →
    toStoreView.Keeps s (filter s l cands q k scale qh kh d).2
  prefetch_ok : ∀ prefetch ∈ B.predictAndPrefetch, ∀ s l bs mode, Valid s →
    ∃ out, (prefetch s l bs mode).1 = .ok out
  prefetch_keeps : ∀ prefetch ∈ B.predictAndPrefetch, ∀ s l bs mode, Valid s →
    toStoreView.Keeps s (prefetch s l bs mode).2

/-! ## Scoring stored blocks -/

section Scoring

variable {α : Type u} [Field α] [LinearOrder α] (val : DType → Bytes → α)

def storedScore (blk : Nat → NDArray × NDArray) (query : List (List α)) (qHeads gqaRatio : Nat)
    (scale : α) (cand : Nat × Nat) : Except PyErr (α × Nat × Nat) :=
  (blockMaxScore val query (blk cand.1).1 qHeads gqaRatio scale cand.2).map fun score =>
    (score, cand)

/-- The best candidates by NumPy scores of the stored key blocks, wherever that runs. -/
def storedTopBids (blk : Nat → NDArray × NDArray) (candBids : List (Nat × Nat))
    (query : List (List α)) (qHeads gqaRatio : Nat) (scale : α) (topK : Nat) :
    Except PyErr (List (α × Nat × Nat)) :=
  match candBids.mapM (storedScore val blk query qHeads gqaRatio scale) with
  | .error err => .error err
  | .ok scores => .ok (topBy Prod.fst topK scores)

/-- A store whose `compute_topk_filter` scores the key blocks it holds. -/
def BlockBackend.ScoresStored {σ : Type v} {B : BlockBackend σ α} (V : B.ReturnsLastWrite) :
    Prop :=
  ∀ filter ∈ B.computeTopkFilter, ∀ s l cands blk query topK scale qHeads kvHeads headDim,
    V.Valid s → (∀ c ∈ cands, V.content s (l, c.1) = some (blk c.1)) →
    (filter s l cands query topK scale qHeads kvHeads headDim).1 =
      storedTopBids val blk cands query qHeads (if kvHeads > 0 then qHeads / kvHeads else 1) scale
        topK

variable {val}

/-- Scoring pairs every candidate with a score, in the old order. -/
theorem map_snd_of_storedScore {blk : Nat → NDArray × NDArray} {candBids : List (Nat × Nat)}
    {query : List (List α)} {qHeads gqaRatio : Nat} {scale : α} {scores : List (α × Nat × Nat)}
    (h : candBids.mapM (storedScore val blk query qHeads gqaRatio scale) = .ok scores) :
    scores.map Prod.snd = candBids := by
  have hall := mapM_eq_ok h
  clear h
  induction hall with
  | nil => rfl
  | @cons cand score cands scores hone _ ih =>
      rw [List.map_cons, ih]
      congr 1
      unfold storedScore at hone
      cases hscore : blockMaxScore val query (blk cand.1).1 qHeads gqaRatio scale cand.2 with
      | error err =>
          rw [hscore] at hone
          cases hone
      | ok m =>
          rw [hscore] at hone
          cases hone
          rfl

theorem mem_of_storedTopBids {blk : Nat → NDArray × NDArray} {candBids : List (Nat × Nat)}
    {query : List (List α)} {qHeads gqaRatio topK : Nat} {scale : α}
    {top : List (α × Nat × Nat)}
    (h : storedTopBids val blk candBids query qHeads gqaRatio scale topK = .ok top) :
    ∀ t ∈ top, t.2 ∈ candBids := by
  intro t ht
  unfold storedTopBids at h
  split at h
  · cases h
  · rename_i scores hscores
    cases h
    rw [← map_snd_of_storedScore hscores]
    exact List.mem_map_of_mem ((topBy_subperm Prod.fst topK scores).subset ht)

end Scoring

end AiSsd.Storage
