import AiSsd.Storage.BackendReads

/-!
# The inference backend as a block store

With a mapping mode it knows, the backend returns the last write on every path, and
its in-storage top-k scores the key blocks it holds.
-/

namespace AiSsd.Storage.RealInferenceStorageBackend

open Lib Numpy

universe u

variable {cfg : BackendConfig} {s : RealInferenceStorageBackend cfg}

def content (s : RealInferenceStorageBackend cfg) (key : Nat × Nat) :
    Option (NDArray × NDArray) :=
  match s.storage.get? key with
  | none => none
  | some e =>
      match fetchBlock s.file (some e) with
      | .ok (kv, _) => some kv
      | .error _ => none

/-- A state some run leaves behind. Scoring leaves the store alone, so the numbers the
run scores with do not matter. -/
def Reached (s : RealInferenceStorageBackend cfg) : Prop :=
  KnownMode cfg ∧ ∃ ops : List (Op Unit), Current s ops

variable (cfg) in
def view : StoreView (RealInferenceStorageBackend cfg) := ⟨Reached, content⟩

theorem content_of_holds {key : Nat × Nat} {e : Entry cfg.channels} {k v : NDArray}
    (hget : s.storage.get? key = some e) (h : EntryHolds s.file e k v) :
    content s key = some (k, v) := by
  simp only [content, hget, fetchBlock_some h]

theorem content_isSome (h : Reached s) (l b : Nat) :
    (content s (l, b)).isSome = containsBlock s l b := by
  obtain ⟨ops, hcur⟩ := h.2
  unfold containsBlock Dict.contains
  cases hget : s.storage.get? (l, b) with
  | none =>
      simp only [content, hget]
      rfl
  | some e =>
      obtain ⟨k, v, _, hentry⟩ := hcur.entries (l, b) e hget
      rw [content_of_holds hget hentry]
      rfl

theorem content_of_same {s' : RealInferenceStorageBackend cfg} (h : SameStore s s') :
    content s' = content s := by
  funext key
  simp only [content, h.storage_eq, h.file_eq]

theorem keeps_of_same {s' : RealInferenceStorageBackend cfg} (hs : Reached s)
    (h : SameStore s s') : (view cfg).Keeps s s' := by
  obtain ⟨ops, hcur⟩ := hs.2
  refine ⟨⟨hs.1, ops ++ [.readKeyPage 0 0 0 0], ?_⟩, content_of_same h⟩
  exact hcur.of_same h fun _ => rfl

theorem readsAll_of_reached (hs : Reached s) (l : Nat) : ∃ blk, ReadsAll s l blk ∧
    ∀ b kv, content s (l, b) = some kv → blk b = kv := by
  obtain ⟨ops, hcur⟩ := hs.2
  obtain ⟨blk, hall, hblk⟩ := readsAll_of_current hcur hs.1 l
  refine ⟨blk, hall, ?_⟩
  intro b kv hkv
  obtain ⟨n, hn⟩ := hblk b
  cases hget : s.storage.get? (l, b) with
  | none => simp [content, hget] at hkv
  | some e =>
      rw [hget] at hn
      simp only [content, hget, hn, Option.some.injEq] at hkv
      exact hkv

theorem reads_of_all {ρ : Type} {page : NDArray × NDArray → ρ}
    {read : BlockRead (RealInferenceStorageBackend cfg) ρ}
    (hsame : ∀ s l b h t, SameStore s (read s l b h t).2)
    (hread : ∀ s l blk, ReadsAll s l blk → ∀ b h t, (read s l b h t).1 = .ok (page (blk b))) :
    (view cfg).Reads page read where
  keeps := fun s l b h t hs => keeps_of_same hs (hsame s l b h t)
  returns := by
    intro s l b h t kv hs hkv
    obtain ⟨blk, hall, hblk⟩ := readsAll_of_reached hs l
    rw [hread s l blk hall b h t, hblk b kv hkv]

theorem readsBatch_of_all {ρ : Type} {page : NDArray × NDArray → ρ}
    {read : BatchRead (RealInferenceStorageBackend cfg) ρ}
    (hsame : ∀ s l bs h t, SameStore s (read s l bs h t).2)
    (hread : ∀ s l blk, ReadsAll s l blk → ∀ bs h t, ∃ out, (read s l bs h t).1 = .ok out ∧
      ∀ b, out.get? b = if b ∈ bs then some (page (blk b)) else none) :
    (view cfg).ReadsBatch page read where
  keeps := fun s l bs h t hs => keeps_of_same hs (hsame s l bs h t)
  succeeds := by
    intro s l bs h t hs _
    obtain ⟨blk, hall, _⟩ := readsAll_of_reached hs l
    obtain ⟨out, hout, _⟩ := hread s l blk hall bs h t
    exact ⟨out, hout⟩
  returns := by
    intro s l bs h t pages hs hpages b hb kv hkv
    obtain ⟨blk, hall, hblk⟩ := readsAll_of_reached hs l
    obtain ⟨out, hout, hget⟩ := hread s l blk hall bs h t
    cases hout.symm.trans hpages
    rw [hget b, if_pos hb, hblk b kv hkv]
  only := by
    intro s l bs h t pages hs hpages b hb
    obtain ⟨blk, hall, _⟩ := readsAll_of_reached hs l
    obtain ⟨out, hout, hget⟩ := hread s l blk hall bs h t
    cases hout.symm.trans hpages
    rw [hget b, if_neg hb]

theorem reached_init (hmode : KnownMode cfg) :
    Reached (init : RealInferenceStorageBackend cfg) :=
  ⟨hmode, [], current_init⟩

theorem reached_write (hs : Reached s) (l b : Nat) (k v : NDArray) (h t : Nat) :
    Reached (writeBlock s l b (.array k) (.array v) h t).2 := by
  obtain ⟨ops, hcur⟩ := hs.2
  exact ⟨hs.1, _, current_write hcur l b k v h t⟩

/-- A write of arrays with a dimension changes what is stored in its block, and only there. -/
theorem content_write (hs : Reached s) (l b : Nat) {k v : NDArray} (h t : Nat)
    (hk : k.shape ≠ []) (hv : v.shape ≠ []) :
    content (writeBlock s l b (.array k) (.array v) h t).2 =
      Function.update (content s) (l, b) (some (k, v)) := by
  obtain ⟨ops, hcur⟩ := hs.2
  obtain ⟨e, tel, hwrite, hentry⟩ := writeBlock_ok hs.1 hcur.atEnd l b k v h t
  rw [NDArray.ascontiguousarray_of_ne hk, NDArray.ascontiguousarray_of_ne hv] at hentry
  have hend : (s.file.pwrite k.data s.fileOffset).size = s.fileOffset + k.data.length := by
    rw [hcur.atEnd]
    exact ByteFile.size_pwrite_end s.file k.data
  rw [hwrite]
  funext key
  by_cases hkey : key = (l, b)
  · subst hkey
    rw [Function.update_self]
    exact content_of_holds (Dict.get?_set_self _ _ _) hentry
  · rw [Function.update_of_ne hkey]
    have hget := Dict.get?_set_of_ne s.storage e (Ne.symm hkey)
    cases hold : s.storage.get? key with
    | none => simp only [content, hget, hold]
    | some e' =>
        obtain ⟨k', v', _, hentry'⟩ := hcur.entries key e' hold
        have hkept := (hentry'.pwrite k.data (Nat.le_of_eq hcur.atEnd.symm)).pwrite v.data
          (Nat.le_of_eq hend)
        rw [content_of_holds hold hentry']
        exact content_of_holds (hget.trans hold) hkept

theorem content_evict (s : RealInferenceStorageBackend cfg) (l b : Nat) :
    content (evictBlock s l b).2 = Function.update (content s) (l, b) none := by
  funext key
  unfold evictBlock
  split
  · by_cases hkey : key = (l, b)
    · subst hkey
      simp only [content, Dict.get?_erase_self, Function.update_self]
    · rw [Function.update_of_ne hkey]
      simp only [content, Dict.get?_erase_of_ne _ (Ne.symm hkey)]
  · rename_i hnone
    by_cases hkey : key = (l, b)
    · subst hkey
      rw [Function.update_self]
      have hget : s.storage.get? (l, b) = none := by
        simpa [Dict.contains] using hnone
      simp only [content, hget]
    · rw [Function.update_of_ne hkey]

theorem reached_evict (hs : Reached s) (l b : Nat) : Reached (evictBlock s l b).2 := by
  obtain ⟨ops, hcur⟩ := hs.2
  exact ⟨hs.1, _, current_evict hcur l b⟩

theorem writeBlock_refused (hmode : ¬ KnownMode cfg) (s : RealInferenceStorageBackend cfg)
    (l b : Nat) (k v : Payload) (h t : Nat) : ∃ err, (writeBlock s l b k v h t).1 = .error err := by
  obtain ⟨name, hname⟩ : ∃ name, cfg.mappingMode = .other name := by
    simpa [KnownMode] using hmode
  unfold writeBlock
  dsimp only
  split
  · exact ⟨_, rfl⟩
  · rw [hname]
    exact ⟨_, rfl⟩

section Backend

variable {α : Type u} [Field α] [LinearOrder α] (cfg) (val : DType → Bytes → α)

/-- The backend as its callers see it, with NumPy scoring. -/
def blockBackend : BlockBackend (RealInferenceStorageBackend cfg) α where
  writeBlock := fun s l b k v h t => writeBlock s l b (.array k) (.array v) h t
  readKeyPage := readKeyPage
  readValuePage := readValuePage
  readBlock := readBlock
  readKeyPageBatch := some readKeyPageBatch
  readValuePageBatch := some readValuePageBatch
  readBlockBatch := some readBlockBatch
  evictBlock := some evictBlock
  computeTopkFilter := some (computeTopkFilter val none)
  predictAndPrefetch := none

def returnsLastWrite : (blockBackend cfg val).ReturnsLastWrite where
  toStoreView := view cfg
  write_ok := by
    intro s l b k v h t hs _ _
    obtain ⟨ops, hcur⟩ := hs.2
    obtain ⟨e, tel, hwrite, _⟩ := writeBlock_ok hs.1 hcur.atEnd l b k v h t
    exact congrArg Prod.fst hwrite
  write_valid := fun s l b k v h t hs _ _ => reached_write hs l b k v h t
  write_content := fun s l b k v h t hs hk hv => content_write hs l b h t hk hv
  key := reads_of_all sameStore_readKeyPage fun _ _ _ hall => hall.key
  value := reads_of_all sameStore_readValuePage fun _ _ _ hall => hall.value
  block := reads_of_all sameStore_readBlock fun _ _ _ hall => hall.block
  keyBatch := by
    rintro read ⟨⟩
    exact readsBatch_of_all (sameStore_readBatch _ _ sameStore_readKeyPage)
      fun _ _ _ hall => hall.keyBatch
  valueBatch := by
    rintro read ⟨⟩
    exact readsBatch_of_all (sameStore_readBatch _ _ sameStore_readValuePage)
      fun _ _ _ hall => hall.valueBatch
  blockBatch := by
    rintro read ⟨⟩
    exact readsBatch_of_all (sameStore_readBatch _ _ sameStore_readBlock)
      fun _ _ _ hall => hall.blockBatch
  evict_valid := by
    rintro evict ⟨⟩ s l b hs
    exact reached_evict hs l b
  evict_content := by
    rintro evict ⟨⟩ s l b _
    exact content_evict s l b
  topk_keeps := by
    rintro filter ⟨⟩ s l cands q k scale qh kh d hs
    exact keeps_of_same hs (sameStore_computeTopkFilter val none s l cands q k scale qh kh d)
  prefetch_ok := by
    rintro prefetch ⟨⟩
  prefetch_keeps := by
    rintro prefetch ⟨⟩

variable {cfg val}

theorem reached_step (kernel : Option (Kernel α)) (hs : Reached s) (op : Op α) :
    Reached (step cfg val kernel s op).2 := by
  cases op with
  | write l b k v head ts => exact reached_write hs l b k v head ts
  | evict l b => exact reached_evict hs l b
  | _ =>
      apply (keeps_of_same hs _).valid
      apply sameStore_step
      exact trivial

/-! ## In-storage scoring -/

theorem candidateKeys_ok (hs : Reached s) {l : Nat} {cand : Nat × Nat} {kv : NDArray × NDArray}
    (hkv : content s (l, cand.1) = some kv) :
    candidateKeys s l (candidateInfo s l cand) = .ok kv.1 := by
  obtain ⟨ops, hcur⟩ := hs.2
  cases hget : s.storage.get? (l, cand.1) with
  | none => simp [content, hget] at hkv
  | some e =>
      obtain ⟨k, v, _, hentry⟩ := hcur.entries (l, cand.1) e hget
      rw [content_of_holds hget hentry, Option.some.injEq] at hkv
      subst hkv
      have hdec := NDArray.decode_data k.ascontiguousarray
      rw [← hentry.kDtype_eq, ← hentry.kShape_eq, ← hentry.kData] at hdec
      simp only [candidateKeys, candidateInfo, hget]
      exact hdec

/-- Scoring blocks next to their candidates is scoring what is stored. -/
theorem mapM_scoreCandidate (blk : Nat → NDArray × NDArray) (cands : List (Nat × Nat))
    (query : List (List α)) (scale : α) (qHeads gqaRatio : Nat) :
    ((cands.map fun c => (blk c.1).1).zip cands).mapM
        (scoreCandidate val query scale qHeads gqaRatio) =
      cands.mapM (storedScore val blk query qHeads gqaRatio scale) := by
  induction cands with
  | nil => rfl
  | cons cand cands ih =>
      rw [List.map_cons, List.zip_cons_cons, List.mapM_cons, List.mapM_cons, ih]
      rfl

/-- The in-storage top-k is the NumPy top-k of the stored key blocks. -/
theorem scoresStored : BlockBackend.ScoresStored val (returnsLastWrite cfg val) := by
  rintro filter ⟨⟩ s l cands blk query topK scale qHeads kvHeads headDim hs hheld
  by_cases hnil : cands = []
  · subst hnil
    simp [computeTopkFilter, storedTopBids, topBy, pure, Except.pure]
  · have hkeys : (cands.map (candidateInfo s l)).mapM (candidateKeys s l) =
        .ok (cands.map fun c => (blk c.1).1) := by
      rw [List.mapM_map]
      exact mapM_ok fun c hc => candidateKeys_ok hs (hheld c hc)
    simp only [computeTopkFilter, if_neg hnil, topkResults, hkeys, scoreCandidates,
      mapM_scoreCandidate, storedTopBids]
    cases cands.mapM (storedScore val blk query qHeads
      (if kvHeads > 0 then qHeads / kvHeads else 1) scale) <;> rfl

end Backend

end AiSsd.Storage.RealInferenceStorageBackend
