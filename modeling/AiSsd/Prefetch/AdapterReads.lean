import AiSsd.Prefetch.InferenceAdapter

/-!
# What the prefetch adapter's reads change and return

A read moves blocks in the buffer and counts, and leaves all data as it was. Where the
store has a block as written, and the buffer too if it is staged, every read returns it.
-/

namespace AiSsd.Prefetch.RealInferencePrefetchAdapter

open Lib Numpy Storage
open Adapters (Astype)

universe u v

variable {σ : Type v} {α : Type u} {B : BlockBackend σ α} {A : Astype} {cfg : AdapterConfig}

def stagedData (s : RealInferencePrefetchAdapter σ) (key : Nat × Nat) :
    Option (NDArray × NDArray) :=
  (s.stagingBuffer.get? key).map fun e => (e.dataK, e.dataV)

/-! ## What the operations do to the staged data -/

@[simp] theorem stagedData_hit (s : RealInferencePrefetchAdapter σ) {key : Nat × Nat}
    {entry : StagedInferenceBlock} (sizeBytes : Nat)
    (hentry : s.stagingBuffer.get? key = some entry) :
    (hit s key entry sizeBytes).stagedData = s.stagedData := by
  funext k
  unfold stagedData hit
  dsimp only
  rw [Dict.get?_set, Dict.get?_moveToEnd]
  by_cases hk : key = k
  · subst hk
    rw [if_pos rfl, hentry]
    rfl
  · rw [if_neg hk]

theorem stagedData_stage (s : RealInferencePrefetchAdapter σ) (l bid h : Nat)
    (kv : NDArray × NDArray) :
    (stage cfg s l bid h kv).stagedData = Function.update s.stagedData (l, bid) (some kv) := by
  funext k
  unfold stagedData stage
  dsimp only
  rw [Dict.get?_set]
  by_cases hk : (l, bid) = k
  · subst hk
    rw [if_pos rfl, Function.update_self]
    rfl
  · rw [if_neg hk, Function.update_of_ne (Ne.symm hk)]

theorem get?_dropOldest (capacity fuel : Nat) (buffer : StagingBuffer) (t : AdapterTelemetry)
    {key : Nat × Nat} {e : StagedInferenceBlock}
    (h : (dropOldest capacity fuel buffer t).2.1.get? key = some e) : buffer.get? key = some e := by
  induction fuel generalizing buffer t with
  | zero => exact h
  | succ fuel ih =>
      unfold dropOldest at h
      split at h
      · split at h
        · exact h
        · rename_i old oldest rest hpop
          have hrest := ih rest _ h
          rw [Dict.get?_of_popFirst? hpop] at hrest
          split at hrest
          · cases hrest
          · exact hrest
      · exact h

variable (cfg) in
theorem ensureCapacityFor_spec (missBids : List Nat) (s : RealInferencePrefetchAdapter σ) :
    (ensureCapacityFor cfg missBids s).2.storageBackend = s.storageBackend ∧
      (ensureCapacityFor cfg missBids s).2.blockMeta = s.blockMeta ∧
      ∀ key data, (ensureCapacityFor cfg missBids s).2.stagedData key = some data →
        s.stagedData key = some data := by
  induction missBids generalizing s with
  | nil => exact ⟨rfl, rfl, fun _ _ h => h⟩
  | cons bid missBids ih =>
      have hone : ∀ key data, (ensureBufferCapacity cfg s).2.stagedData key = some data →
          s.stagedData key = some data := by
        intro key data h
        obtain ⟨e, he, hdata⟩ := Option.map_eq_some_iff.mp h
        exact Option.map_eq_some_iff.mpr ⟨e, get?_dropOldest _ _ _ _ he, hdata⟩
      have hb : (ensureBufferCapacity cfg s).2.storageBackend = s.storageBackend := rfl
      have hm : (ensureBufferCapacity cfg s).2.blockMeta = s.blockMeta := rfl
      unfold ensureCapacityFor
      revert hone hb hm
      rcases ensureBufferCapacity cfg s with ⟨_ | _, s'⟩
      · intro hone hb hm
        exact ⟨hb, hm, hone⟩
      · intro hone hb hm
        obtain ⟨hb', hm', hrest⟩ := ih s'
        exact ⟨hb'.trans hb, hm'.trans hm, fun key data h => hone key data (hrest key data h)⟩

/-! ## Reads change no data -/

structure SameData (V : B.ReturnsLastWrite) (s s' : RealInferencePrefetchAdapter σ) : Prop where
  backend : V.Keeps s.storageBackend s'.storageBackend
  staged : s'.stagedData = s.stagedData
  meta_eq : s'.blockMeta = s.blockMeta

namespace SameData

variable {V : B.ReturnsLastWrite} {s₀ s s' : RealInferencePrefetchAdapter σ}

theorem refl (h : V.Valid s.storageBackend) : SameData V s s :=
  ⟨StoreView.Keeps.refl h, rfl, rfl⟩

theorem counted (h : SameData V s₀ s) (t : AdapterTelemetry) :
    SameData V s₀ { s with telemetry := t } :=
  ⟨h.backend, h.staged, h.meta_eq⟩

theorem hit (h : SameData V s₀ s) {key : Nat × Nat} {entry : StagedInferenceBlock}
    (sizeBytes : Nat) (hentry : s.stagingBuffer.get? key = some entry) :
    SameData V s₀ (hit s key entry sizeBytes) :=
  ⟨h.backend, (stagedData_hit s sizeBytes hentry).trans h.staged, h.meta_eq⟩

theorem fetched (h : SameData V s₀ s) {b : σ} (hb : V.Keeps s.storageBackend b) :
    SameData V s₀ { s with storageBackend := b } :=
  ⟨h.backend.trans hb, h.staged, h.meta_eq⟩

variable (cfg) in
theorem readSingle {ρ : Type} {page : NDArray × NDArray → ρ} {fetch : BlockRead σ ρ}
    (hfetch : V.Reads page fetch) (sizeBytes : Nat)
    (staged : List Nat → NDArray × NDArray → Except PyErr ρ) (h : SameData V s₀ s)
    (l b hd t : Nat) : SameData V s₀ (readSingle cfg sizeBytes staged fetch s l b hd t).2 := by
  unfold RealInferencePrefetchAdapter.readSingle
  split
  · rename_i entry hentry
    exact h.hit sizeBytes hentry
  · have hmiss : SameData V s₀ (countMiss s) := h.counted _
    generalize countMiss s = m at hmiss ⊢
    have hkeep := hfetch.keeps m.storageBackend l b hd t hmiss.backend.valid
    revert hkeep
    dsimp only
    rcases fetch m.storageBackend l b hd t with ⟨_ | ret, b'⟩
    · intro hkeep
      exact hmiss.fetched hkeep
    · intro hkeep
      exact (hmiss.fetched hkeep).counted _

variable (cfg) in
theorem collectHits {ρ : Type} (sizeBytes : Nat)
    (staged : List Nat → NDArray × NDArray → Except PyErr ρ) (l : Nat) (bids : List Nat)
    (results : Dict Nat ρ) (missBids : List Nat) (h : SameData V s₀ s) :
    SameData V s₀ (collectHits cfg sizeBytes staged l bids results missBids s).2 := by
  induction bids generalizing results missBids s with
  | nil => exact h
  | cons bid bids ih =>
      unfold RealInferencePrefetchAdapter.collectHits
      split
      · rename_i entry hentry
        split
        · exact h.hit sizeBytes hentry
        · exact ih _ _ (h.hit sizeBytes hentry)
      · exact ih _ _ (h.counted _)

end SameData

theorem metaShape_of_same {V : B.ReturnsLastWrite} {s s' : RealInferencePrefetchAdapter σ}
    (h : SameData V s s') (key : Nat × Nat) : metaShape cfg s' key = metaShape cfg s key := by
  unfold metaShape
  rw [h.meta_eq]

/-! ## Reads of blocks that are stored, and staged as they are stored -/

section Reads

variable (V : B.ReturnsLastWrite) (written : Nat × Nat → Option (NDArray × NDArray))
  (s₀ : RealInferencePrefetchAdapter σ)

/-- The states with the data of `s₀`, all of which hold what was written. -/
def fixedView : StoreView (RealInferencePrefetchAdapter σ) := ⟨SameData V s₀, fun _ => written⟩

variable {V s₀} (cfg) {ρ : Type} {page : NDArray × NDArray → ρ}
  {staged : List Nat → NDArray × NDArray → Except PyErr ρ} (sizeBytes : Nat)
  (hstored : ∀ key kv, written key = some kv → V.content s₀.storageBackend key = some kv)
  (hstaged : ∀ key kv data, written key = some kv → s₀.stagedData key = some data →
    staged (metaShape cfg s₀ key) data = .ok (page kv))

include hstored hstaged

theorem readSingle_reads {fetch : BlockRead σ ρ} (hfetch : V.Reads page fetch) :
    (fixedView V written s₀).Reads page (readSingle cfg sizeBytes staged fetch) where
  keeps := fun _ l b h t hs => ⟨SameData.readSingle cfg hfetch sizeBytes staged hs l b h t, rfl⟩
  returns := by
    intro s l b h t kv (hs : SameData V s₀ s) (hkv : written (l, b) = some kv)
    unfold readSingle
    split
    · rename_i entry hentry
      have hdata : s₀.stagedData (l, b) = some (entry.dataK, entry.dataV) := by
        rw [← hs.staged, stagedData, hentry]
        rfl
      rw [metaShape_of_same hs]
      exact hstaged (l, b) kv _ hkv hdata
    · have hret : (fetch s.storageBackend l b h t).1 = .ok (page kv) := by
        apply hfetch.returns s.storageBackend l b h t kv hs.backend.valid
        rw [hs.backend.content_eq]
        exact hstored (l, b) kv hkv
      revert hret
      dsimp only [countMiss]
      rcases fetch s.storageBackend l b h t with ⟨_ | ret, b'⟩
      · rintro ⟨⟩
      · rintro ⟨⟩
        rfl

omit hstored in
/-- The hits of a batch answer their pages and the rest is what missed. -/
theorem collectHits_ok {l : Nat} (bids : List Nat) (results : Dict Nat ρ) (missBids : List Nat)
    {s : RealInferencePrefetchAdapter σ} (hs : SameData V s₀ s) {results' : Dict Nat ρ}
    {missBids' : List Nat}
    (hloop : (collectHits cfg sizeBytes staged l bids results missBids s).1 =
      .ok (results', missBids')) (b : Nat) :
    (∀ kv, written (l, b) = some kv →
        (b ∈ bids ∨ b ∈ missBids ∨ results.get? b = some (page kv)) →
          b ∈ missBids' ∨ results'.get? b = some (page kv)) ∧
      (b ∉ bids → results'.get? b = results.get? b) ∧
      (b ∈ missBids' → b ∈ missBids ∨ b ∈ bids) := by
  induction bids generalizing results missBids s with
  | nil =>
      cases hloop
      refine ⟨?_, fun _ => rfl, fun hb => Or.inl hb⟩
      rintro kv - (hb | hb | hb)
      · exact absurd hb List.not_mem_nil
      · exact Or.inl hb
      · exact Or.inr hb
  | cons bid bids ih =>
      unfold collectHits at hloop
      split at hloop
      · rename_i entry hentry
        split at hloop
        · cases hloop
        · rename_i ret hret
          obtain ⟨hgood, hrest, hmiss⟩ :=
            ih (results.set bid ret) missBids (hs.hit sizeBytes hentry) hloop
          refine ⟨?_, ?_, ?_⟩
          · intro kv hkv hb
            apply hgood kv hkv
            by_cases heq : bid = b
            · subst heq
              have hdata : s₀.stagedData (l, bid) = some (entry.dataK, entry.dataV) := by
                rw [← hs.staged, stagedData, hentry]
                rfl
              have hpage := hstaged (l, bid) kv _ hkv hdata
              rw [metaShape_of_same hs, hpage] at hret
              cases hret
              exact Or.inr (Or.inr (Dict.get?_set_self _ _ _))
            · rw [Dict.get?_set_of_ne _ _ heq]
              simpa [Ne.symm heq] using hb
          · intro hnot
            rw [List.mem_cons, not_or] at hnot
            rw [hrest hnot.2, Dict.get?_set_of_ne _ _ (Ne.symm hnot.1)]
          · intro hb
            exact (hmiss hb).imp_right (List.mem_cons_of_mem bid)
      · obtain ⟨hgood, hrest, hmiss⟩ := ih results (missBids ++ [bid]) (hs.counted _) hloop
        refine ⟨?_, ?_, ?_⟩
        · intro kv hkv hb
          apply hgood kv hkv
          simp only [List.mem_cons, List.mem_append] at hb ⊢
          tauto
        · intro hnot
          exact hrest fun hb => hnot (List.mem_cons_of_mem bid hb)
        · intro hb
          have hmem := hmiss hb
          simp only [List.mem_cons, List.mem_append] at hmem ⊢
          tauto

omit hstored in
theorem collectHits_succeeds {l : Nat} (bids : List Nat) (results : Dict Nat ρ)
    (missBids : List Nat) {s : RealInferencePrefetchAdapter σ} (hs : SameData V s₀ s)
    (hheld : ∀ b ∈ bids, (written (l, b)).isSome) :
    ∃ r, (collectHits cfg sizeBytes staged l bids results missBids s).1 = .ok r := by
  induction bids generalizing results missBids s with
  | nil => exact ⟨_, rfl⟩
  | cons bid bids ih =>
      have htail : ∀ b ∈ bids, (written (l, b)).isSome :=
        fun b hb => hheld b (List.mem_cons_of_mem bid hb)
      unfold collectHits
      split
      · rename_i entry hentry
        obtain ⟨kv, hkv⟩ := Option.isSome_iff_exists.mp (hheld bid List.mem_cons_self)
        have hdata : s₀.stagedData (l, bid) = some (entry.dataK, entry.dataV) := by
          rw [← hs.staged, stagedData, hentry]
          rfl
        rw [metaShape_of_same hs, hstaged (l, bid) kv _ hkv hdata]
        exact ih _ _ (hs.hit sizeBytes hentry) htail
      · exact ih _ _ (hs.counted _) htail

omit hstaged in
/-- The misses of a batch answer their pages on top of what the hits answered. -/
theorem fetchMisses_spec {batch : Option (BatchRead σ ρ)}
    (hbatch : ∀ read ∈ batch, V.ReadsBatch page read)
    {single : BlockRead (RealInferencePrefetchAdapter σ) ρ}
    (hsingle : (fixedView V written s₀).Reads page single) {s : RealInferencePrefetchAdapter σ}
    (hs : SameData V s₀ s) (l : Nat) (missBids : List Nat) (h t : Nat) (results : Dict Nat ρ) :
    SameData V s₀ (fetchMisses batch single s l missBids h t results).2 ∧
      ((∀ b ∈ missBids, (written (l, b)).isSome) →
        ∃ pages, (fetchMisses batch single s l missBids h t results).1 = .ok pages) ∧
      ∀ pages, (fetchMisses batch single s l missBids h t results).1 = .ok pages → ∀ b,
        (b ∈ missBids → ∀ kv, written (l, b) = some kv → pages.get? b = some (page kv)) ∧
          (b ∉ missBids → pages.get? b = results.get? b) := by
  unfold fetchMisses
  split
  · rename_i hnil
    subst hnil
    refine ⟨hs, fun _ => ⟨results, rfl⟩, ?_⟩
    rintro pages ⟨⟩ b
    exact ⟨fun hb => absurd hb List.not_mem_nil, fun _ => rfl⟩
  cases batch with
  | none =>
      have hkeep : (fixedView V written s₀).Keeps s s := StoreView.Keeps.refl hs
      refine ⟨?_, ?_, ?_⟩
      · exact (StoreView.keeps_readEach (fun s b hs => hsingle.keeps s l b h t hs) missBids results
          (w := fixedView V written s₀) hs).valid
      · intro hheld
        obtain ⟨pages, s', hloop, _⟩ := hsingle.readEach missBids results hkeep hheld
        exact ⟨pages, congrArg Prod.fst hloop⟩
      · intro pages hpages b
        exact hsingle.readEach_ok missBids results hkeep hpages b
  | some read =>
      have hread := hbatch read rfl
      have hvalid := hs.backend.valid
      have hcontent : ∀ b kv, written (l, b) = some kv →
          V.content s.storageBackend (l, b) = some kv := by
        intro b kv hkv
        rw [hs.backend.content_eq]
        exact hstored (l, b) kv hkv
      refine ⟨hs.fetched (hread.keeps s.storageBackend l missBids h t hvalid), ?_, ?_⟩
      · intro hheld
        have hstill : ∀ b ∈ missBids, (V.content s.storageBackend (l, b)).isSome := by
          intro b hb
          obtain ⟨kv, hkv⟩ := Option.isSome_iff_exists.mp (hheld b hb)
          rw [hcontent b kv hkv]
          rfl
        obtain ⟨fetched, hfetched⟩ :=
          hread.succeeds s.storageBackend l missBids h t hvalid hstill
        refine ⟨results.update fetched, ?_⟩
        simp only [hfetched]
        rfl
      · intro pages hpages b
        cases hfetched : (read s.storageBackend l missBids h t).1 with
        | error err =>
            simp only [hfetched] at hpages
            cases hpages
        | ok fetched =>
            simp only [hfetched] at hpages
            cases hpages
            rw [Dict.get?_update]
            refine ⟨?_, ?_⟩
            · intro hb kv hkv
              rw [hread.returns s.storageBackend l missBids h t fetched hvalid hfetched b hb kv
                (hcontent b kv hkv)]
              rfl
            · intro hb
              rw [hread.only s.storageBackend l missBids h t fetched hvalid hfetched b hb]
              rfl

variable (staged) in
/-- A batch that is read has the pages of its written blocks and nothing else. -/
theorem readBatch_spec {batch : Option (BatchRead σ ρ)}
    (hbatch : ∀ read ∈ batch, V.ReadsBatch page read)
    {single : BlockRead (RealInferencePrefetchAdapter σ) ρ}
    (hsingle : (fixedView V written s₀).Reads page single) {s : RealInferencePrefetchAdapter σ}
    (hs : SameData V s₀ s) (l : Nat) (bids : List Nat) (h t : Nat) :
    SameData V s₀ (readBatch cfg sizeBytes staged batch single s l bids h t).2 ∧
      ((∀ b ∈ bids, (written (l, b)).isSome) →
        ∃ pages, (readBatch cfg sizeBytes staged batch single s l bids h t).1 = .ok pages) ∧
      ∀ pages, (readBatch cfg sizeBytes staged batch single s l bids h t).1 = .ok pages → ∀ b,
        (b ∈ bids → ∀ kv, written (l, b) = some kv → pages.get? b = some (page kv)) ∧
          (b ∉ bids → pages.get? b = none) := by
  unfold readBatch
  split
  · rename_i hnil
    subst hnil
    refine ⟨hs, fun _ => ⟨_, rfl⟩, ?_⟩
    rintro pages ⟨⟩ b
    exact ⟨fun hb => absurd hb List.not_mem_nil, fun _ => rfl⟩
  have hsame := hs.collectHits cfg sizeBytes staged l bids Dict.empty []
  have hsucc := collectHits_succeeds cfg written sizeBytes hstaged bids Dict.empty [] hs (l := l)
  have hok : ∀ results missBids,
      (collectHits cfg sizeBytes staged l bids Dict.empty [] s).1 = .ok (results, missBids) → _ :=
    fun _ _ hloop => collectHits_ok cfg written sizeBytes hstaged bids Dict.empty [] hs hloop
  revert hsame hsucc hok
  rcases collectHits cfg sizeBytes staged l bids Dict.empty [] s with ⟨err | ⟨results, missBids⟩, s₁⟩
  · intro hsame hsucc _
    refine ⟨hsame, ?_, ?_⟩
    · intro hheld
      obtain ⟨_, hr⟩ := hsucc hheld
      cases hr
    · rintro pages ⟨⟩
  intro hsame _ hok
  have hhits := hok results missBids rfl
  obtain ⟨hkeep, hsucceeds, hpages⟩ :=
    fetchMisses_spec written hstored hbatch hsingle hsame l missBids h t results
  dsimp only
  revert hkeep hsucceeds hpages
  rcases fetchMisses batch single s₁ l missBids h t results with ⟨err | pages, s₂⟩
  · intro hkeep hsucceeds _
    refine ⟨hkeep, ?_, ?_⟩
    · intro hheld
      obtain ⟨_, hr⟩ := hsucceeds fun b hb => hheld b (by simpa using (hhits b).2.2 hb)
      cases hr
    · rintro pages ⟨⟩
  intro hkeep _ hpages
  refine ⟨(hkeep.counted _).counted _, fun _ => ⟨pages, rfl⟩, ?_⟩
  rintro pages ⟨⟩ b
  obtain ⟨hin, hout⟩ := hpages pages rfl b
  obtain ⟨hgood, hrest, hmiss⟩ := hhits b
  refine ⟨?_, ?_⟩
  · intro hb kv hkv
    by_cases hm : b ∈ missBids
    · exact hin hm kv hkv
    · rw [hout hm]
      exact (hgood kv hkv (Or.inl hb)).resolve_left hm
  · intro hb
    have hm : b ∉ missBids := fun hm => hb (by simpa using hmiss hm)
    rw [hout hm, hrest hb]
    rfl

end Reads

/-- Any batch read, whatever the states hold. -/
theorem sameData_readBatch {V : B.ReturnsLastWrite} {s : RealInferencePrefetchAdapter σ} {ρ : Type}
    {page : NDArray × NDArray → ρ} {fetch : BlockRead σ ρ} (hfetch : V.Reads page fetch)
    {batch : Option (BatchRead σ ρ)} (hbatch : ∀ read ∈ batch, V.ReadsBatch page read)
    (sizeBytes : Nat) (stagedOne stagedMany : List Nat → NDArray × NDArray → Except PyErr ρ)
    (hs : V.Valid s.storageBackend) (l : Nat) (bids : List Nat) (h t : Nat) :
    SameData V s (readBatch cfg sizeBytes stagedMany batch
      (readSingle cfg sizeBytes stagedOne fetch) s l bids h t).2 := by
  have hstored : ∀ key kv, (none : Option (NDArray × NDArray)) = some kv →
      V.content s.storageBackend key = some kv := fun _ _ hkv => by cases hkv
  have hone : ∀ key kv data, (none : Option (NDArray × NDArray)) = some kv →
      s.stagedData key = some data → stagedOne (metaShape cfg s key) data = .ok (page kv) :=
    fun _ _ _ hkv => by cases hkv
  have hmany : ∀ key kv data, (none : Option (NDArray × NDArray)) = some kv →
      s.stagedData key = some data → stagedMany (metaShape cfg s key) data = .ok (page kv) :=
    fun _ _ _ hkv => by cases hkv
  have hsingle := readSingle_reads cfg (fun _ => none) sizeBytes hstored hone hfetch
  exact (readBatch_spec cfg (fun _ => none) stagedMany sizeBytes hstored hmany hbatch hsingle
    (SameData.refl hs) l bids h t).1

end AiSsd.Prefetch.RealInferencePrefetchAdapter
