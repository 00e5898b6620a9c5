import AiSsd.Prefetch.Pipeline

/-!
# What reads and writes of the adapter leave alone

Every read is made of hits, counters and calls of the backend: a relation between states that
these keep is kept by all six reads, whether they return or wait. A read stages and drops
nothing, gives no entry a future, and leaves the background fetches and the metadata as they
are. A write touches no entry and no fetch.
-/

namespace AiSsd.Prefetch.Async.RealInferencePrefetchAdapter

open Lib Numpy Storage
open Prefetch.RealInferencePrefetchAdapter (asStored)

universe v

variable {σ : Type v} {B : Backend σ} {cfg : AdapterConfig}

theorem readSingle_unstaged {ρ : Type} {s : RealInferencePrefetchAdapter σ} {l b : Nat}
    (hnone : s.stagingBuffer.get? (l, b) = none) (sizeBytes : Nat)
    (staged : List Nat → Option (NDArray × NDArray) → Except PyErr ρ)
    (fetch : BlockRead (RealInferencePrefetchAdapter σ) ρ) (h t : Nat) :
    (readSingle cfg sizeBytes staged fetch s l b h t).1 =
      .returns (fetch (countMiss s) l b h t).1 := by
  unfold readSingle
  simp only [hnone]
  rcases fetch (countMiss s) l b h t with ⟨_ | ret, s'⟩ <;> rfl

/-! ## What a read is made of -/

structure SamePrefetches (t t' : AdapterTelemetry) : Prop where
  requests : t'.prefetchRequests = t.prefetchRequests
  useful : t'.usefulPrefetches = t.usefulPrefetches
  useless : t'.uselessPrefetches = t.uselessPrefetches

namespace SamePrefetches

theorem refl (t : AdapterTelemetry) : SamePrefetches t t := ⟨rfl, rfl, rfl⟩

theorem trans {t t' t'' : AdapterTelemetry} (h : SamePrefetches t t')
    (h' : SamePrefetches t' t'') : SamePrefetches t t'' :=
  ⟨h'.requests.trans h.requests, h'.useful.trans h.useful, h'.useless.trans h.useless⟩

end SamePrefetches

theorem samePrefetches_recordMisses (s : RealInferencePrefetchAdapter σ) (sizeBytes : Nat)
    (missBids : List Nat) :
    SamePrefetches s.telemetry (recordMisses s sizeBytes missBids).telemetry := by
  unfold recordMisses
  dsimp only
  generalize s.telemetry = t
  induction missBids generalizing t with
  | nil => exact SamePrefetches.refl t
  | cons bid missBids ih =>
      have hone : SamePrefetches t (t.recordMiss sizeBytes) := ⟨rfl, rfl, rfl⟩
      exact hone.trans (ih (t.recordMiss sizeBytes))

/-- A relation between the states before and after that hits keep, and counters that count no
prefetch. -/
structure CountingRelation
    (R : RealInferencePrefetchAdapter σ → RealInferencePrefetchAdapter σ → Prop) : Prop where
  refl : ∀ s, R s s
  trans : ∀ {s s' s''}, R s s' → R s' s'' → R s s''
  counted : ∀ s t, SamePrefetches s.telemetry t → R s { s with telemetry := t }
  ofHit : ∀ s key entry sizeBytes, s.stagingBuffer.get? key = some entry →
    R s (hit s key entry sizeBytes).2

namespace CountingRelation

variable {ρ : Type} {R : RealInferencePrefetchAdapter σ → RealInferencePrefetchAdapter σ → Prop}

theorem countMiss (hR : CountingRelation R) (s : RealInferencePrefetchAdapter σ) :
    R s (countMiss s) :=
  hR.counted s _ ⟨rfl, rfl, rfl⟩

theorem readSingle (hR : CountingRelation R) (sizeBytes : Nat)
    (staged : List Nat → Option (NDArray × NDArray) → Except PyErr ρ)
    {fetch : BlockRead (RealInferencePrefetchAdapter σ) ρ}
    (hfetch : ∀ s l b h t, R s (fetch s l b h t).2) (s : RealInferencePrefetchAdapter σ)
    (l b h t : Nat) : R s (readSingle cfg sizeBytes staged fetch s l b h t).2 := by
  unfold RealInferencePrefetchAdapter.readSingle
  dsimp only
  split
  · rename_i entry hentry
    have hhit := hR.ofHit s (l, b) entry sizeBytes hentry
    revert hhit
    rcases hit s (l, b) entry sizeBytes with ⟨(_ | _) | _, s'⟩ <;> exact id
  · have hmiss : R s (fetch (RealInferencePrefetchAdapter.countMiss s) l b h t).2 :=
      hR.trans (hR.countMiss s) (hfetch (RealInferencePrefetchAdapter.countMiss s) l b h t)
    revert hmiss
    rcases fetch (RealInferencePrefetchAdapter.countMiss s) l b h t with ⟨_ | ret, s'⟩
    · exact id
    · intro hmiss
      exact hR.trans hmiss (hR.counted s' _ (samePrefetches_recordMisses s' sizeBytes [b]))

theorem collectHits (hR : CountingRelation R) (sizeBytes : Nat)
    (staged : List Nat → Option (NDArray × NDArray) → Except PyErr ρ) (l : Nat) (bids : List Nat)
    (results : Dict Nat ρ) (missBids : List Nat) (s : RealInferencePrefetchAdapter σ) :
    R s (collectHits cfg sizeBytes staged l bids results missBids s).2 := by
  induction bids generalizing results missBids s with
  | nil => exact hR.refl s
  | cons bid bids ih =>
      unfold RealInferencePrefetchAdapter.collectHits
      dsimp only
      split
      · rename_i entry hentry
        have hhit := hR.ofHit s (l, bid) entry sizeBytes hentry
        revert hhit
        rcases hit s (l, bid) entry sizeBytes with ⟨(_ | data) | _, s'⟩
        · exact id
        · intro hhit
          dsimp only
          split
          · exact hhit
          · exact hR.trans hhit (ih _ _ s')
        · exact id
      · exact hR.trans (hR.countMiss s) (ih _ _ (RealInferencePrefetchAdapter.countMiss s))

theorem readMissesEach (hR : CountingRelation R) {single : AdapterRead σ ρ}
    (hsingle : ∀ s l b h t, R s (single s l b h t).2) (l h t : Nat) (bids : List Nat)
    (results : Dict Nat ρ) (s : RealInferencePrefetchAdapter σ) :
    R s (readMissesEach single l h t bids results s).2 := by
  induction bids generalizing results s with
  | nil => exact hR.refl s
  | cons bid bids ih =>
      have hone := hsingle s l bid h t
      unfold RealInferencePrefetchAdapter.readMissesEach
      revert hone
      rcases single s l bid h t with ⟨(_ | ret) | _, s'⟩
      · exact id
      · intro hone
        exact hR.trans hone (ih _ s')
      · exact id

theorem readBatch (hR : CountingRelation R) (sizeBytes : Nat)
    (staged : List Nat → Option (NDArray × NDArray) → Except PyErr ρ)
    {batch : Option (BatchRead σ ρ)} {single : AdapterRead σ ρ}
    (hbatch : ∀ read ∈ batch, ∀ s l bs h t,
      R s { s with storageBackend := (read s.storageBackend l bs h t).2 })
    (hsingle : ∀ s l b h t, R s (single s l b h t).2) (s : RealInferencePrefetchAdapter σ)
    (l : Nat) (bids : List Nat) (h t : Nat) :
    R s (readBatch cfg sizeBytes staged batch single s l bids h t).2 := by
  unfold RealInferencePrefetchAdapter.readBatch
  split
  · exact hR.refl s
  have hcollect := @collectHits σ cfg ρ R hR sizeBytes staged l bids Dict.empty [] s
  revert hcollect
  rcases RealInferencePrefetchAdapter.collectHits cfg sizeBytes staged l bids Dict.empty [] s with
    ⟨(_ | ⟨results, missBids⟩) | _, s₁⟩
  · exact id
  · intro hcollect
    have hmiss : R s₁ (fetchMisses batch single s₁ l missBids h t results).2 := by
      unfold fetchMisses
      split
      · exact hR.refl s₁
      · split
        · exact hbatch _ rfl s₁ l missBids h t
        · exact hR.readMissesEach hsingle l h t missBids results s₁
    dsimp only
    revert hmiss
    rcases fetchMisses batch single s₁ l missBids h t results with ⟨(_ | pages) | _, s₂⟩
    · intro hmiss
      exact hR.trans hcollect hmiss
    · intro hmiss
      have hcounted := samePrefetches_recordMisses s₂ sizeBytes missBids
      exact hR.trans (hR.trans hcollect hmiss) (hR.counted s₂ _ ⟨hcounted.1, hcounted.2, hcounted.3⟩)
    · intro _
      exact hR.refl s
  · intro _
    exact hR.refl s

end CountingRelation

structure ReadRelation (R : RealInferencePrefetchAdapter σ → RealInferencePrefetchAdapter σ → Prop) :
    Prop where
  refl : ∀ s, R s s
  trans : ∀ {s s' s''}, R s s' → R s' s'' → R s s''
  counted : ∀ s t, R s { s with telemetry := t }
  ofHit : ∀ s key entry sizeBytes, s.stagingBuffer.get? key = some entry →
    R s (hit s key entry sizeBytes).2

namespace ReadRelation

variable {ρ : Type} {R : RealInferencePrefetchAdapter σ → RealInferencePrefetchAdapter σ → Prop}

theorem counting (hR : ReadRelation R) : CountingRelation R :=
  ⟨hR.refl, hR.trans, fun s t _ => hR.counted s t, hR.ofHit⟩

theorem readSingle (hR : ReadRelation R) (sizeBytes : Nat)
    (staged : List Nat → Option (NDArray × NDArray) → Except PyErr ρ)
    {fetch : BlockRead (RealInferencePrefetchAdapter σ) ρ}
    (hfetch : ∀ s l b h t, R s (fetch s l b h t).2) (s : RealInferencePrefetchAdapter σ)
    (l b h t : Nat) : R s (readSingle cfg sizeBytes staged fetch s l b h t).2 :=
  hR.counting.readSingle sizeBytes staged hfetch s l b h t

theorem collectHits (hR : ReadRelation R) (sizeBytes : Nat)
    (staged : List Nat → Option (NDArray × NDArray) → Except PyErr ρ) (l : Nat) (bids : List Nat)
    (results : Dict Nat ρ) (missBids : List Nat) (s : RealInferencePrefetchAdapter σ) :
    R s (collectHits cfg sizeBytes staged l bids results missBids s).2 :=
  hR.counting.collectHits sizeBytes staged l bids results missBids s

theorem readBatch (hR : ReadRelation R) (sizeBytes : Nat)
    (staged : List Nat → Option (NDArray × NDArray) → Except PyErr ρ)
    {batch : Option (BatchRead σ ρ)} {single : AdapterRead σ ρ}
    (hbatch : ∀ read ∈ batch, ∀ s l bs h t,
      R s { s with storageBackend := (read s.storageBackend l bs h t).2 })
    (hsingle : ∀ s l b h t, R s (single s l b h t).2) (s : RealInferencePrefetchAdapter σ)
    (l : Nat) (bids : List Nat) (h t : Nat) :
    R s (readBatch cfg sizeBytes staged batch single s l bids h t).2 :=
  hR.counting.readBatch sizeBytes staged hbatch hsingle s l bids h t

end ReadRelation

/-! ## What is left alone -/

/-- The same blocks are staged, no entry has a future it had not, and nothing but entries,
counters and backend is changed. -/
structure ReadOnly (s s' : RealInferencePrefetchAdapter σ) : Prop where
  contains_eq : ∀ key, s'.stagingBuffer.contains key = s.stagingBuffer.contains key
  size_eq : s'.stagingBuffer.size = s.stagingBuffer.size
  futures_eq : s'.futures = s.futures
  meta_eq : s'.blockMeta = s.blockMeta
  future_of : ∀ key entry' future, s'.stagingBuffer.get? key = some entry' →
    entry'.future = some future →
    ∃ entry, s.stagingBuffer.get? key = some entry ∧ entry.future = some future

namespace ReadOnly

variable {s s' s'' : RealInferencePrefetchAdapter σ}

theorem refl (s : RealInferencePrefetchAdapter σ) : ReadOnly s s :=
  ⟨fun _ => rfl, rfl, rfl, rfl, fun _ entry _ hentry hfuture => ⟨entry, hentry, hfuture⟩⟩

theorem trans (h : ReadOnly s s') (h' : ReadOnly s' s'') : ReadOnly s s'' where
  contains_eq := fun key => (h'.contains_eq key).trans (h.contains_eq key)
  size_eq := h'.size_eq.trans h.size_eq
  futures_eq := h'.futures_eq.trans h.futures_eq
  meta_eq := h'.meta_eq.trans h.meta_eq
  future_of := by
    intro key entry'' future hentry'' hfuture''
    obtain ⟨entry', hentry', hfuture'⟩ := h'.future_of key entry'' future hentry'' hfuture''
    exact h.future_of key entry' future hentry' hfuture'

theorem counted (h : ReadOnly s s') (t : AdapterTelemetry) :
    ReadOnly s { s' with telemetry := t } :=
  ⟨h.contains_eq, h.size_eq, h.futures_eq, h.meta_eq, h.future_of⟩

theorem fetched (h : ReadOnly s s') (b : σ) : ReadOnly s { s' with storageBackend := b } :=
  ⟨h.contains_eq, h.size_eq, h.futures_eq, h.meta_eq, h.future_of⟩

end ReadOnly

/-! ## Entries set in place -/

theorem contains_set_of_some {d : StagingBuffer} {key : Nat × Nat} {e : StagedInferenceBlock}
    (h : d.get? key = some e) (e' : StagedInferenceBlock) (k : Nat × Nat) :
    (d.set key e').contains k = d.contains k := by
  rw [Dict.contains_set]
  by_cases hk : key = k
  · subst hk
    simp [Dict.contains, h]
  · simp [hk]

theorem size_set_of_some {d : StagingBuffer} {key : Nat × Nat} {e : StagedInferenceBlock}
    (h : d.get? key = some e) (e' : StagedInferenceBlock) : (d.set key e').size = d.size := by
  rw [Dict.size_set, if_pos (by simp [Dict.contains, h])]

theorem populateOne_keys (l : Nat) (buffer : StagingBuffer) (pair : Nat × NDArray × NDArray) :
    (∀ key, (populateOne l buffer pair).contains key = buffer.contains key) ∧
      (populateOne l buffer pair).size = buffer.size := by
  unfold populateOne
  split
  · rename_i entry hentry
    exact ⟨fun key => contains_set_of_some hentry _ key, size_set_of_some hentry _⟩
  · exact ⟨fun _ => rfl, rfl⟩

theorem populate_keys (l : Nat) (batch : Dict Nat (NDArray × NDArray)) (buffer : StagingBuffer) :
    (∀ key, (populate l batch buffer).contains key = buffer.contains key) ∧
      (populate l batch buffer).size = buffer.size := by
  unfold populate
  generalize batch.entries = pairs
  induction pairs generalizing buffer with
  | nil => exact ⟨fun _ => rfl, rfl⟩
  | cons pair pairs ih =>
      obtain ⟨hcontains, hsize⟩ := ih (populateOne l buffer pair)
      obtain ⟨hcontains', hsize'⟩ := populateOne_keys l buffer pair
      exact ⟨fun key => (hcontains key).trans (hcontains' key), hsize.trans hsize'⟩

theorem populateOne_future (l : Nat) (buffer : StagingBuffer) (pair : Nat × NDArray × NDArray)
    (key : Nat × Nat) (entry' : StagedInferenceBlock) (future : Nat)
    (hentry' : (populateOne l buffer pair).get? key = some entry')
    (hfuture : entry'.future = some future) :
    ∃ entry, buffer.get? key = some entry ∧ entry.future = some future := by
  unfold populateOne at hentry'
  split at hentry'
  · rw [Dict.get?_set] at hentry'
    split at hentry'
    · -- the entry the pair was put into has none
      cases hentry'
      cases hfuture
    · exact ⟨entry', hentry', hfuture⟩
  · exact ⟨entry', hentry', hfuture⟩

theorem populate_future (l : Nat) (batch : Dict Nat (NDArray × NDArray)) (buffer : StagingBuffer)
    (key : Nat × Nat) (entry' : StagedInferenceBlock) (future : Nat)
    (hentry' : (populate l batch buffer).get? key = some entry')
    (hfuture : entry'.future = some future) :
    ∃ entry, buffer.get? key = some entry ∧ entry.future = some future := by
  unfold populate at hentry'
  generalize batch.entries = pairs at hentry'
  induction pairs generalizing buffer with
  | nil => exact ⟨entry', hentry', hfuture⟩
  | cons pair pairs ih =>
      obtain ⟨entry, hentry, hentryFuture⟩ := ih (populateOne l buffer pair) hentry'
      exact populateOne_future l buffer pair key entry future hentry hentryFuture

theorem readOnly_resolveEntry (s : RealInferencePrefetchAdapter σ)
    (entry : StagedInferenceBlock) : ReadOnly s (resolveEntry s entry).2 := by
  unfold resolveEntry
  split
  · exact ReadOnly.refl s
  · split
    · exact ReadOnly.refl s
    · rename_i fetch _
      split
      · exact ReadOnly.refl s
      · exact ReadOnly.refl s
      · obtain ⟨hcontains, hsize⟩ := populate_keys entry.layerId fetch.fetched s.stagingBuffer
        exact ⟨hcontains, hsize, rfl, rfl, populate_future entry.layerId fetch.fetched _⟩

theorem readOnly_hit {s : RealInferencePrefetchAdapter σ} {key : Nat × Nat}
    {entry : StagedInferenceBlock} (hentry : s.stagingBuffer.get? key = some entry)
    (sizeBytes : Nat) : ReadOnly s (hit s key entry sizeBytes).2 := by
  have hresolve := readOnly_resolveEntry s entry
  unfold hit
  revert hresolve
  rcases resolveEntry s entry with ⟨(_ | _) | _, s'⟩
  · exact id
  · intro hresolve
    -- the entry is still staged after its resolution
    have hstaged : s'.stagingBuffer.contains key = true := by
      rw [hresolve.contains_eq key]
      simp [Dict.contains, hentry]
    obtain ⟨e, he⟩ := Option.isSome_iff_exists.mp hstaged
    have he' : (s'.stagingBuffer.moveToEnd key).get? key = some e := by
      rw [Dict.get?_moveToEnd, he]
    refine hresolve.trans ⟨fun k => ?_, ?_, rfl, rfl, ?_⟩
    · exact (contains_set_of_some he' _ k).trans (Dict.contains_moveToEnd _ _ _)
    · exact (size_set_of_some he' _).trans (Dict.size_moveToEnd _ _)
    · intro k entry' future hget hfuture
      dsimp only at hget
      rw [Dict.get?_set, Dict.get?_moveToEnd] at hget
      split at hget
      · rename_i hk
        subst hk
        cases hget
        exact ⟨e, he, by rw [he] at hfuture; exact hfuture⟩
      · exact ⟨entry', hget, hfuture⟩
  · exact id

theorem readRelation_readOnly : ReadRelation (@ReadOnly σ) where
  refl := ReadOnly.refl
  trans := ReadOnly.trans
  counted := fun s t => (ReadOnly.refl s).counted t
  ofHit := fun _ _ _ sizeBytes hentry => readOnly_hit hentry sizeBytes

/-! ## Reads -/

theorem readOnly_readKeyPage (s : RealInferencePrefetchAdapter σ) (l b h t : Nat) :
    ReadOnly s (readKeyPage B cfg s l b h t).2 :=
  readRelation_readOnly.readSingle _ _ (fun s _ _ _ _ => (ReadOnly.refl s).fetched _) s l b h t

theorem readOnly_readValuePage (s : RealInferencePrefetchAdapter σ) (l b h t : Nat) :
    ReadOnly s (readValuePage B cfg s l b h t).2 :=
  readRelation_readOnly.readSingle _ _ (fun s _ _ _ _ => (ReadOnly.refl s).fetched _) s l b h t

theorem readOnly_readBlock (s : RealInferencePrefetchAdapter σ) (l b h t : Nat) :
    ReadOnly s (readBlock B cfg s l b h t).2 :=
  readRelation_readOnly.readSingle _ _ (fun s _ _ _ _ => (ReadOnly.refl s).fetched _) s l b h t

theorem readOnly_readBatch {ρ : Type} (sizeBytes : Nat)
    (staged : List Nat → Option (NDArray × NDArray) → Except PyErr ρ)
    (batch : Option (BatchRead σ ρ)) {single : AdapterRead σ ρ}
    (hsingle : ∀ s l b h t, ReadOnly s (single s l b h t).2) (s : RealInferencePrefetchAdapter σ)
    (l : Nat) (bids : List Nat) (h t : Nat) :
    ReadOnly s (readBatch cfg sizeBytes staged batch single s l bids h t).2 :=
  readRelation_readOnly.readBatch sizeBytes staged
    (fun _ _ s _ _ _ _ => (ReadOnly.refl s).fetched _) hsingle s l bids h t

/-! ## Background fetches -/

inductive FetchStep (B : Backend σ) (cfg : AdapterConfig) (s : RealInferencePrefetchAdapter σ)
    (future : Nat) : RealInferencePrefetchAdapter σ → Prop
  | idle
      (hidle : ∀ fetch, s.futures[future]? = some fetch → fetch.state = .running →
        fetch.remaining = []) :
      FetchStep B cfg s future s
  | batchRaised {fetch : BackgroundFetch} {read : BatchRead σ (NDArray × NDArray)} {err : PyErr}
      (hfetch : s.futures[future]? = some fetch) (hrunning : fetch.state = .running)
      (hbatch : B.readBlockBatch = some read)
      (hread : (read s.storageBackend fetch.layerId fetch.blockIds fetch.headId
        fetch.tokenStart).1 = .error err) :
      FetchStep B cfg s future
        (setFetch
          { s with
            storageBackend :=
              (read s.storageBackend fetch.layerId fetch.blockIds fetch.headId fetch.tokenStart).2 }
          future { fetch with state := .failed err })
  | batchRead {fetch : BackgroundFetch} {read : BatchRead σ (NDArray × NDArray)}
      {fetched : Dict Nat (NDArray × NDArray)}
      (hfetch : s.futures[future]? = some fetch) (hrunning : fetch.state = .running)
      (hbatch : B.readBlockBatch = some read)
      (hread : (read s.storageBackend fetch.layerId fetch.blockIds fetch.headId
        fetch.tokenStart).1 = .ok fetched) :
      FetchStep B cfg s future
        (setFetch
          { s with
            storageBackend :=
              (read s.storageBackend fetch.layerId fetch.blockIds fetch.headId fetch.tokenStart).2 }
          future { fetch with remaining := [], fetched := fetched })
  | waits {fetch : BackgroundFetch} {bid : Nat} {rest : List Nat} {other : Nat}
      (hfetch : s.futures[future]? = some fetch) (hrunning : fetch.state = .running)
      (hremaining : fetch.remaining = bid :: rest) (hbatch : B.readBlockBatch = none)
      (hread : (readBlock B cfg s fetch.layerId bid fetch.headId fetch.tokenStart).1 =
        .waits other) :
      FetchStep B cfg s future
        (setFetch (readBlock B cfg s fetch.layerId bid fetch.headId fetch.tokenStart).2 future
          { fetch with waitingOn := some other })
  | raised {fetch : BackgroundFetch} {bid : Nat} {rest : List Nat} {err : PyErr}
      (hfetch : s.futures[future]? = some fetch) (hrunning : fetch.state = .running)
      (hremaining : fetch.remaining = bid :: rest) (hbatch : B.readBlockBatch = none)
      (hread : (readBlock B cfg s fetch.layerId bid fetch.headId fetch.tokenStart).1 =
        .returns (.error err)) :
      FetchStep B cfg s future
        (setFetch (readBlock B cfg s fetch.layerId bid fetch.headId fetch.tokenStart).2 future
          { fetch with state := .failed err, waitingOn := none })
  | took {fetch : BackgroundFetch} {bid : Nat} {rest : List Nat} {kv : NDArray × NDArray}
      (hfetch : s.futures[future]? = some fetch) (hrunning : fetch.state = .running)
      (hremaining : fetch.remaining = bid :: rest) (hbatch : B.readBlockBatch = none)
      (hread : (readBlock B cfg s fetch.layerId bid fetch.headId fetch.tokenStart).1 =
        .returns (.ok kv)) :
      FetchStep B cfg s future
        (setFetch (readBlock B cfg s fetch.layerId bid fetch.headId fetch.tokenStart).2 future
          { fetch with remaining := rest, fetched := fetch.fetched.set bid kv, waitingOn := none })

theorem fetchStep_fetchNext (s : RealInferencePrefetchAdapter σ) (future : Nat) :
    FetchStep B cfg s future (fetchNext B cfg s future) := by
  unfold fetchNext
  split
  · rename_i hnone
    exact .idle fun fetch hfetch => by cases hnone.symm.trans hfetch
  · rename_i fetch hfetch
    have hsame : ∀ x, s.futures[future]? = some x → x = fetch :=
      fun x hx => (Option.some.inj (hfetch.symm.trans hx)).symm
    split
    · rename_i hrunning
      split
      · rename_i hnil
        exact .idle fun x hx _ => hsame x hx ▸ hnil
      · rename_i bid rest hremaining
        split
        · rename_i read hbatch
          split
          · rename_i err b hread
            have hstep : FetchStep B cfg s future _ :=
              .batchRaised hfetch hrunning hbatch (by rw [hread])
            rw [hread] at hstep
            exact hstep
          · rename_i fetched b hread
            have hstep : FetchStep B cfg s future _ :=
              .batchRead hfetch hrunning hbatch (by rw [hread])
            rw [hread] at hstep
            exact hstep
        · rename_i hbatch
          split
          · rename_i other s' hread
            have hstep := FetchStep.waits hfetch hrunning hremaining hbatch (by rw [hread])
            rw [hread] at hstep
            exact hstep
          · rename_i err s' hread
            have hstep := FetchStep.raised hfetch hrunning hremaining hbatch (by rw [hread])
            rw [hread] at hstep
            exact hstep
          · rename_i kv s' hread
            have hstep := FetchStep.took hfetch hrunning hremaining hbatch (by rw [hread])
            rw [hread] at hstep
            exact hstep
    · rename_i hstopped
      exact .idle fun x hx hrunning => absurd (hsame x hx ▸ hrunning) hstopped

theorem fetchNext_keys (s : RealInferencePrefetchAdapter σ) (future : Nat) :
    (∀ key, (fetchNext B cfg s future).stagingBuffer.contains key = s.stagingBuffer.contains key) ∧
      (fetchNext B cfg s future).stagingBuffer.size = s.stagingBuffer.size := by
  have hread := fun l bid head t => @readOnly_readBlock σ B cfg s l bid head t
  have hstep := @fetchStep_fetchNext σ B cfg s future
  generalize fetchNext B cfg s future = s' at hstep ⊢
  cases hstep with
  | idle => exact ⟨fun _ => rfl, rfl⟩
  | batchRaised => exact ⟨fun _ => rfl, rfl⟩
  | batchRead => exact ⟨fun _ => rfl, rfl⟩
  | waits => exact ⟨(hread _ _ _ _).contains_eq, (hread _ _ _ _).size_eq⟩
  | raised => exact ⟨(hread _ _ _ _).contains_eq, (hread _ _ _ _).size_eq⟩
  | took => exact ⟨(hread _ _ _ _).contains_eq, (hread _ _ _ _).size_eq⟩

theorem complete_buffer (s : RealInferencePrefetchAdapter σ) (future : Nat) :
    (complete s future).stagingBuffer = s.stagingBuffer := by
  unfold complete
  split
  · rfl
  · split <;> rfl

theorem fail_buffer (s : RealInferencePrefetchAdapter σ) (future : Nat) (err : PyErr) :
    (fail s future err).stagingBuffer = s.stagingBuffer := by
  unfold fail
  split
  · rfl
  · split <;> rfl

/-! ## Prefetches -/

/-- Dropping the oldest blocks leaves the other entries as they are. -/
theorem get?_dropOldest (capacity fuel : Nat) (buffer : StagingBuffer) (t : AdapterTelemetry)
    {key : Nat × Nat} {entry : StagedInferenceBlock}
    (h : (dropOldest capacity fuel buffer t).2.1.get? key = some entry) :
    buffer.get? key = some entry := by
  induction fuel generalizing buffer t with
  | zero => exact h
  | succ fuel ih =>
      unfold dropOldest at h
      split at h
      · split at h
        · exact h
        · rename_i old oldest rest hpop
          have hrest := ih rest _ h
          rw [Dict.get?_of_popFirst? hpop] at hrest
          split at hrest
          · cases hrest
          · exact hrest
      · exact h

/-- Making room for a list of blocks is making room for one after the other. -/
theorem ensureCapacityFor_keeps
    {R : RealInferencePrefetchAdapter σ → RealInferencePrefetchAdapter σ → Prop}
    (hrefl : ∀ s, R s s) (htrans : ∀ {s s' s''}, R s s' → R s' s'' → R s s'')
    (hone : ∀ s, R s (ensureBufferCapacity cfg s).2) (missBids : List Nat)
    (s : RealInferencePrefetchAdapter σ) : R s (ensureCapacityFor cfg missBids s).2 := by
  induction missBids generalizing s with
  | nil => exact hrefl s
  | cons bid missBids ih =>
      have hfirst := hone s
      unfold ensureCapacityFor
      revert hfirst
      rcases ensureBufferCapacity cfg s with ⟨_ | _, s'⟩
      · exact id
      · intro hfirst
        exact htrans hfirst (ih s')

theorem ensureCapacityFor_futures (missBids : List Nat) (s : RealInferencePrefetchAdapter σ) :
    (ensureCapacityFor cfg missBids s).2.futures = s.futures :=
  ensureCapacityFor_keeps (R := fun s s' => s'.futures = s.futures) (fun _ => rfl)
    (fun h h' => h'.trans h) (fun _ => rfl) missBids s

theorem prefetchSync_futures (s : RealInferencePrefetchAdapter σ) (l : Nat) (missBids : List Nat)
    (h t : Nat) : (prefetchSync B cfg s l missBids h t).2.futures = s.futures := by
  have heach : ∀ (fetched : Dict Nat (NDArray × NDArray)) (bids dispatched : List Nat)
      (s : RealInferencePrefetchAdapter σ),
      (stageEach B cfg fetched l h t bids dispatched s).2.futures = s.futures := by
    intro fetched bids
    induction bids with
    | nil => exact fun _ _ => rfl
    | cons bid bids ih =>
        intro dispatched s
        have hone : (fetchForStaging B cfg fetched s l bid h t).2.futures = s.futures := by
          unfold fetchForStaging
          split <;> rfl
        unfold stageEach
        revert hone
        rcases fetchForStaging B cfg fetched s l bid h t with ⟨_ | kv, s'⟩
        · exact id
        · intro hone
          exact (ih _ _).trans hone
  unfold prefetchSync
  rcases fetchBlocks B s.storageBackend l missBids h t with ⟨_ | fetched, b⟩
  · rfl
  · exact heach fetched missBids [] _

/-! ## Writes -/

theorem writeBlock_keeps {A : Adapters.Astype} (s : RealInferencePrefetchAdapter σ) (l b : Nat)
    (k v : Payload) (h t : Nat) :
    (writeBlock B A cfg s l b k v h t).2.stagingBuffer = s.stagingBuffer ∧
      (writeBlock B A cfg s l b k v h t).2.futures = s.futures := by
  unfold writeBlock
  cases asStored A cfg k with
  | error err => exact ⟨rfl, rfl⟩
  | ok kArr =>
      cases asStored A cfg v with
      | error err => exact ⟨rfl, rfl⟩
      | ok vArr =>
          dsimp only
          rcases delegateWrite B s.storageBackend l b kArr vArr h t with ⟨_ | _, b'⟩ <;>
            exact ⟨rfl, rfl⟩

end AiSsd.Prefetch.Async.RealInferencePrefetchAdapter
