import AiSsd.Prefetch.Coherence
import AiSsd.Prefetch.FetchProgress

/-!
# Staged copies and what is stored

Over a block store that returns its last write, what the adapter stages and what its
background fetches hold is what the store holds, as long as a block is written before it is
first prefetched: a copy that was taken stays the stored block, whatever the order in which
entries are dropped, staged again, resolved or left with a failed future.
-/

namespace AiSsd.Prefetch.Async

open Lib Numpy Storage
open Adapters (Astype)
open Prefetch.RealInferencePrefetchAdapter (asStored reshaped reshapedBlock)
open Async.RealInferencePrefetchAdapter

universe u v

abbrev Content := Nat × Nat → Option (NDArray × NDArray)

/-! ## Fetches and entries -/

structure FetchOk (content : Content) (fetch : BackgroundFetch) : Prop where
  remaining_sub : ∀ bid ∈ fetch.remaining, bid ∈ fetch.blockIds
  fetched_sub : ∀ bid kv, fetch.fetched.get? bid = some kv → bid ∈ fetch.blockIds
  fetched_eq : ∀ bid kv kv', fetch.fetched.get? bid = some kv →
    content (fetch.layerId, bid) = some kv' → kv = kv'
  fetched_all : ∀ bid ∈ fetch.blockIds, bid ∉ fetch.remaining →
    (content (fetch.layerId, bid)).isSome → (fetch.fetched.get? bid).isSome
  done_all : fetch.state = .done → fetch.remaining = []

/-- A staged entry holds what is stored, or will get it from a fetch of its block. -/
structure EntryOk (content : Content) (futures : List BackgroundFetch) (key : Nat × Nat)
    (entry : StagedInferenceBlock) : Prop where
  layer_eq : entry.layerId = key.1
  data_eq : ∀ kv kv', entry.data = some kv → content key = some kv' → kv = kv'
  data_or_future : entry.future = none → entry.data.isSome
  fetch_of : ∀ future, entry.future = some future → ∃ fetch, futures[future]? = some fetch ∧
    fetch.layerId = key.1 ∧ key.2 ∈ fetch.blockIds

def SameBlocks (futures futures' : List BackgroundFetch) : Prop :=
  ∀ (future : Nat) fetch, futures[future]? = some fetch → ∃ fetch', futures'[future]? = some fetch' ∧
    fetch'.layerId = fetch.layerId ∧ fetch'.blockIds = fetch.blockIds

theorem SameBlocks.append (futures : List BackgroundFetch) (fetch : BackgroundFetch) :
    SameBlocks futures (futures ++ [fetch]) := by
  intro future x hx
  refine ⟨x, ?_, rfl, rfl⟩
  rw [List.getElem?_append_left (List.getElem?_eq_some_iff.mp hx).choose]
  exact hx

theorem SameBlocks.set {futures : List BackgroundFetch} {future : Nat}
    {fetch fetch' : BackgroundFetch} (hfetch : futures[future]? = some fetch)
    (hlayer : fetch'.layerId = fetch.layerId) (hblocks : fetch'.blockIds = fetch.blockIds) :
    SameBlocks futures (futures.set future fetch') := by
  intro other x hx
  rw [List.getElem?_set]
  by_cases heq : future = other
  · subst heq
    obtain rfl : fetch = x := Option.some.inj (hfetch.symm.trans hx)
    refine ⟨fetch', ?_, hlayer, hblocks⟩
    rw [if_pos rfl, if_pos (List.getElem?_eq_some_iff.mp hfetch).choose]
  · exact ⟨x, by rw [if_neg heq]; exact hx, rfl, rfl⟩

/-- Blocks of the fetch may be dropped from the store, and none put there. -/
theorem FetchOk.of_content {content content' : Content} {fetch : BackgroundFetch}
    (h : FetchOk content fetch) (hsub : ∀ bid ∈ fetch.blockIds, ∀ kv,
      content' (fetch.layerId, bid) = some kv → content (fetch.layerId, bid) = some kv) :
    FetchOk content' fetch where
  remaining_sub := h.remaining_sub
  fetched_sub := h.fetched_sub
  fetched_eq := by
    intro bid kv kv' hkv hkv'
    exact h.fetched_eq bid kv kv' hkv (hsub bid (h.fetched_sub bid kv hkv) kv' hkv')
  fetched_all := by
    intro bid hbid hremaining hstored
    obtain ⟨kv, hkv⟩ := Option.isSome_iff_exists.mp hstored
    exact h.fetched_all bid hbid hremaining (by rw [hsub bid hbid kv hkv]; rfl)
  done_all := h.done_all

theorem EntryOk.of_sameBlocks {content : Content} {futures futures' : List BackgroundFetch}
    {key : Nat × Nat} {entry : StagedInferenceBlock} (h : EntryOk content futures key entry)
    (hsame : SameBlocks futures futures') : EntryOk content futures' key entry where
  layer_eq := h.layer_eq
  data_eq := h.data_eq
  data_or_future := h.data_or_future
  fetch_of := by
    intro future hfuture
    obtain ⟨fetch, hfetch, hlayer, hmem⟩ := h.fetch_of future hfuture
    obtain ⟨fetch', hfetch', hlayer', hblocks'⟩ := hsame future fetch hfetch
    exact ⟨fetch', hfetch', hlayer'.trans hlayer, hblocks' ▸ hmem⟩

/-! ## The staging buffer -/

def BufferOk (content : Content) (futures : List BackgroundFetch) (buffer : StagingBuffer) : Prop :=
  ∀ key entry, buffer.get? key = some entry → EntryOk content futures key entry

namespace BufferOk

variable {content : Content} {futures : List BackgroundFetch} {buffer : StagingBuffer}

theorem set (h : BufferOk content futures buffer) {key : Nat × Nat} {entry : StagedInferenceBlock}
    (hentry : EntryOk content futures key entry) : BufferOk content futures (buffer.set key entry) := by
  intro k e he
  rw [Dict.get?_set] at he
  split at he
  · rename_i hk
    subst hk
    cases he
    exact hentry
  · exact h k e he

theorem of_sameBlocks (h : BufferOk content futures buffer) {futures' : List BackgroundFetch}
    (hsame : SameBlocks futures futures') : BufferOk content futures' buffer :=
  fun key entry hentry => (h key entry hentry).of_sameBlocks hsame

/-- Staged blocks may be dropped from the store, and none put there. -/
theorem of_content (h : BufferOk content futures buffer) {content' : Content}
    (hsub : ∀ key, buffer.contains key = true → ∀ kv, content' key = some kv →
      content key = some kv) : BufferOk content' futures buffer := by
  intro key entry hentry
  have hold := h key entry hentry
  refine ⟨hold.layer_eq, ?_, hold.data_or_future, hold.fetch_of⟩
  intro kv kv' hkv hkv'
  exact hold.data_eq kv kv' hkv (hsub key (by simp [Dict.contains, hentry]) kv' hkv')

theorem erase (h : BufferOk content futures buffer) (key : Nat × Nat) :
    BufferOk content futures (buffer.erase key) := by
  intro k e he
  rw [Dict.get?_erase] at he
  split at he
  · cases he
  · exact h k e he

theorem moveToEnd (h : BufferOk content futures buffer) (key : Nat × Nat) :
    BufferOk content futures (buffer.moveToEnd key) := by
  intro k e he
  rw [Dict.get?_moveToEnd] at he
  exact h k e he

theorem populateOne (h : BufferOk content futures buffer) (l : Nat) {pair : Nat × NDArray × NDArray}
    (hpair : ∀ kv', content (l, pair.1) = some kv' → pair.2 = kv') :
    BufferOk content futures (populateOne l buffer pair) := by
  unfold RealInferencePrefetchAdapter.populateOne
  split
  · rename_i entry hentry
    have hold := h _ entry hentry
    refine h.set ⟨hold.layer_eq, ?_, fun _ => rfl, fun _ hnone => by cases hnone⟩
    intro kv kv' hdata hkv'
    cases hdata
    exact hpair kv' hkv'
  · exact h

theorem populate (h : BufferOk content futures buffer) {fetch : BackgroundFetch}
    (hfetch : FetchOk content fetch) :
    BufferOk content futures (populate fetch.layerId fetch.fetched buffer) := by
  have hpairs : ∀ pair ∈ fetch.fetched.entries, ∀ kv', content (fetch.layerId, pair.1) = some kv' →
      pair.2 = kv' := by
    rintro ⟨bid, kv⟩ hmem kv' hkv'
    exact hfetch.fetched_eq bid kv kv' ((Dict.mem_entries_iff _ _ _).mp hmem) hkv'
  unfold RealInferencePrefetchAdapter.populate
  generalize fetch.fetched.entries = pairs at hpairs
  induction pairs generalizing buffer with
  | nil => exact h
  | cons pair pairs ih =>
      obtain ⟨hpair, hrest⟩ := List.forall_mem_cons.mp hpairs
      exact ih (h.populateOne fetch.layerId hpair) hrest

end BufferOk

def HasData (buffer : StagingBuffer) (key : Nat × Nat) : Prop :=
  ∀ entry, buffer.get? key = some entry → entry.data.isSome

theorem hasData_populateOne (l : Nat) (buffer : StagingBuffer) (pair : Nat × NDArray × NDArray)
    {bid : Nat} (h : bid = pair.1 ∨ HasData buffer (l, bid)) :
    HasData (populateOne l buffer pair) (l, bid) := by
  intro entry hentry
  unfold populateOne at hentry
  split at hentry
  · rw [Dict.get?_set] at hentry
    split at hentry
    · cases hentry
      rfl
    · rename_i hne
      rcases h with rfl | h
      · exact absurd rfl hne
      · exact h entry hentry
  · rename_i hnone
    rcases h with rfl | h
    · rw [hnone] at hentry
      cases hentry
    · exact h entry hentry

theorem hasData_foldl (l : Nat) {bid : Nat} (pairs : List (Nat × NDArray × NDArray))
    (buffer : StagingBuffer) (h : (∃ kv, (bid, kv) ∈ pairs) ∨ HasData buffer (l, bid)) :
    HasData (pairs.foldl (populateOne l) buffer) (l, bid) := by
  induction pairs generalizing buffer with
  | nil =>
      rcases h with ⟨_, hmem⟩ | h
      · exact absurd hmem List.not_mem_nil
      · exact h
  | cons pair pairs ih =>
      apply ih
      rcases h with ⟨kv, hmem⟩ | h
      · rcases List.mem_cons.mp hmem with rfl | hmem
        · exact Or.inr (hasData_populateOne l buffer _ (Or.inl rfl))
        · exact Or.inl ⟨kv, hmem⟩
      · exact Or.inr (hasData_populateOne l buffer pair (Or.inr h))

/-- Populating gives a fetched block that is staged its arrays. -/
theorem hasData_populate {l bid : Nat} {batch : Dict Nat (NDArray × NDArray)}
    (buffer : StagingBuffer) {kv : NDArray × NDArray} (hkv : batch.get? bid = some kv) :
    HasData (populate l batch buffer) (l, bid) :=
  hasData_foldl l batch.entries buffer (Or.inl ⟨kv, (Dict.mem_entries_iff _ _ _).mpr hkv⟩)

/-! ## The adapter -/

section Adapter

variable {σ : Type v} {α : Type u} {B : BlockBackend σ α} {A : Astype}

/-- The store is in order, and every copy of a stored block is the stored block. -/
structure Speculates (V : B.ReturnsLastWrite) (cfg : AdapterConfig)
    (s : RealInferencePrefetchAdapter σ) : Prop where
  valid : V.Valid s.storageBackend
  shape_eq : ∀ key, metaShape cfg s key = cfg.defaultShape
  buffer : BufferOk (V.content s.storageBackend) s.futures s.stagingBuffer
  fetches : ∀ fetch ∈ s.futures, FetchOk (V.content s.storageBackend) fetch

variable {V : B.ReturnsLastWrite} {cfg : AdapterConfig} {s : RealInferencePrefetchAdapter σ}

namespace Speculates

theorem init {b : σ} (hb : V.Valid b) :
    Speculates V cfg (RealInferencePrefetchAdapter.init cfg b) where
  valid := hb
  shape_eq := fun _ => rfl
  buffer := fun _ _ hnone => by cases hnone
  fetches := fun _ hmem => by cases hmem

theorem staged (h : Speculates V cfg s) {buffer : StagingBuffer} (t : AdapterTelemetry)
    (hbuffer : BufferOk (V.content s.storageBackend) s.futures buffer) :
    Speculates V cfg { s with stagingBuffer := buffer, telemetry := t } :=
  ⟨h.valid, h.shape_eq, hbuffer, h.fetches⟩

theorem fetched (h : Speculates V cfg s) {b : σ} (hb : V.Keeps s.storageBackend b) :
    Speculates V cfg { s with storageBackend := b } := by
  refine ⟨hb.valid, h.shape_eq, ?_, ?_⟩
  · show BufferOk (V.content b) s.futures s.stagingBuffer
    rw [hb.content_eq]
    exact h.buffer
  · show ∀ fetch ∈ s.futures, FetchOk (V.content b) fetch
    rw [hb.content_eq]
    exact h.fetches

end Speculates

/-! ### Hits -/

/-- An entry that could be resolved has its arrays, if its block is stored. -/
theorem resolveEntry_ok (h : Speculates V cfg s) {key : Nat × Nat} {entry : StagedInferenceBlock}
    (hentry : s.stagingBuffer.get? key = some entry) :
    (resolveEntry s entry).2.storageBackend = s.storageBackend ∧
      Speculates V cfg (resolveEntry s entry).2 ∧
      ((resolveEntry s entry).1 = .returns (.ok ()) →
        (V.content s.storageBackend key).isSome →
        HasData (resolveEntry s entry).2.stagingBuffer key) := by
  have hok := h.buffer key entry hentry
  unfold resolveEntry
  cases hfuture : entry.future with
  | none =>
      refine ⟨rfl, h, fun _ _ e he => ?_⟩
      cases hentry.symm.trans he
      exact hok.data_or_future hfuture
  | some future =>
      obtain ⟨fetch, hfetch, hlayer, hmem⟩ := hok.fetch_of future hfuture
      have hfetchOk := h.fetches fetch (List.mem_of_getElem? hfetch)
      simp only [hfetch]
      cases hstate : fetch.state with
      | running => exact ⟨rfl, h, fun hreturns => by cases hreturns⟩
      | failed err => exact ⟨rfl, h, fun hreturns => by cases hreturns⟩
      | done =>
          have hlayers : entry.layerId = fetch.layerId := hok.layer_eq.trans hlayer.symm
          dsimp only
          rw [hlayers]
          refine ⟨rfl, ⟨h.valid, h.shape_eq, h.buffer.populate hfetchOk, h.fetches⟩, ?_⟩
          intro _ hstored
          have hkey : key = (fetch.layerId, key.2) := by rw [hlayer]
          rw [hkey] at hstored ⊢
          -- a fetch that is done has been through all its blocks
          have hfetched := hfetchOk.fetched_all key.2 hmem
            (by rw [hfetchOk.done_all hstate]; exact List.not_mem_nil) hstored
          obtain ⟨kv, hkv⟩ := Option.isSome_iff_exists.mp hfetched
          exact hasData_populate _ hkv

/-- A hit on a stored block answers the stored arrays. -/
theorem hit_ok (h : Speculates V cfg s) {key : Nat × Nat} {entry : StagedInferenceBlock}
    (hentry : s.stagingBuffer.get? key = some entry) (sizeBytes : Nat) :
    (hit s key entry sizeBytes).2.storageBackend = s.storageBackend ∧
      Speculates V cfg (hit s key entry sizeBytes).2 ∧
      ∀ data kv, (hit s key entry sizeBytes).1 = .returns (.ok data) →
        V.content s.storageBackend key = some kv → data = some kv := by
  obtain ⟨hbackend, hresolved, hdata⟩ := resolveEntry_ok h hentry
  have hstaged := (readOnly_resolveEntry s entry).contains_eq key
  unfold hit
  revert hbackend hresolved hdata hstaged
  rcases resolveEntry s entry with ⟨(err | _) | other, s'⟩
  · exact fun hbackend hresolved _ _ => ⟨hbackend, hresolved, fun _ _ hreturns => by cases hreturns⟩
  · intro hbackend hresolved hdata hstaged
    have hcontains : s'.stagingBuffer.contains key = true := by
      rw [hstaged]
      simp [Dict.contains, hentry]
    obtain ⟨e, he⟩ := Option.isSome_iff_exists.mp hcontains
    have hok := hresolved.buffer key e he
    dsimp only at hbackend hdata ⊢
    rw [he, Option.getD_some]
    refine ⟨hbackend, ?_, ?_⟩
    · refine hresolved.staged _ ((hresolved.buffer.moveToEnd key).set ?_)
      exact ⟨hok.layer_eq, hok.data_eq, hok.data_or_future, hok.fetch_of⟩
    · rintro data kv ⟨⟩ hkv
      obtain ⟨kv', hkv'⟩ := Option.isSome_iff_exists.mp
        (hdata rfl (by rw [hkv]; rfl) e he)
      rw [hkv', hok.data_eq kv' kv hkv' (by rw [hbackend]; exact hkv)]
  · exact fun hbackend hresolved _ _ => ⟨hbackend, hresolved, fun _ _ hreturns => by cases hreturns⟩

/-! ### What a read of a stored block comes to -/

def Failed (s : RealInferencePrefetchAdapter σ) (future : Nat) : Prop :=
  ∃ fetch err, s.futures[future]? = some fetch ∧ fetch.state = .failed err

/-- A hit waits for a running fetch, raises what a failed one raised, or answers. -/
theorem hit_cases (h : Speculates V cfg s) {key : Nat × Nat} {entry : StagedInferenceBlock}
    (hentry : s.stagingBuffer.get? key = some entry) (sizeBytes : Nat) :
    (∃ future, (hit s key entry sizeBytes).1 = .waits future ∧ entry.future = some future ∧
        Running s future) ∨
      (∃ future err, (hit s key entry sizeBytes).1 = .returns (.error err) ∧
        entry.future = some future ∧ Failed s future) ∨
      ∃ data, (hit s key entry sizeBytes).1 = .returns (.ok data) := by
  unfold hit resolveEntry
  cases hfuture : entry.future with
  | none => exact Or.inr (Or.inr ⟨_, rfl⟩)
  | some future =>
      obtain ⟨fetch, hfetch, -, -⟩ := (h.buffer key entry hentry).fetch_of future hfuture
      simp only [hfetch]
      cases hstate : fetch.state with
      | running => exact Or.inl ⟨future, rfl, rfl, fetch, hfetch, hstate⟩
      | failed err => exact Or.inr (Or.inl ⟨future, err, rfl, rfl, fetch, err, hfetch, hstate⟩)
      | done => exact Or.inr (Or.inr ⟨_, rfl⟩)

/-- A hit on a stored block waits, raises, or answers the stored arrays and keeps what a later
read sees. -/
theorem hit_stored (h : Speculates V cfg s) {key : Nat × Nat} {entry : StagedInferenceBlock}
    (hentry : s.stagingBuffer.get? key = some entry) {kv : NDArray × NDArray}
    (hkv : V.content s.storageBackend key = some kv) (sizeBytes : Nat) :
    (∃ future s', hit s key entry sizeBytes = (.waits future, s') ∧ entry.future = some future ∧
        Running s future) ∨
      (∃ future err s', hit s key entry sizeBytes = (.returns (.error err), s') ∧
        entry.future = some future ∧ Failed s future) ∨
      ∃ s', hit s key entry sizeBytes = (.returns (.ok (some kv)), s') ∧ ReadOnly s s' ∧
        s'.storageBackend = s.storageBackend ∧ Speculates V cfg s' := by
  obtain ⟨hbackend, hok, hdata⟩ := hit_ok h hentry sizeBytes
  have hreadOnly := readOnly_hit hentry sizeBytes
  have hcases := hit_cases h hentry sizeBytes
  revert hbackend hok hdata hreadOnly hcases
  rcases hit s key entry sizeBytes with ⟨r, s'⟩
  intro hbackend hok hdata hreadOnly hcases
  rcases hcases with ⟨future, rfl, hfuture⟩ | ⟨future, err, rfl, hfuture⟩ | ⟨data, rfl⟩
  · exact .inl ⟨future, s', rfl, hfuture⟩
  · exact .inr (.inl ⟨future, err, s', rfl, hfuture⟩)
  · obtain rfl := hdata data kv rfl hkv
    exact .inr (.inr ⟨s', rfl, hreadOnly, hbackend, hok⟩)

/-- A read of a staged block that is stored waits, raises, or answers from the stored arrays. -/
theorem readSingle_staged {ρ : Type} (h : Speculates V cfg s) {l b : Nat}
    {entry : StagedInferenceBlock} (hentry : s.stagingBuffer.get? (l, b) = some entry)
    {kv : NDArray × NDArray} (hkv : V.content s.storageBackend (l, b) = some kv) (sizeBytes : Nat)
    (staged : List Nat → Option (NDArray × NDArray) → Except PyErr ρ)
    (fetch : BlockRead (RealInferencePrefetchAdapter σ) ρ) (head t : Nat) :
    (∃ future, (readSingle cfg sizeBytes staged fetch s l b head t).1 = .waits future ∧
        entry.future = some future ∧ Running s future) ∨
      (∃ future err, (readSingle cfg sizeBytes staged fetch s l b head t).1 =
          .returns (.error err) ∧ entry.future = some future ∧ Failed s future) ∨
      (readSingle cfg sizeBytes staged fetch s l b head t).1 =
        .returns (staged cfg.defaultShape (some kv)) := by
  unfold readSingle
  simp only [hentry]
  rcases hit_stored h hentry hkv sizeBytes with ⟨future, s', hhit, hfuture, hrunning⟩ |
    ⟨future, err, s', hhit, hfuture, hfailed⟩ | ⟨s', hhit, -, -, hok⟩
  · rw [hhit]
    exact Or.inl ⟨future, rfl, hfuture, hrunning⟩
  · rw [hhit]
    exact Or.inr (Or.inl ⟨future, err, rfl, hfuture, hfailed⟩)
  · have hshape := hok.shape_eq (l, b)
    rw [hhit]
    dsimp only
    rw [hshape]
    exact Or.inr (Or.inr rfl)

/-! ### Reads keep all copies in order -/

variable (V cfg) in
/-- Staged copies stay what is stored, and the store holds the same. -/
def KeepsSpeculating (s s' : RealInferencePrefetchAdapter σ) : Prop :=
  Speculates V cfg s →
    Speculates V cfg s' ∧ V.content s'.storageBackend = V.content s.storageBackend

theorem keepsSpeculating_fetched (b : σ) (s : RealInferencePrefetchAdapter σ)
    (hb : V.Valid s.storageBackend → V.Keeps s.storageBackend b) :
    KeepsSpeculating V cfg s { s with storageBackend := b } :=
  fun h => ⟨h.fetched (hb h.valid), (hb h.valid).content_eq⟩

theorem readRelation_keepsSpeculating : ReadRelation (KeepsSpeculating V cfg) where
  refl := fun _ h => ⟨h, rfl⟩
  trans := by
    intro s s' s'' h h' hs
    obtain ⟨hs', hcontent⟩ := h hs
    obtain ⟨hs'', hcontent'⟩ := h' hs'
    exact ⟨hs'', hcontent'.trans hcontent⟩
  counted := fun _ t h => ⟨h.staged t h.buffer, rfl⟩
  ofHit := by
    intro s key entry sizeBytes hentry h
    obtain ⟨hbackend, hok, -⟩ := hit_ok h hentry sizeBytes
    exact ⟨hok, by rw [hbackend]⟩

theorem keepsSpeculating_readKeyPage (s : RealInferencePrefetchAdapter σ) (l b h t : Nat) :
    KeepsSpeculating V cfg s (readKeyPage (.ofBlockBackend B) cfg s l b h t).2 :=
  readRelation_keepsSpeculating.readSingle _ _
    (fun s l b h t => keepsSpeculating_fetched _ s (V.key.keeps _ l b h t)) s l b h t

theorem keepsSpeculating_readValuePage (s : RealInferencePrefetchAdapter σ) (l b h t : Nat) :
    KeepsSpeculating V cfg s (readValuePage (.ofBlockBackend B) cfg s l b h t).2 :=
  readRelation_keepsSpeculating.readSingle _ _
    (fun s l b h t => keepsSpeculating_fetched _ s (V.value.keeps _ l b h t)) s l b h t

theorem keepsSpeculating_readBlock (s : RealInferencePrefetchAdapter σ) (l b h t : Nat) :
    KeepsSpeculating V cfg s (readBlock (.ofBlockBackend B) cfg s l b h t).2 :=
  readRelation_keepsSpeculating.readSingle _ _
    (fun s l b h t => keepsSpeculating_fetched _ s (V.block.keeps _ l b h t)) s l b h t

theorem keepsSpeculating_readBatch {ρ : Type} {page : NDArray × NDArray → ρ} (sizeBytes : Nat)
    (staged : List Nat → Option (NDArray × NDArray) → Except PyErr ρ)
    {batch : Option (BatchRead σ ρ)} (hbatch : ∀ read ∈ batch, V.ReadsBatch page read)
    {single : AdapterRead σ ρ} (hsingle : ∀ s l b h t, KeepsSpeculating V cfg s (single s l b h t).2)
    (s : RealInferencePrefetchAdapter σ) (l : Nat) (bids : List Nat) (h t : Nat) :
    KeepsSpeculating V cfg s (readBatch cfg sizeBytes staged batch single s l bids h t).2 :=
  readRelation_keepsSpeculating.readBatch sizeBytes staged
    (fun read hread s l bs h t =>
      keepsSpeculating_fetched _ s ((hbatch read hread).keeps _ l bs h t)) hsingle s l bids h t

/-! ### Writes and evictions -/

def Unprefetched (s : RealInferencePrefetchAdapter σ) (l b : Nat) : Prop :=
  s.stagingBuffer.contains (l, b) = false ∧
    ∀ fetch ∈ s.futures, fetch.layerId = l → b ∉ fetch.blockIds

theorem speculates_writeBlock (h : Speculates V cfg s) {l b : Nat} (hnew : Unprefetched s l b)
    (k v : Payload) (head t : Nat) :
    Speculates V cfg (writeBlock (.ofBlockBackend B) A cfg s l b k v head t).2 := by
  unfold writeBlock
  cases hk : asStored A cfg k with
  | error err => exact h
  | ok kArr =>
      cases hv : asStored A cfg v with
      | error err => exact h
      | ok vArr =>
          have hks := Prefetch.RealInferencePrefetchAdapter.shape_of_asStored hk
          have hvs := Prefetch.RealInferencePrefetchAdapter.shape_of_asStored hv
          have hok := V.write_ok s.storageBackend l b kArr vArr head t h.valid hks hvs
          have hvalid := V.write_valid s.storageBackend l b kArr vArr head t h.valid hks hvs
          have hcontent := V.write_content s.storageBackend l b kArr vArr head t h.valid hks hvs
          dsimp only [delegateWrite, Backend.ofBlockBackend]
          revert hok hvalid hcontent
          rcases B.writeBlock s.storageBackend l b kArr vArr head t with ⟨_ | _, b'⟩
          · rintro ⟨⟩
          · rintro - hvalid hcontent
            dsimp only at hvalid hcontent ⊢
            -- every other block is what it was
            have hsub : ∀ key, key ≠ (l, b) → ∀ kv, V.content b' key = some kv →
                V.content s.storageBackend key = some kv := by
              intro key hne kv hkv
              rwa [hcontent, Function.update_of_ne hne] at hkv
            refine ⟨hvalid, ?_, ?_, ?_⟩
            · intro key
              have hold := h.shape_eq key
              unfold metaShape at hold ⊢
              dsimp only
              rw [Dict.get?_set]
              split
              · rfl
              · exact hold
            · refine h.buffer.of_content fun key hstaged => hsub key ?_
              rintro rfl
              rw [hnew.1] at hstaged
              cases hstaged
            · intro fetch hfetch
              refine (h.fetches fetch hfetch).of_content fun bid hbid => hsub _ ?_
              intro heq
              obtain ⟨hl, rfl⟩ := Prod.mk.inj heq
              exact hnew.2 fetch hfetch hl hbid

theorem speculates_evictBlock (h : Speculates V cfg s) (l b : Nat) :
    Speculates V cfg (evictBlock (.ofBlockBackend B) s l b).2 := by
  have herased : Speculates V cfg { s with stagingBuffer := s.stagingBuffer.erase (l, b) } :=
    h.staged s.telemetry (h.buffer.erase (l, b))
  unfold evictBlock
  dsimp only [Backend.ofBlockBackend]
  cases hevict : B.evictBlock with
  | some evict =>
      have hvalid := V.evict_valid evict hevict s.storageBackend l b h.valid
      have hcontent := V.evict_content evict hevict s.storageBackend l b h.valid
      have hsub : ∀ key kv, V.content (evict s.storageBackend l b).2 key = some kv →
          V.content s.storageBackend key = some kv := by
        intro key kv hkv
        rw [hcontent] at hkv
        by_cases hkey : key = (l, b)
        · rw [hkey, Function.update_self] at hkv
          cases hkv
        · rwa [Function.update_of_ne hkey] at hkv
      exact ⟨hvalid, h.shape_eq, herased.buffer.of_content fun key _ => hsub key,
        fun fetch hfetch => (h.fetches fetch hfetch).of_content fun bid _ => hsub _⟩
  | none =>
      dsimp only
      split
      · exact ⟨herased.valid, herased.shape_eq, herased.buffer, herased.fetches⟩
      · exact herased

theorem speculates_resetStats (h : Speculates V cfg s) :
    Speculates V cfg (resetStats (.ofBlockBackend B) s) :=
  h.staged AdapterTelemetry.zero fun _ _ hnone => by cases hnone

/-! ### Prefetches -/

theorem speculates_ensureCapacityFor (h : Speculates V cfg s) (missBids : List Nat) :
    Speculates V cfg (ensureCapacityFor cfg missBids s).2 := by
  refine ensureCapacityFor_keeps (R := fun s s' => Speculates V cfg s → Speculates V cfg s')
    (fun _ => id) (fun h h' => h' ∘ h) ?_ missBids s h
  intro s h
  exact h.staged _ fun key entry hentry => h.buffer key entry (get?_dropOldest _ _ _ _ hentry)

/-- A block may be staged with its arrays, or with the future of a fetch of it. -/
theorem speculates_stage (h : Speculates V cfg s) (l bid head : Nat)
    {data : Option (NDArray × NDArray)} {future : Option Nat}
    (hdata : ∀ kv kv', data = some kv → V.content s.storageBackend (l, bid) = some kv' → kv = kv')
    (hsome : future = none → data.isSome)
    (hfetch : ∀ f, future = some f → ∃ fetch, s.futures[f]? = some fetch ∧ fetch.layerId = l ∧
      bid ∈ fetch.blockIds) :
    Speculates V cfg (stage cfg s l bid head data future) :=
  h.staged _ (h.buffer.set ⟨rfl, hdata, hsome, hfetch⟩)

theorem speculates_submit (h : Speculates V cfg s) (l : Nat) (missBids : List Nat) (head t : Nat) :
    Speculates V cfg (submit s l missBids head t) := by
  refine ⟨h.valid, h.shape_eq, h.buffer.of_sameBlocks (.append _ _), ?_⟩
  intro fetch hfetch
  rcases List.mem_append.mp hfetch with hold | hnew
  · exact h.fetches fetch hold
  · obtain rfl := List.mem_singleton.mp hnew
    refine ⟨fun _ => id, ?_, ?_, fun _ hmem hnot => absurd hmem hnot, ?_⟩
    · rintro _ _ ⟨⟩
    · rintro _ _ _ ⟨⟩
    · rintro ⟨⟩

theorem fetchForStaging_ok (h : Speculates V cfg s) (fetched : Dict Nat (NDArray × NDArray))
    (l bid head t : Nat) (hfetched : ∀ kv kv', fetched.get? bid = some kv →
      V.content s.storageBackend (l, bid) = some kv' → kv = kv') :
    KeepsSpeculating V cfg s (fetchForStaging (.ofBlockBackend B) cfg fetched s l bid head t).2 ∧
      (fetchForStaging (.ofBlockBackend B) cfg fetched s l bid head t).2.futures = s.futures ∧
      ∀ kv kv', (fetchForStaging (.ofBlockBackend B) cfg fetched s l bid head t).1 = .ok kv →
        V.content s.storageBackend (l, bid) = some kv' → kv = kv' := by
  unfold fetchForStaging
  cases hget : fetched.get? bid with
  | some kv =>
      refine ⟨fun h => ⟨h, rfl⟩, rfl, ?_⟩
      rintro _ kv' ⟨⟩ hkv'
      exact hfetched kv kv' hget hkv'
  | none =>
      refine ⟨keepsSpeculating_fetched _ s (V.block.keeps _ l bid head t), rfl, ?_⟩
      intro kv kv' hret hkv'
      have hread := V.block.returns s.storageBackend l bid head t kv' h.valid hkv'
      exact Except.ok.inj (hret.symm.trans hread)

theorem speculates_stageEach (fetched : Dict Nat (NDArray × NDArray)) (l head t : Nat)
    (bids dispatched : List Nat) (h : Speculates V cfg s) (hfetched : ∀ bid ∈ bids, ∀ kv kv',
      fetched.get? bid = some kv → V.content s.storageBackend (l, bid) = some kv' → kv = kv') :
    Speculates V cfg (stageEach (.ofBlockBackend B) cfg fetched l head t bids dispatched s).2 := by
  induction bids generalizing dispatched s with
  | nil => exact h.staged _ h.buffer
  | cons bid bids ih =>
      obtain ⟨hfirst, hrest⟩ := List.forall_mem_cons.mp hfetched
      obtain ⟨hkeeps, -, hret⟩ := fetchForStaging_ok h fetched l bid head t hfirst
      unfold stageEach
      revert hkeeps hret
      rcases fetchForStaging (.ofBlockBackend B) cfg fetched s l bid head t with ⟨_ | kv, s'⟩
      · exact fun hkeeps _ => (hkeeps h).1
      · intro hkeeps hret
        obtain ⟨hs', hcontent⟩ := hkeeps h
        dsimp only at hs' hcontent hret ⊢
        have hstaged : Speculates V cfg (stage cfg s' l bid head (some kv) none) := by
          refine speculates_stage hs' l bid head ?_ (fun _ => rfl) fun _ hnone => by cases hnone
          rintro _ kv' ⟨⟩ hkv'
          exact hret kv kv' rfl (hcontent ▸ hkv')
        apply ih _ hstaged
        intro b hb x x' hx hx'
        exact hrest b hb x x' hx (by rw [← hcontent]; exact hx')

theorem fetchBlocks_ok (h : Speculates V cfg s) (l : Nat) (missBids : List Nat) (head t : Nat) :
    V.Keeps s.storageBackend
        (fetchBlocks (.ofBlockBackend B) s.storageBackend l missBids head t).2 ∧
      ∀ fetched, (fetchBlocks (.ofBlockBackend B) s.storageBackend l missBids head t).1 = .ok fetched →
        ∀ bid ∈ missBids, ∀ kv kv', fetched.get? bid = some kv →
          V.content s.storageBackend (l, bid) = some kv' → kv = kv' := by
  unfold fetchBlocks Backend.ofBlockBackend
  dsimp only
  cases hbatch : B.readBlockBatch with
  | none =>
      refine ⟨StoreView.Keeps.refl h.valid, ?_⟩
      rintro _ ⟨⟩ _ _ _ _ ⟨⟩
  | some read =>
      refine ⟨(V.blockBatch read hbatch).keeps s.storageBackend l missBids head t h.valid, ?_⟩
      intro fetched hfetched bid hbid kv kv' hkv hkv'
      have hpage := (V.blockBatch read hbatch).returns s.storageBackend l missBids head t fetched
        h.valid hfetched bid hbid kv' hkv'
      exact Option.some.inj (hkv.symm.trans hpage)

theorem speculates_prefetchSync (h : Speculates V cfg s) (l : Nat) (missBids : List Nat)
    (head t : Nat) :
    Speculates V cfg (prefetchSync (.ofBlockBackend B) cfg s l missBids head t).2 := by
  obtain ⟨hkeeps, hpages⟩ := fetchBlocks_ok h l missBids head t
  unfold prefetchSync
  revert hkeeps hpages
  rcases fetchBlocks (.ofBlockBackend B) s.storageBackend l missBids head t with ⟨_ | fetched, b'⟩
  · exact fun hkeeps _ => h.fetched hkeeps
  · intro hkeeps hpages
    apply speculates_stageEach fetched l head t missBids [] (h.fetched hkeeps)
    intro bid hbid kv kv' hkv hkv'
    exact hpages fetched rfl bid hbid kv kv' hkv (by rw [← hkeeps.content_eq]; exact hkv')

/-! ### Background fetches -/

def InShape (cfg : AdapterConfig) (kv : NDArray × NDArray) : Prop :=
  kv.1.shape = cfg.defaultShape ∧ kv.2.shape = cfg.defaultShape

def Misfits (cfg : AdapterConfig) (kv : NDArray × NDArray) : Prop :=
  kv.1.shape.prod ≠ cfg.defaultShape.prod ∨ kv.2.shape.prod ≠ cfg.defaultShape.prod

theorem eq_of_reshapedBlock {kv kv' : NDArray × NDArray} (hfits : InShape cfg kv ∨ Misfits cfg kv)
    (h : reshapedBlock cfg.defaultShape kv = .ok kv') : kv' = kv := by
  have hprod : ∀ {a a' : NDArray}, reshaped cfg.defaultShape a = .ok a' →
      a.shape.prod = cfg.defaultShape.prod := by
    intro a a' ha
    unfold reshaped NDArray.reshape at ha
    split at ha
    · split at ha
      · assumption
      · cases ha
    · rename_i hsame
      rw [not_not.mp hsame]
  rcases hfits with ⟨hk, hv⟩ | hmisfit
  · rw [Prefetch.RealInferencePrefetchAdapter.reshapedBlock_of_eq hk hv] at h
    exact (Except.ok.inj h).symm
  · unfold reshapedBlock at h
    cases hk : reshaped cfg.defaultShape kv.1 with
    | error err =>
        rw [hk] at h
        cases h
    | ok k =>
        rw [hk] at h
        cases hv : reshaped cfg.defaultShape kv.2 with
        | error err =>
            rw [hv] at h
            cases h
        | ok v =>
            rcases hmisfit with hkMisfit | hvMisfit
            · exact absurd (hprod hk) hkMisfit
            · exact absurd (hprod hv) hvMisfit

/-- What `read_block` returns for a stored block is what is stored, unless the block is
staged and was given another shape. -/
theorem readBlock_returned (h : Speculates V cfg s) {l b : Nat} {kv kv' : NDArray × NDArray}
    (hkv : V.content s.storageBackend (l, b) = some kv)
    (hfits : s.stagingBuffer.contains (l, b) = true → InShape cfg kv ∨ Misfits cfg kv) (head t : Nat)
    (hret : (readBlock (.ofBlockBackend B) cfg s l b head t).1 = .returns (.ok kv')) : kv' = kv := by
  unfold readBlock at hret
  cases hentry : s.stagingBuffer.get? (l, b) with
  | none =>
      rw [readSingle_unstaged hentry] at hret
      have hread := V.block.returns s.storageBackend l b head t kv h.valid hkv
      have hfetch : (fetchBlock (.ofBlockBackend B) cfg (countMiss s) l b head t).1 = .ok kv := hread
      rw [hfetch] at hret
      cases hret
      rfl
  | some entry =>
      rcases @readSingle_staged _ _ _ V cfg s _ h l b entry hentry kv hkv cfg.bytesPerBlock
        (stagedBlock cfg) (fetchBlock (.ofBlockBackend B) cfg) head t with
        ⟨_, hwait, -⟩ | ⟨_, _, hraise, -⟩ | hanswer
      · rw [hwait] at hret
        cases hret
      · rw [hraise] at hret
        cases hret
      · rw [hanswer] at hret
        exact eq_of_reshapedBlock (hfits (by simp [Dict.contains, hentry]))
          (Outcome.returns.inj hret)

theorem speculates_setFetch (h : Speculates V cfg s) {future : Nat} {fetch fetch' : BackgroundFetch}
    (hfetch : s.futures[future]? = some fetch) (hlayer : fetch'.layerId = fetch.layerId)
    (hblocks : fetch'.blockIds = fetch.blockIds)
    (hok : FetchOk (V.content s.storageBackend) fetch') :
    Speculates V cfg (setFetch s future fetch') := by
  refine ⟨h.valid, h.shape_eq, h.buffer.of_sameBlocks (.set hfetch hlayer hblocks), ?_⟩
  intro x hx
  rcases List.mem_or_eq_of_mem_set hx with hold | rfl
  · exact h.fetches x hold
  · exact hok

/-- A fetch that ends holds what it held; one that is done has nothing left to read. -/
theorem FetchOk.ended {content : Content} {fetch : BackgroundFetch} (h : FetchOk content fetch)
    {state : FutureState} (waitingOn : Option Nat) (hdone : state = .done → fetch.remaining = []) :
    FetchOk content { fetch with state := state, waitingOn := waitingOn } :=
  ⟨h.remaining_sub, h.fetched_sub, h.fetched_eq, h.fetched_all, hdone⟩

/-- A fetch that reads its blocks one by one comes to a staged block that is stored in the
shape of the adapter, or cannot be given that shape. -/
def TakesInShape (V : B.ReturnsLastWrite) (cfg : AdapterConfig)
    (s : RealInferencePrefetchAdapter σ) (future : Nat) : Prop :=
  B.readBlockBatch = none → ∀ fetch bid rest kv, s.futures[future]? = some fetch →
    fetch.remaining = bid :: rest → s.stagingBuffer.contains (fetch.layerId, bid) = true →
    V.content s.storageBackend (fetch.layerId, bid) = some kv → InShape cfg kv ∨ Misfits cfg kv

theorem fetchOk_ofBatch (h : Speculates V cfg s) {fetch : BackgroundFetch}
    {read : BatchRead σ (NDArray × NDArray)} (hread : B.readBlockBatch = some read)
    {fetched : Dict Nat (NDArray × NDArray)} {head t : Nat}
    (hfetched : (read s.storageBackend fetch.layerId fetch.blockIds head t).1 = .ok fetched) :
    FetchOk (V.content s.storageBackend) { fetch with remaining := [], fetched := fetched } where
  remaining_sub := fun _ hmem => absurd hmem List.not_mem_nil
  fetched_sub := by
    intro bid kv hkv
    by_contra hnot
    have hnone := (V.blockBatch read hread).only s.storageBackend fetch.layerId fetch.blockIds head t
      fetched h.valid hfetched bid hnot
    rw [hnone] at hkv
    cases hkv
  fetched_eq := by
    intro bid kv kv' hkv hkv'
    by_cases hmem : bid ∈ fetch.blockIds
    · have hpage := (V.blockBatch read hread).returns s.storageBackend fetch.layerId fetch.blockIds
        head t fetched h.valid hfetched bid hmem kv' hkv'
      exact Option.some.inj (hkv.symm.trans hpage)
    · have hnone := (V.blockBatch read hread).only s.storageBackend fetch.layerId fetch.blockIds
        head t fetched h.valid hfetched bid hmem
      rw [hnone] at hkv
      cases hkv
  fetched_all := by
    intro bid hmem _ hstored
    obtain ⟨kv, hkv⟩ := Option.isSome_iff_exists.mp hstored
    dsimp only
    rw [(V.blockBatch read hread).returns s.storageBackend fetch.layerId fetch.blockIds head t
      fetched h.valid hfetched bid hmem kv hkv]
    rfl
  done_all := fun _ => rfl

theorem FetchOk.took {content : Content} {fetch : BackgroundFetch} (h : FetchOk content fetch)
    {bid : Nat} {rest : List Nat} (hremaining : fetch.remaining = bid :: rest)
    {kv : NDArray × NDArray} (hkv : ∀ kv', content (fetch.layerId, bid) = some kv' → kv = kv')
    (hrunning : fetch.state = .running) :
    FetchOk content
      { fetch with remaining := rest, fetched := fetch.fetched.set bid kv, waitingOn := none } where
  remaining_sub := fun b hb => h.remaining_sub b (hremaining ▸ List.mem_cons_of_mem bid hb)
  fetched_sub := by
    intro b x hx
    dsimp only at hx
    rw [Dict.get?_set] at hx
    split at hx
    · rename_i hb
      subst hb
      exact h.remaining_sub bid (hremaining ▸ List.mem_cons_self)
    · exact h.fetched_sub b x hx
  fetched_eq := by
    intro b x x' hx hx'
    dsimp only at hx
    rw [Dict.get?_set] at hx
    split at hx
    · rename_i hb
      subst hb
      cases hx
      exact hkv x' hx'
    · exact h.fetched_eq b x x' hx hx'
  fetched_all := by
    intro b hb hnot hstored
    dsimp only
    rw [Dict.get?_set]
    split
    · rfl
    · rename_i hne
      refine h.fetched_all b hb ?_ hstored
      rw [hremaining, List.mem_cons, not_or]
      exact ⟨Ne.symm hne, hnot⟩
  done_all := by
    intro hdone
    cases hrunning.symm.trans hdone

theorem speculates_fetchNext (h : Speculates V cfg s) {future : Nat}
    (hshape : TakesInShape V cfg s future) :
    Speculates V cfg (fetchNext (.ofBlockBackend B) cfg s future) := by
  have hok : ∀ {fetch}, s.futures[future]? = some fetch →
      FetchOk (V.content s.storageBackend) fetch :=
    fun hfetch => h.fetches _ (List.mem_of_getElem? hfetch)
  have hkeeps : ∀ l bid head t, KeepsSpeculating V cfg s _ :=
    fun l bid head t => @keepsSpeculating_readBlock _ _ B V cfg s l bid head t
  have hsame : ∀ {fetch} l bid head t, s.futures[future]? = some fetch →
      (readBlock (.ofBlockBackend B) cfg s l bid head t).2.futures[future]? = some fetch := by
    intro fetch l bid head t hfetch
    rw [(readOnly_readBlock s l bid head t).futures_eq]
    exact hfetch
  have hstep := @fetchStep_fetchNext _ (.ofBlockBackend B) cfg s future
  generalize fetchNext (.ofBlockBackend B) cfg s future = s' at hstep ⊢
  cases hstep with
  | idle => exact h
  | @batchRaised fetch read err hfetch _ hbatch _ =>
      have hb := (V.blockBatch read hbatch).keeps s.storageBackend fetch.layerId fetch.blockIds
        fetch.headId fetch.tokenStart h.valid
      refine speculates_setFetch (h.fetched hb) hfetch rfl rfl ?_
      rw [hb.content_eq]
      exact (hok hfetch).ended _ fun hdone => by cases hdone
  | @batchRead fetch read fetched hfetch _ hbatch hread =>
      have hb := (V.blockBatch read hbatch).keeps s.storageBackend fetch.layerId fetch.blockIds
        fetch.headId fetch.tokenStart h.valid
      refine speculates_setFetch (h.fetched hb) hfetch rfl rfl ?_
      rw [hb.content_eq]
      exact fetchOk_ofBatch h hbatch hread
  | @waits fetch bid rest other hfetch _ _ _ _ =>
      obtain ⟨hs', hcontent⟩ := hkeeps fetch.layerId bid fetch.headId fetch.tokenStart h
      refine speculates_setFetch hs' (hsame _ _ _ _ hfetch) rfl rfl ?_
      rw [hcontent]
      exact (hok hfetch).ended _ (hok hfetch).done_all
  | @raised fetch bid rest err hfetch _ _ _ _ =>
      obtain ⟨hs', hcontent⟩ := hkeeps fetch.layerId bid fetch.headId fetch.tokenStart h
      refine speculates_setFetch hs' (hsame _ _ _ _ hfetch) rfl rfl ?_
      rw [hcontent]
      exact (hok hfetch).ended _ fun hdone => by cases hdone
  | @took fetch bid rest kv hfetch hrunning hremaining hbatch hread =>
      obtain ⟨hs', hcontent⟩ := hkeeps fetch.layerId bid fetch.headId fetch.tokenStart h
      refine speculates_setFetch hs' (hsame _ _ _ _ hfetch) rfl rfl ?_
      rw [hcontent]
      refine (hok hfetch).took hremaining (fun kv' hkv' => ?_) hrunning
      exact readBlock_returned h hkv'
        (fun hstaged => hshape hbatch fetch bid rest kv' hfetch hremaining hstaged hkv') _ _ hread

theorem speculates_complete (h : Speculates V cfg s) (future : Nat) :
    Speculates V cfg (complete s future) := by
  unfold complete
  cases hfetch : s.futures[future]? with
  | none => exact h
  | some fetch =>
      have hok := h.fetches fetch (List.mem_of_getElem? hfetch)
      dsimp only
      split
      · rename_i hdone
        exact speculates_setFetch h hfetch rfl rfl (hok.ended _ fun _ => hdone.2)
      · exact h

theorem speculates_fail (h : Speculates V cfg s) (future : Nat) (err : PyErr) :
    Speculates V cfg (fail s future err) := by
  unfold fail
  cases hfetch : s.futures[future]? with
  | none => exact h
  | some fetch =>
      have hok := h.fetches fetch (List.mem_of_getElem? hfetch)
      dsimp only
      split
      · exact speculates_setFetch h hfetch rfl rfl (hok.ended _ fun hdone => by cases hdone)
      · exact h

end Adapter

end AiSsd.Prefetch.Async
