import AiSsd.Storage.PhysicalStorage
import AiSsd.Tiering.StorageSimulation

/-!
# The physical adapter and the mock controller

The two storages answer alike as long as the drive has a page for every block: always under
tensor-aware allocation, and up to the drive's number of pages under conventional allocation.
They count alike, up to the copies of loaded blocks, which only the mock controller counts into
its DRAM.
-/

namespace AiSsd.Storage

open Lib Attention Numpy Tiering Ftl

universe u

variable {α : Type u} {heads dim : Nat} {cfg : SimulatorConfig}

/-! ## Counters -/

namespace Telemetry

def unstaged (t : Telemetry) : Telemetry := { t with controllerDramWriteBytes := 0 }

theorem unstaged_readFlash (t : Telemetry) (cached : Bool) (bytes : Nat) :
    (t.readFlash cached bytes).unstaged = t.unstaged.readFlash cached bytes := by
  cases cached <;> rfl

theorem unstaged_foldl {β : Type*} (cached : β → Bool) (bytes : β → Nat) (bs : List β)
    (t : Telemetry) :
    (bs.foldl (fun t b => t.readFlash (cached b) (bytes b)) t).unstaged =
      bs.foldl (fun t b => t.readFlash (cached b) (bytes b)) t.unstaged := by
  induction bs generalizing t with
  | nil => rfl
  | cons b bs ih => rw [List.foldl_cons, List.foldl_cons, ih, unstaged_readFlash]

@[simp] theorem nandWriteOps_readFlash (t : Telemetry) (cached : Bool) (bytes : Nat) :
    (t.readFlash cached bytes).nandWriteOps = t.nandWriteOps := by
  cases cached <;> rfl

theorem nandWriteOps_foldl {β : Type*} (cached : β → Bool) (bytes : β → Nat) (bs : List β)
    (t : Telemetry) :
    (bs.foldl (fun t b => t.readFlash (cached b) (bytes b)) t).nandWriteOps = t.nandWriteOps := by
  induction bs generalizing t with
  | nil => rfl
  | cons b bs ih => rw [List.foldl_cons, ih, nandWriteOps_readFlash]

end Telemetry

/-! ## Room on the drive -/

/-- A conventional drive has handed out a page for each of the `n` blocks written. -/
def Counted (mode : FtlMode) (sim : StorageSimulator cfg) (n : Nat) : Prop :=
  match sim.allocator.ftl with
  | .tensorAware _ => True
  | .conventional f => mode = .conventional ∧ f.linearCounter = n

theorem counted_init (mode : FtlMode) : Counted mode (StorageSimulator.init cfg mode) 0 := by
  cases mode with
  | tensorAware => exact trivial
  | conventional => exact ⟨rfl, rfl⟩

theorem Counted.readPages {mode : FtlMode} {s : PhysicalTensorAwareStorageAdapter cfg α heads dim}
    {n : Nat} (h : Counted mode s.storageSimulator n) (gids : List Int) :
    Counted mode (s.readPages gids) n := by
  unfold PhysicalTensorAwareStorageAdapter.readPages
  split
  · exact h
  · unfold Counted StorageSimulator.estimateReadLatency
    rw [(StorageSimulator.readEach_keeps gids [] s.storageSimulator).1]
    exact h

/-- A block finds a page, unless the drive is conventional and full. -/
theorem Counted.storeBlock {mode : FtlMode} {sim : StorageSimulator cfg} {n : Nat}
    (h : Counted mode sim n) (block : Ftl.KVBlock) :
    mode = .conventional ∧ cfg.ftlGeometry.totalPages < n + 1 ∨
      ∃ loc sim', sim.storeBlock block = (.ok loc, sim') ∧ Counted mode sim' (n + 1) := by
  cases hftl : sim.allocator.ftl with
  | tensorAware f =>
      right
      have hnext : sim.nextPage block = some (f.placement block) := by
        rw [StorageSimulator.nextPage, hftl]
        rfl
      refine ⟨_, (sim.storeBlock block).2,
        Prod.ext (StorageSimulator.answer_storeBlock hnext) rfl, ?_⟩
      have hkeeps : ∃ f', (sim.storeBlock block).2.allocator.ftl = .tensorAware f' := by
        refine ⟨(f.allocate { block with storageTier := "SSD" }).2, ?_⟩
        have halloc : (f.allocate { block with storageTier := "SSD" }).1 =
            .ok (f.placement { block with storageTier := "SSD" }).text := rfl
        unfold StorageSimulator.storeBlock KVStorageAllocator.storeBlock AnyFtl.allocate
        simp only [hftl, halloc, parsePhysicalLocation_text, StorageSimulator.storeAt_allocator]
      obtain ⟨f', hf'⟩ := hkeeps
      unfold Counted
      rw [hf']
      trivial
  | conventional f =>
      unfold Counted at h
      rw [hftl] at h
      obtain ⟨hmode, hcounter⟩ := h
      by_cases hfull : cfg.ftlGeometry.totalPages ≤ f.linearCounter
      · exact .inl ⟨hmode, by omega⟩
      · right
        have hnext := StorageSimulator.nextPage_conventional hftl block
        rw [if_neg hfull] at hnext
        obtain ⟨f', hf', hnew⟩ := StorageSimulator.ftl_storeBlock hftl (Nat.lt_of_not_le hfull) block
        refine ⟨_, (sim.storeBlock block).2,
          Prod.ext (StorageSimulator.answer_storeBlock hnext) rfl, ?_⟩
        unfold Counted
        rw [hf']
        exact ⟨hmode, by omega⟩

namespace PhysicalTensorAwareStorageAdapter

open MockSSDController (nbytes blockScore topIndices npStack)

/-! ## Two storages alike -/

/-- The same blocks and counts, with the ids of the stored blocks on record. -/
structure Mirrors (mode : FtlMode) (s : PhysicalTensorAwareStorageAdapter cfg α heads dim)
    (t : MockSSDController α heads dim) : Prop where
  store : Dict.Mapped PhysicalEntry.toFlashEntry s.flashStore t.flashStore
  ids : ∀ key entry, s.flashStore.get? key = some entry →
    s.globalIdMap.get? key = some entry.globalId
  cache : s.controllerDramCache = t.controllerDramCache
  counters : s.telemetry = t.telemetry.unstaged
  room : Counted mode s.storageSimulator t.telemetry.nandWriteOps

/-- More blocks were written than a conventional drive has pages. -/
def Full (cfg : SimulatorConfig) (mode : FtlMode) (t : MockSSDController α heads dim) : Prop :=
  mode = .conventional ∧ cfg.ftlGeometry.totalPages < t.telemetry.nandWriteOps

theorem mirrors_init (mode : FtlMode) :
    Mirrors mode (init mode : PhysicalTensorAwareStorageAdapter cfg α heads dim)
      MockSSDController.init where
  store := Dict.mapped_empty
  ids := by
    intro key entry hget
    cases hget
  cache := rfl
  counters := rfl
  room := counted_init mode

variable (widths : ElementWidths) {mode : FtlMode}

theorem storeKv_simulates (b l : Nat) (k v : Option (List (Row α heads dim))) :
    Simulates (Mirrors mode) (Agree SameClass) (Full cfg mode)
      (fun s : PhysicalTensorAwareStorageAdapter cfg α heads dim => storeKv widths s b l k v)
      fun t => MockSSDController.storeKv widths t b l k v := by
  intro s t h
  unfold storeKv MockSSDController.storeKv
  cases k with
  | none => exact .inr ⟨.error (.refl _), h⟩
  | some k =>
      cases v with
      | none => exact .inr ⟨.error (.refl _), h⟩
      | some v =>
          dsimp only
          rcases h.room.storeBlock (p2Block widths b l k v).ftl with hfull | ⟨loc, sim, hstore, hroom⟩
          · exact .inl hfull
          · right
            have hsame : (s.announce b l (nbytes widths k + nbytes widths v)).storageSimulator =
                s.storageSimulator := rfl
            rw [hsame, hstore]
            refine ⟨.ok true, ?_⟩
            have hcounters := h.counters
            exact {
              store := h.store.set (l, b) ⟨⟨k, v⟩, encodeGlobalBlockId l b⟩
              ids := by
                intro key entry hget
                dsimp only [announce] at hget ⊢
                rw [Dict.get?_set] at hget ⊢
                split at hget
                · rename_i hkey
                  cases hget
                  rw [if_pos hkey]
                · rename_i hkey
                  rw [if_neg hkey]
                  exact h.ids key entry hget
              cache := h.cache
              counters := by
                dsimp only [announce]
                rw [hcounters]
                rfl
              room := hroom }

theorem loadKv_simulates (b l : Nat) :
    Simulates (Mirrors mode) (Agree SameClass) (Full cfg mode)
      (fun s : PhysicalTensorAwareStorageAdapter cfg α heads dim => loadKv widths s b l)
      fun t => MockSSDController.loadKv widths t b l := by
  intro s t h
  right
  dsimp only
  unfold loadKv MockSSDController.loadKv
  rw [h.store.get?]
  cases s.flashStore.get? (l, b) with
  | none => exact ⟨.error (.keyError _ _), h⟩
  | some entry =>
      dsimp only [Option.map_some]
      refine ⟨.ok _, ?_⟩
      exact {
        store := h.store
        ids := h.ids
        cache := h.cache
        counters := by
          dsimp only
          rw [h.cache, h.counters]
          cases t.controllerDramCache.contains (l, b) <;> rfl
        room := by
          have hroom := h.room.readPages
            (if s.controllerDramCache.contains (l, b) = true then [] else [entry.globalId])
          dsimp only
          rw [Telemetry.nandWriteOps_readFlash]
          exact hroom }

theorem storeKv_full (b l : Nat) (k v : Option (List (Row α heads dim))) :
    StaysPast (Full cfg mode) fun t => MockSSDController.storeKv widths t b l k v := by
  rintro t ⟨hmode, hover⟩
  dsimp only
  unfold MockSSDController.storeKv
  split
  · exact ⟨hmode, Nat.lt_succ_of_lt hover⟩
  · exact ⟨hmode, hover⟩

theorem loadKv_full (b l : Nat) :
    StaysPast (Full cfg mode)
      fun t : MockSSDController α heads dim => MockSSDController.loadKv widths t b l := by
  rintro t ⟨hmode, hover⟩
  dsimp only
  unfold MockSSDController.loadKv
  split
  · exact ⟨hmode, hover⟩
  · refine ⟨hmode, ?_⟩
    dsimp only
    rwa [Telemetry.nandWriteOps_readFlash]

/-- The two calls of the tiering manager. -/
theorem storageSimulation :
    StorageSimulation
      (kvStorage widths : KVStorage (PhysicalTensorAwareStorageAdapter cfg α heads dim) _ _)
      (MockSSDController.kvStorage widths) (Mirrors mode) (Full cfg mode) where
  store := storeKv_simulates widths
  load := loadKv_simulates widths
  store_past := storeKv_full widths
  load_past := loadKv_full widths

/-! ## Attention inside the storage -/

def plain (b : Nat × PhysicalEntry α heads dim) : Nat × FlashEntry α heads dim :=
  (b.1, b.2.toFlashEntry)

theorem Mirrors.layerEntries {s : PhysicalTensorAwareStorageAdapter cfg α heads dim}
    {t : MockSSDController α heads dim} (h : Mirrors mode s t) (l : Nat) :
    t.layerEntries l = (s.layerEntries l).map plain := by
  have hentries : t.flashStore.entries = s.flashStore.entries.map fun e => (e.1, e.2.toFlashEntry) :=
    h.store
  unfold MockSSDController.layerEntries PhysicalTensorAwareStorageAdapter.layerEntries
  rw [List.map_insertionSort (r := fun a b => a.1 ≤ b.1) (s := fun a b => a.1 ≤ b.1)
    plain _ fun _ _ _ _ => Iff.rfl, hentries, List.filter_map, List.map_map, List.map_map]
  rfl

/-- A call that reads, counts and logs, and leaves the tables alone. -/
theorem Mirrors.counted {s : PhysicalTensorAwareStorageAdapter cfg α heads dim}
    {t : MockSSDController α heads dim} (h : Mirrors mode s t) (gids : List Int)
    {c c' : Telemetry} (hc : c = c'.unstaged) (hwrites : c'.nandWriteOps = t.telemetry.nandWriteOps)
    (log : List PhysicalEvent) (log' : List TraceEvent) :
    Mirrors mode
      { s with storageSimulator := s.readPages gids, telemetry := c, traceLog := log }
      { t with telemetry := c', traceLog := log' } where
  store := h.store
  ids := h.ids
  cache := h.cache
  counters := hc
  room := by
    dsimp only
    rw [hwrites]
    exact h.room.readPages gids

theorem Mirrors.ids_layer {s : PhysicalTensorAwareStorageAdapter cfg α heads dim}
    {t : MockSSDController α heads dim} (h : Mirrors mode s t) (l : Nat) :
    ∀ b ∈ s.layerEntries l, s.globalIdMap.get? (l, b.1) = some b.2.globalId := by
  intro b hb
  unfold PhysicalTensorAwareStorageAdapter.layerEntries at hb
  rw [List.mem_insertionSort] at hb
  obtain ⟨e, he, rfl⟩ := List.mem_map.mp hb
  obtain ⟨hmem, hlayer⟩ := List.mem_filter.mp he
  obtain ⟨⟨l', bid⟩, entry⟩ := e
  obtain rfl : l' = l := by simpa using hlayer
  exact h.ids _ entry ((Dict.mem_entries_iff _ _ _).mp hmem)

/-- With every id on record the values are read, and counted as they come. -/
theorem readValues_ok {s : PhysicalTensorAwareStorageAdapter cfg α heads dim} {l : Nat}
    {bs : List (Nat × PhysicalEntry α heads dim)}
    (hids : ∀ b ∈ bs, s.globalIdMap.get? (l, b.1) = some b.2.globalId) (gids : List Int)
    (c : Telemetry) :
    ∃ gids', s.readValues widths l bs gids c =
      (.ok gids', bs.foldl (fun c b => c.readFlash (s.controllerDramCache.contains (l, b.1))
        (nbytes widths b.2.v)) c) := by
  induction bs generalizing gids c with
  | nil => exact ⟨gids, rfl⟩
  | cons b bs ih =>
      rw [List.forall_mem_cons] at hids
      unfold readValues
      dsimp only
      rw [List.foldl_cons, hids.1]
      split
      · exact ih hids.2 _ _
      · exact ih hids.2 _ _

def scoredCounters (cached : Nat → Bool) (tokensPerBlock : Nat)
    (blocks : List (Nat × FlashEntry α heads dim)) (c : Telemetry) : Telemetry :=
  let keysRead := blocks.foldl (fun c b => c.readFlash (cached b.1) (nbytes widths b.2.k))
    { c with hostToDeviceBytes := c.hostToDeviceBytes + heads * dim * widths.kv }
  { keysRead with
    computeMacCount :=
      keysRead.computeMacCount + blocks.length * tokensPerBlock * heads * dim }

def streamedCounters (cached : Nat → Bool) (selected : List (Nat × FlashEntry α heads dim))
    (payload : Nat) (c : Telemetry) : Telemetry :=
  let valuesRead := selected.foldl (fun c b => c.readFlash (cached b.1) (nbytes widths b.2.v)) c
  { valuesRead with deviceToHostBytes := valuesRead.deviceToHostBytes + payload }

theorem unstaged_scoredCounters (cached : Nat → Bool) (tokensPerBlock : Nat)
    (blocks : List (Nat × FlashEntry α heads dim)) (c : Telemetry) :
    (scoredCounters widths cached tokensPerBlock blocks c).unstaged =
      scoredCounters widths cached tokensPerBlock blocks c.unstaged := by
  have hfold := Telemetry.unstaged_foldl (fun b : Nat × FlashEntry α heads dim => cached b.1)
    (fun b => nbytes widths b.2.k) blocks
    { c with hostToDeviceBytes := c.hostToDeviceBytes + heads * dim * widths.kv }
  unfold scoredCounters
  have hstart : Telemetry.unstaged
      { c with hostToDeviceBytes := c.hostToDeviceBytes + heads * dim * widths.kv } =
        { c.unstaged with
          hostToDeviceBytes := c.unstaged.hostToDeviceBytes + heads * dim * widths.kv } := rfl
  rw [hstart] at hfold
  rw [← hfold]
  rfl

theorem unstaged_streamedCounters (cached : Nat → Bool)
    (selected : List (Nat × FlashEntry α heads dim)) (payload : Nat) (c : Telemetry) :
    (streamedCounters widths cached selected payload c).unstaged =
      streamedCounters widths cached selected payload c.unstaged := by
  have hfold := Telemetry.unstaged_foldl (fun b : Nat × FlashEntry α heads dim => cached b.1)
    (fun b => nbytes widths b.2.v) selected c
  unfold streamedCounters
  rw [← hfold]
  rfl

theorem nandWriteOps_scoredCounters (cached : Nat → Bool) (tokensPerBlock : Nat)
    (blocks : List (Nat × FlashEntry α heads dim)) (c : Telemetry) :
    (scoredCounters widths cached tokensPerBlock blocks c).nandWriteOps = c.nandWriteOps :=
  Telemetry.nandWriteOps_foldl (fun b : Nat × FlashEntry α heads dim => cached b.1)
    (fun b => nbytes widths b.2.k) blocks
    { c with hostToDeviceBytes := c.hostToDeviceBytes + heads * dim * widths.kv }

theorem nandWriteOps_streamedCounters (cached : Nat → Bool)
    (selected : List (Nat × FlashEntry α heads dim)) (payload : Nat) (c : Telemetry) :
    (streamedCounters widths cached selected payload c).nandWriteOps = c.nandWriteOps :=
  Telemetry.nandWriteOps_foldl (fun b : Nat × FlashEntry α heads dim => cached b.1)
    (fun b => nbytes widths b.2.v) selected c

section Attention

variable [Field α] [LinearOrder α] (np : IndexSort α) (sqrt : α → α)

def selectTop (query : Row α heads dim) (scale : α) (blocks : List (Nat × FlashEntry α heads dim))
    (effectiveK : Nat) :
    Except PyErr (List (Nat × FlashEntry α heads dim) × List (List (Row α heads dim)) × List α) :=
  match blocks.mapM fun b => blockScore query scale b.2.k with
  | .error err => .error err
  | .ok blockScores =>
      let chosen := topIndices np blockScores effectiveK
      let selected := chosen.filterMap fun i => blocks[i]?
      match npStack (selected.map fun b => b.2.v) with
      | .error err => .error err
      | .ok topkValues => .ok (selected, topkValues, chosen.filterMap fun i => blockScores[i]?)

def payloadOf (selected : List (Nat × FlashEntry α heads dim))
    (topkValues : List (List (Row α heads dim))) (topkLogits : List (Fin heads → α))
    (topkScores : List α) : Nat :=
  (topkValues.map (nbytes widths)).sum + topkLogits.length * heads * widths.logit +
    topkScores.length * 4 + selected.length * 4

def logitsOf (query : Row α heads dim) (scale : α)
    (selected : List (Nat × FlashEntry α heads dim)) : List (Fin heads → α) :=
  selected.flatMap fun b => b.2.k.map (logit query scale)

theorem mock_topk {t : MockSSDController α heads dim} (query : Row α heads dim) {l : Nat}
    (topK : Nat) {blocks : List (Nat × FlashEntry α heads dim)}
    {first : Nat × FlashEntry α heads dim} (hblocks : t.layerEntries l = blocks)
    (hfirst : blocks.head? = some first) :
    let scored := scoredCounters widths (fun bid => t.controllerDramCache.contains (l, bid))
      first.2.k.length blocks t.telemetry
    let scale := attentionScale sqrt dim
    t.inStorageTopkAttention widths np sqrt query l topK =
      match selectTop np query scale blocks (min topK blocks.length) with
      | .error err => (.error err, { t with telemetry := scored })
      | .ok (selected, topkValues, topkScores) =>
          let topkLogits := logitsOf query scale selected
          let payload := payloadOf widths selected topkValues topkLogits topkScores
          (.ok (.four (selected.map Prod.fst) topkValues topkLogits topkScores),
            { t with
              telemetry := streamedCounters widths
                (fun bid => t.controllerDramCache.contains (l, bid)) selected payload scored
              traceLog := t.traceLog ++
                [.inStorageTopk l blocks.length (min topK blocks.length) payload] }) := by
  obtain ⟨rest, rfl⟩ := List.head?_eq_some_iff.mp hfirst
  unfold MockSSDController.inStorageTopkAttention selectTop
  rw [hblocks]
  dsimp only
  cases (first :: rest).mapM fun b => blockScore query (attentionScale sqrt dim) b.2.k with
  | error err => rfl
  | ok blockScores =>
      dsimp only
      cases npStack (((topIndices np blockScores (min topK (first :: rest).length)).filterMap
          fun i => (first :: rest)[i]?).map fun b => b.2.v) with
      | error err => rfl
      | ok topkValues => rfl

omit [Field α] [LinearOrder α] in
theorem scoreKeys_eq (s : PhysicalTensorAwareStorageAdapter cfg α heads dim) (l tokens : Nat)
    (blocks : List (Nat × PhysicalEntry α heads dim)) :
    ∃ gids, s.scoreKeys widths l tokens blocks =
      { s with
        storageSimulator := s.readPages gids
        telemetry := scoredCounters widths (fun bid => s.controllerDramCache.contains (l, bid))
          tokens (blocks.map plain) s.telemetry } := by
  refine ⟨(blocks.filter fun b => !s.controllerDramCache.contains (l, b.1)).map
    fun b => b.2.globalId, ?_⟩
  unfold scoreKeys scoredCounters
  rw [List.foldl_map, List.length_map]
  rfl

omit [LinearOrder α] in
theorem streamTop_eq {s : PhysicalTensorAwareStorageAdapter cfg α heads dim}
    (query : Row α heads dim) (scale : α) {l : Nat}
    {selected : List (Nat × PhysicalEntry α heads dim)}
    (hids : ∀ b ∈ selected, s.globalIdMap.get? (l, b.1) = some b.2.globalId)
    (topkValues : List (List (Row α heads dim))) (topkScores : List α) :
    let topkLogits := logitsOf query scale (selected.map plain)
    let payload := payloadOf widths (selected.map plain) topkValues topkLogits topkScores
    ∃ gids log, s.streamTop widths query scale l selected topkValues topkScores =
      (.ok (.four ((selected.map plain).map Prod.fst) topkValues topkLogits topkScores),
        { s with
          storageSimulator := s.readPages gids
          telemetry := streamedCounters widths
            (fun bid => s.controllerDramCache.contains (l, bid)) (selected.map plain) payload
            s.telemetry
          traceLog := log }) := by
  obtain ⟨gids, hread⟩ := readValues_ok widths hids [] s.telemetry
  refine ⟨gids, (s.streamTop widths query scale l selected topkValues topkScores).2.traceLog, ?_⟩
  unfold streamTop streamedCounters payloadOf logitsOf
  rw [hread, List.foldl_map, List.map_map, List.length_map, List.flatMap_map]
  rfl

theorem inStorageTopkAttention_mirrors {s : PhysicalTensorAwareStorageAdapter cfg α heads dim}
    {t : MockSSDController α heads dim} (h : Mirrors mode s t) (query : Row α heads dim)
    {l : Nat} (topK : Nat) (hstored : t.layerEntries l ≠ []) :
    (s.inStorageTopkAttention widths np sqrt query l topK).1 =
        (t.inStorageTopkAttention widths np sqrt query l topK).1 ∧
      Mirrors mode (s.inStorageTopkAttention widths np sqrt query l topK).2
        (t.inStorageTopkAttention widths np sqrt query l topK).2 := by
  have hids := h.ids_layer l
  have hlayer := h.layerEntries l
  cases hblocks : s.layerEntries l with
  | nil =>
      rw [hlayer, hblocks] at hstored
      exact absurd rfl hstored
  | cons first rest =>
      rw [hblocks] at hids hlayer
      have hmock := mock_topk widths np sqrt query topK hlayer (List.head?_map ..)
      obtain ⟨gids, hscored⟩ := scoreKeys_eq widths s l first.2.k.length (first :: rest)
      have hselected : ∀ chosen : List Nat,
          chosen.filterMap (fun i => ((first :: rest).map plain)[i]?) =
            (chosen.filterMap fun i => (first :: rest)[i]?).map plain := by
        intro chosen
        rw [List.map_filterMap]
        exact List.filterMap_congr fun i _ => List.getElem?_map
      have hvalues : ∀ selected : List (Nat × PhysicalEntry α heads dim),
          (selected.map plain).map (fun b => b.2.v) = selected.map fun b => b.2.v :=
        fun selected => List.map_map
      have hscore : (fun b => blockScore query (attentionScale sqrt dim) b.2.k) ∘ plain =
          fun b : Nat × PhysicalEntry α heads dim =>
            blockScore query (attentionScale sqrt dim) b.2.k := rfl
      have hcounters : scoredCounters widths (fun bid => s.controllerDramCache.contains (l, bid))
          first.2.k.length ((first :: rest).map plain) s.telemetry =
          (scoredCounters widths (fun bid => t.controllerDramCache.contains (l, bid))
            first.2.k.length ((first :: rest).map plain) t.telemetry).unstaged := by
        rw [unstaged_scoredCounters, h.counters, h.cache]
      have hscoredMirrors := h.counted gids hcounters
        (nandWriteOps_scoredCounters widths _ first.2.k.length ((first :: rest).map plain)
          t.telemetry) s.traceLog t.traceLog
      rw [hmock]
      unfold selectTop PhysicalTensorAwareStorageAdapter.inStorageTopkAttention
      rw [hblocks, List.mapM_map, List.length_map, hscore]
      dsimp only
      rw [hscored]
      cases (first :: rest).mapM fun b => blockScore query (attentionScale sqrt dim) b.2.k with
      | error err => exact ⟨rfl, hscoredMirrors⟩
      | ok blockScores =>
          dsimp only
          rw [hselected, hvalues]
          generalize hchosen : (topIndices np blockScores
            (min topK (first :: rest).length)).filterMap (fun i => (first :: rest)[i]?) = selected
          cases npStack (selected.map fun b => b.2.v) with
          | error err => exact ⟨rfl, hscoredMirrors⟩
          | ok topkValues =>
              have hon : ∀ b ∈ selected, s.globalIdMap.get? (l, b.1) = some b.2.globalId := by
                intro b hb
                rw [← hchosen] at hb
                obtain ⟨i, -, hi⟩ := List.mem_filterMap.mp hb
                exact hids b (List.mem_of_getElem? hi)
              obtain ⟨gids', log, hstream⟩ := @streamTop_eq α heads dim cfg widths _
                (s.scoreKeys widths l first.2.k.length (first :: rest)) query
                (attentionScale sqrt dim) l selected (by rw [hscored]; exact hon) topkValues
                ((topIndices np blockScores (min topK (first :: rest).length)).filterMap
                  fun i => blockScores[i]?)
              rw [hscored] at hstream
              dsimp only at hstream ⊢
              rw [hstream]
              refine ⟨rfl, hscoredMirrors.counted gids' ?_ ?_ log _⟩
              · rw [unstaged_streamedCounters, hcounters, h.cache]
                rfl
              · exact nandWriteOps_streamedCounters widths _ _ _ _

end Attention

end PhysicalTensorAwareStorageAdapter

end AiSsd.Storage
