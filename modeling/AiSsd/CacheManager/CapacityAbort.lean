import AiSsd.CacheManager.Context
import AiSsd.Ftl.StoreSafety

/-!
# Offload passes that run out of pages

The storage simulator marks a block as on the SSD before it asks for a page. When the page
is refused the mark stays, on a block that is stored nowhere and that no later pass looks at
again. So a run is atomic exactly as long as every pass finds a page for each block it has
to store.
-/

namespace AiSsd.CacheManager

open Lib Numpy Schemas Ftl

/-! ## The simulator as a backend -/

section

variable {cfg : SimulatorConfig}

/-- The location the translation layer sets on the block, if it gives one. -/
def locationAfter (s : StorageSimulator cfg) (b : CachedBlock) : Option Text :=
  match (s.allocator.storeBlock { b.ftl with storageTier := "SSD" }).1 with
  | .ok loc => some loc
  | .error _ => b.physicalLocation

/-- The block as `store_block` leaves it, whether it returns or raises. -/
def marked (s : StorageSimulator cfg) (b : CachedBlock) : CachedBlock :=
  { b with storageTier := .ssd, physicalLocation := locationAfter s b }

variable (cfg) in
def simulatorBackend : SsdBackend (StorageSimulator cfg) where
  storeBlock := fun s b =>
    let r := s.storeBlock b.ftl
    (r.1.map fun _ => (), marked s b, r.2)

theorem simulatorBackend_ok {s : StorageSimulator cfg} {b : CachedBlock} {loc : Text}
    (h : (s.storeBlock b.ftl).1 = .ok loc) :
    (simulatorBackend cfg).storeBlock s b = (.ok (), marked s b, (s.storeBlock b.ftl).2) := by
  unfold simulatorBackend
  dsimp only
  rw [h]
  rfl

theorem simulatorBackend_error {s : StorageSimulator cfg} {b : CachedBlock} {err : PyErr}
    (h : (s.storeBlock b.ftl).1 = .error err) :
    (simulatorBackend cfg).storeBlock s b = (.error err, marked s b, (s.storeBlock b.ftl).2) := by
  unfold simulatorBackend
  dsimp only
  rw [h]
  rfl

def AtPage (s : StorageSimulator cfg) (counter : Nat) : Prop :=
  ∃ t, s.allocator.ftl = .conventional t ∧ t.linearCounter = counter

def PageUsable (cfg : SimulatorConfig) (counter : Nat) : Prop :=
  counter < cfg.ftlGeometry.totalPages

/-- The next `n` pages can all be used. -/
def RoomFor (cfg : SimulatorConfig) (counter n : Nat) : Prop :=
  ∀ i < n, PageUsable cfg (counter + i)

theorem roomFor_succ_iff (counter n : Nat) :
    RoomFor cfg counter (n + 1) ↔ PageUsable cfg counter ∧ RoomFor cfg (counter + 1) n := by
  unfold RoomFor
  rw [Nat.forall_lt_succ_left]
  simp only [Nat.add_zero, Nat.add_right_comm, Nat.add_assoc]

variable {s : StorageSimulator cfg} {counter : Nat}

theorem AtPage.nextPage (h : AtPage s counter) (block : Ftl.KVBlock) :
    s.nextPage block = if counter ≥ cfg.ftlGeometry.totalPages then none
      else some (cfg.ftlGeometry.unravel counter) := by
  obtain ⟨t, hftl, rfl⟩ := h
  rw [StorageSimulator.nextPage, hftl]
  rfl

theorem AtPage.storeBlock_error (h : AtPage s counter) (hpage : ¬ PageUsable cfg counter)
    (block : Ftl.KVBlock) : ∃ err, (s.storeBlock block).1 = .error err := by
  have hnext := h.nextPage block
  rw [if_pos (Nat.le_of_not_lt hpage)] at hnext
  exact ⟨_, congrArg Prod.fst (StorageSimulator.storeBlock_refused hnext)⟩

/-- With one, the block is mapped and stored, and the next page is the one after it. -/
structure Placed (s s' : StorageSimulator cfg) (counter : Nat) (blockId : Int) : Prop where
  atPage : AtPage s' (counter + 1)
  located : ∀ b, blockId = b ∨ (s.getLocation b).isSome → (s'.getLocation b).isSome
  kept : ∀ b, blockId = b ∨ (s.allocator.loadBlock b).isSome →
    (s'.allocator.loadBlock b).isSome

theorem AtPage.storeBlock_ok (h : AtPage s counter) (hpage : PageUsable cfg counter)
    (block : Ftl.KVBlock) :
    ∃ loc, (s.storeBlock block).1 = .ok loc ∧
      Placed s (s.storeBlock block).2 counter block.blockId := by
  have hnext := h.nextPage block
  rw [if_neg (Nat.not_le.mpr hpage)] at hnext
  have hanswer := StorageSimulator.answer_storeBlock hnext
  obtain ⟨t, hftl, rfl⟩ := h
  have hroom := ConventionalFtl.allocate_room hpage { block with storageTier := "SSD" }
  have halloc : (s.storeBlock block).2.allocator =
      (s.allocator.storeBlock { block with storageTier := "SSD" }).2 := by
    unfold StorageSimulator.storeBlock KVStorageAllocator.storeBlock AnyFtl.allocate
    simp only [hftl, hroom, parsePhysicalLocation_text, StorageSimulator.storeAt_allocator]
  have hstored : (s.allocator.storeBlock { block with storageTier := "SSD" }).2.storedBlocks =
      s.allocator.storedBlocks.set block.blockId
        { block with
          storageTier := "SSD"
          physicalLocation := some (cfg.ftlGeometry.unravel t.linearCounter).text } := by
    unfold KVStorageAllocator.storeBlock AnyFtl.allocate
    simp only [hftl, hroom]
  refine ⟨_, hanswer, ⟨?_, ?_, ?_⟩⟩
  · refine ⟨(t.allocate cfg.ftlGeometry { block with storageTier := "SSD" }).2, ?_, ?_⟩
    · rw [halloc]
      unfold KVStorageAllocator.storeBlock AnyFtl.allocate
      simp only [hftl, hroom]
    · rw [hroom]
  · intro b hb
    rw [StorageSimulator.getLocation_storeBlock hnext]
    split
    · rfl
    · rename_i hne
      exact hb.resolve_left hne
  · intro b hb
    rw [halloc, KVStorageAllocator.loadBlock, hstored, Dict.get?_set]
    split
    · rfl
    · rename_i hne
      exact hb.resolve_left hne

end

/-! ## The loop of a pass -/

section

variable {σ : Type} (backend : SsdBackend σ)

/-- The block at which the loop of `evict_to_ssd` raises, if it does. -/
def failedBlock : (cold : List Int) → Dict Int CachedBlock → σ → Option Int
  | [], _, _ => none
  | id :: cold, blocks, ssd =>
      match blocks.get? id with
      | none => failedBlock cold blocks ssd
      | some b =>
          if b.storageTier = .ssd then failedBlock cold blocks ssd
          else
            match backend.storeBlock ssd b with
            | (.error _, _, _) => some id
            | (.ok _, b, ssd) => failedBlock cold (blocks.set id b.offload) ssd

theorem exists_of_get?_set {blocks : Dict Int CachedBlock} {id k : Int} {b d : CachedBlock}
    (hget : blocks.get? id = some b)
    (h : ∃ old, (blocks.set id d).get? k = some old) : ∃ old, blocks.get? k = some old := by
  by_cases hk : id = k
  · exact ⟨b, hk ▸ hget⟩
  · rwa [Dict.get?_set_of_ne _ _ hk] at h

theorem exists_of_get?_evictToSsd {cold : List Int} {blocks : Dict Int CachedBlock} {ssd : σ}
    {k : Int} (h : ∃ b, (evictToSsd backend cold blocks ssd).2.1.get? k = some b) :
    ∃ old, blocks.get? k = some old := by
  induction cold generalizing blocks ssd with
  | nil => exact h
  | cons id cold ih =>
      unfold evictToSsd at h
      cases hget : blocks.get? id with
      | none =>
          rw [hget] at h
          exact ih h
      | some b =>
          simp only [hget] at h
          split at h
          · exact ih h
          · split at h
            · exact exists_of_get?_set hget h
            · exact exists_of_get?_set hget (ih h)

end

def InMemory (blocks : Dict Int CachedBlock) (id : Int) : Prop :=
  ∃ b, blocks.get? id = some b ∧ b.storageTier ≠ .ssd

def pending (blocks : Dict Int CachedBlock) (cold : List Int) : Nat :=
  cold.countP fun id => (blocks.get? id).any fun b => b.storageTier ≠ .ssd

theorem pending_set {blocks : Dict Int CachedBlock} {id : Int} (b : CachedBlock) {cold : List Int}
    (h : id ∉ cold) : pending (blocks.set id b) cold = pending blocks cold := by
  apply List.countP_congr
  intro k hk
  rw [Dict.get?_set_of_ne]
  rintro rfl
  exact h hk

section

variable {σ : Type} (backend : SsdBackend σ) {blocks : Dict Int CachedBlock} {id : Int}

theorem loop_skips (h : ¬ InMemory blocks id) (cold : List Int) (ssd : σ) :
    evictToSsd backend (id :: cold) blocks ssd = evictToSsd backend cold blocks ssd ∧
      failedBlock backend (id :: cold) blocks ssd = failedBlock backend cold blocks ssd ∧
      pending blocks (id :: cold) = pending blocks cold := by
  have hssd : ∀ b, blocks.get? id = some b → b.storageTier = .ssd := by
    intro b hget
    by_contra hne
    exact h ⟨b, hget, hne⟩
  refine ⟨evictToSsd_skip backend hssd cold ssd, ?_⟩
  rw [failedBlock, pending, List.countP_cons]
  cases hget : blocks.get? id with
  | none => simp [pending]
  | some b => simp [pending, hssd b hget]

variable {backend}

theorem loop_stores {b b' : CachedBlock} {ssd ssd' : σ}
    (hget : blocks.get? id = some b) (hmem : b.storageTier ≠ .ssd)
    (hstore : backend.storeBlock ssd b = (.ok (), b', ssd')) (cold : List Int) :
    (evictToSsd backend (id :: cold) blocks ssd).2 =
        (evictToSsd backend cold (blocks.set id b'.offload) ssd').2 ∧
      failedBlock backend (id :: cold) blocks ssd =
        failedBlock backend cold (blocks.set id b'.offload) ssd' := by
  rw [evictToSsd_store hget hmem hstore, failedBlock]
  simp [hget, hmem, hstore]

theorem pending_cons {b : CachedBlock} (hget : blocks.get? id = some b)
    (hmem : b.storageTier ≠ .ssd) (cold : List Int) :
    pending blocks (id :: cold) = pending blocks cold + 1 := by
  simp [pending, hget, hmem]

end

section

variable {cfg : SimulatorConfig}

/-- Every block kept as on the SSD has a mapping and was stored, under its own id. -/
structure Backed (blocks : Dict Int CachedBlock) (s : StorageSimulator cfg) : Prop where
  owned : ∀ id b, blocks.get? id = some b → b.blockId = id
  located : ∀ id b, blocks.get? id = some b → b.storageTier = .ssd → (s.getLocation id).isSome
  kept : ∀ id b, blocks.get? id = some b → b.storageTier = .ssd →
    (s.allocator.loadBlock id).isSome

variable {blocks : Dict Int CachedBlock} {s s' : StorageSimulator cfg} {counter : Nat}

theorem Backed.offload (h : Backed blocks s) {id : Int} {b b' : CachedBlock}
    (hget : blocks.get? id = some b) (hid : b'.blockId = b.blockId)
    (hplaced : Placed s s' counter b.blockId) : Backed (blocks.set id b'.offload) s' := by
  have hown := h.owned id b hget
  constructor
  · intro k d hd
    rw [Dict.get?_set] at hd
    split at hd
    · rename_i hk
      cases hd
      exact hid.trans (hown.trans hk)
    · exact h.owned k d hd
  · intro k d hd hssd
    rw [Dict.get?_set] at hd
    split at hd
    · rename_i hk
      exact hplaced.located k (.inl (hown.trans hk))
    · exact hplaced.located k (.inr (h.located k d hd hssd))
  · intro k d hd hssd
    rw [Dict.get?_set] at hd
    split at hd
    · rename_i hk
      exact hplaced.kept k (.inl (hown.trans hk))
    · exact hplaced.kept k (.inr (h.kept k d hd hssd))

theorem evict_with_room (h : Backed blocks s) (hpage : AtPage s counter) {cold : List Int}
    (hcold : cold.Nodup) (hroom : RoomFor cfg counter (pending blocks cold)) :
    failedBlock (simulatorBackend cfg) cold blocks s = none ∧
      Backed (evictToSsd (simulatorBackend cfg) cold blocks s).2.1
        (evictToSsd (simulatorBackend cfg) cold blocks s).2.2 ∧
      ∃ counter', AtPage (evictToSsd (simulatorBackend cfg) cold blocks s).2.2 counter' := by
  induction cold generalizing blocks s counter with
  | nil => exact ⟨rfl, h, counter, hpage⟩
  | cons id cold ih =>
      rw [List.nodup_cons] at hcold
      by_cases hmem : InMemory blocks id
      · obtain ⟨b, hget, hmem⟩ := hmem
        rw [pending_cons hget hmem, roomFor_succ_iff] at hroom
        obtain ⟨loc, hok, hplaced⟩ := hpage.storeBlock_ok hroom.1 b.ftl
        obtain ⟨hevict, hfailed⟩ := loop_stores hget hmem (simulatorBackend_ok hok) cold
        have hbacked : Backed (blocks.set id (marked s b).offload) (s.storeBlock b.ftl).2 :=
          h.offload hget rfl hplaced
        have hrest : RoomFor cfg (counter + 1)
            (pending (blocks.set id (marked s b).offload) cold) := by
          rw [pending_set _ hcold.1]
          exact hroom.2
        rw [hevict, hfailed]
        exact ih hbacked hplaced.atPage hcold.2 hrest
      · obtain ⟨hevict, hfailed, hpending⟩ := loop_skips (simulatorBackend cfg) hmem cold s
        rw [hpending] at hroom
        rw [hevict, hfailed]
        exact ih h hpage hcold.2 hroom

/-- Without, some store fails, on a block that was in memory and is left marked as on the SSD. -/
theorem evict_without_room (hpage : AtPage s counter) {cold : List Int}
    (hcold : cold.Nodup) (hroom : ¬ RoomFor cfg counter (pending blocks cold)) :
    ∃ id ∈ failedBlock (simulatorBackend cfg) cold blocks s, id ∈ cold ∧ InMemory blocks id ∧
      ∀ b, (evictToSsd (simulatorBackend cfg) cold blocks s).2.1.get? id = some b →
        b.storageTier = .ssd := by
  induction cold generalizing blocks s counter with
  | nil => exact absurd (fun i hi => by cases hi) hroom
  | cons id cold ih =>
      rw [List.nodup_cons] at hcold
      by_cases hmem : InMemory blocks id
      · obtain ⟨b, hget, hmem⟩ := hmem
        rw [pending_cons hget hmem, roomFor_succ_iff] at hroom
        by_cases husable : PageUsable cfg counter
        · obtain ⟨loc, hok, hplaced⟩ := hpage.storeBlock_ok husable b.ftl
          obtain ⟨hevict, hfailed⟩ := loop_stores hget hmem (simulatorBackend_ok hok) cold
          have hrest : ¬ RoomFor cfg (counter + 1) (pending blocks cold) :=
            fun hrest => hroom ⟨husable, hrest⟩
          rw [← pending_set (marked s b).offload hcold.1] at hrest
          rw [hevict, hfailed]
          obtain ⟨failed, hfailed, hlisted, ⟨d, hd, htier⟩, hmarked⟩ :=
            ih hplaced.atPage hcold.2 hrest
          have hne : id ≠ failed := by
            rintro rfl
            exact hcold.1 hlisted
          rw [Dict.get?_set_of_ne _ _ hne] at hd
          exact ⟨failed, hfailed, List.mem_cons_of_mem id hlisted, ⟨d, hd, htier⟩, hmarked⟩
        · obtain ⟨err, herr⟩ := hpage.storeBlock_error husable b.ftl
          unfold failedBlock evictToSsd
          simp only [hget, if_neg hmem, simulatorBackend_error herr]
          refine ⟨id, rfl, List.mem_cons_self, ⟨b, hget, hmem⟩, ?_⟩
          intro d hd
          rw [Dict.get?_set_self] at hd
          cases hd
          rfl
      · obtain ⟨hevict, hfailed, hpending⟩ := loop_skips (simulatorBackend cfg) hmem cold s
        rw [hpending] at hroom
        rw [hevict, hfailed]
        obtain ⟨failed, hfailed, hlisted, hrest⟩ := ih hpage hcold.2 hroom
        exact ⟨failed, hfailed, List.mem_cons_of_mem id hlisted, hrest⟩

/-! ## Passes and runs -/

def PagedKVCache.toStore {σ : Type} (c : PagedKVCache σ) (contextLength : Int) : Nat :=
  c.blockManager.allBlocks.countP fun b =>
    !c.classifier.classifyBlock b.toKVBlock contextLength && decide (b.storageTier ≠ .ssd)

theorem pending_pass {σ : Type} (c : PagedKVCache σ) (contextLength : Int) :
    pending (c.classifier.partitionBlocks c.blockManager.blocks contextLength).2
      (c.classifier.partitionBlocks c.blockManager.blocks contextLength).1.2 =
        c.toStore contextLength := by
  unfold pending PagedKVCache.toStore BlockManager.allBlocks HotColdClassifier.partitionBlocks
  dsimp only
  rw [List.countP_map, List.countP_map, List.countP_filter]
  apply List.countP_congr
  intro e he
  have hget := (c.blockManager.blocks.mem_entries_iff e.1 e.2).mp he
  simp only [Function.comp_apply, Dict.get?_mapValues, hget, Option.map_some, Option.any_some,
    HotColdClassifier.rescore]
  rw [Bool.and_comm]

open PagedKVCache

variable (cfg) in
/-- A cache over a conventional simulator whose blocks on the SSD are all stored there. -/
structure Sound (c : PagedKVCache (StorageSimulator cfg)) : Prop where
  configured : Configured c.config c.blockManager
  numbered : c.blockManager.Numbered
  backed : Backed c.blockManager.blocks c.ssd
  atPage : ∃ counter, AtPage c.ssd counter

def linearCounter (s : StorageSimulator cfg) : Nat :=
  match s.allocator.ftl with
  | .conventional t => t.linearCounter
  | .tensorAware _ => 0

theorem AtPage.linearCounter (h : AtPage s counter) : linearCounter s = counter := by
  obtain ⟨t, hftl, rfl⟩ := h
  unfold CacheManager.linearCounter
  rw [hftl]

/-- A pass finds a usable page for each block it has to store. -/
def FindsRoom (c : PagedKVCache (StorageSimulator cfg)) : Op → Prop
  | .initializeContext _ _ => True
  | .runOffloadPass contextLength => RoomFor cfg (linearCounter c.ssd) (c.toStore contextLength)

def FailureKeeps (c : PagedKVCache (StorageSimulator cfg)) : Op → Prop
  | .initializeContext _ _ => True
  | .runOffloadPass contextLength =>
      let parts := c.classifier.partitionBlocks c.blockManager.blocks contextLength
      ∀ id ∈ failedBlock (simulatorBackend cfg) parts.1.2 parts.2 c.ssd,
        ∀ b, c.blockManager.getBlock id = some b →
          ∃ b', (c.runOffloadPass (some (simulatorBackend cfg)) contextLength).2.blockManager.getBlock
              id = some b' ∧ b'.storageTier = b.storageTier ∧ b'.kData = b.kData ∧ b'.vData = b.vData

/-- After the step every block on the SSD has a mapping and was stored, and a failed store
left its block alone. -/
structure Atomic (c : PagedKVCache (StorageSimulator cfg)) (op : Op) : Prop where
  stored : ∀ b ∈ (step (simulatorBackend cfg) c op).2.blockManager.allBlocks,
    b.storageTier = .ssd →
      ((step (simulatorBackend cfg) c op).2.ssd.getLocation b.blockId).isSome ∧
        ((step (simulatorBackend cfg) c op).2.ssd.allocator.loadBlock b.blockId).isSome
  failure : FailureKeeps c op

variable {c : PagedKVCache (StorageSimulator cfg)}

theorem Sound.stored (h : Sound cfg c) :
    ∀ b ∈ c.blockManager.allBlocks, b.storageTier = .ssd →
      (c.ssd.getLocation b.blockId).isSome ∧ (c.ssd.allocator.loadBlock b.blockId).isSome := by
  intro b hb hssd
  obtain ⟨id, hget⟩ := BlockManager.mem_allBlocks.mp hb
  rw [h.numbered.own id b hget]
  exact ⟨h.backed.located id b hget hssd, h.backed.kept id b hget hssd⟩

theorem Sound.initializeContext (h : Sound cfg c) (contextLength : Nat) (attachTensors : Bool) :
    Sound cfg (c.initializeContext contextLength attachTensors).2 := by
  have hext := extended_initializeContext h.configured h.numbered contextLength attachTensors
  have hold : ∀ id b, (c.initializeContext contextLength attachTensors).2.blockManager.getBlock id =
      some b → b.storageTier = .ssd → c.blockManager.blocks.get? id = some b := by
    intro id b hget hssd
    rcases hext.tiers b (BlockManager.mem_allBlocks.mpr ⟨id, hget⟩) with hmem | hgpu
    · obtain ⟨id', hget'⟩ := BlockManager.mem_allBlocks.mp hmem
      have hid : id' = id :=
        (h.numbered.own id' b hget').symm.trans (hext.numbered.own id b hget)
      rw [← hid]
      exact hget'
    · rw [hgpu] at hssd
      cases hssd
  refine ⟨hext.configured, hext.numbered, ⟨hext.numbered.own, ?_, ?_⟩, h.atPage⟩
  · intro id b hget hssd
    exact h.backed.located id b (hold id b hget hssd) hssd
  · intro id b hget hssd
    exact h.backed.kept id b (hold id b hget hssd) hssd

theorem Backed.rescored (h : Backed c.blockManager.blocks c.ssd) (contextLength : Int) :
    Backed (c.classifier.partitionBlocks c.blockManager.blocks contextLength).2 c.ssd := by
  constructor
  · intro id b hget
    rw [HotColdClassifier.get?_partitionBlocks] at hget
    obtain ⟨old, hold, rfl⟩ := Option.map_eq_some_iff.mp hget
    exact h.owned id old hold
  · intro id b hget hssd
    rw [HotColdClassifier.get?_partitionBlocks] at hget
    obtain ⟨old, hold, rfl⟩ := Option.map_eq_some_iff.mp hget
    exact h.located id old hold hssd
  · intro id b hget hssd
    rw [HotColdClassifier.get?_partitionBlocks] at hget
    obtain ⟨old, hold, rfl⟩ := Option.map_eq_some_iff.mp hget
    exact h.kept id old hold hssd

theorem Sound.pass (h : Sound cfg c) {contextLength : Int}
    (hroom : FindsRoom c (.runOffloadPass contextLength)) :
    Sound cfg (c.runOffloadPass (some (simulatorBackend cfg)) contextLength).2 ∧
      FailureKeeps c (.runOffloadPass contextLength) := by
  obtain ⟨counter, hpage⟩ := h.atPage
  change RoomFor cfg (linearCounter c.ssd) (c.toStore contextLength) at hroom
  rw [hpage.linearCounter, ← pending_pass] at hroom
  obtain ⟨hnone, hbacked, hnext⟩ := evict_with_room (h.backed.rescored contextLength) hpage
    (c.classifier.nodup_cold c.blockManager.blocks contextLength) hroom
  have hconfigured := h.configured
  refine ⟨⟨⟨hconfigured.blockTokens, hconfigured.headDim, hconfigured.dtype⟩, ⟨?_, hbacked.owned⟩,
    hbacked, hnext⟩, ?_⟩
  · intro id b hget
    have hold : ∃ old, (c.classifier.partitionBlocks c.blockManager.blocks contextLength).2.get? id =
        some old := exists_of_get?_evictToSsd _ ⟨b, hget⟩
    obtain ⟨old, hold⟩ := hold
    rw [HotColdClassifier.get?_partitionBlocks] at hold
    obtain ⟨first, hfirst, -⟩ := Option.map_eq_some_iff.mp hold
    exact h.numbered.below id first hfirst
  · intro id hid
    cases hnone.symm.trans hid

theorem Sound.findsRoom (h : Sound cfg c) {contextLength : Int}
    (hkeeps : FailureKeeps c (.runOffloadPass contextLength)) :
    FindsRoom c (.runOffloadPass contextLength) := by
  obtain ⟨counter, hpage⟩ := h.atPage
  show RoomFor cfg (linearCounter c.ssd) (c.toStore contextLength)
  rw [hpage.linearCounter, ← pending_pass]
  by_contra hroom
  obtain ⟨id, hfailed, -, ⟨b, hget, htier⟩, hmarked⟩ := evict_without_room hpage
    (c.classifier.nodup_cold c.blockManager.blocks contextLength) hroom
  rw [HotColdClassifier.get?_partitionBlocks] at hget
  obtain ⟨old, hold, rfl⟩ := Option.map_eq_some_iff.mp hget
  obtain ⟨b', hb', hsame, -⟩ := hkeeps id hfailed old hold
  exact htier (hsame.symm.trans (hmarked b' hb'))

theorem Sound.step_iff (h : Sound cfg c) (op : Op) : Atomic c op ↔ FindsRoom c op := by
  constructor
  · intro hatomic
    cases op with
    | initializeContext contextLength attachTensors => trivial
    | runOffloadPass contextLength => exact h.findsRoom hatomic.failure
  · intro hroom
    cases op with
    | initializeContext contextLength attachTensors =>
        exact ⟨(h.initializeContext contextLength attachTensors).stored, trivial⟩
    | runOffloadPass contextLength => exact ⟨(h.pass hroom).1.stored, (h.pass hroom).2⟩

theorem Sound.step (h : Sound cfg c) {op : Op} (hroom : FindsRoom c op) :
    Sound cfg (step (simulatorBackend cfg) c op).2 := by
  cases op with
  | initializeContext contextLength attachTensors =>
      exact h.initializeContext contextLength attachTensors
  | runOffloadPass contextLength => exact (h.pass hroom).1

/-- A new cache over a new simulator in conventional mode. -/
def fresh (cfg : SimulatorConfig) (config : CacheConfig) : PagedKVCache (StorageSimulator cfg) :=
  PagedKVCache.init config (StorageSimulator.init cfg .conventional)

theorem sound_fresh (config : CacheConfig) : Sound cfg (fresh cfg config) where
  configured := ⟨rfl, rfl, rfl⟩
  numbered := BlockManager.numbered_init _ _ _
  backed := ⟨fun _ _ h => (by cases h), fun _ _ h => (by cases h), fun _ _ h => (by cases h)⟩
  atPage := ⟨0, ConventionalFtl.init, rfl, rfl⟩

variable (cfg) in
/-- Every step of a run is atomic exactly when every pass finds room. -/
theorem atomic_iff_findsRoom (config : CacheConfig) (ops : List Op) :
    (∀ pre op, pre ++ [op] <+: ops →
      Atomic ((machine (simulatorBackend cfg)).exec (fresh cfg config) pre) op) ↔
      (machine (simulatorBackend cfg)).Meets FindsRoom (fresh cfg config) ops := by
  rw [← (machine (simulatorBackend cfg)).meets_iff_forall]
  constructor
  · exact Machine.Meets.gives (machine (simulatorBackend cfg)) (I := Sound cfg)
      (fun _ op h hatomic => h.step ((h.step_iff op).mp hatomic))
      (fun _ op h => (h.step_iff op).mp) _ ops (sound_fresh config)
  · exact Machine.Meets.gives (machine (simulatorBackend cfg)) (I := Sound cfg)
      (fun _ op h => h.step) (fun _ op h => (h.step_iff op).mpr) _ ops (sound_fresh config)

end

def oneChannel : SimulatorConfig where
  channels := 1
  diesPerChannel := 4
  planesPerDie := 2
  blocksPerPlane := 64
  channels_pos := Nat.one_pos
  dies_pos := FtlGeometry.default_dies
  planes_pos := FtlGeometry.default_planes
  blocks_pos := FtlGeometry.default_blocks

/-- One head, blocks of one token, and nothing that has to stay in memory. -/
def oneTokenBlocks : CacheConfig := ⟨1, 1, 1, 1, "FP16", 0, 0, Nat.one_pos⟩

/-- Of 65537 blocks the last one finds no page, and is left marked as on the SSD. -/
theorem one_block_too_many :
    ¬ ∀ pre op, pre ++ [op] <+:
        [PagedKVCache.Op.initializeContext 65537 false, .runOffloadPass 65537] →
      Atomic ((PagedKVCache.machine (simulatorBackend oneChannel)).exec
        (fresh oneChannel oneTokenBlocks) pre) op := by
  intro h
  have hsound := (@sound_fresh oneChannel oneTokenBlocks).initializeContext 65537 false
  have hatomic := h [.initializeContext 65537 false] (.runOffloadPass 65537) List.prefix_rfl
  have hroom := hsound.findsRoom hatomic.failure
  have hcontext := PagedKVCache.ofContext_init oneTokenBlocks
    (StorageSimulator.init oneChannel .conventional) 65537 false
  have hall : ((fresh oneChannel oneTokenBlocks).initializeContext 65537 false).2.toStore 65537 =
      65537 := by
    refine (List.countP_eq_length.mpr ?_).trans (hcontext.length.trans rfl)
    intro b hb
    have hwithin := hcontext.within hb
    have htier : b.storageTier = .gpu := PagedKVCache.tier_init hb
    have hcold : (PagedKVCache.classifier ((fresh oneChannel oneTokenBlocks).initializeContext
        65537 false).2).classifyBlock b.toKVBlock 65537 = false := by
      have hsink : ¬ b.tokenStart < 0 := by omega
      have hrecent : ¬ b.tokenStart + b.tokenCount > max 0 (65537 - 0) := by omega
      exact (if_neg hsink).trans (decide_eq_false hrecent)
    rw [hcold, htier]
    rfl
  change RoomFor oneChannel 0 (((fresh oneChannel oneTokenBlocks).initializeContext 65537
    false).2.toStore 65537) at hroom
  rw [hall] at hroom
  exact absurd (show 0 + 65536 < oneChannel.ftlGeometry.totalPages from hroom 65536 (by decide))
    (by decide)

end AiSsd.CacheManager
