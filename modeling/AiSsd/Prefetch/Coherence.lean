import AiSsd.Adapters.ActiveState
import AiSsd.Prefetch.AdapterReads

/-!
# When the prefetch adapter is coherent

A write changes the store and leaves a staged copy of the block as it was. Over a store
that returns the last write, every read returns it in every state of a run exactly as
long as no write meets a staged block and staged blocks have the default shape.
-/

namespace AiSsd.Prefetch.RealInferencePrefetchAdapter

open Lib Numpy Storage
open Adapters (Astype)

universe u v

variable {σ : Type v} {α : Type u} {B : BlockBackend σ α} {A : Astype} {cfg : AdapterConfig}

/-! ## Coherence -/

def Answers {τ : Type v} {ρ : Type} (written : Nat × Nat → Option (NDArray × NDArray))
    (page : NDArray × NDArray → ρ) (read : BlockRead τ ρ) (s : τ) : Prop :=
  ∀ l b h t kv, written (l, b) = some kv → (read s l b h t).1 = .ok (page kv)

/-- A batch of written blocks is read, and every written block of a batch that is read
has the page last written there. -/
structure AnswersBatch {τ : Type v} {ρ : Type}
    (written : Nat × Nat → Option (NDArray × NDArray)) (page : NDArray × NDArray → ρ)
    (read : BatchRead τ ρ) (s : τ) : Prop where
  succeeds : ∀ l bids h t, (∀ b ∈ bids, (written (l, b)).isSome) →
    ∃ pages, (read s l bids h t).1 = .ok pages
  returns : ∀ l bids h t pages, (read s l bids h t).1 = .ok pages →
    ∀ b ∈ bids, ∀ kv, written (l, b) = some kv → pages.get? b = some (page kv)

variable (B cfg) in
/-- All six reads return what was last written. -/
structure Coherent (written : Nat × Nat → Option (NDArray × NDArray))
    (s : RealInferencePrefetchAdapter σ) : Prop where
  key : Answers written Prod.fst (readKeyPage B cfg) s
  value : Answers written Prod.snd (readValuePage B cfg) s
  block : Answers written id (readBlock B cfg) s
  keyBatch : AnswersBatch written Prod.fst (readKeyPageBatch B cfg) s
  valueBatch : AnswersBatch written Prod.snd (readValuePageBatch B cfg) s
  blockBatch : AnswersBatch written id (readBlockBatch B cfg) s

variable (cfg) in
def StagedInShape (written : Nat × Nat → Option (NDArray × NDArray))
    (s : RealInferencePrefetchAdapter σ) : Prop :=
  ∀ key kv, written key = some kv → (s.stagedData key).isSome →
    kv.1.shape = cfg.defaultShape ∧ kv.2.shape = cfg.defaultShape

structure Tracks (V : B.ReturnsLastWrite) (written : Nat × Nat → Option (NDArray × NDArray))
    (s : RealInferencePrefetchAdapter σ) : Prop where
  valid : V.Valid s.storageBackend
  stored : ∀ key kv, written key = some kv → V.content s.storageBackend key = some kv
  staged : ∀ key kv data, written key = some kv → s.stagedData key = some data → data = kv
  /-- No write records a `shape`. -/
  noShape : ∀ key m, s.blockMeta.get? key = some m → m.shape = none

theorem reshaped_of_eq {shape : List Nat} {a : NDArray} (h : a.shape = shape) :
    reshaped shape a = .ok a :=
  if_neg fun hne => hne h

theorem shape_of_reshaped {shape : List Nat} {a b : NDArray} (h : reshaped shape a = .ok b) :
    b.shape = shape := by
  unfold reshaped at h
  split at h
  · unfold NDArray.reshape at h
    split at h
    · cases h
      rfl
    · cases h
  · rename_i heq
    cases h
    exact not_not.mp heq

theorem shapes_of_reshapedBlock {shape : List Nat} {kv kv' : NDArray × NDArray}
    (h : reshapedBlock shape kv = .ok kv') : kv'.1.shape = shape ∧ kv'.2.shape = shape := by
  unfold reshapedBlock at h
  split at h
  · cases h
  · rename_i k hk
    split at h
    · cases h
    · rename_i v hv
      cases h
      exact ⟨shape_of_reshaped hk, shape_of_reshaped hv⟩

theorem reshapedBlock_of_eq {shape : List Nat} {kv : NDArray × NDArray}
    (hk : kv.1.shape = shape) (hv : kv.2.shape = shape) : reshapedBlock shape kv = .ok kv := by
  simp only [reshapedBlock, reshaped_of_eq hk, reshaped_of_eq hv]

section Tracking

variable {V : B.ReturnsLastWrite} {written : Nat × Nat → Option (NDArray × NDArray)}
  {s s' : RealInferencePrefetchAdapter σ}

theorem Tracks.metaShape_eq (h : Tracks V written s) (key : Nat × Nat) :
    metaShape cfg s key = cfg.defaultShape := by
  unfold metaShape
  cases hm : s.blockMeta.get? key with
  | none => rfl
  | some m =>
      rw [Option.bind_some, h.noShape key m hm]
      rfl

/-- A staged block reads as staged. -/
theorem readSingle_staged {ρ : Type} (sizeBytes : Nat)
    (staged : List Nat → NDArray × NDArray → Except PyErr ρ) (fetch : BlockRead σ ρ)
    {l b : Nat} {data : NDArray × NDArray} (hdata : s.stagedData (l, b) = some data) (h t : Nat) :
    (readSingle cfg sizeBytes staged fetch s l b h t).1 = staged (metaShape cfg s (l, b)) data := by
  obtain ⟨entry, hentry, rfl⟩ := Option.map_eq_some_iff.mp hdata
  simp only [readSingle, hentry]

/-- In step with the store, the adapter is coherent exactly when what is staged has the
default shape, which is the shape `read_block` and the batch reads give it. -/
theorem coherent_iff_stagedInShape (h : Tracks V written s) :
    Coherent B cfg written s ↔ StagedInShape cfg written s := by
  constructor
  · intro hcoh key kv hkv hstaged
    obtain ⟨data, hdata⟩ := Option.isSome_iff_exists.mp hstaged
    have hread := hcoh.block key.1 key.2 0 0 kv hkv
    rw [readBlock, readSingle_staged _ _ _ hdata, h.metaShape_eq] at hread
    exact shapes_of_reshapedBlock hread
  · intro hshape
    have hpages : ∀ key kv data, written key = some kv → s.stagedData key = some data →
        data = kv ∧ kv.1.shape = metaShape cfg s key ∧ kv.2.shape = metaShape cfg s key := by
      intro key kv data hkv hdata
      rw [h.metaShape_eq]
      refine ⟨h.staged key kv data hkv hdata, hshape key kv hkv ?_⟩
      rw [hdata]
      rfl
    have hkeyOne : ∀ key kv data, written key = some kv → s.stagedData key = some data →
        (Except.ok data.1 : Except PyErr NDArray) = .ok kv.1 := by
      intro key kv data hkv hdata
      rw [(hpages key kv data hkv hdata).1]
    have hvalueOne : ∀ key kv data, written key = some kv → s.stagedData key = some data →
        (Except.ok data.2 : Except PyErr NDArray) = .ok kv.2 := by
      intro key kv data hkv hdata
      rw [(hpages key kv data hkv hdata).1]
    have hblockOne : ∀ key kv data, written key = some kv → s.stagedData key = some data →
        reshapedBlock (metaShape cfg s key) data = .ok (id kv) := by
      intro key kv data hkv hdata
      obtain ⟨rfl, hk, hv⟩ := hpages key kv data hkv hdata
      exact reshapedBlock_of_eq hk hv
    have hkeyMany : ∀ key kv data, written key = some kv → s.stagedData key = some data →
        reshaped (metaShape cfg s key) data.1 = .ok kv.1 := by
      intro key kv data hkv hdata
      obtain ⟨rfl, hk, _⟩ := hpages key kv data hkv hdata
      exact reshaped_of_eq hk
    have hvalueMany : ∀ key kv data, written key = some kv → s.stagedData key = some data →
        reshaped (metaShape cfg s key) data.2 = .ok kv.2 := by
      intro key kv data hkv hdata
      obtain ⟨rfl, _, hv⟩ := hpages key kv data hkv hdata
      exact reshaped_of_eq hv
    have hself : SameData V s s := SameData.refl h.valid
    have hkey : (fixedView V written s).Reads Prod.fst (readKeyPage B cfg) :=
      readSingle_reads cfg written keyPageBytes h.stored hkeyOne V.key
    have hvalue : (fixedView V written s).Reads Prod.snd (readValuePage B cfg) :=
      readSingle_reads cfg written valuePageBytes h.stored hvalueOne V.value
    have hblock : (fixedView V written s).Reads id (readBlock B cfg) :=
      readSingle_reads cfg written cfg.bytesPerBlock h.stored hblockOne V.block
    have hkeys := readBatch_spec cfg written (fun shape kv => reshaped shape kv.1) keyPageBytes
      h.stored hkeyMany V.keyBatch hkey hself
    have hvalues := readBatch_spec cfg written (fun shape kv => reshaped shape kv.2)
      valuePageBytes h.stored hvalueMany V.valueBatch hvalue hself
    have hblocks := readBatch_spec cfg written reshapedBlock cfg.bytesPerBlock h.stored hblockOne
      V.blockBatch hblock hself
    exact
      { key := fun l b hd ts kv => hkey.returns s l b hd ts kv hself
        value := fun l b hd ts kv => hvalue.returns s l b hd ts kv hself
        block := fun l b hd ts kv => hblock.returns s l b hd ts kv hself
        keyBatch :=
          { succeeds := fun l bids hd ts => (hkeys l bids hd ts).2.1
            returns := fun l bids hd ts pages hok b => ((hkeys l bids hd ts).2.2 pages hok b).1 }
        valueBatch :=
          { succeeds := fun l bids hd ts => (hvalues l bids hd ts).2.1
            returns := fun l bids hd ts pages hok b => ((hvalues l bids hd ts).2.2 pages hok b).1 }
        blockBatch :=
          { succeeds := fun l bids hd ts => (hblocks l bids hd ts).2.1
            returns := fun l bids hd ts pages hok b =>
              ((hblocks l bids hd ts).2.2 pages hok b).1 } }

/-! ## What each operation does to the tracking -/

/-- What an updated table holds is new, or was there under another key. -/
theorem of_update_eq_some {f : Nat × Nat → Option (NDArray × NDArray)} {key k : Nat × Nat}
    {new : Option (NDArray × NDArray)} {kv : NDArray × NDArray}
    (h : Function.update f key new k = some kv) :
    (k = key ∧ new = some kv) ∨ (k ≠ key ∧ f k = some kv) := by
  by_cases hk : k = key
  · subst hk
    rw [Function.update_self] at h
    exact Or.inl ⟨rfl, h⟩
  · rw [Function.update_of_ne hk] at h
    exact Or.inr ⟨hk, h⟩

theorem Tracks.shrink (h : Tracks V written s) (hb : s'.storageBackend = s.storageBackend)
    (hm : s'.blockMeta = s.blockMeta)
    (hstaged : ∀ key data, s'.stagedData key = some data → s.stagedData key = some data) :
    Tracks V written s' where
  valid := hb ▸ h.valid
  stored := hb ▸ h.stored
  staged := fun key kv data hkv hdata => h.staged key kv data hkv (hstaged key data hdata)
  noShape := hm ▸ h.noShape

theorem Tracks.same (h : Tracks V written s) (hs : SameData V s s') : Tracks V written s' where
  valid := hs.backend.valid
  stored := by
    intro key kv hkv
    rw [hs.backend.content_eq]
    exact h.stored key kv hkv
  staged := by
    intro key kv data hkv hdata
    rw [hs.staged] at hdata
    exact h.staged key kv data hkv hdata
  noShape := hs.meta_eq ▸ h.noShape

theorem Tracks.stage (h : Tracks V written s) (l bid head : Nat) {data : NDArray × NDArray}
    (hdata : ∀ kv, written (l, bid) = some kv → data = kv) :
    Tracks V written (stage cfg s l bid head data) where
  valid := h.valid
  stored := h.stored
  staged := by
    intro key kv data' hkv hdata'
    rw [stagedData_stage] at hdata'
    rcases of_update_eq_some hdata' with ⟨rfl, hnew⟩ | ⟨_, hold⟩
    · cases hnew
      exact hdata kv hkv
    · exact h.staged key kv data' hkv hold
  noShape := h.noShape

theorem keeps_fetchBlock {fetched : Dict Nat (NDArray × NDArray)} {b : σ} (hb : V.Valid b)
    (l bid head ts : Nat) : V.Keeps b (fetchBlock B fetched b l bid head ts).2 := by
  unfold fetchBlock
  split
  · exact StoreView.Keeps.refl hb
  · exact V.block.keeps b l bid head ts hb

/-- A block that was fetched already is as fetched, another one as stored. -/
theorem fetchBlock_returns {fetched : Dict Nat (NDArray × NDArray)} {b : σ} (hb : V.Valid b)
    {l bid head ts : Nat} {kv data : NDArray × NDArray} (hstored : V.content b (l, bid) = some kv)
    (hfetched : ∀ data, fetched.get? bid = some data → data = kv)
    (hdata : (fetchBlock B fetched b l bid head ts).1 = .ok data) : data = kv := by
  unfold fetchBlock at hdata
  split at hdata
  · rename_i kv' hget
    cases hdata
    exact hfetched _ hget
  · rw [V.block.returns b l bid head ts kv hb hstored] at hdata
    cases hdata
    rfl

theorem keeps_fetchBlocks {b : σ} (hb : V.Valid b) (l : Nat) (bids : List Nat) (head ts : Nat) :
    V.Keeps b (fetchBlocks B b l bids head ts).2 := by
  unfold fetchBlocks
  split
  · rename_i read hread
    exact (V.blockBatch read hread).keeps b l bids head ts hb
  · exact StoreView.Keeps.refl hb

theorem fetchBlocks_returns {b : σ} (hb : V.Valid b) {l : Nat} {bids : List Nat} {head ts : Nat}
    {fetched : Dict Nat (NDArray × NDArray)}
    (hok : (fetchBlocks B b l bids head ts).1 = .ok fetched) {bid : Nat} (hbid : bid ∈ bids)
    {kv data : NDArray × NDArray} (hstored : V.content b (l, bid) = some kv)
    (hget : fetched.get? bid = some data) : data = kv := by
  unfold fetchBlocks at hok
  split at hok
  · rename_i read hread
    rw [(V.blockBatch read hread).returns b l bids head ts fetched hb hok bid hbid kv hstored] at hget
    cases hget
    rfl
  · cases hok
    cases hget

variable (cfg) in
theorem Tracks.stageEach {fetched : Dict Nat (NDArray × NDArray)} {l : Nat} (head ts : Nat)
    (bids dispatched : List Nat) (h : Tracks V written s)
    (hfetched : ∀ b ∈ bids, ∀ kv data, written (l, b) = some kv → fetched.get? b = some data →
      data = kv) :
    Tracks V written (stageEach B cfg fetched l head ts bids dispatched s).2 := by
  induction bids generalizing dispatched s with
  | nil => exact h
  | cons bid bids ih =>
      have hkeep := @keeps_fetchBlock _ _ B V fetched _ h.valid l bid head ts
      have hreturns : ∀ data, (fetchBlock B fetched s.storageBackend l bid head ts).1 = .ok data →
          ∀ kv, written (l, bid) = some kv → data = kv := by
        intro data hdata kv hkv
        exact fetchBlock_returns h.valid (h.stored (l, bid) kv hkv)
          (fun data => hfetched bid List.mem_cons_self kv data hkv) hdata
      unfold RealInferencePrefetchAdapter.stageEach
      revert hkeep hreturns
      rcases fetchBlock B fetched s.storageBackend l bid head ts with ⟨_ | data, b'⟩
      · intro hkeep _
        exact h.same ((SameData.refl h.valid).fetched hkeep)
      · intro hkeep hdata
        have hnext := h.same ((SameData.refl h.valid).fetched hkeep)
        exact ih _ (hnext.stage l bid head (hdata data rfl))
          fun b hb => hfetched b (List.mem_cons_of_mem bid hb)

variable (cfg) in
theorem Tracks.prefetch (h : Tracks V written s) (bids : List Nat) (l head ts : Nat) :
    Tracks V written (prefetch B cfg s bids l head ts).2 := by
  unfold RealInferencePrefetchAdapter.prefetch
  dsimp only
  generalize bids.filter (fun bid => !s.stagingBuffer.contains (l, bid)) = missBids
  split
  · exact h
  obtain ⟨hb, hm, hsub⟩ := ensureCapacityFor_spec cfg missBids s
  have hroom := h.shrink hb hm hsub
  revert hroom
  rcases ensureCapacityFor cfg missBids s with ⟨_ | _, s₁⟩
  · exact id
  intro hroom
  have hkeep := @keeps_fetchBlocks _ _ B V _ hroom.valid l missBids head ts
  have hreturns : ∀ fetched, (fetchBlocks B s₁.storageBackend l missBids head ts).1 = .ok fetched →
      ∀ b ∈ missBids, ∀ kv data, written (l, b) = some kv → fetched.get? b = some data →
        data = kv := by
    intro fetched hok b hb kv data hkv
    exact fetchBlocks_returns hroom.valid hok hb (hroom.stored (l, b) kv hkv)
  dsimp only
  revert hkeep hreturns
  rcases fetchBlocks B s₁.storageBackend l missBids head ts with ⟨_ | fetched, b'⟩
  · intro hkeep _
    exact hroom.same ((SameData.refl hroom.valid).fetched hkeep)
  intro hkeep hfetched
  have hnext := hroom.same ((SameData.refl hroom.valid).fetched hkeep)
  have hall := hnext.stageEach cfg head ts missBids [] (hfetched fetched rfl)
  dsimp only
  revert hall
  rcases RealInferencePrefetchAdapter.stageEach B cfg fetched l head ts missBids []
    { s₁ with storageBackend := b' } with ⟨_ | dispatched, s₂⟩
  · exact id
  · intro hall
    exact hall.same ((SameData.refl hall.valid).counted _)

variable (cfg) in
theorem Tracks.predictAndPrefetch (h : Tracks V written s) (l : Nat) (bids : List Nat)
    (stride : Nat) : Tracks V written (predictAndPrefetch B cfg s l bids stride).2 := by
  have hpredictor : ∀ p, Tracks V written { s with predictor := p } :=
    fun p => ⟨h.valid, h.stored, h.staged, h.noShape⟩
  unfold RealInferencePrefetchAdapter.predictAndPrefetch
  rcases s.predictor.predictNextLayerBlocks l bids stride with ⟨_ | ⟨next, predicted⟩, p⟩
  · exact hpredictor p
  · have hall := (hpredictor p).prefetch cfg predicted next 0 0
    dsimp only
    revert hall
    rcases RealInferencePrefetchAdapter.prefetch B cfg { s with predictor := p } predicted next 0 0
      with ⟨_ | dispatched, s₁⟩
    · exact id
    · exact id

theorem shape_of_asStored {payload : Payload} {arr : NDArray}
    (h : asStored A cfg payload = .ok arr) : arr.shape ≠ [] := by
  cases payload with
  | array a =>
      cases h
      dsimp only
      rw [NDArray.shape_ascontiguousarray]
      split
      · exact List.cons_ne_nil _ _
      · assumption
  | raw bytes =>
      rw [asStored, NDArray.frombuffer] at h
      split at h
      · cases h
        exact List.cons_ne_nil _ _
      · cases h

/-- A write reaches the store and leaves the buffer alone. -/
theorem writeBlock_ok (h : Tracks V written s) {k v : Payload} {kArr vArr : NDArray}
    (hk : asStored A cfg k = .ok kArr) (hv : asStored A cfg v = .ok vArr) (l b head ts : Nat) :
    (writeBlock B A cfg s l b k v head ts).1 = .ok () ∧
      (writeBlock B A cfg s l b k v head ts).2.stagedData = s.stagedData ∧
      Tracks V (Function.update written (l, b) none) (writeBlock B A cfg s l b k v head ts).2 ∧
      V.content (writeBlock B A cfg s l b k v head ts).2.storageBackend (l, b) =
        some (kArr, vArr) := by
  have hks := shape_of_asStored hk
  have hvs := shape_of_asStored hv
  have hok := V.write_ok s.storageBackend l b kArr vArr head ts h.valid hks hvs
  have hvalid := V.write_valid s.storageBackend l b kArr vArr head ts h.valid hks hvs
  have hcontent := V.write_content s.storageBackend l b kArr vArr head ts h.valid hks hvs
  unfold writeBlock
  simp only [hk, hv]
  revert hok hvalid hcontent
  rcases B.writeBlock s.storageBackend l b kArr vArr head ts with ⟨_ | _, b'⟩
  · rintro ⟨⟩
  intro _ hvalid hcontent
  refine ⟨rfl, rfl, ⟨hvalid, ?_, ?_, ?_⟩, ?_⟩
  · intro key kv hkv
    dsimp only
    rcases of_update_eq_some hkv with ⟨_, hnone⟩ | ⟨hkey, hold⟩
    · cases hnone
    · rw [hcontent, Function.update_of_ne hkey]
      exact h.stored key kv hold
  · intro key kv data hkv hdata
    rcases of_update_eq_some hkv with ⟨_, hnone⟩ | ⟨_, hold⟩
    · cases hnone
    · exact h.staged key kv data hold hdata
  · intro key m hm
    dsimp only at hm
    rw [Dict.get?_set] at hm
    split at hm
    · cases hm
      rfl
    · exact h.noShape key m hm
  · dsimp only
    rw [hcontent, Function.update_self]

/-- After an eviction the block is neither staged nor, if the store evicts, stored. -/
theorem Tracks.evictBlock (h : Tracks V written s) (l b : Nat) :
    Tracks V (if B.evictBlock.isSome then Function.update written (l, b) none else written)
      (evictBlock B s l b).2 := by
  have herased : Tracks V written { s with stagingBuffer := s.stagingBuffer.erase (l, b) } := by
    refine h.shrink rfl rfl ?_
    intro key data hdata
    unfold stagedData at hdata ⊢
    rw [Dict.get?_erase] at hdata
    split at hdata
    · cases hdata
    · exact hdata
  unfold RealInferencePrefetchAdapter.evictBlock
  cases hevict : B.evictBlock with
  | none => exact herased
  | some evict =>
      refine ⟨V.evict_valid evict hevict s.storageBackend l b h.valid, ?_, ?_, h.noShape⟩
      · intro key kv hkv
        dsimp only
        rw [V.evict_content evict hevict s.storageBackend l b h.valid]
        simp only [Option.isSome_some, if_true] at hkv
        rcases of_update_eq_some hkv with ⟨_, hnone⟩ | ⟨hkey, hold⟩
        · cases hnone
        · rw [Function.update_of_ne hkey]
          exact h.stored key kv hold
      · intro key kv data hkv hdata
        simp only [Option.isSome_some, if_true] at hkv
        rcases of_update_eq_some hkv with ⟨_, hnone⟩ | ⟨_, hold⟩
        · cases hnone
        · exact herased.staged key kv data hold hdata

end Tracking

/-! ## Runs -/

section Runs

variable (B A cfg) in
/-- What an operation makes of the last writes: `write_block` stores its payload converted
to the dtype of the adapter, and a store that evicts forgets the block. -/
def record (written : Nat × Nat → Option (NDArray × NDArray)) :
    Op → Nat × Nat → Option (NDArray × NDArray)
  | .writeBlock l b k v _ _ =>
      match asStored A cfg k, asStored A cfg v with
      | .ok kArr, .ok vArr => Function.update written (l, b) (some (kArr, vArr))
      | _, _ => written
  | .evictBlock l b =>
      if B.evictBlock.isSome then Function.update written (l, b) none else written
  | _ => written

variable (B A cfg) in
def lastWritten (ops : List Op) : Nat × Nat → Option (NDArray × NDArray) :=
  ops.foldl (record B A cfg) fun _ => none

variable (A cfg) in
/-- A write meets no staged block, unless it writes what is staged there. -/
def WritesUnstaged (s : RealInferencePrefetchAdapter σ) : Op → Prop
  | .writeBlock l b k v _ _ => ∀ data kArr vArr, s.stagedData (l, b) = some data →
      asStored A cfg k = .ok kArr → asStored A cfg v = .ok vArr → data = (kArr, vArr)
  | _ => True

variable {V : B.ReturnsLastWrite} {written : Nat × Nat → Option (NDArray × NDArray)}
  {s : RealInferencePrefetchAdapter σ}

theorem tracks_step (h : Tracks V written s) (op : Op) (hop : WritesUnstaged A cfg s op) :
    Tracks V (record B A cfg written op) (step B A cfg s op).2 := by
  have hself : SameData V s s := SameData.refl h.valid
  cases op with
  | writeBlock l b k v head ts =>
      cases hk : asStored A cfg k with
      | error err => simpa only [record, step, writeBlock, hk] using h
      | ok kArr =>
          cases hv : asStored A cfg v with
          | error err => simpa only [record, step, writeBlock, hk, hv] using h
          | ok vArr =>
              obtain ⟨_, hstaged, hothers, hnew⟩ := writeBlock_ok h hk hv l b head ts
              simp only [record, step, hk, hv]
              refine ⟨hothers.valid, ?_, ?_, hothers.noShape⟩
              · intro key kv hkv
                rcases of_update_eq_some hkv with ⟨rfl, hsome⟩ | ⟨hkey, hold⟩
                · rw [hnew, hsome]
                · apply hothers.stored key kv
                  rw [Function.update_of_ne hkey, hold]
              · intro key kv data hkv hdata
                rcases of_update_eq_some hkv with ⟨rfl, hsome⟩ | ⟨hkey, hold⟩
                · cases hsome
                  rw [hstaged] at hdata
                  exact hop data kArr vArr hdata hk hv
                · apply hothers.staged key kv data _ hdata
                  rw [Function.update_of_ne hkey, hold]
  | prefetch bids l head ts => exact h.prefetch cfg bids l head ts
  | predictAndPrefetch l bids stride => exact h.predictAndPrefetch cfg l bids stride
  | readKeyPage l b head ts => exact h.same (hself.readSingle cfg V.key _ _ l b head ts)
  | readValuePage l b head ts => exact h.same (hself.readSingle cfg V.value _ _ l b head ts)
  | readBlock l b head ts => exact h.same (hself.readSingle cfg V.block _ _ l b head ts)
  | readKeyPageBatch l bids head ts =>
      exact h.same (sameData_readBatch V.key V.keyBatch _ _ _ h.valid l bids head ts)
  | readValuePageBatch l bids head ts =>
      exact h.same (sameData_readBatch V.value V.valueBatch _ _ _ h.valid l bids head ts)
  | readBlockBatch l bids head ts =>
      exact h.same (sameData_readBatch V.block V.blockBatch _ _ _ h.valid l bids head ts)
  | evictBlock l b => exact h.evictBlock l b

/-- A write that meets other data staged leaves a page read of its block stale. -/
theorem writesUnstaged_of_coherent (h : Tracks V written s) (op : Op)
    (hcoh : Coherent B cfg (record B A cfg written op) (step B A cfg s op).2) :
    WritesUnstaged A cfg s op := by
  cases op with
  | writeBlock l b k v head ts =>
      intro data kArr vArr hdata hk hv
      obtain ⟨_, hstaged, _, _⟩ := writeBlock_ok h hk hv l b head ts
      have hwritten : record B A cfg written (.writeBlock l b k v head ts) (l, b) =
          some (kArr, vArr) := by
        simp only [record, hk, hv, Function.update_self]
      have hstill : (step B A cfg s (.writeBlock l b k v head ts)).2.stagedData (l, b) =
          some data := by
        rw [← hdata]
        exact congrFun hstaged (l, b)
      have hkey := hcoh.key l b 0 0 _ hwritten
      have hvalue := hcoh.value l b 0 0 _ hwritten
      rw [readKeyPage, readSingle_staged _ _ _ hstill] at hkey
      rw [readValuePage, readSingle_staged _ _ _ hstill] at hvalue
      cases hkey
      cases hvalue
      rfl
  | _ => trivial

theorem coherent_iff_from (h : Tracks V written s) (ops : List Op) :
    (∀ pre, pre <+: ops → Coherent B cfg (pre.foldl (record B A cfg) written)
        ((machine B A cfg).exec s pre)) ↔
      (machine B A cfg).Meets (WritesUnstaged A cfg) s ops ∧
        ∀ pre, pre <+: ops → StagedInShape cfg (pre.foldl (record B A cfg) written)
          ((machine B A cfg).exec s pre) := by
  induction ops generalizing written s with
  | nil =>
      simp only [List.prefix_nil, forall_eq, List.foldl_nil, Machine.exec_nil, Machine.Meets,
        true_and]
      exact coherent_iff_stagedInShape h
  | cons op ops ih =>
      rw [Machine.forall_prefix_cons, Machine.forall_prefix_cons]
      simp only [List.foldl_nil, List.foldl_cons, Machine.exec_nil, Machine.exec_cons,
        Machine.Meets, coherent_iff_stagedInShape h]
      constructor
      · rintro ⟨hshape, hrest⟩
        have hop : WritesUnstaged A cfg s op :=
          writesUnstaged_of_coherent h op (hrest [] List.nil_prefix)
        obtain ⟨hmeets, hshapes⟩ := (ih (tracks_step h op hop)).mp hrest
        exact ⟨⟨hop, hmeets⟩, hshape, hshapes⟩
      · rintro ⟨⟨hop, hmeets⟩, hshape, hshapes⟩
        exact ⟨hshape, (ih (tracks_step h op hop)).mpr ⟨hmeets, hshapes⟩⟩

variable (cfg) in
theorem tracks_init {b : σ} (hb : V.Valid b) : Tracks V (fun _ => none) (init cfg b) where
  valid := hb
  stored := fun _ _ hkv => by cases hkv
  staged := fun _ _ _ hkv => by cases hkv
  noShape := fun _ _ hm => by cases hm

variable (A cfg) in
/-- In every state of a run every read returns the last write, staged or not, exactly when
no write of the run meets a staged block it does not repeat and what is staged of the
written blocks has the default shape. -/
theorem coherent_iff (V : B.ReturnsLastWrite) {b : σ} (hb : V.Valid b) (ops : List Op) :
    (∀ pre, pre <+: ops → Coherent B cfg (lastWritten B A cfg pre)
        ((machine B A cfg).exec (init cfg b) pre)) ↔
      (machine B A cfg).Meets (WritesUnstaged A cfg) (init cfg b) ops ∧
        ∀ pre, pre <+: ops → StagedInShape cfg (lastWritten B A cfg pre)
          ((machine B A cfg).exec (init cfg b) pre) :=
  coherent_iff_from (tracks_init cfg hb) ops

/-- Default shapes are all that is ever staged when they are all that is written. -/
theorem stagedInShape_of_writes (ops : List Op) (hshape : ∀ l b k v head ts kArr vArr,
      .writeBlock l b k v head ts ∈ ops → asStored A cfg k = .ok kArr → asStored A cfg v = .ok vArr →
        kArr.shape = cfg.defaultShape ∧ vArr.shape = cfg.defaultShape)
    (s : RealInferencePrefetchAdapter σ) : StagedInShape cfg (lastWritten B A cfg ops) s := by
  suffices hall : ∀ key kv, lastWritten B A cfg ops key = some kv →
      kv.1.shape = cfg.defaultShape ∧ kv.2.shape = cfg.defaultShape from
    fun key kv hkv _ => hall key kv hkv
  induction ops using List.reverseRecOn with
  | nil => exact fun _ _ hkv => by cases hkv
  | append_singleton ops op ih =>
      have hold := ih fun l b k v head ts kArr vArr hmem =>
        hshape l b k v head ts kArr vArr (List.mem_append_left [op] hmem)
      intro key kv hkv
      rw [lastWritten, List.foldl_concat] at hkv
      cases op with
      | writeBlock l b k v head ts =>
          have hnew := fun kArr vArr => hshape l b k v head ts kArr vArr
            (List.mem_append_right ops List.mem_cons_self)
          cases hk : asStored A cfg k with
          | error err =>
              simp only [record, hk] at hkv
              exact hold key kv hkv
          | ok kArr =>
              cases hv : asStored A cfg v with
              | error err =>
                  simp only [record, hk, hv] at hkv
                  exact hold key kv hkv
              | ok vArr =>
                  simp only [record, hk, hv] at hkv
                  rcases of_update_eq_some hkv with ⟨_, hkv⟩ | ⟨_, hkv⟩
                  · cases hkv
                    exact hnew kArr vArr hk hv
                  · exact hold key kv hkv
      | evictBlock l b =>
          rw [record] at hkv
          split at hkv
          · rcases of_update_eq_some hkv with ⟨_, hnone⟩ | ⟨_, hkv⟩
            · cases hnone
            · exact hold key kv hkv
          · exact hold key kv hkv
      | _ => exact hold key kv hkv

end Runs

/-! ## Two runs -/

section Instances

open Adapters.TransformerKVStateProvider RealInferenceStorageBackend

def oneFloatConfig : AdapterConfig where
  bufferCapacityBlocks := 2
  bytesPerBlock := 8192
  tokensPerBlock := 1
  kvHeadsPerBlock := 1
  headDim := 1
  dtypeStr := "float32"
  numLayers := 1

def evictingRun : List Op :=
  [.writeBlock 0 1 (.array (oneFloat 1)) (.array (oneFloat 2)) 0 0, .prefetch [1, 2] 0 0 0,
    .readBlockBatch 0 [1, 3] 0 0, .evictBlock 0 1,
    .writeBlock 0 1 (.array (oneFloat 3)) (.array (oneFloat 4)) 0 0]

def stagedRun : List Op :=
  [.writeBlock 0 1 (.array (oneFloat 1)) (.array (oneFloat 2)) 0 0, .prefetch [1] 0 0 0,
    .writeBlock 0 1 (.array (oneFloat 3)) (.array (oneFloat 4)) 0 0]

theorem coherent_iff_evicting :
    Coherent fileBackend oneFloatConfig
      (lastWritten fileBackend floatNumerics.toAstype oneFloatConfig evictingRun)
      ((machine fileBackend floatNumerics.toAstype oneFloatConfig).exec
        (init oneFloatConfig RealInferenceStorageBackend.init) evictingRun) := by
  have hiff := coherent_iff floatNumerics.toAstype oneFloatConfig fileContract
    (reached_init knownMode_tinyConfig) evictingRun
  refine hiff.mpr ⟨?_, ?_⟩ evictingRun (List.prefix_refl _)
  · refine ⟨?_, trivial, trivial, trivial, ?_, trivial⟩
    · rintro data kArr vArr ⟨⟩
    · intro data kArr vArr hdata
      have hnone : ((machine fileBackend floatNumerics.toAstype oneFloatConfig).exec
          (init oneFloatConfig RealInferenceStorageBackend.init)
          (evictingRun.take 4)).stagedData (0, 1) = none := by decide +kernel
      cases hnone.symm.trans hdata
  · intro pre hpre
    apply stagedInShape_of_writes
    intro l b k v head ts kArr vArr hmem hk hv
    have hmem := hpre.subset hmem
    simp only [evictingRun, List.mem_cons, List.not_mem_nil, or_false, reduceCtorEq, false_or,
      Op.writeBlock.injEq] at hmem
    rcases hmem with ⟨-, -, rfl, rfl, -⟩ | ⟨-, -, rfl, rfl, -⟩
    · cases hk
      cases hv
      exact ⟨rfl, rfl⟩
    · cases hk
      cases hv
      exact ⟨rfl, rfl⟩

/-- The second write reaches the store and not the buffer: the reads still answer with the
first. -/
theorem staged_block_reads_stale :
    let s := (machine fileBackend floatNumerics.toAstype oneFloatConfig).exec
      (init oneFloatConfig RealInferenceStorageBackend.init) stagedRun
    lastWritten fileBackend floatNumerics.toAstype oneFloatConfig stagedRun (0, 1) =
        some (oneFloat 3, oneFloat 4) ∧
      (readKeyPage fileBackend oneFloatConfig s 0 1 0 0).1 = .ok (oneFloat 1) ∧
      (readValuePage fileBackend oneFloatConfig s 0 1 0 0).1 = .ok (oneFloat 2) ∧
      (readBlock fileBackend oneFloatConfig s 0 1 0 0).1 = .ok (oneFloat 1, oneFloat 2) ∧
      ¬ Coherent fileBackend oneFloatConfig
        (lastWritten fileBackend floatNumerics.toAstype oneFloatConfig stagedRun) s := by
  refine ⟨rfl, ?_, ?_, ?_, ?_⟩
  · decide +kernel
  · decide +kernel
  · decide +kernel
  · intro hcoh
    exact absurd (hcoh.key 0 1 0 0 (oneFloat 3, oneFloat 4) rfl) (by decide +kernel)

end Instances

end AiSsd.Prefetch.RealInferencePrefetchAdapter
