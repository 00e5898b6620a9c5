import AiSsd.Prefetch.Coherence

/-!
# Hits against misses

A write records the shapes of its keys and values, and the reads that reshape a staged block ask
for a `shape` that no write records. So they give it the default geometry, or raise when it has
another number of elements, where the store answers with the shape that was written.
-/

namespace AiSsd.Prefetch.RealInferencePrefetchAdapter

open Lib Numpy Storage
open Adapters (Astype)

universe u v

variable {σ : Type v} {α : Type u} {B : BlockBackend σ α} {A : Astype} {cfg : AdapterConfig}

/-! ## The two paths -/

def unstaged (s : RealInferencePrefetchAdapter σ) : RealInferencePrefetchAdapter σ :=
  { s with stagingBuffer := Dict.empty }

/-- A read of one of the blocks answers the same from the buffer and from the store. -/
def LikeMiss {ρ : Type} (blocks : Nat × Nat → Option (NDArray × NDArray))
    (read : BlockRead (RealInferencePrefetchAdapter σ) ρ) (s : RealInferencePrefetchAdapter σ) :
    Prop :=
  ∀ l b h t, (blocks (l, b)).isSome →
    ∃ page, (read s l b h t).1 = .ok page ∧ (read s.unstaged l b h t).1 = .ok page

/-- A batch of the blocks is read on both paths, and whenever both read a batch they answer the
same for each of the blocks. -/
structure LikeMissBatch {ρ : Type} (blocks : Nat × Nat → Option (NDArray × NDArray))
    (read : BatchRead (RealInferencePrefetchAdapter σ) ρ) (s : RealInferencePrefetchAdapter σ) :
    Prop where
  succeeds : ∀ l bids h t, (∀ b ∈ bids, (blocks (l, b)).isSome) →
    ∃ pages pages', (read s l bids h t).1 = .ok pages ∧
      (read s.unstaged l bids h t).1 = .ok pages'
  agrees : ∀ l bids h t pages pages', (read s l bids h t).1 = .ok pages →
    (read s.unstaged l bids h t).1 = .ok pages' →
      ∀ b ∈ bids, (blocks (l, b)).isSome → pages.get? b = pages'.get? b

variable (B cfg) in
structure HitsLikeMisses (blocks : Nat × Nat → Option (NDArray × NDArray))
    (s : RealInferencePrefetchAdapter σ) : Prop where
  key : LikeMiss blocks (readKeyPage B cfg) s
  value : LikeMiss blocks (readValuePage B cfg) s
  block : LikeMiss blocks (readBlock B cfg) s
  keyBatch : LikeMissBatch blocks (readKeyPageBatch B cfg) s
  valueBatch : LikeMissBatch blocks (readValuePageBatch B cfg) s
  blockBatch : LikeMissBatch blocks (readBlockBatch B cfg) s

variable {V : B.ReturnsLastWrite} {blocks : Nat × Nat → Option (NDArray × NDArray)}
  {s : RealInferencePrefetchAdapter σ}

/-- The store has the blocks; what is staged of them may be something else. -/
structure Stored (V : B.ReturnsLastWrite) (blocks : Nat × Nat → Option (NDArray × NDArray))
    (s : RealInferencePrefetchAdapter σ) : Prop where
  valid : V.Valid s.storageBackend
  stored : ∀ key kv, blocks key = some kv → V.content s.storageBackend key = some kv
  noShape : ∀ key m, s.blockMeta.get? key = some m → m.shape = none

theorem LikeMiss.of_answers {ρ : Type} {page : NDArray × NDArray → ρ}
    {read : BlockRead (RealInferencePrefetchAdapter σ) ρ} (h : Answers blocks page read s)
    (h' : Answers blocks page read s.unstaged) : LikeMiss blocks read s := by
  intro l b hd t hsome
  obtain ⟨kv, hkv⟩ := Option.isSome_iff_exists.mp hsome
  exact ⟨page kv, h l b hd t kv hkv, h' l b hd t kv hkv⟩

theorem LikeMissBatch.of_answers {ρ : Type} {page : NDArray × NDArray → ρ}
    {read : BatchRead (RealInferencePrefetchAdapter σ) ρ} (h : AnswersBatch blocks page read s)
    (h' : AnswersBatch blocks page read s.unstaged) : LikeMissBatch blocks read s where
  succeeds := by
    intro l bids hd t hall
    obtain ⟨pages, hpages⟩ := h.succeeds l bids hd t hall
    obtain ⟨pages', hpages'⟩ := h'.succeeds l bids hd t hall
    exact ⟨pages, pages', hpages, hpages'⟩
  agrees := by
    intro l bids hd t pages pages' hpages hpages' b hb hsome
    obtain ⟨kv, hkv⟩ := Option.isSome_iff_exists.mp hsome
    rw [h.returns l bids hd t pages hpages b hb kv hkv,
      h'.returns l bids hd t pages' hpages' b hb kv hkv]

/-- With nothing staged every read answers from the store. -/
theorem Stored.coherent_unstaged (h : Stored V blocks s) : Coherent B cfg blocks s.unstaged := by
  have htracks : Tracks V blocks s.unstaged :=
    ⟨h.valid, h.stored, fun _ _ _ _ hdata => (by cases hdata), h.noShape⟩
  exact (coherent_iff_stagedInShape htracks).mpr fun _ _ _ hstaged => by cases hstaged

variable (cfg) in
def StagedAsWritten (blocks : Nat × Nat → Option (NDArray × NDArray))
    (s : RealInferencePrefetchAdapter σ) : Prop :=
  ∀ key kv data, blocks key = some kv → s.stagedData key = some data →
    data = kv ∧ kv.1.shape = cfg.defaultShape ∧ kv.2.shape = cfg.defaultShape

/-- The two paths agree exactly on what is staged as it was written. -/
theorem hitsLikeMisses_iff (h : Stored V blocks s) :
    HitsLikeMisses B cfg blocks s ↔ StagedAsWritten cfg blocks s := by
  have hmiss : Coherent B cfg blocks s.unstaged := h.coherent_unstaged
  constructor
  · intro hlike key kv data hkv hdata
    have hsome : (blocks (key.1, key.2)).isSome := Option.isSome_iff_exists.mpr ⟨kv, hkv⟩
    obtain ⟨kPage, hk, hk'⟩ := hlike.key key.1 key.2 0 0 hsome
    obtain ⟨vPage, hv, hv'⟩ := hlike.value key.1 key.2 0 0 hsome
    obtain ⟨both, hb, hb'⟩ := hlike.block key.1 key.2 0 0 hsome
    rw [hmiss.key key.1 key.2 0 0 kv hkv] at hk'
    rw [hmiss.value key.1 key.2 0 0 kv hkv] at hv'
    rw [hmiss.block key.1 key.2 0 0 kv hkv] at hb'
    cases hk'
    cases hv'
    cases hb'
    rw [readKeyPage, readSingle_staged _ _ _ hdata] at hk
    rw [readValuePage, readSingle_staged _ _ _ hdata] at hv
    rw [readBlock, readSingle_staged _ _ _ hdata] at hb
    have hdata' : data = kv := Prod.ext (Except.ok.inj hk) (Except.ok.inj hv)
    have hmeta : metaShape cfg s (key.1, key.2) = cfg.defaultShape := by
      have htracks : Tracks V (fun _ => none) s :=
        ⟨h.valid, fun _ _ hnone => (by cases hnone), fun _ _ _ hnone => (by cases hnone), h.noShape⟩
      exact htracks.metaShape_eq key
    rw [hmeta] at hb
    exact ⟨hdata', shapes_of_reshapedBlock hb⟩
  · intro hstaged
    have htracks : Tracks V blocks s :=
      ⟨h.valid, h.stored, fun key kv data hkv hdata => (hstaged key kv data hkv hdata).1,
        h.noShape⟩
    have hhit : Coherent B cfg blocks s := by
      refine (coherent_iff_stagedInShape htracks).mpr fun key kv hkv hsome => ?_
      obtain ⟨data, hdata⟩ := Option.isSome_iff_exists.mp hsome
      exact (hstaged key kv data hkv hdata).2
    exact
      { key := .of_answers hhit.key hmiss.key
        value := .of_answers hhit.value hmiss.value
        block := .of_answers hhit.block hmiss.block
        keyBatch := .of_answers hhit.keyBatch hmiss.keyBatch
        valueBatch := .of_answers hhit.valueBatch hmiss.valueBatch
        blockBatch := .of_answers hhit.blockBatch hmiss.blockBatch }

/-! ## Operations on other blocks -/

def Touches (key : Nat × Nat) : Op → Prop
  | .writeBlock l b _ _ _ _ => (l, b) = key
  | .evictBlock l b => (l, b) = key
  | _ => False

variable (cfg) in
theorem keeps_stageEach {fetched : Dict Nat (NDArray × NDArray)} (l head ts : Nat)
    (bids dispatched : List Nat) (hs : V.Valid s.storageBackend) :
    V.Keeps s.storageBackend
      (stageEach B cfg fetched l head ts bids dispatched s).2.storageBackend := by
  induction bids generalizing dispatched s with
  | nil => exact StoreView.Keeps.refl hs
  | cons bid bids ih =>
      have hone := @keeps_fetchBlock _ _ B V fetched _ hs l bid head ts
      unfold stageEach
      revert hone
      rcases fetchBlock B fetched s.storageBackend l bid head ts with ⟨_ | kv, b'⟩
      · exact id
      · intro hone
        have hvalid : V.Valid (stage cfg { s with storageBackend := b' } l bid head
          kv).storageBackend := hone.valid
        exact hone.trans (ih _ hvalid)

variable (cfg) in
theorem keeps_prefetch (bids : List Nat) (l head ts : Nat) (hs : V.Valid s.storageBackend) :
    V.Keeps s.storageBackend (prefetch B cfg s bids l head ts).2.storageBackend := by
  unfold prefetch
  dsimp only
  generalize bids.filter (fun bid => !s.stagingBuffer.contains (l, bid)) = missBids
  split
  · exact StoreView.Keeps.refl hs
  have hroom := (ensureCapacityFor_spec cfg missBids s).1
  revert hroom
  rcases ensureCapacityFor cfg missBids s with ⟨_ | _, s₁⟩
  · intro hroom
    rw [hroom]
    exact StoreView.Keeps.refl hs
  intro hroom
  have hfetch := @keeps_fetchBlocks _ _ B V _ hs l missBids head ts
  dsimp only
  rw [hroom]
  revert hfetch
  rcases fetchBlocks B s.storageBackend l missBids head ts with ⟨_ | fetched, b'⟩
  · exact id
  intro hfetch
  have hstage := @keeps_stageEach _ _ B cfg V { s₁ with storageBackend := b' } fetched l head ts
    missBids [] hfetch.valid
  dsimp only
  revert hstage
  rcases stageEach B cfg fetched l head ts missBids [] { s₁ with storageBackend := b' } with
    ⟨_ | dispatched, s₂⟩
  · exact hfetch.trans
  · exact hfetch.trans

theorem keeps_predictAndPrefetch (l : Nat) (bids : List Nat) (stride : Nat)
    (hs : V.Valid s.storageBackend) :
    V.Keeps s.storageBackend (predictAndPrefetch B cfg s l bids stride).2.storageBackend := by
  unfold predictAndPrefetch
  rcases s.predictor.predictNextLayerBlocks l bids stride with ⟨_ | ⟨next, predicted⟩, p⟩
  · exact StoreView.Keeps.refl hs
  · have hfetch := @keeps_prefetch _ _ B cfg V { s with predictor := p } predicted next 0 0 hs
    dsimp only
    revert hfetch
    rcases prefetch B cfg { s with predictor := p } predicted next 0 0 with ⟨_ | dispatched, s₁⟩
    · exact id
    · exact id

/-- What the store holds of a block that the operation does not touch. -/
theorem content_step (h : Tracks V (fun _ => none) s) {key : Nat × Nat} {op : Op}
    (hop : ¬ Touches key op) :
    V.content (step B A cfg s op).2.storageBackend key = V.content s.storageBackend key := by
  have hself : SameData V s s := SameData.refl h.valid
  cases op with
  | writeBlock l b k v head ts =>
      have hne : key ≠ (l, b) := fun heq => hop heq.symm
      show V.content (writeBlock B A cfg s l b k v head ts).2.storageBackend key = _
      unfold writeBlock
      cases hk : asStored A cfg k with
      | error err => rfl
      | ok kArr =>
          cases hv : asStored A cfg v with
          | error err => rfl
          | ok vArr =>
              have hcontent := V.write_content s.storageBackend l b kArr vArr head ts h.valid
                (shape_of_asStored hk) (shape_of_asStored hv)
              dsimp only
              revert hcontent
              rcases B.writeBlock s.storageBackend l b kArr vArr head ts with ⟨_ | _, b'⟩
              all_goals
                intro hcontent
                dsimp only at hcontent ⊢
                rw [hcontent, Function.update_of_ne hne]
  | evictBlock l b =>
      have hne : key ≠ (l, b) := fun heq => hop heq.symm
      show V.content (evictBlock B s l b).2.storageBackend key = _
      unfold evictBlock
      cases hevict : B.evictBlock with
      | none => rfl
      | some evict =>
          dsimp only
          rw [V.evict_content evict hevict s.storageBackend l b h.valid, Function.update_of_ne hne]
  | prefetch bids l head ts =>
      exact congrFun (keeps_prefetch cfg bids l head ts h.valid).content_eq key
  | predictAndPrefetch l bids stride =>
      exact congrFun (keeps_predictAndPrefetch l bids stride h.valid).content_eq key
  | readKeyPage l b head ts =>
      exact congrFun (hself.readSingle cfg V.key _ _ l b head ts).backend.content_eq key
  | readValuePage l b head ts =>
      exact congrFun (hself.readSingle cfg V.value _ _ l b head ts).backend.content_eq key
  | readBlock l b head ts =>
      exact congrFun (hself.readSingle cfg V.block _ _ l b head ts).backend.content_eq key
  | readKeyPageBatch l bids head ts =>
      exact congrFun (sameData_readBatch V.key V.keyBatch _ _ _ h.valid l bids head
        ts).backend.content_eq key
  | readValuePageBatch l bids head ts =>
      exact congrFun (sameData_readBatch V.value V.valueBatch _ _ _ h.valid l bids head
        ts).backend.content_eq key
  | readBlockBatch l bids head ts =>
      exact congrFun (sameData_readBatch V.block V.blockBatch _ _ _ h.valid l bids head
        ts).backend.content_eq key

theorem update_none {blocks : Nat × Nat → Option (NDArray × NDArray)} {key : Nat × Nat}
    (h : blocks key = none) : Function.update blocks key none = blocks := by
  rw [← h, Function.update_eq_self]

variable (A) in
/-- Blocks that the operation does not touch stay as they are, staged or not. -/
theorem Tracks.untouched (h : Tracks V blocks s) {op : Op}
    (hop : ∀ key, Touches key op → blocks key = none) :
    Tracks V blocks (step B A cfg s op).2 := by
  cases op with
  | writeBlock l b k v head ts =>
      cases hk : asStored A cfg k with
      | error err => simpa only [step, writeBlock, hk] using h
      | ok kArr =>
          cases hv : asStored A cfg v with
          | error err => simpa only [step, writeBlock, hk, hv] using h
          | ok vArr =>
              have hothers := (writeBlock_ok h hk hv l b head ts).2.2.1
              rwa [update_none (hop (l, b) rfl)] at hothers
  | evictBlock l b =>
      have hothers := h.evictBlock l b
      rw [update_none (hop (l, b) rfl), ite_self] at hothers
      exact hothers
  | prefetch bids l head ts => exact h.prefetch cfg bids l head ts
  | predictAndPrefetch l bids stride => exact h.predictAndPrefetch cfg l bids stride
  | readKeyPage l b head ts => exact tracks_step h (.readKeyPage l b head ts) trivial
  | readValuePage l b head ts => exact tracks_step h (.readValuePage l b head ts) trivial
  | readBlock l b head ts => exact tracks_step h (.readBlock l b head ts) trivial
  | readKeyPageBatch l bids head ts => exact tracks_step h (.readKeyPageBatch l bids head ts) trivial
  | readValuePageBatch l bids head ts =>
      exact tracks_step h (.readValuePageBatch l bids head ts) trivial
  | readBlockBatch l bids head ts => exact tracks_step h (.readBlockBatch l bids head ts) trivial

/-! ## Runs -/

variable (B A cfg) in
/-- The run from `b₀` writes the block once, `kv` as stored, and does not evict it after that. -/
structure WrittenOnce (b₀ : σ) (ops : List Op) (key : Nat × Nat) (kv : NDArray × NDArray) where
  before : List Op
  k : Payload
  v : Payload
  headId : Nat
  tokenStart : Nat
  after : List Op
  ops_eq : ops = before ++ .writeBlock key.1 key.2 k v headId tokenStart :: after
  first : ∀ op ∈ before, Touches key op → op = .evictBlock key.1 key.2
  last : ∀ op ∈ after, ¬ Touches key op
  keys : asStored A cfg k = .ok kv.1
  values : asStored A cfg v = .ok kv.2
  returned : (writeBlock B A cfg ((machine B A cfg).exec (init cfg b₀) before) key.1 key.2 k v
    headId tokenStart).1 = .ok ()

namespace WrittenOnce

variable {b₀ : σ} {ops : List Op} {key : Nat × Nat} {kv : NDArray × NDArray}

def met (w : WrittenOnce B A cfg b₀ ops key kv) : RealInferencePrefetchAdapter σ :=
  (machine B A cfg).exec (init cfg b₀) w.before

def left (w : WrittenOnce B A cfg b₀ ops key kv) : RealInferencePrefetchAdapter σ :=
  (writeBlock B A cfg w.met key.1 key.2 w.k w.v w.headId w.tokenStart).2

theorem exec_eq (w : WrittenOnce B A cfg b₀ ops key kv) :
    (machine B A cfg).exec (init cfg b₀) ops = (machine B A cfg).exec w.left w.after := by
  have hrun := congrArg ((machine B A cfg).exec (init cfg b₀)) w.ops_eq
  rw [Machine.exec_append, Machine.exec_cons] at hrun
  exact hrun

end WrittenOnce

/-- No block is asked about, so no operation touches one. -/
theorem Tracks.exec_none (h : Tracks V (fun _ => none) s) (ops : List Op) :
    Tracks V (fun _ => none) ((machine B A cfg).exec s ops) :=
  (machine B A cfg).exec_invariant (fun _ _ htracks => htracks.untouched A fun _ _ => rfl) s ops h

section Written

variable {b₀ : σ} {ops : List Op} {key : Nat × Nat} {kv : NDArray × NDArray}

theorem WrittenOnce.left_spec (w : WrittenOnce B A cfg b₀ ops key kv) (hb : V.Valid b₀) :
    w.left.stagedData = w.met.stagedData ∧ Tracks V (fun _ => none) w.left ∧
      V.content w.left.storageBackend key = some kv := by
  have hmet : Tracks V (fun _ => none) w.met := (tracks_init cfg hb).exec_none w.before
  obtain ⟨_, hstaged, hothers, hcontent⟩ :=
    writeBlock_ok hmet w.keys w.values key.1 key.2 w.headId w.tokenStart
  rw [update_none rfl] at hothers
  exact ⟨hstaged, hothers, hcontent⟩

/-- The store has the block to the end of the run. -/
theorem WrittenOnce.content_eq (w : WrittenOnce B A cfg b₀ ops key kv) (hb : V.Valid b₀) :
    V.content ((machine B A cfg).exec (init cfg b₀) ops).storageBackend key = some kv := by
  obtain ⟨_, htracks, hcontent⟩ := w.left_spec hb
  rw [w.exec_eq]
  have hmeets : (machine B A cfg).Meets (fun _ op => ¬ Touches key op) w.left w.after :=
    Machine.meets_of_forall_mem _ _ w.last
  refine ((machine B A cfg).exec_invariant_of_meets
    (I := fun s => Tracks V (fun _ => none) s ∧ V.content s.storageBackend key = some kv) ?_
    w.left w.after ⟨htracks, hcontent⟩ hmeets).2
  rintro s op ⟨hs, hold⟩ hop
  exact ⟨hs.untouched A fun _ _ => rfl, (content_step hs hop).trans hold⟩

/-- A block that is written unstaged is only ever staged as written. -/
theorem WrittenOnce.staged_eq (w : WrittenOnce B A cfg b₀ ops key kv) (hb : V.Valid b₀)
    (hunstaged : w.met.stagedData key = none) {data : NDArray × NDArray}
    (hdata : ((machine B A cfg).exec (init cfg b₀) ops).stagedData key = some data) :
    data = kv := by
  obtain ⟨hstaged, hnone, hcontent⟩ := w.left_spec hb
  have htracks : Tracks V (Function.update (fun _ => none) key (some kv)) w.left := by
    refine ⟨hnone.valid, ?_, ?_, hnone.noShape⟩
    · intro key' kv' hkv
      rcases of_update_eq_some hkv with ⟨rfl, hsome⟩ | ⟨_, hold⟩
      · rw [hcontent, hsome]
      · cases hold
    · intro key' kv' data' hkv hdata'
      rcases of_update_eq_some hkv with ⟨rfl, _⟩ | ⟨_, hold⟩
      · rw [hstaged, hunstaged] at hdata'
        cases hdata'
      · cases hold
  have hmeets : (machine B A cfg).Meets (fun _ op => ¬ Touches key op) w.left w.after :=
    Machine.meets_of_forall_mem _ _ w.last
  have hend := (machine B A cfg).exec_invariant_of_meets
    (fun s op hs hop => hs.untouched A fun key' hkey' => by
      rw [Function.update_of_ne]
      rintro rfl
      exact hop hkey') w.left w.after htracks hmeets
  rw [w.exec_eq] at hdata
  exact hend.staged key kv data (Function.update_self _ _ _) hdata

theorem stored_of_writtenOnce (w : ∀ key kv, blocks key = some kv → WrittenOnce B A cfg b₀ ops key kv)
    (hb : V.Valid b₀) : Stored V blocks ((machine B A cfg).exec (init cfg b₀) ops) where
  valid := ((tracks_init cfg hb).exec_none ops).valid
  stored := fun key kv hkv => (w key kv hkv).content_eq hb
  noShape := ((tracks_init cfg hb).exec_none ops).noShape

end Written

theorem hitsLikeMisses_none : HitsLikeMisses B cfg (fun _ => none) s := by
  have hone : ∀ {ρ : Type} (read : BlockRead (RealInferencePrefetchAdapter σ) ρ),
      LikeMiss (fun _ => none) read s := fun _ _ _ _ _ hsome => by cases hsome
  have hmany : ∀ {ρ : Type} (n : Nat) (staged : List Nat → NDArray × NDArray → Except PyErr ρ)
      (batch : Option (BatchRead σ ρ)) (single : BlockRead (RealInferencePrefetchAdapter σ) ρ),
      LikeMissBatch (fun _ => none) (readBatch cfg n staged batch single) s := by
    intro ρ n staged batch single
    refine ⟨?_, fun _ _ _ _ _ _ _ _ _ _ hsome => by cases hsome⟩
    intro l bids h t hall
    have hnil : bids = [] := List.eq_nil_iff_forall_not_mem.mpr fun b hb => by cases hall b hb
    subst hnil
    exact ⟨Dict.empty, Dict.empty, rfl, rfl⟩
  exact ⟨hone _, hone _, hone _, hmany _ _ _ _, hmany _ _ _ _, hmany _ _ _ _⟩

section InferenceBackend

open RealInferenceStorageBackend (blockBackend returnsLastWrite reached_init writeBlock_refused
  KnownMode)

variable {α : Type u} [Field α] [LinearOrder α] (bcfg : BackendConfig) (val : DType → Bytes → α)
  (A : Astype) (cfg : AdapterConfig)

/-- Over the inference backend a hit answers like a miss for the blocks a run writes once exactly
as long as what is staged of them is what was written, in the default geometry. A block that is
not staged when it is written is never staged as anything else. -/
theorem hits_like_misses_iff (ops : List Op) (blocks : Nat × Nat → Option (NDArray × NDArray))
    (w : ∀ key kv, blocks key = some kv →
      WrittenOnce (blockBackend bcfg val) A cfg RealInferenceStorageBackend.init ops key kv) :
    let s := (machine (blockBackend bcfg val) A cfg).exec
      (init cfg RealInferenceStorageBackend.init) ops
    (HitsLikeMisses (blockBackend bcfg val) cfg blocks s ↔ StagedAsWritten cfg blocks s) ∧
      ∀ key kv data (hkv : blocks key = some kv), (w key kv hkv).met.stagedData key = none →
        s.stagedData key = some data → data = kv := by
  intro s
  by_cases hmode : KnownMode bcfg
  · have hb : (returnsLastWrite bcfg val).Valid RealInferenceStorageBackend.init :=
      reached_init hmode
    refine ⟨hitsLikeMisses_iff (stored_of_writtenOnce w hb), ?_⟩
    intro key kv data hkv hunstaged hdata
    exact (w key kv hkv).staged_eq hb hunstaged hdata
  · -- no write returns in a mode the mapper does not know
    have hnone : ∀ key kv, blocks key ≠ some kv := by
      intro key kv hkv
      have hreturned := (w key kv hkv).returned
      obtain ⟨err, hrefused⟩ := writeBlock_refused hmode
        (w key kv hkv).met.storageBackend key.1 key.2 (.array kv.1) (.array kv.2)
        (w key kv hkv).headId (w key kv hkv).tokenStart
      simp only [writeBlock, (w key kv hkv).keys, (w key kv hkv).values] at hreturned
      revert hreturned
      split
      · rintro ⟨⟩
      · rename_i hstored
        have hok := (congrArg Prod.fst hstored).symm.trans hrefused
        cases hok
    obtain rfl : blocks = fun _ => none := by
      funext key
      exact Option.eq_none_iff_forall_ne_some.mpr (hnone key)
    exact ⟨iff_of_true hitsLikeMisses_none fun _ _ _ hkv => (by cases hkv),
      fun _ _ _ hkv => (by cases hkv)⟩

end InferenceBackend

/-! ## Two runs -/

section Instances

open Adapters.TransformerKVStateProvider RealInferenceStorageBackend

def stageWritten (k v : NDArray) : List Op :=
  [.writeBlock 0 1 (.array k) (.array v) 0 0, .prefetch [1] 0 0 0]

/-- The block of `stageWritten`. -/
def blockOne (k v : NDArray) : Nat × Nat → Option (NDArray × NDArray) :=
  fun key => if key = (0, 1) then some (k, v) else none

def twoFloats (byte : UInt8) : NDArray := ⟨float32, [2, 1, 1], [byte, 0, 0, 0, byte, 0, 0, 0], rfl⟩

theorem of_blockOne {k v : NDArray} {key : Nat × Nat} {kv : NDArray × NDArray}
    (h : blockOne k v key = some kv) : key = (0, 1) ∧ kv = (k, v) := by
  unfold blockOne at h
  split at h
  · cases h
    exact ⟨by assumption, rfl⟩
  · cases h

/-- `stageWritten` writes its block once. -/
def writesOnce (k v : NDArray)
    (hk : asStored floatNumerics.toAstype oneFloatConfig (.array k) = .ok k)
    (hv : asStored floatNumerics.toAstype oneFloatConfig (.array v) = .ok v)
    (key : Nat × Nat) (kv : NDArray × NDArray) (h : blockOne k v key = some kv) :
    WrittenOnce fileBackend floatNumerics.toAstype oneFloatConfig RealInferenceStorageBackend.init
      (stageWritten k v) key kv where
  before := []
  k := .array k
  v := .array v
  headId := 0
  tokenStart := 0
  after := [.prefetch [1] 0 0 0]
  ops_eq := by
    obtain ⟨rfl, rfl⟩ := of_blockOne h
    rfl
  first := fun _ hmem => by cases hmem
  last := by
    intro op hop
    obtain rfl : op = .prefetch [1] 0 0 0 := List.mem_singleton.mp hop
    exact id
  keys := by
    obtain ⟨rfl, rfl⟩ := of_blockOne h
    exact hk
  values := by
    obtain ⟨rfl, rfl⟩ := of_blockOne h
    exact hv
  returned := by
    have hb : fileContract.Valid RealInferenceStorageBackend.init :=
      reached_init knownMode_tinyConfig
    exact (writeBlock_ok (tracks_init oneFloatConfig hb) hk hv key.1 key.2 0 0).1

theorem hits_like_misses_iff_one_float :
    HitsLikeMisses fileBackend oneFloatConfig (blockOne (oneFloat 1) (oneFloat 2))
      ((machine fileBackend floatNumerics.toAstype oneFloatConfig).exec
        (init oneFloatConfig RealInferenceStorageBackend.init)
        (stageWritten (oneFloat 1) (oneFloat 2))) := by
  have hiff := hits_like_misses_iff tinyConfig _ floatNumerics.toAstype oneFloatConfig
    (stageWritten (oneFloat 1) (oneFloat 2)) (blockOne (oneFloat 1) (oneFloat 2))
    (writesOnce (oneFloat 1) (oneFloat 2) rfl rfl)
  refine hiff.1.mpr fun key kv data hkv hdata => ⟨hiff.2 key kv data hkv rfl hdata, ?_⟩
  obtain ⟨_, rfl⟩ := of_blockOne hkv
  exact ⟨rfl, rfl⟩

/-- The store answers two tokens. The staged block raises in the reads that reshape it to one. -/
theorem staged_block_raises :
    let s := (machine fileBackend floatNumerics.toAstype oneFloatConfig).exec
      (init oneFloatConfig RealInferenceStorageBackend.init)
      (stageWritten (twoFloats 1) (twoFloats 2))
    Nonempty (∀ key kv, blockOne (twoFloats 1) (twoFloats 2) key = some kv →
      WrittenOnce fileBackend floatNumerics.toAstype oneFloatConfig
        RealInferenceStorageBackend.init (stageWritten (twoFloats 1) (twoFloats 2)) key kv) ∧
      (readKeyPage fileBackend oneFloatConfig s 0 1 0 0).1 = .ok (twoFloats 1) ∧
      (readBlock fileBackend oneFloatConfig s.unstaged 0 1 0 0).1 =
        .ok (twoFloats 1, twoFloats 2) ∧
      (∃ err, (readBlock fileBackend oneFloatConfig s 0 1 0 0).1 = .error err) ∧
      ¬ HitsLikeMisses fileBackend oneFloatConfig (blockOne (twoFloats 1) (twoFloats 2)) s := by
  have hstaged : (readKeyPage fileBackend oneFloatConfig
      ((machine fileBackend floatNumerics.toAstype oneFloatConfig).exec
        (init oneFloatConfig RealInferenceStorageBackend.init)
        (stageWritten (twoFloats 1) (twoFloats 2))) 0 1 0 0).1 = .ok (twoFloats 1) := by
    decide +kernel
  obtain ⟨err, hraises⟩ : ∃ err, (readBlock fileBackend oneFloatConfig
      ((machine fileBackend floatNumerics.toAstype oneFloatConfig).exec
        (init oneFloatConfig RealInferenceStorageBackend.init)
        (stageWritten (twoFloats 1) (twoFloats 2))) 0 1 0 0).1 = .error err := ⟨_, rfl⟩
  refine ⟨⟨writesOnce _ _ rfl rfl⟩, hstaged, by decide +kernel, ⟨err, hraises⟩, ?_⟩
  intro hlike
  obtain ⟨page, hpage, _⟩ := hlike.block 0 1 0 0 rfl
  cases hraises.symm.trans hpage

end Instances

end AiSsd.Prefetch.RealInferencePrefetchAdapter
