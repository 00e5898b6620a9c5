import AiSsd.Attention.DecodeExact
import AiSsd.Attention.OffloadEngine
import AiSsd.Storage.PhysicalAgreement

/-!
# The engine over the physical adapter

Every run of prefills, appends, fetches and decodes returns over the physical adapter what it
returns over the mock controller. The two differ where a layer has nothing stored, which a decode
never meets: a block leaves RAM only for the storage, and nothing takes it out of there.
-/

namespace AiSsd.Attention

open Lib Storage Tiering Ftl

universe u

variable {α : Type u} {heads dim : Nat}

/-! ## Cold blocks are stored -/

structure ColdStored (m : Manager α heads dim) : Prop where
  linked : m.blockPool.Linked
  stored : ∀ id b, m.blockPool.getBlock id = some b → b.isInRam = false →
    (m.storage.flashStore.get? (b.layerId, id)).isSome

namespace ColdStored

open TieredKVManager

variable {m : Manager α heads dim}

theorem withStorage (h : ColdStored m) {storage : MockSSDController α heads dim}
    (hkeeps : ∀ key, (m.storage.flashStore.get? key).isSome →
      (storage.flashStore.get? key).isSome) : ColdStored { m with storage := storage } :=
  ⟨h.linked, fun id b hb hram => hkeeps _ (h.stored id b hb hram)⟩

theorem allocate (h : ColdStored m) (layerId tokenStart tokenCount : Nat)
    (kData vData : Option (List (Row α heads dim))) (isPinned : Bool) :
    ColdStored { m with blockPool :=
      (m.blockPool.allocateBlock layerId tokenStart tokenCount kData vData isPinned).2 } where
  linked := h.linked.allocate layerId tokenStart tokenCount kData vData isPinned
  stored := by
    intro id b hb hram
    rw [KVBlockPool.getBlock_allocate] at hb
    split at hb
    · cases hb
      cases hram
    · exact h.stored id b hb hram

theorem assign (h : ColdStored m) {b b' : KVBlock (Row α heads dim) (Row α heads dim)}
    (hb : m.blockPool.getBlock b.blockId = some b) (hid : b'.blockId = b.blockId)
    (hlayer : b'.layerId = b.layerId)
    (hstored : b'.isInRam = false →
      (m.storage.flashStore.get? (b'.layerId, b'.blockId)).isSome) :
    ColdStored { m with blockPool := m.blockPool.assign b' } where
  linked := h.linked.assign hb hid hlayer
  stored := by
    intro id c hc hram
    rw [KVBlockPool.getBlock_assign] at hc
    split at hc
    · rename_i hsame
      cases hc
      rw [← hsame]
      exact hstored hram
    · exact h.stored id c hc hram

theorem keeps_store (t : MockSSDController α heads dim) (widths : ElementWidths) (b l : Nat)
    (k v : Option (List (Row α heads dim))) (key : Nat × Nat)
    (hkey : (t.flashStore.get? key).isSome) :
    ((t.storeKv widths b l k v).2.flashStore.get? key).isSome := by
  unfold MockSSDController.storeKv
  split
  · dsimp only
    rw [Dict.get?_set]
    split
    · rfl
    · exact hkey
  · exact hkey

variable (widths : ElementWidths)

/-- A stored block of the layer, or one whose store raised and that stays in RAM. -/
theorem offload (h : ColdStored m) {l : Nat} {b : KVBlock (Row α heads dim) (Row α heads dim)}
    (hb : m.blockPool.getBlock b.blockId = some b) (hlayer : b.layerId = l) :
    ColdStored (TieredKVManager.offload (MockSSDController.kvStorage widths) m l b).2 := by
  obtain rfl := hlayer
  have hkeeps := keeps_store m.storage widths b.blockId b.layerId b.kData b.vData
  have hnew : ∀ stored, (m.storage.storeKv widths b.blockId b.layerId b.kData b.vData).1 =
      .ok stored →
      ((m.storage.storeKv widths b.blockId b.layerId b.kData b.vData).2.flashStore.get?
        (b.layerId, b.blockId)).isSome := by
    unfold MockSSDController.storeKv
    split
    · intro stored _
      dsimp only
      rw [Dict.get?_set_self]
      rfl
    · intro stored hstored
      cases hstored
  have hcall : (MockSSDController.kvStorage widths).storeKv m.storage b.blockId b.layerId b.kData
      b.vData = m.storage.storeKv widths b.blockId b.layerId b.kData b.vData := rfl
  unfold TieredKVManager.offload
  rw [hcall]
  revert hkeeps hnew
  rcases m.storage.storeKv widths b.blockId b.layerId b.kData b.vData with ⟨_ | stored, storage⟩
  · exact fun hkeeps _ => h.withStorage hkeeps
  · intro hkeeps hnew
    exact (h.withStorage hkeeps).assign hb rfl rfl fun _ => hnew stored rfl

theorem evictLoop (h : ColdStored m) {l : Nat}
    (leaves : KVBlock (Row α heads dim) (Row α heads dim) → Bool) {ids : List Nat}
    (hids : ∀ id ∈ ids, id ∈ m.blockPool.layerIds l) :
    ColdStored (TieredKVManager.evictLoop (MockSSDController.kvStorage widths) l leaves ids m).2 := by
  induction ids generalizing m with
  | nil => exact h
  | cons id ids ih =>
      rw [List.forall_mem_cons] at hids
      unfold TieredKVManager.evictLoop
      cases hb : m.blockPool.getBlock id with
      | none => exact ih h hids.2
      | some b =>
          have hid := h.linked.blockId_eq hb
          have hlayer := h.linked.layerId_eq hids.1 hb
          dsimp only
          split
          · have hoff := h.offload widths (hid.symm ▸ hb) hlayer
            have hpool : ∀ id', id' ∈ m.blockPool.layerIds l → id' ∈
                (TieredKVManager.offload (MockSSDController.kvStorage widths) m l
                  b).2.blockPool.layerIds l := by
              intro id' hid'
              unfold TieredKVManager.offload
              split
              · exact hid'
              · exact hid'
            revert hoff hpool
            rcases TieredKVManager.offload (MockSSDController.kvStorage widths) m l b with
              ⟨_ | _, m'⟩
            · exact fun hoff _ => hoff
            · exact fun hoff hpool => ih hoff fun id' hid' => hpool id' (hids.2 id' hid')
          · exact ih h hids.2

theorem prefillBlocks (policy : TieringPolicy) (h : ColdStored m) (l : Nat)
    (kSeq vSeq : List (Row α heads dim)) (n : Nat) :
    ColdStored { m with
        blockPool := (TieredKVManager.prefillBlocks policy l kSeq vSeq m.blockPool n).2 } ∧
      ∀ id ∈ (TieredKVManager.prefillBlocks policy l kSeq vSeq m.blockPool n).1,
        id ∈ (TieredKVManager.prefillBlocks policy l kSeq vSeq m.blockPool n).2.layerIds l := by
  induction n with
  | zero => exact ⟨h, fun id hid => by cases hid⟩
  | succ n ih =>
      obtain ⟨hcold, hlisted⟩ := ih
      refine ⟨hcold.allocate _ _ _ _ _ _, ?_⟩
      intro id hid
      unfold TieredKVManager.prefillBlocks TieredKVManager.prefillBlock at hid ⊢
      dsimp only at hid ⊢
      rw [KVBlockPool.layerIds_allocate, if_pos rfl]
      rcases List.mem_append.mp hid with hold | hnew
      · exact List.mem_append_left _ (hlisted id hold)
      · exact List.mem_append_right _ hnew

theorem placeToken (policy : TieringPolicy) (h : ColdStored m) (l : Nat) (k v : Row α heads dim) :
    ColdStored (TieredKVManager.placeToken policy m l k v) := by
  unfold TieredKVManager.placeToken
  split
  · rename_i last hlast
    split
    · have hmem := List.mem_of_getLast? hlast
      obtain ⟨id, -, hget⟩ := List.mem_filterMap.mp hmem
      have hid := h.linked.blockId_eq hget
      have hself : m.blockPool.getBlock last.blockId = some last := hid.symm ▸ hget
      have hsame : (grown last k v).blockId = last.blockId ∧
          (grown last k v).layerId = last.layerId ∧ (grown last k v).isInRam = last.isInRam := by
        unfold grown
        split <;> exact ⟨rfl, rfl, rfl⟩
      refine h.assign hself hsame.1 hsame.2.1 fun hram => ?_
      rw [hsame.1, hsame.2.1]
      exact h.stored _ last hself (hsame.2.2 ▸ hram)
    · exact h.allocate _ _ _ _ _ _
  · exact h.allocate _ _ _ _ _ _

theorem step (policy : TieringPolicy) (h : ColdStored m)
    (op : TieredKVManager.Op (Row α heads dim) (Row α heads dim)) :
    ColdStored (TieredKVManager.step policy (MockSSDController.kvStorage widths) m op).2 := by
  cases op with
  | prefill l rows =>
      obtain ⟨hcold, hlisted⟩ := h.prefillBlocks policy l (rows.map Prod.fst) (rows.map Prod.snd)
        (((rows.map Prod.fst).length + policy.tokensPerBlock - 1) / policy.tokensPerBlock)
      exact hcold.evictLoop widths _ hlisted
  | append l k v => exact (h.placeToken policy l k v).evictLoop widths _ fun id hid => hid
  | fetch bid l =>
      dsimp only [TieredKVManager.step]
      unfold fetchColdBlock
      cases hb : m.blockPool.getBlock bid with
      | none => exact h
      | some b =>
          have hself : m.blockPool.getBlock b.blockId = some b := h.linked.blockId_eq hb ▸ hb
          dsimp only
          split
          · exact h
          · have hkeeps : ∀ key, (m.storage.flashStore.get? key).isSome →
                ((m.storage.loadKv widths bid l).2.flashStore.get? key).isSome := by
              intro key hkey
              unfold MockSSDController.loadKv
              split <;> exact hkey
            have hcall : (MockSSDController.kvStorage widths).loadKv m.storage bid l =
                m.storage.loadKv widths bid l := rfl
            rw [hcall]
            revert hkeeps
            rcases m.storage.loadKv widths bid l with ⟨_ | ⟨k, v⟩, storage⟩
            · exact fun hkeeps => h.withStorage hkeeps
            · intro hkeeps
              exact (h.withStorage hkeeps).assign hself rfl rfl fun hram => by cases hram

theorem layerEntries_ne_nil (h : ColdStored m) {l : Nat} (hcold : m.getColdBlocks l ≠ []) :
    m.storage.layerEntries l ≠ [] := by
  obtain ⟨b, hb⟩ := List.exists_mem_of_ne_nil _ hcold
  obtain ⟨hmem, hram⟩ := List.mem_filter.mp hb
  obtain ⟨id, hid, hget⟩ := List.mem_filterMap.mp hmem
  have hlayer := h.linked.layerId_eq hid hget
  obtain ⟨entry, hentry⟩ := Option.isSome_iff_exists.mp (h.stored id b hget (by simpa using hram))
  rw [hlayer] at hentry
  exact List.ne_nil_of_mem ((MockSSDController.mem_layerEntries_iff _ l id entry).mpr hentry)

end ColdStored

/-! ## The engine -/

section Engine

variable [Field α] [LinearOrder α] {cfg : SimulatorConfig} {mode : FtlMode}
  (widths : ElementWidths) (np : IndexSort α) (sqrt : α → α)

/-- Scoring in the storage moves and writes no block. -/
theorem topk_keeps (t : MockSSDController α heads dim) (query : Row α heads dim) (l topK : Nat) :
    (t.inStorageTopkAttention widths np sqrt query l topK).2.flashStore = t.flashStore ∧
      (t.inStorageTopkAttention widths np sqrt query l topK).2.telemetry.nandWriteOps =
        t.telemetry.nandWriteOps := by
  cases hblocks : t.layerEntries l with
  | nil =>
      unfold MockSSDController.inStorageTopkAttention
      rw [hblocks]
      exact ⟨rfl, rfl⟩
  | cons first rest =>
      rw [PhysicalTensorAwareStorageAdapter.mock_topk widths np sqrt query topK hblocks rfl]
      cases PhysicalTensorAwareStorageAdapter.selectTop np query (attentionScale sqrt dim)
          (first :: rest) (min topK (first :: rest).length) with
      | error err =>
          exact ⟨rfl, PhysicalTensorAwareStorageAdapter.nandWriteOps_scoredCounters _ _ _ _ _⟩
      | ok answer =>
          exact ⟨rfl, (PhysicalTensorAwareStorageAdapter.nandWriteOps_streamedCounters _ _ _ _ _).trans
            (PhysicalTensorAwareStorageAdapter.nandWriteOps_scoredCounters _ _ _ _ _)⟩

namespace OffloadEngine

open PhysicalTensorAwareStorageAdapter (Mirrors Full)

def physicalStorage :
    KVStorageInterface (PhysicalTensorAwareStorageAdapter cfg α heads dim) α heads dim where
  toKVStorage := PhysicalTensorAwareStorageAdapter.kvStorage widths
  inStorageTopkAttention s :=
    PhysicalTensorAwareStorageAdapter.inStorageTopkAttention widths s np sqrt

/-- One pool over storages alike, with the cold blocks stored. -/
structure Together (mode : FtlMode)
    (m : Manager (PhysicalTensorAwareStorageAdapter cfg α heads dim) α heads dim)
    (m' : Manager (MockSSDController α heads dim) α heads dim) : Prop where
  paired : TieredKVManager.Paired (Mirrors mode) m m'
  cold : ColdStored m'

variable {m : Manager (PhysicalTensorAwareStorageAdapter cfg α heads dim) α heads dim}
  {m' : Manager (MockSSDController α heads dim) α heads dim}

omit [Field α] [LinearOrder α] in
theorem Together.withStorage (h : Together mode m m')
    {storage : PhysicalTensorAwareStorageAdapter cfg α heads dim}
    {storage' : MockSSDController α heads dim} (hrel : Mirrors mode storage storage')
    (hflash : storage'.flashStore = m'.storage.flashStore) :
    Together mode { m with storage := storage } { m' with storage := storage' } where
  paired := ⟨h.paired.pool, hrel⟩
  cold := h.cold.withStorage fun _ hkey => hflash ▸ hkey

theorem coldPartition_together (h : Together mode m m') (query : Row α heads dim) (l kVal : Nat) :
    (coldPartition (physicalStorage widths np sqrt) m query l kVal).1 =
        (coldPartition (mockStorage sqrt widths np) m' query l kVal).1 ∧
      Together mode (coldPartition (physicalStorage widths np sqrt) m query l kVal).2
        (coldPartition (mockStorage sqrt widths np) m' query l kVal).2 := by
  have hblocks : m.getColdBlocks l = m'.getColdBlocks l := by
    unfold TieredKVManager.getColdBlocks
    rw [h.paired.pool]
  unfold coldPartition
  rw [hblocks]
  by_cases hnone : m'.getColdBlocks l = []
  · rw [if_pos hnone, if_pos hnone]
    exact ⟨rfl, h⟩
  · rw [if_neg hnone, if_neg hnone]
    obtain ⟨hanswer, hmirrors⟩ :=
      PhysicalTensorAwareStorageAdapter.inStorageTopkAttention_mirrors widths np sqrt
        h.paired.storage query kVal (h.cold.layerEntries_ne_nil hnone)
    have hkeeps := (topk_keeps widths np sqrt m'.storage query l kVal).1
    have hphysical : (physicalStorage widths np sqrt).inStorageTopkAttention m.storage query l kVal =
        m.storage.inStorageTopkAttention widths np sqrt query l kVal := rfl
    have hmock : (mockStorage sqrt widths np).inStorageTopkAttention m'.storage query l kVal =
        m'.storage.inStorageTopkAttention widths np sqrt query l kVal := rfl
    rw [hphysical, hmock]
    revert hanswer hmirrors hkeeps
    rcases m.storage.inStorageTopkAttention widths np sqrt query l kVal with ⟨r, storage⟩
    rcases m'.storage.inStorageTopkAttention widths np sqrt query l kVal with ⟨r', storage'⟩
    intro hanswer hmirrors hkeeps
    obtain rfl : r = r' := hanswer
    have hnext := h.withStorage hmirrors hkeeps
    rcases r with err | _ | ⟨ids, vals, logits, scores⟩
    · exact ⟨rfl, hnext⟩
    · exact ⟨rfl, hnext⟩
    · dsimp only
      split
      · exact ⟨rfl, hnext⟩
      · exact ⟨rfl, hnext⟩

theorem decode_together (e : Exponential α) (defaultTopK : Nat) (h : Together mode m m')
    (query : Row α heads dim) (l : Nat) (topK : Option Nat) :
    (computeDecodeAttention (physicalStorage widths np sqrt) sqrt e defaultTopK m query l topK).1 =
        (computeDecodeAttention (mockStorage sqrt widths np) sqrt e defaultTopK m' query l topK).1 ∧
      Together mode
        (computeDecodeAttention (physicalStorage widths np sqrt) sqrt e defaultTopK m query l topK).2
        (computeDecodeAttention (mockStorage sqrt widths np) sqrt e defaultTopK m' query l
          topK).2 := by
  have hhot : hotPartition sqrt m query l = hotPartition sqrt m' query l := by
    unfold hotPartition TieredKVManager.getHotKv
    rw [h.paired.pool]
  have hstats : ∀ fed, stats m l (topK.getD defaultTopK) fed =
      stats m' l (topK.getD defaultTopK) fed := by
    intro fed
    unfold stats TieredKVManager.getColdBlocks TieredKVManager.getHotKv
    rw [h.paired.pool]
  have hcold := coldPartition_together widths np sqrt h query l (topK.getD defaultTopK)
  unfold computeDecodeAttention fedPartitions
  dsimp only
  rw [hhot]
  cases hotPartition sqrt m' query l with
  | error err => exact ⟨rfl, h⟩
  | ok hot =>
      dsimp only
      revert hcold
      rcases coldPartition (physicalStorage widths np sqrt) m query l (topK.getD defaultTopK) with
        ⟨r, n⟩
      rcases coldPartition (mockStorage sqrt widths np) m' query l (topK.getD defaultTopK) with
        ⟨r', n'⟩
      rintro ⟨hanswer, htogether⟩
      obtain rfl : r = r' := hanswer
      cases r with
      | error err => exact ⟨rfl, htogether⟩
      | ok cold =>
          refine ⟨?_, htogether⟩
          dsimp only
          rw [hstats]

theorem coldPartition_nandWriteOps (m' : Manager (MockSSDController α heads dim) α heads dim)
    (query : Row α heads dim) (l kVal : Nat) :
    (coldPartition (mockStorage sqrt widths np) m' query l
      kVal).2.storage.telemetry.nandWriteOps = m'.storage.telemetry.nandWriteOps := by
  have hkeeps := (topk_keeps widths np sqrt m'.storage query l kVal).2
  have hcall : (mockStorage sqrt widths np).inStorageTopkAttention m'.storage query l kVal =
      m'.storage.inStorageTopkAttention widths np sqrt query l kVal := rfl
  unfold coldPartition
  rw [hcall]
  revert hkeeps
  rcases m'.storage.inStorageTopkAttention widths np sqrt query l kVal with
    ⟨err | _ | ⟨ids, vals, logits, scores⟩, storage'⟩
  · intro hkeeps
    split
    · rfl
    · exact hkeeps
  · intro hkeeps
    split
    · rfl
    · exact hkeeps
  · intro hkeeps
    split
    · rfl
    · dsimp only
      split
      · exact hkeeps
      · exact hkeeps

theorem decode_nandWriteOps (e : Exponential α) (defaultTopK : Nat)
    (m' : Manager (MockSSDController α heads dim) α heads dim) (query : Row α heads dim) (l : Nat)
    (topK : Option Nat) :
    (computeDecodeAttention (mockStorage sqrt widths np) sqrt e defaultTopK m' query l
      topK).2.storage.telemetry.nandWriteOps = m'.storage.telemetry.nandWriteOps := by
  have hkeeps := coldPartition_nandWriteOps widths np sqrt m' query l (topK.getD defaultTopK)
  unfold computeDecodeAttention fedPartitions
  dsimp only
  cases hotPartition sqrt m' query l with
  | error err => rfl
  | ok hot =>
      dsimp only
      revert hkeeps
      rcases coldPartition (mockStorage sqrt widths np) m' query l (topK.getD defaultTopK) with
        ⟨_ | _, n'⟩
      · exact id
      · exact id

variable (cfg) (policy : TieringPolicy) (e : Exponential α) (defaultTopK : Nat)

def physicalEngine : Machine (Manager (PhysicalTensorAwareStorageAdapter cfg α heads dim) α heads dim)
    (Op α heads dim) (Except PyErr (Answer α heads dim)) :=
  engine (physicalStorage widths np sqrt) sqrt policy e defaultTopK

def mockEngine : Machine (Manager (MockSSDController α heads dim) α heads dim) (Op α heads dim)
    (Except PyErr (Answer α heads dim)) :=
  engine (mockStorage sqrt widths np) sqrt policy e defaultTopK

theorem step_simulates (op : Op α heads dim) :
    Simulates (Together mode) (Agree SameClass) (fun m' => Full cfg mode m'.storage)
      (fun m => (physicalEngine cfg widths np sqrt policy e defaultTopK).step m op)
      fun m' => (mockEngine widths np sqrt policy e defaultTopK).step m' op := by
  intro m m' h
  cases op with
  | tier op =>
      have hcold := h.cold.step widths policy op
      rcases TieredKVManager.step_simulates (PhysicalTensorAwareStorageAdapter.storageSimulation
        widths) op m m' h.paired with hfull | ⟨hagree, hpaired⟩
      · exact .inl hfull
      · exact .inr ⟨hagree.map _, hpaired, hcold⟩
  | decode query l topK =>
      obtain ⟨hanswer, htogether⟩ := decode_together widths np sqrt e defaultTopK h query l topK
      refine .inr ⟨?_, htogether⟩
      have hsame := congrArg (Except.map fun out => Answer.decoded out.1 out.2) hanswer
      dsimp only [physicalEngine, mockEngine, engine]
      rw [hsame]
      exact Agree.refl SameClass.refl _

theorem step_full (op : Op α heads dim) :
    StaysPast (fun m' : Manager (MockSSDController α heads dim) α heads dim =>
        Full cfg mode m'.storage)
      fun m' => (mockEngine widths np sqrt policy e defaultTopK).step m' op := by
  intro m' hfull
  cases op with
  | tier op =>
      exact TieredKVManager.step_past (@PhysicalTensorAwareStorageAdapter.storageSimulation
        α heads dim cfg widths mode) op m' hfull
  | decode query l topK =>
      refine ⟨hfull.1, ?_⟩
      dsimp only [mockEngine, engine]
      rw [decode_nandWriteOps]
      exact hfull.2

omit [Field α] [LinearOrder α] in
theorem together_init (mode : FtlMode) :
    Together mode
      (TieredKVManager.init (PhysicalTensorAwareStorageAdapter.init mode) :
        Manager (PhysicalTensorAwareStorageAdapter cfg α heads dim) α heads dim)
      (TieredKVManager.init MockSSDController.init) where
  paired := ⟨rfl, PhysicalTensorAwareStorageAdapter.mirrors_init mode⟩
  cold := by
    refine ⟨KVBlockPool.linked_empty, fun id b hb => ?_⟩
    cases hb

/-- Every run of prefills, appends, fetches and decodes returns the same over both storages, and
ends with the same blocks and counters, unless more blocks were written than a conventional drive
has pages. -/
theorem physical_engine_like_mock (mode : FtlMode) (ops : List (Op α heads dim))
    (hroom : mode = .conventional →
      ((mockEngine widths np sqrt policy e defaultTopK).exec
        (TieredKVManager.init MockSSDController.init) ops).storage.telemetry.nandWriteOps ≤
          cfg.ftlGeometry.totalPages) :
    let physical := TieredKVManager.init (PhysicalTensorAwareStorageAdapter.init mode)
    let mock := TieredKVManager.init MockSSDController.init
    let m := (physicalEngine cfg widths np sqrt policy e defaultTopK).exec physical ops
    let m' := (mockEngine widths np sqrt policy e defaultTopK).exec mock ops
    List.Forall₂ (Agree SameClass)
        ((physicalEngine cfg widths np sqrt policy e defaultTopK).trace physical ops)
        ((mockEngine widths np sqrt policy e defaultTopK).trace mock ops) ∧
      m.blockPool = m'.blockPool ∧ m.storage.telemetry = m'.storage.telemetry.unstaged := by
  rcases Machine.simulates_run
    (fun op (_ : op ∈ ops) => step_simulates cfg widths np sqrt policy e defaultTopK op)
    (step_full cfg widths np sqrt policy e defaultTopK) (together_init cfg mode) with
    ⟨hmode, hover⟩ | ⟨htrace, htogether⟩
  · exact absurd (hroom hmode) (by omega)
  · exact ⟨htrace, htogether.paired.pool, htogether.paired.storage.counters⟩

/-- A decode over the physical adapter returns what the pruner returns over the mock controller,
after every run of the manager. -/
theorem physical_decode_like_pruner (mode : FtlMode)
    (ops : List (TieredKVManager.Op (Row α heads dim) (Row α heads dim)))
    (hroom : mode = .conventional →
      ((TieredKVManager.machine policy (MockSSDController.kvStorage widths)).exec
        (TieredKVManager.init MockSSDController.init) ops).storage.telemetry.nandWriteOps ≤
          cfg.ftlGeometry.totalPages) (query : Row α heads dim) (l : Nat) (topK : Option Nat) :
    (computeDecodeAttention (physicalStorage widths np sqrt) sqrt e defaultTopK
        ((physicalEngine cfg widths np sqrt policy e defaultTopK).exec
          (TieredKVManager.init (PhysicalTensorAwareStorageAdapter.init mode)) (ops.map .tier))
        query l topK).1 =
      (InStorageAttentionPruner.computeDecodeAttention widths np sqrt e defaultTopK
        ((TieredKVManager.machine policy (MockSSDController.kvStorage widths)).exec
          (TieredKVManager.init MockSSDController.init) ops) query l topK).1 := by
  have hrun := exec_tier (mockStorage sqrt widths np) sqrt policy e defaultTopK
    (TieredKVManager.init MockSSDController.init) ops
  rcases Machine.simulates_run
    (fun op (_ : op ∈ ops.map .tier) =>
      step_simulates cfg widths np sqrt policy e defaultTopK op)
    (step_full cfg widths np sqrt policy e defaultTopK) (together_init cfg mode) with
    ⟨hmode, hover⟩ | ⟨-, htogether⟩
  · rw [mockEngine, hrun] at hover
    exact absurd (hroom hmode) (Nat.not_le_of_gt hover)
  · have hdecode := (decode_together widths np sqrt e defaultTopK htogether query l topK).1
    rw [mockEngine, hrun, computeDecodeAttention_mock] at hdecode
    exact hdecode

/-- Three tokens of which two are offloaded, a decode, a fetch and another decode. -/
noncomputable def offloadRun : List (Op ℝ 1 1) :=
  [.tier threeTokens, .decode (oneByOne 0) 0 none, .tier (.fetch 0 0),
    .decode (oneByOne 0) 0 (some 1)]

/-- The run on a tensor-aware drive, and its blocks alone on a conventional one. -/
theorem physical_engine_like_mock_run :
    List.Forall₂ (Agree SameClass)
        ((physicalEngine StorageSimulator.oneDie ⟨4, 4⟩ IndexSort.stable Real.sqrt onePerBlock
          Exponential.real 2).trace
            (TieredKVManager.init (PhysicalTensorAwareStorageAdapter.init .tensorAware)) offloadRun)
        ((mockEngine ⟨4, 4⟩ IndexSort.stable Real.sqrt onePerBlock Exponential.real 2).trace
          (TieredKVManager.init MockSSDController.init) offloadRun) ∧
      List.Forall₂ (Agree SameClass)
        ((physicalEngine StorageSimulator.oneDie ⟨4, 4⟩ IndexSort.stable Real.sqrt onePerBlock
          Exponential.real 2).trace
            (TieredKVManager.init (PhysicalTensorAwareStorageAdapter.init .conventional))
            [.tier threeTokens, .tier (.fetch 0 0)])
        ((mockEngine ⟨4, 4⟩ IndexSort.stable Real.sqrt onePerBlock Exponential.real 2).trace
          (TieredKVManager.init MockSSDController.init) [.tier threeTokens, .tier (.fetch 0 0)]) :=
  ⟨(physical_engine_like_mock StorageSimulator.oneDie ⟨4, 4⟩ IndexSort.stable Real.sqrt onePerBlock
      Exponential.real 2 .tensorAware offloadRun fun h => by cases h).1,
    (physical_engine_like_mock StorageSimulator.oneDie ⟨4, 4⟩ IndexSort.stable Real.sqrt onePerBlock
      Exponential.real 2 .conventional [.tier threeTokens, .tier (.fetch 0 0)]
      fun _ => Nat.le_trans (Nat.le_of_eq (rfl : _ = 2)) (by decide)).1⟩

end OffloadEngine

end Engine

end AiSsd.Attention
