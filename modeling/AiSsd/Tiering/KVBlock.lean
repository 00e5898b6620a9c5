import AiSsd.Lib.Dict

/-!
# KV blocks, the block pool and the hot/cold policy

Blocks are shared objects in the source: the pool keeps them by id and every
layer lists the ids of its blocks, so a change to a block is seen through both.
-/

namespace AiSsd.Tiering

open Lib

universe u v

variable {α : Type u} {β : Type v}

/-- The two values `tier` takes, `HOT_RAM` and `COLD_SSD`. -/
inductive Tier where
  | hotRam
  | coldSsd
deriving Repr, DecidableEq

/-- `α` and `β` are one token's K and V rows. -/
structure KVBlock (α : Type u) (β : Type v) where
  blockId : Nat
  layerId : Nat
  tokenStart : Nat
  tokenCount : Nat
  isPinned : Bool
  isInRam : Bool
  tier : Tier
  kData : Option (List α)
  vData : Option (List β)
deriving Repr, DecidableEq

structure KVBlockPool (α : Type u) (β : Type v) where
  nextId : Nat
  blocks : Dict Nat (KVBlock α β)
  layerBlocks : Dict Nat (List Nat)

namespace KVBlockPool

def empty : KVBlockPool α β := ⟨0, Dict.empty, Dict.empty⟩

/-- The ids `_layer_blocks` lists for a layer, oldest first. -/
def layerIds (pool : KVBlockPool α β) (layerId : Nat) : List Nat :=
  (pool.layerBlocks.get? layerId).getD []

def getBlock (pool : KVBlockPool α β) (blockId : Nat) : Option (KVBlock α β) :=
  pool.blocks.get? blockId

def getLayerBlocks (pool : KVBlockPool α β) (layerId : Nat) : List (KVBlock α β) :=
  (pool.layerIds layerId).filterMap pool.getBlock

def allocateBlock (pool : KVBlockPool α β) (layerId tokenStart tokenCount : Nat)
    (kData : Option (List α)) (vData : Option (List β)) (isPinned : Bool) :
    KVBlock α β × KVBlockPool α β :=
  let block : KVBlock α β :=
    { blockId := pool.nextId
      layerId := layerId
      tokenStart := tokenStart
      tokenCount := tokenCount
      isPinned := isPinned
      isInRam := true
      tier := .hotRam
      kData := kData
      vData := vData }
  (block,
    { nextId := pool.nextId + 1
      blocks := pool.blocks.set pool.nextId block
      layerBlocks := pool.layerBlocks.set layerId (pool.layerIds layerId ++ [pool.nextId]) })

/-- An assignment to the fields of the shared block object. -/
def assign (pool : KVBlockPool α β) (block : KVBlock α β) : KVBlockPool α β :=
  { pool with blocks := pool.blocks.set block.blockId block }

@[simp] theorem layerIds_empty (l : Nat) : (empty : KVBlockPool α β).layerIds l = [] := rfl

@[simp] theorem getBlock_empty (id : Nat) : (empty : KVBlockPool α β).getBlock id = none := rfl

@[simp] theorem layerIds_assign (pool : KVBlockPool α β) (block : KVBlock α β) (l : Nat) :
    (pool.assign block).layerIds l = pool.layerIds l := rfl

@[simp] theorem nextId_assign (pool : KVBlockPool α β) (block : KVBlock α β) :
    (pool.assign block).nextId = pool.nextId := rfl

theorem getBlock_assign (pool : KVBlockPool α β) (block : KVBlock α β) (id : Nat) :
    (pool.assign block).getBlock id =
      if block.blockId = id then some block else pool.getBlock id :=
  Dict.get?_set pool.blocks block.blockId block id

section Allocate

variable (pool : KVBlockPool α β) (layerId tokenStart tokenCount : Nat)
  (kData : Option (List α)) (vData : Option (List β)) (isPinned : Bool)

theorem layerIds_allocate (l : Nat) :
    (pool.allocateBlock layerId tokenStart tokenCount kData vData isPinned).2.layerIds l =
      if layerId = l then pool.layerIds l ++ [pool.nextId] else pool.layerIds l := by
  simp only [allocateBlock, layerIds, Dict.get?_set]
  by_cases h : layerId = l
  · subst h
    simp
  · simp [h]

theorem getBlock_allocate (id : Nat) :
    (pool.allocateBlock layerId tokenStart tokenCount kData vData isPinned).2.getBlock id =
      if pool.nextId = id then
        some (pool.allocateBlock layerId tokenStart tokenCount kData vData isPinned).1
      else pool.getBlock id :=
  Dict.get?_set pool.blocks pool.nextId _ id

@[simp] theorem nextId_allocate :
    (pool.allocateBlock layerId tokenStart tokenCount kData vData isPinned).2.nextId =
      pool.nextId + 1 := rfl

@[simp] theorem layerId_allocate :
    (pool.allocateBlock layerId tokenStart tokenCount kData vData isPinned).1.layerId =
      layerId := rfl

end Allocate

/-! ## Ids and layers -/

/-- Every listed id has its block, every block is listed once, by its own layer. -/
structure Linked (pool : KVBlockPool α β) : Prop where
  fresh : ∀ l id, id ∈ pool.layerIds l → id < pool.nextId
  nodup : ∀ l, (pool.layerIds l).Nodup
  home : ∀ l id, id ∈ pool.layerIds l →
    ∃ b, pool.getBlock id = some b ∧ b.layerId = l ∧ b.blockId = id
  known : ∀ id b, pool.getBlock id = some b → id ∈ pool.layerIds b.layerId

theorem linked_empty : (empty : KVBlockPool α β).Linked where
  fresh := by simp
  nodup := by simp
  home := by simp
  known := by simp

namespace Linked

variable {pool : KVBlockPool α β}

theorem blockId_eq (h : pool.Linked) {id : Nat} {b : KVBlock α β}
    (hb : pool.getBlock id = some b) : b.blockId = id := by
  obtain ⟨b', hb', _, hid⟩ := h.home _ id (h.known id b hb)
  rw [hb] at hb'
  cases hb'
  exact hid

theorem layerId_eq (h : pool.Linked) {l id : Nat} {b : KVBlock α β}
    (hid : id ∈ pool.layerIds l) (hb : pool.getBlock id = some b) : b.layerId = l := by
  obtain ⟨b', hb', hl, _⟩ := h.home l id hid
  rw [hb] at hb'
  cases hb'
  exact hl

theorem position_unique (h : pool.Linked) {l l' i j id : Nat}
    (hi : (pool.layerIds l)[i]? = some id) (hj : (pool.layerIds l')[j]? = some id) :
    l = l' ∧ i = j := by
  obtain ⟨b, hb, hbl, _⟩ := h.home l id (List.mem_of_getElem? hi)
  have hl : l = l' := hbl.symm.trans (h.layerId_eq (List.mem_of_getElem? hj) hb)
  subst hl
  obtain ⟨hilt, hieq⟩ := List.getElem?_eq_some_iff.mp hi
  obtain ⟨hjlt, hjeq⟩ := List.getElem?_eq_some_iff.mp hj
  exact ⟨rfl, (List.Nodup.getElem_inj_iff (h.nodup l)).mp (hieq.trans hjeq.symm)⟩

theorem ne_nextId (h : pool.Linked) {l id : Nat} (hid : id ∈ pool.layerIds l) :
    pool.nextId ≠ id :=
  Nat.ne_of_gt (h.fresh l id hid)

theorem map_blockId_getLayerBlocks (h : pool.Linked) (l : Nat) :
    (pool.getLayerBlocks l).map KVBlock.blockId = pool.layerIds l := by
  unfold getLayerBlocks
  have hmem := h.home l
  generalize pool.layerIds l = ids at hmem ⊢
  induction ids with
  | nil => rfl
  | cons id ids ih =>
      obtain ⟨b, hb, _, hbid⟩ := hmem id List.mem_cons_self
      rw [List.filterMap_cons_some hb, List.map_cons, hbid,
        ih fun id' hid' => hmem id' (List.mem_cons_of_mem id hid')]

/-- The block at a position of the list and the id at that position name each other. -/
theorem getLayerBlocks_getElem?_iff (h : pool.Linked) {l i : Nat} {b : KVBlock α β} :
    (pool.getLayerBlocks l)[i]? = some b ↔
      (pool.layerIds l)[i]? = some b.blockId ∧ pool.getBlock b.blockId = some b := by
  have hcell : ∀ b', (pool.getLayerBlocks l)[i]? = some b' →
      (pool.layerIds l)[i]? = some b'.blockId ∧ pool.getBlock b'.blockId = some b' := by
    intro b' hb'
    have hpos : (pool.layerIds l)[i]? = some b'.blockId := by
      rw [← h.map_blockId_getLayerBlocks l, List.getElem?_map, hb']
      rfl
    obtain ⟨id, _, hid⟩ := List.mem_filterMap.mp (List.mem_of_getElem? hb')
    have hbid : b'.blockId = id := h.blockId_eq hid
    exact ⟨hpos, hbid ▸ hid⟩
  constructor
  · exact hcell b
  · rintro ⟨hpos, hget⟩
    cases hb' : (pool.getLayerBlocks l)[i]? with
    | none =>
        rw [← h.map_blockId_getLayerBlocks l, List.getElem?_map, hb'] at hpos
        cases hpos
    | some b' =>
        obtain ⟨hpos', hget'⟩ := hcell b' hb'
        rw [hpos, Option.some.injEq] at hpos'
        rw [← hpos', hget] at hget'
        exact hget'.symm

theorem allocate (h : pool.Linked) (layerId tokenStart tokenCount : Nat)
    (kData : Option (List α)) (vData : Option (List β)) (isPinned : Bool) :
    (pool.allocateBlock layerId tokenStart tokenCount kData vData isPinned).2.Linked := by
  refine ⟨?_, ?_, ?_, ?_⟩
  · intro l id hid
    rw [layerIds_allocate] at hid
    rw [nextId_allocate]
    split at hid
    · rw [List.mem_append, List.mem_singleton] at hid
      rcases hid with hid | hid
      · exact Nat.lt_succ_of_lt (h.fresh l id hid)
      · omega
    · exact Nat.lt_succ_of_lt (h.fresh l id hid)
  · intro l
    rw [layerIds_allocate]
    split
    · exact List.Nodup.append (h.nodup l) (List.nodup_singleton _)
        (List.disjoint_singleton.mpr fun hmem => h.ne_nextId hmem rfl)
    · exact h.nodup l
  · intro l id hid
    rw [layerIds_allocate] at hid
    rw [getBlock_allocate]
    split at hid
    · rename_i hl
      rw [List.mem_append, List.mem_singleton] at hid
      rcases hid with hid | rfl
      · rw [if_neg (h.ne_nextId hid)]
        exact h.home l id hid
      · exact ⟨_, if_pos rfl, hl, rfl⟩
    · rw [if_neg (h.ne_nextId hid)]
      exact h.home l id hid
  · intro id b hb
    rw [getBlock_allocate] at hb
    rw [layerIds_allocate]
    split at hb
    · rename_i hid
      cases hb
      rw [layerId_allocate, if_pos rfl]
      exact List.mem_append_right _ (List.mem_singleton.mpr hid.symm)
    · have hmem := h.known id b hb
      split
      · rename_i hl
        exact List.mem_append_left _ (hl ▸ hmem)
      · exact hmem

theorem assign (h : pool.Linked) {b b' : KVBlock α β} (hb : pool.getBlock b.blockId = some b)
    (hid : b'.blockId = b.blockId) (hl : b'.layerId = b.layerId) : (pool.assign b').Linked where
  fresh := h.fresh
  nodup := h.nodup
  home := by
    intro l id hmem
    rw [getBlock_assign]
    by_cases hk : b'.blockId = id
    · have hbl : b.layerId = l := by
        rw [← hk, hid] at hmem
        exact h.layerId_eq hmem hb
      exact ⟨b', if_pos hk, hl.trans hbl, hk⟩
    · rw [if_neg hk]
      exact h.home l id hmem
  known := by
    intro id c hc
    rw [getBlock_assign] at hc
    rw [layerIds_assign]
    split at hc
    · rename_i hk
      cases hc
      have hmem := h.known _ b hb
      rw [← hid, hk, ← hl] at hmem
      exact hmem
    · exact h.known id c hc

end Linked

/-! ## The ids of a run of allocations -/

/-- Arguments of `allocate_block`. -/
structure Request (α : Type u) (β : Type v) where
  layerId : Nat
  tokenStart : Nat
  tokenCount : Nat
  kData : Option (List α)
  vData : Option (List β)
  isPinned : Bool

def issuedIds : KVBlockPool α β → List (Request α β) → List Nat
  | _, [] => []
  | pool, r :: requests =>
      let allocated :=
        pool.allocateBlock r.layerId r.tokenStart r.tokenCount r.kData r.vData r.isPinned
      allocated.1.blockId :: issuedIds allocated.2 requests

theorem issuedIds_eq (pool : KVBlockPool α β) (requests : List (Request α β)) :
    issuedIds pool requests = List.range' pool.nextId requests.length := by
  induction requests generalizing pool with
  | nil => rfl
  | cons r requests ih =>
      rw [issuedIds, ih, nextId_allocate, List.length_cons, List.range'_succ]
      rfl

theorem mem_issuedIds {requests : List (Request α β)} {id : Nat} :
    id ∈ issuedIds empty requests ↔ id < requests.length := by
  rw [issuedIds_eq, List.mem_range'_1]
  simp [empty]

end KVBlockPool

/-! ## Hot and cold -/

/-- `sink_tokens` is any integer. The window and the block size are positive. -/
structure TieringPolicy where
  sinkTokens : Int
  slidingWindowTokens : Nat
  tokensPerBlock : Nat
  window_pos : 0 < slidingWindowTokens
  block_pos : 0 < tokensPerBlock

namespace HotColdClassifier

def isHot (policy : TieringPolicy) (block : KVBlock α β) (totalTokens : Nat) : Bool :=
  if (block.tokenStart : Int) < policy.sinkTokens then true
  else
    let windowStart := totalTokens - policy.slidingWindowTokens
    let tokenEnd := block.tokenStart + block.tokenCount
    if tokenEnd > windowStart then true else false

theorem isHot_eq_false_iff (policy : TieringPolicy) (block : KVBlock α β) (totalTokens : Nat) :
    isHot policy block totalTokens = false ↔
      policy.sinkTokens ≤ block.tokenStart ∧
        block.tokenStart + block.tokenCount ≤ totalTokens - policy.slidingWindowTokens := by
  unfold isHot
  by_cases hsink : (block.tokenStart : Int) < policy.sinkTokens
  · simp only [hsink, if_true, Bool.true_eq_false, false_iff, not_and]
    omega
  · by_cases hend : block.tokenStart + block.tokenCount > totalTokens - policy.slidingWindowTokens
    · simp only [hsink, hend, if_true, if_false, Bool.true_eq_false, false_iff, not_and]
      omega
    · simp only [hsink, hend, if_false, true_iff]
      omega

/-- The window only moves forward: a cold block stays cold while the layer grows. -/
theorem isHot_eq_false_mono {policy : TieringPolicy} {block : KVBlock α β} {t t' : Nat}
    (hle : t ≤ t') (h : isHot policy block t = false) : isHot policy block t' = false := by
  rw [isHot_eq_false_iff] at h ⊢
  omega

theorem isHot_congr {policy : TieringPolicy} {a b : KVBlock α β} (t : Nat)
    (hstart : a.tokenStart = b.tokenStart) (hcount : a.tokenCount = b.tokenCount) :
    isHot policy a t = isHot policy b t := by
  simp only [isHot, hstart, hcount]

end HotColdClassifier

end AiSsd.Tiering
