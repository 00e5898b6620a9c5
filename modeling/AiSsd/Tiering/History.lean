import AiSsd.Tiering.Manager
import Mathlib.Logic.Function.Basic

/-!
# The manager keeps the whole history

A manager represents a history when the blocks of every layer are the chunks of
that layer's tokens, in order, each with its rows in its own arrays or in storage.
Allocating a block, growing the last one, offloading a cold one and fetching one
each preserve this; prefill, append and fetch are made of these four.
-/

namespace AiSsd.Tiering

open Lib

universe u v w

variable {σ : Type w} {α : Type u} {β : Type v}

def keyRows (xs : List (α × β)) : List α := xs.map Prod.fst

def valueRows (xs : List (α × β)) : List β := xs.map Prod.snd

/-- `b` is the block of chunk `i` of `xs`. A block outside RAM is stored and cold. -/
structure Placed (policy : TieringPolicy) (view : Nat → Option (List α × List β))
    (xs : List (α × β)) (i : Nat) (b : KVBlock α β) : Prop where
  start_eq : b.tokenStart = i * policy.tokensPerBlock
  count_eq : b.tokenCount = (chunk policy.tokensPerBlock xs i).length
  pinned : b.isPinned = true → (b.tokenStart : Int) < policy.sinkTokens
  ram : b.isInRam = true →
    b.kData = some (keyRows (chunk policy.tokensPerBlock xs i)) ∧
      b.vData = some (valueRows (chunk policy.tokensPerBlock xs i))
  cold : b.isInRam = false →
    view b.blockId = some (keyRows (chunk policy.tokensPerBlock xs i),
        valueRows (chunk policy.tokensPerBlock xs i)) ∧
      HotColdClassifier.isHot policy b xs.length = false

/-- The tokens of a block of `xs`, found by where it starts. -/
def rowsOf (policy : TieringPolicy) (xs : List (α × β)) (b : KVBlock α β) : List (α × β) :=
  chunk policy.tokensPerBlock xs (b.tokenStart / policy.tokensPerBlock)

namespace Placed

variable {policy : TieringPolicy} {view : Nat → Option (List α × List β)} {xs : List (α × β)}
  {i : Nat} {b : KVBlock α β}

theorem index_eq (h : Placed policy view xs i b) :
    b.tokenStart / policy.tokensPerBlock = i := by
  rw [h.start_eq, Nat.mul_div_cancel _ policy.block_pos]

theorem rowsOf_eq (h : Placed policy view xs i b) :
    rowsOf policy xs b = chunk policy.tokensPerBlock xs i := by
  rw [rowsOf, h.index_eq]

theorem full_of_cold (h : Placed policy view xs i b) (hlt : i * policy.tokensPerBlock < xs.length)
    (hcold : HotColdClassifier.isHot policy b xs.length = false) :
    (i + 1) * policy.tokensPerBlock ≤ xs.length := by
  have hend := ((HotColdClassifier.isHot_eq_false_iff policy b xs.length).mp hcold).2
  have hw := policy.window_pos
  rw [h.start_eq, h.count_eq, length_chunk] at hend
  rw [Nat.add_mul, Nat.one_mul]
  omega

theorem append (h : Placed policy view xs i b) (ys : List (α × β))
    (hfull : (i + 1) * policy.tokensPerBlock ≤ xs.length) : Placed policy view (xs ++ ys) i b where
  start_eq := h.start_eq
  count_eq := by rw [chunk_append_of_full ys hfull, h.count_eq]
  pinned := h.pinned
  ram := by
    rw [chunk_append_of_full ys hfull]
    exact h.ram
  cold := by
    intro hram
    rw [chunk_append_of_full ys hfull]
    obtain ⟨hview, hhot⟩ := h.cold hram
    exact ⟨hview, HotColdClassifier.isHot_eq_false_mono (by simp) hhot⟩

theorem of_view (h : Placed policy view xs i b) {view' : Nat → Option (List α × List β)}
    (hview : ∀ kv, view b.blockId = some kv → view' b.blockId = some kv) :
    Placed policy view' xs i b where
  start_eq := h.start_eq
  count_eq := h.count_eq
  pinned := h.pinned
  ram := h.ram
  cold := fun hram => ⟨hview _ (h.cold hram).1, (h.cold hram).2⟩

end Placed

namespace TieredKVManager

variable (policy : TieringPolicy) {S : KVStorage σ α β} (R : S.ReturnsStored)
  (before : Nat → Nat → Option (List α × List β))

/-- The blocks of every layer are the chunks of its history. What storage holds
are the rows of full blocks, and what it held `before`. -/
structure Represents (m : TieredKVManager σ α β) (hist : Nat → List (α × β)) : Prop where
  linked : m.blockPool.Linked
  count : ∀ l, (m.blockPool.layerIds l).length =
    numChunks policy.tokensPerBlock (hist l).length
  placed : ∀ l i id b, (m.blockPool.layerIds l)[i]? = some id →
    m.blockPool.getBlock id = some b → Placed policy (R.view m.storage l) (hist l) i b
  stored : ∀ l id kv, R.view m.storage l id = some kv → before l id = some kv ∨ ∃ i,
    (m.blockPool.layerIds l)[i]? = some id ∧ (i + 1) * policy.tokensPerBlock ≤ (hist l).length ∧
      kv = (keyRows (chunk policy.tokensPerBlock (hist l) i),
        valueRows (chunk policy.tokensPerBlock (hist l) i))

variable {policy} {R} {before} {m : TieredKVManager σ α β} {hist : Nat → List (α × β)}

theorem represents_init (storage : σ) :
    Represents policy R (R.view storage) (init storage : TieredKVManager σ α β) (fun _ => []) where
  linked := KVBlockPool.linked_empty
  count := by
    intro l
    simp [init, numChunks_zero policy.block_pos]
  placed := by simp [init]
  stored := fun _ _ _ h => .inl h

namespace Represents

/-! ## Blocks and positions -/

theorem chunk_start_lt (h : Represents policy R before m hist) {l i id : Nat}
    (hid : (m.blockPool.layerIds l)[i]? = some id) :
    i * policy.tokensPerBlock < (hist l).length := by
  have hlt : i < (m.blockPool.layerIds l).length := (List.getElem?_eq_some_iff.mp hid).choose
  rw [h.count l] at hlt
  exact (lt_numChunks_iff policy.block_pos _ _).mp hlt

theorem length_getLayerBlocks (h : Represents policy R before m hist) (l : Nat) :
    (m.blockPool.getLayerBlocks l).length = numChunks policy.tokensPerBlock (hist l).length := by
  rw [← h.count l, ← h.linked.map_blockId_getLayerBlocks l, List.length_map]

theorem placed_getElem? (h : Represents policy R before m hist) {l i : Nat} {b : KVBlock α β}
    (hb : (m.blockPool.getLayerBlocks l)[i]? = some b) :
    Placed policy (R.view m.storage l) (hist l) i b := by
  obtain ⟨hid, hget⟩ := h.linked.getLayerBlocks_getElem?_iff.mp hb
  exact h.placed l i b.blockId b hid hget

theorem placed_mem (h : Represents policy R before m hist) {l : Nat} {b : KVBlock α β}
    (hb : b ∈ m.blockPool.getLayerBlocks l) :
    Placed policy (R.view m.storage l) (hist l) (b.tokenStart / policy.tokensPerBlock) b := by
  obtain ⟨i, hi⟩ := List.mem_iff_getElem?.mp hb
  have hp := h.placed_getElem? hi
  rwa [hp.index_eq]

theorem mem_getLayerBlocks (h : Represents policy R before m hist) {id : Nat} {b : KVBlock α β}
    (hget : m.blockPool.getBlock id = some b) : b ∈ m.blockPool.getLayerBlocks b.layerId :=
  List.mem_filterMap.mpr ⟨id, h.linked.known id b hget, hget⟩

theorem rows_of_view (h : Represents policy R (fun _ _ => none) m hist) {l id : Nat}
    {kv : List α × List β} (hview : R.view m.storage l id = some kv) :
    ∃ i, (m.blockPool.layerIds l)[i]? = some id ∧
      (i + 1) * policy.tokensPerBlock ≤ (hist l).length ∧
        kv = (keyRows (chunk policy.tokensPerBlock (hist l) i),
          valueRows (chunk policy.tokensPerBlock (hist l) i)) :=
  (h.stored l id kv hview).resolve_left (Option.some_ne_none kv).symm

theorem map_rowsOf (h : Represents policy R before m hist) (l : Nat) :
    (m.blockPool.getLayerBlocks l).map (rowsOf policy (hist l)) =
      chunks policy.tokensPerBlock (hist l) := by
  apply List.ext_getElem?
  intro i
  rw [List.getElem?_map]
  cases hb : (m.blockPool.getLayerBlocks l)[i]? with
  | none =>
      have hlen := List.getElem?_eq_none_iff.mp hb
      rw [h.length_getLayerBlocks l] at hlen
      rw [List.getElem?_eq_none (by rwa [length_chunks])]
      rfl
  | some b =>
      have hlt := (List.getElem?_eq_some_iff.mp hb).choose
      rw [h.length_getLayerBlocks l] at hlt
      rw [chunks, List.getElem?_map, List.getElem?_range hlt]
      exact congrArg some (h.placed_getElem? hb).rowsOf_eq

end Represents

/-- Tokens that follow change no full block, of whatever layer. -/
theorem full_update (hist : Nat → List (α × β)) (l : Nat) (ys : List (α × β)) {l' j n : Nat}
    (hfull : (j + 1) * n ≤ (hist l').length) :
    (j + 1) * n ≤ (Function.update hist l (hist l ++ ys) l').length ∧
      chunk n (Function.update hist l (hist l ++ ys) l') j = chunk n (hist l') j := by
  by_cases hl : l = l'
  · subst hl
    rw [Function.update_self, chunk_append_of_full ys hfull, List.length_append]
    exact ⟨by omega, rfl⟩
  · rw [Function.update_of_ne (Ne.symm hl)]
    exact ⟨hfull, rfl⟩

/-! ## The four changes -/

/-- A new block with the tokens that follow a full last block. -/
theorem represents_allocate (h : Represents policy R before m hist) {l i : Nat} {ys : List (α × β)}
    (isPinned : Bool) (hlen : (hist l).length = i * policy.tokensPerBlock) (hne : ys ≠ [])
    (hle : ys.length ≤ policy.tokensPerBlock)
    (hpin : isPinned = true → ((i * policy.tokensPerBlock : Nat) : Int) < policy.sinkTokens) :
    Represents policy R before
      { m with
        blockPool := (m.blockPool.allocateBlock l (i * policy.tokensPerBlock) ys.length
          (some (keyRows ys)) (some (valueRows ys)) isPinned).2 }
      (Function.update hist l (hist l ++ ys)) := by
  have hpos : 0 < ys.length := List.length_pos_iff.mpr hne
  have hids : (m.blockPool.layerIds l).length = i := by
    rw [h.count l, hlen, numChunks_mul policy.block_pos]
  refine ⟨h.linked.allocate _ _ _ _ _ _, ?_, ?_, ?_⟩
  · intro l'
    rw [KVBlockPool.layerIds_allocate]
    by_cases hl : l = l'
    · subst hl
      rw [if_pos rfl, Function.update_self, List.length_append, List.length_append, hids, hlen,
        numChunks_succ_of_dvd policy.block_pos i hpos hle]
      rfl
    · rw [if_neg hl, Function.update_of_ne (Ne.symm hl)]
      exact h.count l'
  · intro l' j id b hid hb
    rw [KVBlockPool.layerIds_allocate] at hid
    rw [KVBlockPool.getBlock_allocate] at hb
    by_cases hl : l = l'
    · subst hl
      rw [if_pos rfl] at hid
      rw [Function.update_self]
      by_cases hj : j < (m.blockPool.layerIds l).length
      · rw [List.getElem?_append_left hj] at hid
        rw [if_neg (h.linked.ne_nextId (List.mem_of_getElem? hid))] at hb
        refine (h.placed l j id b hid hb).append ys ?_
        rw [hlen]
        exact Nat.mul_le_mul_right _ (by omega)
      · -- the position past the old ids is the new block's
        have hji : j = i := by
          have := (List.getElem?_eq_some_iff.mp hid).choose
          rw [List.length_append, List.length_singleton] at this
          omega
        subst hji
        rw [List.getElem?_append_right (by omega), hids, Nat.sub_self] at hid
        have hidn : m.blockPool.nextId = id := by simpa using hid
        rw [if_pos hidn, Option.some.injEq] at hb
        subst hb
        have hc := chunk_append_next ys hlen hle
        exact
          { start_eq := rfl
            count_eq := by rw [hc]; rfl
            pinned := hpin
            ram := fun _ => by rw [hc]; exact ⟨rfl, rfl⟩
            cold := fun hram => absurd hram (by simp [KVBlockPool.allocateBlock]) }
    · rw [if_neg hl] at hid
      rw [if_neg (h.linked.ne_nextId (List.mem_of_getElem? hid))] at hb
      rw [Function.update_of_ne (Ne.symm hl)]
      exact h.placed l' j id b hid hb
  · intro l' id kv hview
    refine (h.stored l' id kv hview).imp_right ?_
    rintro ⟨j, hid, hfull, hkv⟩
    obtain ⟨hfull', hchunk⟩ := full_update hist l ys hfull
    refine ⟨j, ?_, hfull', by rw [hchunk]; exact hkv⟩
    rw [KVBlockPool.layerIds_allocate]
    split
    · rename_i hl
      subst hl
      have hj := (List.getElem?_eq_some_iff.mp hid).choose
      rw [List.getElem?_append_left hj]
      exact hid
    · exact hid

/-- New fields for one block, while storage keeps what it has and the other blocks
see none of the new tokens `ys`. -/
theorem represents_assign (h : Represents policy R before m hist) {l i : Nat} {b b' : KVBlock α β}
    {ys : List (α × β)} {storage : σ}
    (hb : (m.blockPool.getLayerBlocks l)[i]? = some b)
    (hid : b'.blockId = b.blockId) (hl : b'.layerId = b.layerId)
    (hcount : numChunks policy.tokensPerBlock (hist l ++ ys).length =
      numChunks policy.tokensPerBlock (hist l).length)
    (hothers : ys = [] ∨ (hist l).length ≤ (i + 1) * policy.tokensPerBlock)
    (hplaced : Placed policy (R.view storage l) (hist l ++ ys) i b')
    (hkeep : ∀ l' id kv, id ≠ b.blockId → R.view m.storage l' id = some kv →
      R.view storage l' id = some kv)
    (hnew : ∀ l' id kv, R.view storage l' id = some kv → R.view m.storage l' id = some kv ∨
      l' = l ∧ id = b.blockId ∧ (i + 1) * policy.tokensPerBlock ≤ (hist l).length ∧
        kv = (keyRows (chunk policy.tokensPerBlock (hist l) i),
          valueRows (chunk policy.tokensPerBlock (hist l) i))) :
    Represents policy R before { storage := storage, blockPool := m.blockPool.assign b' }
      (Function.update hist l (hist l ++ ys)) := by
  obtain ⟨hpos, hget⟩ := h.linked.getLayerBlocks_getElem?_iff.mp hb
  refine ⟨h.linked.assign hget hid hl, ?_, ?_, ?_⟩
  · intro l'
    rw [KVBlockPool.layerIds_assign]
    by_cases hll : l = l'
    · subst hll
      rw [Function.update_self, hcount]
      exact h.count l
    · rw [Function.update_of_ne (Ne.symm hll)]
      exact h.count l'
  · intro l' j id c hj hc
    rw [KVBlockPool.layerIds_assign] at hj
    rw [KVBlockPool.getBlock_assign, hid] at hc
    by_cases hk : b.blockId = id
    · subst hk
      rw [if_pos rfl, Option.some.injEq] at hc
      subst hc
      obtain ⟨rfl, rfl⟩ := h.linked.position_unique hpos hj
      rw [Function.update_self]
      exact hplaced
    · rw [if_neg hk] at hc
      have hcid := h.linked.blockId_eq hc
      have hold := (h.placed l' j id c hj hc).of_view fun kv =>
        hkeep l' c.blockId kv (hcid ▸ Ne.symm hk)
      by_cases hll : l = l'
      · subst hll
        rw [Function.update_self]
        rcases hothers with rfl | hbound
        · rwa [List.append_nil]
        · -- another block of the layer lies before position `i`, so it is full
          have hji : j ≠ i := by
            rintro rfl
            rw [hpos, Option.some.injEq] at hj
            exact hk hj
          have hjlt := Nat.lt_of_lt_of_le (h.chunk_start_lt hj) hbound
          have hlt : j < i := by
            have := Nat.lt_of_mul_lt_mul_right hjlt
            omega
          have hle : (j + 1) * policy.tokensPerBlock ≤ i * policy.tokensPerBlock :=
            Nat.mul_le_mul_right _ hlt
          exact hold.append ys (Nat.le_trans hle (Nat.le_of_lt (h.chunk_start_lt hpos)))
      · rw [Function.update_of_ne (Ne.symm hll)]
        exact hold
  · intro l' id kv hview
    rw [KVBlockPool.layerIds_assign]
    rcases hnew l' id kv hview with hold | ⟨rfl, rfl, hfull, hkv⟩
    · refine (h.stored l' id kv hold).imp_right ?_
      rintro ⟨j, hj, hfull, hkv⟩
      obtain ⟨hfull', hchunk⟩ := full_update hist l ys hfull
      exact ⟨j, hj, hfull', by rw [hchunk]; exact hkv⟩
    · obtain ⟨hfull', hchunk⟩ := full_update hist l' ys hfull
      exact .inr ⟨i, hpos, hfull', by rw [hchunk]; exact hkv⟩

theorem represents_assign_same (h : Represents policy R before m hist) {l i : Nat} {b b' : KVBlock α β}
    {storage : σ} (hb : (m.blockPool.getLayerBlocks l)[i]? = some b)
    (hid : b'.blockId = b.blockId) (hl : b'.layerId = b.layerId)
    (hplaced : Placed policy (R.view storage l) (hist l) i b')
    (hkeep : ∀ l' id kv, id ≠ b.blockId → R.view m.storage l' id = some kv →
      R.view storage l' id = some kv)
    (hnew : ∀ l' id kv, R.view storage l' id = some kv → R.view m.storage l' id = some kv ∨
      l' = l ∧ id = b.blockId ∧ (i + 1) * policy.tokensPerBlock ≤ (hist l).length ∧
        kv = (keyRows (chunk policy.tokensPerBlock (hist l) i),
          valueRows (chunk policy.tokensPerBlock (hist l) i))) :
    Represents policy R before { storage := storage, blockPool := m.blockPool.assign b' } hist := by
  have hplaced' : Placed policy (R.view storage l) (hist l ++ []) i b' := by
    rwa [List.append_nil]
  have hrep := represents_assign h hb hid hl (by rw [List.append_nil]) (.inl rfl) hplaced'
    hkeep hnew
  rwa [List.append_nil, Function.update_eq_self] at hrep

theorem represents_grow (h : Represents policy R before m hist) {l : Nat} {b : KVBlock α β}
    (hlast : (m.blockPool.getLayerBlocks l).getLast? = some b)
    (hroom : b.tokenCount < policy.tokensPerBlock) (k : α) (v : β) :
    Represents policy R before { m with blockPool := m.blockPool.assign (grown b k v) }
      (Function.update hist l (hist l ++ [(k, v)])) := by
  rw [List.getLast?_eq_getElem?] at hlast
  generalize (m.blockPool.getLayerBlocks l).length - 1 = i at hlast
  have hp := h.placed_getElem? hlast
  have hlt := h.chunk_start_lt (h.linked.getLayerBlocks_getElem?_iff.mp hlast).1
  have hshort : (hist l).length < i * policy.tokensPerBlock + policy.tokensPerBlock := by
    have := hp.count_eq
    rw [length_chunk] at this
    omega
  -- a block outside RAM would be full
  have hram : b.isInRam = true := by
    cases hr : b.isInRam with
    | true => rfl
    | false =>
        have hfull := hp.full_of_cold hlt (hp.cold hr).2
        rw [Nat.add_mul, Nat.one_mul] at hfull
        omega
  obtain ⟨hk, hv⟩ := hp.ram hram
  have hgrown : grown b k v =
      { b with
        kData := some (keyRows (chunk policy.tokensPerBlock (hist l) i) ++ [k])
        vData := some (valueRows (chunk policy.tokensPerBlock (hist l) i) ++ [v])
        tokenCount := b.tokenCount + 1 } := by
    simp only [grown, hk, hv]
  have hchunk := chunk_concat_last (n := policy.tokensPerBlock) (k, v) (Nat.le_of_lt hlt) hshort
  rw [hgrown]
  refine represents_assign h hlast rfl rfl ?_ (.inr ?_) ?_ (fun _ _ _ _ hs => hs)
    (fun _ _ _ hs => .inl hs)
  · obtain ⟨extra, hextra⟩ := Nat.exists_eq_add_of_lt hlt
    have hsucc : (hist l ++ [(k, v)]).length =
        i * policy.tokensPerBlock + (extra + 1 + 1) := by
      rw [List.length_append, hextra, List.length_singleton]
      omega
    rw [hsucc, numChunks_succ_of_dvd policy.block_pos i (by omega) (by omega), hextra,
      Nat.add_assoc, numChunks_succ_of_dvd policy.block_pos i (by omega) (by omega)]
  · rw [Nat.add_mul, Nat.one_mul]
    exact Nat.le_of_lt hshort
  · exact
      { start_eq := hp.start_eq
        count_eq := by
          rw [hchunk, List.length_append, List.length_singleton, ← hp.count_eq]
        pinned := hp.pinned
        ram := by
          intro _
          rw [hchunk]
          simp [keyRows, valueRows]
        cold := fun hcold => absurd hcold (by simp [hram]) }

/-- A cold block leaves RAM once its rows are stored. -/
theorem represents_offload (h : Represents policy R before m hist) {l i : Nat} {b : KVBlock α β}
    (hb : (m.blockPool.getLayerBlocks l)[i]? = some b) (hram : b.isInRam = true)
    (hcold : HotColdClassifier.isHot policy b (hist l).length = false) :
    (offload S m l b).1 = .ok () ∧ Represents policy R before (offload S m l b).2 hist := by
  obtain ⟨hpos, _⟩ := h.linked.getLayerBlocks_getElem?_iff.mp hb
  have hp := h.placed_getElem? hb
  have hfull := hp.full_of_cold (h.chunk_start_lt hpos) hcold
  obtain ⟨hk, hv⟩ := hp.ram hram
  have hok := R.store_ok m.storage b.blockId l
    (keyRows (chunk policy.tokensPerBlock (hist l) i))
    (valueRows (chunk policy.tokensPerBlock (hist l) i))
  have hview := R.view_store m.storage b.blockId l
    (keyRows (chunk policy.tokensPerBlock (hist l) i))
    (valueRows (chunk policy.tokensPerBlock (hist l) i))
  rw [← hk, ← hv] at hok hview
  unfold offload
  revert hok hview
  rcases S.storeKv m.storage b.blockId l b.kData b.vData with ⟨_ | _, storage⟩
  · intro hok _
    cases hok
  · intro _ hview
    dsimp only at hview
    refine ⟨rfl, represents_assign_same h hb rfl rfl ?_ ?_ ?_⟩
    · exact
        { start_eq := hp.start_eq
          count_eq := hp.count_eq
          pinned := hp.pinned
          ram := fun hr => by cases hr
          cold := by
            intro _
            refine ⟨?_, (HotColdClassifier.isHot_congr _ rfl rfl).trans hcold⟩
            exact (hview l b.blockId).trans (if_pos ⟨rfl, rfl⟩) }
    · intro l' id kv hne hold
      rw [hview, if_neg fun hc => hne hc.2.symm]
      exact hold
    · intro l' id kv hnew
      rw [hview] at hnew
      by_cases hc : l = l' ∧ b.blockId = id
      · rw [if_pos hc, Option.some.injEq] at hnew
        exact .inr ⟨hc.1.symm, hc.2.symm, hfull, hnew.symm⟩
      · rw [if_neg hc] at hnew
        exact .inl hnew

theorem represents_of_view (h : Represents policy R before m hist) {storage : σ}
    (hview : ∀ l id, R.view storage l id = R.view m.storage l id) :
    Represents policy R before { m with storage := storage } hist where
  linked := h.linked
  count := h.count
  placed := fun l i id b hid hb =>
    (h.placed l i id b hid hb).of_view fun _ hs => (hview l b.blockId).trans hs
  stored := fun l id kv hs => h.stored l id kv ((hview l id).symm.trans hs)

theorem represents_fetch (h : Represents policy R before m hist) {blockId layerId : Nat}
    (hown : FetchesOwn S m (.fetch blockId layerId)) :
    Represents policy R before (fetchColdBlock S m blockId layerId).2 hist := by
  unfold fetchColdBlock
  cases hget : m.blockPool.getBlock blockId with
  | none => exact h
  | some b =>
      dsimp only
      by_cases hram : b.isInRam = true
      · rw [if_pos hram]
        exact h
      · rw [if_neg hram]
        have hcold := Bool.eq_false_iff.mpr hram
        have hview := R.view_load m.storage blockId layerId
        have hload := hown b hget hcold
        revert hload hview
        rcases S.loadKv m.storage blockId layerId with ⟨_ | ⟨k, v⟩, storage⟩
        · intro hview _
          exact represents_of_view h hview
        · intro hview hload
          obtain ⟨i, hb⟩ := List.mem_iff_getElem?.mp (h.mem_getLayerBlocks hget)
          have hp := h.placed_getElem? hb
          -- under its own layer storage has the rows of the block
          have hrows := R.load_stored m.storage b.blockId b.layerId _ (hp.cold hcold).1
          rw [h.linked.blockId_eq hget, hload (k, v) rfl, Except.ok.injEq, Prod.mk.injEq] at hrows
          obtain ⟨rfl, rfl⟩ := hrows
          refine represents_assign_same h hb rfl rfl ?_ ?_ ?_
          · exact
              { start_eq := hp.start_eq
                count_eq := hp.count_eq
                pinned := hp.pinned
                ram := fun _ => ⟨rfl, rfl⟩
                cold := fun hcold => by cases hcold }
          · exact fun l id kv _ hs => (hview l id).trans hs
          · exact fun l id kv hs => .inl ((hview l id).symm.trans hs)

end TieredKVManager

end AiSsd.Tiering
