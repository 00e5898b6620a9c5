import AiSsd.CacheManager.PagedKVCache
import Mathlib.Algebra.BigOperators.Ring.List

/-!
# The blocks of a context

`initialize_context` cuts the context of every head of every layer into blocks. They tile it,
and their bytes add up to those of its keys and values.
-/

namespace AiSsd.CacheManager

open Lib Schemas

/-! ## Lists over corners -/

theorem sum_flatMap_const {β : Type} {f : β → List Int} {k : Int} (xs : List β)
    (h : ∀ x ∈ xs, (f x).sum = k) : (xs.flatMap f).sum = xs.length * k := by
  induction xs with
  | nil => simp
  | cons x xs ih =>
      rw [List.forall_mem_cons] at h
      rw [List.flatMap_cons, List.sum_append, h.1, ih h.2, List.length_cons]
      push_cast
      ring

theorem flatMap_range_ite {β : Type} (n l : Nat) (xs : List β) (hl : l < n) :
    (List.range n).flatMap (fun i => if i = l then xs else []) = xs := by
  induction n with
  | zero => omega
  | succ n ih =>
      rw [List.range_succ, List.flatMap_append, List.flatMap_singleton]
      by_cases hn : n = l
      · subst hn
        have hbefore : (List.range n).flatMap (fun i => if i = n then xs else []) = [] := by
          rw [List.flatMap_eq_nil_iff]
          intro i hi
          exact if_neg (Nat.ne_of_lt (List.mem_range.mp hi))
        rw [hbefore, if_pos rfl, List.nil_append]
      · rw [if_neg hn, ih (by omega), List.append_nil]

namespace PagedKVCache

variable (config : CacheConfig) (contextLength : Nat)

theorem corners_of_head {l h : Nat} (hl : l < config.layers) (hh : h < config.heads) :
    (corners config contextLength).filter (fun c => c.layerId = l ∧ c.headId = h) =
      (List.range (pieces contextLength config.blockTokens)).map fun idx => ⟨l, h, idx⟩ := by
  have hinner : ∀ i j : Nat,
      ((List.range (pieces contextLength config.blockTokens)).map
        (fun idx => (⟨i, j, idx⟩ : Corner))).filter (fun c => c.layerId = l ∧ c.headId = h) =
      if j = h then (if i = l then (List.range (pieces contextLength config.blockTokens)).map
        (fun idx => ⟨l, h, idx⟩) else []) else [] := by
    intro i j
    rw [List.filter_map]
    by_cases hi : i = l <;> by_cases hj : j = h <;> simp [hi, hj, Function.comp_def]
  have hlayer : ∀ i : Nat, ((List.range config.heads).flatMap fun j =>
      (List.range (pieces contextLength config.blockTokens)).map
        (fun idx => (⟨i, j, idx⟩ : Corner))).filter (fun c => c.layerId = l ∧ c.headId = h) =
      if i = l then (List.range (pieces contextLength config.blockTokens)).map
        (fun idx => ⟨l, h, idx⟩) else [] := by
    intro i
    rw [List.filter_flatMap]
    simp only [hinner]
    exact flatMap_range_ite config.heads h _ hh
  unfold corners
  rw [List.filter_flatMap]
  simp only [hlayer]
  exact flatMap_range_ite config.layers l _ hl

def cornerShape (id : Nat) (corner : Corner) : KVBlock :=
  let tokenStart := corner.idx * config.blockTokens
  KVBlock.createDefault id corner.layerId tokenStart
    (min config.blockTokens (contextLength - tokenStart) : Nat) corner.headId (1 : Nat)
    config.headDim config.dtype .gpu 1

structure Configured (m : BlockManager) : Prop where
  blockTokens : m.blockTokens = config.blockTokens
  headDim : m.headDim = config.headDim
  dtype : m.dtype = config.dtype

variable {config contextLength}

theorem idx_lt {corner : Corner} (h : corner ∈ corners config contextLength) :
    corner.idx * config.blockTokens < contextLength := by
  unfold corners at h
  obtain ⟨l, -, h⟩ := List.mem_flatMap.mp h
  obtain ⟨hd, -, h⟩ := List.mem_flatMap.mp h
  obtain ⟨idx, hidx, rfl⟩ := List.mem_map.mp h
  exact (lt_pieces_iff config.blockTokens_pos idx).mp (List.mem_range.mp hidx)

/-- What `initialize_context` adds to a manager. -/
structure Extended (config : CacheConfig) (contextLength : Nat) (cs : List Corner)
    (m m' : BlockManager) : Prop where
  configured : Configured config m'
  numbered : m'.Numbered
  shapes : m'.allBlocks.map CachedBlock.shape = m.allBlocks.map CachedBlock.shape ++
    (cs.zipIdx m.nextBlockId).map fun c => cornerShape config contextLength c.2 c.1
  tiers : ∀ b ∈ m'.allBlocks, b ∈ m.allBlocks ∨ b.storageTier = .gpu

theorem extended_allocate {cs : List Corner} (hcs : ∀ c ∈ cs, c ∈ corners config contextLength)
    {m : BlockManager} (hconf : Configured config m) (hnum : m.Numbered) (attachTensors : Bool) :
    Extended config contextLength cs m
      (cs.foldl (allocateCorner config contextLength attachTensors) m) := by
  induction cs generalizing m with
  | nil => exact ⟨hconf, hnum, (List.append_nil _).symm, fun b hb => Or.inl hb⟩
  | cons corner cs ih =>
      rw [List.forall_mem_cons] at hcs
      have hlt := idx_lt hcs.1
      have hblocks := hnum.allBlocks_allocateBlock corner.layerId (corner.idx * config.blockTokens)
        (min config.blockTokens (contextLength - corner.idx * config.blockTokens)) corner.headId 1
        .gpu attachTensors
      have hnext := ih (m := allocateCorner config contextLength attachTensors m corner) hcs.2
        ⟨hconf.blockTokens, hconf.headDim, hconf.dtype⟩ (hnum.allocateBlock _ _ _ _ _ _ _)
      have hshape : (m.newBlock corner.layerId (corner.idx * config.blockTokens)
          (min config.blockTokens (contextLength - corner.idx * config.blockTokens)) corner.headId 1
          .gpu attachTensors).shape =
          cornerShape config contextLength m.nextBlockId corner := by
        have hpos := config.blockTokens_pos
        have htokens : m.tokensOf
            (min config.blockTokens (contextLength - corner.idx * config.blockTokens)) =
            min config.blockTokens (contextLength - corner.idx * config.blockTokens) :=
          if_neg (by omega)
        unfold BlockManager.newBlock cornerShape
        dsimp only
        rw [htokens, hconf.headDim, hconf.dtype]
        rfl
      refine ⟨hnext.configured, hnext.numbered, ?_, ?_⟩
      · rw [List.foldl_cons, hnext.shapes, List.zipIdx_cons, List.map_cons]
        unfold allocateCorner
        dsimp only
        rw [hblocks, List.map_append, List.append_assoc, List.map_singleton, hshape]
        rfl
      · intro b hb
        rcases hnext.tiers b hb with hold | hgpu
        · unfold allocateCorner at hold
          dsimp only at hold
          rw [hblocks] at hold
          rcases List.mem_append.mp hold with hold | hnew
          · exact Or.inl hold
          · rw [List.mem_singleton.mp hnew]
            exact Or.inr rfl
        · exact Or.inr hgpu

theorem extended_initializeContext {σ : Type} {c : PagedKVCache σ}
    (hconf : Configured c.config c.blockManager) (hnum : c.blockManager.Numbered)
    (contextLength : Nat) (attachTensors : Bool) :
    Extended c.config contextLength (corners c.config contextLength) c.blockManager
      (c.initializeContext contextLength attachTensors).2.blockManager :=
  extended_allocate (fun _ h => h) hconf hnum attachTensors

/-! ## Where the blocks lie -/

def blocksOf {σ : Type} (c : PagedKVCache σ) (layerId headId : Nat) : List CachedBlock :=
  c.blockManager.allBlocks.filter fun b => b.layerId = layerId ∧ b.kvHeadStart = headId

/-- The blocks are those of a fresh context, up to tier, hotness, location and tensors. -/
def OfContext {σ : Type} (config : CacheConfig) (contextLength : Nat) (c : PagedKVCache σ) : Prop :=
  c.blockManager.allBlocks.map CachedBlock.shape =
    (corners config contextLength).zipIdx.map fun p => cornerShape config contextLength p.2 p.1

variable {σ : Type} {c : PagedKVCache σ}

theorem OfContext.tiles (h : OfContext config contextLength c) {l hd : Nat}
    (hl : l < config.layers) (hh : hd < config.heads) :
    Tiles (fun b : CachedBlock => b.tokenStart) (fun b => b.tokenCount) 0 (c.blocksOf l hd)
      contextLength := by
  have hshapes : (c.blocksOf l hd).map CachedBlock.shape =
      (((corners config contextLength).zipIdx.filter
        fun p => p.1.layerId = l ∧ p.1.headId = hd)).map
        fun p => cornerShape config contextLength p.2 p.1 := by
    have hfilter := congrArg (List.filter fun b : KVBlock =>
      decide (b.layerId = l ∧ b.kvHeadStart = hd)) h
    rw [List.filter_map, List.filter_map] at hfilter
    simp only [Function.comp_def, cornerShape, KVBlock.createDefault,
      Nat.cast_inj] at hfilter ⊢
    exact hfilter
  have hidx : ((corners config contextLength).zipIdx.filter
      fun p => p.1.layerId = l ∧ p.1.headId = hd).map (fun p => p.1.idx) =
      List.range (pieces contextLength config.blockTokens) := by
    have hfst : (((corners config contextLength).zipIdx.filter
        fun p => p.1.layerId = l ∧ p.1.headId = hd).map Prod.fst) =
        (corners config contextLength).filter fun c => c.layerId = l ∧ c.headId = hd := by
      conv_rhs => rw [← List.zipIdx_map_fst 0 (corners config contextLength), List.filter_map]
      rfl
    have hidx := congrArg (List.map Corner.idx)
      (hfst.trans (corners_of_head config contextLength hl hh))
    rw [List.map_map, List.map_map] at hidx
    exact hidx.trans (List.map_id _)
  have hpieces := @tiles_pieces contextLength _ config.blockTokens_pos
  rw [← hidx, tiles_map] at hpieces
  have hblocks : Tiles KVBlock.tokenStart KVBlock.tokenCount 0
      ((c.blocksOf l hd).map CachedBlock.shape) contextLength := by
    rw [hshapes, tiles_map]
    exact hpieces
  exact (tiles_map CachedBlock.shape _).mp hblocks

theorem extended_init (config : CacheConfig) (ssd : σ) (contextLength : Nat)
    (attachTensors : Bool) :
    Extended config contextLength (corners config contextLength)
      (BlockManager.init config.blockTokens config.headDim config.dtype)
      ((init config ssd).initializeContext contextLength attachTensors).2.blockManager :=
  extended_initializeContext (c := init config ssd) ⟨rfl, rfl, rfl⟩
    (BlockManager.numbered_init _ _ _) contextLength attachTensors

theorem ofContext_init (config : CacheConfig) (ssd : σ) (contextLength : Nat)
    (attachTensors : Bool) :
    ((init config ssd).initializeContext contextLength attachTensors).2.OfContext config
      contextLength :=
  (extended_init config ssd contextLength attachTensors).shapes

theorem tier_init {config : CacheConfig} {ssd : σ} {contextLength : Nat} {attachTensors : Bool}
    {b : CachedBlock}
    (hb : b ∈ ((init config ssd).initializeContext contextLength
      attachTensors).2.blockManager.allBlocks) : b.storageTier = .gpu := by
  rcases (extended_init config ssd contextLength attachTensors).tiers b hb with hold | hgpu
  · cases hold
  · exact hgpu

theorem OfContext.mem_blocksOf (h : OfContext config contextLength c) {b : CachedBlock}
    (hb : b ∈ c.blockManager.allBlocks) :
    ∃ l < config.layers, ∃ hd < config.heads, b ∈ c.blocksOf l hd := by
  have hshape : b.shape ∈ c.blockManager.allBlocks.map CachedBlock.shape :=
    List.mem_map_of_mem hb
  rw [h] at hshape
  obtain ⟨p, hp, heq⟩ := List.mem_map.mp hshape
  have hcorner := List.fst_mem_of_mem_zipIdx hp
  unfold corners at hcorner
  obtain ⟨l, hl, hcorner⟩ := List.mem_flatMap.mp hcorner
  obtain ⟨hd, hh, hcorner⟩ := List.mem_flatMap.mp hcorner
  obtain ⟨idx, -, hcorner⟩ := List.mem_map.mp hcorner
  have hlayer : b.shape.layerId = l := by
    rw [← heq, ← hcorner]
    rfl
  have hhead : b.shape.kvHeadStart = hd := by
    rw [← heq, ← hcorner]
    rfl
  refine ⟨l, List.mem_range.mp hl, hd, List.mem_range.mp hh, List.mem_filter.mpr ⟨hb, ?_⟩⟩
  exact decide_eq_true ⟨hlayer, hhead⟩

theorem OfContext.length (h : OfContext config contextLength c) :
    c.blockManager.allBlocks.length =
      config.layers * (config.heads * pieces contextLength config.blockTokens) := by
  have hlength := congrArg List.length h
  rw [List.length_map, List.length_map, List.length_zipIdx] at hlength
  rw [hlength, corners]
  simp [List.length_flatMap]

theorem OfContext.within (h : OfContext config contextLength c) {b : CachedBlock}
    (hb : b ∈ c.blockManager.allBlocks) :
    0 ≤ b.tokenStart ∧ b.tokenStart + b.tokenCount ≤ contextLength := by
  have hshape : b.shape ∈ c.blockManager.allBlocks.map CachedBlock.shape :=
    List.mem_map_of_mem hb
  rw [h] at hshape
  obtain ⟨p, hp, heq⟩ := List.mem_map.mp hshape
  have hlt := idx_lt (List.fst_mem_of_mem_zipIdx hp)
  have hstart : b.shape.tokenStart = (p.1.idx * config.blockTokens : Nat) := by
    rw [← heq]
    rfl
  have hcount : b.shape.tokenCount =
      (min config.blockTokens (contextLength - p.1.idx * config.blockTokens) : Nat) := by
    rw [← heq]
    rfl
  change b.tokenStart = _ at hstart
  change b.tokenCount = _ at hcount
  omega

theorem OfContext.total_bytes (h : OfContext config contextLength c) (hdim : 0 < config.headDim) :
    (c.blockManager.allBlocks.map fun b => b.totalSizeBytes).sum =
      2 * config.layers * config.heads * config.headDim * contextLength *
        KVBlock.bytesPerElem config.dtype := by
  have hbytes : (c.blockManager.allBlocks.map fun b => b.totalSizeBytes) =
      (corners config contextLength).map fun corner =>
        ((min config.blockTokens (contextLength - corner.idx * config.blockTokens) : Nat) : Int) *
          (2 * config.headDim * KVBlock.bytesPerElem config.dtype) := by
    have hsizes := congrArg (List.map KVBlock.totalSizeBytes) h
    rw [List.map_map, List.map_map] at hsizes
    refine hsizes.trans ?_
    conv_rhs => rw [← List.zipIdx_map_fst 0 (corners config contextLength), List.map_map]
    apply List.map_congr_left
    intro p hp
    have hlt := idx_lt (List.fst_mem_of_mem_zipIdx hp)
    have hpos := config.blockTokens_pos
    have hsize := @KVBlock.pageSize_of_pos
      (min config.blockTokens (contextLength - p.1.idx * config.blockTokens) : Nat) (1 : Nat)
      config.headDim (by omega) (by omega) (by omega) config.dtype
    simp only [Function.comp_apply, cornerShape, KVBlock.createDefault, KVBlock.totalSizeBytes,
      hsize]
    push_cast
    ring
  have hhead : ∀ l h : Nat, (((List.range (pieces contextLength config.blockTokens)).map
      fun idx => (⟨l, h, idx⟩ : Corner)).map fun corner =>
        ((min config.blockTokens (contextLength - corner.idx * config.blockTokens) : Nat) : Int) *
          (2 * config.headDim * KVBlock.bytesPerElem config.dtype)).sum =
      contextLength * (2 * config.headDim * KVBlock.bytesPerElem config.dtype) := by
    intro l h
    have hsum := (@tiles_pieces contextLength _ config.blockTokens_pos).sum_count
    rw [List.map_map]
    simp only [Function.comp_def]
    rw [List.sum_map_mul_right, hsum, Int.sub_zero]
  rw [hbytes]
  unfold corners
  rw [List.map_flatMap, sum_flatMap_const _ (fun l _ => by
    rw [List.map_flatMap, sum_flatMap_const _ (fun hd _ => hhead l hd)])]
  rw [List.length_range, List.length_range]
  ring

end PagedKVCache

end AiSsd.CacheManager
