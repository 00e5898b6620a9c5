import AiSsd.Schemas.KVBlock
import Mathlib.Algebra.Order.Ring.Rat
import Mathlib.Data.List.Sort

/-!
# Cutting a model's KV cache into blocks

`KVBlockAdapter` cuts the K and V tensors of each layer into blocks of a few heads and a
run of tokens, pads the last run, checks the byte sizes and decides the tier. Block ids
count up through all layers.
-/

namespace AiSsd.RealLlm

open Lib Schemas

variable {α : Type}

/-! ## Arrays -/

/-- A three-dimensional array: its shape, its element size and its elements. -/
structure Tensor3 (α : Type) where
  d0 : Nat
  d1 : Nat
  d2 : Nat
  itemsize : Nat
  get : Nat → Nat → Nat → α

namespace Tensor3

def nbytes (a : Tensor3 α) : Nat := a.d0 * a.d1 * a.d2 * a.itemsize

/-- `a[h0:h1, t0:t1, :]`. -/
def slice (a : Tensor3 α) (h0 h1 t0 t1 : Nat) : Tensor3 α where
  d0 := min h1 a.d0 - min h0 a.d0
  d1 := min t1 a.d1 - min t0 a.d1
  d2 := a.d2
  itemsize := a.itemsize
  get h t d := a.get (min h0 a.d0 + h) (min t0 a.d1 + t) d

def zeros [Zero α] (d0 d1 d2 itemsize : Nat) : Tensor3 α := ⟨d0, d1, d2, itemsize, fun _ _ _ => 0⟩

/-- `np.concatenate([a, b], axis=1)`, for arrays of one element type. -/
def concatenate (a b : Tensor3 α) : Except PyErr (Tensor3 α) :=
  if a.d0 = b.d0 ∧ a.d2 = b.d2 then
    .ok
      { d0 := a.d0
        d1 := a.d1 + b.d1
        d2 := a.d2
        itemsize := a.itemsize
        get := fun h t d => if t < a.d1 then a.get h t d else b.get h (t - a.d1) d }
  else
    .error (.valueError ("all the input array dimensions except for the concatenation axis " ++
      "must match exactly"))

/-- `np.ascontiguousarray(a, dtype=np.float32)`, with the values kept exact. -/
def float32 (a : Tensor3 α) : Tensor3 α := { a with itemsize := 4 }

def shapeText (a : Tensor3 α) : String := s!"({a.d0}, {a.d1}, {a.d2})"

end Tensor3

structure Payload (α : Type) where
  k : Tensor3 α
  v : Tensor3 α

/-! ## The adapter -/

structure KVBlockAdapter where
  tokensPerBlock : Nat
  kvHeadsPerBlock : Nat
  headDim : Nat
  dtype : String
  attentionSinkTokens : Int
  recentWindowTokens : Int

namespace KVBlockAdapter

variable (adapter : KVBlockAdapter)

def dtypeStr : String := upper adapter.dtype

def getBytesPerElem (dtype : String) : Nat :=
  let dt := upper dtype
  if dt = "FP32" ∨ dt = "FLOAT32" then 4
  else if dt = "FP16" ∨ dt = "FLOAT16" ∨ dt = "BF16" then 2
  else if dt = "FP8" ∨ dt = "INT8" then 1
  else 4

def keySizeBytes : Nat :=
  adapter.tokensPerBlock * adapter.kvHeadsPerBlock * adapter.headDim *
    getBytesPerElem adapter.dtypeStr

def byteMismatch (page : String) (slice : Tensor3 α) : PyErr :=
  .valueError (page ++ s!" slice byte mismatch: expected {adapter.keySizeBytes} bytes, " ++
    s!"got {slice.nbytes} bytes (shape: {slice.shapeText})")

def validateGeometry (kSlice vSlice : Tensor3 α) : Except PyErr Unit :=
  if kSlice.nbytes ≠ adapter.keySizeBytes then .error (adapter.byteMismatch "K" kSlice)
  else if vSlice.nbytes ≠ adapter.keySizeBytes then .error (adapter.byteMismatch "V" vSlice)
  else .ok ()

/-- Attention sinks and recent tokens stay in DRAM; what lies between goes to the SSD, less
salient the later it starts. -/
def classify (seqLen tStart tEnd : Nat) : StorageTier × Rat :=
  let isSink := (tStart : Int) < adapter.attentionSinkTokens
  let isRecent := (tEnd : Int) > seqLen - adapter.recentWindowTokens
  if isSink ∨ isRecent then (.dram, if isSink then 1 else 9 / 10)
  else (.ssd, max (1 / 20) (1 / 2 * (1 - (tStart : Rat) / max 1 (seqLen : Rat))))

variable [Zero α]

def padded (t : Tensor3 α) (h hCount tStart tEnd : Nat) : Except PyErr (Tensor3 α) :=
  let slice := t.slice h (h + hCount) tStart tEnd
  let tCount := tEnd - tStart
  if tCount < adapter.tokensPerBlock then
    slice.concatenate
      (Tensor3.zeros hCount (adapter.tokensPerBlock - tCount) adapter.headDim t.itemsize)
  else .ok slice

/-- One block: heads from `h` on and tokens from `tStart` on. -/
def makeBlock (layerId : Nat) (kv : Payload α) (blockIdx h tStart : Nat) :
    Except PyErr (KVBlock × Payload α) := do
  let hCount := min adapter.kvHeadsPerBlock (kv.k.d0 - h)
  let tEnd := min (tStart + adapter.tokensPerBlock) kv.k.d1
  let kSlice ← adapter.padded kv.k h hCount tStart tEnd
  let vSlice ← adapter.padded kv.v h hCount tStart tEnd
  let tier := adapter.classify kv.k.d1 tStart tEnd
  adapter.validateGeometry kSlice vSlice
  return ({
      blockId := blockIdx, layerId := layerId, tokenStart := tStart,
      tokenCount := adapter.tokensPerBlock, kvHeadStart := h, kvHeadCount := hCount,
      headDim := adapter.headDim, dtype := adapter.dtypeStr,
      keySizeBytes := adapter.keySizeBytes, valueSizeBytes := adapter.keySizeBytes,
      storageTier := tier.1, hotness := tier.2, physicalLocation := none },
    ⟨kSlice.float32, vSlice.float32⟩)

/-- `range(0, stop, step)` for a positive step. -/
def rangeStep (stop step : Nat) : List Nat :=
  (List.range ((stop + step - 1) / step)).map fun i => i * step

def zeroStep : PyErr := .valueError "range() arg 3 must not be zero"

def corners (kvHeads seqLen : Nat) : List (Nat × Nat) :=
  (rangeStep kvHeads adapter.kvHeadsPerBlock).flatMap fun h =>
    (rangeStep seqLen adapter.tokensPerBlock).map fun tStart => (h, tStart)

def blockizeLayer (layerId : Nat) (kv : Payload α) (globalBlockOffset : Nat) :
    Except PyErr (List (KVBlock × Payload α)) :=
  if kv.k.d2 ≠ adapter.headDim then
    .error (.assertionError s!"head_dim mismatch: expected {adapter.headDim}, got {kv.k.d2}")
  else if adapter.kvHeadsPerBlock = 0 then .error zeroStep
  else if adapter.tokensPerBlock = 0 ∧ 0 < kv.k.d0 then .error zeroStep
  else
    ((adapter.corners kv.k.d0 kv.k.d1).zipIdx globalBlockOffset).mapM fun corner =>
      adapter.makeBlock layerId kv corner.2 corner.1.1 corner.1.2

/-- The layers of the list, block ids counting from `currId` on. -/
def blockizeFrom (layerKv : Dict Nat (Payload α)) :
    (currId : Nat) → List Nat → Dict Nat (List (KVBlock × Payload α)) →
      Except PyErr (Dict Nat (List (KVBlock × Payload α)))
  | _, [], allLayerBlocks => .ok allLayerBlocks
  | currId, lIdx :: layers, allLayerBlocks =>
      match layerKv.get? lIdx with
      | none => .error (.keyError (toString lIdx))
      | some kv => do
          let layerBlocks ← adapter.blockizeLayer lIdx kv currId
          blockizeFrom layerKv (currId + layerBlocks.length) layers
            (allLayerBlocks.set lIdx layerBlocks)

def blockizeAllLayers (layerKv : Dict Nat (Payload α)) :
    Except PyErr (Dict Nat (List (KVBlock × Payload α))) :=
  adapter.blockizeFrom layerKv 0 (layerKv.keys.insertionSort (· ≤ ·)) Dict.empty

/-! ## What the blocks are -/

theorem lt_of_mem_rangeStep {stop step i : Nat} (hstep : 0 < step) (h : i ∈ rangeStep stop step) :
    i < stop := by
  obtain ⟨n, hn, rfl⟩ := List.mem_map.mp h
  have hle : (n + 1) * step ≤ stop + step - 1 :=
    (Nat.le_div_iff_mul_le hstep).mp (List.mem_range.mp hn)
  rw [Nat.add_mul] at hle
  omega

/-- A block cut from a layer with `kvHeads` heads. -/
structure Cut (layerId kvHeads : Nat) (entry : KVBlock × Payload α) : Prop where
  tokens_pos : 0 < adapter.tokensPerBlock
  heads_pos : 0 < adapter.kvHeadsPerBlock
  blockId : 0 ≤ entry.1.blockId
  layerId : entry.1.layerId = layerId
  head : 0 ≤ entry.1.kvHeadStart ∧ entry.1.kvHeadStart < kvHeads
  tokenStart : 0 ≤ entry.1.tokenStart
  keySize : entry.1.keySizeBytes = adapter.keySizeBytes
  valueSize : entry.1.valueSizeBytes = adapter.keySizeBytes
  keyTokens : entry.2.k.d1 = adapter.tokensPerBlock
  keyDim : entry.2.k.d2 = adapter.headDim

variable {adapter}

omit [Zero α] in
theorem Cut.keySize_pos {layerId kvHeads : Nat} {entry : KVBlock × Payload α}
    (h : adapter.Cut layerId kvHeads entry) (hdim : 0 < adapter.headDim) :
    0 < adapter.keySizeBytes := by
  have helem : 0 < getBytesPerElem adapter.dtypeStr := by
    unfold getBytesPerElem
    dsimp only
    split
    · decide
    · split
      · decide
      · split <;> decide
  exact Nat.mul_pos (Nat.mul_pos (Nat.mul_pos h.tokens_pos h.heads_pos) hdim) helem

omit [Zero α] in
theorem slice_d1 (t : Tensor3 α) (h h1 tStart tEnd : Nat) (hend : tEnd ≤ t.d1) :
    (t.slice h h1 tStart tEnd).d1 = tEnd - tStart := by
  show min tEnd t.d1 - min tStart t.d1 = tEnd - tStart
  omega

theorem padded_shape {t p : Tensor3 α} {h hCount tStart : Nat}
    (hp : adapter.padded t h hCount tStart (min (tStart + adapter.tokensPerBlock) t.d1) = .ok p) :
    p.d1 = adapter.tokensPerBlock ∧ p.d2 = t.d2 := by
  have hd1 := slice_d1 t h (h + hCount) tStart (min (tStart + adapter.tokensPerBlock) t.d1)
    (Nat.min_le_right _ _)
  unfold padded Tensor3.concatenate at hp
  dsimp only at hp
  split at hp
  · split at hp
    · cases hp
      refine ⟨?_, rfl⟩
      dsimp only
      rw [hd1]
      show _ + (adapter.tokensPerBlock - _) = _
      omega
    · cases hp
  · cases hp
    exact ⟨by omega, rfl⟩

theorem makeBlock_spec {layerId blockIdx h tStart : Nat} {kv : Payload α}
    {entry : KVBlock × Payload α} (htokens : 0 < adapter.tokensPerBlock)
    (hheads : 0 < adapter.kvHeadsPerBlock) (hdim : kv.k.d2 = adapter.headDim)
    (hh : h < kv.k.d0) (hentry : adapter.makeBlock layerId kv blockIdx h tStart = .ok entry) :
    entry.1.blockId = blockIdx ∧ adapter.Cut layerId kv.k.d0 entry := by
  unfold makeBlock at hentry
  dsimp only at hentry
  cases hk : adapter.padded kv.k h (min adapter.kvHeadsPerBlock (kv.k.d0 - h)) tStart
      (min (tStart + adapter.tokensPerBlock) kv.k.d1) with
  | error err =>
      rw [hk] at hentry
      cases hentry
  | ok kSlice =>
      cases hv : adapter.padded kv.v h (min adapter.kvHeadsPerBlock (kv.k.d0 - h)) tStart
          (min (tStart + adapter.tokensPerBlock) kv.k.d1) with
      | error err =>
          rw [hk, hv] at hentry
          cases hentry
      | ok vSlice =>
          cases hvalid : adapter.validateGeometry kSlice vSlice with
          | error err =>
              rw [hk, hv] at hentry
              simp only [hvalid, bind, Except.bind] at hentry
              cases hentry
          | ok =>
              rw [hk, hv] at hentry
              simp only [hvalid, bind, Except.bind, pure, Except.pure] at hentry
              cases hentry
              obtain ⟨hkTokens, hkDim⟩ := padded_shape hk
              refine ⟨rfl, htokens, hheads, ?_, rfl, ⟨?_, ?_⟩, ?_, rfl, rfl, hkTokens,
                hkDim.trans hdim⟩
              · exact Int.natCast_nonneg blockIdx
              · exact Int.natCast_nonneg h
              · exact Int.ofNat_lt.mpr hh
              · exact Int.natCast_nonneg tStart

theorem blockizeLayer_spec {layerId offset : Nat} {kv : Payload α}
    {blocks : List (KVBlock × Payload α)}
    (h : adapter.blockizeLayer layerId kv offset = .ok blocks) :
    kv.k.d2 = adapter.headDim ∧ blocks.map (fun entry => entry.1.blockId) =
        (List.range' offset blocks.length).map (fun (i : Nat) => (i : Int)) ∧
      ∀ entry ∈ blocks, adapter.Cut layerId kv.k.d0 entry := by
  unfold blockizeLayer at h
  split at h
  · cases h
  · split at h
    · cases h
    · split at h
      · cases h
      · rename_i hdim hheads htokens
        have hcalls : blocks.map (fun entry => entry.1.blockId) =
              ((adapter.corners kv.k.d0 kv.k.d1).zipIdx offset).map (fun c => (c.2 : Int)) ∧
            ∀ entry ∈ blocks, adapter.Cut layerId kv.k.d0 entry := by
          apply map_of_mapM_eq_ok h
          intro corner hmem entry hentry
          obtain ⟨hd, hhead, hrest⟩ := List.mem_flatMap.mp (List.fst_mem_of_mem_zipIdx hmem)
          obtain ⟨tStart, -, hcorner⟩ := List.mem_map.mp hrest
          have hlt := lt_of_mem_rangeStep (Nat.pos_of_ne_zero hheads) hhead
          have hfst : corner.1.1 = hd := congrArg Prod.fst hcorner.symm
          refine makeBlock_spec ?_ (Nat.pos_of_ne_zero hheads) (not_not.mp hdim) ?_ hentry
          · exact Nat.pos_of_ne_zero fun hzero => htokens ⟨hzero, by omega⟩
          · omega
        refine ⟨not_not.mp hdim, ?_, hcalls.2⟩
        have hlength : blocks.length = (adapter.corners kv.k.d0 kv.k.d1).length := by
          simpa using congrArg List.length hcalls.1
        rw [hcalls.1, hlength, ← List.zipIdx_map_snd, List.map_map]
        rfl

theorem blockizeFrom_spec {layerKv : Dict Nat (Payload α)} {currId : Nat} {layers : List Nat}
    {acc all : Dict Nat (List (KVBlock × Payload α))}
    (h : adapter.blockizeFrom layerKv currId layers acc = .ok all) (l : Nat) :
    (l ∉ layers ∧ all.get? l = acc.get? l) ∨ ∃ kv offset blocks, layerKv.get? l = some kv ∧
      adapter.blockizeLayer l kv offset = .ok blocks ∧ all.get? l = some blocks := by
  induction layers generalizing currId acc with
  | nil =>
      cases h
      exact .inl ⟨List.not_mem_nil, rfl⟩
  | cons lIdx layers ih =>
      unfold blockizeFrom at h
      cases hkv : layerKv.get? lIdx with
      | none =>
          rw [hkv] at h
          cases h
      | some kv =>
          cases hblocks : adapter.blockizeLayer lIdx kv currId with
          | error err =>
              simp only [hkv, hblocks, bind, Except.bind] at h
              cases h
          | ok blocks =>
              simp only [hkv, hblocks, bind, Except.bind] at h
              rcases ih h with ⟨hnot, hget⟩ | hlater
              · by_cases hl : lIdx = l
                · subst hl
                  rw [Dict.get?_set_self] at hget
                  exact .inr ⟨kv, currId, blocks, hkv, hblocks, hget⟩
                · rw [Dict.get?_set_of_ne _ _ hl] at hget
                  exact .inl ⟨by simp [Ne.symm hl, hnot], hget⟩
              · exact .inr hlater

theorem blockizeAllLayers_spec {layerKv : Dict Nat (Payload α)}
    {all : Dict Nat (List (KVBlock × Payload α))}
    (h : adapter.blockizeAllLayers layerKv = .ok all) {l : Nat} {kv : Payload α}
    (hkv : layerKv.get? l = some kv) :
    ∃ blocks, all.get? l = some blocks ∧ kv.k.d2 = adapter.headDim ∧
      (blocks.map fun entry => entry.1.blockId).Nodup ∧ ∀ entry ∈ blocks, adapter.Cut l kv.k.d0 entry := by
  have hmem : l ∈ layerKv.keys.insertionSort (· ≤ ·) := by
    rw [List.mem_insertionSort, ← Dict.contains_iff, Dict.contains, hkv]
    rfl
  rcases blockizeFrom_spec h l with ⟨hnot, -⟩ | ⟨kv', offset, blocks, hkv', hblocks, hget⟩
  · exact absurd hmem hnot
  · rw [hkv] at hkv'
    cases hkv'
    obtain ⟨hdim, hids, hcut⟩ := blockizeLayer_spec hblocks
    refine ⟨blocks, hget, hdim, ?_, hcut⟩
    rw [hids]
    exact List.Nodup.map Nat.cast_injective List.nodup_range'

end KVBlockAdapter

end AiSsd.RealLlm
