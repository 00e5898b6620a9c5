import AiSsd.Attention.StreamingSoftmax
import AiSsd.Lib.ArgSort
import AiSsd.Lib.Dict
import AiSsd.Tiering.Manager

/-!
# The simulated SSD controller

`MockSSDController` keeps the stored blocks by (layer, block) and counts bytes,
NAND operations and multiply-accumulates. Arrays hold exact numbers, so byte
counts use the element widths of the configuration. The simulated clock is
floating point and is left out.
-/

namespace AiSsd.Storage

open Lib Attention Numpy Tiering

universe u

variable {α : Type u} {heads dim : Nat}

/-- Bytes of one element of a K or V array and of a logit. Scores and ids take four. -/
structure ElementWidths where
  kv : Nat
  logit : Nat
deriving Repr, DecidableEq

structure FlashEntry (α : Type u) (heads dim : Nat) where
  k : List (Row α heads dim)
  v : List (Row α heads dim)

structure Telemetry where
  hostToDeviceBytes : Nat
  deviceToHostBytes : Nat
  flashReadBytes : Nat
  flashWriteBytes : Nat
  controllerDramReadBytes : Nat
  controllerDramWriteBytes : Nat
  computeMacCount : Nat
  nandReadOps : Nat
  nandWriteOps : Nat
deriving Repr, DecidableEq

namespace Telemetry

def zero : Telemetry := ⟨0, 0, 0, 0, 0, 0, 0, 0, 0⟩

/-- Reading `bytes` from NAND, or from the controller's DRAM when they are `cached`. -/
def readFlash (t : Telemetry) (cached : Bool) (bytes : Nat) : Telemetry :=
  if cached then { t with controllerDramReadBytes := t.controllerDramReadBytes + bytes }
  else
    { t with
      flashReadBytes := t.flashReadBytes + bytes
      nandReadOps := t.nandReadOps + 1 }

end Telemetry

inductive TraceEvent where
  | store (layerId blockId bytes : Nat)
  | load (layerId blockId bytes : Nat)
  | inStorageTopk (layerId numCandidates topK streamedBytes : Nat)
deriving Repr, DecidableEq

structure MockSSDController (α : Type u) (heads dim : Nat) where
  flashStore : Dict (Nat × Nat) (FlashEntry α heads dim)
  controllerDramCache : List (Nat × Nat)
  telemetry : Telemetry
  traceLog : List TraceEvent

namespace MockSSDController

def init : MockSSDController α heads dim := ⟨Dict.empty, [], Telemetry.zero, []⟩

variable (widths : ElementWidths)

def nbytes (rows : List (Row α heads dim)) : Nat := rows.length * heads * dim * widths.kv

def storeKv (s : MockSSDController α heads dim) (blockId layerId : Nat)
    (keyData valueData : Option (List (Row α heads dim))) :
    Except PyErr Bool × MockSSDController α heads dim :=
  match keyData, valueData with
  | some k, some v =>
      let payloadBytes := nbytes widths k + nbytes widths v
      (.ok true,
        { s with
          flashStore := s.flashStore.set (layerId, blockId) ⟨k, v⟩
          telemetry :=
            { s.telemetry with
              hostToDeviceBytes := s.telemetry.hostToDeviceBytes + payloadBytes
              flashWriteBytes := s.telemetry.flashWriteBytes + payloadBytes
              nandWriteOps := s.telemetry.nandWriteOps + 1 }
          traceLog := s.traceLog ++ [.store layerId blockId payloadBytes] })
  -- `None` has no `nbytes`
  | _, _ => (.error .attributeError, s)

def loadKv (s : MockSSDController α heads dim) (blockId layerId : Nat) :
    Except PyErr (List (Row α heads dim) × List (Row α heads dim)) ×
      MockSSDController α heads dim :=
  match s.flashStore.get? (layerId, blockId) with
  | none =>
      (.error (.keyError
        s!"KV Block (layer={layerId}, block={blockId}) not found in storage."), s)
  | some entry =>
      let payloadBytes := nbytes widths entry.k + nbytes widths entry.v
      let cached := s.controllerDramCache.contains (layerId, blockId)
      let read := s.telemetry.readFlash cached payloadBytes
      let staged := if cached then 0 else payloadBytes
      (.ok (entry.k, entry.v),
        { s with
          telemetry :=
            { read with
              controllerDramWriteBytes := read.controllerDramWriteBytes + staged
              deviceToHostBytes := read.deviceToHostBytes + payloadBytes }
          traceLog := s.traceLog ++ [.load layerId blockId payloadBytes] })

/-- The two calls the tiering manager makes. -/
def kvStorage : KVStorage (MockSSDController α heads dim) (Row α heads dim) (Row α heads dim) where
  storeKv := storeKv widths
  loadKv := loadKv widths

/-- The flash store is a dictionary: a load returns what the last store put there. -/
def returnsStored :
    (kvStorage widths : KVStorage (MockSSDController α heads dim) _ _).ReturnsStored where
  view := fun s layerId blockId =>
    (s.flashStore.get? (layerId, blockId)).map fun entry => (entry.k, entry.v)
  store_ok := fun _ _ _ _ _ => rfl
  view_store := by
    intro s blockId layerId k v l b
    simp only [kvStorage, storeKv, Dict.get?_set, Prod.mk.injEq]
    split <;> rfl
  load_stored := by
    intro s blockId layerId kv h
    obtain ⟨entry, hentry, rfl⟩ := Option.map_eq_some_iff.mp h
    simp only [kvStorage, loadKv, hentry]
  view_load := by
    intro s blockId layerId l b
    simp only [kvStorage, loadKv]
    split <;> rfl

/-- A block that was never stored raises. -/
theorem view_of_loadKv {s : MockSSDController α heads dim} {blockId layerId : Nat}
    {kv : List (Row α heads dim) × List (Row α heads dim)}
    (h : ((kvStorage widths).loadKv s blockId layerId).1 = .ok kv) :
    (returnsStored widths).view s layerId blockId = some kv := by
  simp only [kvStorage, loadKv] at h
  split at h
  · cases h
  · rename_i entry hentry
    obtain rfl := Except.ok.inj h
    simp [returnsStored, hentry]

/-! ## Attention inside the storage -/

variable [Field α] [LinearOrder α]

/-- `[(bid, entry) ...]` of a layer, sorted by block id. -/
def layerEntries (s : MockSSDController α heads dim) (layerId : Nat) :
    List (Nat × FlashEntry α heads dim) :=
  ((s.flashStore.entries.filter fun e => e.1.1 == layerId).map fun e => (e.1.2, e.2)).insertionSort
    fun a b => a.1 ≤ b.1

/-- `np.max` over all tokens and heads of a block. -/
def blockScore (query : Row α heads dim) (scale : α) (k : List (Row α heads dim)) :
    Except PyErr α :=
  match k.flatMap fun row => (List.finRange heads).map (logit query scale row) with
  | [] => .error zeroSizeMax
  | first :: rest => .ok (npMax first rest)

/-- Positions of the selected blocks. A cut at `-0` keeps every position. -/
def topIndices (np : IndexSort α) (scores : List α) (effectiveK : Nat) : List Nat :=
  if effectiveK < scores.length then
    let kth := if effectiveK = 0 then 0 else scores.length - effectiveK
    let cut := (np.argpartition scores kth).drop kth
    (np.argsort (cut.filterMap fun i => (scores[i]?).map (- ·))).filterMap fun j => cut[j]?
  else np.argsort (scores.map (- ·))

def npStack (arrays : List (List (Row α heads dim))) :
    Except PyErr (List (List (Row α heads dim))) :=
  match arrays with
  | [] => .error (.valueError "need at least one array to stack")
  | first :: rest =>
      if rest.all fun array => array.length == first.length then .ok arrays
      else .error (.valueError "all input arrays must have the same shape")

/-- What `in_storage_topk_attention` returns: three empty arrays when the layer has
nothing stored, else ids, stacked values, logit columns and scores. -/
inductive TopkAnswer (α : Type u) (heads dim : Nat) where
  | three
  | four (blockIds : List Nat) (values : List (List (Row α heads dim)))
      (logits : List (Fin heads → α)) (scores : List α)

variable (np : IndexSort α) (sqrt : α → α)

def inStorageTopkAttention (s : MockSSDController α heads dim) (query : Row α heads dim)
    (layerId topK : Nat) :
    Except PyErr (TopkAnswer α heads dim) × MockSSDController α heads dim :=
  let blocks := s.layerEntries layerId
  match blocks with
  | [] => (.ok .three, s)
  | firstEntry :: _ =>
      let numBlocks := blocks.length
      let effectiveK := min topK numBlocks
      let cached := fun bid => s.controllerDramCache.contains (layerId, bid)
      let keysRead := blocks.foldl
        (fun t b => t.readFlash (cached b.1) (nbytes widths b.2.k))
        { s.telemetry with
          hostToDeviceBytes := s.telemetry.hostToDeviceBytes + heads * dim * widths.kv }
      let macs := numBlocks * firstEntry.2.k.length * heads * dim
      let scored := { keysRead with computeMacCount := keysRead.computeMacCount + macs }
      let scale := attentionScale sqrt dim
      match blocks.mapM fun b => blockScore query scale b.2.k with
      | .error err => (.error err, { s with telemetry := scored })
      | .ok blockScores =>
          let chosen := topIndices np blockScores effectiveK
          let selected := chosen.filterMap fun i => blocks[i]?
          let topkScores := chosen.filterMap fun i => blockScores[i]?
          match npStack (selected.map fun b => b.2.v) with
          | .error err => (.error err, { s with telemetry := scored })
          | .ok topkValues =>
              let valuesRead := selected.foldl
                (fun t b => t.readFlash (cached b.1) (nbytes widths b.2.v)) scored
              let topkLogits := selected.flatMap fun b => b.2.k.map (logit query scale)
              let payload := ((topkValues.map (nbytes widths)).sum +
                topkLogits.length * heads * widths.logit + topkScores.length * 4 +
                selected.length * 4)
              (.ok (.four (selected.map Prod.fst) topkValues topkLogits topkScores),
                { s with
                  telemetry :=
                    { valuesRead with
                      deviceToHostBytes := valuesRead.deviceToHostBytes + payload }
                  traceLog := s.traceLog ++
                    [.inStorageTopk layerId numBlocks effectiveK payload] })

/-! ## Selecting every stored block -/

omit [Field α] [LinearOrder α] in
theorem mem_layerEntries_iff (s : MockSSDController α heads dim) (layerId bid : Nat)
    (entry : FlashEntry α heads dim) :
    (bid, entry) ∈ s.layerEntries layerId ↔ s.flashStore.get? (layerId, bid) = some entry := by
  rw [layerEntries, List.mem_insertionSort, ← Dict.mem_entries_iff]
  simp only [List.mem_map, List.mem_filter, beq_iff_eq]
  constructor
  · rintro ⟨⟨⟨l, b⟩, e⟩, ⟨hmem, hl⟩, hpair⟩
    cases hpair
    cases hl
    exact hmem
  · intro hmem
    exact ⟨((layerId, bid), entry), ⟨hmem, rfl⟩, rfl⟩

omit [Field α] [LinearOrder α] in
theorem nodup_layerEntries (s : MockSSDController α heads dim) (layerId : Nat) :
    (s.layerEntries layerId).Nodup := by
  rw [layerEntries, (List.perm_insertionSort _ _).nodup_iff]
  refine List.Nodup.map_on ?_ (s.flashStore.nodup.of_map.filter _)
  intro x hx y hy heq
  simp only [List.mem_filter, beq_iff_eq] at hx hy
  obtain ⟨⟨lx, bx⟩, ex⟩ := x
  obtain ⟨⟨ly, b⟩, ey⟩ := y
  cases heq
  dsimp only at hx hy
  rw [hx.2, hy.2]

theorem blockScore_ok (query : Row α heads dim) (scale : α) {k : List (Row α heads dim)}
    (hheads : 0 < heads) (hk : k ≠ []) : ∃ score, blockScore query scale k = .ok score := by
  unfold blockScore
  cases hdots : k.flatMap fun row => (List.finRange heads).map (logit query scale row) with
  | nil =>
      obtain ⟨row, rest, rfl⟩ := List.exists_cons_of_ne_nil hk
      have hlen := congrArg List.length hdots
      simp only [List.flatMap_cons, List.length_append, List.length_map, List.length_finRange,
        List.length_nil] at hlen
      omega
  | cons first rest => exact ⟨_, rfl⟩

theorem topIndices_all {scores : List α} {k : Nat} (hk : scores.length ≤ k) :
    (topIndices np scores k).Perm (List.range scores.length) := by
  rw [topIndices, if_neg (Nat.not_lt.mpr hk)]
  have hperm := np.argsort_perm (scores.map (- ·))
  rwa [List.length_map] at hperm

theorem filterMap_getElem?_range {β : Type*} (xs : List β) :
    (List.range xs.length).filterMap (fun i => xs[i]?) = xs := by
  induction xs with
  | nil => rfl
  | cons x xs ih =>
      rw [List.length_cons, List.range_succ_eq_map, List.filterMap_cons]
      rw [List.filterMap_map]
      exact congrArg (x :: ·) ih

omit [Field α] [LinearOrder α] in
theorem npStack_ok {arrays : List (List (Row α heads dim))} {n : Nat} (hne : arrays ≠ [])
    (hlen : ∀ array ∈ arrays, array.length = n) : npStack arrays = .ok arrays := by
  obtain ⟨first, rest, rfl⟩ := List.exists_cons_of_ne_nil hne
  have hall : rest.all (fun array => array.length == first.length) = true := by
    rw [List.all_eq_true]
    intro array hmem
    rw [hlen array (List.mem_cons_of_mem first hmem), hlen first List.mem_cons_self, beq_self_eq_true]
  rw [npStack, if_pos hall]

/-- With `top_k` at least the number of blocks stored for the layer, every one of them
comes back once, in some order. -/
theorem inStorageTopkAttention_all {s : MockSSDController α heads dim} (query : Row α heads dim)
    {layerId topK n : Nat} (hheads : 0 < heads) (hne : s.layerEntries layerId ≠ [])
    (hk : ∀ b ∈ s.layerEntries layerId, b.2.k ≠ [])
    (hv : ∀ b ∈ s.layerEntries layerId, b.2.v.length = n)
    (htop : (s.layerEntries layerId).length ≤ topK) :
    ∃ (selected : List (Nat × FlashEntry α heads dim)) (scores : List α),
      selected.Perm (s.layerEntries layerId) ∧
      (inStorageTopkAttention widths np sqrt s query layerId topK).1 =
        .ok (.four (selected.map Prod.fst) (selected.map fun b => b.2.v)
          (selected.flatMap fun b => b.2.k.map (logit query (attentionScale sqrt dim))) scores) := by
  unfold inStorageTopkAttention
  generalize s.layerEntries layerId = blocks at hne hk hv htop ⊢
  obtain ⟨scores, hscores, hlen⟩ := mapM_ok_length fun b hb =>
    blockScore_ok query (attentionScale sqrt dim) hheads (hk b hb)
  obtain ⟨chosen, hdef⟩ : ∃ c, c = topIndices np scores (min topK blocks.length) := ⟨_, rfl⟩
  have hchosen : chosen.Perm (List.range blocks.length) := by
    rw [hdef, ← hlen]
    exact topIndices_all np (by omega)
  have hselected : (chosen.filterMap fun i => blocks[i]?).Perm blocks := by
    have hperm := hchosen.filterMap fun i => blocks[i]?
    rwa [filterMap_getElem?_range] at hperm
  have hstack : npStack ((chosen.filterMap fun i => blocks[i]?).map fun b => b.2.v) =
      .ok ((chosen.filterMap fun i => blocks[i]?).map fun b => b.2.v) := by
    refine npStack_ok (n := n) ?_ ?_
    · intro hnil
      rw [List.map_eq_nil_iff] at hnil
      exact hne (List.nil_perm.mp (hnil ▸ hselected))
    · intro array hmem
      obtain ⟨b, hb, rfl⟩ := List.mem_map.mp hmem
      exact hv b (hselected.mem_iff.mp hb)
  refine ⟨_, chosen.filterMap fun i => scores[i]?, hselected, ?_⟩
  cases blocks with
  | nil => exact absurd rfl hne
  | cons b bs => simp only [hscores, ← hdef, hstack]

end MockSSDController

end AiSsd.Storage
