import AiSsd.Inference.Serving
import AiSsd.Storage.InferenceContract

/-!
# Stores to decode over

`AISSDBlockStorageBackend` is the store that `create_default_storage_backend` falls back to: a
dictionary of float32 blocks with counters. It serves a decode of float32 blocks, and so does
every store that returns the last write, the file backend among them.
-/

namespace AiSsd.Inference

open Lib Numpy Storage
open Adapters (Astype)
open Adapters.TransformerKVStateProvider (readPages readPages_ok readWinners readWinners_ok)

universe u v

/-! ## The block store -/

structure AISSDBlockStorageBackend where
  blocks : Dict (Nat × Nat) (NDArray × NDArray)
  bytesRead : Nat
  bytesWritten : Nat
  blocksRead : Nat
  blocksWritten : Nat
  requests : Nat
  storageBatches : Nat
  batchedRequests : Nat

namespace AISSDBlockStorageBackend

def init : AISSDBlockStorageBackend := ⟨Dict.empty, 0, 0, 0, 0, 0, 0, 0⟩

/-- `np.ascontiguousarray(block, dtype=np.float32)`. -/
def asFloat32 (A : Astype) (a : NDArray) : NDArray where
  dtype := float32
  shape := a.ascontiguousarray.shape
  data := A.astype a.ascontiguousarray.dtype float32 a.ascontiguousarray.data
  size_eq := A.length_astype _ _ _ _ a.ascontiguousarray.size_eq

def writeBlock (A : Astype) (s : AISSDBlockStorageBackend) (layerIdx blockId : Nat)
    (kBlock vBlock : NDArray) : AISSDBlockStorageBackend :=
  { s with
    blocks := s.blocks.set (layerIdx, blockId) (asFloat32 A kBlock, asFloat32 A vBlock)
    blocksWritten := s.blocksWritten + 1
    bytesWritten := s.bytesWritten + 8192 }

/-- `self.blocks[(layer_idx, block_id)][page]`. -/
def lookup {ρ : Type} (page : NDArray × NDArray → ρ) (s : AISSDBlockStorageBackend)
    (layerIdx blockId : Nat) : Except PyErr ρ :=
  match s.blocks.get? (layerIdx, blockId) with
  | none => .error (.keyError (toString (layerIdx, blockId)))
  | some kv => .ok (page kv)

/-- Both counts go up before a missing block raises. -/
def readKeyPage (s : AISSDBlockStorageBackend) (layerIdx blockId : Nat) :
    Except PyErr NDArray × AISSDBlockStorageBackend :=
  (lookup Prod.fst s layerIdx blockId,
    { s with requests := s.requests + 1, bytesRead := s.bytesRead + 4096 })

def readValuePage (s : AISSDBlockStorageBackend) (layerIdx blockId : Nat) :
    Except PyErr NDArray × AISSDBlockStorageBackend :=
  (lookup Prod.snd s layerIdx blockId,
    { s with
      requests := s.requests + 1
      blocksRead := s.blocksRead + 1
      bytesRead := s.bytesRead + 4096 })

def readBlock (s : AISSDBlockStorageBackend) (layerIdx blockId : Nat) :
    Except PyErr (NDArray × NDArray) × AISSDBlockStorageBackend :=
  andThen (readKeyPage s layerIdx blockId) fun k s =>
    andThen (readValuePage s layerIdx blockId) fun v s => (.ok (k, v), s)

def readBatch {ρ : Type}
    (single : AISSDBlockStorageBackend → (layerIdx blockId : Nat) →
      Except PyErr ρ × AISSDBlockStorageBackend)
    (s : AISSDBlockStorageBackend) (layerIdx : Nat) (blockIds : List Nat) :
    Except PyErr (Dict Nat ρ) × AISSDBlockStorageBackend :=
  andThen (readEach (fun s bid => single s layerIdx bid) blockIds Dict.empty s) fun res s =>
    (.ok res,
      { s with
        storageBatches := s.storageBatches + 1
        batchedRequests := s.batchedRequests + blockIds.length })

def readKeyPageBatch := readBatch readKeyPage

def readValuePageBatch := readBatch readValuePage

def readBlockBatch := readBatch readBlock

def resetStats (s : AISSDBlockStorageBackend) : AISSDBlockStorageBackend :=
  { init with blocks := s.blocks }

/-- The store as its callers see it. It evicts, scores and prefetches nothing, and the provider
never calls `read_block`, which it has only as part of a batch. -/
def blockBackend {α : Type u} (A : Astype) : BlockBackend AISSDBlockStorageBackend α where
  writeBlock := fun s l b k v _ _ => (.ok (), writeBlock A s l b k v)
  readKeyPage := fun s l b _ _ => readKeyPage s l b
  readValuePage := fun s l b _ _ => readValuePage s l b
  readBlock := fun s l b _ _ => readBlock s l b
  readKeyPageBatch := some fun s l bids _ _ => readKeyPageBatch s l bids
  readValuePageBatch := some fun s l bids _ _ => readValuePageBatch s l bids
  readBlockBatch := some fun s l bids _ _ => readBlockBatch s l bids
  evictBlock := none
  computeTopkFilter := none
  predictAndPrefetch := none

/-! ## What it reads -/

variable {s : AISSDBlockStorageBackend} {l : Nat}

def Has (s : AISSDBlockStorageBackend) (c : Content) : Prop :=
  ∀ key kv, c key = some kv → s.blocks.get? key = some kv

theorem has_init (b : AISSDBlockStorageBackend) : Has b fun _ => none := by
  rintro key kv ⟨⟩

theorem readKeyPage_ok {c : Content} (h : Has s c) {bid : Nat} {kv : NDArray × NDArray}
    (hkv : c (l, bid) = some kv) :
    (readKeyPage s l bid).1 = .ok kv.1 ∧ Has (readKeyPage s l bid).2 c := by
  refine ⟨?_, h⟩
  simp only [readKeyPage, lookup, h _ _ hkv]

theorem readValuePage_ok {c : Content} (h : Has s c) {bid : Nat} {kv : NDArray × NDArray}
    (hkv : c (l, bid) = some kv) :
    (readValuePage s l bid).1 = .ok kv.2 ∧ Has (readValuePage s l bid).2 c := by
  refine ⟨?_, h⟩
  simp only [readValuePage, lookup, h _ _ hkv]

theorem readBlock_ok {c : Content} (h : Has s c) {bid : Nat} {kv : NDArray × NDArray}
    (hkv : c (l, bid) = some kv) :
    (readBlock s l bid).1 = .ok (id kv) ∧ Has (readBlock s l bid).2 c := by
  simp only [readBlock, readKeyPage, readValuePage, lookup, h _ _ hkv, andThen_ok]
  exact ⟨rfl, h⟩

theorem readBatch_ok {ρ : Type} {page : NDArray × NDArray → ρ}
    {single : AISSDBlockStorageBackend → (layerIdx blockId : Nat) →
      Except PyErr ρ × AISSDBlockStorageBackend} {c : Content}
    (hsingle : ∀ s bid kv, Has s c → c (l, bid) = some kv →
      (single s l bid).1 = .ok (page kv) ∧ Has (single s l bid).2 c)
    (h : Has s c) {bids : List Nat} (hstored : Stored c l bids) :
    ∃ pages s', readBatch single s l bids = (.ok pages, s') ∧ Has s' c ∧
      Paged c l bids page pages := by
  have hloop : ∀ (bids : List Nat) (res : Dict Nat ρ) (s : AISSDBlockStorageBackend), Has s c →
      Stored c l bids → ∃ pages s',
        readEach (fun s bid => single s l bid) bids res s = (.ok pages, s') ∧ Has s' c ∧
          ∀ bid, pages.get? bid = if bid ∈ bids then (c (l, bid)).map page else res.get? bid := by
    intro bids
    induction bids with
    | nil => exact fun res s h _ => ⟨res, s, rfl, h, fun bid => by simp⟩
    | cons bid bids ih =>
        intro res s h hstored
        obtain ⟨kv, hkv⟩ := Option.isSome_iff_exists.mp (hstored bid List.mem_cons_self)
        obtain ⟨hok, hnext⟩ := hsingle s bid kv h hkv
        obtain ⟨pages, s', hrest, hs', hget⟩ := ih (res.set bid (page kv)) _ hnext
          fun bid' hbid' => hstored bid' (List.mem_cons_of_mem bid hbid')
        have hcall : single s l bid = (.ok (page kv), (single s l bid).2) := Prod.ext hok rfl
        refine ⟨pages, s', ?_, hs', fun bid' => ?_⟩
        · rw [readEach, hcall]
          exact hrest
        · have hpage : (c (l, bid)).map page = some (page kv) := by rw [hkv, Option.map_some]
          rw [hget bid', Dict.get?_set_listed (f := fun b => (c (l, b)).map page) hpage]
  obtain ⟨pages, s', hread, hs', hget⟩ := hloop bids Dict.empty s h hstored
  refine ⟨pages, { s' with
    storageBatches := s'.storageBatches + 1
    batchedRequests := s'.batchedRequests + bids.length }, ?_, hs', fun bid hbid => ?_⟩
  · rw [readBatch, hread, andThen_ok]
  · rw [hget bid, if_pos hbid]

theorem serves {α : Type u} (A : Astype) (numLayers : Nat) :
    Serves (blockBackend A : BlockBackend AISSDBlockStorageBackend α) numLayers Has where
  keys := fun _ _ _ _ h hstored => readBatch_ok (fun _ _ _ h => readKeyPage_ok h) h hstored
  values := fun _ _ _ _ h hstored => readBatch_ok (fun _ _ _ h => readValuePage_ok h) h hstored
  winners := by
    intro s c l bids h hstored
    obtain ⟨blocks, s', hread, hs', hpaged⟩ :=
      readBatch_ok (fun _ _ _ h => readBlock_ok h) h hstored
    obtain ⟨keyPages, valuePages, hwinners, hkeys, hvalues⟩ :=
      winners_of_batch (B := blockBackend (α := α) A) rfl hread hpaged hstored
    exact ⟨keyPages, valuePages, s', hwinners, hs', hkeys, hvalues⟩
  prefetches := by rintro prefetch ⟨⟩

theorem asFloat32_of_float32 (A : Astype) {a : NDArray} (hshape : a.shape ≠ [])
    (hdtype : a.dtype = float32) : asFloat32 A a = a := by
  obtain ⟨dtype, shape, data, size_eq⟩ := a
  obtain rfl := hdtype
  simp only [asFloat32, NDArray.ascontiguousarray_of_ne hshape, A.astype_self]

def decodes {α : Type u} (A : Astype) (numLayers : Nat) :
    Decodes (blockBackend A : BlockBackend AISSDBlockStorageBackend α) resetStats numLayers
      (fun a => a.shape ≠ [] ∧ a.dtype = float32) where
  writing := Has
  reading := Has
  stores := by
    intro s c l bid k v h hk hv
    refine ⟨_, rfl, fun key kv hkv => ?_⟩
    simp only [writeBlock, asFloat32_of_float32 A hk.1 hk.2, asFloat32_of_float32 A hv.1 hv.2,
      Dict.get?_set]
    by_cases hkey : (l, bid) = key
    · subst hkey
      rw [Function.update_self] at hkv
      rw [if_pos rfl, hkv]
    · rw [Function.update_of_ne (Ne.symm hkey)] at hkv
      rw [if_neg hkey]
      exact h key kv hkv
  serves := serves A numLayers
  ready := fun _ _ h => h

end AISSDBlockStorageBackend

/-! ## Stores that return the last write -/

section LastWrite

variable {σ : Type v} {α : Type u} {B : BlockBackend σ α} (V : B.ReturnsLastWrite)

def Keeping (s : σ) (c : Content) : Prop := V.Valid s ∧ V.content s = c

variable {V}

theorem Keeping.next {s s' : σ} {c : Content} (h : Keeping V s c) (hs : V.Keeps s s') :
    Keeping V s' c :=
  ⟨hs.valid, hs.content_eq.trans h.2⟩

variable (V)

theorem serves_of_returnsLastWrite (numLayers : Nat) : Serves B numLayers (Keeping V) where
  keys := by
    rintro s c l bids ⟨hs, rfl⟩ hstored
    obtain ⟨blk, hblk⟩ := exists_blk hstored
    obtain ⟨pages, s', hread, hkeeps, hget⟩ := readPages_ok V.keyBatch V.key hs hblk
    refine ⟨pages, s', hread, ⟨hkeeps.valid, hkeeps.content_eq⟩, fun bid hbid => ?_⟩
    rw [hget bid hbid, hblk bid hbid, Option.map_some]
  values := by
    rintro s c l bids ⟨hs, rfl⟩ hstored
    obtain ⟨blk, hblk⟩ := exists_blk hstored
    obtain ⟨pages, s', hread, hkeeps, hget⟩ := readPages_ok V.valueBatch V.value hs hblk
    refine ⟨pages, s', hread, ⟨hkeeps.valid, hkeeps.content_eq⟩, fun bid hbid => ?_⟩
    rw [hget bid hbid, hblk bid hbid, Option.map_some]
  winners := by
    rintro s c l bids ⟨hs, rfl⟩ hstored
    obtain ⟨blk, hblk⟩ := exists_blk hstored
    obtain ⟨keyPages, valuePages, s', hread, hkeeps, hget⟩ := readWinners_ok (V := V) hs hblk
    refine ⟨keyPages, valuePages, s', hread, ⟨hkeeps.valid, hkeeps.content_eq⟩,
      fun bid hbid => ?_, fun bid hbid => ?_⟩
    · rw [(hget bid hbid).1, hblk bid hbid, Option.map_some]
    · rw [(hget bid hbid).2, hblk bid hbid, Option.map_some]
  prefetches := by
    rintro prefetch hprefetch s c l bids mode ⟨hs, rfl⟩ - -
    obtain ⟨out, hok⟩ := V.prefetch_ok prefetch hprefetch s l bids mode hs
    have hkeeps := V.prefetch_keeps prefetch hprefetch s l bids mode hs
    exact ⟨out, _, Prod.ext hok rfl, hkeeps.valid, hkeeps.content_eq⟩

theorem servesScores_of_scoresStored [Field α] [LinearOrder α] {val : DType → Bytes → α}
    (hscores : BlockBackend.ScoresStored val V) : ServesScores B val (Keeping V) := by
  rintro filter hfilter s c l cands blk query topK scale qHeads kvHeads headDim ⟨hs, rfl⟩ hblk
  have hkeeps := V.topk_keeps filter hfilter s l cands query topK scale qHeads kvHeads headDim hs
  exact ⟨_, Prod.ext (hscores filter hfilter s l cands blk query topK scale qHeads kvHeads headDim
    hs hblk) rfl, hkeeps.valid, hkeeps.content_eq⟩

theorem scoresServed_of_contract [Field α] [LinearOrder α] {cfg : Adapters.ProviderConfig}
    {N : Adapters.Numerics α}
    (hscores : cfg.enableComputationalStorage = false ∨ B.computeTopkFilter = none ∨
      BlockBackend.ScoresStored N.val V) : ScoresServed cfg B N (Keeping V) := by
  rcases hscores with hoff | hnone | hstored
  · exact Or.inl hoff
  · exact Or.inr (Or.inl hnone)
  · exact Or.inr (Or.inr (servesScores_of_scoresStored V hstored))

def decodes_of_returnsLastWrite (numLayers : Nat) {resetStats : σ → σ}
    (hreset : ∀ s, V.Valid s → V.Keeps s (resetStats s)) :
    Decodes B resetStats numLayers fun a => a.shape ≠ [] where
  writing := Keeping V
  reading := Keeping V
  stores := by
    rintro s c l bid k v ⟨hs, rfl⟩ hk hv
    exact ⟨_, Prod.ext (V.write_ok s l bid k v 0 0 hs hk hv) rfl,
      V.write_valid s l bid k v 0 0 hs hk hv, V.write_content s l bid k v 0 0 hs hk hv⟩
  serves := serves_of_returnsLastWrite V numLayers
  ready := fun s _ h => h.next (hreset s h.1)

end LastWrite

/-! ## The file backend -/

/-- `reset_stats` of the file backend, which has no client to reset. -/
def resetFileStats {cfg : BackendConfig} (s : RealInferenceStorageBackend cfg) :
    RealInferenceStorageBackend cfg :=
  { s with telemetry := BackendTelemetry.zero }

theorem keeps_resetFileStats {α : Type u} [Field α] [LinearOrder α] {cfg : BackendConfig}
    {val : DType → Bytes → α} (s : RealInferenceStorageBackend cfg)
    (hs : (RealInferenceStorageBackend.returnsLastWrite cfg val).Valid s) :
    (RealInferenceStorageBackend.returnsLastWrite cfg val).Keeps s (resetFileStats s) :=
  RealInferenceStorageBackend.keeps_of_same hs
    (RealInferenceStorageBackend.sameStore_telemetry BackendTelemetry.zero)

end AiSsd.Inference
