import AiSsd.Storage.PayloadRuns

/-!
# Plain bytes read back

A write takes bytes of any length. Every read of the block goes through the canonical shape, so
the bytes come back exactly when both payloads have the size of a canonical page.
-/

namespace AiSsd.Storage

open Lib Numpy

universe u

namespace RealInferenceStorageBackend

variable {cfg : BackendConfig} {s : RealInferenceStorageBackend cfg} {α : Type u} {ρ : Type}

section Batch

variable {kind : ReadKind}
  {fetch spanned : ByteFile → Option (Entry cfg.channels) → Except PyErr (ρ × Nat)} {l : Nat}

/-- A batch whose blocks all decode returns what a listed block decodes to. -/
theorem readBatch_page (hmode : KnownMode cfg)
    (hspan : ∀ b, spanned s.file (s.storage.get? (l, b)) = fetch s.file (s.storage.get? (l, b)))
    {bids : List Nat} {b n : Nat} (hb : b ∈ bids) {ret : ρ}
    (hret : fetch s.file (s.storage.get? (l, b)) = .ok (ret, n))
    (hothers : ∀ b' ∈ bids, b' ≠ b → ∃ r, fetch s.file (s.storage.get? (l, b')) = .ok r)
    (h ts : Nat) :
    ∃ out, (readBatch kind spanned (readSingle kind fetch) s l bids h ts).1 = .ok out ∧
      out.get? b = some ret := by
  have hpages : ∀ b', ∃ r : ρ × Nat,
      b' ∈ bids → fetch s.file (s.storage.get? (l, b')) = .ok r := by
    intro b'
    by_cases heq : b' = b
    · exact ⟨(ret, n), fun _ => heq ▸ hret⟩
    · by_cases hb' : b' ∈ bids
      · obtain ⟨r, hr⟩ := hothers b' hb' heq
        exact ⟨r, fun _ => hr⟩
      · exact ⟨(ret, n), fun h => absurd h hb'⟩
  choose r hr using hpages
  obtain ⟨out, hout, hget⟩ := @readBatch_ok cfg s ρ kind spanned (readSingle kind fetch)
    (fun s l b h ts => sameStore_readSingle kind fetch s l b h ts) l bids (fun b => (r b).1)
    (fun b => (r b).2) h ts (fun b' hb' => by rw [hspan]; exact hr b' hb')
    (fun s' hs b' hb' => readSingle_ok hmode (n := (r b').2)
      (by rw [hs.file_eq, hs.storage_eq]; exact hr b' hb') h ts)
  have hone : (r b).1 = ret := by
    have heq := (hr b hb).symm.trans hret
    rw [Except.ok.injEq] at heq
    rw [heq]
  exact ⟨out, hout, by rw [hget b, if_pos hb, hone]⟩

end Batch

/-! ## What scoring is handed -/

section Topk

variable [Field α] [LinearOrder α] (val : DType → Bytes → α)

/-- What `compute_topk_filter` makes of the key blocks that it has read. -/
def scoreKeys (kernel : Option (Kernel α)) (candBids : List (Nat × Nat)) (kBlocks : List NDArray)
    (query : List (List α)) (topK : Nat) (scale : α) (qHeads kvHeads headDim : Nat) :
    Except PyErr (List (α × Nat × Nat)) :=
  match kernel with
  | some computeTopkGqa =>
      match computeTopkGqa query kBlocks (candBids.map Prod.snd) topK qHeads kvHeads headDim with
      | .error err => .error err
      | .ok (indices, scores) => namedScores candBids indices scores
  | none => scoreCandidates val query candBids kBlocks topK scale qHeads kvHeads

theorem computeTopkFilter_scoreKeys (s : RealInferenceStorageBackend cfg) (l : Nat)
    {cands : List (Nat × Nat)} (hcands : cands ≠ []) {kBlocks : List NDArray}
    (hkeys : (cands.map (candidateInfo s l)).mapM (candidateKeys s l) = .ok kBlocks)
    (kernel : Option (Kernel α)) (query : List (List α)) (topK : Nat) (scale : α)
    (qHeads kvHeads headDim : Nat) :
    (computeTopkFilter val kernel s l cands query topK scale qHeads kvHeads headDim).1 =
      scoreKeys val kernel cands kBlocks query topK scale qHeads kvHeads headDim := by
  have hresults : topkResults val kernel s l cands query topK scale qHeads kvHeads headDim =
      scoreKeys val kernel cands kBlocks query topK scale qHeads kvHeads headDim := by
    simp only [topkResults, hkeys]
    rfl
  unfold computeTopkFilter
  rw [if_neg hcands, hresults]
  dsimp only
  cases scoreKeys val kernel cands kBlocks query topK scale qHeads kvHeads headDim <;> rfl

/-! ## Every read sees the bytes -/

/-- Each read of the block returns arrays of exactly these bytes: the single reads, every batch
whose other blocks decode, and the key blocks that every scoring call is handed whose other
candidates decode. -/
structure RawSeen (s : RealInferenceStorageBackend cfg) (l b : Nat) (kBytes vBytes : Bytes) :
    Prop where
  key : ∀ h ts, ∃ k, (readKeyPage s l b h ts).1 = .ok k ∧ k.data = kBytes
  value : ∀ h ts, ∃ v, (readValuePage s l b h ts).1 = .ok v ∧ v.data = vBytes
  block : ∀ h ts, ∃ kv, (readBlock s l b h ts).1 = .ok kv ∧ kv.1.data = kBytes ∧ kv.2.data = vBytes
  keyBatch : ∀ bids h ts, b ∈ bids → (∀ b' ∈ bids, b' ≠ b → BlockFits .key s l b') →
    ∃ out k, (readKeyPageBatch s l bids h ts).1 = .ok out ∧ out.get? b = some k ∧ k.data = kBytes
  valueBatch : ∀ bids h ts, b ∈ bids → (∀ b' ∈ bids, b' ≠ b → BlockFits .value s l b') →
    ∃ out v, (readValuePageBatch s l bids h ts).1 = .ok out ∧ out.get? b = some v ∧
      v.data = vBytes
  blockBatch : ∀ bids h ts, b ∈ bids → (∀ b' ∈ bids, b' ≠ b → BlockFits .block s l b') →
    ∃ out kv, (readBlockBatch s l bids h ts).1 = .ok out ∧ out.get? b = some kv ∧
      kv.1.data = kBytes ∧ kv.2.data = vBytes
  topk : ∀ cands : List (Nat × Nat), cands ≠ [] →
    (∀ cand ∈ cands, cand.1 ≠ b → ∃ k, candidateKeys s l (candidateInfo s l cand) = .ok k) →
    ∃ kBlocks, List.Forall₂ (fun cand k => cand.1 = b → k.data = kBytes) cands kBlocks ∧
      ∀ (kernel : Option (Kernel α)) query topK scale qHeads kvHeads headDim,
        (computeTopkFilter val kernel s l cands query topK scale qHeads kvHeads headDim).1 =
          scoreKeys val kernel cands kBlocks query topK scale qHeads kvHeads headDim

variable (cfg) in
def canonicalBytes : Nat := cfg.canonicalShape.prod * float32.itemsize

variable {val} {kBytes vBytes : Bytes}

theorem candidateKeys_some {e : Entry cfg.channels} {l : Nat} {cand : Nat × Nat}
    (he : s.storage.get? (l, cand.1) = some e) {k v : NDArray} (h : EntryHolds s.file e k v) :
    candidateKeys s l (candidateInfo s l cand) = .ok k := by
  have hdec := NDArray.decode_data k
  rw [← h.kData, ← h.kDtype_eq, ← h.kShape_eq] at hdec
  simp only [candidateKeys, candidateInfo, he, hdec]

/-- Two payloads of the canonical size are arrays, which every read returns. -/
theorem rawSeen_of_length (hmode : KnownMode cfg) {requests : List (Request α)}
    (hlaid : Laid s requests) {l b : Nat} {e : Entry cfg.channels}
    (he : s.storage.get? (l, b) = some e)
    (hextents : Extents s.file e (pack cfg (.raw kBytes)) (pack cfg (.raw vBytes)))
    (hk : kBytes.length = canonicalBytes cfg) (hv : vBytes.length = canonicalBytes cfg) :
    RawSeen val s l b kBytes vBytes := by
  let k : NDArray := ⟨float32, cfg.canonicalShape, kBytes, hk⟩
  let v : NDArray := ⟨float32, cfg.canonicalShape, vBytes, hv⟩
  have hentry : EntryHolds s.file e k v := entryHolds_iff.mpr hextents
  have hkey : fetchKey s.file (s.storage.get? (l, b)) = .ok (k, e.kSize) := by
    rw [he]
    exact fetchKey_some hentry
  have hvalue : fetchValue s.file (s.storage.get? (l, b)) = .ok (v, e.vSize) := by
    rw [he]
    exact fetchValue_some hentry
  have hblock : fetchBlock s.file (s.storage.get? (l, b)) = .ok ((k, v), e.kSize + e.vSize) := by
    rw [he]
    exact fetchBlock_some hentry
  refine ⟨fun h ts => ⟨k, readSingle_ok hmode hkey h ts, rfl⟩,
    fun h ts => ⟨v, readSingle_ok hmode hvalue h ts, rfl⟩,
    fun h ts => ⟨(k, v), readSingle_ok hmode hblock h ts, rfl, rfl⟩, ?_, ?_, ?_, ?_⟩
  · intro bids h ts hb hothers
    have hpage : ∃ out, (readKeyPageBatch s l bids h ts).1 = .ok out ∧ out.get? b = some k :=
      readBatch_page hmode (fun _ => rfl) hb hkey
        (fun b' hb' hne => (hlaid.fetchKey_ok_iff l b').mpr (hothers b' hb' hne)) h ts
    obtain ⟨out, hout, hget⟩ := hpage
    exact ⟨out, k, hout, hget, rfl⟩
  · intro bids h ts hb hothers
    have hpage : ∃ out, (readValuePageBatch s l bids h ts).1 = .ok out ∧ out.get? b = some v :=
      readBatch_page hmode (fun _ => rfl) hb hvalue
        (fun b' hb' hne => (hlaid.fetchValue_ok_iff l b').mpr (hothers b' hb' hne)) h ts
    obtain ⟨out, hout, hget⟩ := hpage
    exact ⟨out, v, hout, hget, rfl⟩
  · intro bids h ts hb hothers
    have hpage : ∃ out, (readBlockBatch s l bids h ts).1 = .ok out ∧
        out.get? b = some (k, v) :=
      readBatch_page hmode (hlaid.fetchBlockSpan_eq l) hb hblock
        (fun b' hb' hne => (hlaid.fetchBlock_ok_iff l b').mpr (hothers b' hb' hne)) h ts
    obtain ⟨out, hout, hget⟩ := hpage
    exact ⟨out, (k, v), hout, hget, rfl, rfl⟩
  · intro cands hcands hothers
    have hcand : ∀ cand, cand.1 = b → candidateKeys s l (candidateInfo s l cand) = .ok k :=
      fun cand heq => candidateKeys_some (heq ▸ he) hentry
    have hdecode : ∀ cand ∈ cands, ∃ k', candidateKeys s l (candidateInfo s l cand) = .ok k' := by
      intro cand hmem
      by_cases heq : cand.1 = b
      · exact ⟨k, hcand cand heq⟩
      · exact hothers cand hmem heq
    obtain ⟨kBlocks, hkeys, -⟩ := mapM_ok_length hdecode
    have hall : List.Forall₂ (fun cand k' => cand.1 = b → k'.data = kBytes) cands kBlocks := by
      refine (mapM_eq_ok hkeys).imp fun cand k' hk' heq => ?_
      rw [hcand cand heq, Except.ok.injEq] at hk'
      rw [← hk']
    refine ⟨kBlocks, hall, ?_⟩
    intro kernel query topK scale qHeads kvHeads headDim
    refine computeTopkFilter_scoreKeys val s l hcands ?_ kernel query topK scale qHeads kvHeads
      headDim
    rw [List.mapM_map]
    exact hkeys

theorem fits_of_readSingle {kind : ReadKind}
    {fetch : ByteFile → Option (Entry cfg.channels) → Except PyErr (ρ × Nat)} {l b h ts : Nat}
    {ret : ρ} (hread : (readSingle kind fetch s l b h ts).1 = .ok ret) :
    ∃ r, fetch s.file (s.storage.get? (l, b)) = .ok r := by
  unfold readSingle at hread
  split at hread
  · cases hread
  · split at hread
    · cases hread
    · exact ⟨_, ‹_›⟩

/-- After every run in which the last write to a stored block was of plain bytes, all reads of
the block see exactly these bytes when both payloads have the size of a canonical page, and in
no other case. -/
theorem raw_payload_read_back_iff (cfg : BackendConfig) (val : DType → Bytes → α)
    (kernel : Option (Kernel α)) (requests : List (Request α)) (layerIdx blockId : Nat)
    (kBytes vBytes : Bytes)
    (hstored : containsBlock ((server cfg val kernel).exec init requests) layerIdx blockId = true)
    (hlast : lastPayload requests (layerIdx, blockId) = some (.raw kBytes, .raw vBytes)) :
    RawSeen val ((server cfg val kernel).exec init requests) layerIdx blockId kBytes vBytes ↔
      kBytes.length = canonicalBytes cfg ∧ vBytes.length = canonicalBytes cfg := by
  have hlaid : Laid ((server cfg val kernel).exec init requests) requests := laid_run requests
  generalize (server cfg val kernel).exec init requests = s at hlaid hstored ⊢
  obtain ⟨e, he⟩ := Option.isSome_iff_exists.mp hstored
  obtain ⟨k, v, hpayload, hextents⟩ := hlaid.entries (layerIdx, blockId) e he
  rw [hlast, Option.some.injEq, Prod.mk.injEq] at hpayload
  obtain ⟨rfl, rfl⟩ := hpayload
  constructor
  · intro hseen
    obtain ⟨k, hk, -⟩ := hseen.key 0 0
    obtain ⟨v, hv, -⟩ := hseen.value 0 0
    have hkfits := (hlaid.fetchKey_ok_iff layerIdx blockId).mp (fits_of_readSingle hk) e he
    have hvfits := (hlaid.fetchValue_ok_iff layerIdx blockId).mp (fits_of_readSingle hv) e he
    rw [Fits, hextents.kSize_eq, hextents.kShape_eq, hextents.kDtype_eq] at hkfits
    rw [Fits, hextents.vSize_eq, hextents.vShape_eq, hextents.vDtype_eq] at hvfits
    exact ⟨hkfits, hvfits⟩
  · rintro ⟨hk, hv⟩
    exact rawSeen_of_length (hlaid.known _ e he) hlaid he hextents hk hv

/-- One float of raw bytes for each page, beside another block. -/
theorem raw_payload_read_back_one_float :
    RawSeen (fun _ _ => (0 : ℚ)) ((server tinyConfig (fun _ _ => (0 : ℚ)) none).exec init
        [.write 0 0 (.raw [1, 2, 3, 4]) (.raw [5, 6, 7, 8]) 0 0,
          .write 0 1 (.raw [1]) (.raw []) 0 0]) 0 0 [1, 2, 3, 4] [5, 6, 7, 8] ↔
      [1, 2, 3, 4].length = canonicalBytes tinyConfig ∧
        [5, 6, 7, 8].length = canonicalBytes tinyConfig :=
  raw_payload_read_back_iff tinyConfig (fun _ _ => (0 : ℚ)) none _ 0 0 _ _ (by decide +kernel) rfl

/-- Eight bytes are accepted where a page has four, and no read of them returns. -/
theorem long_raw_payload_is_lost :
    let s := (writeBlock (init : RealInferenceStorageBackend tinyConfig) 0 0
      (.raw [1, 2, 3, 4, 5, 6, 7, 8]) (.raw [1, 2, 3, 4, 5, 6, 7, 8]) 0 0).2
    (writeBlock (init : RealInferenceStorageBackend tinyConfig) 0 0
        (.raw [1, 2, 3, 4, 5, 6, 7, 8]) (.raw [1, 2, 3, 4, 5, 6, 7, 8]) 0 0).1 = .ok () ∧
      containsBlock s 0 0 = true ∧
      (readKeyPage s 0 0 0 0).1 =
        .error (.valueError "cannot reshape array of size 2 into shape (1,1,1)") ∧
      (readValuePage s 0 0 0 0).1 = (readKeyPage s 0 0 0 0).1 ∧
      (readBlock s 0 0 0 0).1 =
        .error (.valueError "cannot reshape array of size 2 into shape (1,1,1)") ∧
      (computeTopkFilter (fun _ _ => (0 : ℚ)) none s 0 [(0, 1)] [[1]] 1 1 1 1 1).1 =
        .error (.valueError "cannot reshape array of size 2 into shape (1,1,1)") := by
  refine ⟨rfl, by decide +kernel, by decide +kernel, by decide +kernel, by decide +kernel, ?_⟩
  decide +kernel

end Topk

end RealInferenceStorageBackend

end AiSsd.Storage
