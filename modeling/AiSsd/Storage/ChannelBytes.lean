import AiSsd.Storage.BatchTransparency
import AiSsd.Storage.FailedWrite

/-!
# Bytes by channel

Every operation adds to what the channels count and to the totals. Single reads and complete
batches add the same to both. A write adds what its heads divide, a batch that raises adds to
the channels only, and a scored candidate that is missing adds to the total only.
-/

namespace AiSsd.Storage

open Lib Numpy

universe u

/-! ## What an operation adds -/

namespace BackendTelemetry

variable {channels : Nat} {t t' t'' : BackendTelemetry channels}

def sumReadBytes (t : BackendTelemetry channels) : Nat := ∑ c, t.perChannelReadBytes c

def sumWriteBytes (t : BackendTelemetry channels) : Nat := ∑ c, t.perChannelWriteBytes c

/-- The channels account for all bytes that were read and written. -/
def Conserved (t : BackendTelemetry channels) : Prop :=
  t.sumReadBytes = t.bytesRead ∧ t.sumWriteBytes = t.bytesWritten

structure Adds (t t' : BackendTelemetry channels) (reads total writes written : Nat) : Prop where
  reads_eq : t'.sumReadBytes = t.sumReadBytes + reads
  total_eq : t'.bytesRead = t.bytesRead + total
  writes_eq : t'.sumWriteBytes = t.sumWriteBytes + writes
  written_eq : t'.bytesWritten = t.bytesWritten + written

theorem Adds.refl (t : BackendTelemetry channels) : Adds t t 0 0 0 0 := ⟨rfl, rfl, rfl, rfl⟩

theorem Adds.trans {a b c d a' b' c' d' : Nat} (h : Adds t t' a b c d)
    (h' : Adds t' t'' a' b' c' d') : Adds t t'' (a + a') (b + b') (c + c') (d + d') := by
  obtain ⟨ha, hb, hc, hd⟩ := h
  obtain ⟨ha', hb', hc', hd'⟩ := h'
  constructor <;> omega

/-- What was conserved stays so exactly when as much is added to either side. -/
theorem Adds.conserved_iff {a b c d : Nat} (h : Adds t t' a b c d) (ht : t.Conserved) :
    t'.Conserved ↔ a = b ∧ c = d := by
  obtain ⟨ha, hb, hc, hd⟩ := h
  unfold Conserved at ht ⊢
  omega

theorem adds_channelRead (t : BackendTelemetry channels) (ch : Fin channels) (bytes : Nat) :
    Adds t (t.channelRead ch bytes) bytes 0 0 0 :=
  ⟨DeviceBackend.sum_bump t.perChannelReadBytes ch bytes, rfl, rfl, rfl⟩

theorem adds_countReads (t : BackendTelemetry channels) (kind : ReadKind) (count bytes : Nat) :
    Adds t (t.countReads kind count bytes) 0 bytes 0 0 := by
  cases kind <;> exact ⟨rfl, rfl, rfl, rfl⟩

theorem adds_log (t : BackendTelemetry channels) (record : AccessRecord) :
    Adds t (t.log record) 0 0 0 0 := by
  constructor <;> simp [log, sumReadBytes, sumWriteBytes]

end BackendTelemetry

namespace RealInferenceStorageBackend

open BackendTelemetry

variable {cfg : BackendConfig} {s s' : RealInferenceStorageBackend cfg} {α : Type u} {ρ : Type}

/-! ### Writes -/

theorem adds_assignChannels {l b h ts n : Nat} {offsets : List Nat}
    {t t' : BackendTelemetry cfg.channels} {chs : List (Fin cfg.channels)}
    (hassign : assignChannels l b h ts n offsets t = (.ok chs, t')) :
    Adds t t' 0 0 (offsets.length * n) 0 := by
  induction offsets generalizing t chs with
  | nil =>
      obtain ⟨-, rfl⟩ := Prod.mk.inj hassign
      rw [List.length_nil, Nat.zero_mul]
      exact Adds.refl t
  | cons hOff rest ih =>
      unfold assignChannels at hassign
      dsimp only at hassign
      split at hassign
      · cases hassign
      · rename_i nand _
        split at hassign
        · cases hassign
        · rename_i chs' t'' hrest
          obtain ⟨-, rfl⟩ := Prod.mk.inj hassign
          have hhead : Adds t (t.channelWrite nand.channel n) 0 0 n 0 :=
            ⟨rfl, rfl, DeviceBackend.sum_bump t.perChannelWriteBytes nand.channel n, rfl⟩
          have hall := hhead.trans (ih hrest)
          rwa [List.length_cons, Nat.succ_mul, Nat.add_comm _ n]

/-- A write that is placed adds all its bytes to the total and what its heads divide to the
channels. -/
theorem adds_writeBlock (hmode : KnownMode cfg) (s : RealInferenceStorageBackend cfg) (l b : Nat)
    (k v : Payload) (h ts : Nat) :
    Adds s.telemetry (writeBlock s l b k v h ts).2.telemetry 0 0
      (headsInBlock k *
        (((pack cfg k).bytes.length + (pack cfg v).bytes.length) / headsInBlock k))
      ((pack cfg k).bytes.length + (pack cfg v).bytes.length) := by
  obtain ⟨chs, t, hchs⟩ := assignChannels_ok hmode l b h ts
    (((pack cfg k).bytes.length + (pack cfg v).bytes.length) / headsInBlock k)
    (List.range (headsInBlock k)) s.telemetry
  obtain ⟨addr, haddr⟩ := cfg.mapper.tensorToLba_ok hmode ⟨l, h, ts, 16, some b, 44⟩
  have hadds := adds_assignChannels hchs
  rw [List.length_range] at hadds
  unfold writeBlock
  simp only [hchs, haddr]
  obtain ⟨hreads, htotal, hwrites, hwritten⟩ := hadds
  constructor
  all_goals
    simp only [log, sumReadBytes, sumWriteBytes] at *
    omega

theorem writeBlock_unknown (hmode : ¬ KnownMode cfg) (s : RealInferenceStorageBackend cfg)
    (l b : Nat) (k v : Payload) (h ts : Nat) : (writeBlock s l b k v h ts).2 = s := by
  obtain ⟨name, hname⟩ : ∃ name, cfg.mappingMode = .other name := by
    simpa [KnownMode] using hmode
  unfold writeBlock
  dsimp only
  cases List.range (headsInBlock k) <;>
    simp [assignChannels, hname, DeterministicTensorMapper.tensorToNandPhysical,
      DeterministicTensorMapper.tensorToLba, DeterministicTensorMapper.unknownMode]

/-! ### Reads -/

def pageBytes (kind : ReadKind) (s : RealInferenceStorageBackend cfg) (l b : Nat) : Nat :=
  match kind, s.storage.get? (l, b) with
  | .key, none => (zeroPage cfg).nbytes
  | .value, none => (zeroPage cfg).nbytes
  | .block, none => (zeroPage cfg).nbytes + (zeroPage cfg).nbytes
  | .key, some e => e.kSize
  | .value, some e => e.vSize
  | .block, some e => e.kSize + e.vSize

instance decidableFits : (kind : ReadKind) → (e : Entry cfg.channels) → Decidable (Fits kind e)
  | .key, e => inferInstanceAs (Decidable (e.kSize = e.kShape.prod * e.kDtype.itemsize))
  | .value, e => inferInstanceAs (Decidable (e.vSize = e.vShape.prod * e.vDtype.itemsize))
  | .block, e =>
      inferInstanceAs (Decidable (e.kSize = e.kShape.prod * e.kDtype.itemsize ∧
        e.vSize = e.vShape.prod * e.vDtype.itemsize))

instance decidableBlockFits (kind : ReadKind) (s : RealInferenceStorageBackend cfg) (l b : Nat) :
    Decidable (BlockFits kind s l b) :=
  match he : s.storage.get? (l, b) with
  | none => .isTrue fun e h => by rw [he] at h; cases h
  | some e => decidable_of_iff (Fits kind e) (by simp [BlockFits, he])

def bytesBefore (kind : ReadKind) (s : RealInferenceStorageBackend cfg) (l : Nat) :
    List Nat → Nat
  | [] => 0
  | b :: bids =>
      if BlockFits kind s l b then pageBytes kind s l b + bytesBefore kind s l bids else 0

section Reads

variable {kind : ReadKind} {fetch : ByteFile → Option (Entry cfg.channels) → Except PyErr (ρ × Nat)}

theorem adds_readSingle (s : RealInferenceStorageBackend cfg) (l b h ts : Nat) :
    ∃ n, Adds s.telemetry (readSingle kind fetch s l b h ts).2.telemetry n n 0 0 := by
  unfold readSingle
  split
  · exact ⟨0, Adds.refl _⟩
  · rename_i nand _
    split
    · exact ⟨0, Adds.refl _⟩
    · rename_i ret bytes _
      have hread := (adds_channelRead s.telemetry nand.channel bytes).trans
        (adds_countReads _ kind 1 bytes)
      exact ⟨bytes, by simpa using hread.trans (adds_log _ _)⟩

theorem adds_readEach {read : RealInferenceStorageBackend cfg → Nat →
      Except PyErr ρ × RealInferenceStorageBackend cfg}
    (hread : ∀ s b, ∃ n, Adds s.telemetry (read s b).2.telemetry n n 0 0) (bids : List Nat)
    (results : Dict Nat ρ) (s : RealInferenceStorageBackend cfg) :
    ∃ n, Adds s.telemetry (readEach read bids results s).2.telemetry n n 0 0 := by
  induction bids generalizing results s with
  | nil => exact ⟨0, Adds.refl _⟩
  | cons bid bids ih =>
      obtain ⟨n, hone⟩ := hread s bid
      unfold readEach
      revert hone
      rcases read s bid with ⟨_ | ret, s'⟩
      · exact fun hone => ⟨n, hone⟩
      · intro hone
        obtain ⟨m, hrest⟩ := ih (results.set bid ret) s'
        exact ⟨n + m, hone.trans hrest⟩

theorem adds_batchLoop (s : RealInferenceStorageBackend cfg) (l : Nat) (bids : List Nat)
    (results : Dict Nat ρ) (total : Nat) (t : BackendTelemetry cfg.channels) :
    Adds t (batchLoop fetch s l bids results total t).2
      (decoded (fun b => fetch s.file (s.storage.get? (l, b))) bids).2 0 0 0 := by
  induction bids generalizing results total t with
  | nil => exact Adds.refl t
  | cons bid bids ih =>
      unfold batchLoop decoded
      dsimp only
      cases fetch s.file (s.storage.get? (l, bid)) with
      | error err => exact Adds.refl t
      | ok r => exact (adds_channelRead t _ r.2).trans (ih _ _ _)

theorem decoded_bytes {f : Nat → Except PyErr (ρ × Nat)} {l : Nat}
    (hfits : ∀ b, (∃ r, f b = .ok r) ↔ BlockFits kind s l b)
    (hbytes : ∀ b ret n, f b = .ok (ret, n) → n = pageBytes kind s l b) (bids : List Nat) :
    (decoded f bids).2 = bytesBefore kind s l bids := by
  induction bids with
  | nil => rfl
  | cons bid bids ih =>
      unfold decoded bytesBefore
      have hone := hfits bid
      cases hf : f bid with
      | error err => simp_all
      | ok r =>
          rw [if_pos (hone.mp ⟨r, hf⟩), ← hbytes bid r.1 r.2 hf, ih]

/-- A batched transaction that raises has counted on the channels what came before. -/
theorem adds_readBatch {single : RealInferenceStorageBackend cfg →
      (layerIdx blockId headId tokenStart : Nat) →
        Except PyErr ρ × RealInferenceStorageBackend cfg}
    (hon : cfg.enableBatching = true) {l : Nat}
    (hfits : ∀ b, (∃ r, fetch s.file (s.storage.get? (l, b)) = .ok r) ↔ BlockFits kind s l b)
    (hbytes : ∀ b ret n, fetch s.file (s.storage.get? (l, b)) = .ok (ret, n) →
      n = pageBytes kind s l b) (bids : List Nat) (h ts : Nat) :
    Adds s.telemetry (readBatch kind fetch single s l bids h ts).2.telemetry
      (bytesBefore kind s l bids)
      (if ∀ b ∈ bids, BlockFits kind s l b then bytesBefore kind s l bids else 0) 0 0 := by
  have hdecoded := decoded_bytes hfits hbytes bids
  have hloop := @adds_batchLoop cfg ρ fetch s l bids Dict.empty 0 s.telemetry
  obtain ⟨hresult, -⟩ := @batchLoop_eq cfg ρ fetch s l bids Dict.empty 0 s.telemetry
  have hall := @collect_isOk_iff ρ (fun b => fetch s.file (s.storage.get? (l, b))) bids
    Dict.empty 0
  rw [hdecoded] at hloop
  simp only [hfits] at hall
  unfold readBatch
  by_cases hnil : bids = []
  · rw [if_pos hnil, hnil]
    simpa [bytesBefore] using Adds.refl s.telemetry
  · rw [if_neg hnil, if_neg (by simp [hon])]
    revert hresult hloop
    rcases batchLoop fetch s l bids Dict.empty 0 s.telemetry with ⟨_ | ⟨out, n⟩, t⟩
    · intro hloop hresult
      rw [if_neg (by rw [← hall, ← hresult]; simp)]
      exact hloop
    · intro hloop hresult
      obtain ⟨-, hn⟩ := collect_counted hresult.symm
      rw [Nat.zero_add, hdecoded] at hn
      rw [if_pos (by rw [← hall, ← hresult]; exact ⟨_, rfl⟩)]
      have hbatch : Adds t { t with
          storageBatches := t.storageBatches + 1
          batchedRequests := t.batchedRequests + bids.length } 0 0 0 0 := ⟨rfl, rfl, rfl, rfl⟩
      have hcount := ((hloop.trans hbatch).trans (adds_countReads _ kind bids.length n)).trans
        (adds_log _ (.batchRead kind l h bids.length n))
      subst hn
      simpa using hcount

/-- A batch read keeps the balance unless it is batched and raises after a block with bytes. -/
theorem conserved_readBatch_iff {single : RealInferenceStorageBackend cfg →
      (layerIdx blockId headId tokenStart : Nat) →
        Except PyErr ρ × RealInferenceStorageBackend cfg}
    (hsingle : ∀ s l b h ts, ∃ n, Adds s.telemetry (single s l b h ts).2.telemetry n n 0 0) {l : Nat}
    (hfits : ∀ b, (∃ r, fetch s.file (s.storage.get? (l, b)) = .ok r) ↔ BlockFits kind s l b)
    (hbytes : ∀ b ret n, fetch s.file (s.storage.get? (l, b)) = .ok (ret, n) →
      n = pageBytes kind s l b) (bids : List Nat) (h ts : Nat) (hs : s.telemetry.Conserved) :
    (readBatch kind fetch single s l bids h ts).2.telemetry.Conserved ↔
      (cfg.enableBatching = true →
        (∀ b ∈ bids, BlockFits kind s l b) ∨ bytesBefore kind s l bids = 0) := by
  cases hbatching : cfg.enableBatching with
  | true =>
      rw [(adds_readBatch hbatching hfits hbytes bids h ts).conserved_iff hs]
      by_cases hall : ∀ b ∈ bids, BlockFits kind s l b
      · rw [if_pos hall]
        simp only [and_self, true_implies, true_iff]
        exact Or.inl hall
      · rw [if_neg hall]
        simp only [and_true, true_implies, hall, false_or]
  | false =>
      have heach : ∃ n, Adds s.telemetry (readBatch kind fetch single s l bids h ts).2.telemetry
          n n 0 0 := by
        unfold readBatch
        split
        · exact ⟨0, Adds.refl _⟩
        · exact adds_readEach (fun s b => hsingle s l b h ts) bids Dict.empty s
      obtain ⟨n, hn⟩ := heach
      simp [hn.conserved_iff hs]

end Reads

theorem fetchKey_bytes (s : RealInferenceStorageBackend cfg) (l b : Nat) (ret : NDArray) (n : Nat)
    (hfetch : fetchKey s.file (s.storage.get? (l, b)) = .ok (ret, n)) :
    n = pageBytes .key s l b := by
  unfold pageBytes
  cases he : s.storage.get? (l, b) with
  | none =>
      rw [he] at hfetch
      cases hfetch
      rfl
  | some e =>
      rw [he, fetchKey] at hfetch
      split at hfetch
      · cases hfetch
      · cases hfetch
        rfl

theorem fetchValue_bytes (s : RealInferenceStorageBackend cfg) (l b : Nat) (ret : NDArray)
    (n : Nat) (hfetch : fetchValue s.file (s.storage.get? (l, b)) = .ok (ret, n)) :
    n = pageBytes .value s l b := by
  unfold pageBytes
  cases he : s.storage.get? (l, b) with
  | none =>
      rw [he] at hfetch
      cases hfetch
      rfl
  | some e =>
      rw [he, fetchValue] at hfetch
      split at hfetch
      · cases hfetch
      · cases hfetch
        rfl

theorem fetchBlock_bytes (s : RealInferenceStorageBackend cfg) (l b : Nat)
    (ret : NDArray × NDArray) (n : Nat)
    (hfetch : fetchBlock s.file (s.storage.get? (l, b)) = .ok (ret, n)) :
    n = pageBytes .block s l b := by
  unfold pageBytes
  cases he : s.storage.get? (l, b) with
  | none =>
      rw [he] at hfetch
      cases hfetch
      rfl
  | some e =>
      rw [he, fetchBlock, decodeBlock] at hfetch
      split at hfetch
      · cases hfetch
      · split at hfetch
        · cases hfetch
        · cases hfetch
          rfl

/-! ### Scoring -/

def storedCandidates (s : RealInferenceStorageBackend cfg) (l : Nat) (cands : List (Nat × Nat)) :
    List (Nat × Nat) :=
  cands.filter fun cand => (s.storage.get? (l, cand.1)).isSome

theorem storedCandidates_of_missing {l : Nat} {cand : Nat × Nat}
    (h : s.storage.get? (l, cand.1) = none) (cands : List (Nat × Nat)) :
    storedCandidates s l (cand :: cands) = storedCandidates s l cands := by
  simp [storedCandidates, h]

theorem storedCandidates_of_stored {l : Nat} {cand : Nat × Nat} {e : Entry cfg.channels}
    (h : s.storage.get? (l, cand.1) = some e) (cands : List (Nat × Nat)) :
    storedCandidates s l (cand :: cands) = cand :: storedCandidates s l cands := by
  simp [storedCandidates, h]

theorem adds_countCandidates (s : RealInferenceStorageBackend cfg) (l : Nat)
    (cands : List (Nat × Nat)) :
    Adds s.telemetry (countCandidates s l cands)
      ((storedCandidates s l cands).map fun cand => pageBytes .key s l cand.1).sum 0 0 0 := by
  unfold countCandidates
  generalize s.telemetry = t
  induction cands generalizing t with
  | nil => exact Adds.refl t
  | cons cand cands ih =>
      rw [List.foldl_cons]
      cases he : s.storage.get? (l, cand.1) with
      | none =>
          rw [storedCandidates_of_missing he]
          exact ih t
      | some e =>
          have hbytes : pageBytes .key s l cand.1 = e.kSize := by simp [pageBytes, he]
          rw [storedCandidates_of_stored he, List.map_cons, List.sum_cons, hbytes]
          exact (adds_channelRead t e.channel e.kSize).trans (ih _)

theorem sum_candidateInfo (s : RealInferenceStorageBackend cfg) (l : Nat)
    (cands : List (Nat × Nat)) :
    ((cands.map (candidateInfo s l)).map fun c => c.2.1).sum =
      ((storedCandidates s l cands).map fun cand => pageBytes .key s l cand.1).sum +
        4096 * (cands.length - (storedCandidates s l cands).length) := by
  induction cands with
  | nil => rfl
  | cons cand cands ih =>
      have hle : (storedCandidates s l cands).length ≤ cands.length :=
        List.length_filter_le _ cands
      cases he : s.storage.get? (l, cand.1) with
      | none =>
          simp only [storedCandidates, List.map_cons, List.sum_cons, candidateInfo, he,
            List.filter_cons, Option.isSome_none, Bool.false_eq_true, if_false,
            List.length_cons] at ih hle ⊢
          omega
      | some e =>
          simp only [storedCandidates, List.map_cons, List.sum_cons, candidateInfo, he,
            List.filter_cons, Option.isSome_some, if_true, List.length_cons, pageBytes] at ih hle ⊢
          omega

section Topk

variable [Field α] [LinearOrder α] (val : DType → Bytes → α) (kernel : Option (Kernel α))

/-- A call that scores balances when all candidates are stored, one that raises when no stored
candidate has key bytes. -/
def TopkBalanced (s : RealInferenceStorageBackend cfg) (l : Nat) (cands : List (Nat × Nat))
    (query : List (List α)) (topK : Nat) (scale : α) (qHeads kvHeads headDim : Nat) : Prop :=
  match topkResults val kernel s l cands query topK scale qHeads kvHeads headDim with
  | .ok _ => ∀ cand ∈ cands, (s.storage.get? (l, cand.1)).isSome
  | .error _ => ∀ cand ∈ storedCandidates s l cands, pageBytes .key s l cand.1 = 0

theorem conserved_computeTopkFilter_iff (s : RealInferenceStorageBackend cfg) (l : Nat)
    (cands : List (Nat × Nat)) (query : List (List α)) (topK : Nat) (scale : α)
    (qHeads kvHeads headDim : Nat) (hs : s.telemetry.Conserved) :
    (computeTopkFilter val kernel s l cands query topK scale qHeads kvHeads
        headDim).2.telemetry.Conserved ↔
      TopkBalanced val kernel s l cands query topK scale qHeads kvHeads headDim := by
  have hcount := adds_countCandidates s l cands
  have hsum := sum_candidateInfo s l cands
  unfold computeTopkFilter TopkBalanced
  by_cases hnil : cands = []
  · rw [if_pos hnil, hnil]
    split <;> simp [hs, storedCandidates]
  · rw [if_neg hnil]
    dsimp only
    cases topkResults val kernel s l cands query topK scale qHeads kvHeads headDim with
    | error err =>
        rw [hcount.conserved_iff hs, List.sum_eq_zero_iff_forall_eq_nat]
        simp only [List.forall_mem_map, and_true]
    | ok results =>
        have hadds : Adds s.telemetry
            { countCandidates s l cands with
              bytesRead := (countCandidates s l cands).bytesRead +
                ((cands.map (candidateInfo s l)).map fun c => c.2.1).sum }
            ((storedCandidates s l cands).map fun cand => pageBytes .key s l cand.1).sum
            ((cands.map (candidateInfo s l)).map fun c => c.2.1).sum 0 0 :=
          ⟨hcount.reads_eq, by simp [hcount.total_eq], hcount.writes_eq, hcount.written_eq⟩
        have hall : (∀ cand ∈ cands, (s.storage.get? (l, cand.1)).isSome) ↔
            (storedCandidates s l cands).length = cands.length := by
          rw [storedCandidates, List.length_filter_eq_length_iff]
        have hle : (storedCandidates s l cands).length ≤ cands.length :=
          List.length_filter_le _ cands
        refine (hadds.conserved_iff hs).trans ?_
        rw [hall]
        omega

end Topk

end RealInferenceStorageBackend

end AiSsd.Storage
