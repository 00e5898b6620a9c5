import AiSsd.Storage.ChannelBytes

/-!
# The channel a read is charged to

A batch and a scoring call charge the channel that the entry of a block records. A single read
charges the one that the mapper gives its own head and token, which is another when they are
not those of the write.
-/

namespace AiSsd.Storage

open Lib Numpy

universe u

namespace RealInferenceStorageBackend

open BackendTelemetry

variable {cfg : BackendConfig} {s : RealInferenceStorageBackend cfg} {α : Type u} {ρ : Type}

def mappedChannel (cfg : BackendConfig) (l b h ts : Nat) : Option (Fin cfg.channels) :=
  match cfg.mapper.tensorToNandPhysical (coordinate cfg l b h ts) cfg.mappingMode none with
  | .error _ => none
  | .ok nand => some nand.channel

/-- The channels count one read of each block, of a stored one on the channel recorded for it. -/
def ChargedTo (s : RealInferenceStorageBackend cfg) (l : Nat) (blocks : List Nat)
    (t' : BackendTelemetry cfg.channels) : Prop :=
  ∃ charges : List (Fin cfg.channels × Nat),
    List.Forall₂ (fun b c => ∀ e, s.storage.get? (l, b) = some e → c.1 = e.channel)
      blocks charges ∧
    t'.perChannelReads =
      (charges.foldl (fun t c => t.channelRead c.1 c.2) s.telemetry).perChannelReads ∧
    t'.perChannelReadBytes =
      (charges.foldl (fun t c => t.channelRead c.1 c.2) s.telemetry).perChannelReadBytes

/-! ## Single reads -/

/-- A read of a stored block that decodes is mapped to the channel of its entry. -/
def Recorded (kind : ReadKind) (s : RealInferenceStorageBackend cfg) (l b h ts : Nat) : Prop :=
  ∀ e, s.storage.get? (l, b) = some e → Fits kind e → mappedChannel cfg l b h ts = some e.channel

def EachRecorded (kind : ReadKind) (s : RealInferenceStorageBackend cfg) (l h ts : Nat) :
    List Nat → Prop
  | [] => True
  | b :: bids => Recorded kind s l b h ts ∧ (BlockFits kind s l b → EachRecorded kind s l h ts bids)

def SingleCharged (s : RealInferenceStorageBackend cfg) (l b : Nat)
    (r : Except PyErr ρ × RealInferenceStorageBackend cfg) : Prop :=
  ∀ ret, r.1 = .ok ret → ChargedTo s l [b] r.2.telemetry

def EachCharged (read : RealInferenceStorageBackend cfg → Nat →
      Except PyErr ρ × RealInferenceStorageBackend cfg) (l : Nat) :
    List Nat → RealInferenceStorageBackend cfg → Prop
  | [], _ => True
  | b :: bids, s =>
      SingleCharged s l b (read s b) ∧
        ∀ ret, (read s b).1 = .ok ret → EachCharged read l bids (read s b).2

theorem bump_inj {channels : Nat} {counters : Fin channels → Nat} {c c' : Fin channels}
    (h : bump counters c 1 = bump counters c' 1) : c = c' := by
  by_contra hne
  have hat := congrFun h c
  simp [bump, Function.update_of_ne hne] at hat

section Single

variable {kind : ReadKind} {fetch : ByteFile → Option (Entry cfg.channels) → Except PyErr (ρ × Nat)}
  {l : Nat}

theorem singleCharged_iff (hknown : ∀ b e, s.storage.get? (l, b) = some e → KnownMode cfg)
    (hfits : ∀ b, (∃ r, fetch s.file (s.storage.get? (l, b)) = .ok r) ↔ BlockFits kind s l b)
    (b h ts : Nat) :
    SingleCharged s l b (readSingle kind fetch s l b h ts) ↔ Recorded kind s l b h ts := by
  have hone := hfits b
  unfold SingleCharged Recorded
  cases hnand : cfg.mapper.tensorToNandPhysical (coordinate cfg l b h ts) cfg.mappingMode none with
  | error err =>
      have hraise : (readSingle kind fetch s l b h ts).1 = .error err := by
        simp only [readSingle, hnand]
      refine ⟨fun _ e he => ?_, fun _ ret hret => ?_⟩
      · obtain ⟨nand, hok⟩ := cfg.mapper.tensorToNandPhysical_ok (hknown b e he)
          (coordinate cfg l b h ts) none
        cases hnand.symm.trans hok
      · cases hraise.symm.trans hret
  | ok nand =>
      have hmapped : mappedChannel cfg l b h ts = some nand.channel := by
        simp only [mappedChannel, hnand]
        rfl
      cases hf : fetch s.file (s.storage.get? (l, b)) with
      | error err =>
          have hraise : (readSingle kind fetch s l b h ts).1 = .error err := by
            simp only [readSingle, hnand, hf]
          refine ⟨fun _ e he hfit => ?_, fun _ ret hret => ?_⟩
          · obtain ⟨r, hr⟩ := hone.mpr fun e' he' => by
              rw [he, Option.some.injEq] at he'
              exact he' ▸ hfit
            cases hf.symm.trans hr
          · cases hraise.symm.trans hret
      | ok r =>
          have hfit := hone.mp ⟨r, hf⟩
          simp only [readSingle, hnand, hf, hmapped]
          constructor
          · intro hcharged e he _
            obtain ⟨charges, hall, hreads, -⟩ := hcharged r.1 rfl
            obtain ⟨c, rest, hc, hnil, rfl⟩ := List.forall₂_cons_left_iff.mp hall
            cases hnil
            have hbump : bump s.telemetry.perChannelReads nand.channel 1 =
                bump s.telemetry.perChannelReads c.1 1 := by
              cases kind <;> exact hreads
            exact congrArg some ((bump_inj hbump).trans (hc e he))
          · intro hrecorded ret _
            refine ⟨[(nand.channel, r.2)], ?_, ?_, ?_⟩
            · refine List.Forall₂.cons (fun e he => ?_) List.Forall₂.nil
              exact Option.some.inj (hrecorded e he (hfit e he))
            · cases kind <;> rfl
            · cases kind <;> rfl

theorem eachRecorded_same {s' : RealInferenceStorageBackend cfg} (hs : s'.storage = s.storage)
    (h ts : Nat) (bids : List Nat) :
    EachRecorded kind s' l h ts bids ↔ EachRecorded kind s l h ts bids := by
  induction bids with
  | nil => rfl
  | cons b bids ih => simp only [EachRecorded, Recorded, BlockFits, hs, ih]

/-- Where nothing of the layer is stored, nothing is recorded otherwise. -/
theorem eachRecorded_of_missing (hmissing : ∀ b, s.storage.get? (l, b) = none) (h ts : Nat)
    (bids : List Nat) : EachRecorded kind s l h ts bids := by
  induction bids with
  | nil => trivial
  | cons b bids ih => exact ⟨fun e he => by simp [hmissing b] at he, fun _ => ih⟩

theorem eachCharged_iff (hknown : ∀ b e, s.storage.get? (l, b) = some e → KnownMode cfg)
    (hfits : ∀ b, (∃ r, fetch s.file (s.storage.get? (l, b)) = .ok r) ↔ BlockFits kind s l b)
    (h ts : Nat) (bids : List Nat) :
    EachCharged (fun s b => readSingle kind fetch s l b h ts) l bids s ↔
      EachRecorded kind s l h ts bids := by
  induction bids generalizing s with
  | nil => rfl
  | cons b bids ih =>
      unfold EachCharged EachRecorded
      refine and_congr (singleCharged_iff hknown hfits b h ts) ?_
      have hone := hfits b
      cases hnand : cfg.mapper.tensorToNandPhysical (coordinate cfg l b h ts) cfg.mappingMode
        none with
      | error err =>
          -- the mode is unknown, so the layer is empty
          have hmissing : ∀ b, s.storage.get? (l, b) = none := by
            intro b'
            by_contra hstored
            obtain ⟨e, he⟩ := Option.ne_none_iff_exists'.mp hstored
            obtain ⟨nand, hok⟩ := cfg.mapper.tensorToNandPhysical_ok (hknown b' e he)
              (coordinate cfg l b h ts) none
            cases hnand.symm.trans hok
          simp only [readSingle, hnand]
          exact iff_of_true (fun _ hret => (by cases hret))
            fun _ => eachRecorded_of_missing hmissing h ts bids
      | ok nand =>
          cases hf : fetch s.file (s.storage.get? (l, b)) with
          | error err =>
              simp only [readSingle, hnand, hf]
              refine iff_of_true (fun _ hret => (by cases hret)) fun hfit => ?_
              obtain ⟨r, hr⟩ := hone.mpr hfit
              cases hf.symm.trans hr
          | ok r =>
              have hfit := hone.mp ⟨r, hf⟩
              simp only [readSingle, hnand, hf]
              generalize ((s.telemetry.channelRead nand.channel r.2).countReads kind 1 r.2).log _ = t
              have hrest := @ih { s with telemetry := t } hknown hfits
              have hsame : EachRecorded kind { s with telemetry := t } l h ts bids ↔
                  EachRecorded kind s l h ts bids := eachRecorded_same (by rfl) h ts bids
              rw [hsame] at hrest
              constructor
              · exact fun hcharged _ => hrest.mp (hcharged r.1 rfl)
              · exact fun hrecorded _ _ => hrest.mpr (hrecorded hfit)

end Single

/-! ## Batches and scoring -/

/-- The batched loop charges recorded channels, also when it raises on its way. -/
theorem charged_batchLoop (fetch : ByteFile → Option (Entry cfg.channels) → Except PyErr (ρ × Nat))
    (s : RealInferenceStorageBackend cfg) (l : Nat) (bids : List Nat) (results : Dict Nat ρ)
    (total : Nat) (t : BackendTelemetry cfg.channels) :
    ∃ blocks, blocks <+: bids ∧
      (∀ r, (batchLoop fetch s l bids results total t).1 = .ok r → blocks = bids) ∧
      ∃ charges : List (Fin cfg.channels × Nat),
        List.Forall₂ (fun b c => ∀ e, s.storage.get? (l, b) = some e → c.1 = e.channel)
          blocks charges ∧
        (batchLoop fetch s l bids results total t).2 =
          charges.foldl (fun t c => t.channelRead c.1 c.2) t := by
  induction bids generalizing results total t with
  | nil => exact ⟨[], List.prefix_rfl, fun _ _ => rfl, [], List.Forall₂.nil, rfl⟩
  | cons bid bids ih =>
      unfold batchLoop
      dsimp only
      cases fetch s.file (s.storage.get? (l, bid)) with
      | error err =>
          exact ⟨[], List.nil_prefix, fun _ hr => (by cases hr), [], List.Forall₂.nil, rfl⟩
      | ok r =>
          obtain ⟨blocks, hprefix, hall, charges, hcharges, hloop⟩ :=
            ih (results.set bid r.1) (total + r.2)
              (t.channelRead (((s.storage.get? (l, bid)).map fun e => e.channel).getD
                cfg.channelZero) r.2)
          refine ⟨bid :: blocks, List.cons_prefix_cons.mpr ⟨rfl, hprefix⟩, fun r' hr' => ?_,
            (_, r.2) :: charges, ?_, hloop⟩
          · rw [hall r' hr']
          · exact List.Forall₂.cons (fun e he => by simp [he]) hcharges

def BatchCharged (s : RealInferenceStorageBackend cfg) (l : Nat) (bids : List Nat)
    (r : Except PyErr (Dict Nat ρ) × RealInferenceStorageBackend cfg) : Prop :=
  ∃ blocks, blocks <+: bids ∧ (∀ ret, r.1 = .ok ret → blocks = bids) ∧
    ChargedTo s l blocks r.2.telemetry

theorem batchCharged_readBatch (hon : cfg.enableBatching = true) (kind : ReadKind)
    (fetch : ByteFile → Option (Entry cfg.channels) → Except PyErr (ρ × Nat))
    (single : RealInferenceStorageBackend cfg → (layerIdx blockId headId tokenStart : Nat) →
      Except PyErr ρ × RealInferenceStorageBackend cfg)
    (s : RealInferenceStorageBackend cfg) (l : Nat) (bids : List Nat) (h ts : Nat) :
    BatchCharged s l bids (readBatch kind fetch single s l bids h ts) := by
  obtain ⟨blocks, hprefix, hall, charges, hcharges, hloop⟩ :=
    charged_batchLoop fetch s l bids Dict.empty 0 s.telemetry
  unfold readBatch
  by_cases hnil : bids = []
  · subst hnil
    exact ⟨[], List.prefix_rfl, fun _ _ => rfl, [], List.Forall₂.nil, rfl, rfl⟩
  · rw [if_neg hnil, if_neg (by simp [hon])]
    refine ⟨blocks, hprefix, ?_⟩
    revert hall hloop
    rcases batchLoop fetch s l bids Dict.empty 0 s.telemetry with ⟨_ | ⟨out, n⟩, t⟩
    · intro _ hloop
      refine ⟨fun _ hr => (by cases hr), charges, hcharges, ?_, ?_⟩
      · rw [← hloop]
      · rw [← hloop]
    · intro hall hloop
      refine ⟨fun _ _ => hall _ rfl, charges, hcharges, ?_, ?_⟩
      · rw [← hloop]
        cases kind <;> rfl
      · rw [← hloop]
        cases kind <;> rfl

theorem charged_countCandidates (s : RealInferenceStorageBackend cfg) (l : Nat)
    (cands : List (Nat × Nat)) :
    ChargedTo s l ((storedCandidates s l cands).map Prod.fst) (countCandidates s l cands) := by
  unfold ChargedTo countCandidates
  generalize s.telemetry = t
  induction cands generalizing t with
  | nil => exact ⟨[], List.Forall₂.nil, rfl, rfl⟩
  | cons cand cands ih =>
      rw [List.foldl_cons]
      cases he : s.storage.get? (l, cand.1) with
      | none =>
          rw [storedCandidates_of_missing he]
          exact ih t
      | some e =>
          obtain ⟨charges, hcharges, hreads, hbytes⟩ := ih (t.channelRead e.channel e.kSize)
          rw [storedCandidates_of_stored he, List.map_cons]
          refine ⟨(e.channel, e.kSize) :: charges, List.Forall₂.cons (fun e' he' => ?_) hcharges,
            hreads, hbytes⟩
          rw [he, Option.some.injEq] at he'
          rw [he']

theorem charged_computeTopkFilter [Field α] [LinearOrder α] (val : DType → Bytes → α)
    (kernel : Option (Kernel α)) (s : RealInferenceStorageBackend cfg) (l : Nat)
    (cands : List (Nat × Nat)) (query : List (List α)) (topK : Nat) (scale : α)
    (qHeads kvHeads headDim : Nat) :
    ChargedTo s l ((storedCandidates s l cands).map Prod.fst)
      (computeTopkFilter val kernel s l cands query topK scale qHeads kvHeads
        headDim).2.telemetry := by
  obtain ⟨charges, hcharges, hreads, hbytes⟩ := charged_countCandidates s l cands
  unfold computeTopkFilter
  by_cases hnil : cands = []
  · rw [if_pos hnil, hnil]
    exact ⟨[], List.Forall₂.nil, rfl, rfl⟩
  · rw [if_neg hnil]
    dsimp only
    split
    · exact ⟨charges, hcharges, hreads, hbytes⟩
    · exact ⟨charges, hcharges, hreads, hbytes⟩

def CollectionCharged (s : RealInferenceStorageBackend cfg) (l : Nat) (bids : List Nat)
    (read : RealInferenceStorageBackend cfg → Nat →
      Except PyErr ρ × RealInferenceStorageBackend cfg)
    (r : Except PyErr (Dict Nat ρ) × RealInferenceStorageBackend cfg) : Prop :=
  if cfg.enableBatching then BatchCharged s l bids r else EachCharged read l bids s

theorem charged_collection_iff {requests : List (Request α)} (hlaid : Laid s requests)
    {kind : ReadKind}
    {fetch : ByteFile → Option (Entry cfg.channels) → Except PyErr (ρ × Nat)}
    (spanned : ByteFile → Option (Entry cfg.channels) → Except PyErr (ρ × Nat)) {l : Nat}
    (hfits : ∀ b, (∃ r, fetch s.file (s.storage.get? (l, b)) = .ok r) ↔ BlockFits kind s l b)
    (bids : List Nat) (h ts : Nat) :
    CollectionCharged s l bids (fun s b => readSingle kind fetch s l b h ts)
        (readBatch kind spanned (readSingle kind fetch) s l bids h ts) ↔
      (cfg.enableBatching = false → EachRecorded kind s l h ts bids) := by
  unfold CollectionCharged
  cases hbatching : cfg.enableBatching with
  | true => simp [batchCharged_readBatch hbatching]
  | false =>
      simp only [Bool.false_eq_true, if_false, true_implies]
      exact eachCharged_iff (fun b e he => hlaid.known (l, b) e he) hfits h ts bids

/-! ## Runs -/

section Runs

variable [Field α] [LinearOrder α] (val : DType → Bytes → α) (kernel : Option (Kernel α))

def HeadsDivide (cfg : BackendConfig) (k v : Payload) : Prop :=
  headsInBlock k ∣ (pack cfg k).bytes.length + (pack cfg v).bytes.length

/-- A batched transaction returns, or raises before it has counted a byte. -/
def BatchBalanced (kind : ReadKind) (s : RealInferenceStorageBackend cfg) (l : Nat)
    (bids : List Nat) : Prop :=
  cfg.enableBatching = true →
    (∀ b ∈ bids, BlockFits kind s l b) ∨ bytesBefore kind s l bids = 0

/-- The request adds as much to the channels as to the totals. -/
def Balanced (s : RealInferenceStorageBackend cfg) : Request α → Prop
  | .write _ _ k v _ _ => KnownMode cfg → HeadsDivide cfg k v
  | .other (.write _ _ k v _ _) => KnownMode cfg → HeadsDivide cfg (.array k) (.array v)
  | .other (.readKeyPageBatch l bids _ _) => BatchBalanced .key s l bids
  | .other (.readValuePageBatch l bids _ _) => BatchBalanced .value s l bids
  | .other (.readBlockBatch l bids _ _) => BatchBalanced .block s l bids
  | .other (.computeTopkFilter l cands query topK scale qHeads kvHeads headDim) =>
      TopkBalanced val kernel s l cands query topK scale qHeads kvHeads headDim
  | _ => True

def Mapped (s : RealInferenceStorageBackend cfg) : Request α → Prop
  | .other (.readKeyPage l b h ts) => Recorded .key s l b h ts
  | .other (.readValuePage l b h ts) => Recorded .value s l b h ts
  | .other (.readBlock l b h ts) => Recorded .block s l b h ts
  | .other (.readKeyPageBatch l bids h ts) =>
      cfg.enableBatching = false → EachRecorded .key s l h ts bids
  | .other (.readValuePageBatch l bids h ts) =>
      cfg.enableBatching = false → EachRecorded .value s l h ts bids
  | .other (.readBlockBatch l bids h ts) =>
      cfg.enableBatching = false → EachRecorded .block s l h ts bids
  | _ => True

def Charged (s : RealInferenceStorageBackend cfg) : Request α → Prop
  | .other (.readKeyPage l b h ts) => SingleCharged s l b (readKeyPage s l b h ts)
  | .other (.readValuePage l b h ts) => SingleCharged s l b (readValuePage s l b h ts)
  | .other (.readBlock l b h ts) => SingleCharged s l b (readBlock s l b h ts)
  | .other (.readKeyPageBatch l bids h ts) =>
      CollectionCharged s l bids (fun s b => readKeyPage s l b h ts)
        (readKeyPageBatch s l bids h ts)
  | .other (.readValuePageBatch l bids h ts) =>
      CollectionCharged s l bids (fun s b => readValuePage s l b h ts)
        (readValuePageBatch s l bids h ts)
  | .other (.readBlockBatch l bids h ts) =>
      CollectionCharged s l bids (fun s b => readBlock s l b h ts) (readBlockBatch s l bids h ts)
  | .other (.computeTopkFilter l cands query topK scale qHeads kvHeads headDim) =>
      ChargedTo s l ((storedCandidates s l cands).map Prod.fst)
        (computeTopkFilter val kernel s l cands query topK scale qHeads kvHeads
          headDim).2.telemetry
  | _ => True

variable {val} {kernel} {requests : List (Request α)}

theorem conserved_write_iff (hs : s.telemetry.Conserved) (l b : Nat) (k v : Payload) (h ts : Nat) :
    (writeBlock s l b k v h ts).2.telemetry.Conserved ↔ (KnownMode cfg → HeadsDivide cfg k v) := by
  by_cases hmode : KnownMode cfg
  · rw [(adds_writeBlock hmode s l b k v h ts).conserved_iff hs]
    simp only [true_and, hmode, true_implies, HeadsDivide]
    exact ⟨fun h => ⟨_, h.symm⟩, Nat.mul_div_cancel'⟩
  · rw [writeBlock_unknown hmode]
    simp [hs, hmode]

theorem conserved_single {kind : ReadKind}
    {fetch : ByteFile → Option (Entry cfg.channels) → Except PyErr (ρ × Nat)}
    (hs : s.telemetry.Conserved) (l b h ts : Nat) :
    (readSingle kind fetch s l b h ts).2.telemetry.Conserved := by
  obtain ⟨n, hn⟩ := @adds_readSingle cfg ρ kind fetch s l b h ts
  exact (hn.conserved_iff hs).mpr ⟨rfl, rfl⟩

theorem conserved_serve_iff (hlaid : Laid s requests) (hs : s.telemetry.Conserved)
    (request : Request α) :
    (serve cfg val kernel s request).2.telemetry.Conserved ↔ Balanced val kernel s request := by
  cases request with
  | write l b k v h ts => exact conserved_write_iff hs l b k v h ts
  | other op =>
      cases op with
      | write l b k v h ts => exact conserved_write_iff hs l b (.array k) (.array v) h ts
      | evict l b =>
          have hsame : (evictBlock s l b).2.telemetry = s.telemetry := by
            unfold evictBlock
            split <;> rfl
          simpa [serve, step, Balanced, hsame] using hs
      | readKeyPage l b h ts => exact iff_of_true (conserved_single hs l b h ts) trivial
      | readValuePage l b h ts => exact iff_of_true (conserved_single hs l b h ts) trivial
      | readBlock l b h ts => exact iff_of_true (conserved_single hs l b h ts) trivial
      | readKeyPageBatch l bids h ts =>
          exact conserved_readBatch_iff adds_readSingle (hlaid.fetchKey_ok_iff l)
            (fetchKey_bytes s l) bids h ts hs
      | readValuePageBatch l bids h ts =>
          exact conserved_readBatch_iff adds_readSingle (hlaid.fetchValue_ok_iff l)
            (fetchValue_bytes s l) bids h ts hs
      | readBlockBatch l bids h ts =>
          exact conserved_readBatch_iff adds_readSingle
            (fun b => by rw [hlaid.fetchBlockSpan_eq l b]; exact hlaid.fetchBlock_ok_iff l b)
            (fun b ret n hf => fetchBlock_bytes s l b ret n (hlaid.fetchBlockSpan_eq l b ▸ hf))
            bids h ts hs
      | computeTopkFilter l cands query topK scale qHeads kvHeads headDim =>
          exact conserved_computeTopkFilter_iff val kernel s l cands query topK scale qHeads kvHeads
            headDim hs

theorem charged_iff (hlaid : Laid s requests) (request : Request α) :
    Charged val kernel s request ↔ Mapped s request := by
  cases request with
  | write l b k v h ts => exact Iff.rfl
  | other op =>
      cases op with
      | write l b k v h ts => exact Iff.rfl
      | evict l b => exact Iff.rfl
      | readKeyPage l b h ts =>
          exact singleCharged_iff (fun b e he => hlaid.known (l, b) e he) (hlaid.fetchKey_ok_iff l)
            b h ts
      | readValuePage l b h ts =>
          exact singleCharged_iff (fun b e he => hlaid.known (l, b) e he) (hlaid.fetchValue_ok_iff l)
            b h ts
      | readBlock l b h ts =>
          exact singleCharged_iff (fun b e he => hlaid.known (l, b) e he) (hlaid.fetchBlock_ok_iff l)
            b h ts
      | readKeyPageBatch l bids h ts =>
          exact charged_collection_iff hlaid fetchKey (hlaid.fetchKey_ok_iff l) bids h ts
      | readValuePageBatch l bids h ts =>
          exact charged_collection_iff hlaid fetchValue (hlaid.fetchValue_ok_iff l) bids h ts
      | readBlockBatch l bids h ts =>
          exact charged_collection_iff hlaid fetchBlockSpan (hlaid.fetchBlock_ok_iff l) bids h ts
      | computeTopkFilter l cands query topK scale qHeads kvHeads headDim =>
          exact iff_of_true (charged_computeTopkFilter val kernel s l cands query topK scale qHeads
            kvHeads headDim) trivial

theorem meets_charged_iff (requests : List (Request α)) :
    (server cfg val kernel).Meets (Charged val kernel) init requests ↔
      (server cfg val kernel).Meets Mapped init requests := by
  have hkeep : ∀ (s : RealInferenceStorageBackend cfg) (request : Request α),
      (∃ past, Laid s past) → ∃ past : List (Request α),
        Laid (serve cfg val kernel s request).2 past :=
    fun s request h => h.elim fun past hlaid => ⟨past ++ [request], laid_serve hlaid request⟩
  have hstart : ∃ past : List (Request α), Laid (init : RealInferenceStorageBackend cfg) past :=
    ⟨[], laid_init⟩
  constructor
  · refine Machine.Meets.gives _ (fun s request h _ => hkeep s request h) ?_ init requests hstart
    exact fun s request h hcharged => h.elim fun _ hlaid => (charged_iff hlaid request).mp hcharged
  · refine Machine.Meets.gives _ (fun s request h _ => hkeep s request h) ?_ init requests hstart
    exact fun s request h hmapped => h.elim fun _ hlaid => (charged_iff hlaid request).mpr hmapped

theorem conserved_throughout_iff (requests : List (Request α)) :
    (∀ pre, pre <+: requests → ((server cfg val kernel).exec init pre).telemetry.Conserved) ↔
      (server cfg val kernel).Meets (Balanced val kernel) init requests := by
  refine Machine.forall_prefix_iff_meets (server cfg val kernel)
    (I := fun s => s.telemetry.Conserved ∧ ∃ past : List (Request α), Laid s past)
    (C := fun s => s.telemetry.Conserved) (fun s h => h.1) ?_ ?_ init requests ?_
  · rintro s request ⟨hs, past, hlaid⟩ hbalanced
    exact ⟨(conserved_serve_iff hlaid hs request).mpr hbalanced, past ++ [request],
      laid_serve hlaid request⟩
  · rintro s request ⟨hs, past, hlaid⟩ hnext
    exact (conserved_serve_iff hlaid hs request).mp hnext
  · refine ⟨?_, [], laid_init⟩
    simp [init, Conserved, sumReadBytes, sumWriteBytes, BackendTelemetry.zero]

/-- The channels account for all bytes in every state of a run, and every read of a stored block
is charged to the channel recorded for it, exactly when the heads of every write divide its
bytes, no batch or scoring call raises after it has counted, every scored candidate is stored,
and single reads are mapped to the recorded channels. -/
theorem channel_bytes_accounted_iff (cfg : BackendConfig) (val : DType → Bytes → α)
    (kernel : Option (Kernel α)) (requests : List (Request α)) :
    let m := server cfg val kernel
    ((∀ pre, pre <+: requests → (m.exec init pre).telemetry.Conserved) ∧
        m.Meets (Charged val kernel) init requests) ↔
      m.Meets (fun s request => Balanced val kernel s request ∧ Mapped s request) init requests := by
  intro m
  rw [Machine.meets_and, conserved_throughout_iff, meets_charged_iff]

/-- Five bytes for two heads: a key page of two half floats, and one byte. -/
def twoHeads : List (Request ℚ) :=
  [.write 0 0 (.array (NDArray.zeros [1, 2, 1] float16)) (.raw [7]) 0 0]

def otherHead : List (Request ℚ) :=
  [.write 0 0 (.array (NDArray.zeros [1, 1, 1] float32))
    (.array (NDArray.zeros [1, 1, 1] float32)) 1 0]

/-- The channels count four of the five bytes that were written. A read that leaves the head at
its default is charged to channel 0, and the block was recorded on channel 1. -/
theorem remainder_and_head_are_lost :
    let m := server DeviceBackend.oneHeadConfig (fun _ _ => (0 : ℚ)) none
    let read := readKeyPage (m.exec init otherHead) 0 0 0 0
    (m.exec init twoHeads).telemetry.bytesWritten = 5 ∧
      (m.exec init twoHeads).telemetry.sumWriteBytes = 4 ∧
      ((m.exec init otherHead).storage.get? (0, 0)).map (fun e => e.channel.val) = some 1 ∧
      read.2.telemetry.perChannelReadBytes ⟨0, by decide⟩ = 4 ∧
      read.2.telemetry.perChannelReadBytes ⟨1, by decide⟩ = 0 := by
  decide +kernel

end Runs

end RealInferenceStorageBackend

end AiSsd.Storage
