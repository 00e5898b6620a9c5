import AiSsd.Storage.PayloadRuns

/-!
# A batch and its single reads

A batched transaction and the loop of single reads collect the same pages, or stop at the same
block with the same error. They differ in what they have counted by then, and in an unknown
mapping mode, which only the single reads look at.
-/

namespace AiSsd.Storage

open Lib Numpy

universe u

/-! ## The counters -/

/-- The counters that batch and single reads have in common. -/
structure Totals where
  requests : Nat
  bytesRead : Nat
  blocksRead : Nat
  keyPageReadRequests : Nat
  valuePageReadRequests : Nat
  combinedBlockReadRequests : Nat
deriving DecidableEq

namespace BackendTelemetry

variable {channels : Nat} {t t' : BackendTelemetry channels}

def totals (t : BackendTelemetry channels) : Totals where
  requests := t.requests
  bytesRead := t.bytesRead
  blocksRead := t.blocksRead
  keyPageReadRequests := t.keyPageReadRequests
  valuePageReadRequests := t.valuePageReadRequests
  combinedBlockReadRequests := t.combinedBlockReadRequests

@[simp] theorem totals_channelRead (t : BackendTelemetry channels) (ch : Fin channels)
    (bytes : Nat) : (t.channelRead ch bytes).totals = t.totals := rfl

@[simp] theorem totals_log (t : BackendTelemetry channels) (record : AccessRecord) :
    (t.log record).totals = t.totals := by
  simp only [log, totals]

theorem totals_countReads_zero (t : BackendTelemetry channels) (kind : ReadKind) :
    (t.countReads kind 0 0).totals = t.totals := by
  cases kind <;> rfl

theorem totals_countReads_add (t : BackendTelemetry channels) (kind : ReadKind) (a b m n : Nat) :
    ((t.countReads kind a m).countReads kind b n).totals =
      (t.countReads kind (a + b) (m + n)).totals := by
  cases kind <;> simp [totals, countReads, Nat.add_assoc]

theorem totals_countReads_congr (h : t.totals = t'.totals) (kind : ReadKind) (count bytes : Nat) :
    (t.countReads kind count bytes).totals = (t'.countReads kind count bytes).totals := by
  simp only [totals, Totals.mk.injEq] at h
  cases kind <;> simp [totals, countReads, h]

theorem totals_countReads_inj {kind : ReadKind} {a b m n : Nat}
    (h : (t.countReads kind a m).totals = (t.countReads kind b n).totals) : a = b ∧ m = n := by
  cases kind <;> simp [totals, countReads] at h <;> omega

end BackendTelemetry

namespace RealInferenceStorageBackend

variable {cfg : BackendConfig} {s : RealInferenceStorageBackend cfg} {α : Type u} {ρ : Type}

/-! ## What is collected -/

def collect (f : Nat → Except PyErr (ρ × Nat)) :
    List Nat → Dict Nat ρ → Nat → Except PyErr (Dict Nat ρ × Nat)
  | [], results, total => .ok (results, total)
  | bid :: bids, results, total =>
      match f bid with
      | .error err => .error err
      | .ok (ret, bytes) => collect f bids (results.set bid ret) (total + bytes)

/-- How many blocks decode before the first that does not, and their bytes. -/
def decoded (f : Nat → Except PyErr (ρ × Nat)) : List Nat → Nat × Nat
  | [] => (0, 0)
  | bid :: bids =>
      match f bid with
      | .error _ => (0, 0)
      | .ok (_, bytes) => (1 + (decoded f bids).1, bytes + (decoded f bids).2)

section Collect

variable {f : Nat → Except PyErr (ρ × Nat)}

theorem collect_isOk_iff (bids : List Nat) (results : Dict Nat ρ) (total : Nat) :
    (∃ r, collect f bids results total = .ok r) ↔ ∀ b ∈ bids, ∃ r, f b = .ok r := by
  induction bids generalizing results total with
  | nil => simp [collect]
  | cons bid bids ih =>
      rw [List.forall_mem_cons]
      unfold collect
      cases hf : f bid with
      | error err => simp
      | ok r => simp [ih]

theorem collect_counted {bids : List Nat} {results out : Dict Nat ρ} {total n : Nat}
    (h : collect f bids results total = .ok (out, n)) :
    (decoded f bids).1 = bids.length ∧ n = total + (decoded f bids).2 := by
  induction bids generalizing results total with
  | nil =>
      cases h
      exact ⟨rfl, rfl⟩
  | cons bid bids ih =>
      unfold collect at h
      unfold decoded
      cases hf : f bid with
      | error err => simp [hf] at h
      | ok r =>
          simp only [hf] at h
          have hrest := ih h
          simp only [List.length_cons]
          omega

theorem decoded_eq_zero_iff (bid : Nat) (bids : List Nat) :
    (decoded f (bid :: bids)).1 = 0 ↔ ¬ ∃ r, f bid = .ok r := by
  unfold decoded
  cases hf : f bid with
  | error err => simp
  | ok r =>
      simp only [Except.ok.injEq, exists_eq', not_true_eq_false, iff_false]
      omega

theorem decoded_bytes_of_none {bid : Nat} {bids : List Nat} (h : ¬ ∃ r, f bid = .ok r) :
    (decoded f (bid :: bids)).2 = 0 := by
  unfold decoded
  cases hf : f bid with
  | error err => rfl
  | ok r => exact absurd ⟨r, hf⟩ h

end Collect

/-! ## Both paths -/

section Paths

variable {kind : ReadKind} {fetch : ByteFile → Option (Entry cfg.channels) → Except PyErr (ρ × Nat)}

theorem batchLoop_eq (s : RealInferenceStorageBackend cfg) (l : Nat) (bids : List Nat)
    (results : Dict Nat ρ) (total : Nat) (t : BackendTelemetry cfg.channels) :
    (batchLoop fetch s l bids results total t).1 =
        collect (fun b => fetch s.file (s.storage.get? (l, b))) bids results total ∧
      (batchLoop fetch s l bids results total t).2.totals = t.totals := by
  induction bids generalizing results total t with
  | nil => exact ⟨rfl, rfl⟩
  | cons bid bids ih =>
      unfold batchLoop collect
      dsimp only
      cases fetch s.file (s.storage.get? (l, bid)) with
      | error err => exact ⟨rfl, rfl⟩
      | ok r => exact ih _ _ _

theorem readEach_eq (hmode : KnownMode cfg) (s : RealInferenceStorageBackend cfg) (l h ts : Nat)
    (bids : List Nat) (results : Dict Nat ρ) (total : Nat) :
    (readEach (fun s b => readSingle kind fetch s l b h ts) bids results s).1 =
        (collect (fun b => fetch s.file (s.storage.get? (l, b))) bids results total).map
          Prod.fst ∧
      (readEach (fun s b => readSingle kind fetch s l b h ts) bids results s).2.telemetry.totals =
        (s.telemetry.countReads kind
          (decoded (fun b => fetch s.file (s.storage.get? (l, b))) bids).1
          (decoded (fun b => fetch s.file (s.storage.get? (l, b))) bids).2).totals := by
  induction bids generalizing results total s with
  | nil => exact ⟨rfl, (BackendTelemetry.totals_countReads_zero _ _).symm⟩
  | cons bid bids ih =>
      obtain ⟨nand, hnand⟩ := cfg.mapper.tensorToNandPhysical_ok hmode (coordinate cfg l bid h ts)
        none
      unfold readEach collect decoded
      cases hf : fetch s.file (s.storage.get? (l, bid)) with
      | error err =>
          simp only [readSingle, hnand, hf]
          exact ⟨rfl, (BackendTelemetry.totals_countReads_zero _ _).symm⟩
      | ok r =>
          simp only [readSingle, hnand, hf]
          obtain ⟨hresults, htotals⟩ := ih
            { s with
              telemetry :=
                ((s.telemetry.channelRead nand.channel r.2).countReads kind 1 r.2).log
                  (.read kind l h bid nand.channel r.2) } (results.set bid r.1) (total + r.2)
          refine ⟨hresults, htotals.trans ?_⟩
          rw [← BackendTelemetry.totals_countReads_add]
          refine BackendTelemetry.totals_countReads_congr ?_ kind _ _
          rw [BackendTelemetry.totals_log]
          exact BackendTelemetry.totals_countReads_congr
            (BackendTelemetry.totals_channelRead _ _ _) kind 1 r.2

def outcome (r : Except PyErr (Dict Nat ρ) × RealInferenceStorageBackend cfg) :
    Except PyErr (Dict Nat ρ) × Totals :=
  (r.1, r.2.telemetry.totals)

def batchedOutcome (kind : ReadKind) (t : BackendTelemetry cfg.channels) (bids : List Nat) :
    Except PyErr (Dict Nat ρ × Nat) → Except PyErr (Dict Nat ρ) × Totals
  | .error err => (.error err, t.totals)
  | .ok (results, total) => (.ok results, (t.countReads kind bids.length total).totals)

variable (spanned : ByteFile → Option (Entry cfg.channels) → Except PyErr (ρ × Nat))
  (single : RealInferenceStorageBackend cfg → (layerIdx blockId headId tokenStart : Nat) →
    Except PyErr ρ × RealInferenceStorageBackend cfg)

theorem readBatch_batched (hon : cfg.enableBatching = true) (s : RealInferenceStorageBackend cfg)
    (l bid : Nat) (bids : List Nat) (h ts : Nat) {f : Nat → Except PyErr (ρ × Nat)}
    (hf : (fun b => fetch s.file (s.storage.get? (l, b))) = f) :
    outcome (readBatch kind fetch single s l (bid :: bids) h ts) =
      batchedOutcome kind s.telemetry (bid :: bids) (collect f (bid :: bids) Dict.empty 0) := by
  subst hf
  obtain ⟨hresult, htotals⟩ := @batchLoop_eq cfg ρ fetch s l (bid :: bids) Dict.empty 0 s.telemetry
  unfold readBatch
  rw [if_neg (List.cons_ne_nil bid bids), if_neg (by simp [hon]), ← hresult]
  revert htotals
  rcases batchLoop fetch s l (bid :: bids) Dict.empty 0 s.telemetry with ⟨_ | ⟨out, n⟩, t⟩
  · intro htotals
    exact Prod.ext rfl htotals
  · intro htotals
    refine Prod.ext rfl ?_
    show (BackendTelemetry.log _ _).totals = _
    rw [BackendTelemetry.totals_log]
    refine BackendTelemetry.totals_countReads_congr ?_ kind _ n
    exact htotals

theorem readBatch_unbatched (hoff : cfg.enableBatching = false) (hmode : KnownMode cfg)
    (s : RealInferenceStorageBackend cfg) (l bid : Nat) (bids : List Nat) (h ts : Nat)
    {f : Nat → Except PyErr (ρ × Nat)}
    (hf : (fun b => fetch s.file (s.storage.get? (l, b))) = f) :
    outcome (readBatch kind spanned (readSingle kind fetch) s l (bid :: bids) h ts) =
      ((collect f (bid :: bids) Dict.empty 0).map Prod.fst,
        (s.telemetry.countReads kind (decoded f (bid :: bids)).1
          (decoded f (bid :: bids)).2).totals) := by
  subst hf
  obtain ⟨hresult, htotals⟩ := @readEach_eq cfg ρ kind fetch hmode s l h ts (bid :: bids)
    Dict.empty 0
  unfold readBatch
  rw [if_neg (List.cons_ne_nil bid bids), if_pos hoff]
  exact Prod.ext hresult htotals

theorem readBatch_unknown (hoff : cfg.enableBatching = false) (hmode : ¬ KnownMode cfg)
    (s : RealInferenceStorageBackend cfg) (l bid : Nat) (bids : List Nat) (h ts : Nat) :
    ∃ err, (readBatch kind spanned (readSingle kind fetch) s l (bid :: bids) h ts).1 =
      .error err := by
  obtain ⟨name, hname⟩ : ∃ name, cfg.mappingMode = .other name := by
    simpa [KnownMode] using hmode
  unfold readBatch
  rw [if_neg (List.cons_ne_nil bid bids), if_pos hoff]
  simp only [readEach, readSingle, hname, DeterministicTensorMapper.tensorToNandPhysical,
    DeterministicTensorMapper.unknownMode]
  exact ⟨_, rfl⟩

end Paths

/-! ## When they agree -/

section Agree

variable {f : Nat → Except PyErr (ρ × Nat)} {kind : ReadKind}
  {t : BackendTelemetry cfg.channels}

/-- Both collect the same. The totals tell whether a single read was counted before the error. -/
theorem batchedOutcome_eq_iff (bid : Nat) (bids : List Nat) :
    batchedOutcome kind t (bid :: bids) (collect f (bid :: bids) Dict.empty 0) =
        ((collect f (bid :: bids) Dict.empty 0).map Prod.fst,
          (t.countReads kind (decoded f (bid :: bids)).1 (decoded f (bid :: bids)).2).totals) ↔
      (∀ b ∈ bid :: bids, ∃ r, f b = .ok r) ∨ ¬ ∃ r, f bid = .ok r := by
  have hall := @collect_isOk_iff ρ f (bid :: bids) Dict.empty 0
  rw [← hall]
  cases hc : collect f (bid :: bids) Dict.empty 0 with
  | ok r =>
      obtain ⟨hlength, hbytes⟩ := collect_counted hc
      rw [Nat.zero_add] at hbytes
      simp [batchedOutcome, Except.map, hlength, hbytes]
  | error err =>
      have hzero := @decoded_eq_zero_iff ρ f bid bids
      have hcounts : t.totals = (t.countReads kind (decoded f (bid :: bids)).1
          (decoded f (bid :: bids)).2).totals ↔ ¬ ∃ r, f bid = .ok r := by
        rw [← BackendTelemetry.totals_countReads_zero t kind]
        constructor
        · intro h
          exact hzero.mp (BackendTelemetry.totals_countReads_inj h).1.symm
        · intro h
          rw [hzero.mpr h, decoded_bytes_of_none h]
      simpa [batchedOutcome, Except.map] using hcounts

variable (cfg) in
/-- The configuration with `enable_batching` set. -/
abbrev withBatching (enable : Bool) : BackendConfig := { cfg with enableBatching := enable }

def batching (s : RealInferenceStorageBackend cfg) (enable : Bool) :
    RealInferenceStorageBackend (withBatching cfg enable) :=
  ⟨s.storage, s.file, s.fileOffset, s.telemetry⟩

abbrev Page : ReadKind → Type
  | .key => NDArray
  | .value => NDArray
  | .block => NDArray × NDArray

/-- `read_key_page_batch`, `read_value_page_batch` and `read_block_batch`. -/
def readPageBatch (kind : ReadKind) (s : RealInferenceStorageBackend cfg) (layerIdx : Nat)
    (blockIds : List Nat) (headId tokenStart : Nat) :
    Except PyErr (Dict Nat (Page kind)) × RealInferenceStorageBackend cfg :=
  match kind with
  | .key => readKeyPageBatch s layerIdx blockIds headId tokenStart
  | .value => readValuePageBatch s layerIdx blockIds headId tokenStart
  | .block => readBlockBatch s layerIdx blockIds headId tokenStart

/-- What the batch and the single reads of a kind do, in terms of one fetch. -/
theorem readPageBatch_outcomes {requests : List (Request α)} (h : Laid s requests)
    (kind : ReadKind) (l : Nat) :
    ∃ f : Nat → Except PyErr (Page kind × Nat), (∀ b, (∃ r, f b = .ok r) ↔ BlockFits kind s l b) ∧
      ∀ bid bids head ts,
        outcome (readPageBatch kind (s.batching true) l (bid :: bids) head ts) =
            @batchedOutcome cfg _ kind s.telemetry (bid :: bids)
              (collect f (bid :: bids) Dict.empty 0) ∧
          (KnownMode cfg →
            outcome (readPageBatch kind (s.batching false) l (bid :: bids) head ts) =
              ((collect f (bid :: bids) Dict.empty 0).map Prod.fst,
                (s.telemetry.countReads kind (decoded f (bid :: bids)).1
                  (decoded f (bid :: bids)).2).totals)) ∧
          (¬ KnownMode cfg → ∃ err,
            (readPageBatch kind (s.batching false) l (bid :: bids) head ts).1 = .error err) := by
  have hknown : KnownMode cfg → KnownMode (withBatching cfg false) := id
  have hunknown : ¬ KnownMode cfg → ¬ KnownMode (withBatching cfg false) := id
  cases kind with
  | key =>
      have hsame : ∀ enable, (fun b => @fetchKey (withBatching cfg enable) s.file
          (s.storage.get? (l, b))) = fun b => @fetchKey cfg s.file (s.storage.get? (l, b)) := by
        intro enable
        funext b
        cases s.storage.get? (l, b) <;> rfl
      refine ⟨_, h.fetchKey_ok_iff l, fun bid bids head ts => ⟨?_, fun hmode => ?_, ?_⟩⟩
      · exact readBatch_batched readKeyPage rfl (s.batching true) l bid bids head ts (hsame true)
      · exact readBatch_unbatched fetchKey rfl (hknown hmode) (s.batching false) l bid bids head ts
          (hsame false)
      · intro hmode
        exact readBatch_unknown fetchKey rfl (hunknown hmode) (s.batching false) l bid bids head ts
  | value =>
      have hsame : ∀ enable, (fun b => @fetchValue (withBatching cfg enable) s.file
          (s.storage.get? (l, b))) = fun b => @fetchValue cfg s.file (s.storage.get? (l, b)) := by
        intro enable
        funext b
        cases s.storage.get? (l, b) <;> rfl
      refine ⟨_, h.fetchValue_ok_iff l, fun bid bids head ts => ⟨?_, fun hmode => ?_, ?_⟩⟩
      · exact readBatch_batched readValuePage rfl (s.batching true) l bid bids head ts (hsame true)
      · exact readBatch_unbatched fetchValue rfl (hknown hmode) (s.batching false) l bid bids head ts
          (hsame false)
      · intro hmode
        exact readBatch_unknown fetchValue rfl (hunknown hmode) (s.batching false) l bid bids head ts
  | block =>
      have hspan : (fun b => @fetchBlockSpan (withBatching cfg true) s.file
          (s.storage.get? (l, b))) = fun b => @fetchBlock cfg s.file (s.storage.get? (l, b)) := by
        funext b
        rw [← h.fetchBlockSpan_eq l b]
        cases s.storage.get? (l, b) <;> rfl
      have hsame : (fun b => @fetchBlock (withBatching cfg false) s.file
          (s.storage.get? (l, b))) = fun b => @fetchBlock cfg s.file (s.storage.get? (l, b)) := by
        funext b
        cases s.storage.get? (l, b) <;> rfl
      refine ⟨_, h.fetchBlock_ok_iff l, fun bid bids head ts => ⟨?_, fun hmode => ?_, ?_⟩⟩
      · exact readBatch_batched readBlock rfl (s.batching true) l bid bids head ts hspan
      · exact readBatch_unbatched fetchBlockSpan rfl (hknown hmode) (s.batching false) l bid bids
          head ts hsame
      · intro hmode
        exact readBatch_unknown fetchBlockSpan rfl (hunknown hmode) (s.batching false) l bid bids
          head ts

def Transparent {cfg' : BackendConfig}
    (batched : Except PyErr (Dict Nat ρ) × RealInferenceStorageBackend cfg)
    (each : Except PyErr (Dict Nat ρ) × RealInferenceStorageBackend cfg') : Prop :=
  ∃ results totals, outcome batched = (.ok results, totals) ∧ outcome each = (.ok results, totals)

section Runs

variable [Field α] [LinearOrder α]

/-- After every run, a batch read returns what the single reads return, with the same totals,
exactly when the mapping mode is known and every stored block of the list has pages of the size
that was recorded for them. In a known mode they otherwise raise the same error, and the totals
differ exactly when a block was read before the one that raises. -/
theorem batching_transparent_iff (cfg : BackendConfig) (val : DType → Bytes → α)
    (kernel : Option (Kernel α)) (requests : List (Request α)) (kind : ReadKind)
    (layerIdx bid : Nat) (bids : List Nat) (headId tokenStart : Nat) :
    let s := (server cfg val kernel).exec init requests
    let batched := readPageBatch kind (s.batching true) layerIdx (bid :: bids) headId tokenStart
    let each := readPageBatch kind (s.batching false) layerIdx (bid :: bids) headId tokenStart
    (Transparent batched each ↔
        KnownMode cfg ∧ ∀ b ∈ bid :: bids, BlockFits kind s layerIdx b) ∧
      (outcome batched = outcome each ↔
        KnownMode cfg ∧
          ((∀ b ∈ bid :: bids, BlockFits kind s layerIdx b) ∨ ¬ BlockFits kind s layerIdx bid)) := by
  intro s batched each
  have hlaid : Laid s requests := laid_run requests
  obtain ⟨f, hfits, houtcomes⟩ := readPageBatch_outcomes hlaid kind layerIdx
  obtain ⟨hbatched, hknown, hunknown⟩ := houtcomes bid bids headId tokenStart
  have hall := @collect_isOk_iff _ f (bid :: bids) Dict.empty 0
  simp only [hfits] at hall
  by_cases hmode : KnownMode cfg
  · have heach := hknown hmode
    have hagree := @batchedOutcome_eq_iff cfg _ f kind s.telemetry bid bids
    rw [← hbatched, ← heach] at hagree
    simp only [hfits] at hagree
    refine ⟨?_, by rw [hagree]; simp [hmode]⟩
    unfold Transparent
    rw [hbatched, heach, ← hall]
    constructor
    · rintro ⟨results, totals, -, hreturn⟩
      cases hc : collect f (bid :: bids) Dict.empty 0 with
      | error err => simp [hc, Except.map] at hreturn
      | ok r => exact ⟨hmode, r, rfl⟩
    · rintro ⟨-, ⟨out, n⟩, hc⟩
      obtain ⟨hlength, hbytes⟩ := collect_counted hc
      rw [Nat.zero_add] at hbytes
      exact ⟨out, _, by rw [hc]; rfl, by rw [hc, hlength, ← hbytes]; rfl⟩
  · -- nothing is stored, so the batch returns zero pages
    obtain ⟨err, herr⟩ := hunknown hmode
    have hall' : ∀ b ∈ bid :: bids, BlockFits kind s layerIdx b :=
      fun b _ e he => absurd (hlaid.known (layerIdx, b) e he) hmode
    obtain ⟨⟨out, n⟩, hc⟩ := hall.mpr hall'
    have hdiffer : batched.1 ≠ each.1 := by
      rw [herr, show batched.1 = (outcome batched).1 from rfl, hbatched, hc]
      simp [batchedOutcome]
    refine ⟨?_, ?_⟩
    · simp only [hmode, false_and, iff_false]
      rintro ⟨results, totals, hreturn, hreturn'⟩
      exact hdiffer ((congrArg Prod.fst hreturn).trans (congrArg Prod.fst hreturn').symm)
    · simp only [hmode, false_and, iff_false]
      exact fun heq => hdiffer (congrArg Prod.fst heq)

def shortBlock : RealInferenceStorageBackend tinyConfig :=
  (server tinyConfig (fun _ _ => (0 : ℚ)) none).exec init
    [.write 0 0 (.array (oneFloat 1)) (.array (oneFloat 2)) 0 0,
      .write 0 1 (.raw [1, 2, 3, 4, 5]) (.raw [1, 2, 3, 4]) 0 0]

/-- Neither path returns. The single reads have counted the block before the one that raises,
the batch has not. -/
theorem short_block_is_not_transparent :
    let batched := readPageBatch .key (shortBlock.batching true) 0 [0, 1] 0 0
    let each := readPageBatch .key (shortBlock.batching false) 0 [0, 1] 0 0
    batched.1 = .error (.valueError "buffer size must be a multiple of element size") ∧
      each.1 = batched.1 ∧
      ¬ Transparent batched each ∧
      (outcome batched).2.requests = 2 ∧ (outcome each).2.requests = 3 := by
  have hresult : (readPageBatch .key (shortBlock.batching true) 0 [0, 1] 0 0).1 =
      .error (.valueError "buffer size must be a multiple of element size") := rfl
  refine ⟨hresult, rfl, ?_, by decide +kernel, by decide +kernel⟩
  rintro ⟨results, totals, hreturn, -⟩
  have hok : (readPageBatch .key (shortBlock.batching true) 0 [0, 1] 0 0).1 = .ok results :=
    congrArg Prod.fst hreturn
  cases hresult.symm.trans hok

end Runs

end Agree

end RealInferenceStorageBackend

end AiSsd.Storage
