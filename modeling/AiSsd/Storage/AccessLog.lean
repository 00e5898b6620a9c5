import AiSsd.Lib.BoundedLog
import AiSsd.Storage.DriveBackend

/-!
# The access log

Every write and read that returns appends to the log and trims it to the newest 200 records. A
filter call appends as well, but does not trim.
-/

namespace AiSsd.Storage

open Lib Lib.BoundedLog Numpy

universe u

def AccessRecord.trims : AccessRecord → Bool
  | .computationalTopk .. => false
  | _ => true

namespace BackendTelemetry

variable {channels : Nat}

/-- From `t` to `t'` the records were appended, and nothing else happened to the log. -/
def Logs (t t' : BackendTelemetry channels) (records : List AccessRecord) : Prop :=
  t'.accessLog = appendAll AccessRecord.trims 200 t.accessLog records

theorem Logs.refl (t : BackendTelemetry channels) : Logs t t [] := rfl

theorem Logs.trans {t t' t'' : BackendTelemetry channels} {records records' : List AccessRecord}
    (h : Logs t t' records) (h' : Logs t' t'' records') : Logs t t'' (records ++ records') := by
  rw [Logs, h', h, appendAll_append]

theorem logs_of_eq {t t' : BackendTelemetry channels} (h : t'.accessLog = t.accessLog) :
    Logs t t' [] := h

theorem logs_log {t t' : BackendTelemetry channels} (h : t'.accessLog = t.accessLog)
    {record : AccessRecord} (hrecord : record.trims = true) : Logs t (t'.log record) [record] := by
  simp [Logs, log, append, h, hrecord, List.rtake]

@[simp] theorem accessLog_channelRead (t : BackendTelemetry channels) (ch : Fin channels)
    (bytes : Nat) : (t.channelRead ch bytes).accessLog = t.accessLog := rfl

@[simp] theorem accessLog_countReads (t : BackendTelemetry channels) (kind : ReadKind)
    (count bytes : Nat) : (t.countReads kind count bytes).accessLog = t.accessLog := by
  cases kind <;> rfl

end BackendTelemetry

namespace DeviceBackend

open BackendTelemetry
open RealInferenceStorageBackend (Request pack headsInBlock assignChannels)

variable {cfg : BackendConfig} {δ ρ : Type} {α : Type u} {D : Drive δ α} {mode : StorageMode}
  {s : DeviceBackend cfg δ}

/-! ## What each method logs -/

variable (D mode) in
def writeRecords (s : DeviceBackend cfg δ) (l b : Nat) (k v : Payload) (h ts : Nat) :
    List AccessRecord :=
  match writeBlock D.toDevice mode s l b k v h ts with
  | (.error _, _) => []
  | (.ok _, s') =>
      ((s'.storage.get? (l, b)).map fun e => .write l h b e.channel (e.kSize + e.vSize)).toList

def singleRecords (kind : ReadKind)
    (fetch : δ → Option (Entry cfg.channels) → Except PyErr (ρ × Nat) × δ)
    (s : DeviceBackend cfg δ) (l b h ts : Nat) : List AccessRecord :=
  match (lookUp fetch s l b h ts).1 with
  | .error _ => []
  | .ok (_, ch, bytes) => [.read kind l h b ch bytes]

def eachRecords (read : DeviceBackend cfg δ → Nat → Except PyErr ρ × DeviceBackend cfg δ)
    (records : DeviceBackend cfg δ → Nat → List AccessRecord) :
    List Nat → DeviceBackend cfg δ → List AccessRecord
  | [], _ => []
  | bid :: bids, s =>
      records s bid ++
        match read s bid with
        | (.error _, _) => []
        | (.ok _, s') => eachRecords read records bids s'

variable (D mode) in
/-- A transaction that returns logs once. -/
def batchRecords (page : PageReader cfg ρ)
    (single : DeviceBackend cfg δ → (layerIdx blockId headId tokenStart : Nat) →
      Except PyErr ρ × DeviceBackend cfg δ)
    (records : DeviceBackend cfg δ → (layerIdx blockId headId tokenStart : Nat) →
      List AccessRecord)
    (s : DeviceBackend cfg δ) (l : Nat) (bids : List Nat) (h ts : Nat) : List AccessRecord :=
  if bids = [] then []
  else if cfg.enableBatching = false then
    eachRecords (fun s bid => single s l bid h ts) (fun s bid => records s l bid h ts) bids s
  else
    match (transaction D mode page s l bids).1 with
    | .error _ => []
    | .ok (_, total) => [.batchRead page.kind l h bids.length total]

theorem accessLog_assignChannels (l b h ts n : Nat) (offsets : List Nat)
    (t : BackendTelemetry cfg.channels) :
    (assignChannels l b h ts n offsets t).2.accessLog = t.accessLog := by
  induction offsets generalizing t with
  | nil => rfl
  | cons hOff rest ih =>
      unfold assignChannels
      dsimp only
      split
      · rfl
      · rename_i nand _
        have hrest := ih (t.channelWrite nand.channel n)
        split
        · rename_i hassign
          rw [hassign] at hrest
          exact hrest
        · rename_i hassign
          rw [hassign] at hrest
          exact hrest

theorem logs_writeBlock (s : DeviceBackend cfg δ) (l b : Nat) (k v : Payload) (h ts : Nat) :
    Logs s.telemetry (writeBlock D.toDevice mode s l b k v h ts).2.telemetry
      (writeRecords D mode s l b k v h ts) := by
  have hassigned := @accessLog_assignChannels cfg l b h ts
    (((pack cfg k).bytes.length + (pack cfg v).bytes.length) / headsInBlock k)
    (List.range (headsInBlock k)) s.telemetry
  unfold writeRecords writeBlock
  dsimp only
  revert hassigned
  rcases assignChannels l b h ts
    (((pack cfg k).bytes.length + (pack cfg v).bytes.length) / headsInBlock k)
    (List.range (headsInBlock k)) s.telemetry with ⟨_ | assigned, t⟩
  · intro hassigned
    exact logs_of_eq hassigned
  · intro hassigned
    dsimp only
    split
    · exact logs_of_eq hassigned
    · split
      · exact logs_of_eq hassigned
      · dsimp only at hassigned ⊢
        rw [Dict.get?_set_self, Option.map_some, Option.toList_some]
        exact logs_log hassigned rfl

theorem logs_readSingle (kind : ReadKind)
    (fetch : δ → Option (Entry cfg.channels) → Except PyErr (ρ × Nat) × δ)
    (s : DeviceBackend cfg δ) (l b h ts : Nat) :
    Logs s.telemetry (readSingle kind fetch s l b h ts).2.telemetry
      (singleRecords kind fetch s l b h ts) := by
  unfold readSingle singleRecords
  rcases lookUp fetch s l b h ts with ⟨_ | ⟨ret, ch, bytes⟩, device⟩
  · exact Logs.refl _
  · have hcounted : ((s.telemetry.channelRead ch bytes).countReads kind 1 bytes).accessLog =
        s.telemetry.accessLog := by simp
    exact logs_log hcounted rfl

theorem logs_readEach {read : DeviceBackend cfg δ → Nat → Except PyErr ρ × DeviceBackend cfg δ}
    {records : DeviceBackend cfg δ → Nat → List AccessRecord}
    (hread : ∀ s b, Logs s.telemetry (read s b).2.telemetry (records s b)) (bids : List Nat)
    (results : Dict Nat ρ) (s : DeviceBackend cfg δ) :
    Logs s.telemetry (readEach read bids results s).2.telemetry
      (eachRecords read records bids s) := by
  induction bids generalizing results s with
  | nil => exact Logs.refl _
  | cons bid bids ih =>
      have hone := hread s bid
      unfold readEach eachRecords
      revert hone
      rcases read s bid with ⟨_ | ret, s'⟩
      · intro hone
        rw [List.append_nil]
        exact hone
      · intro hone
        exact hone.trans (ih (results.set bid ret) s')

theorem accessLog_batchLoop (page : PageReader cfg ρ)
    (raw : δ → Nat → Entry cfg.channels → Except PyErr Bytes × δ) (l : Nat) (bids : List Nat)
    (results : Dict Nat ρ) (total : Nat) (t : BackendTelemetry cfg.channels) (device : δ) :
    (batchLoop page raw s l bids results total t device).2.1.accessLog = t.accessLog := by
  induction bids generalizing results total t device with
  | nil => rfl
  | cons bid bids ih =>
      unfold batchLoop
      split
      · rw [ih, accessLog_channelRead]
      · split
        · rfl
        · split
          · rfl
          · rw [ih, accessLog_channelRead]

theorem accessLog_transaction (page : PageReader cfg ρ) (s : DeviceBackend cfg δ) (l : Nat)
    (bids : List Nat) :
    (transaction D mode page s l bids).2.1.accessLog = s.telemetry.accessLog := by
  unfold transaction
  cases mode with
  | file => exact accessLog_batchLoop page _ l bids _ 0 _ _
  | nvmeQemu =>
      dsimp only
      split
      · rfl
      · exact accessLog_batchLoop page _ l bids _ 0 _ _

theorem logs_readBatch {page : PageReader cfg ρ}
    {single : DeviceBackend cfg δ → (layerIdx blockId headId tokenStart : Nat) →
      Except PyErr ρ × DeviceBackend cfg δ}
    {records : DeviceBackend cfg δ → (layerIdx blockId headId tokenStart : Nat) →
      List AccessRecord}
    (hsingle : ∀ s l b h ts,
      Logs s.telemetry (single s l b h ts).2.telemetry (records s l b h ts))
    (s : DeviceBackend cfg δ) (l : Nat) (bids : List Nat) (h ts : Nat) :
    Logs s.telemetry (readBatch D mode page single s l bids h ts).2.telemetry
      (batchRecords D mode page single records s l bids h ts) := by
  unfold readBatch batchRecords
  split
  · exact Logs.refl _
  · split
    · exact logs_readEach (fun s b => hsingle s l b h ts) bids Dict.empty s
    · have hloop := @accessLog_transaction cfg δ ρ α D mode page s l bids
      revert hloop
      rcases transaction D mode page s l bids with ⟨_ | ⟨results, total⟩, t, device⟩
      · intro hloop
        exact logs_of_eq hloop
      · intro hloop
        apply logs_log _ rfl
        rw [accessLog_countReads]
        exact hloop

theorem trims_writeRecords (s : DeviceBackend cfg δ) (l b : Nat) (k v : Payload) (h ts : Nat) :
    ∀ r ∈ writeRecords D mode s l b k v h ts, r.trims = true := by
  intro r hr
  unfold writeRecords at hr
  split at hr
  · simp at hr
  · simp only [Option.mem_toList, Option.map_eq_some_iff] at hr
    obtain ⟨e, -, rfl⟩ := hr
    rfl

theorem trims_singleRecords (kind : ReadKind)
    (fetch : δ → Option (Entry cfg.channels) → Except PyErr (ρ × Nat) × δ)
    (s : DeviceBackend cfg δ) (l b h ts : Nat) :
    ∀ r ∈ singleRecords kind fetch s l b h ts, r.trims = true := by
  intro r hr
  unfold singleRecords at hr
  split at hr
  · simp at hr
  · rw [List.mem_singleton] at hr
    rw [hr]
    rfl

theorem trims_eachRecords {read : DeviceBackend cfg δ → Nat → Except PyErr ρ × DeviceBackend cfg δ}
    {records : DeviceBackend cfg δ → Nat → List AccessRecord}
    (hrecords : ∀ s b, ∀ r ∈ records s b, r.trims = true) (bids : List Nat)
    (s : DeviceBackend cfg δ) : ∀ r ∈ eachRecords read records bids s, r.trims = true := by
  induction bids generalizing s with
  | nil => simp [eachRecords]
  | cons bid bids ih =>
      unfold eachRecords
      rw [List.forall_mem_append]
      refine ⟨hrecords s bid, ?_⟩
      split
      · simp
      · exact ih _

theorem trims_batchRecords {page : PageReader cfg ρ}
    {single : DeviceBackend cfg δ → (layerIdx blockId headId tokenStart : Nat) →
      Except PyErr ρ × DeviceBackend cfg δ}
    {records : DeviceBackend cfg δ → (layerIdx blockId headId tokenStart : Nat) →
      List AccessRecord}
    (hrecords : ∀ s l b h ts, ∀ r ∈ records s l b h ts, r.trims = true)
    (s : DeviceBackend cfg δ) (l : Nat) (bids : List Nat) (h ts : Nat) :
    ∀ r ∈ batchRecords D mode page single records s l bids h ts, r.trims = true := by
  unfold batchRecords
  split
  · simp
  · split
    · exact trims_eachRecords (fun s b => hrecords s l b h ts) bids s
    · split
      · simp
      · simp [AccessRecord.trims]

section Runs

variable [Field α] [LinearOrder α] {dtype : String} {val : DType → Bytes → α}
  {kernel : Option (Kernel α)}

variable (D mode dtype val kernel) in
/-- A filter call with candidates that returns logs once. -/
def topkRecords (s : DeviceBackend cfg δ) (l : Nat) (cands : List (Nat × Nat))
    (query : List (List α)) (topK : Nat) (scale : α) (qHeads kvHeads headDim : Nat) :
    List AccessRecord :=
  if cands = [] then []
  else
    match (topkResults D mode dtype val kernel s l cands query topK scale qHeads kvHeads
        headDim).1 with
    | .error _ => []
    | .ok _ =>
        [.computationalTopk l cands.length topK
          ((cands.map (candidateInfo s l)).map fun c => c.2.1).sum]

theorem accessLog_countCandidates (s : DeviceBackend cfg δ) (l : Nat)
    (cands : List (Nat × Nat)) :
    (countCandidates s l cands).accessLog = s.telemetry.accessLog := by
  unfold countCandidates
  generalize s.telemetry = t
  induction cands generalizing t with
  | nil => rfl
  | cons cand cands ih =>
      rw [List.foldl_cons, ih]
      split <;> rfl

theorem logs_computeTopkFilter (s : DeviceBackend cfg δ) (l : Nat) (cands : List (Nat × Nat))
    (query : List (List α)) (topK : Nat) (scale : α) (qHeads kvHeads headDim : Nat) :
    Logs s.telemetry (computeTopkFilter D mode dtype val kernel s l cands query topK scale qHeads
        kvHeads headDim).2.telemetry
      (topkRecords D mode dtype val kernel s l cands query topK scale qHeads kvHeads
        headDim) := by
  have hcounted := accessLog_countCandidates s l cands
  unfold computeTopkFilter topkRecords
  split
  · exact Logs.refl _
  · rcases topkResults D mode dtype val kernel s l cands query topK scale qHeads kvHeads
      headDim with ⟨_ | results, device⟩
    · exact logs_of_eq hcounted
    · dsimp only
      rw [Logs, hcounted]
      simp [append, AccessRecord.trims]

variable (D mode dtype val kernel) in
def records (s : DeviceBackend cfg δ) : Request α → List AccessRecord
  | .write l b k v h ts => writeRecords D mode s l b k v h ts
  | .other (.write l b k v h ts) => writeRecords D mode s l b (.array k) (.array v) h ts
  | .other (.evict _ _) => []
  | .other (.readKeyPage l b h ts) => singleRecords .key (fetchSpan D (keyPages cfg)) s l b h ts
  | .other (.readValuePage l b h ts) =>
      singleRecords .value (fetchSpan D (valuePages cfg)) s l b h ts
  | .other (.readBlock l b h ts) => singleRecords .block (fetchBlock D mode) s l b h ts
  | .other (.readKeyPageBatch l bids h ts) =>
      batchRecords D mode (keyPages cfg) (readKeyPage D)
        (singleRecords .key (fetchSpan D (keyPages cfg))) s l bids h ts
  | .other (.readValuePageBatch l bids h ts) =>
      batchRecords D mode (valuePages cfg) (readValuePage D)
        (singleRecords .value (fetchSpan D (valuePages cfg))) s l bids h ts
  | .other (.readBlockBatch l bids h ts) =>
      batchRecords D mode (blockPages cfg) (readBlock D mode)
        (singleRecords .block (fetchBlock D mode)) s l bids h ts
  | .other (.computeTopkFilter l cands query topK scale qHeads kvHeads headDim) =>
      topkRecords D mode dtype val kernel s l cands query topK scale qHeads kvHeads headDim

theorem logs_serve (s : DeviceBackend cfg δ) (request : Request α) :
    Logs s.telemetry (serve D mode dtype val kernel s request).2.telemetry
      (records D mode dtype val kernel s request) := by
  cases request with
  | write l b k v h ts => exact logs_writeBlock s l b k v h ts
  | other op =>
      cases op with
      | write l b k v h ts => exact logs_writeBlock s l b (.array k) (.array v) h ts
      | evict l b =>
          simp only [serve, records, evictBlock]
          split <;> exact Logs.refl _
      | readKeyPage l b h ts => exact logs_readSingle _ _ s l b h ts
      | readValuePage l b h ts => exact logs_readSingle _ _ s l b h ts
      | readBlock l b h ts => exact logs_readSingle _ _ s l b h ts
      | readKeyPageBatch l bids h ts =>
          exact logs_readBatch (logs_readSingle _ _) s l bids h ts
      | readValuePageBatch l bids h ts =>
          exact logs_readBatch (logs_readSingle _ _) s l bids h ts
      | readBlockBatch l bids h ts =>
          exact logs_readBatch (logs_readSingle _ _) s l bids h ts
      | computeTopkFilter l cands query topK scale qHeads kvHeads headDim =>
          exact logs_computeTopkFilter s l cands query topK scale qHeads kvHeads headDim

variable (D mode dtype val kernel) in
/-- The call is a filter call that gets as far as its record: it has candidates and returns. -/
def LogsTopk (s : DeviceBackend cfg δ) : Call α → Prop
  | .request (.other (.computeTopkFilter l cands query topK scale qHeads kvHeads headDim)) =>
      cands ≠ [] ∧ ∃ results, (topkResults D mode dtype val kernel s l cands query topK scale
        qHeads kvHeads headDim).1 = .ok results
  | _ => False

theorem trims_records {request : Request α}
    (htopk : ¬ LogsTopk D mode dtype val kernel s (.request request)) :
    ∀ r ∈ records D mode dtype val kernel s request, r.trims = true := by
  cases request with
  | write l b k v h ts => exact trims_writeRecords s l b k v h ts
  | other op =>
      cases op with
      | write l b k v h ts => exact trims_writeRecords s l b (.array k) (.array v) h ts
      | evict l b => simp [records]
      | readKeyPage l b h ts => exact trims_singleRecords _ _ s l b h ts
      | readValuePage l b h ts => exact trims_singleRecords _ _ s l b h ts
      | readBlock l b h ts => exact trims_singleRecords _ _ s l b h ts
      | readKeyPageBatch l bids h ts =>
          exact trims_batchRecords (trims_singleRecords _ _) s l bids h ts
      | readValuePageBatch l bids h ts =>
          exact trims_batchRecords (trims_singleRecords _ _) s l bids h ts
      | readBlockBatch l bids h ts =>
          exact trims_batchRecords (trims_singleRecords _ _) s l bids h ts
      | computeTopkFilter l cands query topK scale qHeads kvHeads headDim =>
          simp only [records, topkRecords]
          split
          · simp
          · rename_i hcands
            split
            · simp
            · rename_i results hresults
              exact absurd ⟨hcands, results, hresults⟩ htopk

theorem records_of_logsTopk {request : Request α}
    (h : LogsTopk D mode dtype val kernel s (.request request)) :
    ∃ r, records D mode dtype val kernel s request = [r] ∧ r.trims = false := by
  cases request with
  | write l b k v head ts => exact h.elim
  | other op =>
      cases op with
      | computeTopkFilter l cands query topK scale qHeads kvHeads headDim =>
          obtain ⟨hcands, results, hresults⟩ := h
          simp only [records, topkRecords, if_neg hcands, hresults]
          exact ⟨_, rfl, rfl⟩
      | _ => exact h.elim

/-! ## Whole runs -/

variable (D mode dtype val kernel) in
/-- Everything that was logged since the log was last cleared. -/
def recorded (all : List AccessRecord) (s : DeviceBackend cfg δ) (call : Call α)
    (_ : Except PyErr (Returned α)) : List AccessRecord :=
  match call with
  | .request request => all ++ records D mode dtype val kernel s request
  | .resetStats => []
  | _ => all

/-- The log holds at most 200 records: the newest, in order. -/
def KeepsNewest (s : DeviceBackend cfg δ) (all : List AccessRecord) : Prop :=
  s.telemetry.accessLog.length ≤ 200 ∧ s.telemetry.accessLog = all.rtake 200

theorem keepsNewest_iff {all : List AccessRecord} :
    KeepsNewest s all ↔ s.telemetry.accessLog = all.rtake 200 := by
  refine ⟨fun h => h.2, fun h => ⟨?_, h⟩⟩
  rw [h, length_rtake]
  exact Nat.min_le_left 200 all.length

/-- A call keeps the newest records, unless it is a filter call that logs into a full log. -/
theorem keepsNewest_step_iff {all : List AccessRecord} (hs : KeepsNewest s all) (call : Call α)
    (answer : Except PyErr (Returned α)) :
    KeepsNewest (step D mode dtype val kernel s call).2
        (recorded D mode dtype val kernel all s call answer) ↔
      (LogsTopk D mode dtype val kernel s call → s.telemetry.accessLog.length < 200) := by
  cases call with
  | containsBlock l b => exact iff_of_true hs False.elim
  | getTraceLog => exact iff_of_true hs False.elim
  | resetStats => exact iff_of_true (keepsNewest_iff.mpr (List.rtake_nil 200).symm) False.elim
  | close => exact iff_of_true hs False.elim
  | request request =>
      have hlog := keepsNewest_iff.mp hs
      have hserve := @logs_serve cfg δ α D mode _ _ dtype val kernel s request
      rw [Logs, hlog] at hserve
      rw [keepsNewest_iff]
      simp only [step, recorded]
      rw [hserve, hlog, length_rtake]
      by_cases htopk : LogsTopk D mode dtype val kernel s (.request request)
      · obtain ⟨r, hrecords, hr⟩ := records_of_logsTopk htopk
        rw [hrecords, appendAll_singleton, (tails_rtake 200 all).append_eq_iff, hr]
        simp only [Bool.false_eq_true, false_or, htopk, true_implies]
        omega
      · exact iff_of_true (appendAll_rtake (trims_records htopk)) fun h => absurd h htopk

/-- After a run the log has the newest records exactly when no more than 200 were logged, or the
last of them was not a filter call's. -/
theorem keepsNewest_run_iff (device : δ) (calls : List (Call α)) :
    KeepsNewest ((machine cfg D mode dtype val kernel).exec (init device) calls)
        ((machine cfg D mode dtype val kernel).history (recorded D mode dtype val kernel)
          (init device) [] calls) ↔
      ((machine cfg D mode dtype val kernel).history (recorded D mode dtype val kernel)
          (init device) [] calls).length ≤ 200 ∨
        ∀ r ∈ ((machine cfg D mode dtype val kernel).history (recorded D mode dtype val kernel)
          (init device) [] calls).getLast?, r.trims = true := by
  rw [keepsNewest_iff]
  apply Follows.newest_iff
  apply (machine cfg D mode dtype val kernel).history_invariant
    (I := fun s all => Follows AccessRecord.trims 200 s.telemetry.accessLog all)
  · intro s all call h
    cases call with
    | request request =>
        have hserve := @logs_serve cfg δ α D mode _ _ dtype val kernel s request
        simp only [machine, step, recorded]
        rw [hserve]
        exact h.appendAll _
    | resetStats => exact follows_nil _ _
    | _ => exact h
  · exact follows_nil _ _

/-- Throughout a run the log holds the newest records, at most 200, exactly when every filter
call that logs is made while the log has fewer than 200. -/
theorem access_log_bounded_iff (cfg : BackendConfig) (D : Drive δ α) (mode : StorageMode)
    (dtype : String) (val : DType → Bytes → α) (kernel : Option (Kernel α)) (device : δ)
    (calls : List (Call α)) :
    (∀ pre, pre <+: calls →
      KeepsNewest ((machine cfg D mode dtype val kernel).exec (init device) pre)
        ((machine cfg D mode dtype val kernel).history (recorded D mode dtype val kernel)
          (init device) [] pre)) ↔
      (machine cfg D mode dtype val kernel).Meets
        (fun s call => LogsTopk D mode dtype val kernel s call →
          s.telemetry.accessLog.length < 200)
        (init device) calls := by
  apply Machine.history_prefix_iff_meets
  · intro s all call hs
    exact keepsNewest_step_iff hs call _
  · exact ⟨Nat.zero_le _, (List.rtake_nil 200).symm⟩

def longDecode : List (Call ℚ) :=
  .request (.write 0 0 (.array (NDArray.zeros [1, 1, 1] float32))
    (.array (NDArray.zeros [1, 1, 1] float32)) 0 0) ::
  List.replicate 200 (.request (.other (.computeTopkFilter 0 [(0, 1)] [[1]] 1 1 1 1 1)))

/-- No call trims the log after the write, and it ends with 201 records. -/
theorem filter_calls_overrun :
    ((machine oneHeadConfig (backingDrive ℚ) .file "float32" (fun _ _ => 0) none).exec
        (init ByteFile.empty) longDecode).telemetry.accessLog.length = 201 ∧
      ¬ KeepsNewest
        ((machine oneHeadConfig (backingDrive ℚ) .file "float32" (fun _ _ => 0) none).exec
          (init ByteFile.empty) longDecode)
        ((machine oneHeadConfig (backingDrive ℚ) .file "float32" (fun _ _ => 0) none).history
          (recorded (backingDrive ℚ) .file "float32" (fun _ _ => 0) none)
          (init ByteFile.empty) [] longDecode) := by
  have hlength : ((machine oneHeadConfig (backingDrive ℚ) .file "float32" (fun _ _ => 0)
      none).exec (init ByteFile.empty) longDecode).telemetry.accessLog.length = 201 := by
    decide +kernel
  refine ⟨hlength, fun h => ?_⟩
  have hbound := h.1
  omega

end Runs

end DeviceBackend

end AiSsd.Storage
