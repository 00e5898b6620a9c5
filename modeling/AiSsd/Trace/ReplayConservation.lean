import AiSsd.Storage.LogicalAddress
import AiSsd.Trace.ReplayTallies
import Mathlib.Algebra.Order.BigOperators.Group.List
import Mathlib.Algebra.Order.Floor.Div

/-!
# What a replay conserves

Every record is counted once on its channel and once on its die, and every read is in one batch.
The bytes of the sub-pages add up to the bytes that were read and written exactly when the
sub-page of every record is one of the three that have a counter; the check of a record lets
others through. The replay returns when it can compute with every record and compare all block
ids.
-/

namespace AiSsd.Trace

open Lib Lib.Batches Lib.Recency Storage

/-! ## Smallest and largest block ids -/

def BlockKey.isText : BlockKey → Bool
  | .number _ => false
  | .text _ => true

def Json.isText : Json → Bool
  | .str _ => true
  | _ => false

theorem isText_of_blockKey {j : Json} {key : BlockKey} (h : j.blockKey = .ok key) :
    key.isText = j.isText := by
  cases j <;> cases h <;> rfl

theorem exists_less_iff (a b : BlockKey) : (∃ r, a.less b = .ok r) ↔ a.isText = b.isText := by
  cases a <;> cases b <;> simp [BlockKey.less, BlockKey.isText]

variable {less : BlockKey → BlockKey → Except PyErr Bool}

/-- The best of some keys is one of them, so that the next one is compared with its kind. -/
theorem exists_foldlM_less_iff
    (hless : ∀ a b, (∃ r, less a b = .ok r) ↔ a.isText = b.isText) (keys : List BlockKey)
    (best : BlockKey) :
    (∃ r, keys.foldlM (fun best k => (less k best).map fun b => if b then k else best) best =
        .ok r) ↔ ∀ k ∈ keys, k.isText = best.isText := by
  induction keys generalizing best with
  | nil => simp [pure, Except.pure]
  | cons k keys ih =>
      rw [List.foldlM_cons, List.forall_mem_cons]
      cases hk : less k best with
      | error err =>
          have hother : ¬ k.isText = best.isText := by
            rw [← hless, hk]
            simp
          simp [Except.map, bind, Except.bind, hother]
      | ok b =>
          have hkind : k.isText = best.isText := (hless k best).mp ⟨b, hk⟩
          have hnext : (if b then k else best).isText = best.isText := by
            split
            · exact hkind
            · rfl
          have hrest := ih (if b then k else best)
          rw [hnext] at hrest
          rw [and_iff_right hkind]
          exact hrest

theorem exists_extremeKey_iff (hless : ∀ a b, (∃ r, less a b = .ok r) ↔ a.isText = b.isText)
    (keys : List BlockKey) :
    (∃ r, extremeKey less keys = .ok r) ↔ ∀ a ∈ keys, ∀ b ∈ keys, a.isText = b.isText := by
  cases keys with
  | nil => simp [extremeKey]
  | cons first keys =>
      rw [extremeKey, exists_foldlM_less_iff hless]
      constructor
      · intro h a ha b hb
        have hall : ∀ k ∈ first :: keys, k.isText = first.isText :=
          List.forall_mem_cons.mpr ⟨rfl, h⟩
        rw [hall a ha, hall b hb]
      · intro h k hk
        exact h k (List.mem_cons_of_mem first hk) first List.mem_cons_self

/-! ## Counted once -/

theorem sum_countP_eq_length {α : Type} {ι : Type} [Fintype ι] [DecidableEq ι] (f : α → ι)
    (xs : List α) : ∑ i, xs.countP (fun x => f x = i) = xs.length := by
  induction xs with
  | nil => simp
  | cons x xs ih => simp [List.countP_cons, Finset.sum_add_distrib, ih]

variable {mapper : DeterministicTensorMapper} {costs : BatchCosts} {queueDepth : Nat}

/-- When all bytes count, none is left over exactly when every sub-page has a counter. -/
theorem unnamedBytes_eq_zero_iff {served : List (Served mapper)}
    (hpos : ∀ r ∈ served, 0 < r.bytes) :
    unnamedBytes served = 0 ↔ ∀ r ∈ served, r.record.subPage ∈ subPages := by
  unfold unnamedBytes
  constructor
  · intro hzero r hr
    by_contra hother
    have hmem : r.bytes ∈ (served.filter fun r => r.record.subPage ∉ subPages).map Served.bytes :=
      List.mem_map_of_mem (List.mem_filter.mpr ⟨hr, by simpa using hother⟩)
    have hsum := List.sum_pos _ (fun b hb => by
      obtain ⟨q, hq, rfl⟩ := List.mem_map.mp hb
      exact hpos q (List.mem_of_mem_filter hq)) (List.ne_nil_of_mem hmem)
    exact absurd hzero (ne_of_gt hsum)
  · intro hnamed
    rw [List.filter_eq_nil_iff.mpr fun r hr => by simpa using hnamed r hr]
    rfl

namespace ReplayState

variable {s : ReplayState mapper} {served : List (Served mapper)}

theorem flush_keeps (s : ReplayState mapper) (costs : BatchCosts) :
    s.flush costs = { s with readLatenciesUs := (s.flush costs).readLatenciesUs } := by
  unfold flush
  split <;> rfl

@[simp] theorem blockIdsSeen_flush (s : ReplayState mapper) (costs : BatchCosts) :
    (s.flush costs).blockIdsSeen = s.blockIdsSeen := by
  rw [flush_keeps]

end ReplayState

namespace StorageTraceReplayer

variable {py : PyText} {percent : String → Int → Except PyErr String}
  {replayer : StorageTraceReplayer} {mode : MappingMode} {blocksPerHead : Int}

/-! ## The report -/

theorem exists_report_iff (s : ReplayState replayer.mapper) (events : Nat) :
    (∃ report, replayer.report mode s events = .ok report) ↔
      ∀ a ∈ s.blockIdsSeen, ∀ b ∈ s.blockIdsSeen, a.isText = b.isText := by
  have hless := exists_extremeKey_iff exists_less_iff s.blockIdsSeen
  have hmore := @exists_extremeKey_iff (fun a b => b.less a)
    (fun a b => (exists_less_iff b a).trans eq_comm) s.blockIdsSeen
  unfold report
  simp only [bind_eq_ok, pure, Except.pure, Except.ok.injEq]
  constructor
  · rintro ⟨-, lo, hlo, -⟩
    exact hless.mp ⟨lo, hlo⟩
  · intro hsame
    obtain ⟨lo, hlo⟩ := hless.mpr hsame
    obtain ⟨hi, hhi⟩ := hmore.mpr hsame
    exact ⟨_, lo, hlo, hi, hhi, rfl⟩

theorem report_counts {s : ReplayState replayer.mapper} {events : Nat}
    {report : ReplayReport replayer.mapper} (h : replayer.report mode s events = .ok report) :
    report.channelDistribution = s.channelAccessCounts ∧
      report.dieDistribution = s.dieAccessCounts ∧
      report.readLatenciesUs = s.readLatenciesUs ∧
      report.kBytes + report.vBytes + report.combinedBytes =
        s.kBytes + s.vBytes + s.combinedBytes ∧
      report.totalReadBytes + report.totalWriteBytes = s.totalReadBytes + s.totalWriteBytes := by
  unfold StorageTraceReplayer.report at h
  simp only [bind_eq_ok, pure, Except.pure, Except.ok.injEq] at h
  obtain ⟨lo, -, hi, -, rfl⟩ := h
  exact ⟨rfl, rfl, rfl, rfl, rfl⟩

/-! ## Conservation -/

/-- The report counts each of so many records on one channel and one die, each read in one batch,
and all bytes for a sub-page. -/
structure Balanced (replayer : StorageTraceReplayer) (costs : BatchCosts) (records : Nat)
    (served : List (Served replayer.mapper)) (report : ReplayReport replayer.mapper) : Prop where
  channels : ∀ ch, report.channelDistribution ch = served.countP fun r => r.channel = ch
  channelsTotal : ∑ ch, report.channelDistribution ch = records
  dies : ∀ die, report.dieDistribution die = served.countP fun r => r.die = die
  diesTotal : ∑ die, report.dieDistribution die = records
  batches : ∃ batches : List (List _), batches.flatten = reads served ∧
    report.readLatenciesUs = batches.map (processBatch costs) ∧
    batches.length = (reads served).length ⌈/⌉ replayer.queueDepth
  bytes : report.kBytes + report.vBytes + report.combinedBytes =
    report.totalReadBytes + report.totalWriteBytes

def Conserves (py : PyText) (percent : String → Int → Except PyErr String) (costs : BatchCosts)
    (replayer : StorageTraceReplayer) (mode : MappingMode) (blocksPerHead : Int)
    (entries : List TraceEntry) : Prop :=
  ∃ served report, entries.mapM (replayer.serve py percent mode blocksPerHead) = .ok served ∧
    replayer.replay py percent costs mode blocksPerHead entries = .ok report ∧
    replayer.Balanced costs entries.length served report

variable (py percent mode blocksPerHead) in
/-- Every record can be replayed and names a sub-page that has a counter, and block ids are all
numbers or all texts. -/
structure Accountable (entries : List TraceEntry) : Prop where
  replayable : ∀ entry ∈ entries, ∀ record, entry.record py = .ok record →
    Replayable percent mode blocksPerHead record
  named : ∀ entry ∈ entries, ∀ record, entry.record py = .ok record → record.subPage ∈ subPages
  comparable : ∀ entry ∈ entries, ∀ record, entry.record py = .ok record →
    ∀ other ∈ entries, ∀ otherRecord, other.record py = .ok otherRecord →
      record.blockId.isText = otherRecord.blockId.isText

theorem replay_eq (entries : List TraceEntry) :
    replayer.replay py percent costs mode blocksPerHead entries =
      (entries.mapM (replayer.serve py percent mode blocksPerHead)).bind fun served =>
        replayer.report mode ((served.foldl (fun s r => s.count costs replayer.queueDepth r)
          (ReplayState.init replayer.mapper)).flush costs) entries.length := by
  rw [replay, replayEach_eq]
  cases entries.mapM (replayer.serve py percent mode blocksPerHead) <;> rfl

/-! ### Entries and what is served -/

variable {entries : List TraceEntry} {served : List (Served replayer.mapper)}

theorem exists_mapM_serve_iff (haccepted : ∀ entry ∈ entries, Accepted py entry) :
    (∃ served, entries.mapM (replayer.serve py percent mode blocksPerHead) = .ok served) ↔
      ∀ entry ∈ entries, ∀ record, entry.record py = .ok record →
        Replayable percent mode blocksPerHead record := by
  constructor
  · rintro ⟨served, hserved⟩ entry hentry record hrecord
    obtain ⟨checked, hsame, hchecked⟩ := (haccepted entry hentry).checked
    obtain rfl : checked = record := Except.ok.inj (hsame.symm.trans hrecord)
    exact (exists_serve_iff hrecord hchecked).mp (ok_of_mapM_eq_ok hserved entry hentry)
  · intro h
    have hserve : ∀ entry ∈ entries,
        ∃ served, replayer.serve py percent mode blocksPerHead entry = .ok served := by
      intro entry hentry
      obtain ⟨record, hrecord, hchecked⟩ := (haccepted entry hentry).checked
      exact (exists_serve_iff hrecord hchecked).mpr (h entry hentry record hrecord)
    obtain ⟨served, hserved, -⟩ := mapM_ok_length hserve
    exact ⟨served, hserved⟩

theorem forall_served_iff
    (hserved : entries.mapM (replayer.serve py percent mode blocksPerHead) = .ok served)
    {P : ValidatedRecord → Prop} :
    (∀ r ∈ served, P r.record) ↔
      ∀ entry ∈ entries, ∀ record, entry.record py = .ok record → P record := by
  have hmem := mem_mapM_eq_ok hserved
  constructor
  · intro h entry hentry record hrecord
    obtain ⟨r, hr, hserve⟩ := hmem.1 entry hentry
    obtain ⟨hsame, -⟩ := serve_eq_ok_iff.mp hserve
    rw [Except.ok.inj (hrecord.symm.trans hsame)]
    exact h r hr
  · intro h r hr
    obtain ⟨entry, hentry, hserve⟩ := hmem.2 r hr
    exact h entry hentry r.record (serve_eq_ok_iff.mp hserve).1

theorem isText_key_of_served
    (hserved : entries.mapM (replayer.serve py percent mode blocksPerHead) = .ok served)
    {r : Served replayer.mapper} (hr : r ∈ served) : r.key.isText = r.record.blockId.isText := by
  obtain ⟨entry, -, hserve⟩ := (mem_mapM_eq_ok hserved).2 r hr
  exact isText_of_blockKey (serve_eq_ok_iff.mp hserve).2.1

theorem bytes_pos_of_served (haccepted : ∀ entry ∈ entries, Accepted py entry)
    (hserved : entries.mapM (replayer.serve py percent mode blocksPerHead) = .ok served)
    {r : Served replayer.mapper} (hr : r ∈ served) : 0 < r.bytes := by
  obtain ⟨entry, hentry, hserve⟩ := (mem_mapM_eq_ok hserved).2 r hr
  obtain ⟨hrecord, -, hbytes, -⟩ := serve_eq_ok_iff.mp hserve
  obtain ⟨record, hsame, hchecked⟩ := (haccepted entry hentry).checked
  obtain rfl : record = r.record := Except.ok.inj (hsame.symm.trans hrecord)
  obtain ⟨n, hpos, hn⟩ := hchecked.bytes
  have hsize : r.bytes = n := Except.ok.inj (hbytes.symm.trans hn)
  rw [hsize]
  exact_mod_cast hpos

/-! ### Balance -/

theorem balanced_iff {report : ReplayReport replayer.mapper} (hdepth : 0 < replayer.queueDepth)
    (hserved : entries.mapM (replayer.serve py percent mode blocksPerHead) = .ok served)
    (hreport : replayer.replay py percent costs mode blocksPerHead entries = .ok report)
    (hpos : ∀ r ∈ served, 0 < r.bytes) :
    replayer.Balanced costs entries.length served report ↔
      ∀ r ∈ served, r.record.subPage ∈ subPages := by
  have htallies := ReplayState.tallies_foldl costs replayer.queueDepth served
  have hlatencies := htallies.latencies_flush hdepth
  have hlength : entries.length = served.length := (mapM_eq_ok hserved).length_eq
  rw [replay_eq, hserved] at hreport
  obtain ⟨hch, hdie, hlat, hnamed, htotal⟩ := report_counts hreport
  rw [ReplayState.flush_keeps] at hch hdie hnamed htotal
  rw [← unnamedBytes_eq_zero_iff hpos]
  constructor
  · intro hbalanced
    have hbytes := hbalanced.bytes
    rw [hnamed, htotal, ← htallies.bytes] at hbytes
    linarith
  · intro hzero
    refine
      { channels := fun ch => ?_
        channelsTotal := ?_
        dies := fun die => ?_
        diesTotal := ?_
        batches := ⟨chunks replayer.queueDepth (reads served), flatten_chunks hdepth _, ?_, ?_⟩
        bytes := ?_ }
    · rw [hch]
      exact htallies.channels ch
    · rw [hch, hlength, ← sum_countP_eq_length Served.channel]
      exact Finset.sum_congr rfl fun ch _ => htallies.channels ch
    · rw [hdie]
      exact htallies.dies die
    · rw [hdie, hlength, ← sum_countP_eq_length Served.die]
      exact Finset.sum_congr rfl fun die _ => htallies.dies die
    · rw [hlat, hlatencies]
    · rw [length_chunks, numChunks, Nat.ceilDiv_eq_add_pred_div]
    · have hbytes := htallies.bytes
      rw [hzero, add_zero] at hbytes
      rw [hnamed, htotal, hbytes]

theorem exists_replay_iff
    (hserved : entries.mapM (replayer.serve py percent mode blocksPerHead) = .ok served) :
    (∃ report, replayer.replay py percent costs mode blocksPerHead entries = .ok report) ↔
      ∀ r ∈ served, ∀ q ∈ served, r.key.isText = q.key.isText := by
  have hseen := (ReplayState.tallies_foldl costs replayer.queueDepth served).seen
  rw [replay_eq, hserved]
  refine (exists_report_iff _ _).trans ?_
  rw [ReplayState.blockIdsSeen_flush, hseen]
  simp [mem_firstOccurrences]

/-- For accepted records, the replay conserves exactly what can be accounted for. -/
theorem conserves_iff (hdepth : 0 < replayer.queueDepth)
    (haccepted : ∀ entry ∈ entries, Accepted py entry) :
    Conserves py percent costs replayer mode blocksPerHead entries ↔
      Accountable py percent mode blocksPerHead entries := by
  constructor
  · rintro ⟨served, report, hserved, hreport, hbalanced⟩
    have hpos := fun r => bytes_pos_of_served (r := r) haccepted hserved
    have hnamed := (balanced_iff hdepth hserved hreport hpos).mp hbalanced
    have hkeys := (exists_replay_iff hserved).mp ⟨report, hreport⟩
    have hcomparable : ∀ r ∈ served, ∀ q ∈ served,
        r.record.blockId.isText = q.record.blockId.isText := by
      intro r hr q hq
      rw [← isText_key_of_served hserved hr, ← isText_key_of_served hserved hq]
      exact hkeys r hr q hq
    refine ⟨(exists_mapM_serve_iff haccepted).mp ⟨served, hserved⟩,
      (forall_served_iff hserved).mp hnamed, ?_⟩
    rw [← forall_served_iff hserved]
    intro r hr
    rw [← forall_served_iff hserved]
    exact hcomparable r hr
  · intro h
    obtain ⟨served, hserved⟩ := (exists_mapM_serve_iff haccepted).mpr h.replayable
    have hcomparable := h.comparable
    rw [← forall_served_iff hserved] at hcomparable
    have hkeys : ∀ r ∈ served, ∀ q ∈ served, r.key.isText = q.key.isText := by
      intro r hr q hq
      rw [isText_key_of_served hserved hr, isText_key_of_served hserved hq]
      exact (forall_served_iff hserved).mpr (hcomparable r hr) q hq
    have hreturns : ∃ report,
        replayer.replay py percent costs mode blocksPerHead entries = .ok report :=
      (exists_replay_iff hserved).mpr hkeys
    obtain ⟨report, hreport⟩ := hreturns
    have hpos := fun r => bytes_pos_of_served (r := r) haccepted hserved
    exact ⟨served, report, hserved, hreport,
      (balanced_iff hdepth hserved hreport hpos).mpr ((forall_served_iff hserved).mpr h.named)⟩

/-! ## The default replayer -/

def defaultReplayer : StorageTraceReplayer := ⟨DeterministicTensorMapper.defaultMapper, 8, 16⟩

def pageWrite (subPage : String) : Fields :=
  [("operation", .str "PREFILL_WRITE"), ("layer_id", .int 0), ("head_id", .int 0),
    ("byte_size", .int 4096), ("token_start", .int 0), ("sub_page", .str subPage)]

theorem validateRecord_pageWrite (subPage : String) :
    validateRecord .integers (pageWrite subPage) 0 =
      .ok ⟨.int 0, Schemas.upper "PREFILL_WRITE", .int 0, .int 0, .int 0, .int 0, .int 4096,
        Schemas.upper subPage, pageWrite subPage⟩ := by
  have hvalid : Schemas.upper "PREFILL_WRITE" ∈ validOperations := by decide
  unfold validateRecord
  simp [pageWrite, Fields.get, Dict.lookup, Json.truthy, hvalid, isIntFrom, blockOfToken, pure,
    Except.pure, bind, Except.bind]

/-- A page for keys is accounted for. -/
theorem conserves_pageWrite_key :
    Conserves .integers (fun _ _ => .error .typeError) .source defaultReplayer .tensorAware 44
      [.raw (pageWrite "KEY") rfl] := by
  have hrecord := validateRecord_pageWrite "KEY"
  refine (conserves_iff (by decide) ?_).mpr ⟨?_, ?_, ?_⟩
  · exact List.forall_mem_singleton.mpr ⟨_, hrecord⟩
  · refine List.forall_mem_singleton.mpr fun record h => ?_
    obtain rfl := Except.ok.inj (hrecord.symm.trans h)
    exact ⟨fun _ => MappingMode.noConfusion, ⟨_, rfl⟩, ⟨0, rfl⟩, fun _ _ _ _ => ⟨0, rfl⟩⟩
  · refine List.forall_mem_singleton.mpr fun record h => ?_
    obtain rfl := Except.ok.inj (hrecord.symm.trans h)
    decide +kernel
  · refine List.forall_mem_singleton.mpr fun record h => List.forall_mem_singleton.mpr ?_
    intro other hother
    rw [Except.ok.inj (h.symm.trans hother)]

/-- A sub-page that is none of the three is accepted, and its bytes have no counter. -/
theorem page_uncounted :
    Accepted .integers (.raw (pageWrite "PAGE") rfl) ∧
      ¬ Conserves .integers (fun _ _ => .error .typeError) .source defaultReplayer .tensorAware 44
        [.raw (pageWrite "PAGE") rfl] := by
  refine ⟨⟨_, validateRecord_pageWrite "PAGE"⟩, ?_⟩
  rintro ⟨served, report, -, hreport, hbalanced⟩
  have hrun : (defaultReplayer.replay .integers (fun _ _ => .error .typeError) .source .tensorAware
      44 [.raw (pageWrite "PAGE") rfl]).map (fun r => (r.kBytes + r.vBytes + r.combinedBytes,
        r.totalReadBytes + r.totalWriteBytes)) = .ok (0, 4096) := by decide +kernel
  rw [hreport] at hrun
  obtain ⟨hnamed, htotal⟩ := Prod.mk.inj (Except.ok.inj hrun)
  have hbytes := hbalanced.bytes
  rw [hnamed, htotal] at hbytes
  exact absurd hbytes (by decide)

end StorageTraceReplayer

end AiSsd.Trace
