import AiSsd.Lib.CheckedStream
import AiSsd.Trace.Reader

/-!
# Reading back a written trace

`read_records` is a generator: what it has yielded stays with the caller when a later record
is refused. A file made of the dictionaries of some records is read as these records, up to
the first one that the checks refuse.
-/

namespace AiSsd.Trace

open Lib

namespace TraceReader

variable (py : PyText)

/-! ## The generator -/

/-- The records yielded from the lines after the first, and how the loop ends. -/
def readLineRecords : (lineNo : Nat) → TraceReader → List Line →
    List CanonicalTraceRecord × Except PyErr TraceReader
  | _, r, [] => ([], .ok r)
  | lineNo, r, .text true _ :: lines => readLineRecords (lineNo + 1) r lines
  | lineNo, _, .text false complaint :: _ =>
      ([], .error (.traceValidationError
        s!"Line {lineNo}: Malformed JSON in trace record: {complaint}"))
  | lineNo, r, .object data :: lines =>
      match readRecord py r data with
      | .error err => ([], .error err)
      | .ok (record, r) =>
          (record :: (readLineRecords (lineNo + 1) r lines).1,
            (readLineRecords (lineNo + 1) r lines).2)

/-- `read_records`: the records yielded, and how the generator ends. -/
def readRecords (r : TraceReader) (lines : List Line) :
    List CanonicalTraceRecord × Except PyErr TraceReader :=
  let r := { r with lastEventId := -1 }
  match lines with
  | [] => ([], .error (.traceValidationError "Empty trace file"))
  | .text _ complaint :: _ =>
      ([], .error (.traceValidationError s!"Malformed JSON in line 1: {complaint}"))
  | .object data :: lines =>
      if isHeader data then
        if isSupported (data.get "schema_version" .null) then
          match TraceHeader.fromDict data with
          | .error err => ([], .error err)
          | .ok header => readLineRecords py 2 { r with header := some header } lines
        else ([], .error (unsupportedVersion py (data.get "schema_version" .null)))
      else readLineRecords py 1 r (.object data :: lines)

variable {py}

theorem readLines_eq (lineNo : Nat) (r : TraceReader) (lines : List Line) :
    readLines py lineNo r lines =
      (readLineRecords py lineNo r lines).2.map
        fun r' => ((readLineRecords py lineNo r lines).1, r') := by
  induction lines generalizing lineNo r with
  | nil => rfl
  | cons line lines ih =>
      cases line with
      | text blank complaint =>
          cases blank with
          | true => simpa [readLines, readLineRecords] using ih (lineNo + 1) r
          | false => simp [readLines, readLineRecords, Except.map]
      | object data =>
          unfold readLines readLineRecords
          cases hread : readRecord py r data with
          | error err => rfl
          | ok read =>
              simp only [bind, Except.bind]
              rw [ih]
              cases (readLineRecords py (lineNo + 1) read.2 lines).2 <;> rfl

theorem loadAll_eq_readRecords (r : TraceReader) (lines : List Line) :
    loadAll py r lines =
      (readRecords py r lines).2.map fun r' => ((readRecords py r lines).1, r') := by
  unfold loadAll readRecords
  cases lines with
  | nil => rfl
  | cons line lines =>
      cases line with
      | text blank complaint => rfl
      | object data =>
          simp only
          split
          · split
            · cases TraceHeader.fromDict data with
              | error err => rfl
              | ok header => exact readLines_eq 2 _ lines
            · rfl
          · exact readLines_eq 1 _ _

/-! ## The files written -/

inductive WrittenLines : List CanonicalTraceRecord → List Line → Prop
  | nil : WrittenLines [] []
  | blank {records : List CanonicalTraceRecord} {lines : List Line} (complaint : String) :
      WrittenLines records lines → WrittenLines records (.text true complaint :: lines)
  | record {records : List CanonicalTraceRecord} {lines : List Line}
      (record : CanonicalTraceRecord) : WrittenLines records lines →
      WrittenLines (record :: records) (.object record.toDict :: lines)

structure HeaderLine (data : Fields) (header : TraceHeader) : Prop where
  isHeader : isHeader data = true
  isSupported : isSupported (data.get "schema_version" .null) = true
  read : TraceHeader.fromDict data = .ok header

/-- A header line or none, then the records; the first line is not blank. -/
inductive WrittenFile : Option TraceHeader → List CanonicalTraceRecord → List Line → Prop
  | headed {data : Fields} {header : TraceHeader} {records : List CanonicalTraceRecord}
      {lines : List Line} : HeaderLine data header → WrittenLines records lines →
      WrittenFile (some header) records (.object data :: lines)
  | plain {records : List CanonicalTraceRecord} {lines : List Line}
      (record : CanonicalTraceRecord) : WrittenLines records lines →
      WrittenFile none (record :: records) (.object record.toDict :: lines)

/-- The reader with the header of the file, if the file has one. -/
def opened (r : TraceReader) (header : Option TraceHeader) : TraceReader :=
  { r with header := header.orElse fun _ => r.header, lastEventId := -1 }

theorem isHeader_toDict (record : CanonicalTraceRecord) : isHeader record.toDict = false := rfl

theorem readRecord_toDict {r : TraceReader} {record : CanonicalTraceRecord}
    (hoperation : record.operation ≠ "") :
    readRecord py r record.toDict = (r.validateRecord record).map fun r => (record, r) := by
  unfold readRecord
  rw [CanonicalTraceRecord.fromDict_toDict hoperation]
  cases hvalid : r.validateRecord record with
  | error err => simp [bind, Except.bind, Except.map, hvalid]
  | ok next => simp [bind, Except.bind, Except.map, hvalid, pure, Except.pure]

/-- Records written line by line are yielded as long as the checks accept them. -/
theorem readLineRecords_written {records : List CanonicalTraceRecord} {lines : List Line}
    (hlines : WrittenLines records lines)
    (hoperations : ∀ record ∈ records, record.operation ≠ "") (lineNo : Nat) (r : TraceReader) :
    readLineRecords py lineNo r lines = CheckedStream.emit validateRecord r records := by
  induction hlines generalizing lineNo r with
  | nil => rfl
  | blank complaint _ ih => exact ih hoperations (lineNo + 1) r
  | record record _ ih =>
      have hrest := fun r => ih (fun other h => hoperations other (List.mem_cons_of_mem _ h))
        (lineNo + 1) r
      unfold readLineRecords CheckedStream.emit
      rw [readRecord_toDict (hoperations record List.mem_cons_self)]
      cases hvalid : r.validateRecord record with
      | error err => rfl
      | ok next => simp [Except.map, hrest]

theorem readRecords_writtenFile {header : Option TraceHeader}
    {records : List CanonicalTraceRecord} {lines : List Line}
    (hfile : WrittenFile header records lines)
    (hoperations : ∀ record ∈ records, record.operation ≠ "") (r : TraceReader) :
    readRecords py r lines = CheckedStream.emit validateRecord (r.opened header) records := by
  cases hfile with
  | headed hheader hlines =>
      unfold readRecords
      simp only [hheader.isHeader, hheader.isSupported, hheader.read, if_true]
      exact readLineRecords_written hlines hoperations 2 _
  | plain record hlines =>
      unfold readRecords
      simp only [isHeader_toDict, Bool.false_eq_true, if_false]
      exact readLineRecords_written (.record record hlines) hoperations 1 _

/-! ## Valid traces -/

/-- Event ids that increase from nothing, and every record within the bounds. -/
structure Valid (r : TraceReader) (records : List CanonicalTraceRecord) : Prop where
  nonneg : ∀ record ∈ records, 0 ≤ record.eventId
  increasing : (records.map CanonicalTraceRecord.eventId).Pairwise (· < ·)
  within : ∀ record ∈ records, r.Within record

theorem Accepted.last_lt {r : TraceReader} {last : Int} {records : List CanonicalTraceRecord}
    (h : r.Accepted last records) : ∀ record ∈ records, last < record.eventId := by
  induction records generalizing last with
  | nil => simp
  | cons record records ih =>
      rw [List.forall_mem_cons]
      refine ⟨h.1, fun other hother => ?_⟩
      have hnext := ih h.2.2 other hother
      have hlast := h.1
      omega

theorem Accepted.increasing {r : TraceReader} {last : Int} {records : List CanonicalTraceRecord}
    (h : r.Accepted last records) :
    (records.map CanonicalTraceRecord.eventId).Pairwise (· < ·) := by
  induction records generalizing last with
  | nil => exact .nil
  | cons record records ih =>
      rw [List.map_cons, List.pairwise_cons]
      refine ⟨?_, ih h.2.2⟩
      simpa using h.2.2.last_lt

theorem valid_iff_accepted {r : TraceReader} {records : List CanonicalTraceRecord} :
    r.Valid records ↔ r.Accepted (-1) records := by
  constructor
  · intro h
    apply accepted_of_increasing h.within _ h.increasing
    intro record hrecord
    have hid := h.nonneg record hrecord
    omega
  · intro h
    refine ⟨fun record hrecord => ?_, h.increasing, h.within⟩
    have hid := h.last_lt record hrecord
    omega

theorem emit_eq_ok_iff {r : TraceReader} {records : List CanonicalTraceRecord} :
    (∃ r', (CheckedStream.emit validateRecord r records).2 = .ok r') ↔
      r.Accepted r.lastEventId records := by
  induction records generalizing r with
  | nil => simp [CheckedStream.emit, Accepted]
  | cons record records ih =>
      rw [Accepted]
      cases hvalid : r.validateRecord record with
      | error err =>
          have hrefused : ¬ (r.lastEventId < record.eventId ∧ r.Within record) := by
            intro h
            rw [validateRecord_eq_ok_iff.mpr ⟨h.1, h.2, rfl⟩] at hvalid
            cases hvalid
          simp only [CheckedStream.emit_cons_of_error hvalid, reduceCtorEq, exists_false,
            false_iff]
          exact fun h => hrefused ⟨h.1, h.2.1⟩
      | ok next =>
          obtain ⟨hid, hwithin, rfl⟩ := validateRecord_eq_ok_iff.mp hvalid
          rw [CheckedStream.emit_cons_of_ok hvalid, ih]
          have hcongr := @accepted_congr r { r with lastEventId := record.eventId } rfl rfl
            record.eventId records
          simp [hid, hwithin, hcongr]

theorem validateRecord_eq_error {r : TraceReader} {record : CanonicalTraceRecord} {err : PyErr}
    (h : r.validateRecord record = .error err) :
    ∃ message, err = .traceValidationError message := by
  unfold validateRecord at h
  grind

/-- A written file is read when and only when its records are valid under the bounds in force.
It is then read as these records. Otherwise the generator raises at the first record that
breaks them, with exactly the records before it yielded. -/
theorem readRecords_valid_trace (r : TraceReader) {header : Option TraceHeader}
    {records : List CanonicalTraceRecord} {lines : List Line}
    (hfile : WrittenFile header records lines)
    (hoperations : ∀ record ∈ records, record.operation ≠ "") :
    ((∃ r', (readRecords py r lines).2 = .ok r') ↔ (r.opened header).Valid records) ∧
      ((r.opened header).Valid records →
        ∃ r', readRecords py r lines = (records, .ok r') ∧
          loadAll py r lines = .ok (records, r')) ∧
      (¬ (r.opened header).Valid records →
        ∃ good bad rest message, records = good ++ bad :: rest ∧
          (r.opened header).Valid good ∧ ¬ (r.opened header).Valid (good ++ [bad]) ∧
          readRecords py r lines = (good, .error (.traceValidationError message)) ∧
          loadAll py r lines = .error (.traceValidationError message)) := by
  have hemit := @readRecords_writtenFile py _ _ _ hfile hoperations r
  have hvalid : ∀ prefixed, (∃ r', (CheckedStream.emit validateRecord (r.opened header)
      prefixed).2 = .ok r') ↔ (r.opened header).Valid prefixed :=
    fun _ => emit_eq_ok_iff.trans valid_iff_accepted.symm
  rw [loadAll_eq_readRecords, hemit]
  refine ⟨hvalid records, fun h => ?_, fun h => ?_⟩
  · obtain ⟨r', hr'⟩ := (hvalid records).mpr h
    have hall := CheckedStream.emit_fst_of_ok hr'
    exact ⟨r', Prod.ext hall hr', by rw [hr', hall]; rfl⟩
  · cases hend : (CheckedStream.emit validateRecord (r.opened header) records).2 with
    | ok r' => exact absurd ((hvalid records).mp ⟨r', hend⟩) h
    | error err =>
        obtain ⟨good, bad, rest, last, hrecords, hgood, hbad, hyielded⟩ :=
          CheckedStream.emit_of_error hend
        obtain ⟨message, rfl⟩ := validateRecord_eq_error hbad
        have hlonger := CheckedStream.emit_concat_of_error hgood hbad
        refine ⟨good, bad, rest, message, hrecords, (hvalid good).mp ⟨last, hgood⟩, ?_,
          Prod.ext hyielded hend, rfl⟩
        intro hvalidLonger
        obtain ⟨r', hr'⟩ := (hvalid (good ++ [bad])).mpr hvalidLonger
        rw [hlonger] at hr'
        cases hr'

def blockRead (eventId : Int) : CanonicalTraceRecord where
  eventId := eventId
  step := 0
  layerId := 0
  headId := 0
  operation := "DECODE_READ"
  blockId := 0
  tokenStart := 0
  tokenEnd := none
  tokenCount := 16
  subPage := "BOTH"
  byteSize := 8192
  tier := "SSD"
  hotness := 1
  candidateBlocks := []
  selectedBlocks := []
  queryId := .null
  timestampNs := 0
  metadata := .dict []

theorem readRecords_two_reads :
    ∃ r', readRecords PyText.integers ⟨none, none, -1⟩
      [.object (blockRead 0).toDict, .text true "", .object (blockRead 3).toDict] =
        ([blockRead 0, blockRead 3], .ok r') := by
  have hread := @readRecords_valid_trace PyText.integers ⟨none, none, -1⟩ none
    [blockRead 0, blockRead 3] _ (.plain _ (.blank "" (.record _ .nil))) (by simp [blockRead])
  have hwithin : ∀ eventId, (opened ⟨none, none, -1⟩ none).Within (blockRead eventId) :=
    fun _ => by constructor <;> simp [blockRead, opened, maxLayers, maxHeads]
  obtain ⟨r', hr', -⟩ := hread.2.1 ⟨by simp [blockRead], by simp [blockRead], by simp [hwithin]⟩
  exact ⟨r', hr'⟩

end TraceReader

end AiSsd.Trace
