import AiSsd.Trace.Schema

/-!
# The trace reader

`TraceReader` loads a file line by line and checks every record against the last event id
and against the counts of the manifest next to the file, of the header in it, or its own.
A trace loads exactly when every line is read and the records pass the checks in order.
-/

namespace AiSsd.Trace

open Lib Ftl

/-- A line of a file: an object, or text that `json.loads` refuses with a complaint. -/
inductive Line where
  | object (data : Fields)
  | text (blank : Bool) (complaint : String)

structure TraceReader where
  manifest : Option TraceManifest
  header : Option TraceHeader
  lastEventId : Int
deriving DecidableEq

namespace TraceReader

/-! ## Opening -/

/-- `.manifest.json`. -/
def manifestSuffix : Text :=
  ['.', 'm', 'a', 'n', 'i', 'f', 'e', 's', 't', '.', 'j', 's', 'o', 'n']

/-- The first of the candidate files that holds a manifest; the others are passed over. -/
def discoverManifest : (candidates : List Line) → Option TraceManifest
  | [] => none
  | .object data :: candidates =>
      match TraceManifest.fromDict data with
      | .ok manifest => some manifest
      | .error _ => discoverManifest candidates
  | .text _ _ :: candidates => discoverManifest candidates

/-- `candidates` are the manifest files that exist next to the trace. -/
def init (name : Text) (candidates : List Line) : Except PyErr TraceReader :=
  if manifestSuffix <:+ name then
    .error (.traceValidationError
      ("Cannot read manifest file '" ++ String.ofList name ++ "' as a JSONL trace stream."))
  else .ok ⟨discoverManifest candidates, none, -1⟩

/-! ## Checking a record -/

def maxLayers (r : TraceReader) : Int :=
  match r.manifest, r.header with
  | some m, _ => m.numLayers
  | none, some h => h.modelMetadata.numLayers
  | none, none => 128

def maxHeads (r : TraceReader) : Int :=
  match r.manifest, r.header with
  | some m, _ => m.numKvHeads
  | none, some h => h.modelMetadata.numHeads
  | none, none => 64

def validateRecord (r : TraceReader) (record : CanonicalTraceRecord) :
    Except PyErr TraceReader :=
  if record.eventId ≤ r.lastEventId then
    .error (.traceValidationError (s!"Non-monotonic seq_id / event_id: current {record.eventId} " ++
      s!"<= previous {r.lastEventId}"))
  else if record.layerId < 0 ∨ r.maxLayers ≤ record.layerId then
    .error (.traceValidationError (s!"layer_id {record.layerId} out of bounds " ++
      s!"[0, {r.maxLayers - 1}] at event {record.eventId}"))
  else if record.headId < 0 ∨ r.maxHeads ≤ record.headId then
    .error (.traceValidationError (s!"head_id {record.headId} out of bounds " ++
      s!"[0, {r.maxHeads - 1}] at event {record.eventId}"))
  else if record.byteSize ≤ 0 then
    .error (.traceValidationError
      s!"Non-positive byte_size {record.byteSize} at event {record.eventId}")
  else if record.blockId < 0 then
    .error (.traceValidationError
      s!"Negative block_id {record.blockId} at event {record.eventId}")
  else .ok { r with lastEventId := record.eventId }

/-! ## Reading -/

variable (py : PyText)

def readRecord (r : TraceReader) (data : Fields) :
    Except PyErr (CanonicalTraceRecord × TraceReader) := do
  let record ← CanonicalTraceRecord.fromDict py data
  let r ← r.validateRecord record
  return (record, r)

def readLines : (lineNo : Nat) → TraceReader → List Line →
    Except PyErr (List CanonicalTraceRecord × TraceReader)
  | _, r, [] => .ok ([], r)
  | lineNo, r, .text true _ :: lines => readLines (lineNo + 1) r lines
  | lineNo, _, .text false complaint :: _ =>
      .error (.traceValidationError
        s!"Line {lineNo}: Malformed JSON in trace record: {complaint}")
  | lineNo, r, .object data :: lines => do
      let (record, r) ← readRecord py r data
      let (records, r) ← readLines (lineNo + 1) r lines
      return (record :: records, r)

def supportedVersions : List String := ["v2.0", "v1.0", "2.0", "1.0"]

def unsupportedVersion (version : Json) : PyErr :=
  .traceValidationError ("Unsupported schema_version: " ++ version.toStr py ++ ". Supported: " ++
    "\x7b" ++ ", ".intercalate (supportedVersions.map fun v => "'" ++ v ++ "'") ++ "\x7d")

def isHeader (data : Fields) : Bool :=
  (Dict.lookup "schema_version" data).isSome && (Dict.lookup "model_metadata" data).isSome

def isSupported : Json → Bool
  | .str version => supportedVersions.contains version
  | _ => false

/-- `list(self.read_records())`, on the lines of the file. -/
def loadAll (r : TraceReader) (lines : List Line) :
    Except PyErr (List CanonicalTraceRecord × TraceReader) :=
  let r := { r with lastEventId := -1 }
  match lines with
  | [] => .error (.traceValidationError "Empty trace file")
  | .text _ complaint :: _ =>
      .error (.traceValidationError s!"Malformed JSON in line 1: {complaint}")
  | .object data :: lines =>
      if isHeader data then
        if isSupported (data.get "schema_version" .null) then do
          let header ← TraceHeader.fromDict data
          readLines py 2 { r with header := some header } lines
        else .error (unsupportedVersion py (data.get "schema_version" .null))
      else readLines py 1 r (.object data :: lines)

/-! ## What is accepted -/

structure Within (r : TraceReader) (record : CanonicalTraceRecord) : Prop where
  layer : 0 ≤ record.layerId ∧ record.layerId < r.maxLayers
  head : 0 ≤ record.headId ∧ record.headId < r.maxHeads
  size : 0 < record.byteSize
  block : 0 ≤ record.blockId

theorem validateRecord_eq_ok_iff {r r' : TraceReader} {record : CanonicalTraceRecord} :
    r.validateRecord record = .ok r' ↔
      r.lastEventId < record.eventId ∧ r.Within record ∧
        r' = { r with lastEventId := record.eventId } := by
  unfold validateRecord
  constructor
  · intro h
    split at h
    · cases h
    · split at h
      · cases h
      · split at h
        · cases h
        · split at h
          · cases h
          · split at h
            · cases h
            · cases h
              refine ⟨by omega, ⟨by omega, by omega, by omega, by omega⟩, rfl⟩
  · rintro ⟨hid, hwithin, rfl⟩
    have hlayer := hwithin.layer
    have hhead := hwithin.head
    have hsize := hwithin.size
    have hblock := hwithin.block
    rw [if_neg (by omega), if_neg (by omega), if_neg (by omega), if_neg (by omega),
      if_neg (by omega)]

/-- Every record is within the bounds, and event ids increase from `last`. -/
def Accepted (r : TraceReader) : (last : Int) → List CanonicalTraceRecord → Prop
  | _, [] => True
  | last, record :: records =>
      last < record.eventId ∧ r.Within record ∧ Accepted r record.eventId records

theorem within_congr {r r' : TraceReader} (hmanifest : r'.manifest = r.manifest)
    (hheader : r'.header = r.header) (record : CanonicalTraceRecord) :
    r'.Within record ↔ r.Within record := by
  have hlayers : r'.maxLayers = r.maxLayers := by
    unfold maxLayers
    rw [hmanifest, hheader]
  have hheads : r'.maxHeads = r.maxHeads := by
    unfold maxHeads
    rw [hmanifest, hheader]
  constructor
  · rintro ⟨hlayer, hhead, hsize, hblock⟩
    rw [hlayers] at hlayer
    rw [hheads] at hhead
    exact ⟨hlayer, hhead, hsize, hblock⟩
  · rintro ⟨hlayer, hhead, hsize, hblock⟩
    rw [← hlayers] at hlayer
    rw [← hheads] at hhead
    exact ⟨hlayer, hhead, hsize, hblock⟩

theorem accepted_congr {r r' : TraceReader} (hmanifest : r'.manifest = r.manifest)
    (hheader : r'.header = r.header) (last : Int) (records : List CanonicalTraceRecord) :
    r'.Accepted last records ↔ r.Accepted last records := by
  induction records generalizing last with
  | nil => rfl
  | cons record records ih => rw [Accepted, Accepted, within_congr hmanifest hheader, ih]

theorem accepted_of_increasing {r : TraceReader} {last : Int}
    {records : List CanonicalTraceRecord} (hwithin : ∀ record ∈ records, r.Within record)
    (hlast : ∀ record ∈ records, last < record.eventId)
    (hids : (records.map CanonicalTraceRecord.eventId).Pairwise (· < ·)) :
    r.Accepted last records := by
  induction records generalizing last with
  | nil => trivial
  | cons record records ih =>
      rw [List.map_cons, List.pairwise_cons] at hids
      refine ⟨hlast record List.mem_cons_self, hwithin record List.mem_cons_self, ?_⟩
      apply ih
      · exact fun other hother => hwithin other (List.mem_cons_of_mem record hother)
      · exact fun other hother => hids.1 other.eventId (List.mem_map_of_mem hother)
      · exact hids.2

theorem Accepted.within {r : TraceReader} {last : Int} {records : List CanonicalTraceRecord}
    (h : r.Accepted last records) : ∀ record ∈ records, r.Within record := by
  induction records generalizing last with
  | nil => simp
  | cons record records ih => exact List.forall_mem_cons.mpr ⟨h.2.1, ih h.2.2⟩

variable {py}

theorem readLines_objects_iff {r : TraceReader} {lineNo : Nat} {events : List Fields}
    {records : List CanonicalTraceRecord} :
    (∃ r', readLines py lineNo r (events.map .object) = .ok (records, r')) ↔
      List.Forall₂ (fun data record => CanonicalTraceRecord.fromDict py data = .ok record)
        events records ∧ r.Accepted r.lastEventId records := by
  induction events generalizing r lineNo records with
  | nil =>
      constructor
      · rintro ⟨r', h⟩
        cases h
        exact ⟨.nil, trivial⟩
      · rintro ⟨hread, -⟩
        cases hread
        exact ⟨r, rfl⟩
  | cons data events ih =>
      rw [List.map_cons]
      constructor
      · rintro ⟨r', h⟩
        unfold readLines readRecord at h
        cases hfrom : CanonicalTraceRecord.fromDict py data with
        | error err =>
            rw [hfrom] at h
            cases h
        | ok record =>
            cases hvalid : r.validateRecord record with
            | error err =>
                simp only [hfrom, hvalid, bind, Except.bind] at h
                cases h
            | ok next =>
                simp only [hfrom, hvalid, bind, Except.bind, pure, Except.pure] at h
                cases hlines : readLines py (lineNo + 1) next (events.map .object) with
                | error err =>
                    rw [hlines] at h
                    cases h
                | ok rest =>
                    rw [hlines] at h
                    cases h
                    obtain ⟨hid, hwithin, rfl⟩ := validateRecord_eq_ok_iff.mp hvalid
                    obtain ⟨hread, haccepted⟩ := ih.mp ⟨rest.2, hlines⟩
                    exact ⟨.cons hfrom hread, hid, hwithin,
                      (@accepted_congr r { r with lastEventId := record.eventId }
                        rfl rfl _ _).mp haccepted⟩
      · rintro ⟨hread, haccepted⟩
        cases hread with
        | @cons _ record _ records hfrom hread =>
            obtain ⟨hid, hwithin, hrest⟩ := haccepted
            have hvalid := validateRecord_eq_ok_iff.mpr ⟨hid, hwithin, rfl⟩
            have haccepted := (@accepted_congr r { r with lastEventId := record.eventId }
              rfl rfl _ _).mpr hrest
            obtain ⟨r', hlines⟩ := (@ih { r with lastEventId := record.eventId } (lineNo + 1)
              records).mpr ⟨hread, haccepted⟩
            refine ⟨r', ?_⟩
            unfold readLines readRecord
            simp only [hfrom, hvalid, hlines, bind, Except.bind, pure, Except.pure]

end TraceReader

end AiSsd.Trace
