import AiSsd.Trace.Reader
import Mathlib.Data.List.Dedup
import Mathlib.Data.List.Sort

/-!
# Synthetic traces

`SyntheticTraceGenerator` writes a header and one record for each step and layer, with all
candidate blocks of the layer in its `block_ids`. Reading takes the first of them as the
block id and drops the others, so a trace survives exactly when no record has two.
-/

namespace AiSsd.Trace

open Lib Ftl

/-- `range(start, stop)`. -/
def pyRange (start stop : Int) : List Int :=
  (List.range (stop - start).toNat).map fun (i : Nat) => start + i

theorem mem_pyRange {start stop i : Int} : i ∈ pyRange start stop ↔ start ≤ i ∧ i < stop := by
  unfold pyRange
  rw [List.mem_map]
  constructor
  · rintro ⟨n, hn, rfl⟩
    rw [List.mem_range] at hn
    omega
  · intro h
    refine ⟨(i - start).toNat, ?_, by omega⟩
    rw [List.mem_range]
    omega

theorem pyRange_of_le {start stop : Int} (h : stop ≤ start) : pyRange start stop = [] := by
  rw [pyRange, Int.toNat_of_nonpos (by omega)]
  rfl

theorem pyRange_of_lt {start stop : Int} (h : start < stop) :
    pyRange start stop = start :: pyRange (start + 1) stop := by
  obtain ⟨n, hn⟩ := Int.eq_ofNat_of_zero_le (show 0 ≤ stop - (start + 1) by omega)
  have hsize : stop - start = (n + 1 : Nat) := by omega
  unfold pyRange
  rw [hn, hsize, Int.toNat_natCast, Int.toNat_natCast, List.range_succ_eq_map, List.map_cons,
    List.map_map]
  simp only [Function.comp_def, Nat.succ_eq_add_one, Int.add_comm, Int.add_left_comm]
  simp

structure SyntheticTraceGenerator where
  metadata : TraceModelMetadata
deriving DecidableEq

namespace SyntheticTraceGenerator

def init (modelName : String) (numLayers numHeads headDim : Int) (dtype : String)
    (contextLength tokensPerBlock : Int) : SyntheticTraceGenerator where
  metadata :=
    { modelName := modelName
      numLayers := numLayers
      numHeads := numHeads
      headDim := headDim
      dtype := dtype
      contextLength := contextLength
      tokensPerBlock := tokensPerBlock
      blockSizeBytes := tokensPerBlock * headDim * (if dtype = "FP16" then 2 else 4) }

variable (gen : SyntheticTraceGenerator)

/-- `context_length // tokens_per_block`. -/
def totalBlocks : Int := gen.metadata.contextLength.fdiv gen.metadata.tokensPerBlock

/-- The first four blocks, up to twelve from the middle and the last sixteen, in order. -/
def candidates (step l : Int) : List Int :=
  let sinkBlocks := pyRange 0 (min 4 gen.totalBlocks)
  let currentContextBlocks := min gen.totalBlocks ((step + 1) * 32 + 64)
  let recentStart := max 0 (currentContextBlocks - 16)
  let recentBlocks := pyRange recentStart currentContextBlocks
  let strideOffset := if recentStart > 4 then l * 3 % max 1 (recentStart - 4) else 0
  let midBlocks := pyRange (4 + strideOffset) (min recentStart (4 + strideOffset + 12))
  (sinkBlocks ++ midBlocks ++ recentBlocks).dedup.insertionSort (· ≤ ·)

def record (topK step l : Int) (seqId : Nat) : TraceRecord where
  seqId := seqId
  stepId := step
  layerId := l
  headId := 0
  operation := .kvTopk
  blockIds := gen.candidates step l
  byteOffset := 0
  byteLength := (gen.candidates step l).length * gen.metadata.blockSizeBytes
  topK := some (min topK (gen.candidates step l).length)
  timestampUs := some (seqId * 50)

def slots (numSteps : Int) : List (Int × Int) :=
  (pyRange 0 numSteps).flatMap fun step =>
    (pyRange 0 gen.metadata.numLayers).map fun l => (step, l)

def events (numSteps topK : Int) : List TraceRecord :=
  (gen.slots numSteps).zipIdx.map fun slot => gen.record topK slot.1.1 slot.1.2 slot.2

def header (createdAt : String) (numSteps : Int) : TraceHeader where
  schemaVersion := "v2.0"
  modelMetadata := gen.metadata
  totalRecords := numSteps * gen.metadata.numLayers
  createdAt := createdAt
  source := "P3_SYNTHETIC_GENERATOR"

/-- The lines written, and the number of records. -/
def generateTraceFile (createdAt : String) (numSteps topK : Int) :
    Except PyErr (List Line × Nat) :=
  if gen.metadata.tokensPerBlock = 0 then .error .zeroDivisionError
  else
    let events := gen.events numSteps topK
    .ok (.object (gen.header createdAt numSteps).toDict ::
      events.map fun event => .object event.toDict, events.length)

/-! ## The candidates -/

theorem mem_candidates_of_sink {i : Int} (hi : 0 ≤ i) (hlt : i < min 4 gen.totalBlocks)
    (step l : Int) : i ∈ gen.candidates step l := by
  simp only [candidates, List.mem_insertionSort, List.mem_dedup, List.mem_append, mem_pyRange]
  exact .inl (.inl ⟨hi, hlt⟩)

theorem candidates_of_one_block (hone : gen.totalBlocks = 1) {step : Int} (hstep : 0 ≤ step)
    (l : Int) : gen.candidates step l = [0] := by
  have hcontext : min 1 ((step + 1) * 32 + 64) = 1 := by omega
  rw [candidates, hone, hcontext]
  rfl

/-- There is one candidate exactly when the context is one block. -/
theorem length_candidates_eq_one_iff (hblocks : 1 ≤ gen.totalBlocks) {step : Int}
    (hstep : 0 ≤ step) (l : Int) :
    (gen.candidates step l).length = 1 ↔ gen.totalBlocks = 1 := by
  constructor
  · intro hone
    obtain ⟨i, hi⟩ := List.length_eq_one_iff.mp hone
    by_contra hne
    have hfirst := gen.mem_candidates_of_sink (Int.le_refl 0) (by omega) step l
    have hsecond := gen.mem_candidates_of_sink (i := 1) (by omega) (by omega) step l
    rw [hi, List.mem_singleton] at hfirst hsecond
    omega
  · intro hone
    rw [gen.candidates_of_one_block hone hstep]
    rfl

/-! ## The round trip -/

def canonical (event : TraceRecord) (blockId : Int) (timestampUs : Rat) :
    CanonicalTraceRecord where
  eventId := event.seqId
  step := event.stepId
  layerId := event.layerId
  headId := event.headId
  operation := event.operation.value
  blockId := blockId
  tokenStart := blockId * 16
  tokenEnd := none
  tokenCount := 16
  subPage := "BOTH"
  byteSize := event.byteLength
  tier := "SSD"
  hotness := 1
  candidateBlocks := []
  selectedBlocks := []
  queryId := .null
  timestampNs := Json.trunc (timestampUs * 1000)
  metadata := .dict []

theorem fromDict_toDict (py : PyText) {event : TraceRecord} {blockId : Int} {blockIds : List Int}
    {timestampUs : Rat} (hblocks : event.blockIds = blockId :: blockIds)
    (htime : event.timestampUs = some timestampUs) :
    CanonicalTraceRecord.fromDict py event.toDict =
      .ok (canonical event blockId timestampUs) := by
  obtain ⟨seqId, stepId, layerId, headId, operation, _, byteOffset, byteLength, topK, _⟩ := event
  cases hblocks
  cases htime
  cases operation <;> rfl

structure SameEvent (event : TraceRecord) (record : CanonicalTraceRecord) : Prop where
  seqId : record.seqId = event.seqId
  stepId : record.stepId = event.stepId
  layerId : record.layerId = event.layerId
  byteLength : record.byteLength = event.byteLength
  blockIds : record.blockIds = event.blockIds.map .int

/-- The trace written under a name is loaded, and each record is the event written. -/
def RoundTrips (py : PyText) (name : Text) (createdAt : String) (numSteps topK : Int) : Prop :=
  ∃ file reader loaded, gen.generateTraceFile createdAt numSteps topK = .ok file ∧
    TraceReader.init name [] = .ok reader ∧ reader.loadAll py file.1 = .ok loaded ∧
    List.Forall₂ SameEvent (gen.events numSteps topK) loaded.1

def headed (createdAt : String) (numSteps : Int) : TraceReader :=
  ⟨none, some (gen.header createdAt numSteps), -1⟩

/-- The trace comes back when its name is read and its records are, each within the bounds. -/
theorem roundTrips_iff_accepted (py : PyText) (name : Text) (createdAt : String)
    (numSteps topK : Int) :
    gen.RoundTrips py name createdAt numSteps topK ↔
      gen.metadata.tokensPerBlock ≠ 0 ∧ ¬ TraceReader.manifestSuffix <:+ name ∧
        ∃ records, List.Forall₂
          (fun data record => CanonicalTraceRecord.fromDict py data = .ok record)
          ((gen.events numSteps topK).map TraceRecord.toDict) records ∧
          (gen.headed createdAt numSteps).Accepted (-1) records ∧
          List.Forall₂ SameEvent (gen.events numSteps topK) records := by
  have hload : ∀ loaded, TraceReader.loadAll py ⟨none, none, -1⟩
      (.object (gen.header createdAt numSteps).toDict ::
        (gen.events numSteps topK).map fun event => .object event.toDict) = .ok loaded ↔
      TraceReader.readLines py 2 (gen.headed createdAt numSteps)
        (((gen.events numSteps topK).map TraceRecord.toDict).map .object) = .ok loaded := by
    intro loaded
    rw [List.map_map]
    rfl
  unfold RoundTrips generateTraceFile TraceReader.init
  constructor
  · rintro ⟨file, reader, ⟨records, final⟩, hfile, hreader, hloaded, hsame⟩
    split at hfile
    · cases hfile
    · split at hreader
      · cases hreader
      · rename_i htokens hname
        cases hfile
        cases hreader
        obtain ⟨hread, haccepted⟩ :=
          TraceReader.readLines_objects_iff.mp ⟨final, (hload _).mp hloaded⟩
        exact ⟨htokens, hname, records, hread, haccepted, hsame⟩
  · rintro ⟨htokens, hname, records, hread, haccepted, hsame⟩
    obtain ⟨final, hlines⟩ := TraceReader.readLines_objects_iff.mpr ⟨hread, haccepted⟩
    rw [if_neg htokens, if_neg hname]
    exact ⟨_, _, (records, final), rfl, rfl, (hload _).mpr hlines, hsame⟩

/-! ## When a trace survives -/

theorem events_of_nonpos {numSteps : Int} (h : numSteps ≤ 0) (topK : Int) :
    gen.events numSteps topK = [] := by
  unfold events slots
  rw [pyRange_of_le h]
  rfl

theorem events_of_pos {numSteps : Int} (hsteps : 0 < numSteps)
    (hlayers : 1 ≤ gen.metadata.numLayers) (topK : Int) :
    ∃ events, gen.events numSteps topK = gen.record topK 0 0 0 :: events := by
  unfold events slots
  rw [pyRange_of_lt hsteps, List.flatMap_cons, pyRange_of_lt (by omega : 0 < gen.metadata.numLayers),
    List.map_cons, List.cons_append, List.zipIdx_cons, List.map_cons]
  exact ⟨_, rfl⟩

theorem mem_slots {numSteps step l : Int} :
    (step, l) ∈ gen.slots numSteps ↔
      (0 ≤ step ∧ step < numSteps) ∧ 0 ≤ l ∧ l < gen.metadata.numLayers := by
  simp [slots, mem_pyRange]

theorem exists_of_mem_events {numSteps topK : Int} {event : TraceRecord}
    (h : event ∈ gen.events numSteps topK) :
    ∃ step l seqId, event = gen.record topK step l seqId ∧ 0 ≤ step ∧ 0 ≤ l ∧
      l < gen.metadata.numLayers := by
  obtain ⟨⟨⟨step, l⟩, seqId⟩, hslot, rfl⟩ := List.mem_map.mp h
  have hmem := gen.mem_slots.mp (List.fst_mem_of_mem_zipIdx hslot)
  exact ⟨step, l, seqId, rfl, hmem.1.1, hmem.2⟩

theorem map_seqId_events (numSteps topK : Int) :
    (gen.events numSteps topK).map TraceRecord.seqId =
      (List.range (gen.slots numSteps).length).map fun (i : Nat) => (i : Int) := by
  rw [List.range_eq_range', ← List.zipIdx_map_snd 0 (gen.slots numSteps), events, List.map_map,
    List.map_map]
  rfl

def canonicalEvents (numSteps topK : Int) : List CanonicalTraceRecord :=
  (gen.events numSteps topK).map fun event => canonical event 0 (event.timestampUs.getD 0)

theorem accepted_canonicalEvents (hheads : 1 ≤ gen.metadata.numHeads)
    (hblocks : gen.totalBlocks = 1) (hbytes : 0 < gen.metadata.blockSizeBytes)
    (createdAt : String) (numSteps topK : Int) :
    (gen.headed createdAt numSteps).Accepted (-1) (gen.canonicalEvents numSteps topK) := by
  have hids : (gen.canonicalEvents numSteps topK).map CanonicalTraceRecord.eventId =
      (List.range (gen.slots numSteps).length).map fun (i : Nat) => (i : Int) := by
    rw [← gen.map_seqId_events numSteps topK, canonicalEvents, List.map_map]
    rfl
  apply TraceReader.accepted_of_increasing
  · intro record hrecord
    obtain ⟨event, hevent, rfl⟩ := List.mem_map.mp hrecord
    obtain ⟨step, l, seqId, rfl, hstep, hl⟩ := gen.exists_of_mem_events hevent
    refine ⟨hl, ⟨Int.le_refl 0, hheads⟩, ?_, Int.le_refl 0⟩
    show 0 < ((gen.candidates step l).length : Int) * gen.metadata.blockSizeBytes
    rw [gen.candidates_of_one_block hblocks hstep]
    simpa using hbytes
  · intro record hrecord
    have hid := List.mem_map_of_mem (f := CanonicalTraceRecord.eventId) hrecord
    rw [hids] at hid
    obtain ⟨i, -, hi⟩ := List.mem_map.mp hid
    omega
  · rw [hids, List.pairwise_map]
    exact List.pairwise_lt_range.imp Int.ofNat_lt.mpr

/-- With one block of context the events have block 0 alone, and come back. -/
theorem sameEvent_canonicalEvents (hblocks : gen.totalBlocks = 1) (py : PyText)
    (numSteps topK : Int) :
    List.Forall₂ (fun data record => CanonicalTraceRecord.fromDict py data = .ok record)
        ((gen.events numSteps topK).map TraceRecord.toDict) (gen.canonicalEvents numSteps topK) ∧
      List.Forall₂ SameEvent (gen.events numSteps topK) (gen.canonicalEvents numSteps topK) := by
  unfold canonicalEvents
  rw [List.forall₂_map_left_iff, List.forall₂_map_right_iff, List.forall₂_map_right_iff,
    List.forall₂_same, List.forall₂_same]
  constructor
  · intro event hevent
    obtain ⟨step, l, seqId, rfl, hstep, -⟩ := gen.exists_of_mem_events hevent
    exact fromDict_toDict py (gen.candidates_of_one_block hblocks hstep l) rfl
  · intro event hevent
    obtain ⟨step, l, seqId, rfl, hstep, -⟩ := gen.exists_of_mem_events hevent
    refine ⟨rfl, rfl, rfl, rfl, ?_⟩
    have hone := gen.candidates_of_one_block hblocks hstep l
    rw [record, hone]
    rfl

theorem of_event_read {py : PyText} {r : TraceReader} {topK step l : Int} {seqId : Nat}
    {record : CanonicalTraceRecord} (hblocks : 1 ≤ gen.totalBlocks) (hstep : 0 ≤ step)
    (hread : CanonicalTraceRecord.fromDict py (gen.record topK step l seqId).toDict = .ok record)
    (hsame : SameEvent (gen.record topK step l seqId) record) (hwithin : r.Within record) :
    gen.totalBlocks = 1 ∧ 0 < gen.metadata.blockSizeBytes := by
  cases hcandidates : gen.candidates step l with
  | nil =>
      have hsink := gen.mem_candidates_of_sink (Int.le_refl 0) (by omega) step l
      rw [hcandidates] at hsink
      cases hsink
  | cons blockId blockIds =>
      rw [fromDict_toDict py hcandidates rfl] at hread
      cases hread
      have hids : [Json.int blockId] = (gen.candidates step l).map .int := hsame.blockIds
      have hone : (gen.candidates step l).length = 1 := by
        simpa using (congrArg List.length hids).symm
      have hsize : 0 < ((gen.candidates step l).length : Int) * gen.metadata.blockSizeBytes :=
        hwithin.size
      rw [hone] at hsize
      exact ⟨(gen.length_candidates_eq_one_iff hblocks hstep l).mp hone, by omega⟩

theorem RoundTrips.one_block {py : PyText} {name : Text} {createdAt : String}
    {numSteps topK : Int} (h : gen.RoundTrips py name createdAt numSteps topK)
    (hlayers : 1 ≤ gen.metadata.numLayers) (hblocks : 1 ≤ gen.totalBlocks)
    (hsteps : 0 < numSteps) : gen.totalBlocks = 1 ∧ 0 < gen.metadata.blockSizeBytes := by
  obtain ⟨-, -, records, hread, haccepted, hsame⟩ :=
    (gen.roundTrips_iff_accepted py name createdAt numSteps topK).mp h
  obtain ⟨events, hevents⟩ := gen.events_of_pos hsteps hlayers topK
  rw [hevents] at hread hsame
  cases hsame with
  | cons hfirst _ =>
      cases hread with
      | cons hdata _ =>
          exact gen.of_event_read hblocks (Int.le_refl 0) hdata hfirst
            (haccepted.within _ List.mem_cons_self)

/-- A trace comes back exactly when its file can be opened and it has no events, or one
block of context and bytes in it. -/
theorem round_trips_iff (py : PyText) (name : Text) (createdAt modelName dtype : String)
    (numLayers numHeads headDim contextLength tokensPerBlock numSteps topK : Int)
    (hlayers : 1 ≤ numLayers) (hheads : 1 ≤ numHeads)
    (hblocks : 1 ≤ contextLength.fdiv tokensPerBlock) :
    (init modelName numLayers numHeads headDim dtype contextLength tokensPerBlock).RoundTrips py
        name createdAt numSteps topK ↔
      ¬ TraceReader.manifestSuffix <:+ name ∧ (numSteps ≤ 0 ∨
        (contextLength.fdiv tokensPerBlock = 1 ∧
          0 < tokensPerBlock * headDim * (if dtype = "FP16" then 2 else 4))) := by
  have htokens : tokensPerBlock ≠ 0 := by
    rintro rfl
    rw [Int.fdiv_zero] at hblocks
    omega
  let gen := init modelName numLayers numHeads headDim dtype contextLength tokensPerBlock
  constructor
  · intro h
    refine ⟨((gen.roundTrips_iff_accepted ..).mp h).2.1, ?_⟩
    by_cases hsteps : numSteps ≤ 0
    · exact .inl hsteps
    · exact .inr (h.one_block gen hlayers hblocks (Int.lt_of_not_ge hsteps))
  · rintro ⟨hname, hcond⟩
    refine (gen.roundTrips_iff_accepted ..).mpr ⟨htokens, hname, ?_⟩
    cases hcond with
    | inl hsteps =>
        rw [gen.events_of_nonpos hsteps topK]
        exact ⟨[], .nil, trivial, .nil⟩
    | inr hone =>
        obtain ⟨hread, hsame⟩ := gen.sameEvent_canonicalEvents hone.1 py numSteps topK
        exact ⟨gen.canonicalEvents numSteps topK, hread,
          gen.accepted_canonicalEvents hheads hone.1 hone.2 createdAt numSteps topK, hsame⟩

/-- `t.jsonl`. -/
def traceName : Text := ['t', '.', 'j', 's', 'o', 'n', 'l']

/-- A context of one block of sixteen tokens. -/
theorem round_trips_iff_one_block :
    (init "m" 1 1 64 "FP16" 16 16).RoundTrips PyText.integers traceName "" 2 1 :=
  (round_trips_iff PyText.integers traceName "" "m" "FP16" 1 1 64 16 16 2 1 (by decide)
    (by decide) (by decide)).mpr (by decide)

/-- The second of two blocks is lost. -/
theorem two_blocks_lost :
    (1 : Int) ≤ Int.fdiv 32 16 ∧
      ¬ (init "m" 1 1 64 "FP16" 32 16).RoundTrips PyText.integers traceName "" 1 1 := by
  refine ⟨by decide, fun h => ?_⟩
  have hone := (h.one_block _ (by decide) (by decide) (by decide)).1
  exact absurd hone (by decide)

end SyntheticTraceGenerator

end AiSsd.Trace
