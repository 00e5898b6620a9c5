import AiSsd.Ftl.Location
import AiSsd.Trace.Json

/-!
# Trace records

The records and the header a synthetic trace is written with, and the canonical record and
the manifest that readers make of what they load. A canonical record takes each field under
its canonical name or under the name older traces use.
-/

namespace AiSsd.Trace

open Lib

/-! ## Written records -/

inductive TraceOperation where
  | kvRead
  | kvWrite
  | kvTopk
  | kvPrefetch
  | kvEvict
deriving Repr, DecidableEq

def TraceOperation.value : TraceOperation → String
  | .kvRead => "KV_READ"
  | .kvWrite => "KV_WRITE"
  | .kvTopk => "KV_TOPK"
  | .kvPrefetch => "KV_PREFETCH"
  | .kvEvict => "KV_EVICT"

structure TraceModelMetadata where
  modelName : String
  numLayers : Int
  numHeads : Int
  headDim : Int
  dtype : String
  contextLength : Int
  tokensPerBlock : Int
  blockSizeBytes : Int
deriving Repr, DecidableEq

def TraceModelMetadata.toDict (m : TraceModelMetadata) : Fields :=
  [("model_name", .str m.modelName), ("num_layers", .int m.numLayers),
    ("num_heads", .int m.numHeads), ("head_dim", .int m.headDim), ("dtype", .str m.dtype),
    ("context_length", .int m.contextLength), ("tokens_per_block", .int m.tokensPerBlock),
    ("block_size_bytes", .int m.blockSizeBytes)]

/-- A field with the default of its parameter, or with none when it must be given. A
dataclass takes any value, and a count that is not an integer fails where it is compared;
here it fails as it is read. -/
def intField (data : Fields) (key : String) (default : Json) : Except PyErr Int :=
  match data.get key default with
  | .int i => .ok i
  | _ => .error .typeError

def strField (data : Fields) (key : String) (default : Json) : Except PyErr String :=
  match data.get key default with
  | .str s => .ok s
  | _ => .error .typeError

/-- `cls(**data)`: a keyword the class does not have is refused. -/
def TraceModelMetadata.fromDict (data : Fields) : Except PyErr TraceModelMetadata := do
  let known := ["model_name", "num_layers", "num_heads", "head_dim", "dtype", "context_length",
    "tokens_per_block", "block_size_bytes"]
  if data.any fun e => !known.contains e.1 then .error .typeError
  else
    let modelName ← strField data "model_name" .null
    let numLayers ← intField data "num_layers" .null
    let numHeads ← intField data "num_heads" .null
    let headDim ← intField data "head_dim" .null
    let dtype ← strField data "dtype" .null
    let contextLength ← intField data "context_length" .null
    let tokensPerBlock ← intField data "tokens_per_block" (.int 16)
    let blockSizeBytes ← intField data "block_size_bytes" (.int 4096)
    return ⟨modelName, numLayers, numHeads, headDim, dtype, contextLength, tokensPerBlock,
      blockSizeBytes⟩

/-- The metadata of a record is empty in every trace, and written as such. -/
structure TraceRecord where
  seqId : Int
  stepId : Int
  layerId : Int
  headId : Int
  operation : TraceOperation
  blockIds : List Int
  byteOffset : Int
  byteLength : Int
  topK : Option Int
  timestampUs : Option Rat
deriving Repr, DecidableEq

def TraceRecord.toDict (r : TraceRecord) : Fields :=
  [("seq_id", .int r.seqId), ("step_id", .int r.stepId), ("layer_id", .int r.layerId),
    ("head_id", .int r.headId), ("operation", .str r.operation.value),
    ("block_ids", .list (r.blockIds.map .int)), ("byte_offset", .int r.byteOffset),
    ("byte_length", .int r.byteLength), ("top_k", (r.topK.map Json.int).getD .null),
    ("timestamp_us", (r.timestampUs.map Json.float).getD .null), ("metadata", .dict [])]

structure TraceHeader where
  schemaVersion : String
  modelMetadata : TraceModelMetadata
  totalRecords : Int
  createdAt : String
  source : String
deriving Repr, DecidableEq

def TraceHeader.toDict (h : TraceHeader) : Fields :=
  [("schema_version", .str h.schemaVersion), ("model_metadata", .dict h.modelMetadata.toDict),
    ("total_records", .int h.totalRecords), ("created_at", .str h.createdAt),
    ("source", .str h.source)]

def TraceHeader.fromDict (data : Fields) : Except PyErr TraceHeader := do
  match data.get "model_metadata" .null with
  | .dict metadata =>
      let modelMetadata ← TraceModelMetadata.fromDict metadata
      let schemaVersion ← strField data "schema_version" .null
      let totalRecords ← intField data "total_records" (.int 0)
      let createdAt ← strField data "created_at" (.str "")
      let source ← strField data "source" (.str "P1_REAL_LLM")
      return ⟨schemaVersion, modelMetadata, totalRecords, createdAt, source⟩
  | _ => .error .typeError

theorem TraceHeader.fromDict_toDict (h : TraceHeader) : fromDict h.toDict = .ok h := rfl

/-! ## Canonical records -/

structure CanonicalTraceRecord where
  eventId : Int
  step : Int
  layerId : Int
  headId : Int
  operation : String
  blockId : Int
  tokenStart : Int
  tokenEnd : Option Int
  tokenCount : Int
  subPage : String
  byteSize : Int
  tier : String
  hotness : Rat
  candidateBlocks : List Json
  selectedBlocks : List Json
  queryId : Json
  timestampNs : Int
  metadata : Json

namespace CanonicalTraceRecord

def seqId (r : CanonicalTraceRecord) : Int := r.eventId

def stepId (r : CanonicalTraceRecord) : Int := r.step

def byteLength (r : CanonicalTraceRecord) : Int := r.byteSize

def blockIds (r : CanonicalTraceRecord) : List Json :=
  if r.selectedBlocks ≠ [] then r.selectedBlocks
  else if r.candidateBlocks ≠ [] then r.candidateBlocks
  else [.int r.blockId]

/-! ### Reading the fields -/

def readEventId (data : Fields) : Except PyErr Json :=
  match (data.get "event_id" .null).orElse (data.get "seq_id" .null) with
  | .null => .error (.keyError "Missing required field 'event_id' or 'seq_id'")
  | eventId => .ok eventId

def readBlockId (data : Fields) : Except PyErr Json :=
  match data.get "block_id" .null with
  | .null =>
      let blockIds := data.get "block_ids" (.list [])
      if blockIds.truthy then blockIds.first else .ok (.int 0)
  | blockId => .ok blockId

def readTokenStart (data : Fields) (blockId : Json) : Except PyErr Json :=
  match data.get "token_start" .null with
  | .null => (blockId.times 16).map (data.get "token_idx")
  | tokenStart => .ok tokenStart

def readByteSize (data : Fields) (subPage : Json) : Json :=
  ((data.get "byte_size" .null).orElse (data.get "byte_length" .null)).orElse
    (data.get "bytes" (.int (match subPage with | .str "BOTH" => 8192 | _ => 4096)))

variable (py : PyText)

def readTimestampNs (data : Fields) : Except PyErr Int := do
  let ns ← (data.get "timestamp_us" (.int 0)).times 1000
  (data.get "timestamp_ns" ns).toInt py

def readTokenEnd (data : Fields) : Except PyErr (Option Int) :=
  match data.get "token_end" .null with
  | .null => .ok none
  | tokenEnd => (tokenEnd.toInt py).map some

def fromDict (data : Fields) : Except PyErr CanonicalTraceRecord := do
  let eventId ← readEventId data
  let step := (data.get "step" .null).orElse (data.get "step_id" (.int 0))
  let layerId := data.get "layer_id" (.int 0)
  let headId := (data.get "head_id" .null).orElse (data.get "kv_head_id" (.int 0))
  let rawOp :=
    if (data.get "operation" .null).truthy then data.get "operation" .null
    else data.get "op" (.str "DECODE_READ")
  let blockId ← readBlockId data
  let tokenStart ← readTokenStart data blockId
  let tokenCount := data.get "token_count" (.int 16)
  let subPage := data.get "sub_page" (.str "BOTH")
  let byteSize := readByteSize data subPage
  let hotness ← (data.get "hotness" (.float 1)).toFloat py
  let candidateBlocks ← (data.get "candidate_blocks" (.list [])).toList
  let selectedBlocks ← (data.get "selected_blocks" (.list [])).toList
  let timestampNs ← readTimestampNs py data
  let eventId ← eventId.toInt py
  let step ← step.toInt py
  let layerId ← layerId.toInt py
  let headId ← headId.toInt py
  let blockId ← blockId.toInt py
  let tokenStart ← tokenStart.toInt py
  let tokenEnd ← readTokenEnd py data
  let tokenCount ← tokenCount.toInt py
  let byteSize ← byteSize.toInt py
  return {
    eventId := eventId, step := step, layerId := layerId, headId := headId,
    operation := rawOp.toStr py, blockId := blockId, tokenStart := tokenStart,
    tokenEnd := tokenEnd, tokenCount := tokenCount, subPage := subPage.toStr py,
    byteSize := byteSize, tier := (data.get "tier" (.str "SSD")).toStr py,
    hotness := hotness, candidateBlocks := candidateBlocks, selectedBlocks := selectedBlocks,
    queryId := data.get "query_id" .null, timestampNs := timestampNs,
    metadata := data.get "metadata" (.dict []) }

/-! ### Writing the fields -/

/-- `asdict(self)`, the fields in their order. -/
def toDict (r : CanonicalTraceRecord) : Fields :=
  [("event_id", .int r.eventId), ("step", .int r.step), ("layer_id", .int r.layerId),
    ("head_id", .int r.headId), ("operation", .str r.operation), ("block_id", .int r.blockId),
    ("token_start", .int r.tokenStart), ("token_end", (r.tokenEnd.map Json.int).getD .null),
    ("token_count", .int r.tokenCount), ("sub_page", .str r.subPage),
    ("byte_size", .int r.byteSize), ("tier", .str r.tier), ("hotness", .float r.hotness),
    ("candidate_blocks", .list r.candidateBlocks), ("selected_blocks", .list r.selectedBlocks),
    ("query_id", r.queryId), ("timestamp_ns", .int r.timestampNs), ("metadata", r.metadata)]

variable {py}

/-- What a record is written as, it is read back from. An empty operation is not: it is taken
for a missing one. -/
theorem fromDict_toDict {r : CanonicalTraceRecord} (hoperation : r.operation ≠ "") :
    fromDict py r.toDict = .ok r := by
  have hread : Json.truthy (.str r.operation) = true := by simp [Json.truthy, hoperation]
  have hrawOp : (Fields.get r.toDict "operation" .null).truthy = true := hread
  cases r with
  | mk _ _ _ _ _ _ _ tokenEnd =>
      unfold fromDict
      rw [if_pos hrawOp]
      cases tokenEnd <;> rfl

end CanonicalTraceRecord

/-! ## The manifest -/

structure TraceManifest where
  numLayers : Int
  numKvHeads : Int
deriving Repr, DecidableEq

def TraceManifest.fromDict (data : Fields) : Except PyErr TraceManifest := do
  let numLayers ← intField data "num_layers" (.int 32)
  let numKvHeads ← intField data "num_kv_heads" (.int 32)
  return ⟨numLayers, numKvHeads⟩

end AiSsd.Trace
