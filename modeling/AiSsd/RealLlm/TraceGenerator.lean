import AiSsd.Lib.TopK
import AiSsd.Numpy.Reduce
import AiSsd.RealLlm.BlockAdapter
import AiSsd.Trace.Json

/-!
# Traces of a model run

`RealKVTraceGenerator` turns an inference result and its blocks into a list of storage
events: the writes of the prefill, and for each step and layer the reads from DRAM, one
top-k filter over the blocks on the SSD and the fetch of each block it selects. The scoring
is the reference one, for a machine without the native kernel. Scores are exact numbers.
-/

namespace AiSsd.RealLlm

open Lib Numpy Schemas Trace

/-! ## Inference results -/

structure ModelMetadata where
  modelName : String
  numLayers : Nat
  numAttentionHeads : Nat
  numKvHeads : Nat
  headDim : Nat
  gqaRatio : Nat
  dtype : String

/-- The queries of a layer at a step, `[q_heads, head_dim]`. -/
structure Query (α : Type) where
  heads : Nat
  dim : Nat
  get : Nat → Nat → α

/-- What `run_inference` returns of a run, with the shapes it documents. -/
structure InferenceResult (α : Type) where
  modelMetadata : ModelMetadata
  prompt : String
  promptTokens : Nat
  generatedTokens : Nat
  layerKv : Dict Nat (Payload α)
  stepQueries : List (Dict Nat (Query α))
  layers_pos : 0 < modelMetadata.numLayers
  heads_pos : 0 < modelMetadata.numAttentionHeads
  dim_pos : 0 < modelMetadata.headDim
  layers : ∀ l, l < modelMetadata.numLayers → ∃ kv, layerKv.get? l = some kv ∧
    kv.k.d0 = modelMetadata.numKvHeads ∧ kv.k.d2 = modelMetadata.headDim
  queries : ∀ stepQ ∈ stepQueries, ∀ l, l < modelMetadata.numLayers → ∃ q, stepQ.get? l = some q ∧
    q.heads = modelMetadata.numAttentionHeads ∧ q.dim = modelMetadata.headDim

/-! ## Events -/

/-- The dictionary appended for an event; only a filter has `topk_k`. -/
structure TraceEvent where
  eventId : Int
  queryId : Int
  step : Int
  layerId : Int
  headId : Int
  operation : String
  blockId : Int
  tokenStart : Int
  tokenEnd : Int
  subPage : String
  byteSize : Int
  tier : String
  hotness : Rat
  candidateBlocks : List Int
  selectedBlocks : List Int
  topkK : Option Int
  timestampNs : Int
deriving DecidableEq

def TraceEvent.toDict (e : TraceEvent) : Fields :=
  [("event_id", .int e.eventId), ("query_id", .int e.queryId), ("step", .int e.step),
    ("layer_id", .int e.layerId), ("head_id", .int e.headId), ("operation", .str e.operation),
    ("block_id", .int e.blockId), ("token_start", .int e.tokenStart),
    ("token_end", .int e.tokenEnd), ("sub_page", .str e.subPage), ("byte_size", .int e.byteSize),
    ("tier", .str e.tier), ("hotness", .float e.hotness),
    ("candidate_blocks", .list (e.candidateBlocks.map .int)),
    ("selected_blocks", .list (e.selectedBlocks.map .int))] ++
  (e.topkK.map fun k => ("topk_k", Json.int k)).toList ++ [("timestamp_ns", .int e.timestampNs)]

abbrev Draft := Nat → TraceEvent

/-- The drafts with ids from `eventId` on. -/
def number (eventId : Nat) (drafts : List Draft) : List TraceEvent :=
  (drafts.zipIdx eventId).map fun d => d.1 d.2

/-- What a run of the generator takes from its surroundings. -/
structure TraceEnv where
  baseTimeNs : Int
  gitCommit : String
  traceVersion : String
  timestampUtc : String
  sha256 : List Fields → String

/-! ## The generator -/

section

variable {α : Type} (env : TraceEnv)

def prefillWrite (lIdx : Nat) (block : KVBlock) : Draft := fun eventId =>
  { eventId := eventId
    queryId := 0
    step := 0
    layerId := lIdx
    headId := block.kvHeadStart
    operation := "PREFILL_WRITE"
    blockId := block.blockId
    tokenStart := block.tokenStart
    tokenEnd := block.tokenStart + block.tokenCount
    subPage := "BOTH"
    byteSize := block.totalSizeBytes
    tier := block.storageTier.value
    hotness := block.hotness
    candidateBlocks := []
    selectedBlocks := [block.blockId]
    topkK := none
    timestampNs := env.baseTimeNs + eventId * 100 }

def decodeRead (stepIdx lIdx : Nat) (b : KVBlock) : Draft := fun eventId =>
  { eventId := eventId
    queryId := stepIdx + 1
    step := stepIdx + 1
    layerId := lIdx
    headId := b.kvHeadStart
    operation := "DECODE_READ"
    blockId := b.blockId
    tokenStart := b.tokenStart
    tokenEnd := b.tokenStart + b.tokenCount
    subPage := "BOTH"
    byteSize := b.totalSizeBytes
    tier := "DRAM"
    hotness := b.hotness
    candidateBlocks := []
    selectedBlocks := [b.blockId]
    topkK := none
    timestampNs := env.baseTimeNs + eventId * 100 }

def topkFilter (stepIdx lIdx : Nat) (firstId filterBytes : Int) (candidateIds selected : List Int)
    (kVal : Int) : Draft := fun eventId =>
  { eventId := eventId
    queryId := stepIdx + 1
    step := stepIdx + 1
    layerId := lIdx
    headId := 0
    operation := "TOPK_FILTER"
    blockId := firstId
    tokenStart := 0
    tokenEnd := 0
    subPage := "KEY"
    byteSize := filterBytes
    tier := "SSD"
    hotness := 1 / 2
    candidateBlocks := candidateIds
    selectedBlocks := selected
    topkK := some kVal
    timestampNs := env.baseTimeNs + eventId * 100 }

def topkFetch (stepIdx lIdx : Nat) (selId : Int) (target : KVBlock)
    (candidateIds selected : List Int) : Draft := fun eventId =>
  { eventId := eventId
    queryId := stepIdx + 1
    step := stepIdx + 1
    layerId := lIdx
    headId := target.kvHeadStart
    operation := "TOPK_FETCH"
    blockId := selId
    tokenStart := target.tokenStart
    tokenEnd := target.tokenStart + target.tokenCount
    subPage := "VALUE"
    byteSize := target.valueSizeBytes
    tier := "SSD"
    hotness := target.hotness
    candidateBlocks := candidateIds
    selectedBlocks := selected
    topkK := none
    timestampNs := env.baseTimeNs + eventId * 100 }

variable [Field α] [LinearOrder α] (sqrt : α → α)

/-- `np.max(np.einsum("hd,ktd->ht", q, k) * scale)`. -/
def referenceScore (scale : α) (q : Query α) (k : Tensor3 α) : Except PyErr α :=
  if q.dim ≠ k.d2 then .error (.valueError "operands could not be broadcast together")
  else
    let dots := (List.range q.heads).flatMap fun h => (List.range k.d1).map fun t =>
      ((List.range k.d0).map fun kv =>
        ((List.range k.d2).map fun d => q.get h d * k.get kv t d).sum).sum * scale
    match dots with
    | [] => .error zeroSizeMax
    | first :: rest => .ok (npMax first rest)

/-- `max(1, int(n * (percent / 100)))`, and 0 without candidates. -/
def kVal (topKPercent : Rat) (n : Nat) : Int :=
  if n = 0 then 0 else max 1 (Json.trunc (n * (topKPercent / 100)))

def referenceTopk (headDim : Nat) (q : Query α) (ssdEntries : List (KVBlock × Payload α))
    (kVal : Int) : Except PyErr (List Int) := do
  let scores ← ssdEntries.mapM fun entry =>
    (referenceScore (1 / sqrt headDim) q entry.2.k).map fun score => (score, entry.1.blockId)
  return (topBy Prod.fst kVal.toNat scores).map Prod.snd

/-- `next(b for b, _ in entries if b.block_id == sel_id)`. -/
def nextBlock (entries : List (KVBlock × Payload α)) (selId : Int) : Except PyErr KVBlock :=
  match entries.find? fun entry => entry.1.blockId = selId with
  | none => .error .stopIteration
  | some entry => .ok entry.1

def decodeLayer (headDim : Nat) (topKPercent : Rat) (stepIdx lIdx : Nat) (q : Query α)
    (blocks : List (KVBlock × Payload α)) : Except PyErr (List Draft) := do
  let dramBlocks := (blocks.filter fun entry => entry.1.storageTier = .dram).map Prod.fst
  let ssdEntries := blocks.filter fun entry => entry.1.storageTier = .ssd
  let candidateIds := ssdEntries.map fun entry => entry.1.blockId
  let kVal := kVal topKPercent candidateIds.length
  let selected ← if kVal > 0 then referenceTopk sqrt headDim q ssdEntries kVal else .ok []
  let reads := dramBlocks.map (decodeRead env stepIdx lIdx)
  match candidateIds, blocks with
  | [], _ => .ok reads
  | _, [] => .error .indexError
  | firstId :: _, (firstBlock, _) :: _ => do
      let filterBytes := candidateIds.length * firstBlock.keySizeBytes
      let fetches ← selected.mapM fun selId =>
        (nextBlock ssdEntries selId).map fun target =>
          topkFetch env stepIdx lIdx selId target candidateIds selected
      return reads ++
        topkFilter env stepIdx lIdx firstId filterBytes candidateIds selected kVal :: fetches

/-- `d[key]`. -/
def item {β : Type} (d : Dict Nat β) (key : Nat) : Except PyErr β :=
  match d.get? key with
  | none => .error (.keyError (toString key))
  | some value => .ok value

variable (layerBlocks : Dict Nat (List (KVBlock × Payload α)))

def prefillPhase (numLayers : Nat) : Except PyErr (List Draft) := do
  let layers ← (List.range numLayers).mapM fun lIdx => do
    let blocks ← item layerBlocks lIdx
    return blocks.map fun entry => prefillWrite env lIdx entry.1
  return layers.flatten

def decodePhase (result : InferenceResult α) (topKPercent : Rat) : Except PyErr (List Draft) := do
  let m := result.modelMetadata
  let steps ← result.stepQueries.zipIdx.mapM fun step => do
    let layers ← (List.range m.numLayers).mapM fun lIdx => do
      let q ← item step.1 lIdx
      let blocks ← item layerBlocks lIdx
      decodeLayer env sqrt m.headDim topKPercent step.2 lIdx q blocks
    return layers.flatten
  return steps.flatten

/-- The manifest; its geometry is that of the first block of the last layer visited. -/
def manifestOf (result : InferenceResult α) (workloadName : String) (topKPercent : Rat)
    (first : KVBlock) (events : List TraceEvent) : Fields :=
  let m := result.modelMetadata
  [("model_name", .str m.modelName), ("model_architecture", .str "Qwen2ForCausalLM"),
    ("num_layers", .int m.numLayers), ("num_query_heads", .int m.numAttentionHeads),
    ("num_kv_heads", .int m.numKvHeads), ("head_dim", .int m.headDim),
    ("gqa_ratio", .int m.gqaRatio), ("dtype", .str m.dtype),
    ("tokens_per_block", .int first.tokenCount), ("key_page_bytes", .int first.keySizeBytes),
    ("value_page_bytes", .int first.valueSizeBytes),
    ("logical_block_bytes", .int first.totalSizeBytes), ("workload_name", .str workloadName),
    ("prompt", .str result.prompt), ("prompt_tokens", .int result.promptTokens),
    ("generated_tokens", .int result.generatedTokens),
    ("total_tokens", .int (result.promptTokens + result.generatedTokens)),
    ("total_steps", .int result.stepQueries.length), ("total_events", .int events.length),
    ("top_k_percent", .float topKPercent), ("trace_format_version", .str env.traceVersion),
    ("git_commit", .str env.gitCommit), ("timestamp_utc", .str env.timestampUtc),
    ("sha256_checksum", .str (env.sha256 (events.map TraceEvent.toDict)))]

/-- `f"trace_{workload_name}.jsonl"`. -/
def traceFilename (workloadName : String) : Ftl.Text :=
  ['t', 'r', 'a', 'c', 'e', '_'] ++ workloadName.toList ++ ['.', 'j', 's', 'o', 'n', 'l']

structure TraceFiles where
  events : List TraceEvent
  manifest : Fields

def generateTraceFromRun (result : InferenceResult α) (workloadName : String)
    (topKPercent : Rat) : Except PyErr TraceFiles := do
  let prefill ← prefillPhase env layerBlocks result.modelMetadata.numLayers
  let decode ← decodePhase env sqrt layerBlocks result topKPercent
  let events := number 0 (prefill ++ decode)
  -- `blocks` is what the loops bound last
  match result.modelMetadata.numLayers with
  | 0 => .error .unboundLocalError
  | last + 1 => do
      let blocks ← item layerBlocks last
      match blocks with
      | [] => .error .indexError
      | (first, _) :: _ =>
          return ⟨events, manifestOf env result workloadName topKPercent first events⟩

end

end AiSsd.RealLlm
