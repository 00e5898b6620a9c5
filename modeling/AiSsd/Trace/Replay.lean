import AiSsd.Lib.Batches
import AiSsd.Storage.TensorMapping
import AiSsd.Trace.Replayer
import Mathlib.Algebra.BigOperators.Fin
import Mathlib.Algebra.Order.Ring.Rat

/-!
# The replay of a trace

`StorageTraceReplayer.replay` maps each record to a channel and a die, counts it and its bytes,
and queues reads, which it serves in batches of the queue depth. Records carry what the trace
file held, so a mapping can meet values that are no numbers, and raises. Numbers are exact, and
what the report rounds to two digits is left as it is.
-/

namespace AiSsd.Trace

open Lib Storage

/-! ## Values of a record -/

/-- A value in arithmetic; a truth value is 0 or 1, text and collections raise. -/
def Json.asNumber : Json → Except PyErr Rat
  | .bool b => .ok (if b then 1 else 0)
  | .int i => .ok i
  | .float x => .ok x
  | _ => .error .typeError

inductive BlockKey where
  | number (x : Rat)
  | text (s : String)
deriving DecidableEq

/-- As an element of a set; lists and dictionaries cannot be hashed. -/
def Json.blockKey : Json → Except PyErr BlockKey
  | .str s => .ok (.text s)
  | j => j.asNumber.map .number

/-- `a < b`; a number and a text do not compare. -/
def BlockKey.less : BlockKey → BlockKey → Except PyErr Bool
  | .number x, .number y => .ok (decide (x < y))
  | .text s, .text t => .ok (decide (s < t))
  | _, _ => .error .typeError

/-- `min(keys) if keys else 0`, or `max` with the arguments of the comparison exchanged. -/
def extremeKey (less : BlockKey → BlockKey → Except PyErr Bool) :
    List BlockKey → Except PyErr BlockKey
  | [] => .ok (.number 0)
  | key :: keys => keys.foldlM (fun best k => (less k best).map fun b => if b then k else best) key

/-- `x // n`. -/
def floorDiv (x n : Rat) : Rat := ⌊x / n⌋

/-- `x % n`. -/
def floorMod (x n : Rat) : Rat := x - n * ⌊x / n⌋

/-! ## The mapper on values of a record -/

/-- The index of a token block, or the text that `%` makes of a block id that is one. -/
inductive BlockIndex where
  | number (x : Rat)
  | text (s : String)
deriving DecidableEq

/-- `x % n`. With a text on its left the operator formats: `percent`. -/
def Json.modulo (percent : String → Int → Except PyErr String) (n : Int) :
    Json → Except PyErr BlockIndex
  | .str s => (percent s n).map .text
  | j => j.asNumber.map fun x => .number (floorMod x n)

/-- The replayer; the numbers of channels and dies are in its mapper. -/
structure StorageTraceReplayer where
  mapper : DeterministicTensorMapper
  queueDepth : Nat
  tokensPerBlock : Int

namespace StorageTraceReplayer

variable (replayer : StorageTraceReplayer) (percent : String → Int → Except PyErr String)

/-- `TensorCoordinate.token_block_idx`. -/
def tokenBlockIdx (blocksPerHead : Int) (tokenIdx blockId : Json) : Except PyErr BlockIndex := do
  let t ← tokenIdx.asNumber
  let byToken := BlockIndex.number (floorDiv t (max 1 replayer.tokensPerBlock : Int))
  if t > 0 then return byToken
  else
    match blockId with
    | .null => return byToken
    | blockId =>
        if blocksPerHead > 0 then blockId.modulo percent blocksPerHead else return byToken

/-- Channel and die of `tensor_to_nand_physical`. -/
def place (mode : MappingMode) (layerId headId : Json) (bIdx : BlockIndex) :
    Except PyErr (Rat × Rat) :=
  match mode with
  | .conventional => .ok (0, 0)
  | .tensorAware => do
      let layer ← layerId.asNumber
      let head ← headId.asNumber
      match bIdx with
      | .text _ => .error .typeError
      | .number b =>
          return (floorMod (layer + head + b + floorDiv b replayer.mapper.channels)
              replayer.mapper.channels,
            floorMod (layer + floorDiv head replayer.mapper.channels +
              floorDiv b replayer.mapper.channels) replayer.mapper.diesPerChannel)
  | .other name => DeterministicTensorMapper.unknownMode name

/-- The counter that a number selects from one for each of `range(n)`. -/
def counterOf (py : PyText) (n : Nat) (x : Rat) : Except PyErr (Fin n) :=
  if h : x.den = 1 ∧ 0 ≤ x.num ∧ x.num.toNat < n then .ok ⟨x.num.toNat, h.2.2⟩
  else .error (.keyError (py.repr (.float x)))

end StorageTraceReplayer

/-! ## Entries -/

/-- What a trace may hold: a raw dictionary, which replay validates, or a validated record. -/
inductive TraceEntry where
  | raw (item : Fields) (unvalidated : Dict.lookup "raw" item = none)
  | validated (record : ValidatedRecord)

def TraceEntry.record (py : PyText) : TraceEntry → Except PyErr ValidatedRecord
  | .raw item _ => StorageTraceReplayer.validateRecord py item 0
  | .validated record => .ok record

def isWrite (record : ValidatedRecord) : Bool :=
  record.operation = "PREFILL_WRITE" || record.operation = "WRITE"

/-- A record with what the loop computes for it before it counts. -/
structure Served (mapper : DeterministicTensorMapper) where
  record : ValidatedRecord
  key : BlockKey
  bytes : Rat
  channel : Fin mapper.channels
  die : Fin mapper.diesPerChannel

namespace StorageTraceReplayer

/-- What raises in an iteration of the loop, in the order of the source. -/
def serve (py : PyText) (percent : String → Int → Except PyErr String)
    (replayer : StorageTraceReplayer) (mode : MappingMode) (blocksPerHead : Int)
    (entry : TraceEntry) : Except PyErr (Served replayer.mapper) := do
  let record ← entry.record py
  let key ← record.blockId.blockKey
  let bytes ← record.byteSize.asNumber
  let bIdx ← replayer.tokenBlockIdx percent blocksPerHead record.tokenStart record.blockId
  let (ch, die) ← replayer.place mode record.layerId record.headId bIdx
  let channel ← counterOf py replayer.mapper.channels ch
  let die ← counterOf py replayer.mapper.diesPerChannel die
  return ⟨record, key, bytes, channel, die⟩

end StorageTraceReplayer

/-! ## The loop -/

/-- What a batch costs, and a page of its most loaded channel: none of it is negative. -/
structure BatchCosts where
  pcieOverheadUs : Rat
  tRUs : Rat
  busTransferUs : Rat
  pcie_nonneg : 0 ≤ pcieOverheadUs
  tR_nonneg : 0 ≤ tRUs
  bus_nonneg : 0 ≤ busTransferUs

/-- `PCIE_OVERHEAD_US`, `T_R_US` and `BUS_TRANSFER_US_PER_PAGE`. -/
def BatchCosts.source : BatchCosts := ⟨10, 25, 5, by decide, by decide, by decide⟩

variable {mapper : DeterministicTensorMapper}

/-- `max(loads.values())`, the most items of one channel. -/
def maxLoad (batch : List (Fin mapper.channels × Fin mapper.diesPerChannel)) : Nat :=
  (batch.map fun item => batch.countP fun other => other.1 = item.1).foldl max 0

def processBatch (costs : BatchCosts)
    (batch : List (Fin mapper.channels × Fin mapper.diesPerChannel)) : Rat :=
  match batch with
  | [] => 0
  | batch => costs.pcieOverheadUs + maxLoad batch * (costs.tRUs + costs.busTransferUs)

structure ReplayState (mapper : DeterministicTensorMapper) where
  channelAccessCounts : Fin mapper.channels → Nat
  dieAccessCounts : Fin mapper.diesPerChannel → Nat
  blockIdsSeen : List BlockKey
  opCounts : Dict String Nat
  totalReadBytes : Rat
  totalWriteBytes : Rat
  kBytes : Rat
  vBytes : Rat
  combinedBytes : Rat
  readLatenciesUs : List Rat
  batchQueue : List (Fin mapper.channels × Fin mapper.diesPerChannel)

namespace ReplayState

variable (mapper) in
def init : ReplayState mapper where
  channelAccessCounts := fun _ => 0
  dieAccessCounts := fun _ => 0
  blockIdsSeen := []
  opCounts := Dict.empty.setEach
    [("PREFILL_WRITE", 0), ("DECODE_READ", 0), ("TOPK_FILTER", 0), ("TOPK_FETCH", 0)]
  totalReadBytes := 0
  totalWriteBytes := 0
  kBytes := 0
  vBytes := 0
  combinedBytes := 0
  readLatenciesUs := []
  batchQueue := []

variable (s : ReplayState mapper)

def enqueue (costs : BatchCosts) (queueDepth : Nat)
    (item : Fin mapper.channels × Fin mapper.diesPerChannel) : ReplayState mapper :=
  let queue := s.batchQueue ++ [item]
  if queue.length ≥ queueDepth then
    { s with readLatenciesUs := s.readLatenciesUs ++ [processBatch costs queue], batchQueue := [] }
  else { s with batchQueue := queue }

/-- The counters of an iteration. A sub-page of another name is in none of the three. -/
def count (costs : BatchCosts) (queueDepth : Nat) (served : Served mapper) : ReplayState mapper :=
  let op := served.record.operation
  let sub := served.record.subPage
  let b := served.bytes
  let s :=
    { s with
      channelAccessCounts := Function.update s.channelAccessCounts served.channel
        (s.channelAccessCounts served.channel + 1)
      dieAccessCounts := Function.update s.dieAccessCounts served.die
        (s.dieAccessCounts served.die + 1)
      blockIdsSeen :=
        if served.key ∈ s.blockIdsSeen then s.blockIdsSeen else s.blockIdsSeen ++ [served.key]
      opCounts := s.opCounts.set op ((s.opCounts.get? op).getD 0 + 1)
      totalReadBytes := if isWrite served.record then s.totalReadBytes else s.totalReadBytes + b
      totalWriteBytes :=
        if isWrite served.record then s.totalWriteBytes + b else s.totalWriteBytes
      kBytes := if sub = "KEY" then s.kBytes + b else s.kBytes
      vBytes := if sub = "VALUE" then s.vBytes + b else s.vBytes
      combinedBytes := if sub = "BOTH" then s.combinedBytes + b else s.combinedBytes }
  if isWrite served.record then s else s.enqueue costs queueDepth (served.channel, served.die)

def flush (costs : BatchCosts) : ReplayState mapper :=
  if s.batchQueue = [] then s
  else { s with readLatenciesUs := s.readLatenciesUs ++ [processBatch costs s.batchQueue] }

end ReplayState

/-- What `replay` returns, without the wall time; `readLatenciesUs` are the latencies that it
sums up and averages. -/
structure ReplayReport (mapper : DeterministicTensorMapper) where
  mode : MappingMode
  totalEvents : Nat
  eventCountsByOperation : Dict String Nat
  totalReadBytes : Rat
  totalWriteBytes : Rat
  kBytes : Rat
  vBytes : Rat
  combinedBytes : Rat
  totalBytes : Rat
  queueDepth : Nat
  readLatenciesUs : List Rat
  totalSimulatedLatencyUs : Rat
  avgLatencyPerBatchUs : Rat
  throughputMbs : Rat
  channelDistribution : Fin mapper.channels → Nat
  dieDistribution : Fin mapper.diesPerChannel → Nat
  uniqueBlocksCount : Nat
  minBlockId : BlockKey
  maxBlockId : BlockKey
  maxChannelLoad : Nat
  avgChannelLoad : Rat
  contentionRatio : Rat
  invalidOrDroppedRecords : Nat

namespace StorageTraceReplayer

variable (py : PyText) (percent : String → Int → Except PyErr String) (costs : BatchCosts)
  (replayer : StorageTraceReplayer) (mode : MappingMode) (blocksPerHead : Int)

def replayEach : List TraceEntry → ReplayState replayer.mapper →
    Except PyErr (ReplayState replayer.mapper)
  | [], s => .ok s
  | entry :: entries, s =>
      match replayer.serve py percent mode blocksPerHead entry with
      | .error err => .error err
      | .ok served => replayEach entries (s.count costs replayer.queueDepth served)

def report (s : ReplayState replayer.mapper) (events : Nat) :
    Except PyErr (ReplayReport replayer.mapper) := do
  let latency := s.readLatenciesUs.sum
  let accesses := ∑ ch, s.channelAccessCounts ch
  let avgChLoad : Rat := accesses / (max 1 replayer.mapper.channels : Nat)
  let maxChLoad := (List.ofFn s.channelAccessCounts).foldl max 0
  let totalMb := (s.totalReadBytes + s.totalWriteBytes) / (1024 * 1024)
  let minBlockId ← extremeKey BlockKey.less s.blockIdsSeen
  let maxBlockId ← extremeKey (fun a b => b.less a) s.blockIdsSeen
  return {
    mode := mode
    totalEvents := events
    eventCountsByOperation := s.opCounts
    totalReadBytes := s.totalReadBytes
    totalWriteBytes := s.totalWriteBytes
    kBytes := s.kBytes
    vBytes := s.vBytes
    combinedBytes := s.combinedBytes
    totalBytes := s.totalReadBytes + s.totalWriteBytes
    queueDepth := replayer.queueDepth
    readLatenciesUs := s.readLatenciesUs
    totalSimulatedLatencyUs := latency
    avgLatencyPerBatchUs :=
      if s.readLatenciesUs = [] then 0 else latency / (max 1 s.readLatenciesUs.length : Nat)
    throughputMbs := if latency > 0 then totalMb / (latency / 1000000) else 0
    channelDistribution := s.channelAccessCounts
    dieDistribution := s.dieAccessCounts
    uniqueBlocksCount := s.blockIdsSeen.length
    minBlockId := minBlockId
    maxBlockId := maxBlockId
    maxChannelLoad := maxChLoad
    avgChannelLoad := avgChLoad
    contentionRatio := maxChLoad / max (1 / 1000000) avgChLoad
    invalidOrDroppedRecords := 0 }

def replay (entries : List TraceEntry) : Except PyErr (ReplayReport replayer.mapper) := do
  let s ← replayer.replayEach py percent costs mode blocksPerHead entries
    (ReplayState.init replayer.mapper)
  replayer.report mode (s.flush costs) entries.length

end StorageTraceReplayer

end AiSsd.Trace
