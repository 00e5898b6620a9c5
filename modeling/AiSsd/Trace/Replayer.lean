import AiSsd.Schemas.KVBlock
import AiSsd.Trace.Json

/-!
# The replayer's check of a record

`StorageTraceReplayer.validate_record` takes a raw record and refuses it when the operation
is unknown, a count is not an integer in range, or nothing says where the block is.
-/

namespace AiSsd.Trace

open Schemas

structure ValidatedRecord where
  eventId : Json
  operation : String
  layerId : Json
  headId : Json
  tokenStart : Json
  blockId : Json
  byteSize : Json
  subPage : String
  raw : Fields

namespace StorageTraceReplayer

def validOperations : List String :=
  ["DECODE_READ", "PREFILL_WRITE", "READ", "TOPK_FETCH", "TOPK_FILTER", "WRITE"]

/-- `isinstance(x, int) and x >= low`; a truth value is an integer. -/
def isIntFrom (low : Int) : Json → Bool
  | .int i => low ≤ i
  | .bool b => low ≤ (if b then 1 else 0)
  | _ => false

/-- `x // 16`. -/
def blockOfToken : Json → Except PyErr Json
  | .int i => .ok (.int (i / 16))
  | .bool _ => .ok (.int 0)
  | .float x => .ok (.float ⌊x / 16⌋)
  | _ => .error .typeError

variable (py : PyText)

def validateRecord (item : Fields) (lineNum : Int) : Except PyErr ValidatedRecord :=
  let eventId := item.get "event_id" (item.get "seq_id" (.int lineNum))
  let id := eventId.toStr py
  let op :=
    if (item.get "operation" .null).truthy then item.get "operation" .null else item.get "op" .null
  let layerId := item.get "layer_id" .null
  let headId := (item.get "head_id" .null).orElse (item.get "kv_head_id" .null)
  let byteSize := (item.get "byte_size" .null).orElse (item.get "bytes" .null)
  let tokenStart := (item.get "token_start" .null).orElse (item.get "token_idx" .null)
  let blockId := item.get "block_id" .null
  let subPage := upper ((item.get "sub_page" (.str "BOTH")).toStr py)
  if op.truthy = false then
    .error (.valueError (s!"Record #{id} at line {lineNum} missing required field " ++
      "'operation' (or 'op')."))
  else if validOperations.contains (upper (op.toStr py)) = false then
    .error (.valueError (s!"Record #{id} has invalid operation '{op.toStr py}'. Expected one of " ++
      "[" ++ ", ".intercalate (validOperations.map fun v => "'" ++ v ++ "'") ++ "]."))
  else if isIntFrom 0 layerId = false then
    .error (.valueError (s!"Record #{id} at line {lineNum} missing valid non-negative integer " ++
      s!"'layer_id'. Got: {layerId.toStr py}"))
  else if isIntFrom 0 headId = false then
    .error (.valueError (s!"Record #{id} at line {lineNum} missing valid non-negative integer " ++
      s!"'head_id' / 'kv_head_id'. Got: {headId.toStr py}"))
  else if isIntFrom 1 byteSize = false then
    .error (.valueError (s!"Record #{id} at line {lineNum} missing valid positive integer " ++
      s!"'byte_size'. Got: {byteSize.toStr py}"))
  else
    match tokenStart, blockId with
    | .null, .null =>
        .error (.valueError (s!"Record #{id} at line {lineNum} missing both 'token_start' and " ++
          "'block_id'. At least one must be provided."))
    | .null, blockId =>
        .ok ⟨eventId, upper (op.toStr py), layerId, headId, .int 0, blockId, byteSize, subPage, item⟩
    | tokenStart, .null => do
        let blockId ← blockOfToken tokenStart
        return ⟨eventId, upper (op.toStr py), layerId, headId, tokenStart, blockId, byteSize, subPage,
          item⟩
    | tokenStart, blockId =>
        .ok ⟨eventId, upper (op.toStr py), layerId, headId, tokenStart, blockId, byteSize, subPage,
          item⟩

end StorageTraceReplayer

end AiSsd.Trace
