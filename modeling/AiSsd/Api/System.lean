import AiSsd.Api.Prefetcher
import AiSsd.Lib.Machine

/-!
# The API gateway

`AISSDSystem` routes each request to the storage engine and the prefetcher. The engine is a
parameter with the operations it has, as the gateway asks for them with `hasattr`; none of
them reaches the prefetcher, which the repository's engines touch through access events only,
and those requests raise none that stages.
-/

namespace AiSsd.Api

open Lib

inductive KVOperation where
  | kvWrite
  | kvRead
  | kvEvict
  | kvPrefetch
  | kvTopk
  | other (name : String)
deriving Repr, DecidableEq

structure KVRequest where
  requestId : String
  operation : KVOperation
  layerId : Int
  candidateBlocks : List Int
  topK : Option Int
  blocksToWrite : List Int
deriving Repr, DecidableEq

inductive OperationStatus where
  | success
  | error
deriving Repr, DecidableEq

structure KVResponse where
  requestId : String
  status : OperationStatus
  selectedBlocks : List Int
  bytesRequested : Int
  bytesTransferred : Int
  latencyUs : Rat
  cacheHit : Bool
  details : Option String
deriving DecidableEq

namespace ResponseFactory

def success (requestId : String) (selectedBlocks : List Int) (bytesRequested bytesTransferred : Int)
    (latencyUs : Rat) (cacheHit : Bool) : KVResponse :=
  ⟨requestId, .success, selectedBlocks, bytesRequested, bytesTransferred, latencyUs, cacheHit, none⟩

def error (requestId details : String) : KVResponse :=
  ⟨requestId, .error, [], 0, 0, 0, false, some details⟩

end ResponseFactory

/-- The storage engine: the operations it has, on its state. -/
structure SsdEngine (σ : Type) where
  estimateReadLatency : Option (σ → List Int → Except PyErr Rat × σ)
  prefetchKv : Option (σ → List Int → Int → Except PyErr Unit × σ)
  evictKv : Option (σ → Int → Int → Except PyErr Unit × σ)

structure AISSDSystem (σ : Type) where
  ssdEngine : σ
  prefetcher : Option SpeculativePrefetcher

namespace AISSDSystem

variable {σ : Type} (engine : SsdEngine σ) (s : AISSDSystem σ) (request : KVRequest)

/-- `blocks[:k]`; a negative bound counts from the end. -/
def sliceTo (blocks : List Int) (k : Int) : List Int :=
  blocks.take (if k < 0 then (blocks.length + k).toNat else k.toNat)

/-- `request.top_k or min(len, 16)`, at most the number of candidates. -/
def topCount (candidates : Nat) (topK : Option Int) : Int :=
  let k : Int :=
    match topK with
    | none => (min candidates 16 : Nat)
    | some k => if k = 0 then (min candidates 16 : Nat) else k
  if candidates = 0 then 0 else min k candidates

def readLatency (blocks : List Int) : Except PyErr Rat × AISSDSystem σ :=
  match engine.estimateReadLatency with
  | none => (.ok (blocks.length * 25), s)
  | some estimate =>
      let r := estimate s.ssdEngine blocks
      (r.1, { s with ssdEngine := r.2 })

def checkHit : Bool × AISSDSystem σ :=
  match s.prefetcher with
  | none => (false, s)
  | some p =>
      if request.candidateBlocks = [] then (false, s)
      else
        let r := p.isStaged request.candidateBlocks (some request.layerId) 70
        (r.1, { s with prefetcher := some r.2 })

def handleTopk : Except PyErr KVResponse × AISSDSystem σ :=
  let blocks := request.candidateBlocks
  let (cacheHit, s) := s.checkHit request
  let selected := sliceTo blocks (topCount blocks.length request.topK)
  let latency := if cacheHit then (.ok 1, s) else readLatency engine s selected
  (latency.1.map fun latencyUs =>
    ResponseFactory.success request.requestId selected (blocks.length * 4096)
      (selected.length * 4096) latencyUs cacheHit, latency.2)

def handleRead : Except PyErr KVResponse × AISSDSystem σ :=
  let blocks := request.candidateBlocks
  let latency := readLatency engine s blocks
  (latency.1.map fun latencyUs =>
    ResponseFactory.success request.requestId blocks (blocks.length * 4096) (blocks.length * 4096)
      latencyUs false, latency.2)

def handleWrite : Except PyErr KVResponse × AISSDSystem σ :=
  let blocks := if request.blocksToWrite = [] then request.candidateBlocks else request.blocksToWrite
  (.ok (ResponseFactory.success request.requestId blocks (blocks.length * 4096)
    (blocks.length * 4096) (blocks.length * 200) false), s)

/-- Staging in the prefetcher; without candidates or a prefetcher nothing happens. -/
def stage : Except PyErr Unit × AISSDSystem σ :=
  match s.prefetcher with
  | none => (.ok (), s)
  | some p =>
      let r := SpeculativePrefetcher.stageBlocks request.layerId request.candidateBlocks p
      (r.1, { s with prefetcher := some r.2 })

def prefetchInEngine : AISSDSystem σ :=
  match engine.prefetchKv with
  | none => s
  | some prefetchKv =>
      { s with ssdEngine := (prefetchKv s.ssdEngine request.candidateBlocks request.layerId).2 }

def handlePrefetch : Except PyErr KVResponse × AISSDSystem σ :=
  match s.stage request with
  | (.error err, s) => (.error err, s)
  | (.ok _, s) =>
      (.ok (ResponseFactory.success request.requestId request.candidateBlocks
        (request.candidateBlocks.length * 4096) 0 1 true), prefetchInEngine engine s request)

/-- `evict_kv` of the blocks one after the other. -/
def evictEach (evictKv : σ → Int → Int → Except PyErr Unit × σ) (layerId : Int) :
    List Int → σ → Except PyErr Unit × σ
  | [], ssd => (.ok (), ssd)
  | bid :: blocks, ssd =>
      match evictKv ssd bid layerId with
      | (.error err, ssd) => (.error err, ssd)
      | (.ok _, ssd) => evictEach evictKv layerId blocks ssd

def evictInEngine : Except PyErr Unit × AISSDSystem σ :=
  match engine.evictKv with
  | none => (.ok (), s)
  | some evictKv =>
      let r := evictEach evictKv request.layerId request.candidateBlocks s.ssdEngine
      (r.1, { s with ssdEngine := r.2 })

def handleEvict : Except PyErr KVResponse × AISSDSystem σ :=
  let r := evictInEngine engine s request
  (r.1.map fun _ =>
    ResponseFactory.success request.requestId request.candidateBlocks 0 0 5 false, r.2)

def execute (s : AISSDSystem σ) (request : KVRequest) : Except PyErr KVResponse × AISSDSystem σ :=
  match request.operation with
  | .kvTopk => handleTopk engine s request
  | .kvRead => handleRead engine s request
  | .kvWrite => handleWrite s request
  | .kvPrefetch => handlePrefetch engine s request
  | .kvEvict => handleEvict engine s request
  | .other name =>
      (.ok (ResponseFactory.error request.requestId ("Unsupported operation " ++ name)), s)

def machine : Machine (AISSDSystem σ) KVRequest (Except PyErr KVResponse) where
  step := execute engine

end AISSDSystem

end AiSsd.Api
