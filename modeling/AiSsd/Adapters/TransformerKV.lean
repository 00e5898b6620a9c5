import AiSsd.Adapters.Tensors
import AiSsd.Lib.TopK
import AiSsd.Numpy.Reduce
import AiSsd.Storage.BlockBackend
import Mathlib.Algebra.Order.Floor.Semiring
import Mathlib.Data.Rat.Floor

/-!
# The Transformer KV state provider

Prefill keeps the sink and the recent window in DRAM and offloads what lies between
as blocks; a decode step slides the recent window by one token; a selection scores
the offloaded blocks against the query, loads the best and puts everything back in
temporal order. Batch size is one. Timings are left out.
-/

namespace AiSsd.Adapters

open Lib Numpy Storage

universe u v

structure ModelArchitectureConfig where
  numAttentionHeads : Nat
  numKeyValueHeads : Nat
  headDim : Nat
deriving Repr, DecidableEq

def ModelArchitectureConfig.gqaRatio (config : ModelArchitectureConfig) : Nat :=
  if config.numKeyValueHeads > 0 then
    max 1 (config.numAttentionHeads / config.numKeyValueHeads)
  else 1

structure ProviderConfig where
  config : ModelArchitectureConfig
  sinkTokens : Nat
  recentTokens : Nat
  tokensPerBlock : Nat
  topKPct : ℚ
  enableComputationalStorage : Bool
  enablePrefetch : Bool
  enableAsyncPipeline : Bool

/-- The numerics the code leaves to NumPy and Torch: the value of an element,
`1.0 / math.sqrt(n)`, and the conversion between dtypes. -/
structure Numerics (α : Type u) extends Astype where
  val : DType → Bytes → α
  invSqrt : Nat → α

structure LayerData (geo : KVGeometry) where
  sinkK : List (TokenRow geo)
  sinkV : List (TokenRow geo)
  recentK : List (TokenRow geo)
  recentV : List (TokenRow geo)
  candidateBlocks : List (Nat × Nat)
  totalTokens : Nat
deriving DecidableEq

structure TransformerKVStateProvider (geo : KVGeometry) (σ : Type v) where
  backend : σ
  layerData : Dict Nat (LayerData geo)
  numKvHeads : Nat
  headDim : Nat
  pageBytes : Option Nat
  candidateKBytesToHost : Nat
  winningKBytesToHost : Nat
  winningVBytesToHost : Nat
  topkMetadataBytesToHost : Nat

/-- The containers a prefill accepts: a dict by layer, layer objects whose keys may be
missing, a `key_cache`, or a tuple of pairs. -/
inductive PastKeyValues (geo : KVGeometry) where
  | byLayer (layers : Dict Nat (List (KVToken geo)))
  | layers (layers : List (Option (List (KVToken geo))))
  | keyCache (layers : List (List (KVToken geo)))
  | tuple (layers : List (List (KVToken geo)))

/-- `layers_dict`, once the container has a first layer to take the geometry from. -/
def PastKeyValues.layersDict {geo : KVGeometry} :
    PastKeyValues geo → Except PyErr (List (Nat × List (KVToken geo)))
  | .byLayer dict =>
      if dict.entries = [] then .error .stopIteration else .ok dict.entries
  | .layers objects =>
      let found := objects.zipIdx.filterMap fun p => p.1.map fun tokens => (p.2, tokens)
      if found = [] then
        .error (.valueError "No attention layers with keys found in past_key_values")
      else .ok found
  | .keyCache pairs | .tuple pairs =>
      if pairs = [] then .error .indexError else .ok (pairs.zipIdx.map fun p => (p.2, p.1))

namespace TransformerKVStateProvider

variable {geo : KVGeometry} {σ : Type v} {α : Type u} (B : BlockBackend σ α)
  (cfg : ProviderConfig)

def init (backend : σ) : TransformerKVStateProvider geo σ where
  backend := backend
  layerData := Dict.empty
  numKvHeads := cfg.config.numKeyValueHeads
  headDim := cfg.config.headDim
  pageBytes := none
  candidateKBytesToHost := 0
  winningKBytesToHost := 0
  winningVBytesToHost := 0
  topkMetadataBytesToHost := 0

/-! ## Prefill -/

/-- `xs[-n:]`. With `n = 0` that is all of `xs`. -/
def lastN {β : Type*} (n : Nat) (xs : List β) : List β :=
  if n = 0 then xs else xs.drop (xs.length - n)

/-- The block loop from block `bid` on, for `count` more blocks. -/
def offloadBlocks (layerIdx : Nat) (kT vT : List (TokenRow geo)) :
    (count bid : Nat) → σ → Except PyErr (List (Nat × Nat)) × σ
  | 0, _, s => (.ok [], s)
  | count + 1, bid, s =>
      let bStart := bid * cfg.tokensPerBlock
      let bEnd := min (bStart + cfg.tokensPerBlock) kT.length
      let tokCount := bEnd - bStart
      let kBlk := blockArray cfg.tokensPerBlock (slice kT bStart bEnd)
      let vBlk := blockArray cfg.tokensPerBlock (slice vT bStart bEnd)
      match B.writeBlock s layerIdx bid kBlk vBlk 0 0 with
      | (.error err, s) => (.error err, s)
      | (.ok (), s) =>
          match offloadBlocks layerIdx kT vT count (bid + 1) s with
          | (.error err, s) => (.error err, s)
          | (.ok cands, s) => (.ok ((bid, tokCount) :: cands), s)

/-- `range(0, total, tokens_per_block)` and its loop. -/
def offload (layerIdx : Nat) (kT vT : List (TokenRow geo)) (s : σ) :
    Except PyErr (List (Nat × Nat)) × σ :=
  if cfg.tokensPerBlock = 0 then (.error (.valueError "range() arg 3 must not be zero"), s)
  else offloadBlocks B cfg layerIdx kT vT (numChunks cfg.tokensPerBlock kT.length) 0 s

def prefillLayer (s : TransformerKVStateProvider geo σ) (layerIdx : Nat)
    (tokens : List (KVToken geo)) : Except PyErr Unit × TransformerKVStateProvider geo σ :=
  let k := tokens.map Prod.fst
  let v := tokens.map Prod.snd
  let seqLen := tokens.length
  if seqLen ≤ cfg.sinkTokens + cfg.recentTokens then
    (.ok (), { s with layerData := s.layerData.set layerIdx ⟨k, v, [], [], [], seqLen⟩ })
  else
    let histStart := cfg.sinkTokens
    let histEnd := seqLen - cfg.recentTokens
    let offloaded :=
      if histEnd > histStart then
        offload B cfg layerIdx (slice k histStart histEnd) (slice v histStart histEnd) s.backend
      else (.ok [], s.backend)
    match offloaded with
    | (.error err, backend) => (.error err, { s with backend := backend })
    | (.ok candBids, backend) =>
        (.ok (),
          { s with
            backend := backend
            layerData := s.layerData.set layerIdx
              { sinkK := k.take cfg.sinkTokens
                sinkV := v.take cfg.sinkTokens
                recentK := lastN cfg.recentTokens k
                recentV := lastN cfg.recentTokens v
                candidateBlocks := candBids
                totalTokens := seqLen } })

def prefillLayers : List (Nat × List (KVToken geo)) → TransformerKVStateProvider geo σ →
    Except PyErr Unit × TransformerKVStateProvider geo σ
  | [], s => (.ok (), s)
  | (layerIdx, tokens) :: rest, s =>
      match prefillLayer B cfg s layerIdx tokens with
      | (.error err, s) => (.error err, s)
      | (.ok (), s) => prefillLayers rest s

def initFromPrefill (s : TransformerKVStateProvider geo σ) (past : PastKeyValues geo) :
    Except PyErr Unit × TransformerKVStateProvider geo σ :=
  match past.layersDict with
  | .error err => (.error err, s)
  | .ok layersDict =>
      prefillLayers B cfg layersDict
        { s with
          numKvHeads := geo.kvHeads
          headDim := geo.headDim
          pageBytes := some
            (cfg.tokensPerBlock * geo.kvHeads * geo.headDim * geo.bytesPerElem) }

/-! ## Decoding -/

def appendNewToken (s : TransformerKVStateProvider geo σ) (layerIdx : Nat)
    (kTok vTok : TokenRow geo) : Except PyErr Unit × TransformerKVStateProvider geo σ :=
  match s.layerData.get? layerIdx with
  | none => (.error (.keyError (toString layerIdx)), s)
  | some ld =>
      (.ok (),
        { s with
          layerData := s.layerData.set layerIdx
            { ld with
              recentK := ld.recentK.drop 1 ++ [kTok]
              recentV := ld.recentV.drop 1 ++ [vTok]
              totalTokens := ld.totalTokens + 1 } })

/-! ## Selection -/

/-- `max(1, int(math.ceil(n * (top_k_pct / 100.0))))`. -/
def topKCount (n : Nat) (pct : ℚ) : Nat := (max 1 ⌈(n : ℚ) * (pct / 100)⌉).toNat

/-- `pages[bid]`. -/
def pageOf {ρ : Type} (pages : Dict Nat ρ) (bid : Nat) : Except PyErr ρ :=
  match pages.get? bid with
  | none => .error (.keyError (toString bid))
  | some page => .ok page

def readPages {ρ : Type} (batch : Option (BatchRead σ ρ)) (single : BlockRead σ ρ) (s : σ)
    (layerIdx : Nat) (bids : List Nat) : Except PyErr (Dict Nat ρ) × σ :=
  match batch with
  | some read => read s layerIdx bids 0 0
  | none => readEach (fun s bid => single s layerIdx bid 0 0) bids Dict.empty s

/-- `predict_and_prefetch`, when it is enabled and the backend has it. -/
def prefetchWinners (s : σ) (layerIdx : Nat) (winBids : List Nat) (asyncMode : Option Bool) :
    Except PyErr Unit × σ :=
  match (if cfg.enablePrefetch then B.predictAndPrefetch else none) with
  | none => (.ok (), s)
  | some prefetch =>
      let r := prefetch s layerIdx winBids asyncMode
      (r.1.map fun _ => (), r.2)

structure Loaded (α : Type u) where
  topBids : List (α × Nat × Nat)
  keyPages : Dict Nat NDArray
  valuePages : Dict Nat NDArray

/-- `[bid for _, bid, _ in top_bids]`. -/
def winnerIds (topBids : List (α × Nat × Nat)) : List Nat := topBids.map fun t => t.2.1

section Scoring

variable [Field α] [LinearOrder α] (N : Numerics α) (kernel : Option (Kernel α))

/-- The NumPy loop: the score of every candidate. -/
def hostScores (candBids : List (Nat × Nat)) (keyPages : Dict Nat NDArray)
    (q : List (List α)) (scale : α) : Except PyErr (List (α × Nat × Nat)) :=
  candBids.mapM fun cand =>
    match pageOf keyPages cand.1 with
    | .error err => .error err
    | .ok kBlk =>
        (blockMaxScore N.val q kBlk q.length cfg.config.gqaRatio scale cand.2).map fun maxScore =>
          (maxScore, cand)

/-- `top_bids` on the host, by the native kernel or by NumPy. -/
def hostTopBids (s : TransformerKVStateProvider geo σ) (candBids : List (Nat × Nat))
    (keyPages : Dict Nat NDArray) (kBlocks : List NDArray) (q : List (List α)) (scale : α)
    (kVal : Nat) : Except PyErr (List (α × Nat × Nat)) :=
  match kernel with
  | some computeTopkGqa =>
      match kBlocks.head?.bind fun blk => blk.shape[1]? with
      | none => .error .indexError
      | some kvHeads =>
          match computeTopkGqa q kBlocks (candBids.map Prod.snd) kVal q.length kvHeads
              s.headDim with
          | .error err => .error err
          | .ok (indices, scores) => namedScores candBids indices scores
  | none =>
      match hostScores cfg N candBids keyPages q scale with
      | .error err => .error err
      | .ok scores => .ok (topBy Prod.fst kVal scores)

/-- Read every candidate key page, score on the host, read the winning value pages. -/
def hostLoad (s : TransformerKVStateProvider geo σ) (layerIdx : Nat)
    (candBids : List (Nat × Nat)) (q : List (List α)) (scale : α) (kVal : Nat) :
    Except PyErr (Loaded α) × TransformerKVStateProvider geo σ :=
  let candIds := candBids.map Prod.fst
  match readPages B.readKeyPageBatch B.readKeyPage s.backend layerIdx candIds with
  | (.error err, backend) => (.error err, { s with backend := backend })
  | (.ok keyPages, backend) =>
      match candIds.mapM (pageOf keyPages) with
      | .error err => (.error err, { s with backend := backend })
      | .ok kBlocks =>
          let s := { s with
            backend := backend
            candidateKBytesToHost :=
              s.candidateKBytesToHost + candIds.length * s.pageBytes.getD 4096 }
          match hostTopBids cfg N kernel s candBids keyPages kBlocks q scale kVal with
          | .error err => (.error err, s)
          | .ok topBids =>
              let winBids := winnerIds topBids
              match prefetchWinners B cfg s.backend layerIdx winBids none with
              | (.error err, backend) => (.error err, { s with backend := backend })
              | (.ok (), backend) =>
                  match readPages B.readValuePageBatch B.readValuePage backend layerIdx
                      winBids with
                  | (.error err, backend) => (.error err, { s with backend := backend })
                  | (.ok valuePages, backend) =>
                      (.ok ⟨topBids, keyPages, valuePages⟩,
                        { s with
                          backend := backend
                          winningVBytesToHost :=
                            s.winningVBytesToHost + winBids.length * s.pageBytes.getD 4096 })

end Scoring

/-- `{bid: loaded_blocks[bid][i] for bid in win_bids}`. -/
def pagesOfBlocks (page : NDArray × NDArray → NDArray) (blocks : Dict Nat (NDArray × NDArray)) :
    List Nat → Dict Nat NDArray → Except PyErr (Dict Nat NDArray)
  | [], pages => .ok pages
  | bid :: bids, pages =>
      match pageOf blocks bid with
      | .error err => .error err
      | .ok blk => pagesOfBlocks page blocks bids (pages.set bid (page blk))

def readWinners (s : σ) (layerIdx : Nat) (winBids : List Nat) :
    Except PyErr (Dict Nat NDArray × Dict Nat NDArray) × σ :=
  match B.readBlockBatch with
  | some read =>
      match read s layerIdx winBids 0 0 with
      | (.error err, s) => (.error err, s)
      | (.ok blocks, s) =>
          match pagesOfBlocks Prod.fst blocks winBids Dict.empty with
          | .error err => (.error err, s)
          | .ok keyPages =>
              match pagesOfBlocks Prod.snd blocks winBids Dict.empty with
              | .error err => (.error err, s)
              | .ok valuePages => (.ok (keyPages, valuePages), s)
  | none =>
      match readEach (fun s bid => B.readKeyPage s layerIdx bid 0 0) winBids Dict.empty s with
      | (.error err, s) => (.error err, s)
      | (.ok keyPages, s) =>
          match readEach (fun s bid => B.readValuePage s layerIdx bid 0 0) winBids Dict.empty
              s with
          | (.error err, s) => (.error err, s)
          | (.ok valuePages, s) => (.ok (keyPages, valuePages), s)

def countWinners (s : TransformerKVStateProvider geo σ) (backend : σ) (winners : Nat) :
    TransformerKVStateProvider geo σ :=
  { s with
    backend := backend
    winningVBytesToHost := s.winningVBytesToHost + winners * s.pageBytes.getD 4096
    winningKBytesToHost := s.winningKBytesToHost + winners * s.pageBytes.getD 4096 }

/-- The asynchronous pipeline: read the winning blocks, then prefetch. -/
def loadThenPrefetch (s : TransformerKVStateProvider geo σ) (layerIdx : Nat)
    (topBids : List (α × Nat × Nat)) :
    Except PyErr (Loaded α) × TransformerKVStateProvider geo σ :=
  let winBids := winnerIds topBids
  match readWinners B s.backend layerIdx winBids with
  | (.error err, backend) => (.error err, { s with backend := backend })
  | (.ok (keyPages, valuePages), backend) =>
      let s := countWinners s backend winBids.length
      match prefetchWinners B cfg s.backend layerIdx winBids (some true) with
      | (.error err, backend) => (.error err, { s with backend := backend })
      | (.ok (), backend) => (.ok ⟨topBids, keyPages, valuePages⟩, { s with backend := backend })

def prefetchThenLoad (s : TransformerKVStateProvider geo σ) (layerIdx : Nat)
    (topBids : List (α × Nat × Nat)) :
    Except PyErr (Loaded α) × TransformerKVStateProvider geo σ :=
  let winBids := winnerIds topBids
  match prefetchWinners B cfg s.backend layerIdx winBids none with
  | (.error err, backend) => (.error err, { s with backend := backend })
  | (.ok (), backend) =>
      match readPages B.readValuePageBatch B.readValuePage backend layerIdx winBids with
      | (.error err, backend) => (.error err, { s with backend := backend })
      | (.ok valuePages, backend) =>
          let s := { s with
            backend := backend
            winningVBytesToHost :=
              s.winningVBytesToHost + winBids.length * s.pageBytes.getD 4096 }
          match readPages B.readKeyPageBatch B.readKeyPage s.backend layerIdx winBids with
          | (.error err, backend) => (.error err, { s with backend := backend })
          | (.ok keyPages, backend) =>
              (.ok ⟨topBids, keyPages, valuePages⟩,
                { s with
                  backend := backend
                  winningKBytesToHost :=
                    s.winningKBytesToHost + winBids.length * s.pageBytes.getD 4096 })

/-- The first `actual` rows of a key block and of a value block. -/
def blockRows (A : Astype) (geo : KVGeometry) (kBlk vBlk : NDArray) (actual : Nat) :
    Except PyErr (List (TokenRow geo) × List (TokenRow geo)) :=
  match tokenRows A geo kBlk actual, tokenRows A geo vBlk actual with
  | .error err, _ => .error err
  | .ok _, .error err => .error err
  | .ok kT, .ok vT => .ok (kT, vT)

def winnerRows (A : Astype) (geo : KVGeometry) (loaded : Loaded α) (top : α × Nat × Nat) :
    Except PyErr (List (TokenRow geo) × List (TokenRow geo)) :=
  match pageOf loaded.valuePages top.2.1, pageOf loaded.keyPages top.2.1 with
  | .error err, _ => .error err
  | .ok _, .error err => .error err
  | .ok vBlk, .ok kBlk => blockRows A geo kBlk vBlk top.2.2

/-- `torch.cat` of sink, selected blocks and recent window. -/
def activeState (ld : LayerData geo) (selected : List (List (TokenRow geo) × List (TokenRow geo))) :
    List (TokenRow geo) × List (TokenRow geo) :=
  (ld.sinkK ++ (selected.map Prod.fst).flatten ++ ld.recentK,
    ld.sinkV ++ (selected.map Prod.snd).flatten ++ ld.recentV)

/-- Sort the winners by id and put sink, winners and recent window together. -/
def reconstruct (A : Astype) (ld : LayerData geo) (loaded : Loaded α) :
    Except PyErr (List (TokenRow geo) × List (TokenRow geo)) :=
  ((orderBy (fun t => t.2.1) loaded.topBids).mapM (winnerRows A geo loaded)).map (activeState ld)

section Select

variable [Field α] [LinearOrder α] (N : Numerics α) (kernel : Option (Kernel α))

/-- The winners of a layer and their pages, scored in storage when that is enabled and
the backend can, otherwise on the host. -/
def loadWinners (s : TransformerKVStateProvider geo σ) (layerIdx : Nat)
    (candBids : List (Nat × Nat)) (q : List (List α)) (scale : α) :
    Except PyErr (Loaded α) × TransformerKVStateProvider geo σ :=
  let kVal := topKCount candBids.length cfg.topKPct
  match (if cfg.enableComputationalStorage then B.computeTopkFilter else none) with
  | none => hostLoad B cfg N kernel s layerIdx candBids q scale kVal
  | some filter =>
      match filter s.backend layerIdx candBids q kVal scale q.length s.numKvHeads s.headDim with
      | (.error err, backend) => (.error err, { s with backend := backend })
      | (.ok topBids, backend) =>
          let s := { s with
            backend := backend
            topkMetadataBytesToHost := s.topkMetadataBytesToHost + topBids.length * 12 }
          if cfg.enableAsyncPipeline then loadThenPrefetch B cfg s layerIdx topBids
          else prefetchThenLoad B cfg s layerIdx topBids

/-- `query` is `query[0, :, 0, :]`, one row for each query head. -/
def selectAndFetchActiveState (s : TransformerKVStateProvider geo σ) (layerIdx : Nat)
    (query : Option (List (List α))) :
    Except PyErr (List (TokenRow geo) × List (TokenRow geo)) × TransformerKVStateProvider geo σ :=
  match query with
  | none =>
      (.error (.valueError "query tensor must be provided for attention KV retrieval"), s)
  | some q =>
      match s.layerData.get? layerIdx with
      | none => (.error (.keyError (toString layerIdx)), s)
      | some ld =>
          if s.headDim = 0 then (.error .zeroDivisionError, s)
          else if ld.candidateBlocks = [] then (.ok (activeState ld []), s)
          else
            match loadWinners B cfg N kernel s layerIdx ld.candidateBlocks q
                (N.invSqrt s.headDim) with
            | (.error err, s) => (.error err, s)
            | (.ok loaded, s) => (reconstruct N.toAstype ld loaded, s)

end Select

end TransformerKVStateProvider

end AiSsd.Adapters
