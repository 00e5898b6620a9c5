import AiSsd.Prefetch.AsyncAdapter
import AiSsd.Lib.Machine

/-!
# The main thread and the background fetches

Two kinds of parties take turns on one adapter. The main thread makes its calls one after
another; an asynchronous prefetch is a submission and then the registration of one entry
after another. The background fetches read their next block, complete, or fail. An event
that its party cannot take at this point changes nothing.
-/

namespace AiSsd.Prefetch.Async

open Lib Numpy Storage
open Adapters (Astype)

universe v

/-- An asynchronous prefetch after its submission: the entries it has still to register. -/
structure Registration where
  future : Nat
  layerId : Nat
  headId : Nat
  remaining : List Nat
  dispatched : List Nat
  predictedLayer : Option Nat

structure Pipeline (σ : Type v) where
  adapter : RealInferencePrefetchAdapter σ
  registration : Option Registration

inductive Call where
  | writeBlock (layerIdx blockId : Nat) (kBlock vBlock : Payload) (headId tokenStart : Nat)
  | prefetch (blockIds : List Nat) (layerId headId tokenStart : Nat) (isAsync : Bool)
  | predictAndPrefetch (currentLayerId : Nat) (currentBlockIds : List Nat) (stride : Nat)
      (isAsync : Bool)
  | readKeyPage (layerIdx blockId headId tokenStart : Nat)
  | readValuePage (layerIdx blockId headId tokenStart : Nat)
  | readBlock (layerIdx blockId headId tokenStart : Nat)
  | readKeyPageBatch (layerIdx : Nat) (blockIds : List Nat) (headId tokenStart : Nat)
  | readValuePageBatch (layerIdx : Nat) (blockIds : List Nat) (headId tokenStart : Nat)
  | readBlockBatch (layerIdx : Nat) (blockIds : List Nat) (headId tokenStart : Nat)
  | evictBlock (layerIdx blockId : Nat)
  | resetStats

inductive Event where
  | call (c : Call)
  | registerNext
  | fetchNext (future : Nat)
  | complete (future : Nat)
  | fail (future : Nat) (err : PyErr)

inductive Answer where
  | done
  | dispatched (blockIds : List Nat)
  | predicted (nextLayer : Nat) (dispatched : List Nat)
  | page (a : NDArray)
  | block (kv : NDArray × NDArray)
  | pages (pages : Dict Nat NDArray)
  | blocks (blocks : Dict Nat (NDArray × NDArray))
  | evicted (found : Bool)

namespace Pipeline

open Async.RealInferencePrefetchAdapter

variable {σ : Type v} (B : Backend σ) (A : Astype) (cfg : AdapterConfig)

def init (storageBackend : σ) : Pipeline σ :=
  ⟨RealInferencePrefetchAdapter.init cfg storageBackend, none⟩

def finished (r : Outcome Answer × RealInferencePrefetchAdapter σ) :
    Option (Outcome Answer) × Pipeline σ :=
  (some r.1, ⟨r.2, none⟩)

def prefetched (predictedLayer : Option Nat) (dispatched : List Nat) : Answer :=
  match predictedLayer with
  | none => .dispatched dispatched
  | some layer => .predicted layer dispatched

def prefetch (s : RealInferencePrefetchAdapter σ) (blockIds : List Nat)
    (layerId headId tokenStart : Nat) (isAsync : Bool) (predictedLayer : Option Nat) :
    Option (Outcome Answer) × Pipeline σ :=
  let missBids := missing s layerId blockIds
  if missBids = [] then finished (.returns (.ok (prefetched predictedLayer [])), s)
  else
    match ensureCapacityFor cfg missBids s with
    | (.error err, s) => finished (.returns (.error err), s)
    | (.ok (), s) =>
        if isAsync then
          (none,
            { adapter := submit s layerId missBids headId tokenStart
              registration :=
                some
                  { future := s.futures.length
                    layerId := layerId
                    headId := headId
                    remaining := missBids
                    dispatched := []
                    predictedLayer := predictedLayer } })
        else
          let r := prefetchSync B cfg s layerId missBids headId tokenStart
          finished (.returns (r.1.map (prefetched predictedLayer)), r.2)

def predictAndPrefetch (s : RealInferencePrefetchAdapter σ) (currentLayerId : Nat)
    (currentBlockIds : List Nat) (stride : Nat) (isAsync : Bool) :
    Option (Outcome Answer) × Pipeline σ :=
  match s.predictor.predictNextLayerBlocks currentLayerId currentBlockIds stride with
  | (.error err, p) => finished (.returns (.error err), { s with predictor := p })
  | (.ok (nextLayer, predictedBids), p) =>
      prefetch B cfg { s with predictor := p } predictedBids nextLayer 0 0 isAsync (some nextLayer)

def call (s : RealInferencePrefetchAdapter σ) : Call → Option (Outcome Answer) × Pipeline σ
  | .writeBlock l b k v h t =>
      let r := writeBlock B A cfg s l b k v h t
      finished (.returns (r.1.map fun _ => .done), r.2)
  | .prefetch bids l h t isAsync => prefetch B cfg s bids l h t isAsync none
  | .predictAndPrefetch l bids stride isAsync => predictAndPrefetch B cfg s l bids stride isAsync
  | .readKeyPage l b h t => let r := readKeyPage B cfg s l b h t; finished (r.1.map .page, r.2)
  | .readValuePage l b h t => let r := readValuePage B cfg s l b h t; finished (r.1.map .page, r.2)
  | .readBlock l b h t => let r := readBlock B cfg s l b h t; finished (r.1.map .block, r.2)
  | .readKeyPageBatch l bs h t =>
      let r := readKeyPageBatch B cfg s l bs h t
      finished (r.1.map .pages, r.2)
  | .readValuePageBatch l bs h t =>
      let r := readValuePageBatch B cfg s l bs h t
      finished (r.1.map .pages, r.2)
  | .readBlockBatch l bs h t =>
      let r := readBlockBatch B cfg s l bs h t
      finished (r.1.map .blocks, r.2)
  | .evictBlock l b => let r := evictBlock B s l b; finished (.returns (.ok (.evicted r.1)), r.2)
  | .resetStats => finished (.returns (.ok .done), resetStats B s)

/-- The next entry of a submitted prefetch; the last one ends the call. -/
def registerNext (s : Pipeline σ) : Option (Outcome Answer) × Pipeline σ :=
  match s.registration with
  | none => (none, s)
  | some r =>
      match r.remaining with
      | [] => (none, { s with registration := none })
      | bid :: rest =>
          let adapter := stage cfg s.adapter r.layerId bid r.headId none (some r.future)
          let dispatched := r.dispatched ++ [bid]
          if rest = [] then
            finished (.returns (.ok (prefetched r.predictedLayer dispatched)), recordPeak cfg adapter)
          else
            (none,
              { adapter := adapter
                registration := some { r with remaining := rest, dispatched := dispatched } })

/-- The main thread calls when it is in no prefetch. -/
def step (s : Pipeline σ) : Event → Option (Outcome Answer) × Pipeline σ
  | .call c => if s.registration.isNone then call B A cfg s.adapter c else (none, s)
  | .registerNext => registerNext cfg s
  | .fetchNext future => (none, { s with adapter := fetchNext B cfg s.adapter future })
  | .complete future => (none, { s with adapter := complete s.adapter future })
  | .fail future err => (none, { s with adapter := fail s.adapter future err })

def machine : Machine (Pipeline σ) Event (Option (Outcome Answer)) where
  step := step B A cfg

end Pipeline

end AiSsd.Prefetch.Async
