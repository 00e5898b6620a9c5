import AiSsd.Lib.InPlaceTop
import AiSsd.Lib.RunningBest
import AiSsd.Nvme.Scoring

/-!
# The native kernel

`instorage_attention.c`: the scores of key blocks and the in-place top-k filters. Float
arithmetic is a parameter, as it is for the guest daemon. A call is `none` where the C code is
undefined: an `int` overflows or is divided by zero, or a read leaves its array. Pointers are
to arrays and so never null, and the output arrays are the cells the kernel writes, as many
as it keeps blocks.
-/

namespace AiSsd.NativeKernel

open Lib
open Nvme (FloatOps intMul vector laneSum lane dotProduct64)

variable {F : Type} (fl : FloatOps F)

/-! ## Pointers -/

/-- A `float *`: what there is to read at each index. -/
abbrev FloatPtr (F : Type) := Int → Option F

/-- The pointer to the first element of an array. -/
def ptrOf (xs : List F) : FloatPtr F := fun i => if 0 ≤ i then xs[i.toNat]? else none

/-- `p + n`. -/
def offset (p : FloatPtr F) (n : Int) : FloatPtr F := fun i => p (n + i)

/-! ## Dot products -/

/-- The loop of four products at a time and the rest one by one. -/
def unrolledDot (headDim : Int) (q k : FloatPtr F) : Option F := do
  let n := headDim.toNat
  let a ← vector fl n fun d => q d
  let b ← vector fl n fun d => k d
  let product := fun d => fl.mul (a d) (b d)
  let quads := (List.range (n / 4)).foldl (fun dot i =>
    fl.add dot (fl.add (fl.add (fl.add (product (4 * i)) (product (4 * i + 1)))
      (product (4 * i + 2))) (product (4 * i + 3)))) fl.zero
  return (List.range (n % 4)).foldl (fun dot j => fl.add dot (product (4 * (n / 4) + j))) quads

/-- `dot_product_128_avx2`, with one accumulator where the daemon's has four. -/
def dotProduct128 (a b : Nat → F) : F := laneSum fl fun j => lane fl a b 0 1 15 j

def dotProduct (headDim : Int) (q k : FloatPtr F) : Option F := do
  let a ← vector fl headDim.toNat fun d => q d
  let b ← vector fl headDim.toNat fun d => k d
  if headDim = 64 then some (dotProduct64 fl a b)
  else if headDim = 128 then some (dotProduct128 fl a b)
  else some ((List.range headDim.toNat).foldl (fun dot d => fl.add dot (fl.mul (a d) (b d)))
    fl.zero)

/-! ## Block scores -/

/-- The product of head `h` of the query and of the token at `kToken`, scaled. -/
def scaledDot (query kBlock : FloatPtr F) (headDim : Int) (scale : F) (kToken : Int) (h : Nat) :
    Option F := do
  let qH ← intMul h headDim
  let kH ← intMul h headDim
  let dot ← unrolledDot fl headDim (offset query qH) (offset kBlock (kToken + kH))
  return fl.mul dot scale

def computeBlockScore (query kBlock : FloatPtr F) (tokens heads headDim : Int) (scale : F) :
    Option F := do
  let blockStride ← intMul heads headDim
  bestOver fl.lt fl.minScore tokens.toNat heads.toNat (fun t => intMul t blockStride)
    (scaledDot fl query kBlock headDim scale)

/-- The product of query head `qh` and the key head it shares, scaled. -/
def scaledDotGqa (dot : Int → FloatPtr F → FloatPtr F → Option F) (query kBlock : FloatPtr F)
    (gqaRatio headDim : Int) (scale : F) (kToken : Int) (qh : Nat) : Option F := do
  if gqaRatio = 0 then none
  let kh := (qh : Int).tdiv gqaRatio
  let qVec ← intMul qh headDim
  let kVec ← intMul kh headDim
  let dot ← dot headDim (offset query qVec) (offset kBlock (kToken + kVec))
  return fl.mul dot scale

def scoreGqa (dot : Int → FloatPtr F → FloatPtr F → Option F) (query kBlock : FloatPtr F)
    (gqaRatio actualTokens qHeads kvHeads headDim : Int) (scale : F) : Option F := do
  let kvStride ← intMul kvHeads headDim
  bestOver fl.lt fl.minScore actualTokens.toNat qHeads.toNat (fun t => intMul t kvStride)
    (scaledDotGqa fl dot query kBlock gqaRatio headDim scale)

def computeBlockScoreGqaAvx2 (query kBlock : FloatPtr F)
    (actualTokens qHeads kvHeads headDim : Int) (scale : F) : Option F :=
  if kvHeads = 0 then none
  else
    scoreGqa fl (dotProduct fl) query kBlock (qHeads.tdiv kvHeads) actualTokens qHeads kvHeads
      headDim scale

/-! ## The top-k filters -/

/-- `out_topk_indices` and `out_topk_scores`. -/
structure TopArrays (F : Type) where
  indices : List Int
  scores : List F
deriving Repr, DecidableEq

def TopArrays.empty (effectiveK : Nat) : TopArrays F :=
  ⟨List.replicate effectiveK (-1), List.replicate effectiveK fl.minScore⟩

/-- One block in the scan: when its score exceeds the last one, find its place, shift both
arrays and put it there. -/
def TopArrays.insert (out : TopArrays F) (b : Int) (score : F) : TopArrays F :=
  if (out.scores.getLast?).any fun last => fl.lt last score then
    let pos := insertPos (fun s => fl.lt s score) out.scores (out.scores.length - 1)
    ⟨insertAt pos b out.indices, insertAt pos score out.scores⟩
  else out

def scanBlocks (effectiveK numBlocks : Nat) (score : Nat → Option F) : Option (TopArrays F) :=
  (List.range numBlocks).foldlM (fun out b => (score b).map (out.insert fl b))
    (TopArrays.empty fl effectiveK)

/-- `(top_k < num_blocks) ? top_k : num_blocks`. -/
def effectiveK (topK numBlocks : Int) : Int := if topK < numBlocks then topK else numBlocks

theorem toNat_effectiveK (topK numBlocks : Nat) :
    (effectiveK topK numBlocks).toNat = min topK numBlocks := by
  unfold effectiveK
  split <;> omega

def instorageTopkFilter (query kBlocks : FloatPtr F)
    (numBlocks tokens heads headDim topK : Int) (scale : F) : Option (Except Int (TopArrays F)) :=
  if numBlocks ≤ 0 ∨ tokens ≤ 0 ∨ heads ≤ 0 ∨ headDim ≤ 0 ∨ topK ≤ 0 then some (.error (-2))
  else do
    let tokenHeads ← intMul tokens heads
    let blockElements ← intMul tokenHeads headDim
    let out ← scanBlocks fl (effectiveK topK numBlocks).toNat numBlocks.toNat fun b => do
      let start ← intMul b blockElements
      computeBlockScore fl query (offset kBlocks start) tokens heads headDim scale
    return .ok out

def instorageTopkFilterGqaAvx2 (query : FloatPtr F) (kBlocks : List (FloatPtr F))
    (actualTokens : List Int) (numBlocks qHeads kvHeads headDim topK : Int) (scale : F) :
    Option (Except Int (TopArrays F)) :=
  if numBlocks ≤ 0 ∨ qHeads ≤ 0 ∨ kvHeads ≤ 0 ∨ headDim ≤ 0 ∨ topK ≤ 0 then some (.error (-2))
  else do
    let out ← scanBlocks fl (effectiveK topK numBlocks).toNat numBlocks.toNat fun b => do
      let kBlock ← kBlocks[b]?
      let tokens ← actualTokens[b]?
      computeBlockScoreGqaAvx2 fl query kBlock tokens qHeads kvHeads headDim scale
    return .ok out

end AiSsd.NativeKernel
