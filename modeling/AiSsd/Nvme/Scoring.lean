import AiSsd.Nvme.Wire

/-!
# Scoring in the guest

The daemon's key-block scores and its in-place top-k list. Floats are a parameter, with the
operations the C code applies to them in the order it applies them. A score is undefined,
`none`, when its `int` arithmetic overflows, divides by zero, or addresses memory outside
the query or the static buffer.
-/

namespace AiSsd.Nvme

open Lib Lib.LittleEndian

/-- Single-precision arithmetic. -/
structure FloatOps (F : Type) where
  ofBits : Nat → F
  toBits : F → Nat
  /-- `_mm_cvtph_ps`: a float from the bits of a half. -/
  ofHalf : Nat → F
  add : F → F → F
  mul : F → F → F
  /-- `fma a b c` is `a * b + c`, rounded once. -/
  fma : F → F → F → F
  lt : F → F → Bool

namespace FloatOps

variable {F : Type} (fl : FloatOps F)

def zero : F := fl.ofBits 0

/-- `-1e30f`. -/
def minScore : F := fl.ofBits 0xF149F2CA

end FloatOps

section

variable {F : Type} (fl : FloatOps F)

/-! ## Memory -/

/-- A `uint32_t` taken as an `int`. -/
def toInt (n : Nat) : Int := if n < 2 ^ 31 then n else (n : Int) - 2 ^ 32

/-- `int` multiplication, undefined when it overflows. -/
def intMul (a b : Int) : Option Int :=
  if -2 ^ 31 ≤ a * b ∧ a * b < 2 ^ 31 then some (a * b) else none

/-- `width` bytes of the static buffer from index `start`. -/
def loadBuf (buf : Nat → UInt8) (width : Nat) (start : Int) : Option Nat :=
  if 0 ≤ start ∧ start + width ≤ bufferSize then
    some (ofBytes ((List.range width).map fun i => buf (start.toNat + i)))
  else none

/-- `io_buf` read as `float *`. -/
def floatKey (buf : Nat → UInt8) (i : Int) : Option F := (loadBuf buf 4 (4 * i)).map fl.ofBits

/-- `io_buf` read as `uint16_t *`, each half converted. -/
def halfKey (buf : Nat → UInt8) (i : Int) : Option F := (loadBuf buf 2 (2 * i)).map fl.ofHalf

def queryElement (query : List F) (i : Int) : Option F :=
  if 0 ≤ i then query[i.toNat]? else none

/-! ## Dot products -/

/-- The eight lanes of an accumulator added up: the halves, then two horizontal adds. -/
def laneSum (acc : Nat → F) : F :=
  fl.add (fl.add (fl.add (acc 0) (acc 4)) (fl.add (acc 1) (acc 5)))
    (fl.add (fl.add (acc 2) (acc 6)) (fl.add (acc 3) (acc 7)))

/-- Lane `j` of the accumulator that starts at vector `start` and goes on every `stride`. -/
def lane (a b : Nat → F) (start stride count j : Nat) : F :=
  (List.range count).foldl
    (fun acc i => fl.fma (a (8 * (start + stride * (i + 1)) + j))
      (b (8 * (start + stride * (i + 1)) + j)) acc)
    (fl.mul (a (8 * start + j)) (b (8 * start + j)))

/-- `dot_product_64_avx2` and its fp16 twin. -/
def dotProduct64 (a b : Nat → F) : F := laneSum fl fun j => lane fl a b 0 1 7 j

/-- `dot_product_128_avx2` and its fp16 twin: four accumulators. -/
def dotProduct128 (a b : Nat → F) : F :=
  laneSum fl fun j => fl.add (fl.add (lane fl a b 0 4 3 j) (lane fl a b 1 4 3 j))
    (fl.add (lane fl a b 2 4 3 j) (lane fl a b 3 4 3 j))

/-- The first `n` elements of a vector, once all of them can be read. -/
def vector (n : Nat) (v : Nat → Option F) : Option (Nat → F) :=
  ((List.range n).mapM v).map fun xs i => xs.getD i fl.zero

def dotProduct (headDim : Int) (q k : Nat → Option F) : Option F := do
  let a ← vector fl headDim.toNat q
  let b ← vector fl headDim.toNat k
  if headDim = 128 then some (dotProduct128 fl a b)
  else if headDim = 64 then some (dotProduct64 fl a b)
  else some ((List.range headDim.toNat).foldl (fun dot d => fl.add dot (fl.mul (a d) (b d)))
    fl.zero)

/-! ## Block scores -/

def blockScore (query : List F) (key : Int → Option F)
    (actualTokens qHeads kvHeads headDim : Int) (scale : F) : Option F := do
  let gqaRatio := if kvHeads > 0 then qHeads.tdiv kvHeads else 1
  let kvStride ← intMul kvHeads headDim
  (List.range actualTokens.toNat).foldlM (fun best t => do
    let kToken ← intMul t kvStride
    (List.range qHeads.toNat).foldlM (fun (best : F) (qh : Nat) => do
      if gqaRatio = 0 then none
      let kh := (qh : Int).tdiv gqaRatio
      let qVec ← intMul qh headDim
      let kVec ← intMul kh headDim
      let dot ← dotProduct fl headDim (fun d => queryElement query (qVec + d))
        (fun d => key (kToken + kVec + d))
      let scaledDot := fl.mul dot scale
      if fl.lt best scaledDot then some scaledDot else some best) best) fl.minScore

def computeBlockScoreGqa (query : List F) (kBlock : Nat → UInt8)
    (actualTokens qHeads kvHeads headDim : Int) (scale : F) : Option F :=
  blockScore fl query (floatKey fl kBlock) actualTokens qHeads kvHeads headDim scale

def computeBlockScoreGqaFp16 (query : List F) (kBlock : Nat → UInt8)
    (actualTokens qHeads kvHeads headDim : Int) (scale : F) : Option F :=
  blockScore fl query (halfKey fl kBlock) actualTokens qHeads kvHeads headDim scale

/-! ## The top-k list -/

/-- A `struct topk_resp_item` while its score is still a float. -/
structure TopItem (F : Type) where
  blockId : Nat
  score : F
  actualTokens : Nat

def TopItem.resp (item : TopItem F) : TopkRespItem :=
  ⟨item.blockId, fl.toBits item.score, item.actualTokens⟩

def emptyTop (effectiveK : Nat) : List (TopItem F) :=
  List.replicate effectiveK ⟨0, fl.minScore, 0⟩

/-- Where the search that starts at `pos` and walks towards the front stops. -/
def insertPos (items : List (TopItem F)) (score : F) : (pos : Nat) → Nat
  | 0 => 0
  | pos + 1 =>
      match items[pos]? with
      | some item => if fl.lt item.score score then insertPos items score pos else pos + 1
      | none => pos + 1

/-- Insert in place when the last item has a smaller score; the last item falls out. -/
def insertTop (items : List (TopItem F)) (new : TopItem F) : List (TopItem F) :=
  match items.getLast? with
  | some last =>
      if fl.lt last.score new.score then
        let pos := insertPos fl items new.score (items.length - 1)
        items.take pos ++ new :: (items.drop pos).dropLast
      else items
  | none => items

theorem insertPos_le (items : List (TopItem F)) (score : F) (pos : Nat) :
    insertPos fl items score pos ≤ pos := by
  induction pos with
  | zero => exact Nat.le_refl 0
  | succ pos ih =>
      unfold insertPos
      split
      · split
        · omega
        · exact Nat.le_refl _
      · exact Nat.le_refl _

@[simp] theorem length_emptyTop (effectiveK : Nat) :
    (emptyTop fl effectiveK).length = effectiveK := List.length_replicate

@[simp] theorem length_insertTop (items : List (TopItem F)) (new : TopItem F) :
    (insertTop fl items new).length = items.length := by
  unfold insertTop
  split
  · rename_i last hlast
    have hne : items ≠ [] := by
      intro h
      rw [h] at hlast
      cases hlast
    have hpos := List.length_pos_of_ne_nil hne
    have hle := insertPos_le fl items new.score (items.length - 1)
    split
    · simp only [List.length_append, List.length_take, List.length_cons, List.length_dropLast,
        List.length_drop]
      omega
    · rfl
  · rfl

end

end AiSsd.Nvme
