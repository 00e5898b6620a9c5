import AiSsd.NativeKernel.InstorageAttention
import AiSsd.Numpy.NDArray

/-!
# The ctypes binding

`NativeCKernel` hands arrays to the C kernel as raw pointers and their sizes as C ints, and
looks the indices it gets back up in its block list. Arrays that are converted on the way are
given by their `float32` elements; the key pages of the grouped-query filter are passed as
they are, whatever their dtype.
-/

namespace AiSsd.NativeKernel

open Lib Lib.LittleEndian Numpy
open Nvme (FloatOps toInt)

variable {F : Type} (fl : FloatOps F) (invSqrt : Int → F)

/-- `ctypes.c_int`, which keeps the low 32 bits. -/
def cInt (n : Int) : Int := toInt (n % 2 ^ 32).toNat

theorem cInt_of_lt {n : Nat} (h : n < 2 ^ 31) : cInt n = n := by
  unfold cInt toInt
  rw [if_pos] <;> omega

/-- `data_as(POINTER(c_float))`: the bytes of an array read as floats. -/
def dataAsFloats (data : Bytes) : FloatPtr F := fun i =>
  if 0 ≤ i ∧ 4 * i.toNat + 4 ≤ data.length then
    some (fl.ofBits (ofBytes ((data.drop (4 * i.toNat)).take 4)))
  else none

/-- An array by its elements as `float32`. -/
structure FloatArray (F : Type) where
  shape : List Nat
  elems : List F
  size_eq : elems.length = shape.prod

/-- An entry of `layer_blocks`. -/
structure LayerBlock (F : Type) where
  blockId : Int
  k : FloatArray F
  v : FloatArray F

/-- `np.stack`, as one run of elements. -/
def stack : List (FloatArray F) → Except PyErr (List F)
  | [] => .error (.valueError "need at least one array to stack")
  | a :: rest =>
      if rest.all fun b => b.shape = a.shape then .ok ((a :: rest).flatMap FloatArray.elems)
      else .error (.valueError "all input arrays must have the same shape")

structure NativeCKernel where
  libPath : String
  loaded : Bool
  hasGqaAvx2 : Bool

def checked (message : String) : Except Int (TopArrays F) → Except PyErr (TopArrays F)
  | .error status => .error (.runtimeErrorOf (message ++ toString status))
  | .ok out => .ok out

namespace NativeCKernel

variable (self : NativeCKernel)

/-- `compute_topk` up to `out_indices` and `out_scores`. -/
def callTopk (query : FloatArray F) (layerBlocks : List (LayerBlock F)) (topK : Int) :
    Option (Except PyErr (TopArrays F)) :=
  if self.loaded = false then
    some (.error (.runtimeErrorOf
      ("Native C kernel library is not loaded from " ++ self.libPath)))
  else
    let numBlocks := layerBlocks.length
    let effectiveK := min topK numBlocks
    match query.shape with
    | [heads, headDim] =>
        match layerBlocks.head?.bind fun entry => entry.k.shape.head? with
        | none => some (.error .indexError)
        | some tokensPerBlock =>
            match stack (layerBlocks.map LayerBlock.k) with
            | .error err => some (.error err)
            | .ok kContiguous =>
                if effectiveK < 0 then
                  some (.error (.valueError "negative dimensions are not allowed"))
                else
                  (instorageTopkFilter fl (ptrOf query.elems) (ptrOf kContiguous) (cInt numBlocks)
                    (cInt tokensPerBlock) (cInt heads) (cInt headDim) (cInt effectiveK)
                    (invSqrt headDim)).map (checked "C kernel execution failed with code ")
    | _ =>
        some (.error (.valueError
          (if query.shape.length < 2 then
            "not enough values to unpack (expected 2, got " ++ toString query.shape.length ++ ")"
          else "too many values to unpack (expected 2)")))

def computeTopk (query : FloatArray F) (layerBlocks : List (LayerBlock F)) (topK : Int) :
    Option (Except PyErr (List Int × List F × List F)) :=
  (callTopk fl invSqrt self query layerBlocks topK).map fun called => do
    let out ← called
    let winners ← out.indices.mapM (pyIndex layerBlocks)
    if winners.any fun entry => entry.blockId < -2 ^ 31 ∨ 2 ^ 31 ≤ entry.blockId then
      throw .overflowError
    let topkValues ← stack (winners.map LayerBlock.v)
    return (winners.map LayerBlock.blockId, topkValues, out.scores)

def computeTopkGqa (query : FloatArray F) (kBlocks : List NDArray) (actualTokens : List Int)
    (topK qHeads kvHeads headDim : Int) : Option (Except PyErr (TopArrays F)) :=
  if self.loaded = false ∨ self.hasGqaAvx2 = false then
    some (.error (.runtimeErrorOf "AVX2 GQA kernel not available in native library"))
  else
    let numBlocks := kBlocks.length
    if numBlocks = 0 then some (.ok ⟨[], []⟩)
    else
      let effectiveK := min topK numBlocks
      if headDim < 0 then some (.error (.valueError "math domain error"))
      else if headDim = 0 then some (.error .zeroDivisionError)
      -- a ctypes array takes no more values than it has cells; cells left over are 0
      else if numBlocks < actualTokens.length then some (.error .indexError)
      else if effectiveK < 0 then
        some (.error (.valueError "negative dimensions are not allowed"))
      else
        (instorageTopkFilterGqaAvx2 fl (ptrOf query.elems)
          (kBlocks.map fun b => dataAsFloats fl b.data)
          (actualTokens.map cInt ++ List.replicate (numBlocks - actualTokens.length) 0)
          (cInt numBlocks) (cInt qHeads) (cInt kvHeads) (cInt headDim) (cInt effectiveK)
          (invSqrt headDim)).map (checked "AVX2 GQA kernel failed with code ")

end NativeCKernel

end AiSsd.NativeKernel
