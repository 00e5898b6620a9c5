import AiSsd.Ftl.Tables
import Mathlib.Data.Rat.Defs

/-!
# KV blocks

The block description that the engine, the caches, the trace tools and the translation
layers exchange. Sizes follow from the token count, the heads, the head dimension and the
element type.
-/

namespace AiSsd.Schemas

open Ftl

/-- A character in upper case. Outside ASCII these are the ones that become ASCII letters; the
others stay as they are, and so compare unequal to every ASCII word as their upper case does. -/
def upperChar : Char → List Char
  | 'ı' => ['I']
  | 'ſ' => ['S']
  | 'ß' => ['S', 'S']
  | 'ﬀ' => ['F', 'F']
  | 'ﬁ' => ['F', 'I']
  | 'ﬂ' => ['F', 'L']
  | 'ﬃ' => ['F', 'F', 'I']
  | 'ﬄ' => ['F', 'F', 'L']
  | 'ﬅ' => ['S', 'T']
  | 'ﬆ' => ['S', 'T']
  | c => [c.toUpper]

/-- `s.upper()`. -/
def upper (s : String) : String := String.ofList (s.toList.flatMap upperChar)

inductive StorageTier where
  | gpu
  | dram
  | ssd
deriving Repr, DecidableEq

def StorageTier.value : StorageTier → String
  | .gpu => "GPU"
  | .dram => "DRAM"
  | .ssd => "SSD"

structure KVBlock where
  blockId : Int
  layerId : Int
  tokenStart : Int
  tokenCount : Int
  kvHeadStart : Int
  kvHeadCount : Int
  headDim : Int
  dtype : String
  keySizeBytes : Int
  valueSizeBytes : Int
  storageTier : StorageTier
  hotness : Rat
  physicalLocation : Option Text
deriving DecidableEq

namespace KVBlock

def totalSizeBytes (b : KVBlock) : Int := b.keySizeBytes + b.valueSizeBytes

def ftl (b : KVBlock) : Ftl.KVBlock where
  blockId := b.blockId
  layerId := b.layerId
  tokenStart := b.tokenStart
  tokenCount := b.tokenCount
  kvHeadStart := b.kvHeadStart
  storageTier := b.storageTier.value
  physicalLocation := b.physicalLocation

/-- Bytes of one element; what is neither FP32 nor FP16 takes one. -/
def bytesPerElem (dtype : String) : Int :=
  if upper dtype = "FP32" then 4 else if upper dtype = "FP16" then 2 else 1

def pageSize (tokenCount kvHeadCount headDim : Int) (dtype : String) : Int :=
  let calcPageSize := tokenCount * kvHeadCount * headDim * bytesPerElem dtype
  if tokenCount = 0 then 0 else if calcPageSize > 0 then calcPageSize else 4096

def createDefault (blockId layerId tokenStart tokenCount kvHeadStart kvHeadCount headDim : Int)
    (dtype : String) (storageTier : StorageTier) (hotness : Rat) : KVBlock where
  blockId := blockId
  layerId := layerId
  tokenStart := tokenStart
  tokenCount := tokenCount
  kvHeadStart := kvHeadStart
  kvHeadCount := kvHeadCount
  headDim := headDim
  dtype := dtype
  keySizeBytes := pageSize tokenCount kvHeadCount headDim dtype
  valueSizeBytes := pageSize tokenCount kvHeadCount headDim dtype
  storageTier := storageTier
  hotness := hotness
  physicalLocation := none

theorem bytesPerElem_pos (dtype : String) : 0 < bytesPerElem dtype := by
  unfold bytesPerElem
  split
  · decide
  · split <;> decide

theorem pageSize_of_pos {tokenCount kvHeadCount headDim : Int} (htokens : 0 < tokenCount)
    (hheads : 0 < kvHeadCount) (hdim : 0 < headDim) (dtype : String) :
    pageSize tokenCount kvHeadCount headDim dtype =
      tokenCount * kvHeadCount * headDim * bytesPerElem dtype := by
  have hsize : 0 < tokenCount * kvHeadCount * headDim * bytesPerElem dtype :=
    Int.mul_pos (Int.mul_pos (Int.mul_pos htokens hheads) hdim) (bytesPerElem_pos dtype)
  unfold pageSize
  rw [if_neg (by omega), if_pos hsize]

end KVBlock

end AiSsd.Schemas
