import AiSsd.PyErr

/-!
# Tensor-to-storage mapping

`DeterministicTensorMapper` places a block of a layer and head on a channel, die and
plane, and at a logical block address, in one of two modes. Any other mode raises.
-/

namespace AiSsd.Storage

/-- The two modes the mapper knows and every other string it can be given. -/
inductive MappingMode where
  | conventional
  | tensorAware
  | other (name : String)
deriving Repr, DecidableEq

structure TensorCoordinate where
  layerId : Nat
  headId : Nat
  tokenIdx : Nat
  tokensPerBlock : Nat
  blockId : Option Nat
  blocksPerHead : Nat
deriving Repr, DecidableEq

namespace TensorCoordinate

/-- A positive token index decides; otherwise the block id, otherwise block zero. -/
def tokenBlockIdx (c : TensorCoordinate) : Nat :=
  if c.tokenIdx > 0 then c.tokenIdx / max 1 c.tokensPerBlock
  else
    match c.blockId with
    | some b => if c.blocksPerHead > 0 then b % c.blocksPerHead else c.tokenIdx / max 1 c.tokensPerBlock
    | none => c.tokenIdx / max 1 c.tokensPerBlock

end TensorCoordinate

/-- The flash geometry and the model it maps. All counts of the geometry are positive. -/
structure DeterministicTensorMapper where
  channels : Nat
  diesPerChannel : Nat
  planesPerDie : Nat
  blocksPerPlane : Nat
  pagesPerBlock : Nat
  sectorSizeBytes : Nat
  maxTokensPerHead : Nat
  numLayers : Nat
  numHeads : Nat
  channels_pos : 0 < channels
  dies_pos : 0 < diesPerChannel
  planes_pos : 0 < planesPerDie
  blocks_pos : 0 < blocksPerPlane
  pages_pos : 0 < pagesPerBlock

structure LBAAddress where
  lba : Nat
  sectorSizeBytes : Nat
  mode : MappingMode
deriving Repr, DecidableEq

structure NANDPhysicalCoordinate (channels : Nat) where
  channel : Fin channels
  die : Nat
  plane : Nat
  block : Nat
  page : Nat
deriving Repr, DecidableEq

namespace DeterministicTensorMapper

variable (mapper : DeterministicTensorMapper)

def blocksPerHead : Nat := mapper.maxTokensPerHead / 16

def totalDeviceBlocks : Nat :=
  mapper.channels * mapper.diesPerChannel * mapper.planesPerDie * mapper.blocksPerPlane *
    mapper.pagesPerBlock

def unknownMode {α : Type} (name : String) : Except PyErr α :=
  .error (.valueError s!"Unknown mapping mode: {name}")

def stripedChannel (layer head bIdx : Nat) : Fin mapper.channels :=
  ⟨(layer + head + bIdx + bIdx / mapper.channels) % mapper.channels,
    Nat.mod_lt _ mapper.channels_pos⟩

def stripedDie (layer head bIdx : Nat) : Nat :=
  (layer + head / mapper.channels + bIdx / mapper.channels) % mapper.diesPerChannel

def tensorToLba (coord : TensorCoordinate) (mode : MappingMode) : Except PyErr LBAAddress :=
  let bIdx := coord.tokenBlockIdx
  let layer := coord.layerId
  let head := coord.headId
  match mode with
  | .conventional =>
      let globalHeadIdx := layer * mapper.numHeads + head
      let rawLba := globalHeadIdx * mapper.blocksPerHead + bIdx
      .ok ⟨rawLba % mapper.totalDeviceBlocks, mapper.sectorSizeBytes, .conventional⟩
  | .tensorAware =>
      let targetCh := mapper.stripedChannel layer head bIdx
      let targetDie := mapper.stripedDie layer head bIdx
      let stripeUnit := mapper.totalDeviceBlocks / (mapper.channels * mapper.diesPerChannel)
      let offsetInStripe :=
        ((layer * mapper.numHeads + head) * mapper.blocksPerHead + bIdx) % stripeUnit
      .ok ⟨(targetCh * mapper.diesPerChannel + targetDie) * stripeUnit + offsetInStripe,
        mapper.sectorSizeBytes, .tensorAware⟩
  | .other name => unknownMode name

/-- `counters` is `channel_counters`, empty when the caller passes none. -/
def tensorToNandPhysical (coord : TensorCoordinate) (mode : MappingMode)
    (counters : Option (Fin mapper.channels → Nat)) :
    Except PyErr (NANDPhysicalCoordinate mapper.channels) :=
  let bIdx := coord.tokenBlockIdx
  let layer := coord.layerId
  let head := coord.headId
  let counter := fun ch => (counters.map fun f => f ch).getD 0
  let place := fun ch die plane =>
    ({ channel := ch
       die := die
       plane := plane
       block := (counter ch / mapper.pagesPerBlock) % mapper.blocksPerPlane
       page := counter ch % mapper.pagesPerBlock } : NANDPhysicalCoordinate mapper.channels)
  match mode with
  | .conventional => .ok (place ⟨0, mapper.channels_pos⟩ 0 0)
  | .tensorAware =>
      .ok (place (mapper.stripedChannel layer head bIdx) (mapper.stripedDie layer head bIdx)
        ((bIdx / (mapper.channels * mapper.diesPerChannel)) % mapper.planesPerDie))
  | .other name => unknownMode name

/-- A mode the mapper knows never raises. -/
theorem tensorToNandPhysical_ok {mode : MappingMode} (h : ∀ name, mode ≠ .other name)
    (coord : TensorCoordinate) (counters : Option (Fin mapper.channels → Nat)) :
    ∃ nand, mapper.tensorToNandPhysical coord mode counters = .ok nand := by
  cases mode with
  | conventional => exact ⟨_, rfl⟩
  | tensorAware => exact ⟨_, rfl⟩
  | other name => exact absurd rfl (h name)

theorem tensorToLba_ok {mode : MappingMode} (h : ∀ name, mode ≠ .other name)
    (coord : TensorCoordinate) : ∃ addr, mapper.tensorToLba coord mode = .ok addr := by
  cases mode with
  | conventional => exact ⟨_, rfl⟩
  | tensorAware => exact ⟨_, rfl⟩
  | other name => exact absurd rfl (h name)

end DeterministicTensorMapper

end AiSsd.Storage
