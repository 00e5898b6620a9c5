import AiSsd.Ftl.Location
import AiSsd.Lib.Digits
import AiSsd.Storage.TensorMapping

/-!
# Distinct logical addresses

The mapper counts its blocks layer by layer, head by head. Conventional addresses are this
count, so that no two blocks of a model that fits the device share one. Tensor-aware
addresses put the count, reduced to the stripe, after the channel and die the coordinates
select: blocks of one channel and die collide when their counts agree in the stripe.
-/

namespace AiSsd.Storage.DeterministicTensorMapper

open Lib

variable (mapper : DeterministicTensorMapper)

/-- Given by a token index, sixteen tokens a block, within the model. -/
structure InModel (c : TensorCoordinate) : Prop where
  tokensPerBlock_eq : c.tokensPerBlock = 16
  blockId_eq : c.blockId = none
  layer_lt : c.layerId < mapper.numLayers
  head_lt : c.headId < mapper.numHeads
  block_lt : c.tokenBlockIdx < mapper.blocksPerHead

def modelIndex (c : TensorCoordinate) : Nat :=
  (c.layerId * mapper.numHeads + c.headId) * mapper.blocksPerHead + c.tokenBlockIdx

def stripeUnit : Nat := mapper.totalDeviceBlocks / (mapper.channels * mapper.diesPerChannel)

def FitsDevice : Prop :=
  mapper.numLayers * mapper.numHeads * mapper.blocksPerHead ≤ mapper.totalDeviceBlocks

instance : Decidable mapper.FitsDevice := Nat.decLe _ _

variable {mapper}

theorem InModel.modelIndex_lt {c : TensorCoordinate} (h : mapper.InModel c) :
    mapper.modelIndex c < mapper.numLayers * mapper.numHeads * mapper.blocksPerHead :=
  Digits.lt (Digits.lt h.layer_lt h.head_lt) h.block_lt

theorem modelIndex_eq_iff {c c' : TensorCoordinate} (h : mapper.InModel c)
    (h' : mapper.InModel c') :
    mapper.modelIndex c = mapper.modelIndex c' ↔
      c.layerId = c'.layerId ∧ c.headId = c'.headId ∧ c.tokenBlockIdx = c'.tokenBlockIdx := by
  unfold modelIndex
  rw [Digits.eq_iff h.block_lt h'.block_lt, Digits.eq_iff h.head_lt h'.head_lt, and_assoc]

theorem stripeUnit_eq :
    mapper.stripeUnit = mapper.planesPerDie * mapper.blocksPerPlane * mapper.pagesPerBlock := by
  have hdies := Nat.mul_pos mapper.channels_pos mapper.dies_pos
  have htotal : mapper.totalDeviceBlocks = mapper.channels * mapper.diesPerChannel *
      (mapper.planesPerDie * mapper.blocksPerPlane * mapper.pagesPerBlock) := by
    simp only [totalDeviceBlocks, Nat.mul_assoc]
  rw [stripeUnit, htotal, Nat.mul_div_cancel_left _ hdies]

theorem stripeUnit_pos : 0 < mapper.stripeUnit := by
  rw [stripeUnit_eq]
  exact Nat.mul_pos (Nat.mul_pos mapper.planes_pos mapper.blocks_pos) mapper.pages_pos

theorem totalDeviceBlocks_eq :
    mapper.totalDeviceBlocks = mapper.channels * mapper.diesPerChannel * mapper.stripeUnit := by
  simp only [totalDeviceBlocks, stripeUnit_eq, Nat.mul_assoc]

variable (mapper) in
theorem stripedDie_lt (layer head bIdx : Nat) :
    mapper.stripedDie layer head bIdx < mapper.diesPerChannel :=
  Nat.mod_lt _ mapper.dies_pos

theorem lba_conventional (c : TensorCoordinate) :
    (mapper.tensorToLba c .conventional).map LBAAddress.lba =
      .ok (mapper.modelIndex c % mapper.totalDeviceBlocks) := rfl

/-- The conventional address of a block of a model that fits is the count itself. -/
theorem lba_conventional_of_fits (hfits : mapper.FitsDevice) {c : TensorCoordinate}
    (h : mapper.InModel c) :
    (mapper.tensorToLba c .conventional).map LBAAddress.lba = .ok (mapper.modelIndex c) := by
  rw [lba_conventional, Nat.mod_eq_of_lt (Nat.lt_of_lt_of_le h.modelIndex_lt hfits)]

theorem lba_tensorAware (c : TensorCoordinate) :
    (mapper.tensorToLba c .tensorAware).map LBAAddress.lba =
      .ok ((mapper.stripedChannel c.layerId c.headId c.tokenBlockIdx * mapper.diesPerChannel +
        mapper.stripedDie c.layerId c.headId c.tokenBlockIdx) * mapper.stripeUnit +
          mapper.modelIndex c % mapper.stripeUnit) := rfl

variable (mapper) in
/-- A tensor-aware address lies on the device, in the stripe of the channel and the die that the
block is placed on, whatever the counters. -/
theorem lba_in_stripe_of_placement (c : TensorCoordinate)
    (counters : Option (Fin mapper.channels → Nat)) :
    ∃ addr nand, mapper.tensorToLba c .tensorAware = .ok addr ∧
      mapper.tensorToNandPhysical c .tensorAware counters = .ok nand ∧
      addr.lba < mapper.totalDeviceBlocks ∧
      addr.lba / mapper.stripeUnit = nand.channel * mapper.diesPerChannel + nand.die := by
  have hoffset : mapper.modelIndex c % mapper.stripeUnit < mapper.stripeUnit :=
    Nat.mod_lt _ stripeUnit_pos
  have hdie := mapper.stripedDie_lt c.layerId c.headId c.tokenBlockIdx
  have hstripe := Digits.lt (mapper.stripedChannel c.layerId c.headId c.tokenBlockIdx).isLt hdie
  refine ⟨_, _, rfl, rfl, ?_, ?_⟩
  · exact Nat.lt_of_lt_of_eq (Digits.lt hstripe hoffset) totalDeviceBlocks_eq.symm
  · exact (Digits.div_mod _ hoffset).1

variable (mapper) in
/-- Equal remainders by the channels, by the dies and by the stripe. -/
structure SameStripe (c c' : TensorCoordinate) : Prop where
  channel :
    (c.layerId + c.headId + c.tokenBlockIdx + c.tokenBlockIdx / mapper.channels) %
        mapper.channels =
      (c'.layerId + c'.headId + c'.tokenBlockIdx + c'.tokenBlockIdx / mapper.channels) %
        mapper.channels
  die :
    (c.layerId + c.headId / mapper.channels + c.tokenBlockIdx / mapper.channels) %
        mapper.diesPerChannel =
      (c'.layerId + c'.headId / mapper.channels + c'.tokenBlockIdx / mapper.channels) %
        mapper.diesPerChannel
  offset : mapper.modelIndex c % mapper.stripeUnit = mapper.modelIndex c' % mapper.stripeUnit

theorem lba_tensorAware_eq_iff (c c' : TensorCoordinate) :
    (mapper.tensorToLba c .tensorAware).map LBAAddress.lba =
        (mapper.tensorToLba c' .tensorAware).map LBAAddress.lba ↔
      mapper.SameStripe c c' := by
  rw [lba_tensorAware, lba_tensorAware, Except.ok.injEq,
    Digits.eq_iff (Nat.mod_lt _ stripeUnit_pos) (Nat.mod_lt _ stripeUnit_pos),
    Digits.eq_iff (mapper.stripedDie_lt _ _ _) (mapper.stripedDie_lt _ _ _)]
  constructor
  · rintro ⟨⟨hch, hdie⟩, hoffset⟩
    exact ⟨hch, hdie, hoffset⟩
  · rintro ⟨hch, hdie, hoffset⟩
    exact ⟨⟨hch, hdie⟩, hoffset⟩

/-- Two different blocks of a model that fits get different addresses in a mode the mapper
knows, unless the mode is tensor-aware and they fall on one place of the stripe. -/
theorem lba_differ_iff (hfits : mapper.FitsDevice) {mode : MappingMode}
    (hmode : ∀ name, mode ≠ .other name) {c c' : TensorCoordinate} (h : mapper.InModel c)
    (h' : mapper.InModel c')
    (hne : (c.layerId, c.headId, c.tokenBlockIdx) ≠ (c'.layerId, c'.headId, c'.tokenBlockIdx)) :
    (mapper.tensorToLba c mode).map LBAAddress.lba ≠
        (mapper.tensorToLba c' mode).map LBAAddress.lba ↔
      mode = .conventional ∨ ¬ mapper.SameStripe c c' := by
  cases mode with
  | other name => exact absurd rfl (hmode name)
  | tensorAware => simp [lba_tensorAware_eq_iff]
  | conventional =>
      rw [lba_conventional_of_fits hfits h, lba_conventional_of_fits hfits h']
      refine iff_of_true ?_ (Or.inl rfl)
      intro heq
      obtain ⟨hl, hh, hb⟩ := (modelIndex_eq_iff h h').mp (Except.ok.inj heq)
      exact hne (by rw [hl, hh, hb])

/-! ## The default mapper -/

/-- Eight channels of four dies, 24 layers of two heads, 2048 blocks a head. -/
def defaultMapper : DeterministicTensorMapper where
  channels := 8
  diesPerChannel := 4
  planesPerDie := 2
  blocksPerPlane := 64
  pagesPerBlock := 128
  sectorSizeBytes := 4096
  maxTokensPerHead := 32768
  numLayers := 24
  numHeads := 2
  channels_pos := Ftl.FtlGeometry.default_channels
  dies_pos := Ftl.FtlGeometry.default_dies
  planes_pos := Ftl.FtlGeometry.default_planes
  blocks_pos := Ftl.FtlGeometry.default_blocks
  pages_pos := Ftl.FtlGeometry.default_pages

def firstToken (layer : Nat) : TensorCoordinate := ⟨layer, 0, 0, 16, none, 44⟩

theorem inModel_firstToken {layer : Nat} (h : layer < 24) :
    defaultMapper.InModel (firstToken layer) := by
  refine ⟨rfl, rfl, h, Nat.zero_lt_two, ?_⟩
  have hblock : (firstToken layer).tokenBlockIdx = 0 := by
    simp [firstToken, TensorCoordinate.tokenBlockIdx]
  rw [hblock]
  decide

theorem lba_differ_iff_default :
    (defaultMapper.tensorToLba (firstToken 0) .tensorAware).map LBAAddress.lba ≠
        (defaultMapper.tensorToLba (firstToken 1) .tensorAware).map LBAAddress.lba ↔
      MappingMode.tensorAware = .conventional ∨
        ¬ defaultMapper.SameStripe (firstToken 0) (firstToken 1) :=
  lba_differ_iff (by decide) (fun _ => by simp) (inModel_firstToken (by decide))
    (inModel_firstToken (by decide)) (by decide)

/-- Layers 0 and 8 of the default model share their addresses. -/
theorem layers_share_an_lba :
    defaultMapper.FitsDevice ∧ defaultMapper.InModel (firstToken 0) ∧
      defaultMapper.InModel (firstToken 8) ∧
      (firstToken 0).layerId ≠ (firstToken 8).layerId ∧
      (defaultMapper.tensorToLba (firstToken 0) .tensorAware).map LBAAddress.lba = .ok 0 ∧
      (defaultMapper.tensorToLba (firstToken 8) .tensorAware).map LBAAddress.lba = .ok 0 :=
  ⟨by decide, inModel_firstToken (by decide), inModel_firstToken (by decide), by decide, rfl, rfl⟩

end AiSsd.Storage.DeterministicTensorMapper
