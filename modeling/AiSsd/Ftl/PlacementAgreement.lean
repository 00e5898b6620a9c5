import AiSsd.Ftl.TensorAware
import AiSsd.Storage.LogicalAddress
import Mathlib.Data.Nat.ModEq

/-!
# Two tensor-aware placements

The mapper and the translation layer both stripe a block over channels, dies and planes. The
mapper counts the layer in for the channel and finds the token block by the tokens of a full
block; the translation layer leaves the layer out and divides by the tokens of the block at
hand. They agree when these two differences come to nothing in every remainder.
-/

namespace AiSsd.Ftl

open Lib Storage

/-- A block of a sequence cut into blocks of `tokensPerBlock` tokens. -/
structure SequenceBlock where
  layer : Nat
  head : Nat
  index : Nat
  tokensPerBlock : Nat
  tokenCount : Nat
  count_pos : 0 < tokenCount
  count_le : tokenCount ≤ tokensPerBlock

namespace SequenceBlock

variable (b : SequenceBlock)

def tokenStart : Nat := b.index * b.tokensPerBlock

def kvBlock (blockId : Int) : KVBlock :=
  ⟨blockId, b.layer, b.tokenStart, b.tokenCount, b.head, "SSD", none⟩

def coordinate (blocksPerHead : Nat) : TensorCoordinate :=
  ⟨b.layer, b.head, b.tokenStart, b.tokensPerBlock, none, blocksPerHead⟩

def ownIndex : Nat := b.tokenStart / b.tokenCount

end SequenceBlock

variable (mapper : DeterministicTensorMapper) (b : SequenceBlock)

def geometryOf : FtlGeometry where
  channels := mapper.channels
  diesPerChannel := mapper.diesPerChannel
  planesPerDie := mapper.planesPerDie
  blocksPerPlane := mapper.blocksPerPlane
  pagesPerBlock := mapper.pagesPerBlock
  channels_pos := mapper.channels_pos
  dies_pos := mapper.dies_pos
  planes_pos := mapper.planes_pos
  blocks_pos := mapper.blocks_pos
  pages_pos := mapper.pages_pos

/-- Whatever was allocated before and whatever the counters, the location that the block is
allocated is on the channel, die and plane that the mapper computes. -/
def PlacementsAgree : Prop :=
  ∀ (s : TensorAwareFtl (geometryOf mapper)) (blockId : Int) (blocksPerHead : Nat)
    (counters : Option (Fin mapper.channels → Nat)),
    ∃ (l : PhysicalLocation) (nand : NANDPhysicalCoordinate mapper.channels),
      (s.allocate (b.kvBlock blockId)).1 = .ok l.text ∧
      mapper.tensorToNandPhysical (b.coordinate blocksPerHead) .tensorAware counters = .ok nand ∧
      l.ch = nand.channel ∧ l.die = nand.die ∧ l.pl = nand.plane

/-- The layer and the two indices of the token block make no difference. -/
structure SameRemainders : Prop where
  channel : b.ownIndex + b.ownIndex / mapper.channels ≡
    b.layer + b.index + b.index / mapper.channels [MOD mapper.channels]
  die : b.ownIndex / mapper.channels ≡ b.index / mapper.channels [MOD mapper.diesPerChannel]
  plane : b.ownIndex / (mapper.channels * mapper.diesPerChannel) ≡
    b.index / (mapper.channels * mapper.diesPerChannel) [MOD mapper.planesPerDie]

variable {mapper b}

/-! ## The two indices -/

theorem tokenBlockIdx_kvBlock (blockId : Int) :
    TensorAwareFtl.tokenBlockIdx (b.kvBlock blockId) = b.ownIndex :=
  TensorAwareFtl.tokenBlockIdx_natCast b.count_pos ⟨rfl, rfl⟩

theorem tokenBlockIdx_coordinate (blocksPerHead : Nat) :
    (b.coordinate blocksPerHead).tokenBlockIdx = b.index := by
  have hpos := b.count_pos
  have hle := b.count_le
  have hmax : max 1 b.tokensPerBlock = b.tokensPerBlock := by omega
  have hindex : b.tokenStart / b.tokensPerBlock = b.index :=
    Nat.mul_div_cancel _ (by omega)
  simp [TensorCoordinate.tokenBlockIdx, SequenceBlock.coordinate, hmax, hindex]

theorem ownIndex_of_full (h : b.tokenCount = b.tokensPerBlock) : b.ownIndex = b.index := by
  have hpos := b.count_pos
  rw [SequenceBlock.ownIndex, SequenceBlock.tokenStart, h]
  exact Nat.mul_div_cancel _ (by omega)

theorem ownIndex_of_first (h : b.index = 0) : b.ownIndex = b.index := by
  simp [SequenceBlock.ownIndex, SequenceBlock.tokenStart, h]

/-! ## Agreement -/

theorem channelOf_kvBlock (blockId : Int) :
    (TensorAwareFtl.channelOf (geometryOf mapper) (b.kvBlock blockId) : Nat) =
      (b.head + b.ownIndex + b.ownIndex / mapper.channels) % mapper.channels :=
  TensorAwareFtl.channelOf_natCast _ rfl (tokenBlockIdx_kvBlock blockId)

theorem dieOf_kvBlock (blockId : Int) :
    TensorAwareFtl.dieOf (geometryOf mapper) (b.kvBlock blockId) =
      (b.layer + b.head / mapper.channels + b.ownIndex / mapper.channels) %
        mapper.diesPerChannel := by
  rw [TensorAwareFtl.dieOf, tokenBlockIdx_kvBlock, ← TensorAwareFtl.striped_natCast]
  simp [SequenceBlock.kvBlock, geometryOf]

theorem planeOf_kvBlock (blockId : Int) :
    TensorAwareFtl.planeOf (geometryOf mapper) (b.kvBlock blockId) =
      (b.ownIndex / (mapper.channels * mapper.diesPerChannel)) % mapper.planesPerDie := by
  rw [TensorAwareFtl.planeOf, tokenBlockIdx_kvBlock, ← TensorAwareFtl.striped_natCast]
  simp [geometryOf]

/-- A part that both sums have makes no difference to their remainders. -/
theorem add_mod_eq_iff (a x y n : Nat) : (a + x) % n = (a + y) % n ↔ x ≡ y [MOD n] :=
  ⟨Nat.ModEq.add_left_cancel' a, Nat.ModEq.add_left a⟩

theorem sameRemainders_iff (blockId : Int) (blocksPerHead : Nat) :
    SameRemainders mapper b ↔
      (TensorAwareFtl.channelOf (geometryOf mapper) (b.kvBlock blockId) : Nat) =
          mapper.stripedChannel b.layer b.head (b.coordinate blocksPerHead).tokenBlockIdx ∧
        TensorAwareFtl.dieOf (geometryOf mapper) (b.kvBlock blockId) =
          mapper.stripedDie b.layer b.head (b.coordinate blocksPerHead).tokenBlockIdx ∧
        TensorAwareFtl.planeOf (geometryOf mapper) (b.kvBlock blockId) =
          (b.coordinate blocksPerHead).tokenBlockIdx / (mapper.channels * mapper.diesPerChannel) %
            mapper.planesPerDie := by
  have hchannel : b.layer + b.head + b.index + b.index / mapper.channels =
      b.head + (b.layer + b.index + b.index / mapper.channels) := by omega
  rw [channelOf_kvBlock, dieOf_kvBlock, planeOf_kvBlock, tokenBlockIdx_coordinate]
  simp only [DeterministicTensorMapper.stripedChannel, DeterministicTensorMapper.stripedDie]
  rw [hchannel, Nat.add_assoc b.head, add_mod_eq_iff, add_mod_eq_iff]
  exact ⟨fun h => ⟨h.channel, h.die, h.plane⟩, fun h => ⟨h.1, h.2.1, h.2.2⟩⟩

theorem placementsAgree_iff_remainders :
    PlacementsAgree mapper b ↔ SameRemainders mapper b := by
  constructor
  · intro hagree
    obtain ⟨l, nand, htext, hnand, hch, hdie, hpl⟩ :=
      hagree (TensorAwareFtl.init (geometryOf mapper)) 0 0 none
    rw [sameRemainders_iff 0 0]
    obtain rfl := PhysicalLocation.text_injective (Except.ok.inj htext)
    cases hnand
    exact ⟨hch, hdie, hpl⟩
  · intro hsame s blockId blocksPerHead counters
    obtain ⟨hch, hdie, hpl⟩ := (sameRemainders_iff blockId blocksPerHead).mp hsame
    exact ⟨s.placement (b.kvBlock blockId), _, rfl, rfl, hch, hdie, hpl⟩

theorem sameRemainders_iff_dvd (h : b.ownIndex = b.index) :
    SameRemainders mapper b ↔ mapper.channels ∣ b.layer := by
  have hlayer : b.ownIndex + b.ownIndex / mapper.channels ≡
      b.layer + b.index + b.index / mapper.channels [MOD mapper.channels] ↔
        mapper.channels ∣ b.layer := by
    have hsum : b.layer + b.index + b.index / mapper.channels =
        b.index + b.index / mapper.channels + b.layer := by omega
    rw [h, hsum, Nat.ModEq.comm, ← Nat.modEq_zero_iff_dvd]
    exact add_mod_eq_iff _ b.layer 0 _
  constructor
  · intro hsame
    exact hlayer.mp hsame.channel
  · intro hdvd
    refine ⟨hlayer.mpr hdvd, ?_, ?_⟩ <;> rw [h]

/-- The two placements of a block agree exactly when their remainders do; for a full block, or
the first of a sequence, exactly when the number of channels divides the layer. -/
theorem placements_agree_iff (mapper : DeterministicTensorMapper) (b : SequenceBlock) :
    (PlacementsAgree mapper b ↔ SameRemainders mapper b) ∧
      (b.tokenCount = b.tokensPerBlock ∨ b.index = 0 →
        (PlacementsAgree mapper b ↔ mapper.channels ∣ b.layer)) := by
  refine ⟨placementsAgree_iff_remainders, fun h => ?_⟩
  have hindex : b.ownIndex = b.index := h.elim ownIndex_of_full ownIndex_of_first
  rw [placementsAgree_iff_remainders, sameRemainders_iff_dvd hindex]

/-- The first full block of layer 1: channel 0 for the one, channel 1 for the other. -/
theorem second_layer_placed_apart :
    ¬ PlacementsAgree DeterministicTensorMapper.defaultMapper
      ⟨1, 0, 0, 16, 16, by decide, by decide⟩ := by
  intro hagree
  obtain ⟨l, nand, htext, hnand, hch, -, -⟩ := hagree (TensorAwareFtl.init _) 0 0 none
  obtain rfl := PhysicalLocation.text_injective (Except.ok.inj htext)
  cases hnand
  exact absurd hch (by decide)

end AiSsd.Ftl
