import AiSsd.Ftl.TensorAware
import AiSsd.Lib.Balance
import Mathlib.Data.Nat.ModEq

/-!
# Channel balance

Within a window of as many blocks as channels, the channel moves on by one from block to block,
and from window to window by one more. So blocks in sequence, of one head or of as many heads
as fill whole windows, load the channels evenly, and a stride of the number of channels does
not keep to one channel.
-/

namespace AiSsd.Ftl

open Lib Lib.Balance

/-! ## Batches -/

inductive BatchLayout where
  | tokenMajor
  | headMajor
deriving Repr, DecidableEq

/-- Without heads `generate_kv_blocks` divides by zero. -/
structure MockKVEngine where
  heads : Nat
  blockIdCounter : Nat
  heads_pos : 0 < heads

namespace MockKVEngine

variable (engine : MockKVEngine)

/-- The `i`-th block of a batch. -/
def blockAt (layerId : Int) (tokenCount : Nat) (layout : BatchLayout) (blocksPerHead i : Nat) :
    KVBlock :=
  let (headId, tokenBlockIdx) :=
    match layout with
    | .headMajor => ((i / blocksPerHead) % engine.heads, i % blocksPerHead)
    | .tokenMajor => (i % engine.heads, i / engine.heads)
  { blockId := (engine.blockIdCounter + i : Nat)
    layerId := layerId
    tokenStart := (tokenBlockIdx * tokenCount : Nat)
    tokenCount := tokenCount
    kvHeadStart := headId
    storageTier := "GPU"
    physicalLocation := none }

def generateKvBlocks (numBlocks : Nat) (layerId : Int) (tokenCount : Nat) (layout : BatchLayout) :
    List KVBlock × MockKVEngine :=
  let blocksPerHead := max 1 (numBlocks / engine.heads)
  ((List.range numBlocks).map (engine.blockAt layerId tokenCount layout blocksPerHead),
    { engine with blockIdCounter := engine.blockIdCounter + numBlocks })

end MockKVEngine

/-- The block of a head with this index, in blocks of `tokenCount` tokens. -/
def headBlock (layerId : Int) (head tokenCount idx : Nat) : KVBlock :=
  ⟨idx, layerId, (idx * tokenCount : Nat), tokenCount, head, "GPU", none⟩

namespace TensorAwareFtl

variable (geo : FtlGeometry)

/-- How many blocks a fresh drive has put on the channel when all are allocated. -/
def channelLoad (blocks : List KVBlock) (ch : Fin geo.channels) : Nat :=
  ((machine geo).exec (init geo) blocks).channelCounters ch

def EvenlyLoaded (blocks : List KVBlock) : Prop :=
  ∀ ch ch', channelLoad geo blocks ch ≤ channelLoad geo blocks ch' + 1

/-- The blocks of a head in sequence, the prefixes of a token-major batch whose heads are a
multiple of the channels, and blocks of a head that are `channels` apart. -/
structure BalancesChannels (tokenCount : Nat) : Prop where
  singleHead : ∀ (layerId : Int) (head n : Nat),
    EvenlyLoaded geo ((List.range n).map (headBlock layerId head tokenCount))
  tokenMajor : ∀ (engine : MockKVEngine) (numBlocks : Nat) (layerId : Int) (n : Nat),
    geo.channels ∣ engine.heads →
      EvenlyLoaded geo
        ((engine.generateKvBlocks numBlocks layerId tokenCount .tokenMajor).1.take n)
  strided : ∀ (layerId : Int) (head r q : Nat), Function.Injective fun i : Fin geo.channels =>
    channelOf geo (headBlock layerId head tokenCount ((q + i) * geo.channels + r))

variable {geo}

/-! ## Loads -/

theorem channelCounters_exec (s : TensorAwareFtl geo) (blocks : List KVBlock)
    (ch : Fin geo.channels) :
    ((machine geo).exec s blocks).channelCounters ch =
      s.channelCounters ch + onChannel ch blocks := by
  induction blocks generalizing s with
  | nil => rfl
  | cons block blocks ih =>
      rw [Machine.exec_cons, ih, onChannel, onChannel, List.countP_cons]
      simp only [machine, allocate, Function.update_apply]
      by_cases hch : channelOf geo block = ch
      · simp [hch]
        omega
      · simp [hch, Ne.symm hch]

/-- The load of blocks that are given by their place in the sequence. -/
theorem channelLoad_map (blockAt : Nat → KVBlock) (n : Nat) (ch : Fin geo.channels) :
    channelLoad geo ((List.range n).map blockAt) ch =
      load (fun i => channelOf geo (blockAt i)) n ch := by
  rw [channelLoad, channelCounters_exec, onChannel, List.countP_map]
  simp [init, load, Nat.count, Function.comp_def]

theorem evenlyLoaded_of_windows {blockAt : Nat → KVBlock}
    (h : WindowsApart fun i => channelOf geo (blockAt i)) (n : Nat) :
    EvenlyLoaded geo ((List.range n).map blockAt) := by
  intro ch ch'
  rw [channelLoad_map, channelLoad_map]
  exact load_le_succ h n ch ch'

/-! ## Windows -/

/-- Steps below the number of channels go to different channels. -/
theorem eq_of_mod_eq {c i j : Nat} (base : Nat) (hi : i < c) (hj : j < c)
    (h : (base + i) % c = (base + j) % c) : i = j := by
  have hmod := Nat.ModEq.add_left_cancel' base h
  rwa [Nat.ModEq, Nat.mod_eq_of_lt hi, Nat.mod_eq_of_lt hj] at hmod

theorem channelOf_headBlock {tokenCount : Nat} (htokens : 0 < tokenCount) (layerId : Int)
    (head idx : Nat) :
    (channelOf geo (headBlock layerId head tokenCount idx) : Nat) =
      (head + idx + idx / geo.channels) % geo.channels := by
  apply channelOf_natCast geo rfl
  rw [tokenBlockIdx_natCast htokens ⟨rfl, rfl⟩, Nat.mul_div_cancel _ htokens]

theorem windowsApart_head {tokenCount : Nat} (htokens : 0 < tokenCount) (layerId : Int)
    (head : Nat) :
    WindowsApart fun i => channelOf geo (headBlock layerId head tokenCount i) := by
  intro q i j hi hj hch
  have hval := congrArg Fin.val hch
  simp only [channelOf_headBlock htokens, (Digits.div_mod q hi).1, (Digits.div_mod q hj).1] at hval
  apply eq_of_mod_eq (head + q * geo.channels + q) hi hj
  have hsum : ∀ k, head + q * geo.channels + q + k = head + (q * geo.channels + k) + q := by omega
  rw [hsum, hsum]
  exact hval

/-- In a window of a token-major batch the head moves on and the token block stays. -/
theorem channelOf_tokenMajor {tokenCount : Nat} (htokens : 0 < tokenCount) {engine : MockKVEngine}
    {k : Nat} (hheads : engine.heads = geo.channels * k) (layerId : Int) (blocksPerHead q : Nat)
    {i : Nat} (hi : i < geo.channels) :
    (channelOf geo (engine.blockAt layerId tokenCount .tokenMajor blocksPerHead
      (q * geo.channels + i)) : Nat) =
        (geo.channels * (q % k) + q / k + q / k / geo.channels + i) % geo.channels := by
  obtain ⟨hdiv, hmod⟩ := Digits.div_mod q hi
  have hhead : (q * geo.channels + i) % engine.heads = i + geo.channels * (q % k) := by
    rw [hheads, Nat.mod_mul, hdiv, hmod]
  have hidx : (q * geo.channels + i) / engine.heads = q / k := by
    rw [hheads, ← Nat.div_div_eq_div_mul, hdiv]
  have hblock : tokenBlockIdx (engine.blockAt layerId tokenCount .tokenMajor blocksPerHead
      (q * geo.channels + i)) = (q / k : Nat) := by
    rw [tokenBlockIdx_natCast htokens ⟨rfl, rfl⟩, Nat.mul_div_cancel _ htokens, hidx]
  rw [channelOf_natCast geo rfl hblock, hhead]
  congr 1
  omega

theorem windowsApart_tokenMajor {tokenCount : Nat} (htokens : 0 < tokenCount)
    {engine : MockKVEngine} (hheads : geo.channels ∣ engine.heads) (layerId : Int)
    (blocksPerHead : Nat) :
    WindowsApart fun i =>
      channelOf geo (engine.blockAt layerId tokenCount .tokenMajor blocksPerHead i) := by
  obtain ⟨k, hk⟩ := hheads
  intro q i j hi hj hch
  have hval := congrArg Fin.val hch
  rw [channelOf_tokenMajor htokens hk layerId blocksPerHead q hi,
    channelOf_tokenMajor htokens hk layerId blocksPerHead q hj] at hval
  exact eq_of_mod_eq _ hi hj hval

/-- A stride of the number of channels moves the channel on by one. -/
theorem strided_injective {tokenCount : Nat} (htokens : 0 < tokenCount) (layerId : Int)
    (head r q : Nat) : Function.Injective fun i : Fin geo.channels =>
      channelOf geo (headBlock layerId head tokenCount ((q + i) * geo.channels + r)) := by
  intro i j hch
  have hval := congrArg Fin.val hch
  have hmoves : ∀ k, (head + ((q + k) * geo.channels + r) +
      ((q + k) * geo.channels + r) / geo.channels) % geo.channels =
        (head + r + q + r / geo.channels + k) % geo.channels := by
    intro k
    have hidx : ((q + k) * geo.channels + r) / geo.channels = q + k + r / geo.channels := by
      rw [Nat.mul_comm, Nat.mul_add_div geo.channels_pos]
    have hsum : head + ((q + k) * geo.channels + r) + (q + k + r / geo.channels) =
        head + r + q + r / geo.channels + k + (q + k) * geo.channels := by omega
    rw [hidx, hsum, Nat.add_mul_mod_self_right]
  simp only [channelOf_headBlock htokens, hmoves] at hval
  exact Fin.ext (eq_of_mod_eq _ i.isLt j.isLt hval)

/-! ## Balance -/

/-- Whatever the drive and the size of a block. -/
theorem balances_channels (geo : FtlGeometry) {tokenCount : Nat} (htokens : 0 < tokenCount) :
    BalancesChannels geo tokenCount where
  singleHead := fun layerId head n =>
    evenlyLoaded_of_windows (windowsApart_head htokens layerId head) n
  tokenMajor := by
    intro engine numBlocks layerId n hheads
    unfold MockKVEngine.generateKvBlocks
    dsimp only
    rw [← List.map_take, List.take_range]
    exact evenlyLoaded_of_windows (windowsApart_tokenMajor htokens hheads layerId _) _
  strided := strided_injective htokens

/-- Eight channels and blocks of 16 tokens. -/
theorem balances_channels_default : BalancesChannels
    ⟨8, 4, 2, 64, 128, by decide, by decide, by decide, by decide, by decide⟩ 16 :=
  balances_channels _ (by decide)

end TensorAwareFtl

end AiSsd.Ftl
