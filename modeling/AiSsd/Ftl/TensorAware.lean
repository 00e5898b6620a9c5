import AiSsd.Ftl.Tables
import AiSsd.Lib.Machine

/-!
# Tensor-aware allocation

`TensorAwareFTL` takes channel, die and plane from the coordinates of a block and the page
from a counter of the channel, which wraps. It never refuses; the tables stay inverse
exactly as long as no block is placed on the page of another one.
-/

namespace AiSsd.Ftl

open Lib

structure TensorAwareFtl (geo : FtlGeometry) extends BaseFtl where
  channelCounters : Fin geo.channels → Nat

namespace TensorAwareFtl

variable (geo : FtlGeometry)

def init : TensorAwareFtl geo := ⟨BaseFtl.empty, fun _ => 0⟩

/-- `token_start // max(1, token_count or 16)`. -/
def tokenBlockIdx (block : KVBlock) : Int :=
  block.tokenStart / max 1 (if block.tokenCount = 0 then 16 else block.tokenCount)

def striped (x : Int) (count : Nat) : Nat := (x % (count : Int)).toNat

theorem striped_lt (x : Int) {count : Nat} (h : 0 < count) : striped x count < count := by
  have hpos : (0 : Int) < count := Int.natCast_pos.mpr h
  have hlt := Int.emod_lt_of_pos x hpos
  have hnonneg := Int.emod_nonneg x (Int.ne_of_gt hpos)
  unfold striped
  omega

def channelOf (block : KVBlock) : Fin geo.channels :=
  let tokenBlockIdx := tokenBlockIdx block
  ⟨striped (block.kvHeadStart + tokenBlockIdx + tokenBlockIdx / geo.channels) geo.channels,
    striped_lt _ geo.channels_pos⟩

def dieOf (block : KVBlock) : Nat :=
  striped (block.layerId + block.kvHeadStart / geo.channels + tokenBlockIdx block / geo.channels)
    geo.diesPerChannel

def planeOf (block : KVBlock) : Nat :=
  striped (tokenBlockIdx block / ((geo.channels : Int) * geo.diesPerChannel)) geo.planesPerDie

/-! A block of natural coordinates. -/

theorem striped_natCast (x count : Nat) : striped (x : Int) count = x % count := by
  unfold striped
  omega

theorem tokenBlockIdx_natCast {block : KVBlock} {start count : Nat} (hcount : 0 < count)
    (hblock : block.tokenStart = start ∧ block.tokenCount = count) :
    tokenBlockIdx block = (start / count : Nat) := by
  have hmax : max 1 (if (count : Int) = 0 then 16 else (count : Int)) = count := by
    rw [if_neg (by omega)]
    omega
  unfold tokenBlockIdx
  rw [hblock.1, hblock.2, hmax, Int.natCast_ediv]

theorem channelOf_natCast {block : KVBlock} {head idx : Nat} (hhead : block.kvHeadStart = head)
    (hidx : tokenBlockIdx block = idx) :
    (channelOf geo block : Nat) = (head + idx + idx / geo.channels) % geo.channels := by
  unfold channelOf
  dsimp only
  rw [hhead, hidx, ← striped_natCast]
  simp

variable {geo} (s : TensorAwareFtl geo)

/-- The page the next block of these coordinates is placed on. -/
def placement (block : KVBlock) : PhysicalLocation :=
  let ch := channelOf geo block
  { ch := ch
    die := dieOf geo block
    pl := planeOf geo block
    blk := (s.channelCounters ch / geo.pagesPerBlock) % geo.blocksPerPlane
    pg := s.channelCounters ch % geo.pagesPerBlock }

def allocate (block : KVBlock) : Except PyErr Text × TensorAwareFtl geo :=
  let ch := channelOf geo block
  let loc := (s.placement block).text
  (.ok loc,
    { toBaseFtl := s.toBaseFtl.recordMapping block.blockId loc
      channelCounters := Function.update s.channelCounters ch (s.channelCounters ch + 1) })

def reset : TensorAwareFtl geo := init geo

theorem placement_within (block : KVBlock) : (s.placement block).Within geo :=
  ⟨(channelOf geo block).isLt, striped_lt _ geo.dies_pos, striped_lt _ geo.planes_pos,
    Nat.mod_lt _ geo.blocks_pos, Nat.mod_lt _ geo.pages_pos⟩

variable (geo) in
/-- Runs of `allocate`. -/
def machine : Machine (TensorAwareFtl geo) KVBlock (Except PyErr Text) where
  step := allocate

theorem answers_within (blocks : List KVBlock) : ∀ answer ∈ (machine geo).trace s blocks,
    ∃ l : PhysicalLocation, l.Within geo ∧ answer = .ok l.text := by
  induction blocks generalizing s with
  | nil =>
      intro answer hanswer
      cases hanswer
  | cons block blocks ih =>
      intro answer hanswer
      rcases List.mem_cons.mp hanswer with rfl | hrest
      · exact ⟨s.placement block, s.placement_within block, rfl⟩
      · exact ih (s.allocate block).2 answer hrest

/-! ## When the tables stay apart -/

/-- No two live blocks share a location, and every live block is found from its own. -/
structure KeepsApart (t : BaseFtl) : Prop where
  distinct : ∀ b b' loc, t.translate b = some loc → t.translate b' = some loc → b = b'
  returns : ∀ b loc, t.translate b = some loc → t.reverseTranslate loc = some b

theorem keepsApart_of_inverse {t : BaseFtl} (h : t.Inverse) : KeepsApart t :=
  ⟨fun _ _ _ hb hb' => h.unique hb hb', fun b loc => (h b loc).mp⟩

def Unshared (block : KVBlock) : Prop :=
  ∀ b, b ≠ block.blockId → s.translate b ≠ some (s.placement block).text

theorem unshared_of_keepsApart {block : KVBlock} (h : KeepsApart (s.allocate block).2.toBaseFtl) :
    s.Unshared block := by
  intro b hb hloc
  apply hb
  apply h.distinct b block.blockId (s.placement block).text
  · exact (BaseFtl.translate_recordMapping _ _ _ _).trans ((if_neg (Ne.symm hb)).trans hloc)
  · exact (BaseFtl.translate_recordMapping _ _ _ _).trans (if_pos rfl)

/-- The tables stay inverse under unshared placements, and only under them. -/
theorem keepsApart_iff_meets (blocks : List KVBlock) :
    (∀ pre, pre <+: blocks → KeepsApart ((machine geo).exec (init geo) pre).toBaseFtl) ↔
      (machine geo).Meets Unshared (init geo) blocks := by
  refine (machine geo).forall_prefix_iff_meets (I := fun s => s.toBaseFtl.Inverse)
    (fun _ => keepsApart_of_inverse) ?_ ?_ (init geo) blocks BaseFtl.inverse_empty
  · intro s block hinv hfree
    exact (BaseFtl.inverse_recordMapping_iff hinv _ _).mpr hfree
  · intro s block _ hnext
    exact s.unshared_of_keepsApart hnext

/-! ## While no counter has wrapped -/

/-- Every live block lies on the page its channel's counter had at some earlier time. -/
def Placed : Prop :=
  ∀ b loc, s.translate b = some loc → ∃ (l : PhysicalLocation) (ch : Fin geo.channels) (count : Nat),
    loc = l.text ∧ l.ch = ch ∧ count < s.channelCounters ch ∧
      l.blk = (count / geo.pagesPerBlock) % geo.blocksPerPlane ∧ l.pg = count % geo.pagesPerBlock

variable {s}

theorem Placed.allocate (h : s.Placed) (block : KVBlock) : (s.allocate block).2.Placed := by
  intro b loc hloc
  have hcount : ∀ ch, s.channelCounters ch ≤ (s.allocate block).2.channelCounters ch := by
    intro ch
    simp only [TensorAwareFtl.allocate, Function.update_apply]
    split
    · rename_i heq
      rw [heq]
      exact Nat.le_succ _
    · exact Nat.le_refl _
  rw [show (s.allocate block).2.translate b = _ from BaseFtl.translate_recordMapping _ _ _ _] at hloc
  split at hloc
  · cases hloc
    refine ⟨s.placement block, channelOf geo block, s.channelCounters (channelOf geo block), rfl,
      rfl, ?_, rfl, rfl⟩
    simp only [TensorAwareFtl.allocate, Function.update_self]
    exact Nat.lt_succ_self _
  · obtain ⟨l, ch, count, hl, hch, hlt, hblk, hpg⟩ := h b loc hloc
    exact ⟨l, ch, count, hl, hch, Nat.lt_of_lt_of_le hlt (hcount ch), hblk, hpg⟩

/-- Below the wrap, the counter of a channel names its page. -/
theorem Placed.unshared (h : s.Placed) {block : KVBlock}
    (hroom : s.channelCounters (channelOf geo block) < geo.pagesPerBlock * geo.blocksPerPlane) :
    s.Unshared block := by
  intro b _ hloc
  obtain ⟨l, ch, count, hl, hch, hlt, hblk, hpg⟩ := h b _ hloc
  obtain rfl := PhysicalLocation.text_injective hl
  have hch : channelOf geo block = ch := Fin.ext hch
  subst hch
  have hdiv : ∀ n < geo.pagesPerBlock * geo.blocksPerPlane,
      (n / geo.pagesPerBlock) % geo.blocksPerPlane = n / geo.pagesPerBlock := fun n hn =>
    Nat.mod_eq_of_lt (Nat.div_lt_of_lt_mul hn)
  simp only [placement] at hblk hpg
  rw [hdiv _ hroom, hdiv _ (hlt.trans hroom)] at hblk
  exact absurd (Nat.ext_div_mod hblk hpg) (Nat.ne_of_gt hlt)

def onChannel (ch : Fin geo.channels) (blocks : List KVBlock) : Nat :=
  blocks.countP fun block => channelOf geo block = ch

theorem meets_of_counts (h : s.Placed) (blocks : List KVBlock)
    (hroom : ∀ ch, s.channelCounters ch + onChannel ch blocks ≤
      geo.pagesPerBlock * geo.blocksPerPlane) : (machine geo).Meets Unshared s blocks := by
  induction blocks generalizing s with
  | nil => trivial
  | cons block blocks ih =>
      refine ⟨h.unshared ?_, ih (h.allocate block) ?_⟩
      · have hch := hroom (channelOf geo block)
        rw [onChannel, List.countP_cons_of_pos (by simp)] at hch
        omega
      · intro ch
        have hch := hroom ch
        rw [onChannel, List.countP_cons] at hch
        simp only [machine, TensorAwareFtl.allocate, Function.update_apply, onChannel]
        by_cases heq : channelOf geo block = ch
        · subst heq
          simp only [decide_true, if_true] at hch ⊢
          omega
        · rw [if_neg (Ne.symm heq)]
          simp only [heq, decide_false, Bool.false_eq_true, if_false] at hch
          omega

variable (geo) in
/-- Every allocation of a run is given a page of the drive. In every state of the run live blocks
are apart and found from their locations exactly when no block is placed on another's page, and
so at least while no channel has had more blocks than one plane of it has pages. -/
theorem keeps_apart_iff (blocks : List KVBlock) :
    (∀ answer ∈ (machine geo).trace (init geo) blocks,
        ∃ l : PhysicalLocation, l.Within geo ∧ answer = .ok l.text) ∧
      ((∀ pre, pre <+: blocks → KeepsApart ((machine geo).exec (init geo) pre).toBaseFtl) ↔
        (machine geo).Meets Unshared (init geo) blocks) ∧
      ((∀ ch : Fin geo.channels, onChannel ch blocks ≤ geo.pagesPerBlock * geo.blocksPerPlane) →
        (machine geo).Meets Unshared (init geo) blocks) := by
  refine ⟨(init geo).answers_within blocks, keepsApart_iff_meets blocks, ?_⟩
  intro hroom
  apply meets_of_counts
  · intro b loc hloc
    cases hloc
  · intro ch
    rw [show (init geo).channelCounters ch = 0 from rfl, Nat.zero_add]
    exact hroom ch

/-! ## Two blocks on one page -/

def twoDies : FtlGeometry where
  channels := 1
  diesPerChannel := 2
  planesPerDie := 1
  blocksPerPlane := 1
  pagesPerBlock := 1
  channels_pos := Nat.one_pos
  dies_pos := Nat.two_pos
  planes_pos := Nat.one_pos
  blocks_pos := Nat.one_pos
  pages_pos := Nat.one_pos

def firstTokens (blockId : Int) : KVBlock := ⟨blockId, 0, 0, 16, 0, "SSD", none⟩

/-- Two blocks fit the two pages of the drive and share the page of die 0. -/
theorem two_blocks_share_a_page :
    let s := (machine twoDies).exec (init twoDies) [firstTokens 0, firstTokens 1]
    twoDies.totalPages = 2 ∧ s.translate 0 = s.translate 1 ∧
      s.translate 0 = some (PhysicalLocation.text ⟨0, 0, 0, 0, 0⟩) ∧
      (s.translate 0).bind s.reverseTranslate = some 1 ∧ ¬ KeepsApart s.toBaseFtl := by
  refine ⟨rfl, ?_, ?_, ?_, ?_⟩
  · decide +kernel
  · decide +kernel
  · decide +kernel
  · intro h
    have h01 := h.distinct 0 1 (PhysicalLocation.text ⟨0, 0, 0, 0, 0⟩) (by decide +kernel)
      (by decide +kernel)
    exact absurd h01 (by decide)

end TensorAwareFtl

end AiSsd.Ftl
