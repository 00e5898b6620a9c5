import AiSsd.Lib.Chunks
import AiSsd.Lib.Tiling
import AiSsd.RealLlm.BlockAdapter
import Mathlib.Data.List.Forall2

/-!
# Putting a cache back together

From tensors of the shape and width it is set up for, the adapter always cuts blocks, and
nothing is lost: of each group of heads the blocks tile the sequence, their first rows joined
are the rows of K and V, what follows them is zero, and ids count up through all layers.
-/

namespace AiSsd.RealLlm

open Lib Schemas

variable {α : Type}

namespace Tensor3

/-- `a[h, t, :]`. -/
def row (a : Tensor3 α) (h t : Nat) : List α := (List.range a.d2).map (a.get h t)

/-- `a[h, t:t + n, :]`, row by row. -/
def rows (a : Tensor3 α) (h t n : Nat) : List (List α) := (List.range' t n).map (a.row h)

theorem rows_congr {a b : Tensor3 α} {h h' t t' n : Nat}
    (hrow : ∀ j < n, a.row h (t + j) = b.row h' (t' + j)) : a.rows h t n = b.rows h' t' n := by
  apply List.ext_getElem
  · simp [rows]
  · intro j hj _
    have hj : j < n := by simpa [rows] using hj
    simpa [rows] using hrow j hj

theorem rows_pieces (a : Tensor3 α) (h : Nat) {piece : Nat} (hpiece : 0 < piece) (total : Nat) :
    (List.range (pieces total piece)).flatMap
        (fun i => a.rows h (i * piece) (min piece (total - i * piece))) = a.rows h 0 total := by
  have hcut := congrArg (List.map (a.row h)) (flatten_chunks hpiece (List.range' 0 total))
  rw [List.map_flatten, chunks, List.length_range', List.map_map] at hcut
  rw [rows, ← hcut, List.flatMap_def]
  congr 1
  apply List.map_congr_left
  intro i _
  simp [rows, chunk_range']

end Tensor3

namespace KVBlockAdapter

variable (adapter : KVBlockAdapter)

/-- K and V of a layer have the shape and the element width the adapter is set up for, and
their heads come in whole groups. -/
structure Suits (kv : Payload α) : Prop where
  dim : kv.k.d2 = adapter.headDim
  sameHeads : kv.v.d0 = kv.k.d0
  sameTokens : kv.v.d1 = kv.k.d1
  sameDim : kv.v.d2 = kv.k.d2
  keyWidth : kv.k.itemsize = getBytesPerElem adapter.dtypeStr
  valueWidth : kv.v.itemsize = getBytesPerElem adapter.dtypeStr
  groups : adapter.kvHeadsPerBlock ∣ kv.k.d0

/-- How many tokens a block from `tStart` on holds. -/
def held (seqLen tStart : Nat) : Nat := min adapter.tokensPerBlock (seqLen - tStart)

variable [Zero α]

/-! ## One block -/

/-- A page of `t`: heads from `h` on and tokens from `tStart` on, then rows of zeros. -/
structure Page (t page : Tensor3 α) (h tStart : Nat) : Prop where
  heads : page.d0 = adapter.kvHeadsPerBlock
  tokens : page.d1 = adapter.tokensPerBlock
  rows : ∀ i < adapter.kvHeadsPerBlock,
    page.rows i 0 (adapter.held t.d1 tStart) = t.rows (h + i) tStart (adapter.held t.d1 tStart)
  zero : ∀ i < adapter.kvHeadsPerBlock, ∀ j, adapter.held t.d1 tStart ≤ j →
    j < adapter.tokensPerBlock → page.row i j = List.replicate adapter.headDim 0

variable {adapter}

theorem padded_page {t : Tensor3 α} {h tStart : Nat} (hdim : t.d2 = adapter.headDim)
    (hheads : h + adapter.kvHeadsPerBlock ≤ t.d0) (htokens : tStart < t.d1) :
    ∃ page, adapter.padded t h adapter.kvHeadsPerBlock tStart
        (min (tStart + adapter.tokensPerBlock) t.d1) = .ok page ∧
      page.itemsize = t.itemsize ∧ page.d2 = adapter.headDim ∧ adapter.Page t page h tStart := by
  have hheld : min (tStart + adapter.tokensPerBlock) t.d1 - tStart =
      adapter.held t.d1 tStart := by
    unfold held
    omega
  have hd0 : min (h + adapter.kvHeadsPerBlock) t.d0 - min h t.d0 = adapter.kvHeadsPerBlock := by
    omega
  have hd1 := slice_d1 t h (h + adapter.kvHeadsPerBlock) tStart
    (min (tStart + adapter.tokensPerBlock) t.d1) (Nat.min_le_right _ _)
  have hh : min h t.d0 = h := by omega
  have ht : min tStart t.d1 = tStart := by omega
  rw [hheld] at hd1
  have hslice : ∀ i j d, (t.slice h (h + adapter.kvHeadsPerBlock) tStart
      (min (tStart + adapter.tokensPerBlock) t.d1)).get i j d =
        t.get (h + i) (tStart + j) d := by
    intro i j d
    simp only [Tensor3.slice, hh, ht]
  unfold padded
  dsimp only
  rw [hheld]
  split
  · rename_i hshort
    rw [Tensor3.concatenate, if_pos ⟨hd0, hdim⟩]
    refine ⟨_, rfl, rfl, hdim, hd0, ?_, ?_, ?_⟩
    · simp only [hd1, Tensor3.zeros]
      omega
    · intro i _
      apply Tensor3.rows_congr
      intro j hj
      simp only [Tensor3.row, hd1, hslice, Nat.zero_add, if_pos hj]
      rfl
    · intro i _ j hj _
      simp only [Tensor3.row, hd1, if_neg (Nat.not_lt.mpr hj), Tensor3.zeros]
      rw [show (t.slice h (h + adapter.kvHeadsPerBlock) tStart
        (min (tStart + adapter.tokensPerBlock) t.d1)).d2 = adapter.headDim from hdim]
      simp
  · rename_i hfull
    refine ⟨_, rfl, rfl, hdim, hd0, ?_, ?_, ?_⟩
    · rw [hd1]
      unfold held at hfull ⊢
      omega
    · intro i _
      apply Tensor3.rows_congr
      intro j _
      simp [Tensor3.row, Tensor3.slice, hh, ht]
    · intro i _ j hj hlt
      omega

omit [Zero α] in
theorem nbytes_page {page : Tensor3 α} (h0 : page.d0 = adapter.kvHeadsPerBlock)
    (h1 : page.d1 = adapter.tokensPerBlock) (h2 : page.d2 = adapter.headDim)
    (hwidth : page.itemsize = getBytesPerElem adapter.dtypeStr) :
    page.nbytes = adapter.keySizeBytes := by
  rw [Tensor3.nbytes, keySizeBytes, h0, h1, h2, hwidth,
    Nat.mul_comm adapter.kvHeadsPerBlock adapter.tokensPerBlock]

variable (adapter) in
def KeptNear (seqLen : Nat) (t : Int) : Prop :=
  t < adapter.attentionSinkTokens ∨ seqLen - adapter.recentWindowTokens ≤ t

omit [Zero α] in
variable (adapter) in
theorem classify_dram_iff (seqLen : Nat) {tStart tEnd : Nat} (hrun : tStart < tEnd) :
    (adapter.classify seqLen tStart tEnd).1 = .dram ↔
      ∃ t : Int, tStart ≤ t ∧ t < tEnd ∧ adapter.KeptNear seqLen t := by
  have hnear : ((tStart : Int) < adapter.attentionSinkTokens ∨
      (tEnd : Int) > seqLen - adapter.recentWindowTokens) ↔
        ∃ t : Int, tStart ≤ t ∧ t < tEnd ∧ adapter.KeptNear seqLen t := by
    unfold KeptNear
    constructor
    · rintro (hsink | hrecent)
      · exact ⟨tStart, by omega, by omega, Or.inl hsink⟩
      · exact ⟨tEnd - 1, by omega, by omega, Or.inr (by omega)⟩
    · rintro ⟨t, hfrom, hto, hsink | hrecent⟩ <;> omega
  rw [← hnear]
  unfold classify
  dsimp only
  split
  · rename_i hin
    exact iff_of_true rfl hin
  · rename_i hout
    exact iff_of_false (by simp) hout

variable (adapter) in
/-- What a block of the run of tokens from `corner.2` on of the heads from `corner.1` on is. -/
structure BlockAt (layerId : Nat) (kv : Payload α) (corner : Nat × Nat)
    (entry : KVBlock × Payload α) : Prop where
  layerId : entry.1.layerId = layerId
  head : entry.1.kvHeadStart = corner.1
  headCount : entry.1.kvHeadCount = adapter.kvHeadsPerBlock
  start : entry.1.tokenStart = corner.2
  inside : corner.2 < kv.k.d1
  tier : entry.1.storageTier = .dram ↔ ∃ t : Int, corner.2 ≤ t ∧
    t < corner.2 + adapter.held kv.k.d1 corner.2 ∧ adapter.KeptNear kv.k.d1 t
  key : adapter.Page kv.k entry.2.k corner.1 corner.2
  value : adapter.Page kv.v entry.2.v corner.1 corner.2

theorem makeBlock_at {kv : Payload α} (hsuits : adapter.Suits kv) {layerId blockIdx h tStart : Nat}
    (hpos : 0 < adapter.tokensPerBlock) (hheads : h + adapter.kvHeadsPerBlock ≤ kv.k.d0)
    (htokens : tStart < kv.k.d1) :
    ∃ entry, adapter.makeBlock layerId kv blockIdx h tStart = .ok entry ∧
      adapter.BlockAt layerId kv (h, tStart) entry := by
  have hcount : min adapter.kvHeadsPerBlock (kv.k.d0 - h) = adapter.kvHeadsPerBlock := by omega
  obtain ⟨kPage, hk, hkWidth, hkDim, hkPage⟩ := padded_page hsuits.dim hheads htokens
  have hvPadded := padded_page (hsuits.sameDim.trans hsuits.dim)
    (show h + adapter.kvHeadsPerBlock ≤ kv.v.d0 by rwa [hsuits.sameHeads])
    (show tStart < kv.v.d1 by rwa [hsuits.sameTokens])
  rw [hsuits.sameTokens] at hvPadded
  obtain ⟨vPage, hv, hvWidth, hvDim, hvPage⟩ := hvPadded
  have hvalid : adapter.validateGeometry kPage vPage = .ok () := by
    have hkBytes := nbytes_page hkPage.heads hkPage.tokens hkDim (hkWidth.trans hsuits.keyWidth)
    have hvBytes := nbytes_page hvPage.heads hvPage.tokens hvDim (hvWidth.trans hsuits.valueWidth)
    simp [validateGeometry, hkBytes, hvBytes]
  have hend : ((min (tStart + adapter.tokensPerBlock) kv.k.d1 : Nat) : Int) =
      tStart + adapter.held kv.k.d1 tStart := by
    unfold held
    omega
  have htier := classify_dram_iff adapter kv.k.d1
    (show tStart < min (tStart + adapter.tokensPerBlock) kv.k.d1 by omega)
  rw [hend] at htier
  simp only [makeBlock, hcount, hk, hv, hvalid, bind, Except.bind, pure, Except.pure,
    Except.ok.injEq, exists_eq_left']
  constructor
  case key => exact ⟨hkPage.heads, hkPage.tokens, hkPage.rows, hkPage.zero⟩
  case value => exact ⟨hvPage.heads, hvPage.tokens, hvPage.rows, hvPage.zero⟩
  case tier => exact htier
  case inside => exact htokens
  all_goals rfl

/-! ## One layer -/

theorem mem_rangeStep_mul {groups step h : Nat} (hstep : 0 < step) :
    h ∈ rangeStep (groups * step) step ↔ ∃ g < groups, h = g * step := by
  have hcount : (groups * step + step - 1) / step = groups := numChunks_mul hstep groups
  simp [rangeStep, hcount, eq_comm]

theorem nodup_rangeStep {stop step : Nat} (hstep : 0 < step) : (rangeStep stop step).Nodup :=
  List.nodup_range.map fun _ _ h => Nat.eq_of_mul_eq_mul_right hstep h

theorem filter_corners {h : Nat} {heads : List Nat} (starts : List Nat) (hnd : heads.Nodup)
    (hmem : h ∈ heads) :
    (heads.flatMap fun h' => starts.map fun tStart => (h', tStart)).filter (fun c => c.1 = h) =
      starts.map fun tStart => (h, tStart) := by
  induction heads with
  | nil => cases hmem
  | cons a heads ih =>
      rw [List.nodup_cons] at hnd
      rw [List.flatMap_cons, List.filter_append]
      by_cases ha : a = h
      · subst ha
        have hrest : (heads.flatMap fun h' => starts.map fun tStart => (h', tStart)).filter
            (fun c => c.1 = a) = [] := by
          simp only [List.filter_eq_nil_iff, List.mem_flatMap, List.mem_map]
          rintro c ⟨h', hh', tStart, _, rfl⟩
          simp only [decide_eq_true_eq]
          rintro rfl
          exact hnd.1 hh'
        rw [hrest, List.append_nil, List.filter_eq_self]
        simp
      · have hfirst : (starts.map fun tStart => (a, tStart)).filter (fun c => c.1 = h) = [] := by
          simp [ha]
        rw [hfirst, List.nil_append]
        exact ih hnd.2 (List.mem_of_ne_of_mem (Ne.symm ha) hmem)

theorem blockizeLayer_at {kv : Payload α} (hsuits : adapter.Suits kv) (layerId offset : Nat)
    (htokens : 0 < adapter.tokensPerBlock) (hheads : 0 < adapter.kvHeadsPerBlock) :
    ∃ blocks, adapter.blockizeLayer layerId kv offset = .ok blocks ∧
      List.Forall₂ (adapter.BlockAt layerId kv) (adapter.corners kv.k.d0 kv.k.d1) blocks := by
  obtain ⟨groups, hgroups⟩ := hsuits.groups
  rw [Nat.mul_comm] at hgroups
  have hmake : ∀ corner ∈ (adapter.corners kv.k.d0 kv.k.d1).zipIdx offset, ∃ entry,
      adapter.makeBlock layerId kv corner.2 corner.1.1 corner.1.2 = .ok entry ∧
        adapter.BlockAt layerId kv corner.1 entry := by
    intro corner hcorner
    obtain ⟨h, hh, hrest⟩ := List.mem_flatMap.mp (List.fst_mem_of_mem_zipIdx hcorner)
    obtain ⟨tStart, hstart, hpair⟩ := List.mem_map.mp hrest
    rw [← hpair]
    refine makeBlock_at hsuits htokens ?_ (lt_of_mem_rangeStep htokens hstart)
    rw [hgroups, mem_rangeStep_mul hheads] at hh
    obtain ⟨g, hg, rfl⟩ := hh
    have hnext := Nat.mul_le_mul_right adapter.kvHeadsPerBlock (Nat.succ_le_of_lt hg)
    rw [Nat.succ_mul] at hnext
    rwa [hgroups]
  obtain ⟨blocks, hblocks, hat⟩ := exists_mapM_eq_ok hmake
  refine ⟨blocks, ?_, ?_⟩
  · rw [blockizeLayer, if_neg (not_not.mpr hsuits.dim), if_neg (Nat.ne_of_gt hheads),
      if_neg (by omega), hblocks]
  · rw [← List.zipIdx_map_fst offset (adapter.corners kv.k.d0 kv.k.d1),
      List.forall₂_map_left_iff]
    exact hat

/-! ## One group of heads -/

variable (adapter) in
def heldRows (seqLen : Nat) (entry : KVBlock × Payload α) : Nat :=
  adapter.held seqLen entry.1.tokenStart.toNat

variable (adapter) in
/-- The blocks of the heads from `h` on. -/
def headGroup (h : Nat) (blocks : List (KVBlock × Payload α)) : List (KVBlock × Payload α) :=
  blocks.filter fun entry => entry.1.kvHeadStart = h

variable (adapter) in
/-- A group's blocks in list order: their tokens tile the sequence, the first rows joined are
those of K and V, the others are zero, and in DRAM are those with a token near. -/
structure GroupRebuilds (kv : Payload α) (h : Nat) (group : List (KVBlock × Payload α)) :
    Prop where
  tiles : Tiles (fun entry => entry.1.tokenStart)
    (fun entry => (adapter.heldRows kv.k.d1 entry : Int)) 0 group kv.k.d1
  keys : ∀ i < adapter.kvHeadsPerBlock,
    group.flatMap (fun entry => entry.2.k.rows i 0 (adapter.heldRows kv.k.d1 entry)) =
      kv.k.rows (h + i) 0 kv.k.d1
  values : ∀ i < adapter.kvHeadsPerBlock,
    group.flatMap (fun entry => entry.2.v.rows i 0 (adapter.heldRows kv.k.d1 entry)) =
      kv.v.rows (h + i) 0 kv.k.d1
  padding : ∀ entry ∈ group, ∀ i < adapter.kvHeadsPerBlock, ∀ j,
    adapter.heldRows kv.k.d1 entry ≤ j → j < adapter.tokensPerBlock →
      entry.2.k.row i j = List.replicate adapter.headDim 0 ∧
        entry.2.v.row i j = List.replicate adapter.headDim 0
  shapes : ∀ entry ∈ group, ∀ page, page = entry.2.k ∨ page = entry.2.v →
    page.d0 = adapter.kvHeadsPerBlock ∧ page.d1 = adapter.tokensPerBlock
  tiers : ∀ entry ∈ group, entry.1.storageTier = .dram ↔ ∃ t : Int,
    entry.1.tokenStart ≤ t ∧ t < entry.1.tokenStart + adapter.heldRows kv.k.d1 entry ∧
      adapter.KeptNear kv.k.d1 t

theorem heldRows_at {layerId : Nat} {kv : Payload α} {corner : Nat × Nat}
    {entry : KVBlock × Payload α} (hat : adapter.BlockAt layerId kv corner entry) :
    adapter.heldRows kv.k.d1 entry = adapter.held kv.k.d1 corner.2 := by
  rw [heldRows, hat.start, Int.toNat_natCast]

theorem groupRebuilds_of_at {layerId : Nat} {kv : Payload α} (hsuits : adapter.Suits kv)
    (hpos : 0 < adapter.tokensPerBlock) {h : Nat} {group : List (KVBlock × Payload α)}
    (hat : List.Forall₂ (fun i entry =>
      adapter.BlockAt layerId kv (h, i * adapter.tokensPerBlock) entry)
      (List.range (pieces kv.k.d1 adapter.tokensPerBlock)) group) :
    adapter.GroupRebuilds kv h group := by
  have hmem : ∀ entry ∈ group, ∃ i,
      adapter.BlockAt layerId kv (h, i * adapter.tokensPerBlock) entry := by
    intro entry hentry
    obtain ⟨i, -, hone⟩ := exists_of_forall₂ hat entry hentry
    exact ⟨i, hone⟩
  constructor
  case tiles =>
    refine (tiles_pieces hpos).of_forall₂ (hat.imp ?_)
    intro i entry hone
    exact ⟨hone.start, by rw [heldRows_at hone]; rfl⟩
  case keys =>
    intro i hi
    rw [← Tensor3.rows_pieces kv.k (h + i) hpos]
    apply flatMap_eq_of_forall₂
    refine hat.imp ?_
    intro n entry hone
    rw [heldRows_at hone]
    exact hone.key.rows i hi
  case values =>
    intro i hi
    rw [← Tensor3.rows_pieces kv.v (h + i) hpos]
    apply flatMap_eq_of_forall₂
    refine hat.imp ?_
    intro n entry hone
    have hrows := hone.value.rows i hi
    rw [hsuits.sameTokens] at hrows
    rw [heldRows_at hone]
    exact hrows
  case padding =>
    intro entry hentry i hi j hj hlt
    obtain ⟨n, hone⟩ := hmem entry hentry
    rw [heldRows_at hone] at hj
    refine ⟨hone.key.zero i hi j hj hlt, hone.value.zero i hi j ?_ hlt⟩
    rwa [hsuits.sameTokens]
  case shapes =>
    intro entry hentry page hpage
    obtain ⟨n, hone⟩ := hmem entry hentry
    rcases hpage with rfl | rfl
    · exact ⟨hone.key.heads, hone.key.tokens⟩
    · exact ⟨hone.value.heads, hone.value.tokens⟩
  case tiers =>
    intro entry hentry
    obtain ⟨n, hone⟩ := hmem entry hentry
    rw [heldRows_at hone, hone.start]
    exact hone.tier

variable (adapter) in
/-- What is made of a layer: ids count up from `offset`, every block is of a group of heads
and every group is rebuilt. -/
structure LayerRebuilds (layerId : Nat) (kv : Payload α) (offset : Nat)
    (blocks : List (KVBlock × Payload α)) : Prop where
  ids : blocks.map (fun entry => entry.1.blockId) =
    (List.range' offset blocks.length).map fun (i : Nat) => (i : Int)
  layer : ∀ entry ∈ blocks, entry.1.layerId = layerId
  grouped : ∀ entry ∈ blocks, ∃ g, g * adapter.kvHeadsPerBlock < kv.k.d0 ∧
    entry.1.kvHeadStart = (g * adapter.kvHeadsPerBlock : Nat) ∧
    entry.1.kvHeadCount = adapter.kvHeadsPerBlock
  groups : ∀ g, g * adapter.kvHeadsPerBlock < kv.k.d0 →
    adapter.GroupRebuilds kv (g * adapter.kvHeadsPerBlock)
      (headGroup (g * adapter.kvHeadsPerBlock) blocks)

theorem blockizeLayer_rebuilds {kv : Payload α} (hsuits : adapter.Suits kv)
    (htokens : 0 < adapter.tokensPerBlock) (hheads : 0 < adapter.kvHeadsPerBlock)
    (layerId offset : Nat) :
    ∃ blocks, adapter.blockizeLayer layerId kv offset = .ok blocks ∧
      adapter.LayerRebuilds layerId kv offset blocks := by
  obtain ⟨blocks, hblocks, hcut⟩ := blockizeLayer_at hsuits layerId offset htokens hheads
  obtain ⟨groups, hgroups⟩ := hsuits.groups
  rw [Nat.mul_comm] at hgroups
  have hhead : ∀ g, g * adapter.kvHeadsPerBlock < kv.k.d0 →
      g * adapter.kvHeadsPerBlock ∈ rangeStep kv.k.d0 adapter.kvHeadsPerBlock := by
    intro g hg
    rw [hgroups] at hg ⊢
    exact (mem_rangeStep_mul hheads).mpr ⟨g, Nat.lt_of_mul_lt_mul_right hg, rfl⟩
  refine ⟨blocks, hblocks, (blockizeLayer_spec hblocks).2.1, ?_, ?_, ?_⟩
  · intro entry hentry
    obtain ⟨corner, -, hone⟩ := exists_of_forall₂ hcut entry hentry
    exact hone.layerId
  · intro entry hentry
    obtain ⟨corner, hcorner, hone⟩ := exists_of_forall₂ hcut entry hentry
    obtain ⟨h, hh, hrest⟩ := List.mem_flatMap.mp hcorner
    obtain ⟨tStart, -, hpair⟩ := List.mem_map.mp hrest
    have hlt := lt_of_mem_rangeStep hheads hh
    rw [hgroups, mem_rangeStep_mul hheads] at hh
    obtain ⟨g, hg, rfl⟩ := hh
    refine ⟨g, hlt, ?_, hone.headCount⟩
    rw [hone.head, ← hpair]
  · intro g hg
    have hcorners := filter_corners (rangeStep kv.k.d1 adapter.tokensPerBlock)
      (nodup_rangeStep hheads) (hhead g hg)
    have hpicked : List.Forall₂ (adapter.BlockAt layerId kv)
        ((adapter.corners kv.k.d0 kv.k.d1).filter fun c => c.1 = g * adapter.kvHeadsPerBlock)
        (headGroup (g * adapter.kvHeadsPerBlock) blocks) := by
      refine List.rel_filter ?_ hcut
      intro corner entry hone
      simp only [decide_eq_true_eq, hone.head, Nat.cast_inj]
    rw [corners, hcorners, List.forall₂_map_left_iff, rangeStep,
      List.forall₂_map_left_iff] at hpicked
    exact groupRebuilds_of_at hsuits htokens hpicked

/-! ## All layers -/

/-- The layers of the list are rebuilt, appended to what there was, and their ids go on. -/
theorem blockizeFrom_rebuilds {layerKv : Dict Nat (Payload α)}
    (hsuits : ∀ l kv, layerKv.get? l = some kv → adapter.Suits kv)
    (htokens : 0 < adapter.tokensPerBlock) (hheads : 0 < adapter.kvHeadsPerBlock)
    (layers : List Nat) (hnd : layers.Nodup) (hhave : ∀ l ∈ layers, ∃ kv, layerKv.get? l = some kv)
    (currId : Nat) (acc : Dict Nat (List (KVBlock × Payload α)))
    (hnew : ∀ l ∈ layers, acc.get? l = none) :
    ∃ all added, adapter.blockizeFrom layerKv currId layers acc = .ok all ∧
      all.entries = acc.entries ++ added ∧ added.map Prod.fst = layers ∧
      (added.flatMap Prod.snd).map (fun entry => entry.1.blockId) =
        (List.range' currId (added.flatMap Prod.snd).length).map (fun (i : Nat) => (i : Int)) ∧
      ∀ e ∈ added, ∃ kv offset, layerKv.get? e.1 = some kv ∧
        adapter.LayerRebuilds e.1 kv offset e.2 := by
  induction layers generalizing currId acc with
  | nil => exact ⟨acc, [], rfl, (List.append_nil _).symm, rfl, rfl, by simp⟩
  | cons l layers ih =>
      rw [List.nodup_cons] at hnd
      obtain ⟨kv, hkv⟩ := hhave l List.mem_cons_self
      obtain ⟨blocks, hblocks, hrebuilds⟩ :=
        blockizeLayer_rebuilds (hsuits l kv hkv) htokens hheads l currId
      have hrest : ∀ l' ∈ layers, (acc.set l blocks).get? l' = none := by
        intro l' hl'
        have hne : l ≠ l' := fun heq => hnd.1 (heq ▸ hl')
        rw [Dict.get?_set_of_ne _ _ hne]
        exact hnew l' (List.mem_cons_of_mem l hl')
      obtain ⟨all, added, hall, hentries, hlayers, hids, hlater⟩ :=
        ih hnd.2 (fun l' hl' => hhave l' (List.mem_cons_of_mem l hl')) (currId + blocks.length)
          (acc.set l blocks) hrest
      refine ⟨all, (l, blocks) :: added, ?_, ?_, ?_, ?_, ?_⟩
      · simp only [blockizeFrom, hkv, hblocks, bind, Except.bind]
        exact hall
      · rw [hentries, Dict.entries_set_of_new (hnew l List.mem_cons_self), List.append_assoc,
          List.singleton_append]
      · rw [List.map_cons, hlayers]
      · rw [List.flatMap_cons, List.map_append, hids, hrebuilds.ids, ← List.map_append,
          List.range'_append_1, List.length_append]
      · rw [List.forall_mem_cons]
        exact ⟨⟨kv, currId, hkv, hrebuilds⟩, hlater⟩

/-- From tensors that suit the adapter, cutting a layer or all layers always succeeds, and
what comes out can be put back together: for all layers the blocks in the order of the layers
have the ids from 0 up. -/
theorem blockize_rebuilds (htokens : 0 < adapter.tokensPerBlock)
    (hheads : 0 < adapter.kvHeadsPerBlock) :
    (∀ kv : Payload α, adapter.Suits kv → ∀ layerId offset, ∃ blocks,
      adapter.blockizeLayer layerId kv offset = .ok blocks ∧
        adapter.LayerRebuilds layerId kv offset blocks) ∧
    ∀ layerKv : Dict Nat (Payload α), (∀ l kv, layerKv.get? l = some kv → adapter.Suits kv) →
      ∃ all, adapter.blockizeAllLayers layerKv = .ok all ∧
        all.keys = layerKv.keys.insertionSort (· ≤ ·) ∧
        (∀ l kv, layerKv.get? l = some kv → ∃ offset blocks, all.get? l = some blocks ∧
          adapter.LayerRebuilds l kv offset blocks) ∧
        (all.entries.flatMap Prod.snd).map (fun entry => entry.1.blockId) =
          (List.range (all.entries.flatMap Prod.snd).length).map fun (i : Nat) => (i : Int) := by
  refine ⟨fun kv hsuits => blockizeLayer_rebuilds hsuits htokens hheads, ?_⟩
  intro layerKv hsuits
  have hsorted := layerKv.keys.perm_insertionSort (· ≤ ·)
  have hhave : ∀ l ∈ layerKv.keys.insertionSort (· ≤ ·), ∃ kv, layerKv.get? l = some kv := by
    intro l hl
    rw [hsorted.mem_iff, ← Dict.contains_iff, Dict.contains] at hl
    exact Option.isSome_iff_exists.mp hl
  obtain ⟨all, added, hall, hentries, hlayers, hids, hrebuilds⟩ :=
    blockizeFrom_rebuilds hsuits htokens hheads _ (hsorted.nodup_iff.mpr layerKv.nodup) hhave 0
      Dict.empty (fun _ _ => rfl)
  have hadded : all.entries = added := hentries
  subst hadded
  refine ⟨all, hall, hlayers, ?_, ?_⟩
  · intro l kv hkv
    have hl : l ∈ all.keys := by
      rw [Dict.keys, hlayers, hsorted.mem_iff, ← Dict.contains_iff, Dict.contains, hkv]
      rfl
    obtain ⟨e, he, rfl⟩ := List.mem_map.mp hl
    obtain ⟨kv', offset, hkv', hrebuilt⟩ := hrebuilds e he
    rw [hkv, Option.some.injEq] at hkv'
    subst hkv'
    exact ⟨offset, e.2, (Dict.mem_entries_iff all e.1 e.2).mp he, hrebuilt⟩
  · rw [List.range_eq_range']
    exact hids

section Instances

/-- Blocks of two tokens and one head of one dimension, one sink and one recent token. -/
def pairAdapter : KVBlockAdapter := ⟨2, 1, 1, "fp32", 1, 1⟩

def threeTokens : Payload Int where
  k := ⟨2, 3, 1, 4, fun h t _ => 10 * h + t + 1⟩
  v := ⟨2, 3, 1, 4, fun h t _ => 100 * h + t + 1⟩

example : (pairAdapter.blockizeLayer 0 threeTokens 7).toOption.map
    (fun blocks => blocks.map fun entry =>
      (entry.1.blockId, entry.1.kvHeadStart, entry.1.tokenStart, entry.2.k.rows 0 0 2)) =
    some [(7, 0, 0, [[1], [2]]), (8, 0, 2, [[3], [0]]), (9, 1, 0, [[11], [12]]),
      (10, 1, 2, [[13], [0]])] := by decide +kernel

theorem suits_threeTokens : pairAdapter.Suits threeTokens where
  dim := rfl
  sameHeads := rfl
  sameTokens := rfl
  sameDim := rfl
  keyWidth := by decide +kernel
  valueWidth := by decide +kernel
  groups := ⟨2, rfl⟩

def twoLayers : Dict Nat (Payload Int) := (Dict.empty.set 3 threeTokens).set 1 threeTokens

theorem suits_twoLayers : ∀ l kv, twoLayers.get? l = some kv → pairAdapter.Suits kv := by
  intro l kv hkv
  unfold twoLayers at hkv
  rw [Dict.get?_set, Dict.get?_set] at hkv
  split at hkv
  · cases hkv
    exact suits_threeTokens
  · split at hkv
    · cases hkv
      exact suits_threeTokens
    · cases hkv

theorem blockize_rebuilds_two_layers :
    (∃ blocks, pairAdapter.blockizeLayer 3 threeTokens 7 = .ok blocks ∧
      pairAdapter.LayerRebuilds 3 threeTokens 7 blocks) ∧
    ∃ all, pairAdapter.blockizeAllLayers twoLayers = .ok all ∧
      all.keys = twoLayers.keys.insertionSort (· ≤ ·) ∧
      (∀ l kv, twoLayers.get? l = some kv → ∃ offset blocks, all.get? l = some blocks ∧
        pairAdapter.LayerRebuilds l kv offset blocks) ∧
      (all.entries.flatMap Prod.snd).map (fun entry => entry.1.blockId) =
        (List.range (all.entries.flatMap Prod.snd).length).map fun (i : Nat) => (i : Int) :=
  have h := blockize_rebuilds (show 0 < pairAdapter.tokensPerBlock by decide)
    (show 0 < pairAdapter.kvHeadsPerBlock by decide)
  ⟨h.1 threeTokens suits_threeTokens 3 7, h.2 twoLayers suits_twoLayers⟩

end Instances

end KVBlockAdapter

end AiSsd.RealLlm
