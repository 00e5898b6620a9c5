import AiSsd.Attention.Pruner
import Mathlib.Tactic.NormNum

/-!
# When decode attention is exact

A decode step feeds the history and, beside it, every RAM-resident block whose copy
is still in flash, once the layer has a cold block to ask the storage for. Those
blocks are counted twice; without one the result is the dense attention.
-/

namespace AiSsd.Attention

open Lib Storage Tiering TieredKVManager

universe u

variable {α : Type u} {heads dim : Nat} {policy : TieringPolicy} {widths : ElementWidths}
  {m : Manager α heads dim} {hist : Nat → List (KVToken α heads dim)}

abbrev Holds (policy : TieringPolicy) (widths : ElementWidths) (m : Manager α heads dim)
    (hist : Nat → List (KVToken α heads dim)) : Prop :=
  Represents policy (MockSSDController.returnsStored widths) (fun _ _ => none) m hist

/-- Storage has a copy of the block, current or left behind by a fetch. -/
def inFlash (m : Manager α heads dim) (layerId : Nat) (b : KVBlock (Row α heads dim)
    (Row α heads dim)) : Bool :=
  m.storage.flashStore.contains (layerId, b.blockId)

/-- The tokens of the blocks of a layer that `keep` selects. -/
def tokensWhere (policy : TieringPolicy) (m : Manager α heads dim)
    (hist : Nat → List (KVToken α heads dim)) (layerId : Nat)
    (keep : KVBlock (Row α heads dim) (Row α heads dim) → Bool) : List (KVToken α heads dim) :=
  ((m.blockPool.getLayerBlocks layerId).filter keep).flatMap (rowsOf policy (hist layerId))

/-! ## The RAM half -/

theorem getHotKv_eq (h : Holds policy widths m hist) (l : Nat) :
    (m.getHotKv l).1 = keyRows (tokensWhere policy m hist l fun b => b.isInRam) ∧
      (m.getHotKv l).2.1 = valueRows (tokensWhere policy m hist l fun b => b.isInRam) ∧
      (m.getHotKv l).2.2.length = (tokensWhere policy m hist l fun b => b.isInRam).length := by
  have hblocks : ∀ b ∈ m.blockPool.getLayerBlocks l, b.isInRam = true →
      b.kData = some (keyRows (rowsOf policy (hist l) b)) ∧
        b.vData = some (valueRows (rowsOf policy (hist l) b)) ∧
          b.tokenCount = (rowsOf policy (hist l) b).length := by
    intro b hb hram
    have hp := h.placed_mem hb
    exact ⟨(hp.ram hram).1, (hp.ram hram).2, hp.count_eq⟩
  unfold getHotKv tokensWhere
  generalize m.blockPool.getLayerBlocks l = bs at hblocks ⊢
  induction bs with
  | nil => exact ⟨rfl, rfl, rfl⟩
  | cons b bs ih =>
      obtain ⟨hk, hv, hn⟩ := ih fun c hc => hblocks c (List.mem_cons_of_mem b hc)
      cases hram : b.isInRam with
      | false =>
          rw [List.filter_cons_of_neg (by simp [hram]), List.foldr_cons]
          simp only [hram]
          exact ⟨hk, hv, hn⟩
      | true =>
          obtain ⟨hbk, hbv, hbn⟩ := hblocks b List.mem_cons_self hram
          rw [List.filter_cons_of_pos (by simp [hram]), List.foldr_cons, List.flatMap_cons]
          simp only [hram, hbk, hbv, hk, hv]
          refine ⟨?_, ?_, ?_⟩
          · simp only [keyRows, List.map_append]
          · simp only [valueRows, List.map_append]
          · rw [List.length_append, List.length_append, List.length_map, List.length_range, hbn, hn]

section Field

variable [Field α] [LinearOrder α] {np : IndexSort α} {sqrt : α → α} {query : Row α heads dim}

open InStorageAttentionPruner

omit [LinearOrder α] in
theorem pairColumns_rows (query : Row α heads dim) (scale : α) (tokens : List (KVToken α heads dim)) :
    pairColumns ((keyRows tokens).map (logit query scale)) (valueRows tokens) =
      .ok (partition query scale tokens) := by
  have hlen : ((keyRows tokens).map (logit query scale)).length = (valueRows tokens).length := by
    simp only [keyRows, valueRows, List.length_map]
  rw [pairColumns, if_pos hlen]
  congr 1
  induction tokens with
  | nil => rfl
  | cons t ts ih =>
      have hts : ((keyRows ts).map (logit query scale)).length = (valueRows ts).length := by
        simp only [keyRows, valueRows, List.length_map]
      exact congrArg (PartitionToken.mk (logit query scale t.1) t.2 :: ·) (ih hts)

omit [LinearOrder α] in
theorem hotPartition_eq (h : Holds policy widths m hist) (l : Nat) :
    hotPartition sqrt m query l = .ok (partition query (attentionScale sqrt dim)
      (tokensWhere policy m hist l fun b => b.isInRam)) := by
  obtain ⟨hk, hv, hn⟩ := getHotKv_eq h l
  simp only [hotPartition, hk, hv, hn]
  split
  · exact pairColumns_rows query _ _
  · rename_i hzero
    have hnil : (tokensWhere policy m hist l fun b => b.isInRam) = [] :=
      List.eq_nil_of_length_eq_zero (by omega)
    rw [hnil]
    rfl

/-! ## The storage half -/

omit [Field α] [LinearOrder α] in
/-- What the layer has in flash are the blocks with a copy there, each with its rows. -/
theorem layerEntries_perm (h : Holds policy widths m hist) (l : Nat) :
    (m.storage.layerEntries l).Perm
      (((m.blockPool.getLayerBlocks l).filter (inFlash m l)).map fun b =>
        (b.blockId, ⟨keyRows (rowsOf policy (hist l) b), valueRows (rowsOf policy (hist l) b)⟩)) := by
  have hids : ((m.blockPool.getLayerBlocks l).map KVBlock.blockId).Nodup := by
    rw [h.linked.map_blockId_getLayerBlocks l]
    exact h.linked.nodup l
  have hview : ∀ bid entry, m.storage.flashStore.get? (l, bid) = some entry →
      ∃ b ∈ m.blockPool.getLayerBlocks l, b.blockId = bid ∧
        entry = ⟨keyRows (rowsOf policy (hist l) b), valueRows (rowsOf policy (hist l) b)⟩ := by
    intro bid entry hget
    have hview : (MockSSDController.returnsStored widths).view m.storage l bid =
        some (entry.k, entry.v) := by
      show (m.storage.flashStore.get? (l, bid)).map _ = _
      rw [hget]
      rfl
    obtain ⟨i, hi, _, hkv⟩ := h.rows_of_view hview
    obtain ⟨b, hb, _, hbid⟩ := h.linked.home l bid (List.mem_of_getElem? hi)
    have hpos : (m.blockPool.getLayerBlocks l)[i]? = some b := by
      rw [h.linked.getLayerBlocks_getElem?_iff, hbid]
      exact ⟨hi, hb⟩
    refine ⟨b, List.mem_of_getElem? hpos, hbid, ?_⟩
    rw [(h.placed_getElem? hpos).rowsOf_eq]
    obtain ⟨k, v⟩ := entry
    cases hkv
    rfl
  rw [List.perm_ext_iff_of_nodup (MockSSDController.nodup_layerEntries _ l)]
  · rintro ⟨bid, entry⟩
    rw [MockSSDController.mem_layerEntries_iff, List.mem_map]
    constructor
    · intro hget
      obtain ⟨b, hb, rfl, rfl⟩ := hview bid entry hget
      refine ⟨b, List.mem_filter.mpr ⟨hb, ?_⟩, rfl⟩
      simp [inFlash, Dict.contains, hget]
    · rintro ⟨b, hb, hpair⟩
      obtain ⟨hmem, hflash⟩ := List.mem_filter.mp hb
      cases hpair
      obtain ⟨entry, hget⟩ := Option.isSome_iff_exists.mp hflash
      obtain ⟨c, hc, hcid, hentry⟩ := hview b.blockId entry hget
      have hcb : c = b := (List.inj_on_of_nodup_map hids) hc hmem hcid
      rw [hget, hentry, hcb]
  · refine List.Nodup.map_on ?_ (hids.of_map.filter _)
    intro b hb c hc heq
    rw [Prod.mk.injEq] at heq
    exact (List.inj_on_of_nodup_map hids) (List.mem_filter.mp hb).1 (List.mem_filter.mp hc).1 heq.1

def entryTokens (b : Nat × FlashEntry α heads dim) : List (KVToken α heads dim) := b.2.k.zip b.2.v

theorem zip_rows {β γ : Type*} (xs : List (β × γ)) : (keyRows xs).zip (valueRows xs) = xs := by
  induction xs with
  | nil => rfl
  | cons x xs ih => exact congrArg (x :: ·) ih

omit [Field α] [LinearOrder α] in
theorem entry_full (h : Holds policy widths m hist) {l : Nat} {b : Nat × FlashEntry α heads dim}
    (hb : b ∈ m.storage.layerEntries l) :
    b.2.k.length = policy.tokensPerBlock ∧ b.2.v.length = policy.tokensPerBlock := by
  obtain ⟨bid, k, v⟩ := b
  rw [MockSSDController.mem_layerEntries_iff] at hb
  have hview : (MockSSDController.returnsStored widths).view m.storage l bid = some (k, v) := by
    show (m.storage.flashStore.get? (l, bid)).map _ = _
    rw [hb]
    rfl
  obtain ⟨i, _, hfull, hkv⟩ := h.rows_of_view hview
  rw [Nat.add_mul, Nat.one_mul] at hfull
  have hlen := length_chunk policy.tokensPerBlock (hist l) i
  cases hkv
  simp only [keyRows, valueRows, List.length_map]
  omega

variable (np sqrt query)

theorem coldPartition_eq (h : Holds policy widths m hist) {l kVal : Nat} (hheads : 0 < heads)
    (hcold : m.getColdBlocks l ≠ []) (htop : (m.storage.layerEntries l).length ≤ kVal) :
    ∃ (tokens : List (KVToken α heads dim)) (m' : Manager α heads dim),
      coldPartition widths np sqrt m query l kVal =
        (.ok (partition query (attentionScale sqrt dim) tokens), m') ∧
      tokens.Perm (tokensWhere policy m hist l (inFlash m l)) := by
  have hpos := policy.block_pos
  have hne : m.storage.layerEntries l ≠ [] := by
    obtain ⟨b, hb⟩ := List.exists_mem_of_ne_nil _ hcold
    obtain ⟨hmem, hram⟩ := List.mem_filter.mp hb
    have hflash := ((h.placed_mem hmem).cold (by simpa using hram)).1
    obtain ⟨entry, hget, _⟩ := Option.map_eq_some_iff.mp hflash
    exact List.ne_nil_of_mem ((MockSSDController.mem_layerEntries_iff _ l _ entry).mpr hget)
  obtain ⟨selected, scores, hperm, hanswer⟩ :=
    MockSSDController.inStorageTopkAttention_all widths np sqrt query hheads hne
      (fun b hb => List.ne_nil_of_length_pos (by rw [(entry_full h hb).1]; exact hpos))
      (fun b hb => (entry_full h hb).2) htop
  have hentry : ∀ b ∈ selected, keyRows (entryTokens b) = b.2.k ∧
      valueRows (entryTokens b) = b.2.v := by
    intro b hb
    obtain ⟨hk, hv⟩ := entry_full h (hperm.mem_iff.mp hb)
    exact ⟨List.map_fst_zip (by omega), List.map_snd_zip (by omega)⟩
  have hlogits : (selected.flatMap fun b => b.2.k.map (logit query (attentionScale sqrt dim))) =
      (keyRows (selected.flatMap entryTokens)).map (logit query (attentionScale sqrt dim)) := by
    simp only [keyRows, List.map_flatMap]
    refine List.flatMap_congr fun b hb => ?_
    rw [← (hentry b hb).1, keyRows]
  have hvalues : (selected.map fun b => b.2.v).flatten =
      valueRows (selected.flatMap entryTokens) := by
    rw [← List.flatMap_def]
    simp only [valueRows, List.map_flatMap]
    exact List.flatMap_congr fun b hb => (hentry b hb).2.symm
  have hids : 0 < (selected.map Prod.fst).length := by
    rw [List.length_map, hperm.length_eq]
    exact List.length_pos_iff.mpr hne
  refine ⟨selected.flatMap entryTokens,
    { m with storage := (MockSSDController.inStorageTopkAttention widths np sqrt m.storage
        query l kVal).2 }, ?_, ?_⟩
  · rw [coldPartition, if_neg hcold]
    revert hanswer
    rcases MockSSDController.inStorageTopkAttention widths np sqrt m.storage query l kVal with
      ⟨answer, storage⟩
    intro hanswer
    dsimp only at hanswer
    subst hanswer
    dsimp only
    rw [if_pos hids, hlogits, hvalues, pairColumns_rows]
  · have hflat := (hperm.trans (layerEntries_perm h l)).flatMap_right entryTokens
    refine hflat.trans (List.Perm.of_eq ?_)
    rw [List.flatMap_map, tokensWhere]
    exact List.flatMap_congr fun b _ => zip_rows _

/-- Without heads the score of a block is the maximum of nothing. -/
theorem coldPartition_no_heads (widths : ElementWidths) (m : Manager α heads dim) {l : Nat}
    (kVal : Nat) (hheads : heads = 0) (hcold : m.getColdBlocks l ≠ []) :
    ∃ err m', coldPartition widths np sqrt m query l kVal = (.error err, m') := by
  subst hheads
  have hscore : ∀ k : List (Row α 0 dim), ∃ err,
      MockSSDController.blockScore query (attentionScale sqrt dim) k = .error err := by
    intro k
    have hnil : (k.flatMap fun row => (List.finRange 0).map
        (logit query (attentionScale sqrt dim) row)) = [] :=
      List.flatMap_eq_nil_iff.mpr fun _ _ => rfl
    rw [MockSSDController.blockScore, hnil]
    exact ⟨_, rfl⟩
  rw [coldPartition, if_neg hcold]
  unfold MockSSDController.inStorageTopkAttention
  cases m.storage.layerEntries l with
  | nil => exact ⟨_, _, rfl⟩
  | cons b bs =>
      obtain ⟨err, herr⟩ := hscore b.2.k
      have hmap : (b :: bs).mapM (fun b =>
          MockSSDController.blockScore query (attentionScale sqrt dim) b.2.k) = .error err := by
        rw [List.mapM_cons, herr]
        rfl
      simp only [hmap]
      exact ⟨err, _, rfl⟩

/-! ## What a decode step feeds -/

omit [Field α] [LinearOrder α] in
theorem inFlash_of_cold (h : Holds policy widths m hist) {l : Nat}
    {b : KVBlock (Row α heads dim) (Row α heads dim)} (hb : b ∈ m.blockPool.getLayerBlocks l)
    (hram : b.isInRam = false) : inFlash m l b = true := by
  obtain ⟨entry, hget, _⟩ := Option.map_eq_some_iff.mp ((h.placed_mem hb).cold hram).1
  rw [inFlash, Dict.contains, hget]
  rfl

omit [Field α] [LinearOrder α] in
/-- RAM and flash together hold the history and, once more, what is in both. -/
theorem tokens_split (h : Holds policy widths m hist) (l : Nat) :
    (tokensWhere policy m hist l (fun b => b.isInRam) ++
        tokensWhere policy m hist l (inFlash m l)).Perm
      (hist l ++ tokensWhere policy m hist l fun b => inFlash m l b && b.isInRam) := by
  have hwhole : (m.blockPool.getLayerBlocks l).flatMap (rowsOf policy (hist l)) = hist l := by
    rw [List.flatMap_def, h.map_rowsOf l, flatten_chunks policy.block_pos]
  have hcold : ((m.blockPool.getLayerBlocks l).filter (inFlash m l)).filter (fun b => !b.isInRam) =
      (m.blockPool.getLayerBlocks l).filter fun b => !b.isInRam := by
    rw [List.filter_filter]
    refine List.filter_congr fun b hb => ?_
    cases hram : b.isInRam with
    | true => rfl
    | false => simp [inFlash_of_cold h hb hram]
  have hboth : ((m.blockPool.getLayerBlocks l).filter (inFlash m l)).filter (fun b => b.isInRam) =
      (m.blockPool.getLayerBlocks l).filter fun b => inFlash m l b && b.isInRam := by
    rw [List.filter_filter]
    exact List.filter_congr fun b _ => Bool.and_comm _ _
  have hflash := List.filter_append_perm (fun b => b.isInRam)
    ((m.blockPool.getLayerBlocks l).filter (inFlash m l))
  rw [hcold, hboth] at hflash
  have hram := List.filter_append_perm (fun b => b.isInRam) (m.blockPool.getLayerBlocks l)
  have hblocks : ((m.blockPool.getLayerBlocks l).filter (fun b => b.isInRam) ++
      (m.blockPool.getLayerBlocks l).filter (inFlash m l)).Perm
        (m.blockPool.getLayerBlocks l ++
          (m.blockPool.getLayerBlocks l).filter fun b => inFlash m l b && b.isInRam) := by
    refine (hflash.symm.append_left _).trans ?_
    refine (List.perm_append_comm.append_left _).trans ?_
    rw [← List.append_assoc]
    exact hram.append_right _
  have hflat := hblocks.flatMap_right (rowsOf policy (hist l))
  rwa [List.flatMap_append, List.flatMap_append, hwhole] at hflat

def doubled (policy : TieringPolicy) (m : Manager α heads dim)
    (hist : Nat → List (KVToken α heads dim)) (l : Nat) : List (KVToken α heads dim) :=
  if m.getColdBlocks l = [] then []
  else tokensWhere policy m hist l fun b => inFlash m l b && b.isInRam

/-- A decode step that answers feeds the history and the doubled blocks. -/
theorem fedPartitions_perm (h : Holds policy widths m hist) {l kVal : Nat}
    (hheads : m.getColdBlocks l = [] ∨ 0 < heads)
    (htop : (m.storage.layerEntries l).length ≤ kVal) :
    ∃ (fed : FedPartitions α heads dim) (m' : Manager α heads dim),
      fedPartitions widths np sqrt m query l kVal = (.ok fed, m') ∧
      (fed.hot ++ fed.cold).Perm
        (partition query (attentionScale sqrt dim) (hist l ++ doubled policy m hist l)) := by
  unfold fedPartitions doubled
  rw [hotPartition_eq h l]
  dsimp only
  by_cases hcold : m.getColdBlocks l = []
  · rw [coldPartition, if_pos hcold, if_pos hcold]
    refine ⟨_, m, rfl, List.Perm.of_eq ?_⟩
    have hall : (m.blockPool.getLayerBlocks l).filter (fun b => b.isInRam) =
        m.blockPool.getLayerBlocks l := by
      rw [List.filter_eq_self]
      intro b hb
      have := List.filter_eq_nil_iff.mp hcold b hb
      simpa using this
    rw [List.append_nil, List.append_nil, tokensWhere, hall, List.flatMap_def, h.map_rowsOf l,
      flatten_chunks policy.block_pos]
  · obtain ⟨tokens, m', hout, hperm⟩ := coldPartition_eq np sqrt query h
      (hheads.resolve_left hcold) hcold htop
    rw [hout, if_neg hcold]
    refine ⟨_, m', rfl, ?_⟩
    have hsplit := (hperm.append_left _).trans (tokens_split h l)
    have hmap := hsplit.map fun t =>
      (⟨logit query (attentionScale sqrt dim) t.1, t.2⟩ : PartitionToken α heads dim)
    rwa [List.map_append] at hmap

variable {np sqrt query}

/-- A decode step that answers is the dense attention over what it fed. -/
theorem computeDecodeAttention_eq [IsStrictOrderedRing α] (e : Exponential α) {l : Nat}
    {defaultTopK : Nat} (topK : Option Nat) {fed : FedPartitions α heads dim}
    {m' : Manager α heads dim} {tokens : List (KVToken α heads dim)}
    (hfed : fedPartitions widths np sqrt m query l (topK.getD defaultTopK) = (.ok fed, m'))
    (hperm : (fed.hot ++ fed.cold).Perm (partition query (attentionScale sqrt dim) tokens)) :
    (computeDecodeAttention widths np sqrt e defaultTopK m query l topK).1 =
      .ok (denseAttention e query (attentionScale sqrt dim) tokens,
        stats m l (topK.getD defaultTopK) fed) := by
  have hrep := OnlineSoftmaxAccumulator.represents_foldl e
    (OnlineSoftmaxAccumulator.represents_init e) [fed.hot, fed.cold]
  have hseen : [] ++ [fed.hot, fed.cold].flatten = fed.hot ++ fed.cold := by simp
  rw [hseen] at hrep
  rw [computeDecodeAttention, hfed]
  dsimp only
  rw [accumulate, finalize_of_partition hrep hperm]

end Field

/-! ## Exactness -/

open InStorageAttentionPruner

/-- The decode step feeds every token of `tokens` once and returns their dense attention. -/
def DecodesExactly (widths : ElementWidths) (np : IndexSort ℝ) (defaultTopK : Nat)
    (m : Manager ℝ heads dim) (query : Row ℝ heads dim) (layerId : Nat) (topK : Option Nat)
    (tokens : List (KVToken ℝ heads dim)) : Prop :=
  ∃ fed m' stats,
    fedPartitions widths np Real.sqrt m query layerId (topK.getD defaultTopK) = (.ok fed, m') ∧
      (fed.hot ++ fed.cold).Perm (partition query (attentionScale Real.sqrt dim) tokens) ∧
      (computeDecodeAttention widths np Real.sqrt Exponential.real defaultTopK m query layerId
        topK).1 = .ok (denseAttention Exponential.real query (attentionScale Real.sqrt dim) tokens,
          stats)

def reached (policy : TieringPolicy) (widths : ElementWidths)
    (ops : List (Op (Row ℝ heads dim) (Row ℝ heads dim))) : Manager ℝ heads dim :=
  (machine policy (MockSSDController.kvStorage widths)).exec (init .init) ops

/-- Decode attention with `top_k` covering the layer's stored blocks is exact if and
only if the layer has no cold block, or no RAM-resident block of it has a copy in
flash (and there is a head to score with). -/
theorem decodes_exactly_iff (policy : TieringPolicy) (widths : ElementWidths) (np : IndexSort ℝ)
    (ops : List (Op (Row ℝ heads dim) (Row ℝ heads dim))) (honce : PrefillOnce ops)
    (query : Row ℝ heads dim) (layerId defaultTopK : Nat) (topK : Option Nat)
    (htop : ((reached policy widths ops).storage.layerEntries layerId).length ≤
      topK.getD defaultTopK) :
    DecodesExactly widths np defaultTopK (reached policy widths ops) query layerId topK
        (history ops layerId) ↔
      (reached policy widths ops).getColdBlocks layerId = [] ∨
        0 < heads ∧ ∀ b ∈ (reached policy widths ops).blockPool.getLayerBlocks layerId,
          b.isInRam = true → inFlash (reached policy widths ops) layerId b = false := by
  have h : Holds policy widths (reached policy widths ops) (history ops) :=
    represents_run_of_raises rfl (fun _ _ _ _ => MockSSDController.view_of_loadKv widths) honce
  generalize reached policy widths ops = m at h htop ⊢
  constructor
  · rintro ⟨fed, m', _, hfed, hperm, _⟩
    by_cases hcold : m.getColdBlocks layerId = []
    · exact .inl hcold
    · have hheads : 0 < heads := by
        by_contra hzero
        obtain ⟨err, m'', herr⟩ := coldPartition_no_heads np Real.sqrt query widths m
          (topK.getD defaultTopK) (by omega) hcold
        rw [fedPartitions, hotPartition_eq h layerId, herr] at hfed
        cases hfed
      refine .inr ⟨hheads, ?_⟩
      obtain ⟨fed', m'', hfed', hperm'⟩ :=
        fedPartitions_perm np Real.sqrt query h (.inr hheads) htop
      rw [hfed] at hfed'
      cases hfed'
      -- feeding exactly the history leaves no room for a doubled block
      have hlen := hperm.symm.trans hperm' |>.length_eq
      simp only [partition, List.length_map, List.length_append] at hlen
      have hnil : doubled policy m (history ops) layerId = [] :=
        List.eq_nil_of_length_eq_zero (by omega)
      rw [doubled, if_neg hcold, tokensWhere, List.flatMap_eq_nil_iff] at hnil
      intro b hb hram
      by_contra hflash
      have hrows := hnil b (List.mem_filter.mpr ⟨hb, by simp [hram, hflash]⟩)
      have hp := h.placed_mem hb
      obtain ⟨i, hi⟩ := List.mem_iff_getElem?.mp hb
      have hlt := h.chunk_start_lt (h.linked.getLayerBlocks_getElem?_iff.mp hi).1
      rw [← (h.placed_getElem? hi).index_eq] at hlt
      have hcount := length_chunk policy.tokensPerBlock (history ops layerId)
        (b.tokenStart / policy.tokensPerBlock)
      rw [rowsOf] at hrows
      rw [hrows, List.length_nil] at hcount
      have hpos := policy.block_pos
      omega
  · intro hcond
    obtain ⟨fed, m', hfed, hperm⟩ := fedPartitions_perm np Real.sqrt query h
      (hcond.imp id And.left) htop
    have hnil : doubled policy m (history ops) layerId = [] := by
      by_cases hcold : m.getColdBlocks layerId = []
      · rw [doubled, if_pos hcold]
      · obtain ⟨_, hflash⟩ := hcond.resolve_left hcold
        rw [doubled, if_neg hcold, tokensWhere, List.flatMap_eq_nil_iff]
        intro b hb
        obtain ⟨hmem, hboth⟩ := List.mem_filter.mp hb
        rw [Bool.and_eq_true] at hboth
        rw [hflash b hmem hboth.2] at hboth
        cases hboth.1
    rw [hnil, List.append_nil] at hperm
    exact ⟨fed, m', _, hfed, hperm, computeDecodeAttention_eq Exponential.real topK hfed hperm⟩

def onePerBlock : TieringPolicy := ⟨0, 1, 1, Nat.one_pos, Nat.one_pos⟩

def oneByOne (x : ℝ) : Row ℝ 1 1 := fun _ _ => x

/-- Three tokens, of which the first two go to flash. -/
noncomputable def threeTokens : Op (Row ℝ 1 1) (Row ℝ 1 1) :=
  .prefill 0 [(oneByOne 0, oneByOne 1), (oneByOne 0, oneByOne 0), (oneByOne 0, oneByOne 0)]

/-- With nothing fetched back the three tokens are decoded exactly. -/
theorem decodes_exactly_three_tokens :
    DecodesExactly ⟨4, 4⟩ IndexSort.stable 2 (reached onePerBlock ⟨4, 4⟩ [threeTokens]) (oneByOne 0)
      0 none (history [threeTokens] 0) := by
  have honce : PrefillOnce [threeTokens] := List.pairwise_singleton _ _
  have hflash : ((reached onePerBlock ⟨4, 4⟩ [threeTokens]).blockPool.getLayerBlocks 0).all
      (fun b => !b.isInRam || !inFlash (reached onePerBlock ⟨4, 4⟩ [threeTokens]) 0 b) = true := rfl
  refine (decodes_exactly_iff onePerBlock ⟨4, 4⟩ IndexSort.stable [threeTokens] honce (oneByOne 0)
    0 2 none (Nat.le_of_eq rfl)).mpr (.inr ⟨Nat.one_pos, ?_⟩)
  intro b hb hram
  have hor := List.all_eq_true.mp hflash b hb
  simpa [hram] using hor

/-- The first block fetched back is counted in RAM and in flash: the answer is 1/2
where the dense attention is 1/3. -/
theorem promoted_block_counted_twice :
    PrefillOnce [threeTokens, .fetch 0 0] ∧
      ((reached onePerBlock ⟨4, 4⟩ [threeTokens, .fetch 0 0]).storage.layerEntries 0).length ≤ 2 ∧
      ∃ out stats,
        (computeDecodeAttention ⟨4, 4⟩ IndexSort.stable Real.sqrt Exponential.real 2
          (reached onePerBlock ⟨4, 4⟩ [threeTokens, .fetch 0 0]) (oneByOne 0) 0 none).1 =
            .ok (out, stats) ∧
        out ≠ denseAttention Exponential.real (oneByOne 0) (attentionScale Real.sqrt 1)
          (history [threeTokens, .fetch 0 0] 0) := by
  have honce : PrefillOnce [threeTokens, .fetch 0 0] := by simp [PrefillOnce]
  have hcount : ((reached onePerBlock ⟨4, 4⟩ [threeTokens, .fetch 0 0]).storage.layerEntries 0).length
      ≤ 2 := Nat.le_of_eq rfl
  refine ⟨honce, hcount, ?_⟩
  have hrep : Holds onePerBlock ⟨4, 4⟩ (reached onePerBlock ⟨4, 4⟩ [threeTokens, .fetch 0 0])
      (history [threeTokens, .fetch 0 0]) :=
    represents_run_of_raises rfl (fun _ _ _ _ => MockSSDController.view_of_loadKv ⟨4, 4⟩) honce
  obtain ⟨fed, m', hfed, hperm⟩ := fedPartitions_perm IndexSort.stable Real.sqrt
    (oneByOne 0) hrep (.inr Nat.one_pos) hcount
  have hdoubled : doubled onePerBlock (reached onePerBlock ⟨4, 4⟩ [threeTokens, .fetch 0 0])
      (history [threeTokens, .fetch 0 0]) 0 = [(oneByOne 0, oneByOne 1)] := rfl
  have hhist : history [threeTokens, .fetch 0 0] 0 =
      [(oneByOne 0, oneByOne 1), (oneByOne 0, oneByOne 0), (oneByOne 0, oneByOne 0)] := rfl
  rw [hdoubled] at hperm
  refine ⟨_, _, computeDecodeAttention_eq Exponential.real none hfed hperm, ?_⟩
  intro heq
  have hvalue := congrFun (congrFun heq 0) 0
  rw [hhist] at hvalue
  norm_num [denseAttention, logit, oneByOne] at hvalue

end AiSsd.Attention
