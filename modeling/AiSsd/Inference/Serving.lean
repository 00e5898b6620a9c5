import AiSsd.Adapters.ActiveState
import AiSsd.Lib.Lockstep

/-!
# Stores that serve a decode

Decoding writes every block once and then only reads. A store serves it when its reads answer
the blocks that are written and its prefetches of blocks that every layer has go through. That
is less than returning the last write, and a store behind a prefetch buffer does it. A selection
over such a store returns what the stored blocks alone say.
-/

namespace AiSsd.Inference

open Lib Numpy Adapters Storage TransformerKVStateProvider

universe u v

abbrev Content := Nat × Nat → Option (NDArray × NDArray)

def Stored (c : Content) (l : Nat) (bids : List Nat) : Prop := ∀ bid ∈ bids, (c (l, bid)).isSome

def Paged {ρ : Type} (c : Content) (l : Nat) (bids : List Nat) (page : NDArray × NDArray → ρ)
    (pages : Dict Nat ρ) : Prop :=
  ∀ bid ∈ bids, pages.get? bid = (c (l, bid)).map page

variable {σ : Type v} {α : Type u}

/-- The calls of a selection, answered from the content that a state holds. -/
structure Serves (B : BlockBackend σ α) (numLayers : Nat) (holds : σ → Content → Prop) :
    Prop where
  keys : ∀ b c l bids, holds b c → Stored c l bids → ∃ pages b',
    readPages B.readKeyPageBatch B.readKeyPage b l bids = (.ok pages, b') ∧ holds b' c ∧
      Paged c l bids Prod.fst pages
  values : ∀ b c l bids, holds b c → Stored c l bids → ∃ pages b',
    readPages B.readValuePageBatch B.readValuePage b l bids = (.ok pages, b') ∧ holds b' c ∧
      Paged c l bids Prod.snd pages
  winners : ∀ b c l bids, holds b c → Stored c l bids → ∃ keyPages valuePages b',
    readWinners B b l bids = (.ok (keyPages, valuePages), b') ∧ holds b' c ∧
      Paged c l bids Prod.fst keyPages ∧ Paged c l bids Prod.snd valuePages
  prefetches : ∀ prefetch ∈ B.predictAndPrefetch, ∀ b c l bids mode, holds b c →
    l < numLayers → (∀ l' < numLayers, Stored c l' bids) →
    ∃ out b', prefetch b l bids mode = (.ok out, b') ∧ holds b' c

/-- Scoring in the store is NumPy scoring of what it holds. -/
def ServesScores [Field α] [LinearOrder α] (B : BlockBackend σ α) (val : DType → Bytes → α)
    (holds : σ → Content → Prop) : Prop :=
  ∀ filter ∈ B.computeTopkFilter, ∀ b c l cands blk query topK scale qHeads kvHeads headDim,
    holds b c → (∀ cand ∈ cands, c (l, cand.1) = some (blk cand.1)) →
    ∃ b', filter b l cands query topK scale qHeads kvHeads headDim =
      (storedTopBids val blk cands query qHeads (if kvHeads > 0 then qHeads / kvHeads else 1)
        scale topK, b') ∧ holds b' c

/-! ## Selecting -/

section Select

variable {geo : KVGeometry} {B : BlockBackend σ α} {numLayers : Nat}
  {holds : σ → Content → Prop} {cfg : ProviderConfig} {s : TransformerKVStateProvider geo σ}
  {c : Content} {l : Nat} {blk : Nat → NDArray × NDArray}

structure SameHost (holds : σ → Content → Prop) (c : Content)
    (s s' : TransformerKVStateProvider geo σ) : Prop where
  layerData_eq : s'.layerData = s.layerData
  numKvHeads_eq : s'.numKvHeads = s.numKvHeads
  headDim_eq : s'.headDim = s.headDim
  held : holds s'.backend c

/-- The winners came in with their pages, and nothing else changed. -/
structure LoadsServed (holds : σ → Content → Prop) (c : Content)
    (blk : Nat → NDArray × NDArray) (topBids : List (α × Nat × Nat))
    (s : TransformerKVStateProvider geo σ)
    (r : Except PyErr (Loaded α) × TransformerKVStateProvider geo σ) : Prop where
  loads : Loads blk topBids r.1
  host : SameHost holds c s r.2

theorem paged_get {ρ : Type} {bids : List Nat} {page : NDArray × NDArray → ρ} {pages : Dict Nat ρ}
    (h : Paged c l bids page pages) (hblk : ∀ bid ∈ bids, c (l, bid) = some (blk bid)) :
    ∀ bid ∈ bids, pages.get? bid = some (page (blk bid)) := by
  intro bid hbid
  rw [h bid hbid, hblk bid hbid, Option.map_some]

theorem stored_of_blk {bids : List Nat} (hblk : ∀ bid ∈ bids, c (l, bid) = some (blk bid)) :
    Stored c l bids := by
  intro bid hbid
  rw [hblk bid hbid]
  rfl

theorem exists_blk {bids : List Nat} (h : Stored c l bids) :
    ∃ blk : Nat → NDArray × NDArray, ∀ bid ∈ bids, c (l, bid) = some (blk bid) := by
  let blank : NDArray := ⟨float32, [0], [], rfl⟩
  refine ⟨fun bid => (c (l, bid)).getD (blank, blank), fun bid hbid => ?_⟩
  obtain ⟨kv, hkv⟩ := Option.isSome_iff_exists.mp (h bid hbid)
  simp [hkv]

theorem winners_of_batch {read : BatchRead σ (NDArray × NDArray)}
    (hbatch : B.readBlockBatch = some read) {b b' : σ} {bids : List Nat}
    {blocks : Dict Nat (NDArray × NDArray)} (hcall : read b l bids 0 0 = (.ok blocks, b'))
    (hpaged : Paged c l bids id blocks) (hstored : Stored c l bids) :
    ∃ keyPages valuePages, readWinners B b l bids = (.ok (keyPages, valuePages), b') ∧
      Paged c l bids Prod.fst keyPages ∧ Paged c l bids Prod.snd valuePages := by
  obtain ⟨blk, hblk⟩ := exists_blk hstored
  obtain ⟨keyPages, hkeys, hkget⟩ :=
    pagesOfBlocks_ok Prod.fst (paged_get hpaged hblk) Dict.empty
  obtain ⟨valuePages, hvalues, hvget⟩ :=
    pagesOfBlocks_ok Prod.snd (paged_get hpaged hblk) Dict.empty
  refine ⟨keyPages, valuePages, ?_, ?_, ?_⟩
  · simp only [readWinners, hbatch, hcall, hkeys, hvalues]
  · intro bid hbid
    rw [hkget bid, if_pos hbid, hblk bid hbid]
    rfl
  · intro bid hbid
    rw [hvget bid, if_pos hbid, hblk bid hbid]
    rfl

variable (cfg) in
theorem prefetch_served (hserves : Serves B numLayers holds) {b : σ} (hb : holds b c)
    (hl : l < numLayers) {bids : List Nat} (hall : ∀ l' < numLayers, Stored c l' bids)
    (mode : Option Bool) :
    ∃ b', prefetchWinners B cfg b l bids mode = (.ok (), b') ∧ holds b' c := by
  unfold prefetchWinners
  split
  · exact ⟨b, rfl, hb⟩
  · rename_i prefetch hprefetch
    have hmem : prefetch ∈ B.predictAndPrefetch := by
      split at hprefetch
      · exact hprefetch
      · cases hprefetch
    obtain ⟨out, b', hcall, hb'⟩ := hserves.prefetches prefetch hmem b c l bids mode hb hl hall
    exact ⟨b', by rw [hcall]; rfl, hb'⟩

variable {topBids : List (α × Nat × Nat)}

variable (cfg) in
theorem loadThenPrefetch_served (hserves : Serves B numLayers holds) (hs : holds s.backend c)
    (hl : l < numLayers) (hblk : ∀ bid ∈ winnerIds topBids, c (l, bid) = some (blk bid))
    (hall : ∀ l' < numLayers, Stored c l' (winnerIds topBids)) :
    LoadsServed holds c blk topBids s (loadThenPrefetch B cfg s l topBids) := by
  obtain ⟨keyPages, valuePages, b₁, hread, hb₁, hkeys, hvalues⟩ :=
    hserves.winners s.backend c l (winnerIds topBids) hs (stored_of_blk hblk)
  obtain ⟨b₂, hprefetch, hb₂⟩ := prefetch_served cfg hserves hb₁ hl hall (some true)
  simp only [loadThenPrefetch, hread, countWinners, hprefetch]
  refine ⟨⟨_, rfl, rfl, ?_⟩, ⟨rfl, rfl, rfl, hb₂⟩⟩
  intro t ht
  exact ⟨paged_get hkeys hblk _ (List.mem_map_of_mem ht),
    paged_get hvalues hblk _ (List.mem_map_of_mem ht)⟩

variable (cfg) in
theorem prefetchThenLoad_served (hserves : Serves B numLayers holds) (hs : holds s.backend c)
    (hl : l < numLayers) (hblk : ∀ bid ∈ winnerIds topBids, c (l, bid) = some (blk bid))
    (hall : ∀ l' < numLayers, Stored c l' (winnerIds topBids)) :
    LoadsServed holds c blk topBids s (prefetchThenLoad B cfg s l topBids) := by
  obtain ⟨b₁, hprefetch, hb₁⟩ := prefetch_served cfg hserves hs hl hall none
  obtain ⟨valuePages, b₂, hreadValues, hb₂, hvalues⟩ :=
    hserves.values b₁ c l (winnerIds topBids) hb₁ (stored_of_blk hblk)
  obtain ⟨keyPages, b₃, hreadKeys, hb₃, hkeys⟩ :=
    hserves.keys b₂ c l (winnerIds topBids) hb₂ (stored_of_blk hblk)
  simp only [prefetchThenLoad, hprefetch, hreadValues, hreadKeys]
  refine ⟨⟨_, rfl, rfl, ?_⟩, ⟨rfl, rfl, rfl, hb₃⟩⟩
  intro t ht
  exact ⟨paged_get hkeys hblk _ (List.mem_map_of_mem ht),
    paged_get hvalues hblk _ (List.mem_map_of_mem ht)⟩

section Scored

variable [Field α] [LinearOrder α] {N : Numerics α}

theorem hostLoad_served (hserves : Serves B numLayers holds) (hs : holds s.backend c)
    (hl : l < numLayers) {cands : List (Nat × Nat)}
    (hblk : ∀ bid ∈ cands.map Prod.fst, c (l, bid) = some (blk bid))
    (hall : ∀ l' < numLayers, Stored c l' (cands.map Prod.fst)) {q : List (List α)} {scale : α}
    {k : Nat}
    (htop : storedTopBids N.val blk cands q q.length cfg.config.gqaRatio scale k = .ok topBids) :
    LoadsServed holds c blk topBids s (hostLoad B cfg N none s l cands q scale k) := by
  have hwin : ∀ bid ∈ winnerIds topBids, bid ∈ cands.map Prod.fst := by
    intro bid hbid
    obtain ⟨t, ht, rfl⟩ := List.mem_map.mp hbid
    exact List.mem_map_of_mem (mem_of_storedTopBids htop t ht)
  obtain ⟨keyPages, b₁, hreadKeys, hb₁, hkeys⟩ :=
    hserves.keys s.backend c l (cands.map Prod.fst) hs (stored_of_blk hblk)
  have hkget := paged_get hkeys hblk
  have hlist : (cands.map Prod.fst).mapM (pageOf keyPages) =
      .ok ((cands.map Prod.fst).map fun bid => (blk bid).1) := by
    apply mapM_ok
    intro bid hbid
    rw [pageOf, hkget bid hbid]
  have hwinners : ∀ l' < numLayers, Stored c l' (winnerIds topBids) :=
    fun l' hl' bid hbid => hall l' hl' bid (hwin bid hbid)
  obtain ⟨b₂, hprefetch, hb₂⟩ := prefetch_served cfg hserves hb₁ hl hwinners none
  obtain ⟨valuePages, b₃, hreadValues, hb₃, hvalues⟩ := hserves.values b₂ c l (winnerIds topBids)
    hb₂ (stored_of_blk fun bid hbid => hblk bid (hwin bid hbid))
  have hchosen : ∀ s' : TransformerKVStateProvider geo σ,
      hostTopBids cfg N none s' cands keyPages ((cands.map Prod.fst).map fun bid => (blk bid).1) q
        scale k = .ok topBids := by
    intro s'
    have hscores := hostScores_eq cfg N hkget q scale
    unfold storedTopBids at htop
    unfold hostTopBids
    dsimp only
    rw [hscores]
    exact htop
  simp only [hostLoad, hreadKeys, hlist, hchosen, hprefetch, hreadValues]
  refine ⟨⟨_, rfl, rfl, ?_⟩, ⟨rfl, rfl, rfl, hb₃⟩⟩
  intro t ht
  have hid : t.2.1 ∈ winnerIds topBids := List.mem_map_of_mem ht
  exact ⟨hkget _ (hwin _ hid), paged_get hvalues (fun bid hbid => hblk bid (hwin bid hbid)) _ hid⟩

def ScoresServed (cfg : ProviderConfig) (B : BlockBackend σ α) (N : Numerics α)
    (holds : σ → Content → Prop) : Prop :=
  cfg.enableComputationalStorage = false ∨ B.computeTopkFilter = none ∨
    ServesScores B N.val holds

/-- Either way of scoring, and either order of loading after it. -/
theorem loadWinners_served (hserves : Serves B numLayers holds)
    (hscores : ScoresServed cfg B N holds) (hs : holds s.backend c) (hl : l < numLayers)
    {cands : List (Nat × Nat)} (hblk : ∀ bid ∈ cands.map Prod.fst, c (l, bid) = some (blk bid))
    (hall : ∀ l' < numLayers, Stored c l' (cands.map Prod.fst)) {q : List (List α)} {scale : α}
    (hkv : 0 < s.numKvHeads) (hheads : q.length = cfg.config.gqaRatio * s.numKvHeads)
    (htop : storedTopBids N.val blk cands q q.length cfg.config.gqaRatio scale
      (topKCount cands.length cfg.topKPct) = .ok topBids) :
    LoadsServed holds c blk topBids s (loadWinners B cfg N none s l cands q scale) := by
  unfold loadWinners
  dsimp only
  cases hfilter : (if cfg.enableComputationalStorage then B.computeTopkFilter else none) with
  | none => exact hostLoad_served hserves hs hl hblk hall htop
  | some filter =>
      have hmem : filter ∈ B.computeTopkFilter := by
        split at hfilter
        · exact hfilter
        · cases hfilter
      have hstored : ServesScores B N.val holds := by
        rcases hscores with hoff | hnone | hstored
        · simp [hoff] at hfilter
        · simp [hnone] at hfilter
        · exact hstored
      have hratio : (if s.numKvHeads > 0 then q.length / s.numKvHeads else 1) =
          cfg.config.gqaRatio := by
        rw [if_pos hkv, hheads, Nat.mul_div_cancel _ hkv]
      obtain ⟨b', hcall, hb'⟩ := hstored filter hmem s.backend c l cands blk q
        (topKCount cands.length cfg.topKPct) scale q.length s.numKvHeads s.headDim hs
        fun cand hcand => hblk _ (List.mem_map_of_mem hcand)
      rw [hratio, htop] at hcall
      have hwin : ∀ bid ∈ winnerIds topBids, bid ∈ cands.map Prod.fst := by
        intro bid hbid
        obtain ⟨t, ht, rfl⟩ := List.mem_map.mp hbid
        exact List.mem_map_of_mem (mem_of_storedTopBids htop t ht)
      have hblk' := fun bid hbid => hblk bid (hwin bid hbid)
      have hall' := fun l' hl' bid hbid => hall l' hl' bid (hwin bid hbid)
      simp only [hcall]
      split
      · have hloads := loadThenPrefetch_served cfg
          (s := { s with
            backend := b'
            topkMetadataBytesToHost := s.topkMetadataBytesToHost + topBids.length * 12 })
          hserves hb' hl hblk' hall'
        exact ⟨hloads.loads, hloads.host.1, hloads.host.2, hloads.host.3, hloads.host.4⟩
      · have hloads := prefetchThenLoad_served cfg
          (s := { s with
            backend := b'
            topkMetadataBytesToHost := s.topkMetadataBytesToHost + topBids.length * 12 })
          hserves hb' hl hblk' hall'
        exact ⟨hloads.loads, hloads.host.1, hloads.host.2, hloads.host.3, hloads.host.4⟩

/-- A selection returns what the stored blocks say, and changes nothing that is stored. -/
theorem select_served (hserves : Serves B numLayers holds) (hscores : ScoresServed cfg B N holds)
    (hs : holds s.backend c) (hl : l < numLayers) {ld : LayerData geo}
    (hld : s.layerData.get? l = some ld)
    (hblk : ∀ bid ∈ ld.candidateBlocks.map Prod.fst, c (l, bid) = some (blk bid))
    (hall : ∀ l' < numLayers, Stored c l' (ld.candidateBlocks.map Prod.fst))
    {q : List (List α)} (hkv : 0 < s.numKvHeads) (hdim : s.headDim ≠ 0)
    (hheads : q.length = cfg.config.gqaRatio * s.numKvHeads)
    (htop : storedTopBids N.val blk ld.candidateBlocks q q.length cfg.config.gqaRatio
      (N.invSqrt s.headDim) (topKCount ld.candidateBlocks.length cfg.topKPct) = .ok topBids) :
    (selectAndFetchActiveState B cfg N none s l (some q)).1 =
        selectStored N cfg.config.gqaRatio cfg.topKPct s.headDim ld blk q ∧
      SameHost holds c s (selectAndFetchActiveState B cfg N none s l (some q)).2 := by
  simp only [selectAndFetchActiveState, selectStored, hld, if_neg hdim, htop]
  split
  · exact ⟨rfl, rfl, rfl, rfl, hs⟩
  · obtain ⟨⟨loaded, hok, rfl, hfor⟩, hhost⟩ :=
      loadWinners_served hserves hscores hs hl hblk hall hkv hheads htop
    rcases hcall : loadWinners B cfg N none s l ld.candidateBlocks q (N.invSqrt s.headDim)
      with ⟨out, s'⟩
    rw [hcall] at hok hhost
    cases hok
    exact ⟨reconstruct_eq N.toAstype ld hfor, hhost⟩

end Scored

end Select

/-! ## Writing -/

/-- Blocks of the format are written over an empty or a partly filled store. -/
def Stores (B : BlockBackend σ α) (fmt : NDArray → Prop) (holds : σ → Content → Prop) : Prop :=
  ∀ b c l bid k v, holds b c → fmt k → fmt v → ∃ b', B.writeBlock b l bid k v 0 0 = (.ok (), b') ∧
    holds b' (Function.update c (l, bid) (some (k, v)))

/-- A store that takes the blocks of a prefill and then, its counters reset, serves the decode. -/
structure Decodes (B : BlockBackend σ α) (resetStats : σ → σ) (numLayers : Nat)
    (fmt : NDArray → Prop) where
  writing : σ → Content → Prop
  reading : σ → Content → Prop
  stores : Stores B fmt writing
  serves : Serves B numLayers reading
  ready : ∀ b c, writing b c → reading (resetStats b) c

def contentStore : BlockBackend Content Unit where
  writeBlock := fun c l bid k v _ _ => (.ok (), Function.update c (l, bid) (some (k, v)))
  readKeyPage := fun c l bid _ _ => (pageAt c l bid Prod.fst, c)
  readValuePage := fun c l bid _ _ => (pageAt c l bid Prod.snd, c)
  readBlock := fun c l bid _ _ => (pageAt c l bid id, c)
  readKeyPageBatch := none
  readValuePageBatch := none
  readBlockBatch := none
  evictBlock := none
  computeTopkFilter := none
  predictAndPrefetch := none
where
  pageAt {ρ : Type} (c : Content) (l bid : Nat) (page : NDArray × NDArray → ρ) : Except PyErr ρ :=
    match c (l, bid) with
    | none => .error (.keyError (toString (l, bid)))
    | some kv => .ok (page kv)

def contentView : StoreView Content := ⟨fun _ => True, id⟩

theorem contentView_reads {ρ : Type} (page : NDArray × NDArray → ρ) :
    contentView.Reads page fun c l bid _ _ => (contentStore.pageAt c l bid page, c) where
  keeps := fun _ _ _ _ _ _ => .refl trivial
  returns := by
    intro c l bid h t kv _ hkv
    simp only [contentStore.pageAt, show c (l, bid) = some kv from hkv]

def contentContract : contentStore.ReturnsLastWrite where
  toStoreView := contentView
  write_ok := fun _ _ _ _ _ _ _ _ _ _ => rfl
  write_valid := fun _ _ _ _ _ _ _ _ _ _ => trivial
  write_content := fun _ _ _ _ _ _ _ _ _ _ => rfl
  key := contentView_reads Prod.fst
  value := contentView_reads Prod.snd
  block := contentView_reads id
  keyBatch := by rintro _ ⟨⟩
  valueBatch := by rintro _ ⟨⟩
  blockBatch := by rintro _ ⟨⟩
  evict_valid := by rintro _ ⟨⟩
  evict_content := by rintro _ ⟨⟩
  topk_keeps := by rintro _ ⟨⟩
  prefetch_ok := by rintro _ ⟨⟩
  prefetch_keeps := by rintro _ ⟨⟩

section Prefill

variable {geo : KVGeometry} {B : BlockBackend σ α} {fmt : NDArray → Prop}
  {holds : σ → Content → Prop} {cfg : ProviderConfig}

structure Alike (holds : σ → Content → Prop) (s : TransformerKVStateProvider geo σ)
    (s₀ : TransformerKVStateProvider geo Content) : Prop where
  layerData_eq : s.layerData = s₀.layerData
  numKvHeads_eq : s.numKvHeads = s₀.numKvHeads
  headDim_eq : s.headDim = s₀.headDim
  held : holds s.backend s₀.backend

def Cuts (cfg : ProviderConfig) (geo : KVGeometry) (fmt : NDArray → Prop) : Prop :=
  ∀ rows : List (TokenRow geo), fmt (blockArray cfg.tokensPerBlock rows)

variable (hstores : Stores B fmt holds) (hcuts : Cuts cfg geo fmt)
include hstores hcuts

theorem lockstep_offloadBlocks (l : Nat) (kT vT : List (TokenRow geo)) (count bid : Nat) :
    Lockstep holds (offloadBlocks B cfg l kT vT count bid)
      (offloadBlocks contentStore cfg l kT vT count bid) := by
  induction count generalizing bid with
  | zero => exact .answer _
  | succ count ih =>
      intro b c hb
      obtain ⟨b', hwrite, hb'⟩ := hstores b c l bid _ _ hb
        (hcuts (slice kT (bid * cfg.tokensPerBlock)
          (min (bid * cfg.tokensPerBlock + cfg.tokensPerBlock) kT.length)))
        (hcuts (slice vT (bid * cfg.tokensPerBlock)
          (min (bid * cfg.tokensPerBlock + cfg.tokensPerBlock) kT.length)))
      obtain ⟨hout, hheld⟩ := ih (bid + 1) b' _ hb'
      simp only [offloadBlocks, hwrite]
      dsimp only [contentStore] at hout hheld ⊢
      revert hout hheld
      rcases offloadBlocks B cfg l kT vT count (bid + 1) b' with ⟨_ | cands, b''⟩ <;>
        rcases offloadBlocks _ cfg l kT vT count (bid + 1) _ with ⟨_ | cands', c''⟩ <;>
        rintro ⟨⟩ hheld
      · exact ⟨rfl, hheld⟩
      · exact ⟨rfl, hheld⟩

theorem lockstep_offload (l : Nat) (kT vT : List (TokenRow geo)) :
    Lockstep holds (offload B cfg l kT vT)
      (offload contentStore cfg l kT vT) := by
  intro b c hb
  unfold offload
  split
  · exact ⟨rfl, hb⟩
  · exact lockstep_offloadBlocks hstores hcuts l kT vT _ 0 b c hb

theorem lockstep_prefillLayer (l : Nat) (tokens : List (KVToken geo)) :
    Lockstep (Alike holds) (fun s => prefillLayer B cfg s l tokens) fun s =>
      prefillLayer contentStore cfg s l tokens := by
  intro s s₀ ⟨hlayers, hheads, hdim, hheld⟩
  unfold prefillLayer
  dsimp only
  split
  · exact ⟨rfl, by rw [hlayers], hheads, hdim, hheld⟩
  · have hoff : Lockstep holds
        (fun b => if tokens.length - cfg.recentTokens > cfg.sinkTokens then
          offload B cfg l
            (slice (tokens.map Prod.fst) cfg.sinkTokens (tokens.length - cfg.recentTokens))
            (slice (tokens.map Prod.snd) cfg.sinkTokens (tokens.length - cfg.recentTokens)) b
          else (.ok [], b))
        (fun c => if tokens.length - cfg.recentTokens > cfg.sinkTokens then
          offload contentStore cfg l
            (slice (tokens.map Prod.fst) cfg.sinkTokens (tokens.length - cfg.recentTokens))
            (slice (tokens.map Prod.snd) cfg.sinkTokens (tokens.length - cfg.recentTokens)) c
          else (.ok [], c)) := by
      split
      · exact lockstep_offload hstores hcuts l _ _
      · exact .answer _
    obtain ⟨hout, hheld'⟩ := hoff s.backend s₀.backend hheld
    dsimp only at hout hheld'
    revert hout hheld'
    rcases (if tokens.length - cfg.recentTokens > cfg.sinkTokens then
        offload B cfg l
          (slice (tokens.map Prod.fst) cfg.sinkTokens (tokens.length - cfg.recentTokens))
          (slice (tokens.map Prod.snd) cfg.sinkTokens (tokens.length - cfg.recentTokens)) s.backend
        else (.ok [], s.backend)) with ⟨_ | cands, b'⟩ <;>
      rcases (if tokens.length - cfg.recentTokens > cfg.sinkTokens then
        offload contentStore cfg l
          (slice (tokens.map Prod.fst) cfg.sinkTokens (tokens.length - cfg.recentTokens))
          (slice (tokens.map Prod.snd) cfg.sinkTokens (tokens.length - cfg.recentTokens)) s₀.backend
        else (.ok [], s₀.backend)) with ⟨_ | cands', c'⟩ <;>
      rintro ⟨⟩ hheld'
    · exact ⟨rfl, hlayers, hheads, hdim, hheld'⟩
    · exact ⟨rfl, by rw [hlayers], hheads, hdim, hheld'⟩

theorem lockstep_prefillLayers (layers : List (Nat × List (KVToken geo))) :
    Lockstep (Alike holds) (prefillLayers B cfg layers)
      (prefillLayers contentStore cfg layers) := by
  induction layers with
  | nil => exact .answer _
  | cons layer rest ih =>
      obtain ⟨l, tokens⟩ := layer
      intro s s₀ hs
      obtain ⟨hout, hnext⟩ := lockstep_prefillLayer hstores hcuts l tokens s s₀ hs
      simp only [prefillLayers]
      dsimp only at hout hnext
      revert hout hnext
      rcases prefillLayer B cfg s l tokens with ⟨_ | _, s'⟩ <;>
        rcases prefillLayer _ cfg s₀ l tokens with ⟨_ | _, s₀'⟩ <;>
        rintro ⟨⟩ hnext
      · exact ⟨rfl, hnext⟩
      · exact ih s' s₀' hnext

theorem lockstep_prefill (past : PastKeyValues geo) :
    Lockstep (Alike holds) (fun s => initFromPrefill B cfg s past) fun s =>
      initFromPrefill contentStore cfg s past := by
  intro s s₀ hs
  cases hlayers : past.layersDict with
  | error err =>
      simp only [initFromPrefill, hlayers]
      exact ⟨trivial, hs⟩
  | ok layers =>
      simp only [initFromPrefill, hlayers]
      exact lockstep_prefillLayers hstores hcuts layers _ _ ⟨hs.1, rfl, rfl, hs.4⟩

end Prefill

end AiSsd.Inference
