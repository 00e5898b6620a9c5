import AiSsd.Adapters.TransformerKV

/-!
# What a selection reads

A selection changes neither the layers nor what is stored. Over a store that returns
the last write, every way of loading the winners gives the same tensors: those of
`selectStored`, a function of the stored blocks alone.
-/

namespace AiSsd.Adapters.TransformerKVStateProvider

open Lib Numpy Storage

universe u v

variable {geo : KVGeometry} {σ : Type v} {α : Type u} {B : BlockBackend σ α}
  {cfg : ProviderConfig} (V : B.ReturnsLastWrite)

/-! ## Nothing changes -/

structure SameLayers (s s' : TransformerKVStateProvider geo σ) : Prop where
  layerData_eq : s'.layerData = s.layerData
  numKvHeads_eq : s'.numKvHeads = s.numKvHeads
  headDim_eq : s'.headDim = s.headDim
  backend : V.Keeps s.backend s'.backend

variable {V} {s s' s'' : TransformerKVStateProvider geo σ}

theorem SameLayers.refl (h : V.Valid s.backend) : SameLayers V s s :=
  ⟨rfl, rfl, rfl, .refl h⟩

theorem SameLayers.trans (h : SameLayers V s s') (h' : SameLayers V s' s'') :
    SameLayers V s s'' :=
  ⟨h'.layerData_eq.trans h.layerData_eq, h'.numKvHeads_eq.trans h.numKvHeads_eq,
    h'.headDim_eq.trans h.headDim_eq, h.backend.trans h'.backend⟩

theorem sameLayers_backend {backend : σ} (h : V.Keeps s.backend backend) :
    SameLayers V s { s with backend := backend } := ⟨rfl, rfl, rfl, h⟩

section Reads

variable {ρ : Type} {page : NDArray × NDArray → ρ} {batch : Option (BatchRead σ ρ)}
  {single : BlockRead σ ρ} {w : StoreView σ}

theorem keeps_readPages (hbatch : ∀ read ∈ batch, w.ReadsBatch page read)
    (hsingle : w.Reads page single) {b : σ} (hb : w.Valid b) (l : Nat) (bids : List Nat) :
    w.Keeps b (readPages batch single b l bids).2 := by
  unfold readPages
  cases batch with
  | none => exact StoreView.keeps_readEach (fun s bid hs => hsingle.keeps s l bid 0 0 hs) bids _ hb
  | some read => exact (hbatch read rfl).keeps b l bids 0 0 hb

/-- Either way of reading answers every stored block. -/
theorem readPages_ok (hbatch : ∀ read ∈ batch, w.ReadsBatch page read)
    (hsingle : w.Reads page single) {b : σ} (hb : w.Valid b) {l : Nat} {bids : List Nat}
    {blk : Nat → NDArray × NDArray} (hheld : ∀ bid ∈ bids, w.content b (l, bid) = some (blk bid)) :
    ∃ pages b', readPages batch single b l bids = (.ok pages, b') ∧ w.Keeps b b' ∧
      ∀ bid ∈ bids, pages.get? bid = some (page (blk bid)) := by
  have hsome : ∀ bid ∈ bids, (w.content b (l, bid)).isSome := by
    intro bid hbid
    rw [hheld bid hbid]
    rfl
  cases batch with
  | none =>
      obtain ⟨pages, b', hread, hkeeps, hget⟩ :=
        hsingle.readEach (l := l) (h := 0) (t := 0) bids Dict.empty (.refl hb) hsome
      refine ⟨pages, b', hread, hkeeps, ?_⟩
      intro bid hbid
      rw [hget bid, if_pos hbid, hheld bid hbid]
      rfl
  | some read =>
      obtain ⟨pages, hpages⟩ := (hbatch read rfl).succeeds b l bids 0 0 hb hsome
      refine ⟨pages, (read b l bids 0 0).2, ?_, (hbatch read rfl).keeps b l bids 0 0 hb, ?_⟩
      · rw [readPages, ← hpages]
      · intro bid hbid
        exact (hbatch read rfl).returns b l bids 0 0 pages hb hpages bid hbid _ (hheld bid hbid)

end Reads

variable (cfg) in
theorem keeps_prefetchWinners {b : σ} (hb : V.Valid b) (l : Nat) (bids : List Nat)
    (mode : Option Bool) : V.Keeps b (prefetchWinners B cfg b l bids mode).2 := by
  unfold prefetchWinners
  split
  · exact .refl hb
  · rename_i prefetch hprefetch
    refine V.prefetch_keeps prefetch ?_ b l bids mode hb
    split at hprefetch
    · exact hprefetch
    · cases hprefetch

variable (cfg) in
theorem prefetchWinners_ok {b : σ} (hb : V.Valid b) (l : Nat) (bids : List Nat)
    (mode : Option Bool) : (prefetchWinners B cfg b l bids mode).1 = .ok () := by
  unfold prefetchWinners
  split
  · rfl
  · rename_i prefetch hprefetch
    have hmem : prefetch ∈ B.predictAndPrefetch := by
      split at hprefetch
      · exact hprefetch
      · cases hprefetch
    obtain ⟨out, hout⟩ := V.prefetch_ok prefetch hmem b l bids mode hb
    show (prefetch b l bids mode).1.map _ = _
    rw [hout]
    rfl

theorem keeps_readWinners {b : σ} (hb : V.Valid b) (l : Nat) (bids : List Nat) :
    V.Keeps b (readWinners B b l bids).2 := by
  unfold readWinners
  split
  · rename_i read hread
    have hkeeps := (V.blockBatch read hread).keeps b l bids 0 0 hb
    split
    · rename_i hres
      rwa [hres] at hkeeps
    · rename_i hres
      rw [hres] at hkeeps
      split
      · exact hkeeps
      · split <;> exact hkeeps
  · have hkeys := StoreView.keeps_readEach (fun s bid hs => V.key.keeps s l bid 0 0 hs) bids
      Dict.empty hb
    split
    · rename_i hres
      rwa [hres] at hkeys
    · rename_i hres
      rw [hres] at hkeys
      have hvalues := StoreView.keeps_readEach (fun s bid hs => V.value.keeps s l bid 0 0 hs) bids
        Dict.empty hkeys.valid
      split <;> rename_i hres' <;> rw [hres'] at hvalues <;> exact hkeys.trans hvalues

theorem sameLayers_loadThenPrefetch (hs : V.Valid s.backend) (l : Nat)
    (topBids : List (α × Nat × Nat)) :
    SameLayers V s (loadThenPrefetch B cfg s l topBids).2 := by
  have hread := keeps_readWinners (V := V) hs l (winnerIds topBids)
  unfold loadThenPrefetch
  dsimp only
  split <;> rename_i backend hres <;> rw [hres] at hread
  · exact sameLayers_backend hread
  · have hpre := keeps_prefetchWinners (V := V) cfg hread.valid l (winnerIds topBids)
      (some true)
    split <;> rename_i hres' <;> rw [countWinners] at hres' <;> rw [hres'] at hpre <;>
      exact ⟨rfl, rfl, rfl, hread.trans hpre⟩

theorem sameLayers_prefetchThenLoad (hs : V.Valid s.backend) (l : Nat)
    (topBids : List (α × Nat × Nat)) :
    SameLayers V s (prefetchThenLoad B cfg s l topBids).2 := by
  have hpre := keeps_prefetchWinners (V := V) cfg hs l (winnerIds topBids) none
  unfold prefetchThenLoad
  dsimp only
  split <;> rename_i backend hres <;> rw [hres] at hpre
  · exact sameLayers_backend hpre
  · have hvalues := keeps_readPages V.valueBatch V.value hpre.valid l (winnerIds topBids)
    split <;> rename_i backend' hres' <;> rw [hres'] at hvalues
    · exact sameLayers_backend (hpre.trans hvalues)
    · have hkeys := keeps_readPages V.keyBatch V.key hvalues.valid l (winnerIds topBids)
      split <;> rename_i hres'' <;> rw [hres''] at hkeys <;>
        exact ⟨rfl, rfl, rfl, (hpre.trans hvalues).trans hkeys⟩

section Select

variable [Field α] [LinearOrder α] {N : Numerics α} {kernel : Option (Kernel α)}

theorem sameLayers_hostLoad (hs : V.Valid s.backend) (l : Nat) (cands : List (Nat × Nat))
    (q : List (List α)) (scale : α) (k : Nat) :
    SameLayers V s (hostLoad B cfg N kernel s l cands q scale k).2 := by
  have hkeys := keeps_readPages V.keyBatch V.key hs l (cands.map Prod.fst)
  unfold hostLoad
  dsimp only
  split <;> rename_i backend hres <;> rw [hres] at hkeys
  · exact sameLayers_backend hkeys
  · split
    · exact sameLayers_backend hkeys
    · split
      · exact ⟨rfl, rfl, rfl, hkeys⟩
      · rename_i topBids _
        have hpre := keeps_prefetchWinners (V := V) cfg hkeys.valid l
          (winnerIds topBids) none
        split <;> rename_i backend' hres' <;> rw [hres'] at hpre
        · exact ⟨rfl, rfl, rfl, hkeys.trans hpre⟩
        · have hvalues := keeps_readPages V.valueBatch V.value hpre.valid l (winnerIds topBids)
          split <;> rename_i hres'' <;> rw [hres''] at hvalues <;>
            exact ⟨rfl, rfl, rfl, (hkeys.trans hpre).trans hvalues⟩

variable (cfg N kernel) in
theorem sameLayers_loadWinners (hs : V.Valid s.backend) (l : Nat) (cands : List (Nat × Nat))
    (q : List (List α)) (scale : α) :
    SameLayers V s (loadWinners B cfg N kernel s l cands q scale).2 := by
  unfold loadWinners
  dsimp only
  split
  · exact sameLayers_hostLoad hs l cands q scale _
  · rename_i filter hfilter
    have hmem : filter ∈ B.computeTopkFilter := by
      split at hfilter
      · exact hfilter
      · cases hfilter
    have htop := V.topk_keeps filter hmem s.backend l cands q (topKCount cands.length cfg.topKPct)
      scale q.length s.numKvHeads s.headDim hs
    split <;> rename_i out backend hres <;> rw [hres] at htop
    · exact sameLayers_backend htop
    · have hcount : SameLayers V s
          { s with
            backend := backend
            topkMetadataBytesToHost := s.topkMetadataBytesToHost + out.length * 12 } :=
        ⟨rfl, rfl, rfl, htop⟩
      split
      · exact hcount.trans (sameLayers_loadThenPrefetch htop.valid l _)
      · exact hcount.trans (sameLayers_prefetchThenLoad htop.valid l _)

variable (N kernel) in
theorem layerData_loadWinners (s : TransformerKVStateProvider geo σ) (l : Nat)
    (cands : List (Nat × Nat)) (q : List (List α)) (scale : α) :
    (loadWinners B cfg N kernel s l cands q scale).2.layerData = s.layerData := by
  unfold loadWinners hostLoad loadThenPrefetch prefetchThenLoad countWinners
  dsimp only
  repeat' split
  all_goals rfl

theorem layerData_select (s : TransformerKVStateProvider geo σ) (l : Nat)
    (query : Option (List (List α))) :
    (selectAndFetchActiveState B cfg N kernel s l query).2.layerData = s.layerData := by
  unfold selectAndFetchActiveState
  repeat' split
  all_goals first
    | rfl
    | rename_i hload
      rw [← layerData_loadWinners N kernel s l _ _ _, hload]

/-- A selection changes no layer and nothing stored. -/
theorem sameLayers_select (hs : V.Valid s.backend) (l : Nat) (query : Option (List (List α))) :
    SameLayers V s (selectAndFetchActiveState B cfg N kernel s l query).2 := by
  unfold selectAndFetchActiveState
  cases query with
  | none => exact .refl hs
  | some q =>
      cases s.layerData.get? l with
      | none => exact .refl hs
      | some ld =>
          have hload := sameLayers_loadWinners cfg N kernel hs l
            ld.candidateBlocks q (N.invSqrt s.headDim)
          dsimp only
          split
          · exact .refl hs
          · split
            · exact .refl hs
            · split <;> rename_i hres <;> rw [hres] at hload <;> exact hload

end Select

/-! ## What is loaded -/

section Loaded

variable {blk : Nat → NDArray × NDArray} {l : Nat} {b : σ}

def LoadedFor (blk : Nat → NDArray × NDArray) (loaded : Loaded α) : Prop :=
  ∀ t ∈ loaded.topBids, loaded.keyPages.get? t.2.1 = some (blk t.2.1).1 ∧
    loaded.valuePages.get? t.2.1 = some (blk t.2.1).2

theorem pagesOfBlocks_ok (page : NDArray × NDArray → NDArray)
    {blocks : Dict Nat (NDArray × NDArray)} {bids : List Nat}
    (hget : ∀ bid ∈ bids, blocks.get? bid = some (blk bid)) (pages : Dict Nat NDArray) :
    ∃ out, pagesOfBlocks page blocks bids pages = .ok out ∧
      ∀ bid, out.get? bid = if bid ∈ bids then some (page (blk bid)) else pages.get? bid := by
  induction bids generalizing pages with
  | nil => exact ⟨pages, rfl, fun bid => by simp⟩
  | cons bid bids ih =>
      obtain ⟨out, hout, hgets⟩ := ih (fun bid' hbid => hget bid' (List.mem_cons_of_mem bid hbid))
        (pages.set bid (page (blk bid)))
      refine ⟨out, ?_, ?_⟩
      · simp only [pagesOfBlocks, pageOf, hget bid List.mem_cons_self]
        exact hout
      · intro bid'
        rw [hgets bid', Dict.get?_set_listed (f := fun bid => some (page (blk bid))) rfl]

theorem readWinners_ok (hb : V.Valid b) {bids : List Nat}
    (hheld : ∀ bid ∈ bids, V.content b (l, bid) = some (blk bid)) :
    ∃ keyPages valuePages b', readWinners B b l bids = (.ok (keyPages, valuePages), b') ∧
      V.Keeps b b' ∧ ∀ bid ∈ bids, keyPages.get? bid = some (blk bid).1 ∧
        valuePages.get? bid = some (blk bid).2 := by
  have hsome : ∀ bid ∈ bids, (V.content b (l, bid)).isSome := by
    intro bid hbid
    rw [hheld bid hbid]
    rfl
  unfold readWinners
  cases hbatch : B.readBlockBatch with
  | some read =>
      obtain ⟨blocks, hblocks⟩ := (V.blockBatch read hbatch).succeeds b l bids 0 0 hb hsome
      have hget : ∀ bid ∈ bids, blocks.get? bid = some (blk bid) := fun bid hbid =>
        (V.blockBatch read hbatch).returns b l bids 0 0 blocks hb hblocks bid hbid _
          (hheld bid hbid)
      obtain ⟨keyPages, hkeys, hkget⟩ := pagesOfBlocks_ok Prod.fst hget Dict.empty
      obtain ⟨valuePages, hvalues, hvget⟩ := pagesOfBlocks_ok Prod.snd hget Dict.empty
      have hkeeps := (V.blockBatch read hbatch).keeps b l bids 0 0 hb
      obtain ⟨b', hres⟩ : ∃ b', read b l bids 0 0 = (.ok blocks, b') := ⟨_, by rw [← hblocks]⟩
      rw [hres] at hkeeps
      refine ⟨keyPages, valuePages, b', ?_, hkeeps, ?_⟩
      · simp only [hres, hkeys, hvalues]
      · intro bid hbid
        rw [hkget bid, hvget bid, if_pos hbid, if_pos hbid]
        exact ⟨rfl, rfl⟩
  | none =>
      obtain ⟨keyPages, b₁, hkeys, hkeeps₁, hkget⟩ :=
        V.key.readEach (l := l) (h := 0) (t := 0) bids Dict.empty (.refl hb) hsome
      have hsome' : ∀ bid ∈ bids, (V.content b₁ (l, bid)).isSome := by
        rw [hkeeps₁.content_eq]
        exact hsome
      obtain ⟨valuePages, b₂, hvalues, hkeeps₂, hvget⟩ :=
        V.value.readEach (l := l) (h := 0) (t := 0) bids Dict.empty (.refl hkeeps₁.valid) hsome'
      refine ⟨keyPages, valuePages, b₂, ?_, hkeeps₁.trans hkeeps₂, ?_⟩
      · simp only [hkeys, hvalues]
      · intro bid hbid
        rw [hkget bid, hvget bid, if_pos hbid, if_pos hbid, hkeeps₁.content_eq, hheld bid hbid]
        exact ⟨rfl, rfl⟩

def Loads (blk : Nat → NDArray × NDArray) (topBids : List (α × Nat × Nat))
    (r : Except PyErr (Loaded α)) : Prop :=
  ∃ loaded, r = .ok loaded ∧ loaded.topBids = topBids ∧ LoadedFor blk loaded

theorem held_winners {topBids : List (α × Nat × Nat)}
    (hheld : ∀ t ∈ topBids, V.content b (l, t.2.1) = some (blk t.2.1)) :
    ∀ bid ∈ winnerIds topBids, V.content b (l, bid) = some (blk bid) := by
  intro bid hbid
  obtain ⟨t, ht, rfl⟩ := List.mem_map.mp hbid
  exact hheld t ht

theorem exists_stored {content : Nat × Nat → Option (NDArray × NDArray)} {l : Nat}
    {cands : List (Nat × Nat)} (h : ∀ c ∈ cands, (content (l, c.1)).isSome) :
    ∃ blk : Nat → NDArray × NDArray, ∀ c ∈ cands, content (l, c.1) = some (blk c.1) := by
  let blank : NDArray := ⟨float32, [0], [], rfl⟩
  refine ⟨fun bid => (content (l, bid)).getD (blank, blank), fun c hc => ?_⟩
  obtain ⟨kv, hkv⟩ := Option.isSome_iff_exists.mp (h c hc)
  simp [hkv]

theorem loadThenPrefetch_ok (hs : V.Valid s.backend) {topBids : List (α × Nat × Nat)}
    (hheld : ∀ t ∈ topBids, V.content s.backend (l, t.2.1) = some (blk t.2.1)) :
    Loads blk topBids (loadThenPrefetch B cfg s l topBids).1 := by
  obtain ⟨keyPages, valuePages, b', hread, hkeeps, hget⟩ :=
    readWinners_ok hs (held_winners hheld)
  have hpre := prefetchWinners_ok (V := V) cfg hkeeps.valid l (winnerIds topBids)
    (some true)
  refine ⟨⟨topBids, keyPages, valuePages⟩, ?_, rfl, fun t ht => hget _ (List.mem_map_of_mem ht)⟩
  simp only [loadThenPrefetch, hread, countWinners]
  rcases hp : prefetchWinners B cfg b' l (winnerIds topBids) (some true) with ⟨_ | _, _⟩
  · rw [hp] at hpre
    cases hpre
  · rfl

theorem prefetchThenLoad_ok (hs : V.Valid s.backend) {topBids : List (α × Nat × Nat)}
    (hheld : ∀ t ∈ topBids, V.content s.backend (l, t.2.1) = some (blk t.2.1)) :
    Loads blk topBids (prefetchThenLoad B cfg s l topBids).1 := by
  have hwin := held_winners hheld
  have hpre := prefetchWinners_ok (V := V) cfg hs l (winnerIds topBids) none
  have hkeeps := keeps_prefetchWinners (V := V) cfg hs l (winnerIds topBids) none
  rcases hp : prefetchWinners B cfg s.backend l (winnerIds topBids) none with ⟨_ | _, b₁⟩
  · rw [hp] at hpre
    cases hpre
  · rw [hp] at hkeeps
    obtain ⟨valuePages, b₂, hvalues, hkeeps₂, hvget⟩ := readPages_ok V.valueBatch V.value
      hkeeps.valid (by rw [hkeeps.content_eq]; exact hwin)
    obtain ⟨keyPages, b₃, hkeys, _, hkget⟩ := readPages_ok V.keyBatch V.key
      hkeeps₂.valid (by rw [hkeeps₂.content_eq, hkeeps.content_eq]; exact hwin)
    refine ⟨⟨topBids, keyPages, valuePages⟩, ?_, rfl, ?_⟩
    · simp only [prefetchThenLoad, hp, hvalues, hkeys]
    · intro t ht
      exact ⟨hkget _ (List.mem_map_of_mem ht), hvget _ (List.mem_map_of_mem ht)⟩

/-! ## The result of a selection -/

def storedRows (A : Astype) (geo : KVGeometry) (blk : Nat → NDArray × NDArray)
    (top : α × Nat × Nat) : Except PyErr (List (TokenRow geo) × List (TokenRow geo)) :=
  blockRows A geo (blk top.2.1).1 (blk top.2.1).2 top.2.2

/-- Sink, winners by id and recent window, all from what is stored. -/
def assembleStored (A : Astype) (ld : LayerData geo) (blk : Nat → NDArray × NDArray)
    (topBids : List (α × Nat × Nat)) :
    Except PyErr (List (TokenRow geo) × List (TokenRow geo)) :=
  ((orderBy (fun t => t.2.1) topBids).mapM (storedRows A geo blk)).map (activeState ld)

theorem reconstruct_eq (A : Astype) (ld : LayerData geo) {loaded : Loaded α}
    (h : LoadedFor blk loaded) :
    reconstruct A ld loaded = assembleStored A ld blk loaded.topBids := by
  have hrows : ∀ t ∈ orderBy (fun t : α × Nat × Nat => t.2.1) loaded.topBids,
      winnerRows A geo loaded t = storedRows A geo blk t := by
    intro t ht
    obtain ⟨hkey, hvalue⟩ := h t ((orderBy_perm _ _).subset ht)
    simp only [winnerRows, storedRows, pageOf, hkey, hvalue]
  rw [reconstruct, assembleStored, mapM_congr hrows]

section Scored

variable [Field α] [LinearOrder α] {N : Numerics α}

def selectStored (N : Numerics α) (gqaRatio : Nat) (pct : ℚ) (headDim : Nat) (ld : LayerData geo)
    (blk : Nat → NDArray × NDArray) (q : List (List α)) :
    Except PyErr (List (TokenRow geo) × List (TokenRow geo)) :=
  if headDim = 0 then .error .zeroDivisionError
  else if ld.candidateBlocks = [] then .ok (activeState ld [])
  else
    match storedTopBids N.val blk ld.candidateBlocks q q.length gqaRatio (N.invSqrt headDim)
        (topKCount ld.candidateBlocks.length pct) with
    | .error err => .error err
    | .ok topBids => assembleStored N.toAstype ld blk topBids

variable (cfg N) in
theorem hostScores_eq {cands : List (Nat × Nat)} {keyPages : Dict Nat NDArray}
    (hget : ∀ bid ∈ cands.map Prod.fst, keyPages.get? bid = some (blk bid).1) (q : List (List α))
    (scale : α) :
    hostScores cfg N cands keyPages q scale =
      cands.mapM (storedScore N.val blk q q.length cfg.config.gqaRatio scale) := by
  apply mapM_congr
  intro cand hcand
  simp only [pageOf, hget _ (List.mem_map_of_mem hcand), storedScore]

variable (cfg N) in
/-- The host reads the key page of every candidate. What it then makes of the pages decides the
load: an error ends it, and winners among the candidates come in with their pages. -/
theorem hostLoad_cases (kernel : Option (Kernel α)) (hs : V.Valid s.backend)
    {cands : List (Nat × Nat)}
    (hheld : ∀ c ∈ cands, V.content s.backend (l, c.1) = some (blk c.1)) (q : List (List α))
    (scale : α) (k : Nat) :
    ∃ (s' : TransformerKVStateProvider geo σ) (keyPages : Dict Nat NDArray)
        (kBlocks : List NDArray),
      (∀ bid ∈ cands.map Prod.fst, keyPages.get? bid = some (blk bid).1) ∧
      kBlocks.length = cands.length ∧
      match hostTopBids cfg N kernel s' cands keyPages kBlocks q scale k with
      | .error err => (hostLoad B cfg N kernel s l cands q scale k).1 = .error err
      | .ok topBids => (∀ t ∈ topBids, t.2 ∈ cands) →
          Loads blk topBids (hostLoad B cfg N kernel s l cands q scale k).1 := by
  have hids : ∀ bid ∈ cands.map Prod.fst, V.content s.backend (l, bid) = some (blk bid) := by
    intro bid hbid
    obtain ⟨c, hc, rfl⟩ := List.mem_map.mp hbid
    exact hheld c hc
  obtain ⟨keyPages, b₁, hkeys, hkeeps₁, hkget⟩ := readPages_ok V.keyBatch V.key hs hids
  have hlist : (cands.map Prod.fst).mapM (pageOf keyPages) =
      .ok ((cands.map Prod.fst).map fun bid => (blk bid).1) := by
    apply mapM_ok
    intro bid hbid
    rw [pageOf, hkget bid hbid]
  refine ⟨{ s with
      backend := b₁
      candidateKBytesToHost := s.candidateKBytesToHost +
        (cands.map Prod.fst).length * s.pageBytes.getD 4096 },
    keyPages, (cands.map Prod.fst).map fun bid => (blk bid).1, hkget, by simp, ?_⟩
  split
  · rename_i err htop
    simp only [hostLoad, hkeys, hlist, htop]
  · rename_i topBids htop
    intro hmem
    have hwin : ∀ t ∈ topBids, V.content b₁ (l, t.2.1) = some (blk t.2.1) := by
      rw [hkeeps₁.content_eq]
      exact fun t ht => hheld t.2 (hmem t ht)
    have hpre := prefetchWinners_ok (V := V) cfg hkeeps₁.valid l (winnerIds topBids) none
    have hkeeps₂ := keeps_prefetchWinners (V := V) cfg hkeeps₁.valid l (winnerIds topBids) none
    rcases hp : prefetchWinners B cfg b₁ l (winnerIds topBids) none with ⟨_ | _, b₂⟩
    · rw [hp] at hpre
      cases hpre
    · rw [hp] at hkeeps₂
      obtain ⟨valuePages, b₃, hvalues, _, hvget⟩ := readPages_ok V.valueBatch V.value
        hkeeps₂.valid (by rw [hkeeps₂.content_eq]; exact held_winners hwin)
      refine ⟨⟨topBids, keyPages, valuePages⟩, ?_, rfl, ?_⟩
      · simp only [hostLoad, hkeys, hlist, htop, hp, hvalues]
      · intro t ht
        exact ⟨hkget _ (List.mem_map_of_mem (hmem t ht)), hvget _ (List.mem_map_of_mem ht)⟩

variable (cfg N) in
theorem hostLoad_eq (hs : V.Valid s.backend) {cands : List (Nat × Nat)}
    (hheld : ∀ c ∈ cands, V.content s.backend (l, c.1) = some (blk c.1)) (q : List (List α))
    (scale : α) (k : Nat) :
    match storedTopBids N.val blk cands q q.length cfg.config.gqaRatio scale k with
    | .error err => (hostLoad B cfg N none s l cands q scale k).1 = .error err
    | .ok topBids => Loads blk topBids (hostLoad B cfg N none s l cands q scale k).1 := by
  obtain ⟨s', keyPages, kBlocks, hkget, -, hcases⟩ := hostLoad_cases cfg N none hs hheld q scale k
  have htop : hostTopBids cfg N none s' cands keyPages kBlocks q scale k =
      storedTopBids N.val blk cands q q.length cfg.config.gqaRatio scale k := by
    have hscores := hostScores_eq cfg N hkget q scale
    unfold hostTopBids storedTopBids
    dsimp only
    generalize hostScores cfg N cands keyPages q scale = scores at hscores ⊢
    subst hscores
    cases cands.mapM (storedScore N.val blk q q.length cfg.config.gqaRatio scale) <;> rfl
  rw [htop] at hcases
  cases hstored : storedTopBids N.val blk cands q q.length cfg.config.gqaRatio scale k with
  | error err =>
      rw [hstored] at hcases
      exact hcases
  | ok topBids =>
      rw [hstored] at hcases
      exact hcases (mem_of_storedTopBids hstored)

/-- Where scoring runs: on the host, or in a store that scores what it holds, with the
query heads the model groups over its KV heads. -/
def ScoresAlike (cfg : ProviderConfig) (V : B.ReturnsLastWrite) (N : Numerics α)
    (kvHeads qHeads : Nat) : Prop :=
  cfg.enableComputationalStorage = false ∨ B.computeTopkFilter = none ∨
    (BlockBackend.ScoresStored N.val V ∧ 0 < kvHeads ∧ qHeads = cfg.config.gqaRatio * kvHeads)

theorem loadWinners_eq (hs : V.Valid s.backend) {cands : List (Nat × Nat)}
    (hheld : ∀ c ∈ cands, V.content s.backend (l, c.1) = some (blk c.1)) {q : List (List α)}
    (hpath : ScoresAlike cfg V N s.numKvHeads q.length) (scale : α) :
    match storedTopBids N.val blk cands q q.length cfg.config.gqaRatio scale
        (topKCount cands.length cfg.topKPct) with
    | .error err => (loadWinners B cfg N none s l cands q scale).1 = .error err
    | .ok topBids => Loads blk topBids (loadWinners B cfg N none s l cands q scale).1 := by
  cases hfilter : (if cfg.enableComputationalStorage then B.computeTopkFilter else none) with
  | none =>
      have hhost := hostLoad_eq cfg N hs hheld q scale
        (topKCount cands.length cfg.topKPct)
      simp only [loadWinners, hfilter]
      exact hhost
  | some filter =>
      have hmem : filter ∈ B.computeTopkFilter := by
        split at hfilter
        · exact hfilter
        · cases hfilter
      obtain ⟨hscores, hkv, hheads⟩ : BlockBackend.ScoresStored N.val V ∧ 0 < s.numKvHeads ∧
          q.length = cfg.config.gqaRatio * s.numKvHeads := by
        rcases hpath with hoff | hnone | hstored
        · simp [hoff] at hfilter
        · simp [hnone] at hfilter
        · exact hstored
      have hratio : (if s.numKvHeads > 0 then q.length / s.numKvHeads else 1) =
          cfg.config.gqaRatio := by
        rw [if_pos hkv, hheads, Nat.mul_div_cancel _ hkv]
      have hanswer := hscores filter hmem s.backend l cands blk q
        (topKCount cands.length cfg.topKPct) scale q.length s.numKvHeads s.headDim hs hheld
      have hkeeps := V.topk_keeps filter hmem s.backend l cands q
        (topKCount cands.length cfg.topKPct) scale q.length s.numKvHeads s.headDim hs
      rw [hratio] at hanswer
      rcases hcall : filter s.backend l cands q (topKCount cands.length cfg.topKPct) scale q.length
        s.numKvHeads s.headDim with ⟨out, b'⟩
      rw [hcall] at hanswer hkeeps
      rw [← show out = _ from hanswer]
      cases out with
      | error err => simp only [loadWinners, hfilter, hcall]
      | ok topBids =>
          have hwin : ∀ t ∈ topBids, V.content b' (l, t.2.1) = some (blk t.2.1) := by
            rw [hkeeps.content_eq]
            exact fun t ht => hheld t.2 (mem_of_storedTopBids hanswer.symm t ht)
          simp only [loadWinners, hfilter, hcall]
          split
          · exact loadThenPrefetch_ok hkeeps.valid hwin
          · exact prefetchThenLoad_ok hkeeps.valid hwin

/-- Over a store that returns the last write, a selection is a function of the layer and
its stored blocks: where it scores and how it loads make no difference. -/
theorem select_eq (hs : V.Valid s.backend) {ld : LayerData geo}
    (hld : s.layerData.get? l = some ld)
    (hheld : ∀ c ∈ ld.candidateBlocks, V.content s.backend (l, c.1) = some (blk c.1))
    {q : List (List α)} (hpath : ScoresAlike cfg V N s.numKvHeads q.length) :
    (selectAndFetchActiveState B cfg N none s l (some q)).1 =
      selectStored N cfg.config.gqaRatio cfg.topKPct s.headDim ld blk q := by
  have hload := loadWinners_eq hs hheld hpath (N.invSqrt s.headDim)
  simp only [selectAndFetchActiveState, hld, selectStored]
  split
  · rfl
  · split
    · rfl
    · cases htop : storedTopBids N.val blk ld.candidateBlocks q q.length cfg.config.gqaRatio
          (N.invSqrt s.headDim) (topKCount ld.candidateBlocks.length cfg.topKPct) with
      | error err =>
          rw [htop] at hload
          rcases hcall : loadWinners B cfg N none s l ld.candidateBlocks q (N.invSqrt s.headDim)
            with ⟨out, s'⟩
          rw [hcall] at hload
          cases hload
          rfl
      | ok topBids =>
          rw [htop] at hload
          obtain ⟨loaded, hok, rfl, hfor⟩ := hload
          rcases hcall : loadWinners B cfg N none s l ld.candidateBlocks q (N.invSqrt s.headDim)
            with ⟨out, s'⟩
          rw [hcall] at hok
          cases hok
          exact reconstruct_eq N.toAstype ld hfor

end Scored

end Loaded

end AiSsd.Adapters.TransformerKVStateProvider
