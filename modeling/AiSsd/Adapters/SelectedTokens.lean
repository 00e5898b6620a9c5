import AiSsd.Adapters.ActiveState
import AiSsd.NativeKernel.Sentinel

/-!
# How many tokens a selection returns

Wherever a selection scores, in the store, by the native kernel or by NumPy, what it picks are
`top_k` of the candidates, or all of them, and none twice. So a selection that returns has
brought the whole sink, the tokens of the picked blocks and the whole recent window.
-/

namespace AiSsd.Adapters

open Lib Numpy Storage
open NativeKernel (ValidIndices)

universe u v

variable {geo : KVGeometry}

/-- `picked` are `top_k` of the candidates, or all when there are fewer, and none twice. -/
structure Picks (topK : Nat) (cands picked : List (Nat × Nat)) : Prop where
  among : picked.Subperm cands
  count : picked.length = min topK cands.length

namespace TransformerKVStateProvider

variable {σ : Type v} {α : Type u} {B : BlockBackend σ α} {cfg : ProviderConfig}
  {V : B.ReturnsLastWrite} {s : TransformerKVStateProvider geo σ}

/-- The scorers the provider calls pick from the candidates: the filter of the store, given
stored candidates, and the kernel by distinct indices. -/
structure ScorersPick (V : B.ReturnsLastWrite) (kernel : Option (Kernel α)) : Prop where
  filter : ∀ filter ∈ B.computeTopkFilter, ∀ s l cands q k scale qHeads kvHeads headDim top,
    V.Valid s → (∀ c ∈ cands, (V.content s (l, c.1)).isSome) →
    (filter s l cands q k scale qHeads kvHeads headDim).1 = .ok top →
    Picks k cands (top.map Prod.snd)
  kernel : ∀ run ∈ kernel, ∀ q blocks tokens k qHeads kvHeads headDim indices scores,
    run q blocks tokens k qHeads kvHeads headDim = .ok (indices, scores) →
    ValidIndices k blocks.length indices

/-! ## Every way of scoring picks -/

theorem namedScores_candidates {cands : List (Nat × Nat)} {indices : List Int} {scores : List α}
    {top : List (α × Nat × Nat)} (hin : ∀ i ∈ indices, 0 ≤ i ∧ i < cands.length)
    (h : namedScores cands indices scores = .ok top) :
    top.map Prod.snd = atPositions cands (indices.map Int.toNat) ∧ top.length = indices.length := by
  have hplaces : top.map Prod.snd =
        atPositions cands ((indices.zipIdx.map Prod.fst).map Int.toNat) ∧
      top.length = indices.zipIdx.length := by
    unfold namedScores at h
    have hall := mapM_eq_ok h
    clear h
    have hin' : ∀ p ∈ indices.zipIdx, 0 ≤ p.1 ∧ p.1 < cands.length := by
      intro p hp
      exact hin p.1 (List.fst_mem_of_mem_zipIdx hp)
    generalize indices.zipIdx = places at hall hin' ⊢
    induction hall with
    | nil => exact ⟨rfl, rfl⟩
    | @cons p t places top hone _ ih =>
        rw [List.forall_mem_cons] at hin'
        obtain ⟨⟨hnonneg, hlt⟩, hrest⟩ := hin'
        obtain ⟨n, hn⟩ := Int.eq_ofNat_of_zero_le hnonneg
        have hbound : n < cands.length := by omega
        split at hone
        · rename_i score cand _ hcand
          cases hone
          rw [hn, pyIndex_natCast hbound] at hcand
          cases hcand
          obtain ⟨hnamed, hlength⟩ := ih hrest
          simp [atPositions, hn, hbound, hnamed, hlength]
        · cases hone
  simpa using hplaces

theorem picks_namedScores {cands : List (Nat × Nat)} {indices : List Int} {scores : List α}
    {k : Nat} (hvalid : ValidIndices k cands.length indices) {top : List (α × Nat × Nat)}
    (h : namedScores cands indices scores = .ok top) : Picks k cands (top.map Prod.snd) := by
  obtain ⟨hnamed, hlen⟩ := namedScores_candidates hvalid.inRange h
  constructor
  · rw [hnamed]
    refine atPositions_subperm cands (hvalid.nodup.map_on ?_) ?_
    · intro i hi j hj heq
      have hi := hvalid.inRange i hi
      have hj := hvalid.inRange j hj
      omega
    · intro p hp
      obtain ⟨i, hi, rfl⟩ := List.mem_map.mp hp
      have hi := hvalid.inRange i hi
      omega
  · rw [List.length_map, hlen]
    have hlength := hvalid.length_eq
    omega

theorem picks_topBy [LinearOrder α] {cands : List (Nat × Nat)} {scores : List (α × Nat × Nat)}
    (h : scores.map Prod.snd = cands) (k : Nat) :
    Picks k cands ((topBy Prod.fst k scores).map Prod.snd) := by
  obtain ⟨some, hperm, hsub⟩ := topBy_subperm Prod.fst k scores
  constructor
  · rw [← h]
    exact ⟨_, hperm.map _, hsub.map _⟩
  · rw [List.length_map, length_topBy, ← h, List.length_map]

section Scored

variable [Field α] [LinearOrder α] {N : Numerics α} {kernel : Option (Kernel α)}

theorem picks_storedTopBids {blk : Nat → NDArray × NDArray} {cands : List (Nat × Nat)}
    {q : List (List α)} {qHeads ratio k : Nat} {scale : α} {top : List (α × Nat × Nat)}
    (h : storedTopBids N.val blk cands q qHeads ratio scale k = .ok top) :
    Picks k cands (top.map Prod.snd) := by
  unfold storedTopBids at h
  split at h
  · cases h
  · rename_i scores hscores
    cases h
    exact picks_topBy (map_snd_of_storedScore hscores) k

theorem scorersPick_of_scoresStored (hscores : BlockBackend.ScoresStored N.val V) :
    ScorersPick V (none : Option (Kernel α)) where
  filter := by
    intro filter hfilter s l cands q k scale qHeads kvHeads headDim top hs hheld htop
    obtain ⟨blk, hblk⟩ := exists_stored hheld
    have hanswer := hscores filter hfilter s l cands blk q k scale qHeads kvHeads headDim hs hblk
    rw [hanswer] at htop
    exact picks_storedTopBids htop
  kernel := by simp

/-- NumPy scores every candidate, in order. -/
theorem hostScores_candidates {cands : List (Nat × Nat)} {keyPages : Dict Nat NDArray}
    {q : List (List α)} {scale : α} {scores : List (α × Nat × Nat)}
    (h : hostScores cfg N cands keyPages q scale = .ok scores) : scores.map Prod.snd = cands := by
  have hall := mapM_eq_ok h
  clear h
  induction hall with
  | nil => rfl
  | @cons cand score cands scores hone _ ih =>
      rw [List.map_cons, ih]
      split at hone
      · cases hone
      · rename_i kBlk _
        cases hmax : blockMaxScore N.val q kBlk q.length cfg.config.gqaRatio scale cand.2 with
        | error err =>
            rw [hmax] at hone
            cases hone
        | ok m =>
            rw [hmax] at hone
            cases hone
            rfl

theorem picks_hostTopBids_numpy {cands : List (Nat × Nat)} {keyPages : Dict Nat NDArray}
    {kBlocks : List NDArray} {q : List (List α)} {scale : α} {k : Nat}
    {top : List (α × Nat × Nat)}
    (h : hostTopBids cfg N none s cands keyPages kBlocks q scale k = .ok top) :
    Picks k cands (top.map Prod.snd) := by
  unfold hostTopBids at h
  dsimp only at h
  split at h
  · cases h
  · rename_i scores hscores
    cases h
    exact picks_topBy (hostScores_candidates hscores) k

theorem picks_hostTopBids (hpick : ScorersPick V kernel) {cands : List (Nat × Nat)}
    {keyPages : Dict Nat NDArray} {kBlocks : List NDArray} (hlen : kBlocks.length = cands.length)
    {q : List (List α)} {scale : α} {k : Nat} {top : List (α × Nat × Nat)}
    (h : hostTopBids cfg N kernel s cands keyPages kBlocks q scale k = .ok top) :
    Picks k cands (top.map Prod.snd) := by
  cases kernel with
  | none => exact picks_hostTopBids_numpy h
  | some run =>
      unfold hostTopBids at h
      dsimp only at h
      split at h
      · cases h
      · split at h
        · cases h
        · rename_i indices scores hrun
          have hvalid := hpick.kernel run rfl _ _ _ _ _ _ _ _ _ hrun
          rw [hlen] at hvalid
          exact picks_namedScores hvalid h

/-! ## What is loaded for the picks -/

variable {l : Nat} {cands : List (Nat × Nat)} {blk : Nat → NDArray × NDArray}
  {q : List (List α)} {scale : α}

omit [Field α] [LinearOrder α] in
theorem held_of_picks {content : Nat × Nat → Option (NDArray × NDArray)} {k : Nat}
    {top : List (α × Nat × Nat)} (hpicks : Picks k cands (top.map Prod.snd))
    (hheld : ∀ c ∈ cands, content (l, c.1) = some (blk c.1)) :
    ∀ t ∈ top, content (l, t.2.1) = some (blk t.2.1) := by
  intro t ht
  exact hheld t.2 (hpicks.among.subset (List.mem_map_of_mem ht))

theorem hostLoad_picks (hpick : ScorersPick V kernel) (hs : V.Valid s.backend)
    (hheld : ∀ c ∈ cands, V.content s.backend (l, c.1) = some (blk c.1)) {k : Nat}
    {loaded : Loaded α} (hload : (hostLoad B cfg N kernel s l cands q scale k).1 = .ok loaded) :
    Picks k cands (loaded.topBids.map Prod.snd) ∧ LoadedFor blk loaded := by
  obtain ⟨s', keyPages, kBlocks, -, hlen, hcases⟩ := hostLoad_cases cfg N kernel hs hheld q scale k
  cases htop : hostTopBids cfg N kernel s' cands keyPages kBlocks q scale k with
  | error err =>
      rw [htop] at hcases
      rw [hcases] at hload
      cases hload
  | ok topBids =>
      rw [htop] at hcases
      have hpicks := picks_hostTopBids hpick hlen htop
      obtain ⟨found, hok, rfl, hfor⟩ :=
        hcases fun t ht => hpicks.among.subset (List.mem_map_of_mem ht)
      rw [hok] at hload
      cases hload
      exact ⟨hpicks, hfor⟩

theorem loadWinners_picks (hpick : ScorersPick V kernel) (hs : V.Valid s.backend)
    (hheld : ∀ c ∈ cands, V.content s.backend (l, c.1) = some (blk c.1)) {loaded : Loaded α}
    (hload : (loadWinners B cfg N kernel s l cands q scale).1 = .ok loaded) :
    Picks (topKCount cands.length cfg.topKPct) cands (loaded.topBids.map Prod.snd) ∧
      LoadedFor blk loaded := by
  unfold loadWinners at hload
  dsimp only at hload
  split at hload
  · exact hostLoad_picks hpick hs hheld hload
  · rename_i filter hfilter
    have hmem : filter ∈ B.computeTopkFilter := by
      split at hfilter
      · exact hfilter
      · cases hfilter
    have hkeeps := V.topk_keeps filter hmem s.backend l cands q
      (topKCount cands.length cfg.topKPct) scale q.length s.numKvHeads s.headDim hs
    have hsome : ∀ c ∈ cands, (V.content s.backend (l, c.1)).isSome := by
      intro c hc
      rw [hheld c hc]
      rfl
    have hpicked := hpick.filter filter hmem s.backend l cands q
      (topKCount cands.length cfg.topKPct) scale q.length s.numKvHeads s.headDim
    split at hload
    · cases hload
    · rename_i topBids backend hcall
      rw [hcall] at hkeeps hpicked
      have hpicks := hpicked topBids hs hsome rfl
      have hwin : ∀ t ∈ topBids, V.content backend (l, t.2.1) = some (blk t.2.1) := by
        rw [hkeeps.content_eq]
        exact held_of_picks hpicks hheld
      have hloads : Loads blk topBids (.ok loaded : Except PyErr (Loaded α)) := by
        rw [← hload]
        split
        · exact loadThenPrefetch_ok hkeeps.valid hwin
        · exact prefetchThenLoad_ok hkeeps.valid hwin
      obtain ⟨_, hok, htop, hfor⟩ := hloads
      cases hok
      rw [htop]
      exact ⟨hpicks, hfor⟩

/-! ## What a selection returns -/

variable {H : History geo} {ld : LayerData geo}

omit [Field α] [LinearOrder α] in
/-- How much sink, picked blocks and recent window of a layer come to, on K or on V. -/
theorem length_picked (H : History geo) {picked : List (Nat × Nat)}
    (hlen : ∀ c ∈ picked, c.2 = (cfg.blockTokens H.prompt c.1).length)
    (row : KVToken geo → TokenRow geo) :
    ((H.prompt.take (cfg.sinkEnd H.prompt.length)).map row ++
      (picked.map fun c => (cfg.blockTokens H.prompt c.1).map row).flatten ++
      (H.tokens.drop (cfg.windowStart H.prompt.length H.appended.length)).map row).length =
    cfg.sinkEnd H.prompt.length + (picked.map Prod.snd).sum +
      (H.tokens.length - cfg.windowStart H.prompt.length H.appended.length) := by
  have hsink : cfg.sinkEnd H.prompt.length ≤ H.prompt.length :=
    Nat.le_trans (cfg.sinkEnd_le_candEnd _) (cfg.candEnd_le _)
  rw [List.map_congr_left hlen]
  simp [List.length_flatten, hsink, Function.comp_def, Nat.add_assoc]

omit [Field α] [LinearOrder α] in
/-- The picked blocks of a history in temporal order, between sink and recent window. -/
theorem reconstruct_picked (A : Astype) (hlaid : LaidOut cfg ld H) {loaded : Loaded α}
    (hfor : LoadedFor (historyBlocks cfg H) loaded)
    (hsub : (orderBy (fun t => t.2.1) loaded.topBids).map Prod.snd ⊆ ld.candidateBlocks) :
    reconstruct A ld loaded =
      .ok (activeState ld (((orderBy (fun t => t.2.1) loaded.topBids).map Prod.snd).map fun c =>
        ((cfg.blockTokens H.prompt c.1).map Prod.fst,
          (cfg.blockTokens H.prompt c.1).map Prod.snd))) := by
  have hrows : ∀ t ∈ orderBy (fun t => t.2.1) loaded.topBids,
      storedRows A geo (historyBlocks cfg H) t =
        .ok ((cfg.blockTokens H.prompt t.2.1).map Prod.fst,
          (cfg.blockTokens H.prompt t.2.1).map Prod.snd) := by
    intro t ht
    have hcount := (hlaid.candidate (hsub (List.mem_map_of_mem ht))).2
    obtain ⟨hkey, hvalue⟩ := cfg.storedRows_eq A H.prompt t.2.1
    simp only [storedRows, blockRows, historyBlocks, hcount, hkey, hvalue]
  rw [reconstruct_eq A ld hfor, assembleStored, mapM_ok hrows, List.map_map]
  rfl

omit [Field α] [LinearOrder α] in
/-- The tokens of the sink, of the blocks that were picked and of the recent window. -/
theorem length_activeState (hlaid : LaidOut cfg ld H)
    {picked : List (Nat × Nat)} (hsub : picked ⊆ ld.candidateBlocks) {rows : List (TokenRow geo)}
    (hrows : rows = (activeState ld (picked.map fun c =>
          ((cfg.blockTokens H.prompt c.1).map Prod.fst,
            (cfg.blockTokens H.prompt c.1).map Prod.snd))).1 ∨
        rows = (activeState ld (picked.map fun c =>
          ((cfg.blockTokens H.prompt c.1).map Prod.fst,
            (cfg.blockTokens H.prompt c.1).map Prod.snd))).2) :
    rows.length = cfg.sinkEnd H.prompt.length + (picked.map Prod.snd).sum +
      (H.tokens.length - cfg.windowStart H.prompt.length H.appended.length) := by
  have hlen : ∀ c ∈ picked, c.2 = (cfg.blockTokens H.prompt c.1).length := by
    intro c hc
    exact (hlaid.candidate (hsub hc)).2
  rcases hrows with rfl | rfl
  · simp only [activeState, hlaid.sinkK, hlaid.recentK, List.map_map]
    exact length_picked H hlen Prod.fst
  · simp only [activeState, hlaid.sinkV, hlaid.recentV, List.map_map]
    exact length_picked H hlen Prod.snd

/-- A selection that returns gives the sink, the tokens of what it has picked and the recent
window, K and V alike. -/
theorem select_picks (hpick : ScorersPick V kernel) {h : Nat → Option (History geo)}
    (hb : HasBlocks cfg V s.backend h) (hf : Follows cfg s h) {query : Option (List (List α))}
    {out : List (TokenRow geo) × List (TokenRow geo)}
    (hout : (selectAndFetchActiveState B cfg N kernel s l query).1 = .ok out) :
    ∃ H ld picked, h l = some H ∧ s.layerData.get? l = some ld ∧ LaidOut cfg ld H ∧
      Picks (topKCount ld.candidateBlocks.length cfg.topKPct) ld.candidateBlocks picked ∧
      ∀ rows, rows = out.1 ∨ rows = out.2 → rows.length =
        cfg.sinkEnd H.prompt.length + (picked.map Prod.snd).sum +
          (H.tokens.length - cfg.windowStart H.prompt.length H.appended.length) := by
  cases hH : h l with
  | none =>
      have hnone := hf.absent l hH
      unfold selectAndFetchActiveState at hout
      split at hout
      · cases hout
      · rw [hnone] at hout
        cases hout
  | some H =>
      obtain ⟨ld, hld, hlaid⟩ := hf.present l H hH
      unfold selectAndFetchActiveState at hout
      split at hout
      · cases hout
      · rw [hld] at hout
        dsimp only at hout
        split at hout
        · cases hout
        · split at hout
          · rename_i hnil
            cases hout
            refine ⟨H, ld, [], rfl, hld, hlaid, ⟨List.nil_subperm, ?_⟩,
              fun rows => length_activeState hlaid (List.nil_subset _)⟩
            rw [hnil, List.length_nil, Nat.min_zero]
          · split at hout
            · cases hout
            · rename_i loaded s' hload
              have hheld : ∀ c ∈ ld.candidateBlocks,
                  V.content s.backend (l, c.1) = some (historyBlocks cfg H c.1) := fun c hc =>
                hb.stored l H hH c.1 (hlaid.candidate hc).1
              obtain ⟨hpicks, hfor⟩ :=
                loadWinners_picks hpick hb.valid hheld (congrArg Prod.fst hload)
              have hperm : ((orderBy (fun t => t.2.1) loaded.topBids).map Prod.snd).Perm
                  (loaded.topBids.map Prod.snd) := (orderBy_perm _ _).map _
              have hsub : (orderBy (fun t => t.2.1) loaded.topBids).map Prod.snd ⊆
                  ld.candidateBlocks := fun c hc => hpicks.among.subset (hperm.subset hc)
              dsimp only at hout
              rw [reconstruct_picked N.toAstype hlaid hfor hsub] at hout
              cases hout
              refine ⟨H, ld, _, rfl, hld, hlaid, ⟨?_, ?_⟩,
                fun rows => length_activeState hlaid hsub⟩
              · exact hperm.subperm.trans hpicks.among
              · rw [hperm.length_eq, hpicks.count]

end Scored

end TransformerKVStateProvider

end AiSsd.Adapters
