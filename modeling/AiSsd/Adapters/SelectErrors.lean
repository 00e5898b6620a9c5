import AiSsd.Adapters.LayerHistory

/-!
# What a selection raises

A selection looks things up by layer and by block. Over a store that returns the last write,
and whose own filter names candidates only, the sole lookup that can fail is the one of the
layer: for a layer that is there no `KeyError` comes out.
-/

namespace AiSsd

def PyErr.IsKeyError : PyErr → Prop
  | .keyError _ => True
  | _ => False

namespace Adapters.TransformerKVStateProvider

open Lib Numpy Storage

universe u v

/-- The call returns something that meets `P`, or raises something else than a `KeyError`. -/
def Quiet {β : Type*} (P : β → Prop) : Except PyErr β → Prop
  | .ok b => P b
  | .error err => ¬ err.IsKeyError

section Quiet

variable {β : Type u} {δ : Type v} {ι : Type v} {P : β → Prop}

theorem Quiet.imp {Q : β → Prop} {r : Except PyErr β} (h : Quiet P r) (hPQ : ∀ b, P b → Q b) :
    Quiet Q r := by
  cases r with
  | ok b => exact hPQ b h
  | error err => exact h

theorem Quiet.map {Q : δ → Prop} {f : β → δ} {r : Except PyErr β} (h : Quiet P r)
    (hPQ : ∀ b, P b → Q (f b)) : Quiet Q (r.map f) := by
  cases r with
  | ok b => exact hPQ b h
  | error err => exact h

theorem Quiet.ne_keyError {r : Except PyErr β} (h : Quiet (fun _ => True) r) (message : String) :
    r ≠ .error (.keyError message) := by
  rintro rfl
  exact h trivial

theorem quiet_mapM {f : ι → Except PyErr β} {xs : List ι}
    (h : ∀ x ∈ xs, Quiet P (f x)) : Quiet (fun ys => ∀ y ∈ ys, P y) (xs.mapM f) := by
  induction xs with
  | nil => simp [Quiet, pure, Except.pure]
  | cons x xs ih =>
      have hhead := h x List.mem_cons_self
      have htail := ih fun y hy => h y (List.mem_cons_of_mem x hy)
      rw [List.mapM_cons]
      cases hx : f x with
      | error err =>
          rw [hx] at hhead
          exact hhead
      | ok y =>
          rw [hx] at hhead
          cases hxs : xs.mapM f with
          | error err =>
              rw [hxs] at htail
              exact htail
          | ok ys =>
              rw [hxs] at htail
              exact List.forall_mem_cons.mpr ⟨hhead, htail⟩

end Quiet

/-! ## The parts of a selection -/

section Parts

variable {geo : KVGeometry} {σ : Type v} {α : Type u}

theorem quiet_blockRows (A : Astype) (kBlk vBlk : NDArray) (actual : Nat) :
    Quiet (fun _ => True) (blockRows A geo kBlk vBlk actual) := by
  have hrows : ∀ blk, Quiet (fun _ => True) (tokenRows A geo blk actual) := by
    intro blk
    unfold tokenRows
    split
    · split <;> simp [Quiet, PyErr.IsKeyError]
    · simp [Quiet, PyErr.IsKeyError]
  have hk := hrows kBlk
  have hv := hrows vBlk
  unfold blockRows
  split
  · rename_i hres
    rwa [hres] at hk
  · rename_i hres
    rwa [hres] at hv
  · trivial

theorem quiet_blockMaxScore [Field α] [LinearOrder α] (val : DType → Bytes → α)
    (query : List (List α)) (k : NDArray) (qHeads gqaRatio : Nat) (scale : α) (actual : Nat) :
    Quiet (fun _ => True) (blockMaxScore val query k qHeads gqaRatio scale actual) := by
  unfold blockMaxScore
  dsimp only
  repeat' split
  all_goals simp [Quiet, PyErr.IsKeyError, zeroSizeMax]

theorem quiet_storedScore [Field α] [LinearOrder α] (val : DType → Bytes → α)
    (blk : Nat → NDArray × NDArray) (query : List (List α)) (qHeads gqaRatio : Nat) (scale : α)
    (cand : Nat × Nat) :
    Quiet (fun _ => True) (storedScore val blk query qHeads gqaRatio scale cand) :=
  (quiet_blockMaxScore val query (blk cand.1).1 qHeads gqaRatio scale cand.2).map
    fun _ _ => trivial

theorem names_namedScores (cands : List (Nat × Nat)) (indices : List Int) (scores : List α) :
    Quiet (fun topBids => ∀ t ∈ topBids, t.2 ∈ cands) (namedScores cands indices scores) := by
  unfold namedScores
  apply quiet_mapM
  intro p _
  split
  · rename_i hcand
    exact mem_of_pyIndex hcand
  · simp [Quiet, PyErr.IsKeyError]

end Parts

/-! ## The whole selection -/

section Select

variable {geo : KVGeometry} {σ : Type v} {α : Type u} [Field α] [LinearOrder α]
  {B : BlockBackend σ α} {cfg : ProviderConfig} {N : Numerics α}

/-- What the store and the native kernel are relied on for: the winners that a filter names are
among the candidates it was asked about, and neither raises a `KeyError`. -/
structure NamesCandidates (V : B.ReturnsLastWrite) (kernel : Option (Kernel α)) : Prop where
  filter : ∀ filter ∈ B.computeTopkFilter, ∀ s l cands q k scale qHeads kvHeads headDim,
    V.Valid s → (∀ c ∈ cands, (V.content s (l, c.1)).isSome) →
    Quiet (fun topBids => ∀ t ∈ topBids, t.2 ∈ cands)
      (filter s l cands q k scale qHeads kvHeads headDim).1
  kernel : ∀ compute ∈ kernel, ∀ q kBlocks actual k qHeads kvHeads headDim,
    Quiet (fun _ => True) (compute q kBlocks actual k qHeads kvHeads headDim)

variable {V : B.ReturnsLastWrite} {kernel : Option (Kernel α)}
  {s : TransformerKVStateProvider geo σ} {l : Nat} {cands : List (Nat × Nat)}
  {blk : Nat → NDArray × NDArray}

theorem namesCandidates_of_scoresStored (hscores : BlockBackend.ScoresStored N.val V) :
    NamesCandidates V (none : Option (Kernel α)) where
  filter := by
    intro filter hfilter s l cands q k scale qHeads kvHeads headDim hs hheld
    obtain ⟨blk, hblk⟩ := exists_stored hheld
    rw [hscores filter hfilter s l cands blk q k scale qHeads kvHeads headDim hs hblk]
    cases htop : storedTopBids N.val blk cands q qHeads
        (if kvHeads > 0 then qHeads / kvHeads else 1) scale k with
    | ok topBids => exact mem_of_storedTopBids htop
    | error err =>
        unfold storedTopBids at htop
        split at htop
        · rename_i hmap
          cases htop
          have hquiet := quiet_mapM fun c (_ : c ∈ cands) => quiet_storedScore N.val blk q qHeads
            (if kvHeads > 0 then qHeads / kvHeads else 1) scale c
          rw [hmap] at hquiet
          exact hquiet
        · cases htop
  kernel := by simp

theorem names_hostTopBids (hnames : NamesCandidates V kernel) {keyPages : Dict Nat NDArray}
    (hget : ∀ bid ∈ cands.map Prod.fst, keyPages.get? bid = some (blk bid).1)
    (kBlocks : List NDArray) (q : List (List α)) (scale : α) (k : Nat) :
    Quiet (fun topBids => ∀ t ∈ topBids, t.2 ∈ cands)
      (hostTopBids cfg N kernel s cands keyPages kBlocks q scale k) := by
  unfold hostTopBids
  cases kernel with
  | none =>
      have hscores : Quiet (fun scores => ∀ t ∈ scores, t.2 ∈ cands)
          (hostScores cfg N cands keyPages q scale) := by
        apply quiet_mapM
        intro cand hcand
        rw [pageOf, hget _ (List.mem_map_of_mem hcand)]
        exact (quiet_blockMaxScore N.val q (blk cand.1).1 q.length cfg.config.gqaRatio scale
          cand.2).map fun _ _ => hcand
      dsimp only
      split
      · rename_i hres
        rwa [hres] at hscores
      · rename_i scores hres
        rw [hres] at hscores
        exact fun t ht => hscores t ((topBy_subperm Prod.fst k scores).subset ht)
  | some compute =>
      dsimp only
      split
      · simp [Quiet, PyErr.IsKeyError]
      · rename_i kvHeads _
        have hcall := hnames.kernel compute rfl q kBlocks (cands.map Prod.snd) k q.length kvHeads
          s.headDim
        split
        · rename_i hres
          rwa [hres] at hcall
        · exact names_namedScores cands _ _

omit [Field α] [LinearOrder α] in
theorem quiet_of_loads {topBids : List (α × Nat × Nat)} {r : Except PyErr (Loaded α)}
    (h : Loads blk topBids r) : Quiet (LoadedFor blk) r := by
  obtain ⟨loaded, rfl, -, hfor⟩ := h
  exact hfor

theorem quiet_hostLoad (hnames : NamesCandidates V kernel) (hs : V.Valid s.backend)
    (hheld : ∀ c ∈ cands, V.content s.backend (l, c.1) = some (blk c.1)) (q : List (List α))
    (scale : α) (k : Nat) :
    Quiet (LoadedFor blk) (hostLoad B cfg N kernel s l cands q scale k).1 := by
  obtain ⟨s', keyPages, kBlocks, hget, -, hcases⟩ := hostLoad_cases cfg N kernel hs hheld q scale k
  have htop : Quiet (fun topBids => ∀ t ∈ topBids, t.2 ∈ cands)
      (hostTopBids cfg N kernel s' cands keyPages kBlocks q scale k) :=
    names_hostTopBids hnames hget kBlocks q scale k
  split at hcases
  · rename_i hres
    rw [hres] at htop
    rw [hcases]
    exact htop
  · rename_i hres
    rw [hres] at htop
    exact quiet_of_loads (hcases htop)

theorem quiet_loadWinners (hnames : NamesCandidates V kernel) (hs : V.Valid s.backend)
    (hheld : ∀ c ∈ cands, V.content s.backend (l, c.1) = some (blk c.1)) (q : List (List α))
    (scale : α) :
    Quiet (LoadedFor blk) (loadWinners B cfg N kernel s l cands q scale).1 := by
  unfold loadWinners
  dsimp only
  split
  · exact quiet_hostLoad hnames hs hheld q scale _
  · rename_i filter hfilter
    have hmem : filter ∈ B.computeTopkFilter := by
      split at hfilter
      · exact hfilter
      · cases hfilter
    have hcall := hnames.filter filter hmem s.backend l cands q
      (topKCount cands.length cfg.topKPct) scale q.length s.numKvHeads s.headDim hs
      fun c hc => by rw [hheld c hc]; rfl
    have hkeeps := V.topk_keeps filter hmem s.backend l cands q
      (topKCount cands.length cfg.topKPct) scale q.length s.numKvHeads s.headDim hs
    split
    · rename_i hres
      rw [hres] at hcall
      exact hcall
    · rename_i topBids backend hres
      rw [hres] at hcall hkeeps
      have hwin : ∀ t ∈ topBids, V.content backend (l, t.2.1) = some (blk t.2.1) := by
        rw [hkeeps.content_eq]
        exact fun t ht => hheld t.2 (hcall t ht)
      split
      · exact quiet_of_loads (loadThenPrefetch_ok hkeeps.valid hwin)
      · exact quiet_of_loads (prefetchThenLoad_ok hkeeps.valid hwin)

omit [Field α] [LinearOrder α] in
theorem quiet_reconstruct (A : Astype) (ld : LayerData geo) {loaded : Loaded α}
    (h : LoadedFor blk loaded) : Quiet (fun _ => True) (reconstruct A ld loaded) := by
  rw [reconstruct_eq A ld h]
  have hrows : Quiet (fun _ => True) ((orderBy (fun t : α × Nat × Nat => t.2.1)
      loaded.topBids).mapM (storedRows A geo blk)) :=
    (quiet_mapM fun t _ => quiet_blockRows A _ _ _).imp fun _ _ => trivial
  exact hrows.map fun _ _ => trivial

/-- A layer that is there, with its candidates in the store, is selected from without a
`KeyError`. -/
theorem quiet_select (hnames : NamesCandidates V kernel) (hs : V.Valid s.backend)
    {ld : LayerData geo} (hld : s.layerData.get? l = some ld)
    (hheld : ∀ c ∈ ld.candidateBlocks, V.content s.backend (l, c.1) = some (blk c.1))
    (query : Option (List (List α))) :
    Quiet (fun _ => True) (selectAndFetchActiveState B cfg N kernel s l query).1 := by
  unfold selectAndFetchActiveState
  cases query with
  | none => simp [Quiet, PyErr.IsKeyError]
  | some q =>
      simp only [hld]
      split
      · simp [Quiet, PyErr.IsKeyError]
      · split
        · trivial
        · have hload : Quiet (LoadedFor blk) (loadWinners B cfg N kernel s l ld.candidateBlocks q
              (N.invSqrt s.headDim)).1 :=
            quiet_loadWinners hnames hs hheld q _
          split
          · rename_i hres
            rw [hres] at hload
            exact hload
          · rename_i hres
            rw [hres] at hload
            exact quiet_reconstruct N.toAstype ld hload

end Select

end Adapters.TransformerKVStateProvider

end AiSsd
