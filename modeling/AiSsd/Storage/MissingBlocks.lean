import AiSsd.NativeKernel.FastPath
import AiSsd.Storage.InferenceContract

/-!
# Scoring blocks that are not stored

A key page that is not stored reads as zeros. The in-storage top-k reads 4096 bytes from the
start of the file in its place, which is some other block's page, or too few or too many bytes.
-/

namespace AiSsd.Storage.RealInferenceStorageBackend

open Lib Numpy
open NativeKernel (maxProduct lt_maxProduct sum_zipIdx)

variable {cfg : BackendConfig} {α : Type} [Field α] [LinearOrder α] (val : DType → Bytes → α)

/-! ## The score of a page -/

def products (query : List (List α)) (k : NDArray) (heads dim gqaRatio : Nat) (scale : α)
    (tokens actual : Nat) : List α :=
  (((List.range tokens).map (tokenDots val query k heads dim gqaRatio scale)).take actual).flatten

variable {val} {query : List (List α)} {k : NDArray} {qHeads gqaRatio actual : Nat} {scale : α}

omit [LinearOrder α] in
theorem mem_products {heads dim tokens : Nat} {x : α} :
    x ∈ products val query k heads dim gqaRatio scale tokens actual ↔
      ∃ t, t < actual ∧ t < tokens ∧ x ∈ tokenDots val query k heads dim gqaRatio scale t := by
  rw [products, ← List.map_take, List.take_range, ← List.flatMap_def, List.mem_flatMap]
  simp only [List.mem_range, Nat.lt_min, and_assoc]

omit [LinearOrder α] in
theorem mem_tokenDots {heads dim t : Nat} {x : α} :
    x ∈ tokenDots val query k heads dim gqaRatio scale t ↔
      ∃ h row, query[h]? = some row ∧ (∑ d ∈ Finset.range row.length,
        row.getD d 0 * elem3 val k heads dim t (h / gqaRatio) d) * scale = x := by
  unfold tokenDots
  simp only [List.mem_map, sum_zipIdx, Prod.exists, List.mem_zipIdx_iff_getElem?]
  exact exists_comm

omit [LinearOrder α] in
theorem products_ne_nil {heads dim tokens : Nat} :
    products val query k heads dim gqaRatio scale tokens actual ≠ [] ↔
      0 < actual ∧ 0 < tokens ∧ query ≠ [] := by
  rw [List.ne_nil_iff_exists_cons]
  constructor
  · rintro ⟨x, xs, hcons⟩
    obtain ⟨t, hactual, htokens, hx⟩ := mem_products.mp (hcons ▸ List.mem_cons_self)
    obtain ⟨h, row, hrow, -⟩ := mem_tokenDots.mp hx
    exact ⟨by omega, by omega, List.ne_nil_of_mem (List.mem_of_getElem? hrow)⟩
  · rintro ⟨hactual, htokens, hquery⟩
    exact exists_dots val k heads dim gqaRatio scale (List.length_pos_iff.mpr hquery) htokens hactual

/-- A page of three axes has a score exactly when the query fits it. -/
theorem blockMaxScore_of_shape {tokens heads dim : Nat} {best : α}
    (hshape : k.shape = [tokens, heads, dim]) (hzero : gqaRatio = 0 → qHeads = 0) :
    blockMaxScore val query k qHeads gqaRatio scale actual = .ok best ↔
      (∀ h < qHeads, h / gqaRatio < heads) ∧
        (query.length = qHeads ∧ ∀ row ∈ query, row.length = dim) ∧
        products val query k heads dim gqaRatio scale tokens actual ≠ [] ∧
        maxProduct (products val query k heads dim gqaRatio scale tokens actual) = best := by
  have hratio : ¬ (gqaRatio = 0 ∧ 0 < qHeads) := by omega
  have hheads : ((List.range qHeads).any fun h => decide (heads ≤ h / gqaRatio)) = true ↔
      ¬ ∀ h < qHeads, h / gqaRatio < heads := by
    rw [List.any_eq_true]
    push Not
    simp
  have hrows : query.length ≠ qHeads ∨ (query.any fun row => decide (row.length ≠ dim)) = true ↔
      ¬ (query.length = qHeads ∧ ∀ row ∈ query, row.length = dim) := by
    rw [List.any_eq_true, not_and_or]
    push Not
    simp
  unfold blockMaxScore
  rw [if_neg hratio, hshape]
  dsimp only
  split
  · rename_i hany
    exact iff_of_false (by simp) fun h => hheads.mp hany h.1
  · rename_i hany
    rw [hheads, not_not] at hany
    split
    · rename_i hbad
      exact iff_of_false (by simp) fun h => hrows.mp hbad h.2.1
    · rename_i hbad
      rw [hrows, not_not] at hbad
      rw [and_iff_right hany, and_iff_right hbad]
      split
      · rename_i hnil
        have hproducts : products val query k heads dim gqaRatio scale tokens actual = [] := hnil
        simp [hproducts]
      · rename_i first rest hcons
        have hproducts : products val query k heads dim gqaRatio scale tokens actual =
            first :: rest := hcons
        simp [hproducts, maxProduct]

/-- There is a score exactly when the query fits the page, and it is the maximum. -/
theorem blockMaxScore_eq_ok {best : α} :
    blockMaxScore val query k qHeads gqaRatio scale actual = .ok best ↔
      ∃ tokens heads dim, k.shape = [tokens, heads, dim] ∧ (gqaRatio = 0 → qHeads = 0) ∧
        (∀ h < qHeads, h / gqaRatio < heads) ∧ query.length = qHeads ∧
        (∀ row ∈ query, row.length = dim) ∧
        products val query k heads dim gqaRatio scale tokens actual ≠ [] ∧
        maxProduct (products val query k heads dim gqaRatio scale tokens actual) = best := by
  constructor
  · intro hscore
    have hzero : gqaRatio = 0 → qHeads = 0 := by
      intro hratio
      by_contra hheads
      unfold blockMaxScore at hscore
      rw [if_pos ⟨hratio, Nat.pos_of_ne_zero hheads⟩] at hscore
      cases hscore
    by_cases hshape : ∃ tokens heads dim, k.shape = [tokens, heads, dim]
    · obtain ⟨tokens, heads, dim, hshape⟩ := hshape
      obtain ⟨hheads, ⟨hlength, hrows⟩, hne, hmax⟩ :=
        (blockMaxScore_of_shape hshape hzero).mp hscore
      exact ⟨tokens, heads, dim, hshape, hzero, hheads, hlength, hrows, hne, hmax⟩
    · have hratio : ¬ (gqaRatio = 0 ∧ 0 < qHeads) := by omega
      unfold blockMaxScore at hscore
      rw [if_neg hratio] at hscore
      split at hscore
      · rename_i tokens heads dim hthree
        exact absurd ⟨tokens, heads, dim, hthree⟩ hshape
      all_goals cases hscore
  · rintro ⟨tokens, heads, dim, hshape, hzero, hheads, hlength, hrows, hne, hmax⟩
    exact (blockMaxScore_of_shape hshape hzero).mpr ⟨hheads, ⟨hlength, hrows⟩, hne, hmax⟩

/-- Pages of one shape that agree where the score looks have the same score. -/
theorem blockMaxScore_congr {k' : NDArray} {tokens heads dim : Nat} {best : α}
    (hshape : k.shape = [tokens, heads, dim]) (hshape' : k'.shape = [tokens, heads, dim])
    (hsame : ∀ t < actual, t < tokens → ∀ h < qHeads, ∀ d < dim,
      elem3 val k heads dim t (h / gqaRatio) d = elem3 val k' heads dim t (h / gqaRatio) d)
    (hbest : blockMaxScore val query k qHeads gqaRatio scale actual = .ok best) :
    blockMaxScore val query k' qHeads gqaRatio scale actual = .ok best := by
  obtain ⟨_, _, _, hk, hzero, hheads, hlength, hrows, hne, hmax⟩ := blockMaxScore_eq_ok.mp hbest
  rw [hshape] at hk
  cases hk
  have hproducts : products val query k heads dim gqaRatio scale tokens actual =
      products val query k' heads dim gqaRatio scale tokens actual := by
    unfold products
    rw [← List.map_take, ← List.map_take, List.take_range]
    refine congrArg List.flatten (List.map_congr_left fun t ht => ?_)
    rw [List.mem_range, Nat.lt_min] at ht
    unfold tokenDots
    refine List.map_congr_left fun row hrow => ?_
    have hget := List.mem_zipIdx_iff_getElem?.mp hrow
    have hh : row.2 < qHeads := hlength ▸ (List.getElem?_eq_some_iff.mp hget).1
    have hrowLength := hrows _ (List.mem_of_getElem? hget)
    rw [sum_zipIdx, sum_zipIdx]
    refine congrArg (· * scale) (Finset.sum_congr rfl fun d hd => ?_)
    rw [Finset.mem_range, hrowLength] at hd
    rw [hsame t ht.1 ht.2 row.2 hh d hd]
  rw [hproducts] at hne hmax
  exact blockMaxScore_eq_ok.mpr ⟨_, _, _, hshape', hzero, hheads, hlength, hrows, hne, hmax⟩

/-! ## The zero page -/

omit [LinearOrder α] in
theorem elem3_zeroPage (hval : val float32 [0, 0, 0, 0] = 0) {t h d : Nat}
    (ht : t < cfg.tokensPerBlock) (hh : h < cfg.numHeads) (hd : d < cfg.headDim) :
    elem3 val (zeroPage cfg) cfg.numHeads cfg.headDim t h d = 0 := by
  have hin := index_lt ht hh hd
  have hbytes : ((zeroPage cfg).data.drop (((t * cfg.numHeads + h) * cfg.headDim + d) * 4)).take 4 =
      [0, 0, 0, 0] := by
    have hdata : (zeroPage cfg).data =
        List.replicate (cfg.tokensPerBlock * cfg.numHeads * cfg.headDim * 4) 0 := by
      simp [zeroPage, NDArray.zeros, BackendConfig.canonicalShape, float32, Nat.mul_assoc]
    rw [hdata, List.drop_replicate, List.take_replicate, Nat.min_eq_left (by omega)]
    rfl
  rw [← hval]
  exact congrArg (val float32) hbytes

theorem blockMaxScore_zeroPage (hval : val float32 [0, 0, 0, 0] = 0) {best : α}
    (hbest : blockMaxScore val query (zeroPage cfg) qHeads gqaRatio scale actual = .ok best) :
    best = 0 := by
  obtain ⟨_, _, _, hshape, -, hheads, hlength, hrows, hne, rfl⟩ := blockMaxScore_eq_ok.mp hbest
  cases hshape
  have hmem : ∀ xs : List α, xs ≠ [] → maxProduct xs ∈ xs := by
    intro xs hxs
    cases xs with
    | nil => exact absurd rfl hxs
    | cons first rest => exact npMax_mem first rest
  obtain ⟨t, -, ht, hx⟩ := mem_products.mp (hmem _ hne)
  obtain ⟨h, row, hrow, hx⟩ := mem_tokenDots.mp hx
  have hh : h < qHeads := hlength ▸ (List.getElem?_eq_some_iff.mp hrow).1
  have hdim := hrows row (List.mem_of_getElem? hrow)
  rw [← hx, Finset.sum_eq_zero, zero_mul]
  intro d hd
  rw [Finset.mem_range, hdim] at hd
  rw [elem3_zeroPage hval ht (hheads h hh) hd, mul_zero]

/-! ## The filter and the key pages -/

variable (val)

/-- The candidates with the best scores of what `read_key_page` returns for them. -/
def keyPageTopk (s : RealInferenceStorageBackend cfg) (layerIdx : Nat)
    (candBids : List (Nat × Nat)) (query : List (List α)) (topK : Nat) (scale : α)
    (qHeads kvHeads : Nat) : Except PyErr (List (α × Nat × Nat)) :=
  let gqaRatio := if kvHeads > 0 then qHeads / kvHeads else 1
  (candBids.mapM fun cand => (readKeyPage s layerIdx cand.1 0 0).1.bind fun k =>
    scoreCandidate val query scale qHeads gqaRatio (k, cand)).map (topBy Prod.fst topK)

/-- What is read in place of a missing block is a page, with zeros where the score looks. -/
def ReadsAsZero (s : RealInferenceStorageBackend cfg) (qHeads gqaRatio actual : Nat) : Prop :=
  ∃ k, NDArray.decode (s.file.pread 4096 0) float32 cfg.canonicalShape = .ok k ∧
    ∀ t < actual, t < cfg.tokensPerBlock → ∀ h < qHeads, ∀ d < cfg.headDim,
      elem3 val k cfg.numHeads cfg.headDim t (h / gqaRatio) d = 0

variable {val}

/-- The key pages of all candidates can be scored against queries of one shape. -/
def Scorable (s : RealInferenceStorageBackend cfg) (layerIdx : Nat) (candBids : List (Nat × Nat))
    (qHeads gqaRatio : Nat) : Prop :=
  0 < qHeads ∧ 0 < gqaRatio ∧ ∃ dim, ∀ cand ∈ candBids, ∃ k tokens heads,
    (readKeyPage s layerIdx cand.1 0 0).1 = .ok k ∧ k.shape = [tokens, heads, dim] ∧ 0 < tokens ∧
      ∀ h < qHeads, h / gqaRatio < heads

variable {s : RealInferenceStorageBackend cfg} {layerIdx : Nat}

omit [Field α] [LinearOrder α] in
theorem fetch_of_readSingle {ρ : Type} {kind : ReadKind}
    {fetch : ByteFile → Option (Entry cfg.channels) → Except PyErr (ρ × Nat)} {b head ts : Nat}
    {ret : ρ} (hread : (readSingle kind fetch s layerIdx b head ts).1 = .ok ret) :
    ∃ n, fetch s.file (s.storage.get? (layerIdx, b)) = .ok (ret, n) := by
  unfold readSingle at hread
  split at hread
  · cases hread
  · split at hread
    · cases hread
    · rename_i hfetch
      cases hread
      exact ⟨_, hfetch⟩

theorem candidateKeys_stored {cand : Nat × Nat} {e : Entry cfg.channels} {k : NDArray}
    (hget : s.storage.get? (layerIdx, cand.1) = some e) {head ts : Nat}
    (hread : (readKeyPage s layerIdx cand.1 head ts).1 = .ok k) :
    candidateKeys s layerIdx (candidateInfo s layerIdx cand) = .ok k := by
  obtain ⟨n, hfetch⟩ := fetch_of_readSingle hread
  rw [hget] at hfetch
  simp only [candidateKeys, candidateInfo, hget]
  unfold fetchKey at hfetch
  dsimp only at hfetch
  split at hfetch
  · cases hfetch
  · rename_i hdec
    cases hfetch
    exact hdec

theorem readKeyPage_missing {b : Nat} {k : NDArray} (hget : s.storage.get? (layerIdx, b) = none)
    {head ts : Nat} (hread : (readKeyPage s layerIdx b head ts).1 = .ok k) : k = zeroPage cfg := by
  obtain ⟨n, hfetch⟩ := fetch_of_readSingle hread
  rw [hget] at hfetch
  cases hfetch
  rfl

theorem candidateKeys_missing {cand : Nat × Nat} (hget : s.storage.get? (layerIdx, cand.1) = none) :
    candidateKeys s layerIdx (candidateInfo s layerIdx cand) =
      NDArray.decode (s.file.pread 4096 0) float32 cfg.canonicalShape := by
  simp only [candidateKeys, candidateInfo, hget]

theorem computeTopkFilter_eq_ok {candBids : List (Nat × Nat)} {topK kvHeads headDim : Nat}
    {best : List (α × Nat × Nat)} :
    (computeTopkFilter val none s layerIdx candBids query topK scale qHeads kvHeads headDim).1 =
        .ok best ↔
      (candBids.mapM fun cand =>
        (candidateKeys s layerIdx (candidateInfo s layerIdx cand)).bind fun k =>
          scoreCandidate val query scale qHeads (if kvHeads > 0 then qHeads / kvHeads else 1)
            (k, cand)).map (topBy Prod.fst topK) = .ok best := by
  by_cases hnil : candBids = []
  · subst hnil
    simp [computeTopkFilter, topBy, pure, Except.pure, Except.map]
  have hmap : ∀ r : Except PyErr (List (α × Nat × Nat)),
      r.map (topBy Prod.fst topK) = .ok best ↔ ∃ scores, r = .ok scores ∧
        topBy Prod.fst topK scores = best := by
    intro r
    cases r <;> simp [Except.map]
  rw [hmap, computeTopkFilter, if_neg hnil, topkResults, List.mapM_map, Function.comp_def]
  simp only [← mapM_zip_eq_ok]
  cases candBids.mapM fun cand => candidateKeys s layerIdx (candidateInfo s layerIdx cand) with
  | error err => simp
  | ok ks =>
      simp only [Except.ok.injEq, exists_eq_left', scoreCandidates]
      cases (ks.zip candBids).mapM (scoreCandidate val query scale qHeads
          (if kvHeads > 0 then qHeads / kvHeads else 1)) with
      | error err => simp
      | ok scores => simp [sortDescending, topBy]

/-! ## When they agree -/

theorem scoreCandidate_eq_ok {k : NDArray} {cand : Nat × Nat} {score : α × Nat × Nat} :
    scoreCandidate val query scale qHeads gqaRatio (k, cand) = .ok score ↔
      blockMaxScore val query k qHeads gqaRatio scale cand.2 = .ok score.1 ∧ score.2 = cand := by
  obtain ⟨x, c⟩ := score
  unfold scoreCandidate
  cases blockMaxScore val query k qHeads gqaRatio scale cand.2 <;>
    simp [Except.map, eq_comm]

theorem page_of_score {cand : Nat × Nat} {score : α × Nat × Nat} :
    (readKeyPage s layerIdx cand.1 0 0).1.bind (fun k =>
        scoreCandidate val query scale qHeads gqaRatio (k, cand)) = .ok score ↔
      ∃ k, (readKeyPage s layerIdx cand.1 0 0).1 = .ok k ∧
        blockMaxScore val query k qHeads gqaRatio scale cand.2 = .ok score.1 ∧ score.2 = cand := by
  simp only [← scoreCandidate_eq_ok]
  cases (readKeyPage s layerIdx cand.1 0 0).1 <;> simp [Except.bind]

theorem scorable_of_scores {candBids : List (Nat × Nat)} (hne : candBids ≠ [])
    {scores : List (α × Nat × Nat)}
    (h : (candBids.mapM fun cand => (readKeyPage s layerIdx cand.1 0 0).1.bind fun k =>
      scoreCandidate val query scale qHeads gqaRatio (k, cand)) = .ok scores) :
    Scorable s layerIdx candBids qHeads gqaRatio := by
  have hpages : ∀ cand ∈ candBids, ∃ k tokens heads dim,
      (readKeyPage s layerIdx cand.1 0 0).1 = .ok k ∧ k.shape = [tokens, heads, dim] ∧
        (gqaRatio = 0 → qHeads = 0) ∧ (∀ h < qHeads, h / gqaRatio < heads) ∧ query.length = qHeads ∧
        (∀ row ∈ query, row.length = dim) ∧ 0 < tokens ∧ query ≠ [] := by
    intro cand hcand
    obtain ⟨score, hscore⟩ := ok_of_mapM_eq_ok h cand hcand
    obtain ⟨k, hk, hmax, -⟩ := page_of_score.mp hscore
    obtain ⟨tokens, heads, dim, hshape, hzero, hheads, hlength, hrows, hproducts, -⟩ :=
      blockMaxScore_eq_ok.mp hmax
    obtain ⟨-, htokens, hquery⟩ := products_ne_nil.mp hproducts
    exact ⟨k, tokens, heads, dim, hk, hshape, hzero, hheads, hlength, hrows, htokens, hquery⟩
  obtain ⟨first, hfirst⟩ := List.exists_mem_of_ne_nil _ hne
  obtain ⟨_, _, _, dim, -, -, hzero, -, hlength, hrows, -, hquery⟩ := hpages first hfirst
  obtain ⟨row, hrow⟩ := List.exists_mem_of_ne_nil _ hquery
  have hpos : 0 < qHeads := hlength ▸ List.length_pos_of_mem hrow
  refine ⟨hpos, by omega, dim, fun cand hcand => ?_⟩
  obtain ⟨k, tokens, heads, dim', hk, hshape, -, hheads, -, hrows', htokens, -⟩ := hpages cand hcand
  obtain rfl : dim' = dim := (hrows' row hrow).symm.trans (hrows row hrow)
  exact ⟨k, tokens, heads, hk, hshape, htokens, hheads⟩

omit [Field α] in
theorem topBy_perm {xs : List (α × Nat × Nat)} {n : Nat} (h : xs.length = n) :
    (topBy Prod.fst n xs).Perm xs := by
  unfold topBy
  rw [List.take_of_length_le (by rw [List.length_insertionSort, h])]
  exact List.perm_insertionSort _ xs

/-- A filter that returns the scores of the key pages gives each candidate its own. -/
theorem candidate_of_filter {candBids : List (Nat × Nat)} {kvHeads headDim : Nat}
    (h : ∀ (query : List (List α)) topK scale best,
      keyPageTopk val s layerIdx candBids query topK scale qHeads kvHeads = .ok best →
      (computeTopkFilter val none s layerIdx candBids query topK scale qHeads kvHeads headDim).1 =
        .ok best)
    {scores : List (α × Nat × Nat)}
    (hscores : (candBids.mapM fun cand => (readKeyPage s layerIdx cand.1 0 0).1.bind fun k =>
      scoreCandidate val query scale qHeads (if kvHeads > 0 then qHeads / kvHeads else 1)
        (k, cand)) = .ok scores)
    {cand : Nat × Nat} (hcand : cand ∈ candBids) :
    ∃ k page x, candidateKeys s layerIdx (candidateInfo s layerIdx cand) = .ok k ∧
      (readKeyPage s layerIdx cand.1 0 0).1 = .ok page ∧
      blockMaxScore val query k qHeads (if kvHeads > 0 then qHeads / kvHeads else 1) scale cand.2 =
        .ok x ∧
      blockMaxScore val query page qHeads (if kvHeads > 0 then qHeads / kvHeads else 1) scale cand.2 =
        .ok x := by
  have hbest : keyPageTopk val s layerIdx candBids query candBids.length scale qHeads kvHeads =
      .ok (topBy Prod.fst candBids.length scores) := by
    rw [keyPageTopk, hscores]
    rfl
  have hcode := computeTopkFilter_eq_ok.mp (h _ _ _ _ hbest)
  cases hscores' : candBids.mapM fun cand =>
      (candidateKeys s layerIdx (candidateInfo s layerIdx cand)).bind fun k =>
        scoreCandidate val query scale qHeads (if kvHeads > 0 then qHeads / kvHeads else 1)
          (k, cand) with
  | error err =>
      rw [hscores'] at hcode
      cases hcode
  | ok scores' =>
      rw [hscores'] at hcode
      have hsame : topBy Prod.fst candBids.length scores' = topBy Prod.fst candBids.length scores :=
        Except.ok.inj hcode
      have hperm : scores.Perm scores' :=
        (topBy_perm (mapM_eq_ok hscores).length_eq.symm).symm.trans
          (hsame ▸ topBy_perm (mapM_eq_ok hscores').length_eq.symm)
      obtain ⟨score, hmem, hscore⟩ := (mem_mapM_eq_ok hscores).1 cand hcand
      obtain ⟨page, hpage, hmax, hname⟩ := page_of_score.mp hscore
      obtain ⟨cand', -, hscore'⟩ := (mem_mapM_eq_ok hscores').2 score (hperm.subset hmem)
      cases hk : candidateKeys s layerIdx (candidateInfo s layerIdx cand') with
      | error err =>
          rw [hk] at hscore'
          cases hscore'
      | ok k =>
          rw [hk] at hscore'
          obtain ⟨hmax', hname'⟩ := scoreCandidate_eq_ok.mp hscore'
          obtain rfl : cand' = cand := hname'.symm.trans hname
          exact ⟨k, page, score.1, hk, hpage, hmax', hmax⟩

def spike (qHeads dim h d : Nat) (x : α) : List (List α) :=
  (List.range qHeads).map fun h' => (List.range dim).map fun d' => if h' = h ∧ d' = d then x else 0

omit [LinearOrder α] in
theorem length_spike (qHeads dim h d : Nat) (x : α) : (spike qHeads dim h d x).length = qHeads := by
  simp [spike]

omit [LinearOrder α] in
theorem length_of_mem_spike {dim h d : Nat} {x : α} :
    ∀ row ∈ spike qHeads dim h d x, row.length = dim := by
  intro row hrow
  obtain ⟨h', -, rfl⟩ := List.mem_map.mp hrow
  simp

omit [LinearOrder α] in
theorem mul_mem_tokenDots_spike {heads dim t h d : Nat} (hh : h < qHeads) (hd : d < dim) (x : α) :
    x * elem3 val k heads dim t (h / gqaRatio) d ∈
      tokenDots val (spike qHeads dim h d x) k heads dim gqaRatio 1 t := by
  refine mem_tokenDots.mpr ⟨h, (List.range dim).map fun d' => if h = h ∧ d' = d then x else 0, ?_, ?_⟩
  · simp [spike, hh]
  · rw [mul_one, List.length_map, List.length_range,
      Finset.sum_eq_single_of_mem d (Finset.mem_range.mpr hd)]
    · simp [hd]
    · intro d' hd' hne
      simp [Finset.mem_range.mp hd', hne]

theorem scores_of_scorable {candBids : List (Nat × Nat)} (htokens : ∀ cand ∈ candBids, 1 ≤ cand.2)
    (hq : 0 < qHeads) (hratio : 0 < gqaRatio) {dim : Nat}
    (hpages : ∀ cand ∈ candBids, ∃ k tokens heads,
      (readKeyPage s layerIdx cand.1 0 0).1 = .ok k ∧ k.shape = [tokens, heads, dim] ∧ 0 < tokens ∧
        ∀ h < qHeads, h / gqaRatio < heads)
    (hlength : query.length = qHeads) (hrows : ∀ row ∈ query, row.length = dim) (scale : α) :
    ∃ scores, (candBids.mapM fun cand => (readKeyPage s layerIdx cand.1 0 0).1.bind fun k =>
      scoreCandidate val query scale qHeads gqaRatio (k, cand)) = .ok scores := by
  obtain ⟨scores, hscores, -⟩ := @mapM_ok_length _ _ _ (fun cand =>
    (readKeyPage s layerIdx cand.1 0 0).1.bind fun k =>
      scoreCandidate val query scale qHeads gqaRatio (k, cand)) candBids fun cand hcand => by
    obtain ⟨k, tokens, heads, hk, hshape, htoken, hheads⟩ := hpages cand hcand
    have hquery : query ≠ [] := List.ne_nil_of_length_pos (hlength ▸ hq)
    exact ⟨(_, cand), page_of_score.mpr ⟨k, hk, blockMaxScore_eq_ok.mpr
      ⟨tokens, heads, dim, hshape, by omega, hheads, hlength, hrows,
        products_ne_nil.mpr ⟨htokens cand hcand, htoken, hquery⟩, rfl⟩, rfl⟩⟩
  exact ⟨scores, hscores⟩

variable [IsStrictOrderedRing α]

/-- A filter that scores the key pages finds zeros where a block is missing. -/
theorem readsAsZero_of_filter (hval : val float32 [0, 0, 0, 0] = 0) {candBids : List (Nat × Nat)}
    {kvHeads headDim : Nat} (htokens : ∀ cand ∈ candBids, 1 ≤ cand.2)
    (h : ∀ (query : List (List α)) topK scale best,
      keyPageTopk val s layerIdx candBids query topK scale qHeads kvHeads = .ok best →
      (computeTopkFilter val none s layerIdx candBids query topK scale qHeads kvHeads headDim).1 =
        .ok best)
    (hscorable : Scorable s layerIdx candBids qHeads (if kvHeads > 0 then qHeads / kvHeads else 1))
    {cand : Nat × Nat} (hcand : cand ∈ candBids)
    (hmissing : s.storage.get? (layerIdx, cand.1) = none) :
    ReadsAsZero val s qHeads (if kvHeads > 0 then qHeads / kvHeads else 1) cand.2 := by
  obtain ⟨hq, hratio, dim, hpages⟩ := hscorable
  have hdim : dim = cfg.headDim := by
    obtain ⟨k, tokens, heads, hk, hshape, -⟩ := hpages cand hcand
    obtain rfl := readKeyPage_missing hmissing hk
    cases hshape
    rfl
  subst hdim
  -- the score of the zero page is zero, so what is read instead scores zero
  have hzero : ∀ query : List (List α), query.length = qHeads →
      (∀ row ∈ query, row.length = cfg.headDim) →
      ∃ k, NDArray.decode (s.file.pread 4096 0) float32 cfg.canonicalShape = .ok k ∧
        blockMaxScore val query k qHeads (if kvHeads > 0 then qHeads / kvHeads else 1) 1 cand.2 =
          .ok 0 := by
    intro query hlength hrows
    obtain ⟨scores, hscores⟩ :=
      @scores_of_scorable _ _ _ _ val query _ _ _ _ _ htokens hq hratio _ hpages hlength hrows 1
    obtain ⟨k, page, x, hk, hpage, hmax, hpageMax⟩ := candidate_of_filter h hscores hcand
    obtain rfl := readKeyPage_missing hmissing hpage
    obtain rfl := blockMaxScore_zeroPage hval hpageMax
    rw [candidateKeys_missing hmissing] at hk
    exact ⟨k, hk, hmax⟩
  obtain ⟨k, hk, -⟩ := hzero _ (length_spike qHeads cfg.headDim 0 0 0) length_of_mem_spike
  refine ⟨k, hk, fun t hactual ht qh hqh d hd => ?_⟩
  by_contra hne
  generalize hx : elem3 val k cfg.numHeads cfg.headDim t
    (qh / (if kvHeads > 0 then qHeads / kvHeads else 1)) d = x at hne
  obtain ⟨k', hk', hmax⟩ := hzero _ (length_spike qHeads cfg.headDim qh d x) length_of_mem_spike
  obtain rfl : k' = k := Except.ok.inj (hk'.symm.trans hk)
  obtain ⟨tokens, heads, dim, hshape, -, -, -, -, hproducts, hbest⟩ := blockMaxScore_eq_ok.mp hmax
  have hcanonical : [tokens, heads, dim] = cfg.canonicalShape :=
    hshape.symm.trans (NDArray.of_decode_eq_ok hk).2.1
  cases hcanonical
  have hpos : (0 : α) < maxProduct (products val (spike qHeads cfg.headDim qh d x) k' cfg.numHeads
      cfg.headDim (if kvHeads > 0 then qHeads / kvHeads else 1) 1 cfg.tokensPerBlock cand.2) :=
    (lt_maxProduct 0 hproducts).mpr ⟨x * x, mem_products.mpr ⟨t, hactual, ht, by
      have hmem := @mul_mem_tokenDots_spike _ _ val k' qHeads
        (if kvHeads > 0 then qHeads / kvHeads else 1) cfg.numHeads cfg.headDim t qh d hqh hd x
      rwa [hx] at hmem⟩, mul_self_pos.mpr hne⟩
  exact absurd hbest hpos.ne'

/-- The filter returns the candidates with the best scores of their key pages, and these scores,
exactly when what it reads in place of every missing block is a page with zeros where the score
looks, or no query has a score for all key pages. -/
theorem filter_scores_key_pages_iff (hval : val float32 [0, 0, 0, 0] = 0)
    (s : RealInferenceStorageBackend cfg) (layerIdx : Nat) (candBids : List (Nat × Nat))
    (htokens : ∀ cand ∈ candBids, 1 ≤ cand.2) (qHeads kvHeads headDim : Nat) :
    (∀ (query : List (List α)) topK scale best,
      keyPageTopk val s layerIdx candBids query topK scale qHeads kvHeads = .ok best →
      (computeTopkFilter val none s layerIdx candBids query topK scale qHeads kvHeads headDim).1 =
        .ok best) ↔
    (Scorable s layerIdx candBids qHeads (if kvHeads > 0 then qHeads / kvHeads else 1) →
      ∀ cand ∈ candBids, containsBlock s layerIdx cand.1 = false →
        ReadsAsZero val s qHeads (if kvHeads > 0 then qHeads / kvHeads else 1) cand.2) := by
  constructor
  · intro h hscorable cand hcand hmissing
    exact readsAsZero_of_filter hval htokens h hscorable hcand
      (Option.not_isSome_iff_eq_none.mp (by simpa [containsBlock, Dict.contains] using hmissing))
  · intro h query topK scale best hbest
    cases hscores : candBids.mapM fun cand => (readKeyPage s layerIdx cand.1 0 0).1.bind fun k =>
        scoreCandidate val query scale qHeads (if kvHeads > 0 then qHeads / kvHeads else 1)
          (k, cand) with
    | error err =>
        rw [keyPageTopk, hscores] at hbest
        cases hbest
    | ok scores =>
        rw [computeTopkFilter_eq_ok, ← hbest, keyPageTopk]
        refine congrArg _ (mapM_congr fun cand hcand => ?_)
        obtain ⟨score, hscore⟩ := ok_of_mapM_eq_ok hscores cand hcand
        obtain ⟨page, hpage, hmax, hname⟩ := page_of_score.mp hscore
        rw [hscore]
        cases hget : s.storage.get? (layerIdx, cand.1) with
        | some e =>
            rw [candidateKeys_stored hget hpage]
            exact scoreCandidate_eq_ok.mpr ⟨hmax, hname⟩
        | none =>
            obtain rfl := readKeyPage_missing hget hpage
            have hscorable := scorable_of_scores (List.ne_nil_of_mem hcand) hscores
            obtain ⟨k, hk, hzero⟩ := h hscorable cand hcand (by
              simp [containsBlock, Dict.contains, hget])
            rw [candidateKeys_missing hget, hk]
            have hshape : k.shape = cfg.canonicalShape := (NDArray.of_decode_eq_ok hk).2.1
            obtain ⟨_, _, _, hcanonical, -, hheads, -⟩ := blockMaxScore_eq_ok.mp hmax
            cases hcanonical
            refine scoreCandidate_eq_ok.mpr ⟨blockMaxScore_congr rfl hshape ?_ hmax, hname⟩
            intro t hactual ht qh hqh d hd
            rw [elem3_zeroPage hval ht (hheads qh hqh) hd, hzero t hactual ht qh hqh d hd]

open NativeKernel (elementValue rationalOps)

/-- A candidate that is stored. -/
theorem filter_scores_key_pages_iff_stored :
    let s := (machine tinyConfig (elementValue rationalOps) none).exec init
      [.write 0 3 (oneFloat 1) (oneFloat 2) 0 0]
    ∀ query topK scale best,
      keyPageTopk (elementValue rationalOps) s 0 [(3, 1)] query topK scale 1 1 = .ok best →
      (computeTopkFilter (elementValue rationalOps) none s 0 [(3, 1)] query topK scale 1 1 1).1 =
        .ok best := by
  intro s
  refine (filter_scores_key_pages_iff (by decide +kernel) s 0 [(3, 1)] (by decide) 1 1 1).mpr ?_
  rintro - cand hcand hmissing
  obtain rfl := List.mem_singleton.mp hcand
  exact absurd hmissing (by decide)

/-- A block that was never written reads as zero, so its score is zero. Of an empty file the
filter makes no page. -/
theorem missing_candidate_raises :
    keyPageTopk (elementValue rationalOps) (init : RealInferenceStorageBackend tinyConfig) 0 [(7, 1)]
        [[1]] 1 1 1 1 = .ok [(0, 7, 1)] ∧
      (computeTopkFilter (elementValue rationalOps) none
        (init : RealInferenceStorageBackend tinyConfig) 0 [(7, 1)] [[1]] 1 1 1 1 1).1 =
          .error (.valueError "cannot reshape array of size 0 into shape (1,1,1)") := by
  decide +kernel

end AiSsd.Storage.RealInferenceStorageBackend
