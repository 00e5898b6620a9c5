import AiSsd.Prefetch.Speculation

/-!
# Demand reads and what was prefetched

Over a block store that returns its last write, a demand read of a stored block answers what
the store's own read would, or waits for a background fetch that comes to an end, unless an
entry it comes to carries a future that failed, or the read gives staged arrays another shape.
-/

namespace AiSsd.Prefetch.Async

open Lib Numpy Storage
open Adapters (Astype)
open Prefetch.RealInferencePrefetchAdapter (reshaped reshapedBlock)
open Async.RealInferencePrefetchAdapter

universe u v

section Reads

variable {σ : Type v} {α : Type u} {B : BlockBackend σ α} {V : B.ReturnsLastWrite}
  {cfg : AdapterConfig} {s : RealInferencePrefetchAdapter σ} {ρ : Type}
  {page : NDArray × NDArray → ρ}

theorem Speculates.linked (h : Speculates V cfg s) : Linked s := by
  intro key entry future hentry hfuture
  obtain ⟨fetch, hfetch, -, -⟩ := (h.buffer key entry hentry).fetch_of future hfuture
  exact (List.getElem?_eq_some_iff.mp hfetch).choose

/-! ## Single reads -/

def NotFailed (s : RealInferencePrefetchAdapter σ) (key : Nat × Nat) : Prop :=
  ∀ entry future, s.stagingBuffer.get? key = some entry → entry.future = some future →
    ¬ Failed s future

def WaitsFor (s : RealInferencePrefetchAdapter σ) (l : Nat) (bids : List Nat) (future : Nat) :
    Prop :=
  Running s future ∧ ∃ b ∈ bids, ∃ entry, s.stagingBuffer.get? (l, b) = some entry ∧
    entry.future = some future

theorem NotFailed.of_readOnly {s' : RealInferencePrefetchAdapter σ} {key : Nat × Nat}
    (h : NotFailed s key) (hread : ReadOnly s s') : NotFailed s' key := by
  intro entry' future hentry' hfuture hfailed
  obtain ⟨entry, hentry, hfuture'⟩ := hread.future_of key entry' future hentry' hfuture
  unfold Failed at hfailed
  rw [hread.futures_eq] at hfailed
  exact h entry future hentry hfuture' hfailed

theorem WaitsFor.of_readOnly {s' : RealInferencePrefetchAdapter σ} {l : Nat} {bids bids' : List Nat}
    {future : Nat} (h : WaitsFor s' l bids future) (hread : ReadOnly s s')
    (hsub : ∀ b ∈ bids, b ∈ bids') : WaitsFor s l bids' future := by
  obtain ⟨hrunning, b, hb, entry', hentry', hfuture⟩ := h
  obtain ⟨entry, hentry, hfuture'⟩ := hread.future_of _ entry' future hentry' hfuture
  unfold Running at hrunning
  rw [hread.futures_eq] at hrunning
  exact ⟨hrunning, b, hsub b hb, entry, hentry, hfuture'⟩

theorem readSingle_of_unstaged (h : Speculates V cfg s) {read : BlockRead σ ρ}
    (hread : V.Reads page read) {l b : Nat} (hnone : s.stagingBuffer.contains (l, b) = false)
    {kv : NDArray × NDArray} (hkv : V.content s.storageBackend (l, b) = some kv) (sizeBytes : Nat)
    (staged : List Nat → Option (NDArray × NDArray) → Except PyErr ρ)
    {fetch : BlockRead (RealInferencePrefetchAdapter σ) ρ}
    (hfetch : ∀ s l b h t, (fetch s l b h t).1 = (read s.storageBackend l b h t).1) (head t : Nat) :
    (readSingle cfg sizeBytes staged fetch s l b head t).1 = .returns (.ok (page kv)) := by
  have hget : s.stagingBuffer.get? (l, b) = none := by
    simpa [Dict.contains] using hnone
  rw [readSingle_unstaged hget, hfetch]
  exact congrArg _ (hread.returns s.storageBackend l b head t kv h.valid hkv)

theorem readSingle_stored (h : Speculates V cfg s) {read : BlockRead σ ρ}
    (hread : V.Reads page read) {l b : Nat} {kv : NDArray × NDArray}
    (hkv : V.content s.storageBackend (l, b) = some kv) (hclear : NotFailed s (l, b))
    (sizeBytes : Nat) {staged : List Nat → Option (NDArray × NDArray) → Except PyErr ρ}
    (hshape : s.stagingBuffer.contains (l, b) = true →
      staged cfg.defaultShape (some kv) = .ok (page kv))
    {fetch : BlockRead (RealInferencePrefetchAdapter σ) ρ}
    (hfetch : ∀ s l b h t, (fetch s l b h t).1 = (read s.storageBackend l b h t).1) (head t : Nat) :
    (readSingle cfg sizeBytes staged fetch s l b head t).1 = .returns (.ok (page kv)) ∨
      ∃ future, (readSingle cfg sizeBytes staged fetch s l b head t).1 = .waits future ∧
        WaitsFor s l [b] future := by
  cases hentry : s.stagingBuffer.get? (l, b) with
  | none =>
      left
      exact readSingle_of_unstaged h hread (by simp [Dict.contains, hentry]) hkv sizeBytes staged
        hfetch head t
  | some entry =>
      rcases @readSingle_staged _ _ _ V cfg s _ h l b entry hentry kv hkv sizeBytes staged fetch
        head t with ⟨future, hwait, hfuture, hrunning⟩ | ⟨future, _, _, hfuture, hfailed⟩ | hanswer
      · exact Or.inr ⟨future, hwait, hrunning, b, List.mem_singleton_self b, entry, hentry, hfuture⟩
      · exact absurd hfailed (hclear entry future hentry hfuture)
      · left
        rw [hanswer, hshape (by simp [Dict.contains, hentry])]

/-! ## Batch reads -/

/-- The hits of a batch of stored blocks, and which of them are left to fetch. -/
theorem collectHits_stored (h : Speculates V cfg s) (sizeBytes l : Nat)
    {staged : List Nat → Option (NDArray × NDArray) → Except PyErr ρ} (bids : List Nat)
    (hstored : ∀ b ∈ bids, (V.content s.storageBackend (l, b)).isSome)
    (hclear : ∀ b ∈ bids, NotFailed s (l, b))
    (hshape : ∀ b ∈ bids, s.stagingBuffer.contains (l, b) = true → ∀ kv,
      V.content s.storageBackend (l, b) = some kv → staged cfg.defaultShape (some kv) = .ok (page kv))
    (results : Dict Nat ρ) (missBids : List Nat) :
    (∃ future, (collectHits cfg sizeBytes staged l bids results missBids s).1 = .waits future ∧
        WaitsFor s l bids future) ∨
      ∃ hits, (collectHits cfg sizeBytes staged l bids results missBids s).1 =
          .returns (.ok (hits,
            missBids ++ bids.filter fun b => !s.stagingBuffer.contains (l, b))) ∧
        ∀ b, hits.get? b = if b ∈ bids ∧ s.stagingBuffer.contains (l, b) = true
          then (V.content s.storageBackend (l, b)).map page else results.get? b := by
  induction bids generalizing results missBids s with
  | nil => exact Or.inr ⟨results, by simp [collectHits], fun b => by simp⟩
  | cons bid bids ih =>
      obtain ⟨hfirst, hstored⟩ := List.forall_mem_cons.mp hstored
      obtain ⟨hclearFirst, hclear⟩ := List.forall_mem_cons.mp hclear
      obtain ⟨hshapeFirst, hshape⟩ := List.forall_mem_cons.mp hshape
      obtain ⟨kv, hkv⟩ := Option.isSome_iff_exists.mp hfirst
      unfold collectHits
      dsimp only
      cases hentry : s.stagingBuffer.get? (l, bid) with
      | none =>
          have hnone : s.stagingBuffer.contains (l, bid) = false := by simp [Dict.contains, hentry]
          have hcounted : Speculates V cfg (countMiss s) := h.staged _ h.buffer
          rcases @ih (countMiss s) hcounted hstored hclear hshape results (missBids ++ [bid]) with
            ⟨future, hwait, hwaits⟩ | ⟨hits, hret, hget⟩
          · exact Or.inl ⟨future, hwait, hwaits.of_readOnly ((ReadOnly.refl s).counted _)
              fun b hb => List.mem_cons_of_mem bid hb⟩
          · refine Or.inr ⟨hits, ?_, ?_⟩
            · dsimp only
              rw [hret, List.filter_cons, hnone]
              simp [countMiss]
            · intro b
              rw [hget b]
              by_cases hb : b = bid
              · subst hb
                simp [countMiss, hnone]
              · simp only [List.mem_cons, hb, false_or]
                rfl
      | some entry =>
          have hcontains : s.stagingBuffer.contains (l, bid) = true := by
            simp [Dict.contains, hentry]
          dsimp only
          rcases hit_stored h hentry hkv sizeBytes with ⟨future, s', hhit, hfuture, hrunning⟩ |
            ⟨future, err, s', -, hfuture, hfailed⟩ | ⟨s', hhit, hreadOnly, hbackend, hok⟩
          · rw [hhit]
            exact Or.inl ⟨future, rfl, hrunning, bid, List.mem_cons_self, entry, hentry, hfuture⟩
          · exact absurd hfailed (hclearFirst entry future hentry hfuture)
          · have hpage := hshapeFirst hcontains kv hkv
            have hshape' := hok.shape_eq (l, bid)
            rw [hhit]
            dsimp only
            rw [hshape', hpage]
            dsimp only
            rw [← hbackend] at hstored hshape
            have hrest := @ih s' hok hstored (fun b hb => (hclear b hb).of_readOnly hreadOnly)
              (fun b hb hc => hshape b hb (by rw [← hreadOnly.contains_eq]; exact hc))
              (results.set bid (page kv)) missBids
            simp only [hreadOnly.contains_eq, hbackend] at hrest
            rcases hrest with ⟨future, hwait, hwaits⟩ | ⟨hits, hret, hget⟩
            · exact Or.inl ⟨future, hwait, hwaits.of_readOnly hreadOnly
                fun b hb => List.mem_cons_of_mem bid hb⟩
            · refine Or.inr ⟨hits, ?_, ?_⟩
              · rw [hret, List.filter_cons, hcontains]
                rfl
              · intro b
                rw [hget b, Dict.get?_set]
                by_cases hb : bid = b
                · subst hb
                  simp [hcontains, hkv]
                · simp [hb, Ne.symm hb]

theorem readMissesEach_stored {single : AdapterRead σ ρ} (l head t : Nat)
    (hsingle : ∀ s b kv, Speculates V cfg s → s.stagingBuffer.contains (l, b) = false →
      V.content s.storageBackend (l, b) = some kv →
      (single s l b head t).1 = .returns (.ok (page kv)))
    (hkeeps : ∀ s b, KeepsSpeculating V cfg s (single s l b head t).2)
    (hreadOnly : ∀ s b, ReadOnly s (single s l b head t).2) (bids : List Nat)
    (h : Speculates V cfg s) (hstored : ∀ b ∈ bids, (V.content s.storageBackend (l, b)).isSome)
    (hmissed : ∀ b ∈ bids, s.stagingBuffer.contains (l, b) = false) (results : Dict Nat ρ) :
    ∃ pages, (readMissesEach single l head t bids results s).1 = .returns (.ok pages) ∧
      ∀ b, pages.get? b = if b ∈ bids then (V.content s.storageBackend (l, b)).map page
        else results.get? b := by
  induction bids generalizing results s with
  | nil => exact ⟨results, rfl, fun b => by simp⟩
  | cons bid bids ih =>
      obtain ⟨hfirst, hstored⟩ := List.forall_mem_cons.mp hstored
      obtain ⟨hmissedFirst, hmissed⟩ := List.forall_mem_cons.mp hmissed
      obtain ⟨kv, hkv⟩ := Option.isSome_iff_exists.mp hfirst
      have hret := hsingle s bid kv h hmissedFirst hkv
      have hone := hkeeps s bid h
      have honly := hreadOnly s bid
      unfold readMissesEach
      revert hret hone honly
      rcases single s l bid head t with ⟨(_ | ret) | _, s'⟩
      · rintro ⟨⟩
      · rintro ⟨⟩ ⟨hs', hcontent⟩ honly
        dsimp only at hs' hcontent honly ⊢
        obtain ⟨pages, hloop, hget⟩ := ih hs' (by rw [hcontent]; exact hstored)
          (fun b hb => by rw [honly.contains_eq]; exact hmissed b hb) (results.set bid (page kv))
        refine ⟨pages, hloop, fun b => ?_⟩
        have hpage : (V.content s.storageBackend (l, bid)).map page = some (page kv) := by
          rw [hkv, Option.map_some]
        rw [hget b, hcontent,
          Dict.get?_set_listed (f := fun b => (V.content s.storageBackend (l, b)).map page) hpage]
      · rintro ⟨⟩

/-- The misses of a batch, by whatever read. -/
theorem fetchMisses_stored {batch : Option (BatchRead σ ρ)}
    (hbatch : ∀ read ∈ batch, V.ReadsBatch page read) {single : AdapterRead σ ρ} (l head t : Nat)
    (hsingle : ∀ s b kv, Speculates V cfg s → s.stagingBuffer.contains (l, b) = false →
      V.content s.storageBackend (l, b) = some kv →
      (single s l b head t).1 = .returns (.ok (page kv)))
    (hkeeps : ∀ s b, KeepsSpeculating V cfg s (single s l b head t).2)
    (hreadOnly : ∀ s b, ReadOnly s (single s l b head t).2) (bids : List Nat)
    (h : Speculates V cfg s) (hstored : ∀ b ∈ bids, (V.content s.storageBackend (l, b)).isSome)
    (hmissed : ∀ b ∈ bids, s.stagingBuffer.contains (l, b) = false) (results : Dict Nat ρ) :
    ∃ pages, (fetchMisses batch single s l bids head t results).1 = .returns (.ok pages) ∧
      ∀ b, pages.get? b = if b ∈ bids then (V.content s.storageBackend (l, b)).map page
        else results.get? b := by
  unfold fetchMisses
  by_cases hnil : bids = []
  · rw [if_pos hnil, hnil]
    exact ⟨results, rfl, fun b => by simp⟩
  · rw [if_neg hnil]
    cases batch with
    | none => exact readMissesEach_stored l head t hsingle hkeeps hreadOnly bids h hstored hmissed results
    | some read =>
        obtain ⟨pages, hpages⟩ :=
          (hbatch read rfl).succeeds s.storageBackend l bids head t h.valid hstored
        refine ⟨results.update pages, ?_, fun b => ?_⟩
        · dsimp only
          rw [hpages]
          rfl
        · rw [Dict.get?_update]
          by_cases hb : b ∈ bids
          · obtain ⟨kv, hkv⟩ := Option.isSome_iff_exists.mp (hstored b hb)
            rw [(hbatch read rfl).returns s.storageBackend l bids head t pages h.valid hpages b hb kv
              hkv]
            simp [hb, hkv]
          · rw [(hbatch read rfl).only s.storageBackend l bids head t pages h.valid hpages b hb]
            simp [hb]

theorem readBatch_stored (h : Speculates V cfg s) (sizeBytes : Nat)
    {staged : List Nat → Option (NDArray × NDArray) → Except PyErr ρ}
    {batch : Option (BatchRead σ ρ)} (hbatch : ∀ read ∈ batch, V.ReadsBatch page read)
    {single : AdapterRead σ ρ}
    (hsingle : ∀ s l b h t kv, Speculates V cfg s → s.stagingBuffer.contains (l, b) = false →
      V.content s.storageBackend (l, b) = some kv → (single s l b h t).1 = .returns (.ok (page kv)))
    (hkeeps : ∀ s l b h t, KeepsSpeculating V cfg s (single s l b h t).2)
    (hreadOnly : ∀ s l b h t, ReadOnly s (single s l b h t).2) (l : Nat) (bids : List Nat)
    (hstored : ∀ b ∈ bids, (V.content s.storageBackend (l, b)).isSome)
    (hclear : ∀ b ∈ bids, NotFailed s (l, b))
    (hshape : ∀ b ∈ bids, s.stagingBuffer.contains (l, b) = true → ∀ kv,
      V.content s.storageBackend (l, b) = some kv → staged cfg.defaultShape (some kv) = .ok (page kv))
    (head t : Nat) :
    (∃ future, (readBatch cfg sizeBytes staged batch single s l bids head t).1 = .waits future ∧
        WaitsFor s l bids future) ∨
      ∃ pages, (readBatch cfg sizeBytes staged batch single s l bids head t).1 =
          .returns (.ok pages) ∧
        ∀ b, pages.get? b = if b ∈ bids then (V.content s.storageBackend (l, b)).map page
          else none := by
  unfold readBatch
  by_cases hnil : bids = []
  · rw [if_pos hnil, hnil]
    exact Or.inr ⟨Dict.empty, rfl, fun b => by simp⟩
  rw [if_neg hnil]
  have hhits := collectHits_stored h sizeBytes l bids hstored hclear hshape Dict.empty []
  have hreads := @readRelation_readOnly.collectHits σ cfg ρ _ sizeBytes staged l bids Dict.empty [] s
  have hspeculates :=
    @readRelation_keepsSpeculating.collectHits σ cfg ρ _ sizeBytes staged l bids Dict.empty [] s h
  revert hhits hreads hspeculates
  rcases collectHits cfg sizeBytes staged l bids Dict.empty [] s with
    ⟨(_ | ⟨hits, missBids⟩) | other, s₁⟩
  · rintro (⟨_, ⟨⟩, -⟩ | ⟨_, ⟨⟩, -⟩)
  · rintro (⟨_, ⟨⟩, -⟩ | ⟨hits', hret, hhits⟩) hreads ⟨hs₁, hcontent⟩
    cases hret
    right
    have hmissed : ∀ b ∈ bids.filter fun b => !s.stagingBuffer.contains (l, b),
        s₁.stagingBuffer.contains (l, b) = false := by
      intro b hb
      rw [hreads.contains_eq]
      simpa using (List.mem_filter.mp hb).2
    have hstored₁ : ∀ b ∈ bids.filter fun b => !s.stagingBuffer.contains (l, b),
        (V.content s₁.storageBackend (l, b)).isSome := by
      intro b hb
      rw [hcontent]
      exact hstored b (List.mem_filter.mp hb).1
    obtain ⟨pages, hpages, hget⟩ := fetchMisses_stored hbatch l head t
      (fun s b kv => hsingle s l b head t kv) (fun s b => hkeeps s l b head t)
      (fun s b => hreadOnly s l b head t) _ hs₁ hstored₁ hmissed hits
    refine ⟨pages, ?_, fun b => ?_⟩
    · dsimp only [List.nil_append]
      revert hpages
      rcases fetchMisses batch single s₁ l (bids.filter fun b => !s.stagingBuffer.contains (l, b))
        head t hits with ⟨(_ | _) | _, s₂⟩
      · rintro ⟨⟩
      · rintro ⟨⟩
        rfl
      · rintro ⟨⟩
    · -- a block of the batch was either staged or missed
      rw [hget b, hhits b, hcontent]
      by_cases hb : b ∈ bids
      · cases hc : s.stagingBuffer.contains (l, b) <;> simp [hb, hc]
      · simp [hb]
  · rintro (⟨future, ⟨⟩, hwaits⟩ | ⟨_, ⟨⟩, -⟩) - -
    exact Or.inl ⟨other, rfl, hwaits⟩

/-! ## The store's own reads -/

def ownBatch {σ : Type v} (batch : Option (BatchRead σ ρ)) (read : BlockRead σ ρ) : BatchRead σ ρ :=
  fun s l bids h t =>
    match batch with
    | some read => read s l bids h t
    | none => readEach (fun s b => read s l b h t) bids Dict.empty s

theorem ownBatch_stored {b : σ} (hb : V.Valid b) {batch : Option (BatchRead σ ρ)}
    (hbatch : ∀ read ∈ batch, V.ReadsBatch page read) {read : BlockRead σ ρ}
    (hread : V.Reads page read) (l : Nat) (bids : List Nat)
    (hstored : ∀ bid ∈ bids, (V.content b (l, bid)).isSome) (head t : Nat) :
    ∃ pages, (ownBatch batch read b l bids head t).1 = .ok pages ∧
      ∀ bid, pages.get? bid = if bid ∈ bids then (V.content b (l, bid)).map page else none := by
  unfold ownBatch
  cases batch with
  | none =>
      obtain ⟨pages, b', hloop, -, hget⟩ := hread.readEach bids Dict.empty
        (StoreView.Keeps.refl hb) hstored (h := head) (t := t)
      exact ⟨pages, by rw [hloop], hget⟩
  | some batchRead =>
      obtain ⟨pages, hpages⟩ := (hbatch batchRead rfl).succeeds b l bids head t hb hstored
      refine ⟨pages, hpages, fun bid => ?_⟩
      by_cases hbid : bid ∈ bids
      · obtain ⟨kv, hkv⟩ := Option.isSome_iff_exists.mp (hstored bid hbid)
        rw [(hbatch batchRead rfl).returns b l bids head t pages hb hpages bid hbid kv hkv]
        simp [hbid, hkv]
      · rw [(hbatch batchRead rfl).only b l bids head t pages hb hpages bid hbid]
        simp [hbid]

end Reads

/-! ## Demand reads -/

/-- Dicts are the same when they hold the same, in whatever order. -/
def Answer.Same : Answer → Answer → Prop
  | .pages p, .pages p' => ∀ bid, p.get? bid = p'.get? bid
  | .blocks p, .blocks p' => ∀ bid, p.get? bid = p'.get? bid
  | a, a' => a = a'

def Call.demanded : Call → Option (Nat × List Nat)
  | .readKeyPage l bid _ _ => some (l, [bid])
  | .readValuePage l bid _ _ => some (l, [bid])
  | .readBlock l bid _ _ => some (l, [bid])
  | .readKeyPageBatch l bids _ _ => some (l, bids)
  | .readValuePageBatch l bids _ _ => some (l, bids)
  | .readBlockBatch l bids _ _ => some (l, bids)
  | _ => none

/-- The arrays a demand read takes from a staged block have the shape it gives them. -/
def Call.KeepsShape (cfg : AdapterConfig) (kv : NDArray × NDArray) : Call → Prop
  | .readBlock .. => InShape cfg kv
  | .readBlockBatch .. => InShape cfg kv
  | .readKeyPageBatch .. => kv.1.shape = cfg.defaultShape
  | .readValuePageBatch .. => kv.2.shape = cfg.defaultShape
  | _ => True

section Calls

variable {σ : Type v} {α : Type u} {B : BlockBackend σ α} (V : B.ReturnsLastWrite) (A : Astype)
  (cfg : AdapterConfig)

variable (B) in
def ownRead (b : σ) : Call → Option (Except PyErr Answer)
  | .readKeyPage l bid h t => some ((B.readKeyPage b l bid h t).1.map .page)
  | .readValuePage l bid h t => some ((B.readValuePage b l bid h t).1.map .page)
  | .readBlock l bid h t => some ((B.readBlock b l bid h t).1.map .block)
  | .readKeyPageBatch l bids h t =>
      some ((ownBatch B.readKeyPageBatch B.readKeyPage b l bids h t).1.map .pages)
  | .readValuePageBatch l bids h t =>
      some ((ownBatch B.readValuePageBatch B.readValuePage b l bids h t).1.map .pages)
  | .readBlockBatch l bids h t =>
      some ((ownBatch B.readBlockBatch B.readBlock b l bids h t).1.map .blocks)
  | _ => none

/-- The entries a demand read comes to carry no future that failed, nor, where fetches read
block by block, one whose fetch could come to wait for itself; and their arrays have the
shape the read gives them. -/
def Unhindered (s : RealInferencePrefetchAdapter σ) (c : Call) : Prop :=
  ∀ l bids, c.demanded = some (l, bids) → ∀ bid ∈ bids, ∀ entry,
    s.stagingBuffer.get? (l, bid) = some entry →
      (∀ future, entry.future = some future →
        ¬ Failed s future ∧ (B.readBlockBatch = none → Ends s future)) ∧
      ∀ kv, V.content s.storageBackend (l, bid) = some kv → c.KeepsShape cfg kv

/-- A demand read of stored blocks answers what the store's own read would, or waits for a
running fetch that background steps end. -/
def AnswersAsStore (p : Pipeline σ) (c : Call) : Prop :=
  ∀ l bids, c.demanded = some (l, bids) →
    (∀ bid ∈ bids, (V.content p.adapter.storageBackend (l, bid)).isSome) →
      (∃ a own, (Pipeline.call (.ofBlockBackend B) A cfg p.adapter c).1 = some (.returns (.ok a)) ∧
        ownRead B p.adapter.storageBackend c = some (.ok own) ∧ a.Same own) ∨
      ∃ future, (Pipeline.call (.ofBlockBackend B) A cfg p.adapter c).1 = some (.waits future) ∧
        Running p.adapter future ∧ Pipeline.Finishes (.ofBlockBackend B) A cfg p future

variable {V A cfg} {p : Pipeline σ}

theorem finishes_of_waitsFor (h : Speculates V cfg p.adapter) {l : Nat} {bids : List Nat} {future : Nat}
    (hwaits : WaitsFor p.adapter l bids future)
    (hends : ∀ bid ∈ bids, ∀ entry, p.adapter.stagingBuffer.get? (l, bid) = some entry →
      entry.future = some future → B.readBlockBatch = none → Ends p.adapter future) :
    Pipeline.Finishes (.ofBlockBackend B) A cfg p future := by
  obtain ⟨-, bid, hbid, entry, hentry, hfuture⟩ := hwaits
  by_cases hbatch : B.readBlockBatch = none
  · exact Pipeline.finishes_of_ends (hends bid hbid entry hentry hfuture hbatch)
      (Advanced.refl _) h.linked
  · exact Pipeline.finishes_of_batch hbatch h.linked future

theorem Unhindered.notFailed {s : RealInferencePrefetchAdapter σ} {c : Call}
    (h : Unhindered V cfg s c) {l bid : Nat} {bids : List Nat} (hc : c.demanded = some (l, bids))
    (hbid : bid ∈ bids) : NotFailed s (l, bid) :=
  fun entry future hentry hfuture => ((h l bids hc bid hbid entry hentry).1 future hfuture).1

theorem Unhindered.keepsShape {s : RealInferencePrefetchAdapter σ} {c : Call}
    (h : Unhindered V cfg s c) {l bid : Nat} {bids : List Nat} (hc : c.demanded = some (l, bids))
    (hbid : bid ∈ bids) (hstaged : s.stagingBuffer.contains (l, bid) = true)
    {kv : NDArray × NDArray} (hkv : V.content s.storageBackend (l, bid) = some kv) :
    c.KeepsShape cfg kv := by
  obtain ⟨entry, hentry⟩ := Option.isSome_iff_exists.mp hstaged
  exact (h l bids hc bid hbid entry hentry).2 kv hkv

theorem answersAsStore_of {ρ : Type} (h : Speculates V cfg p.adapter) {c : Call} {l : Nat}
    {bids : List Nat} (hc : c.demanded = some (l, bids)) (hclear : Unhindered V cfg p.adapter c)
    {r : Outcome ρ} {own : Except PyErr ρ} (wrap : ρ → Answer)
    (hcall : (Pipeline.call (.ofBlockBackend B) A cfg p.adapter c).1 = some (r.map wrap))
    (hown : ownRead B p.adapter.storageBackend c = some (own.map wrap))
    (hr : (∀ bid ∈ bids, (V.content p.adapter.storageBackend (l, bid)).isSome) →
      (∃ a a', r = .returns (.ok a) ∧ own = .ok a' ∧ (wrap a).Same (wrap a')) ∨
        ∃ future, r = .waits future ∧ WaitsFor p.adapter l bids future) :
    AnswersAsStore V A cfg p c := by
  intro l' bids' hc' hstored
  cases hc.symm.trans hc'
  rw [hcall, hown]
  rcases hr hstored with ⟨a, a', rfl, rfl, hsame⟩ | ⟨future, rfl, hwaits⟩
  · exact Or.inl ⟨wrap a, wrap a', rfl, rfl, hsame⟩
  · refine Or.inr ⟨future, rfl, hwaits.1, finishes_of_waitsFor h hwaits ?_⟩
    intro bid hbid entry hentry hfuture
    exact ((hclear l bids hc bid hbid entry hentry).1 future hfuture).2

/-- A single read, of whatever kind. -/
theorem single_answers {ρ : Type} {page : NDArray × NDArray → ρ} (h : Speculates V cfg p.adapter)
    {c : Call} {l bid : Nat} (hc : c.demanded = some (l, [bid]))
    (hclear : Unhindered V cfg p.adapter c) {read : BlockRead σ ρ} (hread : V.Reads page read)
    (sizeBytes : Nat) {staged : List Nat → Option (NDArray × NDArray) → Except PyErr ρ}
    (hshape : ∀ kv, c.KeepsShape cfg kv → staged cfg.defaultShape (some kv) = .ok (page kv))
    {fetch : BlockRead (RealInferencePrefetchAdapter σ) ρ}
    (hfetch : ∀ s l b h t, (fetch s l b h t).1 = (read s.storageBackend l b h t).1) (head t : Nat)
    {wrap : ρ → Answer} (hsame : ∀ a, (wrap a).Same (wrap a))
    (hstored : ∀ b ∈ [bid], (V.content p.adapter.storageBackend (l, b)).isSome) :
    (∃ a a', (readSingle cfg sizeBytes staged fetch p.adapter l bid head t).1 = .returns (.ok a) ∧
        (read p.adapter.storageBackend l bid head t).1 = .ok a' ∧ (wrap a).Same (wrap a')) ∨
      ∃ future, (readSingle cfg sizeBytes staged fetch p.adapter l bid head t).1 = .waits future ∧
        WaitsFor p.adapter l [bid] future := by
  have hbid := List.mem_singleton_self bid
  obtain ⟨kv, hkv⟩ := Option.isSome_iff_exists.mp (hstored bid hbid)
  rcases readSingle_stored h hread hkv (hclear.notFailed hc hbid) sizeBytes
    (fun hstaged => hshape kv (hclear.keepsShape hc hbid hstaged hkv)) hfetch head t with
    hret | hwait
  · exact Or.inl ⟨page kv, page kv, hret,
      hread.returns p.adapter.storageBackend l bid head t kv h.valid hkv, hsame _⟩
  · exact Or.inr hwait

/-- A batch read, of whatever kind. -/
theorem batch_answers {ρ : Type} {page : NDArray × NDArray → ρ} (h : Speculates V cfg p.adapter)
    {c : Call} {l : Nat} {bids : List Nat} (hc : c.demanded = some (l, bids))
    (hclear : Unhindered V cfg p.adapter c) {read : BlockRead σ ρ} (hread : V.Reads page read)
    {batch : Option (BatchRead σ ρ)} (hbatch : ∀ read ∈ batch, V.ReadsBatch page read)
    (sizeBytes singleBytes : Nat)
    {staged stagedSingle : List Nat → Option (NDArray × NDArray) → Except PyErr ρ}
    (hshape : ∀ kv, c.KeepsShape cfg kv → staged cfg.defaultShape (some kv) = .ok (page kv))
    {fetch : BlockRead (RealInferencePrefetchAdapter σ) ρ}
    (hfetch : ∀ s l b h t, fetch s l b h t = ((read s.storageBackend l b h t).1,
      { s with storageBackend := (read s.storageBackend l b h t).2 })) (head t : Nat)
    {wrap : Dict Nat ρ → Answer}
    (hsame : ∀ d d' : Dict Nat ρ, (∀ b, d.get? b = d'.get? b) → (wrap d).Same (wrap d'))
    (hstored : ∀ b ∈ bids, (V.content p.adapter.storageBackend (l, b)).isSome) :
    (∃ a a', (readBatch cfg sizeBytes staged batch (readSingle cfg singleBytes stagedSingle fetch)
          p.adapter l bids head t).1 = .returns (.ok a) ∧
        (ownBatch batch read p.adapter.storageBackend l bids head t).1 = .ok a' ∧
        (wrap a).Same (wrap a')) ∨
      ∃ future, (readBatch cfg sizeBytes staged batch
          (readSingle cfg singleBytes stagedSingle fetch) p.adapter l bids head t).1 =
            .waits future ∧ WaitsFor p.adapter l bids future := by
  have hfirst : ∀ s l b h t, (fetch s l b h t).1 = (read s.storageBackend l b h t).1 := by
    intro s l b h t
    rw [hfetch]
  have hkeeps : ∀ s l b h t, KeepsSpeculating V cfg s (fetch s l b h t).2 := by
    intro s l b h t
    rw [hfetch]
    exact keepsSpeculating_fetched _ s (hread.keeps _ l b h t)
  have hreadOnly : ∀ s l b h t, ReadOnly s (fetch s l b h t).2 := by
    intro s l b h t
    rw [hfetch]
    exact (ReadOnly.refl s).fetched _
  obtain ⟨own, hown, hownGet⟩ := ownBatch_stored h.valid hbatch hread l bids hstored head t
  rcases readBatch_stored h sizeBytes hbatch
    (fun s l b head t kv hs hnone hkv =>
      readSingle_of_unstaged hs hread hnone hkv singleBytes stagedSingle hfirst head t)
    (fun s l b head t =>
      readRelation_keepsSpeculating.readSingle singleBytes stagedSingle hkeeps s l b head t)
    (fun s l b head t => readRelation_readOnly.readSingle singleBytes stagedSingle hreadOnly s l b head t)
    l bids hstored (fun b hb => hclear.notFailed hc hb)
    (fun b hb hstaged kv hkv => hshape kv (hclear.keepsShape hc hb hstaged hkv)) head t with
    hwait | ⟨pages, hret, hget⟩
  · exact Or.inr hwait
  · exact Or.inl ⟨pages, own, hret, hown, hsame pages own fun b => by rw [hget, hownGet]⟩

theorem call_answers (h : Speculates V cfg p.adapter) {c : Call}
    (hclear : Unhindered V cfg p.adapter c) : AnswersAsStore V A cfg p c := by
  cases c with
  | readKeyPage l bid head t =>
      exact answersAsStore_of h rfl hclear .page rfl rfl
        (single_answers h rfl hclear V.key _ (fun _ _ => rfl) (fun _ _ _ _ _ => rfl) head t
          fun _ => rfl)
  | readValuePage l bid head t =>
      exact answersAsStore_of h rfl hclear .page rfl rfl
        (single_answers h rfl hclear V.value _ (fun _ _ => rfl) (fun _ _ _ _ _ => rfl) head t
          fun _ => rfl)
  | readBlock l bid head t =>
      exact answersAsStore_of h rfl hclear .block rfl rfl
        (single_answers h rfl hclear V.block _
          (fun _ hin => Prefetch.RealInferencePrefetchAdapter.reshapedBlock_of_eq hin.1 hin.2)
          (fun _ _ _ _ _ => rfl) head t fun _ => rfl)
  | readKeyPageBatch l bids head t =>
      exact answersAsStore_of h rfl hclear .pages rfl rfl
        (batch_answers h rfl hclear V.key V.keyBatch _ _
          (fun _ hin => Prefetch.RealInferencePrefetchAdapter.reshaped_of_eq hin)
          (fun _ _ _ _ _ => rfl) head t fun _ _ hget => hget)
  | readValuePageBatch l bids head t =>
      exact answersAsStore_of h rfl hclear .pages rfl rfl
        (batch_answers h rfl hclear V.value V.valueBatch _ _
          (fun _ hin => Prefetch.RealInferencePrefetchAdapter.reshaped_of_eq hin)
          (fun _ _ _ _ _ => rfl) head t fun _ _ hget => hget)
  | readBlockBatch l bids head t =>
      exact answersAsStore_of h rfl hclear .blocks rfl rfl
        (batch_answers h rfl hclear V.block V.blockBatch _ _
          (fun _ hin => Prefetch.RealInferencePrefetchAdapter.reshapedBlock_of_eq hin.1 hin.2)
          (fun _ _ _ _ _ => rfl) head t fun _ _ hget => hget)
  | writeBlock l b k v head t => exact fun _ _ hnone => by cases hnone
  | prefetch bids l head t isAsync => exact fun _ _ hnone => by cases hnone
  | predictAndPrefetch l bids stride isAsync => exact fun _ _ hnone => by cases hnone
  | evictBlock l b => exact fun _ _ hnone => by cases hnone
  | resetStats => exact fun _ _ hnone => by cases hnone

end Calls

/-! ## Runs -/

namespace Pipeline

variable {σ : Type v} {α : Type u} {B : BlockBackend σ α} (V : B.ReturnsLastWrite) (A : Astype)
  (cfg : AdapterConfig)

/-- Every copy of a stored block is the stored block, and the entries a prefetch has still
to register are of blocks of its fetch. -/
structure InOrder (p : Pipeline σ) : Prop where
  speculates : Speculates V cfg p.adapter
  registers : ∀ r, p.registration = some r → ∃ fetch, p.adapter.futures[r.future]? = some fetch ∧
    fetch.layerId = r.layerId ∧ ∀ bid ∈ r.remaining, bid ∈ fetch.blockIds

def WritesFirst (p : Pipeline σ) : Event → Prop
  | .call (.writeBlock l b _ _ _ _) => Unprefetched p.adapter l b
  | _ => True

/-- Demand reads are unhindered, and a fetch that reads block by block takes staged blocks
over in their shape. -/
def Clear (p : Pipeline σ) : Event → Prop
  | .call c => Unhindered V cfg p.adapter c
  | .fetchNext future => TakesInShape V cfg p.adapter future
  | _ => True

/-- A demand read that the main thread can make is transparent. -/
def Transparent (p : Pipeline σ) : Event → Prop
  | .call c => p.registration = none → AnswersAsStore V A cfg p c
  | _ => True

variable {V A cfg} {p : Pipeline σ}

theorem InOrder.ofAdapter {s : RealInferencePrefetchAdapter σ} (h : Speculates V cfg s) :
    InOrder V cfg ⟨s, none⟩ :=
  ⟨h, fun _ hnone => by cases hnone⟩

theorem InOrder.background (h : InOrder V cfg p) {s : RealInferencePrefetchAdapter σ}
    (hs : Speculates V cfg s) (hsame : SameBlocks p.adapter.futures s.futures) :
    InOrder V cfg { p with adapter := s } where
  speculates := hs
  registers := by
    intro r hr
    obtain ⟨fetch, hfetch, hlayer, hsub⟩ := h.registers r hr
    obtain ⟨fetch', hfetch', hlayer', hblocks'⟩ := hsame r.future fetch hfetch
    exact ⟨fetch', hfetch', hlayer'.trans hlayer, hblocks' ▸ hsub⟩

theorem inOrder_prefetch {s : RealInferencePrefetchAdapter σ} (h : Speculates V cfg s)
    (bids : List Nat) (l head t : Nat) (isAsync : Bool) (predictedLayer : Option Nat) :
    InOrder V cfg (prefetch (.ofBlockBackend B) cfg s bids l head t isAsync predictedLayer).2 := by
  unfold prefetch
  dsimp only
  split
  · exact .ofAdapter h
  · have hroom := speculates_ensureCapacityFor h (missing s l bids)
    revert hroom
    rcases ensureCapacityFor cfg (missing s l bids) s with ⟨_ | _, s'⟩
    · exact fun hroom => .ofAdapter hroom
    · intro hroom
      dsimp only
      split
      · refine ⟨speculates_submit hroom l _ head t, ?_⟩
        rintro r ⟨⟩
        refine ⟨_, List.getElem?_concat_length, rfl, fun _ => id⟩
      · exact .ofAdapter (speculates_prefetchSync hroom l _ head t)

theorem inOrder_call {s : RealInferencePrefetchAdapter σ} (h : Speculates V cfg s) (c : Call)
    (hwrite : ∀ l b k v head t, c = .writeBlock l b k v head t → Unprefetched s l b) :
    InOrder V cfg (call (.ofBlockBackend B) A cfg s c).2 := by
  cases c with
  | writeBlock l b k v head t =>
      exact .ofAdapter (speculates_writeBlock h (hwrite l b k v head t rfl) k v head t)
  | prefetch bids l head t isAsync => exact inOrder_prefetch h bids l head t isAsync none
  | predictAndPrefetch l bids stride isAsync =>
      have hpredictor : ∀ q, Speculates V cfg { s with predictor := q } :=
        fun q => ⟨h.valid, h.shape_eq, h.buffer, h.fetches⟩
      unfold call predictAndPrefetch
      dsimp only
      rcases s.predictor.predictNextLayerBlocks l bids stride with ⟨_ | ⟨layer, predicted⟩, q⟩
      · exact .ofAdapter (hpredictor q)
      · exact inOrder_prefetch (hpredictor q) predicted layer 0 0 isAsync (some layer)
  | readKeyPage l b head t => exact .ofAdapter (keepsSpeculating_readKeyPage s l b head t h).1
  | readValuePage l b head t => exact .ofAdapter (keepsSpeculating_readValuePage s l b head t h).1
  | readBlock l b head t => exact .ofAdapter (keepsSpeculating_readBlock s l b head t h).1
  | readKeyPageBatch l bids head t =>
      exact .ofAdapter (keepsSpeculating_readBatch _ _ V.keyBatch keepsSpeculating_readKeyPage s l
        bids head t h).1
  | readValuePageBatch l bids head t =>
      exact .ofAdapter (keepsSpeculating_readBatch _ _ V.valueBatch keepsSpeculating_readValuePage s
        l bids head t h).1
  | readBlockBatch l bids head t =>
      exact .ofAdapter (keepsSpeculating_readBatch _ _ V.blockBatch keepsSpeculating_readBlock s l
        bids head t h).1
  | evictBlock l b => exact .ofAdapter (speculates_evictBlock h l b)
  | resetStats => exact .ofAdapter (speculates_resetStats h)

theorem inOrder_registerNext (h : InOrder V cfg p) : InOrder V cfg (registerNext cfg p).2 := by
  unfold registerNext
  cases hr : p.registration with
  | none => exact h
  | some r =>
      obtain ⟨fetch, hfetch, hlayer, hsub⟩ := h.registers r hr
      dsimp only
      cases hremaining : r.remaining with
      | nil => exact .ofAdapter h.speculates
      | cons bid rest =>
          have hbid := hsub bid (hremaining ▸ List.mem_cons_self)
          have hstaged : Speculates V cfg (stage cfg p.adapter r.layerId bid r.headId none
              (some r.future)) := by
            refine speculates_stage h.speculates _ bid _ ?_ ?_ ?_
            · rintro _ _ ⟨⟩
            · rintro ⟨⟩
            · rintro _ ⟨⟩
              exact ⟨fetch, hfetch, hlayer, hbid⟩
          dsimp only
          split
          · exact .ofAdapter (hstaged.staged _ hstaged.buffer)
          · refine ⟨hstaged, ?_⟩
            rintro _ ⟨⟩
            exact ⟨fetch, hfetch, hlayer,
              fun b hb => hsub b (hremaining ▸ List.mem_cons_of_mem bid hb)⟩

theorem sameBlocks_fetchNext {σ : Type v} {B : Backend σ} {cfg : AdapterConfig}
    (s : RealInferencePrefetchAdapter σ) (future : Nat) :
    SameBlocks s.futures (fetchNext B cfg s future).futures := by
  have hread : ∀ l bid head t, (readBlock B cfg s l bid head t).2.futures = s.futures :=
    fun l bid head t => (readOnly_readBlock s l bid head t).futures_eq
  have hset : ∀ {s' : RealInferencePrefetchAdapter σ} {fetch fetch' : BackgroundFetch},
      s.futures[future]? = some fetch → s'.futures = s.futures →
      fetch'.layerId = fetch.layerId → fetch'.blockIds = fetch.blockIds →
      SameBlocks s.futures (setFetch s' future fetch').futures := by
    intro s' fetch fetch' hfetch hsame hlayer hblocks
    show SameBlocks s.futures (s'.futures.set future fetch')
    rw [hsame]
    exact .set hfetch hlayer hblocks
  have hstep := @fetchStep_fetchNext σ B cfg s future
  generalize fetchNext B cfg s future = s' at hstep ⊢
  cases hstep with
  | idle => exact fun _ fetch hfetch => ⟨fetch, hfetch, rfl, rfl⟩
  | batchRaised hfetch => exact hset hfetch rfl rfl rfl
  | batchRead hfetch => exact hset hfetch rfl rfl rfl
  | waits hfetch => exact hset hfetch (hread _ _ _ _) rfl rfl
  | raised hfetch => exact hset hfetch (hread _ _ _ _) rfl rfl
  | took hfetch => exact hset hfetch (hread _ _ _ _) rfl rfl

theorem sameBlocks_complete {σ : Type v} (s : RealInferencePrefetchAdapter σ) (future : Nat) :
    SameBlocks s.futures (complete s future).futures := by
  unfold complete
  split
  · exact fun _ fetch hfetch => ⟨fetch, hfetch, rfl, rfl⟩
  · rename_i fetch hfetch
    split
    · exact .set hfetch rfl rfl
    · exact fun _ fetch hfetch => ⟨fetch, hfetch, rfl, rfl⟩

theorem sameBlocks_fail {σ : Type v} (s : RealInferencePrefetchAdapter σ) (future : Nat)
    (err : PyErr) : SameBlocks s.futures (fail s future err).futures := by
  unfold fail
  split
  · exact fun _ fetch hfetch => ⟨fetch, hfetch, rfl, rfl⟩
  · rename_i fetch hfetch
    split
    · exact .set hfetch rfl rfl
    · exact fun _ fetch hfetch => ⟨fetch, hfetch, rfl, rfl⟩

theorem inOrder_step (h : InOrder V cfg p) (e : Event) (hwrites : WritesFirst p e)
    (hclear : Clear V cfg p e) : InOrder V cfg (step (.ofBlockBackend B) A cfg p e).2 := by
  cases e with
  | call c =>
      unfold step
      dsimp only
      split
      · apply inOrder_call h.speculates c
        rintro l b k v head t rfl
        exact hwrites
      · exact h
  | registerNext => exact inOrder_registerNext h
  | fetchNext future =>
      exact h.background (speculates_fetchNext h.speculates hclear) (sameBlocks_fetchNext _ future)
  | complete future =>
      exact h.background (speculates_complete h.speculates future) (sameBlocks_complete _ future)
  | fail future err =>
      exact h.background (speculates_fail h.speculates future err) (sameBlocks_fail _ future err)

/-- In every order of calls and background steps, with each block written before it is first
prefetched: if the demand reads come to no failed future and no arrays of another shape, each
of them answers what the store's own read would, or waits for a fetch that ends. -/
theorem reads_transparent (V : B.ReturnsLastWrite) (A : Astype) (cfg : AdapterConfig) (b : σ)
    (hb : V.Valid b) (events : List Event)
    (hwrites : (machine (.ofBlockBackend B) A cfg).Meets WritesFirst (init cfg b) events)
    (hclear : (machine (.ofBlockBackend B) A cfg).Meets (Clear V cfg) (init cfg b) events) :
    (machine (.ofBlockBackend B) A cfg).Meets (Transparent V A cfg) (init cfg b) events := by
  refine Machine.Meets.gives _ (I := InOrder V cfg)
    (P := fun p e => WritesFirst p e ∧ Clear V cfg p e) ?_ ?_ (init cfg b) events ?_ ?_
  · exact fun p e h hp => inOrder_step h e hp.1 hp.2
  · intro p e h hp
    cases e with
    | call c => exact fun _ => call_answers h.speculates hp.2
    | _ => trivial
  · exact .ofAdapter (.init hb)
  · exact (Machine.meets_and _ _ _ _ _).mpr ⟨hwrites, hclear⟩

/-! ## Two runs -/

section Instances

open Adapters.TransformerKVStateProvider RealInferenceStorageBackend
open Prefetch.RealInferencePrefetchAdapter (oneFloatConfig)

def submittedRun : List Event :=
  [.call (.writeBlock 0 1 (.array (oneFloat 1)) (.array (oneFloat 2)) 0 0),
    .call (.prefetch [1] 0 0 0 true), .registerNext]

def fetchedRun : List Event :=
  submittedRun ++ [.fetchNext 0, .complete 0, .call (.readBlock 0 1 0 0)]

def failedRun : List Event :=
  submittedRun ++ [.fail 0 (.ioError "fetch"), .call (.readKeyPage 0 1 0 0)]

abbrev fileMachine :
    Machine (Pipeline (RealInferenceStorageBackend tinyConfig)) Event (Option (Outcome Answer)) :=
  machine (.ofBlockBackend fileBackend) floatNumerics.toAstype oneFloatConfig

abbrev fileStart : Pipeline (RealInferenceStorageBackend tinyConfig) :=
  init oneFloatConfig RealInferenceStorageBackend.init

theorem not_failed_of_states {s : RealInferencePrefetchAdapter (RealInferenceStorageBackend tinyConfig)}
    (h : s.futures.map BackgroundFetch.state = [.done]) (future : Nat) : ¬ Failed s future := by
  rintro ⟨fetch, err, hfetch, hfailed⟩
  have hmem : fetch.state ∈ s.futures.map BackgroundFetch.state :=
    List.mem_map_of_mem (List.mem_of_getElem? hfetch)
  rw [h, hfailed] at hmem
  cases List.mem_singleton.mp hmem

theorem reads_transparent_fetched :
    fileMachine.Meets (Transparent fileContract floatNumerics.toAstype oneFloatConfig) fileStart
      fetchedRun := by
  refine reads_transparent fileContract floatNumerics.toAstype oneFloatConfig
    RealInferenceStorageBackend.init (reached_init knownMode_tinyConfig) fetchedRun ?_ ?_
  · exact ⟨⟨rfl, fun _ hmem => by cases hmem⟩, trivial, trivial, trivial, trivial, trivial, trivial⟩
  · refine ⟨?_, ?_, trivial, ?_, trivial, ?_, trivial⟩
    · exact fun _ _ hnone => by cases hnone
    · exact fun _ _ hnone => by cases hnone
    · exact fun hnone => by cases hnone
    · rintro l bids ⟨⟩ bid hbid entry -
      obtain rfl := List.mem_singleton.mp hbid
      have hstates : (fileMachine.exec fileStart (submittedRun ++
          [.fetchNext 0, .complete 0])).adapter.futures.map BackgroundFetch.state = [.done] := by
        decide +kernel
      have hcontent : content (fileMachine.exec fileStart (submittedRun ++
          [.fetchNext 0, .complete 0])).adapter.storageBackend (0, 1) =
            some (oneFloat 1, oneFloat 2) := by decide +kernel
      refine ⟨fun future _ => ⟨not_failed_of_states hstates future, fun hnone => by cases hnone⟩, ?_⟩
      intro kv hkv
      cases hcontent.symm.trans hkv
      exact ⟨rfl, rfl⟩

/-- The prefetch failed: its exception comes out of a read that the store itself answers. -/
theorem failed_prefetch_fails_a_read :
    fileMachine.Meets WritesFirst fileStart failedRun ∧
      (let s := (fileMachine.exec fileStart failedRun.dropLast).adapter
      ownRead fileBackend s.storageBackend (.readKeyPage 0 1 0 0) =
          some (.ok (.page (oneFloat 1))) ∧
        (call (.ofBlockBackend fileBackend) floatNumerics.toAstype oneFloatConfig s
          (.readKeyPage 0 1 0 0)).1 = some (.returns (.error (.ioError "fetch")))) ∧
      ¬ fileMachine.Meets (Transparent fileContract floatNumerics.toAstype oneFloatConfig) fileStart
        failedRun := by
  refine ⟨⟨⟨rfl, fun _ hmem => by cases hmem⟩, trivial, trivial, trivial, trivial, trivial⟩,
    ⟨rfl, rfl⟩, ?_⟩
  rintro ⟨-, -, -, -, hread, -⟩
  have hstored : ∀ bid ∈ [1], (content (fileMachine.exec fileStart
      failedRun.dropLast).adapter.storageBackend (0, bid)).isSome := by decide +kernel
  rcases hread rfl 0 [1] rfl hstored with ⟨a, own, hcall, -⟩ | ⟨future, hcall, -⟩
  · cases hcall
  · cases hcall

end Instances

end Pipeline

end AiSsd.Prefetch.Async
