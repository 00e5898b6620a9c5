import AiSsd.Prefetch.AsyncReads

/-!
# Background fetches come to an end

A fetch that reads its blocks one by one waits where a block it comes to is staged with a
running future. It ends, done or failed, when every fetch it can come to wait for does, and
a fetch over a backend with a batch read ends by itself.
-/

namespace AiSsd.Prefetch.Async

open Lib Numpy Storage
open Adapters (Astype)
open Async.RealInferencePrefetchAdapter

universe v

variable {σ : Type v} {B : Backend σ} {A : Astype} {cfg : AdapterConfig}

namespace RealInferencePrefetchAdapter

def Running (s : RealInferencePrefetchAdapter σ) (future : Nat) : Prop :=
  ∃ fetch, s.futures[future]? = some fetch ∧ fetch.state = .running

def Linked (s : RealInferencePrefetchAdapter σ) : Prop :=
  ∀ key entry future, s.stagingBuffer.get? key = some entry → entry.future = some future →
    future < s.futures.length

variable {s s' s'' : RealInferencePrefetchAdapter σ}

/-! ## When a read waits -/

theorem resolveEntry_waits {entry : StagedInferenceBlock} {other : Nat}
    (hwait : (resolveEntry s entry).1 = .waits other) :
    entry.future = some other ∧ (other < s.futures.length → Running s other) := by
  unfold resolveEntry at hwait
  split at hwait
  · cases hwait
  · rename_i future hfuture
    split at hwait
    · rename_i hnone
      cases hwait
      exact ⟨hfuture, fun hlt => absurd hlt (List.getElem?_eq_none_iff.mp hnone).not_gt⟩
    · rename_i fetch hfetch
      split at hwait
      · rename_i hrunning
        cases hwait
        exact ⟨hfuture, fun _ => ⟨fetch, hfetch, hrunning⟩⟩
      · cases hwait
      · cases hwait

theorem hit_waits {key : Nat × Nat} {entry : StagedInferenceBlock} {sizeBytes other : Nat}
    (hwait : (hit s key entry sizeBytes).1 = .waits other) :
    (resolveEntry s entry).1 = .waits other := by
  unfold hit at hwait
  revert hwait
  rcases resolveEntry s entry with ⟨(_ | _) | _, s'⟩
  · rintro ⟨⟩
  · rintro ⟨⟩
  · rintro ⟨⟩
    rfl

theorem readSingle_waits {ρ : Type} {sizeBytes : Nat}
    {staged : List Nat → Option (NDArray × NDArray) → Except PyErr ρ}
    {fetch : BlockRead (RealInferencePrefetchAdapter σ) ρ} {l b h t other : Nat}
    (hwait : (readSingle cfg sizeBytes staged fetch s l b h t).1 = .waits other) :
    ∃ entry, s.stagingBuffer.get? (l, b) = some entry ∧ (resolveEntry s entry).1 = .waits other := by
  cases hentry : s.stagingBuffer.get? (l, b) with
  | none =>
      rw [readSingle_unstaged hentry] at hwait
      cases hwait
  | some entry =>
      refine ⟨entry, rfl, @hit_waits _ s (l, b) entry sizeBytes other ?_⟩
      unfold readSingle at hwait
      simp only [hentry] at hwait
      revert hwait
      rcases hit s (l, b) entry sizeBytes with ⟨(_ | _) | _, s'⟩
      · rintro ⟨⟩
      · rintro ⟨⟩
      · rintro ⟨⟩
        rfl

/-! ## What background steps change -/

/-- Nothing but background steps since: no entry has another future, no fetch is running
that was not, and each has at most what it had left to read. -/
structure Advanced (s s' : RealInferencePrefetchAdapter σ) : Prop where
  length_eq : s'.futures.length = s.futures.length
  future_of : ∀ key entry' future, s'.stagingBuffer.get? key = some entry' →
    entry'.future = some future →
    ∃ entry, s.stagingBuffer.get? key = some entry ∧ entry.future = some future
  fetch_of : ∀ (future : Nat) fetch', s'.futures[future]? = some fetch' → fetch'.state = .running →
    ∃ fetch, s.futures[future]? = some fetch ∧ fetch.state = .running ∧
      fetch'.layerId = fetch.layerId ∧ fetch'.remaining <:+ fetch.remaining

namespace Advanced

theorem refl (s : RealInferencePrefetchAdapter σ) : Advanced s s :=
  ⟨rfl, fun _ entry _ hentry hfuture => ⟨entry, hentry, hfuture⟩,
    fun _ fetch hfetch hrunning => ⟨fetch, hfetch, hrunning, rfl, List.suffix_refl _⟩⟩

theorem trans (h : Advanced s s') (h' : Advanced s' s'') : Advanced s s'' where
  length_eq := h'.length_eq.trans h.length_eq
  future_of := by
    intro key entry'' future hentry'' hfuture''
    obtain ⟨entry', hentry', hfuture'⟩ := h'.future_of key entry'' future hentry'' hfuture''
    exact h.future_of key entry' future hentry' hfuture'
  fetch_of := by
    intro future fetch'' hfetch'' hrunning''
    obtain ⟨fetch', hfetch', hrunning', hlayer', hsuffix'⟩ :=
      h'.fetch_of future fetch'' hfetch'' hrunning''
    obtain ⟨fetch, hfetch, hrunning, hlayer, hsuffix⟩ := h.fetch_of future fetch' hfetch' hrunning'
    exact ⟨fetch, hfetch, hrunning, hlayer'.trans hlayer, hsuffix'.trans hsuffix⟩

theorem linked (h : Advanced s s') (hs : Linked s) : Linked s' := by
  intro key entry' future hentry' hfuture
  obtain ⟨entry, hentry, hfuture'⟩ := h.future_of key entry' future hentry' hfuture
  rw [h.length_eq]
  exact hs key entry future hentry hfuture'

theorem ofReadOnly (h : ReadOnly s s') : Advanced s s' where
  length_eq := by rw [h.futures_eq]
  future_of := h.future_of
  fetch_of := by
    intro future fetch hfetch hrunning
    rw [h.futures_eq] at hfetch
    exact ⟨fetch, hfetch, hrunning, rfl, List.suffix_refl _⟩

/-- A fetch may end, or have less left to read. -/
theorem setFetch {future : Nat} {fetch fetch' : BackgroundFetch}
    (hfetch : s.futures[future]? = some fetch) (hrunning : fetch.state = .running)
    (hlayer : fetch'.layerId = fetch.layerId) (hsuffix : fetch'.remaining <:+ fetch.remaining) :
    Advanced s (setFetch s future fetch') where
  length_eq := List.length_set
  future_of := fun _ entry _ hentry hfuture => ⟨entry, hentry, hfuture⟩
  fetch_of := by
    intro other x hx hxRunning
    dsimp only [RealInferencePrefetchAdapter.setFetch] at hx
    rw [List.getElem?_set] at hx
    split at hx
    · rename_i heq
      subst heq
      split at hx
      · cases hx
        exact ⟨fetch, hfetch, hrunning, hlayer, hsuffix⟩
      · cases hx
    · exact ⟨x, hx, hxRunning, rfl, List.suffix_refl _⟩

end Advanced

theorem advanced_fetchNext (s : RealInferencePrefetchAdapter σ) (future : Nat) :
    Advanced s (fetchNext B cfg s future) := by
  have hread : ∀ l bid head t, Advanced s (readBlock B cfg s l bid head t).2 :=
    fun l bid head t => .ofReadOnly (readOnly_readBlock s l bid head t)
  have hsame : ∀ {fetch} l bid head t, s.futures[future]? = some fetch →
      (readBlock B cfg s l bid head t).2.futures[future]? = some fetch := by
    intro fetch l bid head t hfetch
    rw [(readOnly_readBlock s l bid head t).futures_eq]
    exact hfetch
  have hbackend : ∀ b, Advanced s { s with storageBackend := b } :=
    fun b => .ofReadOnly ((ReadOnly.refl s).fetched b)
  have hstep := @fetchStep_fetchNext σ B cfg s future
  generalize fetchNext B cfg s future = s' at hstep ⊢
  cases hstep with
  | idle => exact Advanced.refl s
  | batchRaised hfetch hrunning =>
      exact (hbackend _).trans (.setFetch hfetch hrunning rfl (List.suffix_refl _))
  | batchRead hfetch hrunning =>
      exact (hbackend _).trans (.setFetch hfetch hrunning rfl (List.nil_suffix))
  | waits hfetch hrunning =>
      exact (hread _ _ _ _).trans
        (.setFetch (hsame _ _ _ _ hfetch) hrunning rfl (List.suffix_refl _))
  | raised hfetch hrunning =>
      exact (hread _ _ _ _).trans
        (.setFetch (hsame _ _ _ _ hfetch) hrunning rfl (List.suffix_refl _))
  | @took fetch bid rest kv hfetch hrunning hremaining =>
      refine (hread _ _ _ _).trans (.setFetch (hsame _ _ _ _ hfetch) hrunning rfl ?_)
      rw [hremaining]
      exact List.suffix_cons bid rest

theorem advanced_complete (s : RealInferencePrefetchAdapter σ) (future : Nat) :
    Advanced s (complete s future) := by
  unfold complete
  split
  · exact Advanced.refl s
  · rename_i fetch hfetch
    split
    · rename_i hdone
      exact .setFetch hfetch hdone.1 rfl (List.suffix_refl _)
    · exact Advanced.refl s

/-! ## A step that can be taken -/

def Unblocked (B : Backend σ) (s : RealInferencePrefetchAdapter σ) (future : Nat) : Prop :=
  B.readBlockBatch = none → ∀ fetch bid rest entry other, s.futures[future]? = some fetch →
    fetch.state = .running → fetch.remaining = bid :: rest →
    s.stagingBuffer.get? (fetch.layerId, bid) = some entry →
    entry.future = some other → ¬ Running s other

theorem fetchNext_advances (hlinked : Linked s) {future : Nat} (hfree : Unblocked B s future)
    {fetch : BackgroundFetch} (hfetch : s.futures[future]? = some fetch)
    (hrunning : fetch.state = .running) (hremaining : fetch.remaining ≠ []) :
    ∃ fetch', (fetchNext B cfg s future).futures[future]? = some fetch' ∧
      (fetch'.state ≠ .running ∨ fetch'.remaining.length < fetch.remaining.length) := by
  have hset : ∀ {s' : RealInferencePrefetchAdapter σ} (fetch' : BackgroundFetch),
      s'.futures = s.futures → (setFetch s' future fetch').futures[future]? = some fetch' := by
    intro s' fetch' hsame
    show (s'.futures.set future fetch')[future]? = some fetch'
    rw [hsame, List.getElem?_set_self (List.getElem?_eq_some_iff.mp hfetch).choose]
  have hread : ∀ l bid head t, (readBlock B cfg s l bid head t).2.futures = s.futures :=
    fun l bid head t => (readOnly_readBlock s l bid head t).futures_eq
  have hone : ∀ {x : BackgroundFetch}, s.futures[future]? = some x → x = fetch :=
    fun hx => (Option.some.inj (hfetch.symm.trans hx)).symm
  have hstep := @fetchStep_fetchNext σ B cfg s future
  generalize fetchNext B cfg s future = s' at hstep ⊢
  cases hstep with
  | idle hidle => exact absurd (hidle fetch hfetch hrunning) hremaining
  | batchRaised hx => exact ⟨_, hset _ rfl, Or.inl (by simp)⟩
  | batchRead hx =>
      refine ⟨_, hset _ rfl, Or.inr ?_⟩
      exact List.length_pos_iff.mpr hremaining
  | @waits x bid rest other hx hxRunning hcons hbatch hwait =>
      obtain ⟨entry, hentry, hresolve⟩ := readSingle_waits hwait
      obtain ⟨hfuture, hrun⟩ := resolveEntry_waits hresolve
      exact absurd (hrun (hlinked _ entry other hentry hfuture))
        (hfree hbatch x bid rest entry other hx hxRunning hcons hentry hfuture)
  | raised hx => exact ⟨_, hset _ (hread _ _ _ _), Or.inl (by simp)⟩
  | @took x bid rest kv hx _ hcons =>
      obtain rfl := hone hx
      refine ⟨_, hset _ (hread _ _ _ _), Or.inr ?_⟩
      rw [hcons]
      exact Nat.lt_succ_self _

theorem complete_ends {future : Nat} {fetch : BackgroundFetch}
    (hfetch : s.futures[future]? = some fetch) (hremaining : fetch.remaining = []) :
    ¬ Running (complete s future) future := by
  rintro ⟨x, hx, hxRunning⟩
  unfold complete at hx
  simp only [hfetch] at hx
  split at hx
  · dsimp only [setFetch] at hx
    rw [List.getElem?_set_self (List.getElem?_eq_some_iff.mp hfetch).choose] at hx
    cases hx
    cases hxRunning
  · rename_i hnot
    cases hfetch.symm.trans hx
    exact hnot ⟨hxRunning, hremaining⟩

/-- Every fetch the future's fetch can come to wait for ends in its turn. A fetch that could
come to wait for itself, at once or through others, does not. -/
inductive Ends (s : RealInferencePrefetchAdapter σ) : Nat → Prop
  | of_others {future : Nat}
      (h : ∀ fetch, s.futures[future]? = some fetch → fetch.state = .running →
        ∀ bid ∈ fetch.remaining, ∀ entry other,
        s.stagingBuffer.get? (fetch.layerId, bid) = some entry → entry.future = some other →
        Ends s other) :
      Ends s future

end RealInferencePrefetchAdapter

def Event.Background : Event → Prop
  | .fetchNext _ => True
  | .complete _ => True
  | _ => False

namespace Pipeline

theorem advanced_exec {steps : List Event} (hsteps : ∀ e ∈ steps, e.Background)
    (p : Pipeline σ) : Advanced p.adapter ((machine B A cfg).exec p steps).adapter := by
  induction steps generalizing p with
  | nil => exact Advanced.refl p.adapter
  | cons e steps ih =>
      obtain ⟨he, hrest⟩ := List.forall_mem_cons.mp hsteps
      refine Advanced.trans ?_ (ih hrest _)
      cases e with
      | fetchNext future => exact advanced_fetchNext p.adapter future
      | complete future => exact advanced_complete p.adapter future
      | call c => exact he.elim
      | registerNext => exact he.elim
      | fail future err => exact he.elim

variable (B A cfg) in
def Finishes (p : Pipeline σ) (future : Nat) : Prop :=
  ∃ steps, (∀ e ∈ steps, e.Background) ∧
    ¬ Running ((machine B A cfg).exec p steps).adapter future

theorem finishes_of_exec {p : Pipeline σ} {future : Nat} {steps : List Event}
    (hsteps : ∀ e ∈ steps, e.Background)
    (h : Finishes B A cfg ((machine B A cfg).exec p steps) future) : Finishes B A cfg p future := by
  obtain ⟨rest, hrest, hended⟩ := h
  refine ⟨steps ++ rest, ?_, ?_⟩
  · intro e he
    rcases List.mem_append.mp he with he | he
    · exact hsteps e he
    · exact hrest e he
  · rw [Machine.exec_append]
    exact hended

variable (B A cfg) in
/-- Whenever the fetch has come to a block, background steps that leave it there can unblock it. -/
def Unblockable (p : Pipeline σ) (future : Nat) : Prop :=
  ∀ (p' : Pipeline σ) fetch, Advanced p.adapter p'.adapter →
    p'.adapter.futures[future]? = some fetch → fetch.state = .running →
    ∃ steps, (∀ e ∈ steps, e.Background) ∧
      ((∃ fetch', ((machine B A cfg).exec p' steps).adapter.futures[future]? = some fetch' ∧
          fetch'.remaining = fetch.remaining) →
        Unblocked B ((machine B A cfg).exec p' steps).adapter future)

/-- A fetch with less than `n` blocks to read finishes, by induction on `n`. -/
theorem finishes_of_unblocked {future : Nat} (n : Nat) {p : Pipeline σ} (hlinked : Linked p.adapter)
    (hlength : ∀ fetch, p.adapter.futures[future]? = some fetch → fetch.remaining.length < n)
    (hunblock : Unblockable B A cfg p future) : Finishes B A cfg p future := by
  induction n generalizing p with
  | zero =>
      refine ⟨[], fun _ hmem => absurd hmem List.not_mem_nil, ?_⟩
      rintro ⟨fetch, hfetch, -⟩
      exact absurd (hlength fetch hfetch) (Nat.not_lt_zero _)
  | succ n ih =>
      by_cases hrunning : Running p.adapter future
      · obtain ⟨fetch, hfetch, hstate⟩ := hrunning
        obtain ⟨steps, hsteps, hfree⟩ := hunblock p fetch (Advanced.refl _) hfetch hstate
        apply finishes_of_exec hsteps
        have hadvanced := @advanced_exec σ B A cfg steps hsteps p
        generalize (machine B A cfg).exec p steps = p₁ at hfree hadvanced ⊢
        have hunblock₁ := fun p' fetch (h : Advanced p₁.adapter p'.adapter) =>
          hunblock p' fetch (hadvanced.trans h)
        by_cases hrunning₁ : Running p₁.adapter future
        · obtain ⟨fetch₁, hfetch₁, hstate₁⟩ := hrunning₁
          obtain ⟨x, hx, -, -, hsuffix⟩ := hadvanced.fetch_of future fetch₁ hfetch₁ hstate₁
          obtain rfl : fetch = x := Option.some.inj (hfetch.symm.trans hx)
          have hle := hsuffix.length_le
          have hlt := hlength fetch hfetch
          by_cases hsame : fetch₁.remaining.length = fetch.remaining.length
          · -- still at its block, and free to read it
            have hunblocked := hfree ⟨fetch₁, hfetch₁, hsuffix.eq_of_length hsame⟩
            by_cases hnil : fetch₁.remaining = []
            · exact ⟨[.complete future], by simp [Event.Background],
                complete_ends hfetch₁ hnil⟩
            · have hone : ∀ e ∈ [Event.fetchNext future], e.Background := by
                simp [Event.Background]
              apply finishes_of_exec hone
              have hadvanced₂ := @advanced_exec σ B A cfg _ hone p₁
              obtain ⟨fetch₂, hfetch₂, hended | hshorter⟩ := @fetchNext_advances σ B cfg p₁.adapter
                (hadvanced.linked hlinked) future hunblocked fetch₁ hfetch₁ hstate₁ hnil
              · refine ⟨[], fun _ hmem => absurd hmem List.not_mem_nil, ?_⟩
                rintro ⟨y, hy, hyRunning⟩
                obtain rfl := Option.some.inj (hfetch₂.symm.trans hy)
                exact hended hyRunning
              · refine ih ((hadvanced.trans hadvanced₂).linked hlinked) ?_
                  fun p' fetch h => hunblock₁ p' fetch (hadvanced₂.trans h)
                intro y hy
                obtain rfl := Option.some.inj (hfetch₂.symm.trans hy)
                omega
          · refine ih (hadvanced.linked hlinked) ?_ hunblock₁
            intro y hy
            obtain rfl := Option.some.inj (hfetch₁.symm.trans hy)
            omega
        · exact ⟨[], fun _ hmem => absurd hmem List.not_mem_nil, hrunning₁⟩
      · exact ⟨[], fun _ hmem => absurd hmem List.not_mem_nil, hrunning⟩

theorem Unblockable.finishes {future : Nat} {p : Pipeline σ}
    (hunblock : Unblockable B A cfg p future) (hlinked : Linked p.adapter) :
    Finishes B A cfg p future := by
  cases hfetch : p.adapter.futures[future]? with
  | none =>
      refine ⟨[], fun _ hmem => absurd hmem List.not_mem_nil, ?_⟩
      rintro ⟨fetch, hsome, -⟩
      cases hfetch.symm.trans hsome
  | some fetch =>
      refine finishes_of_unblocked (fetch.remaining.length + 1) hlinked ?_ hunblock
      intro x hx
      obtain rfl := Option.some.inj (hfetch.symm.trans hx)
      exact Nat.lt_succ_self _

/-- The background steps can end a fetch over a backend with a batch read. -/
theorem finishes_of_batch (hbatch : B.readBlockBatch ≠ none) {p : Pipeline σ}
    (hlinked : Linked p.adapter) (future : Nat) : Finishes B A cfg p future := by
  have hunblock : Unblockable B A cfg p future := by
    intro p' x _ _ _
    exact ⟨[], fun _ hmem => absurd hmem List.not_mem_nil, fun _ hnone => absurd hnone hbatch⟩
  exact hunblock.finishes hlinked

/-- They can end a fetch that waits for none but fetches that end. -/
theorem finishes_of_ends {s : RealInferencePrefetchAdapter σ} {future : Nat} (h : Ends s future)
    {p : Pipeline σ} (hadvanced : Advanced s p.adapter) (hlinked : Linked p.adapter) :
    Finishes B A cfg p future := by
  induction h generalizing p with
  | @of_others future hothers ih =>
      have hunblock : Unblockable B A cfg p future := by
        intro p' x hp' hx hxRunning
        by_cases hfree : Unblocked B p'.adapter future
        · exact ⟨[], fun _ hmem => absurd hmem List.not_mem_nil, fun _ => hfree⟩
        · -- blocked by another running fetch, which ends first
          unfold Unblocked at hfree
          push Not at hfree
          obtain ⟨-, y, bid, rest, entry, other, hy, -, hcons, hentry, hfuture, -⟩ := hfree
          obtain rfl := Option.some.inj (hx.symm.trans hy)
          have hfrom := hadvanced.trans hp'
          obtain ⟨z, hz, hzRunning, hlayer, hsuffix⟩ := hfrom.fetch_of future x hx hxRunning
          obtain ⟨entry', hentry', hfuture'⟩ := hfrom.future_of _ entry other hentry hfuture
          have hmem : bid ∈ z.remaining := hsuffix.subset (hcons ▸ List.mem_cons_self)
          obtain ⟨steps, hsteps, hended⟩ := ih z hz hzRunning bid hmem entry' other
            (hlayer ▸ hentry') hfuture' hfrom (hp'.linked hlinked)
          refine ⟨steps, hsteps, ?_⟩
          rintro ⟨x', hx', hsame⟩ _ y' bid' rest' entry'' other'' hy' hy'Running hcons' hentry''
            hfuture''
          obtain rfl := Option.some.inj (hx'.symm.trans hy')
          have hafter := @advanced_exec σ B A cfg steps hsteps p'
          obtain ⟨w, hw, -, hlayer', -⟩ := hafter.fetch_of future x' hx' hy'Running
          obtain rfl := Option.some.inj (hx.symm.trans hw)
          obtain ⟨rfl, rfl⟩ := List.cons.inj (hcons.symm.trans (hsame.symm.trans hcons'))
          obtain ⟨e, he, hefuture⟩ := hafter.future_of _ entry'' other'' hentry'' hfuture''
          rw [hlayer'] at he
          obtain rfl := Option.some.inj (hentry.symm.trans he)
          obtain rfl := Option.some.inj (hfuture.symm.trans hefuture)
          exact hended
      exact hunblock.finishes hlinked

end Pipeline

end AiSsd.Prefetch.Async
