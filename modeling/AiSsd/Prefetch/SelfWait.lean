import AiSsd.Prefetch.BufferBound
import AiSsd.Prefetch.FetchProgress

/-!
# A fetch that waits for itself

Over a backend without a batch read a background fetch reads its blocks with the adapter's
own `read_block`, which waits for the future of a staged entry. A fetch that comes to a
block its own prefetch has registered waits for its own future. Which of the two comes
first is up to the order of registration and fetch; with a batch read there is no such wait.
-/

namespace AiSsd.Prefetch.Async

open Lib Numpy Storage
open Adapters (Astype)
open Adapters.TransformerKVStateProvider (floatNumerics)
open Async.RealInferencePrefetchAdapter

universe v

variable {σ : Type v} {B : Backend σ} {A : Astype} {cfg : AdapterConfig}

def WaitsOnItself (futures : List BackgroundFetch) : Prop :=
  ∃ (future : Nat) (fetch : BackgroundFetch), futures[future]? = some fetch ∧
    fetch.state = .running ∧ fetch.waitingOn = some future

namespace RealInferencePrefetchAdapter

variable {s : RealInferencePrefetchAdapter σ}

/-! ## When a read waits -/

theorem future_of_readBlock_waits {l b h t other : Nat}
    (hwait : (readBlock B cfg s l b h t).1 = .waits other) :
    ∃ entry, s.stagingBuffer.get? (l, b) = some entry ∧ entry.future = some other := by
  obtain ⟨entry, hentry, hresolve⟩ := readSingle_waits hwait
  exact ⟨entry, hentry, (resolveEntry_waits hresolve).1⟩

theorem readBlock_waits {l b : Nat} {entry : StagedInferenceBlock} {future : Nat}
    {fetch : BackgroundFetch} (hentry : s.stagingBuffer.get? (l, b) = some entry)
    (hfuture : entry.future = some future) (hfetch : s.futures[future]? = some fetch)
    (hrunning : fetch.state = .running) (h t : Nat) :
    (readBlock B cfg s l b h t).1 = .waits future := by
  simp only [readBlock, readSingle, hentry, hit, resolveEntry, hfuture, hfetch, hrunning]

/-- Room is made only in a buffer that has room for a block. -/
theorem capacity_pos_of_ok {missBids : List Nat} {s : RealInferencePrefetchAdapter σ}
    (hne : missBids ≠ []) (hok : (ensureCapacityFor cfg missBids s).1 = .ok ()) :
    0 < cfg.bufferCapacityBlocks := by
  by_contra hzero
  have hcap : cfg.bufferCapacityBlocks = 0 := by omega
  have hraise : ∀ (fuel : Nat) (buffer : StagingBuffer) (t : AdapterTelemetry),
      buffer.size < fuel → (dropOldest 0 fuel buffer t).1 ≠ .ok () := by
    intro fuel
    induction fuel with
    | zero => intro buffer _ hfuel; omega
    | succ fuel ih =>
        intro buffer t hfuel
        unfold dropOldest
        rw [if_pos (Nat.zero_le _)]
        cases hpop : buffer.popFirst? with
        | none => simp
        | some popped =>
            have hsize := Dict.size_of_popFirst? (e := popped.1) hpop
            exact ih popped.2 _ (by omega)
  cases missBids with
  | nil => exact hne rfl
  | cons bid missBids =>
      have hfirst : (ensureBufferCapacity cfg s).1 ≠ .ok () := by
        unfold ensureBufferCapacity
        rw [hcap]
        exact hraise _ _ _ (Nat.lt_succ_self _)
      revert hok hfirst
      unfold ensureCapacityFor
      rcases ensureBufferCapacity cfg s with ⟨_ | _, s'⟩
      · rintro ⟨⟩
      · intro _ hfirst
        exact hfirst rfl

/-! ## What events do to the fetches -/

theorem waitsOnItself_append {futures : List BackgroundFetch} {fetch : BackgroundFetch}
    (hnew : fetch.waitingOn = none) :
    WaitsOnItself (futures ++ [fetch]) ↔ WaitsOnItself futures := by
  constructor
  · rintro ⟨future, x, hx, hrunning, hwait⟩
    refine ⟨future, x, ?_, hrunning, hwait⟩
    rw [List.getElem?_append] at hx
    split at hx
    · exact hx
    · -- the new one waits for nothing
      have hlast := List.mem_singleton.mp (List.mem_of_getElem? hx)
      rw [hlast, hnew] at hwait
      cases hwait
  · rintro ⟨future, x, hx, hrunning, hwait⟩
    refine ⟨future, x, ?_, hrunning, hwait⟩
    rw [List.getElem?_append_left (List.getElem?_eq_some_iff.mp hx).choose]
    exact hx

/-- Where no fetch waits for itself, changing one asks about that one. -/
theorem waitsOnItself_set {futures : List BackgroundFetch} (hclear : ¬ WaitsOnItself futures)
    {future : Nat} {fetch : BackgroundFetch} (hfetch : futures[future]? = some fetch)
    (fetch' : BackgroundFetch) :
    WaitsOnItself (futures.set future fetch') ↔
      fetch'.state = .running ∧ fetch'.waitingOn = some future := by
  have hlt : future < futures.length := (List.getElem?_eq_some_iff.mp hfetch).choose
  constructor
  · rintro ⟨other, x, hx, hrunning, hwait⟩
    rw [List.getElem?_set] at hx
    by_cases heq : future = other
    · subst heq
      rw [if_pos rfl, if_pos hlt, Option.some.injEq] at hx
      subst hx
      exact ⟨hrunning, hwait⟩
    · rw [if_neg heq] at hx
      exact absurd ⟨other, x, hx, hrunning, hwait⟩ hclear
  · rintro ⟨hrunning, hwait⟩
    exact ⟨future, fetch', by rw [List.getElem?_set, if_pos rfl, if_pos hlt], hrunning, hwait⟩

/-- A fetch that reads its blocks one by one does not come to a block whose staged entry
carries its own future. -/
def ReadsOthers (B : Backend σ) (s : RealInferencePrefetchAdapter σ) (future : Nat) : Prop :=
  B.readBlockBatch = none → ∀ fetch bid rest entry, s.futures[future]? = some fetch →
    fetch.state = .running → fetch.remaining = bid :: rest →
    s.stagingBuffer.get? (fetch.layerId, bid) = some entry → entry.future ≠ some future

/-- A fetch whose read of the next block does not wait for its own future. -/
theorem readsOthers_of_read {future : Nat} {fetch : BackgroundFetch} {bid : Nat}
    {rest : List Nat} (hfetch : s.futures[future]? = some fetch)
    (hrunning : fetch.state = .running) (hremaining : fetch.remaining = bid :: rest)
    (hread : (readBlock B cfg s fetch.layerId bid fetch.headId fetch.tokenStart).1 ≠
      .waits future) : s.ReadsOthers B future := by
  intro _ x bid' rest' entry hx _ hrest hentry hfuture
  obtain rfl := Option.some.inj (hfetch.symm.trans hx)
  obtain ⟨rfl, rfl⟩ := List.cons.inj (hremaining.symm.trans hrest)
  exact hread (readBlock_waits hentry hfuture hfetch hrunning _ _)

/-- Where no fetch waits for itself, one does after a step exactly when its entry is its own. -/
theorem fetchNext_waits (hclear : ¬ WaitsOnItself s.futures) (future : Nat) :
    ¬ WaitsOnItself (fetchNext B cfg s future).futures ↔ s.ReadsOthers B future := by
  have hset := @waitsOnItself_set s.futures hclear future
  have hkeeps : ∀ l b h t, (readBlock B cfg s l b h t).2.futures = s.futures :=
    fun l b h t => (@readOnly_readBlock σ B cfg s l b h t).futures_eq
  have hstep := @fetchStep_fetchNext σ B cfg s future
  generalize fetchNext B cfg s future = s' at hstep ⊢
  cases hstep with
  | idle hidle =>
      refine iff_of_true hclear fun _ fetch bid rest entry hfetch hrunning hremaining => ?_
      rw [hidle fetch hfetch hrunning] at hremaining
      cases hremaining
  | batchRaised hfetch hrunning hbatch hread =>
      refine iff_of_true ?_ fun hnone => by cases hbatch.symm.trans hnone
      simp [setFetch, hset hfetch]
  | @batchRead fetch read fetched hfetch hrunning hbatch hread =>
      refine iff_of_true ?_ fun hnone => by cases hbatch.symm.trans hnone
      have hown : fetch.waitingOn ≠ some future :=
        fun hwait => hclear ⟨future, fetch, hfetch, hrunning, hwait⟩
      simp [setFetch, hset hfetch, hown]
  | @waits fetch bid rest other hfetch hrunning hremaining hbatch hread =>
      rw [setFetch, hkeeps, hset hfetch]
      constructor
      · intro hnot
        apply readsOthers_of_read hfetch hrunning hremaining
        rw [hread]
        intro hown
        cases hown
        exact hnot ⟨hrunning, rfl⟩
      · rintro hothers ⟨-, hown⟩
        obtain ⟨entry, hentry, hfuture⟩ := future_of_readBlock_waits hread
        exact hothers hbatch fetch bid rest entry hfetch hrunning hremaining hentry
          (hfuture.trans hown)
  | raised hfetch hrunning hremaining hbatch hread =>
      refine iff_of_true ?_ (readsOthers_of_read hfetch hrunning hremaining
        fun hwait => by cases hread.symm.trans hwait)
      simp [setFetch, hkeeps, hset hfetch]
  | took hfetch hrunning hremaining hbatch hread =>
      refine iff_of_true ?_ (readsOthers_of_read hfetch hrunning hremaining
        fun hwait => by cases hread.symm.trans hwait)
      simp [setFetch, hkeeps, hset hfetch]

end RealInferencePrefetchAdapter

namespace Pipeline

variable {s : Pipeline σ}

/-- A call leaves the fetches as they are, or submits one that waits for nothing. -/
theorem futures_call (s : RealInferencePrefetchAdapter σ) (c : Call) :
    (call B A cfg s c).2.adapter.futures = s.futures ∨
      ∃ fetch : BackgroundFetch, (call B A cfg s c).2.adapter.futures = s.futures ++ [fetch] ∧
        fetch.waitingOn = none ∧ 0 < cfg.bufferCapacityBlocks := by
  have hprefetch : ∀ (s : RealInferencePrefetchAdapter σ) bids l head t isAsync layer,
      (prefetch B cfg s bids l head t isAsync layer).2.adapter.futures = s.futures ∨
        ∃ fetch : BackgroundFetch,
          (prefetch B cfg s bids l head t isAsync layer).2.adapter.futures =
            s.futures ++ [fetch] ∧ fetch.waitingOn = none ∧ 0 < cfg.bufferCapacityBlocks := by
    intro s bids l head t isAsync layer
    unfold prefetch
    dsimp only
    split
    · exact Or.inl rfl
    · rename_i hne
      have hroom := @ensureCapacityFor_futures σ cfg (missing s l bids) s
      have hpos := @capacity_pos_of_ok σ cfg (missing s l bids) s hne
      revert hroom hpos
      rcases ensureCapacityFor cfg (missing s l bids) s with ⟨_ | _, s'⟩
      · exact fun hroom _ => Or.inl hroom
      · intro (hroom : s'.futures = s.futures) hpos
        dsimp only
        split
        · exact Or.inr ⟨_, congrArg (· ++ [_]) hroom, rfl, hpos rfl⟩
        · exact Or.inl ((prefetchSync_futures s' l _ head t).trans hroom)
  cases c with
  | writeBlock l b k v head t => exact Or.inl (writeBlock_keeps s l b k v head t).2
  | prefetch bids l head t isAsync => exact hprefetch s bids l head t isAsync none
  | predictAndPrefetch l bids stride isAsync =>
      unfold call predictAndPrefetch
      dsimp only
      rcases s.predictor.predictNextLayerBlocks l bids stride with ⟨_ | ⟨layer, predicted⟩, p⟩
      · exact Or.inl rfl
      · exact hprefetch { s with predictor := p } predicted layer 0 0 isAsync (some layer)
  | readKeyPage l b head t => exact Or.inl (readOnly_readKeyPage s l b head t).futures_eq
  | readValuePage l b head t => exact Or.inl (readOnly_readValuePage s l b head t).futures_eq
  | readBlock l b head t => exact Or.inl (readOnly_readBlock s l b head t).futures_eq
  | readKeyPageBatch l bs head t =>
      exact Or.inl (readOnly_readBatch _ _ _ readOnly_readKeyPage s l bs head t).futures_eq
  | readValuePageBatch l bs head t =>
      exact Or.inl (readOnly_readBatch _ _ _ readOnly_readValuePage s l bs head t).futures_eq
  | readBlockBatch l bs head t =>
      exact Or.inl (readOnly_readBatch _ _ _ readOnly_readBlock s l bs head t).futures_eq
  | evictBlock l b =>
      left
      unfold call evictBlock
      dsimp only
      repeat' split
      all_goals rfl
  | resetStats => exact Or.inl rfl

theorem waitsOnItself_ended {futures : List BackgroundFetch} (hclear : ¬ WaitsOnItself futures)
    {future : Nat} {fetch : BackgroundFetch} (hfetch : futures[future]? = some fetch)
    {state : FutureState} (hended : state ≠ .running) :
    ¬ WaitsOnItself (futures.set future { fetch with state := state }) := by
  rw [waitsOnItself_set hclear hfetch]
  exact fun hwait => hended hwait.1

/-- Every event but a fetch of a registered block leaves no fetch waiting for itself. -/
def FetchesOthers (B : Backend σ) (s : Pipeline σ) : Event → Prop
  | .fetchNext future => s.adapter.ReadsOthers B future
  | _ => True

theorem waits_step (hclear : ¬ WaitsOnItself s.adapter.futures) (event : Event) :
    ¬ WaitsOnItself (step B A cfg s event).2.adapter.futures ↔ s.FetchesOthers B event := by
  cases event with
  | fetchNext future => exact fetchNext_waits hclear future
  | call c =>
      refine iff_of_true ?_ trivial
      unfold step
      dsimp only
      split
      · rcases @futures_call σ B A cfg s.adapter c with hsame | ⟨fetch, hnew, hwait, -⟩
        · rw [hsame]
          exact hclear
        · rw [hnew, waitsOnItself_append hwait]
          exact hclear
      · exact hclear
  | registerNext =>
      refine iff_of_true ?_ trivial
      unfold step registerNext
      dsimp only
      repeat' split
      all_goals exact hclear
  | complete future =>
      refine iff_of_true ?_ trivial
      unfold step complete
      dsimp only
      split
      · exact hclear
      · rename_i fetch hfetch
        split
        · exact waitsOnItself_ended hclear hfetch (by simp)
        · exact hclear
  | fail future err =>
      refine iff_of_true ?_ trivial
      unfold step fail
      dsimp only
      split
      · exact hclear
      · rename_i fetch hfetch
        split
        · exact waitsOnItself_ended hclear hfetch (by simp)
        · exact hclear

/-! ## Runs -/

theorem futures_of_no_room (hcap : cfg.bufferCapacityBlocks = 0) (b : σ) (events : List Event) :
    ((machine B A cfg).exec (init cfg b) events).adapter.futures = [] := by
  apply (machine B A cfg).exec_invariant (I := fun s => s.adapter.futures = [])
  · intro s event hnil
    show (step B A cfg s event).2.adapter.futures = []
    cases event with
    | call c =>
        unfold step
        dsimp only
        split
        · rcases @futures_call σ B A cfg s.adapter c with hsame | ⟨_, _, _, hpos⟩
          · exact hsame.trans hnil
          · omega
        · exact hnil
    | registerNext =>
        unfold step registerNext
        dsimp only
        repeat' split
        all_goals exact hnil
    | fetchNext future => simp [step, fetchNext, hnil]
    | complete future => simp [step, complete, hnil]
    | fail future err => simp [step, fail, hnil]
  · rfl

def registeredFirst : List Event := [.call (.prefetch [0] 0 0 0 true), .registerNext, .fetchNext 0]

theorem waits_registeredFirst (hbatch : B.readBlockBatch = none)
    (hcap : 0 < cfg.bufferCapacityBlocks) (b : σ) :
    WaitsOnItself ((machine B A cfg).exec (init cfg b) registeredFirst).adapter.futures := by
  let a := RealInferencePrefetchAdapter.init cfg b
  let submitted := submit a 0 [0] 0 0
  let registered := recordPeak cfg (stage cfg submitted 0 0 0 none (some 0))
  have hroom : ensureCapacityFor cfg [0] a = (.ok (), a) := by
    have hzero : ¬ (0 ≥ cfg.bufferCapacityBlocks) := Nat.not_le.mpr hcap
    have hdrop : ∀ (t : AdapterTelemetry),
        dropOldest cfg.bufferCapacityBlocks 1 Dict.empty t = (.ok (), Dict.empty, t) :=
      fun t => if_neg hzero
    simp only [ensureCapacityFor, ensureBufferCapacity, a, RealInferencePrefetchAdapter.init]
    rw [show (Dict.empty : StagingBuffer).size + 1 = 1 from rfl, hdrop]
  have hsubmit : (step B A cfg (init cfg b) (.call (.prefetch [0] 0 0 0 true))).2 =
      ⟨submitted, some ⟨0, 0, 0, [0], [], none⟩⟩ := by
    show (prefetch B cfg a [0] 0 0 0 true none).2 = _
    unfold prefetch
    rw [show missing a 0 [0] = [0] from rfl]
    simp only [hroom]
    rfl
  have hregister : (step B A cfg ⟨submitted, some ⟨0, 0, 0, [0], [], none⟩⟩ .registerNext).2 =
      ⟨registered, none⟩ := rfl
  have hexec : ((machine B A cfg).exec (init cfg b) registeredFirst).adapter.futures =
      (fetchNext B cfg registered 0).futures := by
    show (step B A cfg (step B A cfg (step B A cfg (init cfg b) _).2 _).2 _).2.adapter.futures = _
    rw [hsubmit, hregister]
    rfl
  have hclear : ¬ WaitsOnItself registered.futures := by
    refine (waitsOnItself_append rfl).not.mpr ?_
    rintro ⟨future, fetch, hfetch, -⟩
    cases hfetch
  rw [hexec]
  by_contra hnot
  exact (fetchNext_waits hclear 0).mp hnot hbatch _ 0 [] _ rfl rfl rfl rfl rfl

/-- Over the file backend: block 0 is fetched after its entry is registered. -/
theorem fetch_waits_on_itself :
    WaitsOnItself ((machine fileStorage floatNumerics.toAstype oneBlockConfig).exec
      (init oneBlockConfig (.create 2)) registeredFirst).adapter.futures :=
  @waits_registeredFirst _ fileStorage floatNumerics.toAstype oneBlockConfig rfl Nat.one_pos
    (.create 2)

/-- No fetch ever waits for itself, in any order of events, exactly when the backend has a
batch read or nothing can be prefetched; and no fetch does in one run exactly when each
fetch that reads by itself comes to its blocks outside their registration. -/
theorem never_waits_on_itself_iff (B : Backend σ) (A : Astype) (cfg : AdapterConfig) (b : σ) :
    ((∀ events,
        ¬ WaitsOnItself ((machine B A cfg).exec (init cfg b) events).adapter.futures) ↔
      (B.readBlockBatch.isSome = true ∨ cfg.bufferCapacityBlocks = 0)) ∧
    ∀ events,
      (∀ pre, pre <+: events →
        ¬ WaitsOnItself ((machine B A cfg).exec (init cfg b) pre).adapter.futures) ↔
      (machine B A cfg).Meets (FetchesOthers B) (init cfg b) events := by
  have hruns : ∀ events, (∀ pre, pre <+: events →
      ¬ WaitsOnItself ((machine B A cfg).exec (init cfg b) pre).adapter.futures) ↔
        (machine B A cfg).Meets (FetchesOthers B) (init cfg b) events := by
    intro events
    refine (machine B A cfg).forall_prefix_iff_meets
      (I := fun s => ¬ WaitsOnItself s.adapter.futures)
      (C := fun s => ¬ WaitsOnItself s.adapter.futures) (fun _ h => h)
      (fun s event h hp => (waits_step h event).mpr hp)
      (fun s event h hafter => (waits_step h event).mp hafter) _ events ?_
    rintro ⟨future, fetch, hfetch, -⟩
    cases hfetch
  refine ⟨⟨?_, ?_⟩, hruns⟩
  · intro hnever
    by_contra hneither
    obtain ⟨hbatch, hcap⟩ := not_or.mp hneither
    rw [Bool.not_eq_true, Option.isSome_eq_false_iff, Option.isNone_iff_eq_none] at hbatch
    exact hnever registeredFirst (waits_registeredFirst hbatch (Nat.pos_of_ne_zero hcap) b)
  · rintro (hbatch | hcap) events
    · -- a backend with a batch read leaves nothing to meet
      refine (hruns events).mpr ?_ events (List.prefix_refl events)
      refine (machine B A cfg).meets_of_invariant (I := fun _ => True) (fun _ _ _ => trivial) ?_ _
        events trivial
      intro s event _
      cases event with
      | fetchNext future =>
          intro hnone
          rw [hnone] at hbatch
          cases hbatch
      | _ => trivial
    · rw [futures_of_no_room hcap]
      rintro ⟨future, fetch, hfetch, -⟩
      cases hfetch

end Pipeline

end AiSsd.Prefetch.Async
