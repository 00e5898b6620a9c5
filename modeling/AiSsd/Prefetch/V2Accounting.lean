import AiSsd.Prefetch.V2Prefetcher

/-!
# What the request-level prefetcher accounts for

Room for a batch is made before any of it is staged, and one dropped block is room for one.
A batch of distinct blocks that fits keeps the buffer within its capacity and every request
in the telemetry; any other batch breaks one or the other. Reads change neither.
-/

namespace AiSsd.Prefetch.V2.V2Prefetcher

open Lib

variable {γ : Type} {B : StorageBackend γ} {cfg : PrefetcherConfig}

/-- At most `capacity` blocks are staged, and every prefetch that was requested is reported
as useful or as useless. -/
structure Accounted (cfg : PrefetcherConfig) (s : V2Prefetcher γ) : Prop where
  within_capacity : s.stagedBuffer.size ≤ cfg.bufferCapacity
  conserved : (getTelemetry cfg s).prefetchRequests =
    (getTelemetry cfg s).usefulPrefetches + (getTelemetry cfg s).uselessPrefetches

structure SameAccount (s s' : V2Prefetcher γ) : Prop where
  size_eq : s'.stagedBuffer.size = s.stagedBuffer.size
  unreported_eq : s'.prefetchRequests + (s.usefulPrefetches + (s.uselessPrefetches + s.unaccessed)) =
    s.prefetchRequests + (s'.usefulPrefetches + (s'.uselessPrefetches + s'.unaccessed))

namespace SameAccount

variable {s s' s'' : V2Prefetcher γ}

theorem refl (s : V2Prefetcher γ) : SameAccount s s := ⟨rfl, rfl⟩

theorem trans (h : SameAccount s s') (h' : SameAccount s' s'') : SameAccount s s'' where
  size_eq := h'.size_eq.trans h.size_eq
  unreported_eq := by
    have hfirst := h.unreported_eq
    have hthen := h'.unreported_eq
    omega

theorem accounted (h : SameAccount s s') (hs : Accounted cfg s) : Accounted cfg s' where
  within_capacity := h.size_eq.trans_le hs.within_capacity
  conserved := by
    have hconserved := hs.conserved
    have hunreported := h.unreported_eq
    simp only [getTelemetry] at hconserved ⊢
    omega

end SameAccount

/-! ## Reads -/

theorem sameAccount_accessStaged {s : V2Prefetcher γ} {key : Int × Int} {entry : StagedBlockEntry}
    (hentry : s.stagedBuffer.get? key = some entry) (demandTimeUs : Rat) :
    SameAccount s (accessStaged s key entry demandTimeUs) where
  size_eq := by
    have hstaged : (s.stagedBuffer.moveToEnd key).contains key = true := by
      simp [Dict.contains, hentry]
    simp only [accessStaged, Dict.size_set, hstaged, if_true, Dict.size_moveToEnd]
  unreported_eq := by
    have hset := (s.stagedBuffer.moveToEnd key).countValues_set StagedBlockEntry.unused key
      { entry with isUseful := true, accessedAtUs := some demandTimeUs }
    rw [Dict.get?_moveToEnd, Dict.countValues_moveToEnd, hentry, Option.any_some] at hset
    simp only [accessStaged, unaccessed]
    -- the first read takes the block from the unread ones to the useful ones
    cases huseful : entry.isUseful
    · simp only [StagedBlockEntry.unused, huseful, Bool.not_false, Bool.not_true, Bool.toNat_true,
        Bool.toNat_false] at hset
      simp only [Bool.false_eq_true, if_false]
      omega
    · simp only [StagedBlockEntry.unused, huseful, Bool.not_true, Bool.toNat_false] at hset
      simp only [if_true]
      omega

theorem sameAccount_accessEach (layerId : Int) (demandTimeUs : Rat) (blockIds : List Int)
    (tally : AccessTally) (s : V2Prefetcher γ) :
    SameAccount s (accessEach layerId demandTimeUs blockIds tally s).2 := by
  induction blockIds generalizing tally s with
  | nil => exact SameAccount.refl s
  | cons bid blockIds ih =>
      unfold accessEach
      split
      · rename_i entry hentry
        exact (sameAccount_accessStaged hentry demandTimeUs).trans (ih _ _)
      · have hmissed : SameAccount s { s with demandMisses := s.demandMisses + 1 } := ⟨rfl, rfl⟩
        exact hmissed.trans (ih _ _)

theorem sameAccount_netStall (s : V2Prefetcher γ) (stalls : Rat) :
    SameAccount s (netStall cfg s stalls).2 := by
  unfold netStall
  dsimp only
  split
  · exact ⟨rfl, rfl⟩
  · exact SameAccount.refl s

theorem sameAccount_accessBlocks (s : V2Prefetcher γ) (blockIds : List Int) (layerId : Int)
    (demandTimeUs : Rat) :
    SameAccount s (accessBlocks B cfg s blockIds layerId demandTimeUs).2 := by
  have hread := sameAccount_accessEach layerId demandTimeUs blockIds AccessTally.zero s
  unfold accessBlocks
  revert hread
  rcases accessEach layerId demandTimeUs blockIds AccessTally.zero s with
    ⟨⟨hits, _ | ⟨m, ms⟩, stalls⟩, s₁⟩
  · exact fun hread => hread.trans (sameAccount_netStall s₁ stalls)
  · intro hread
    dsimp only
    rcases B.submitBatch s₁.backend ((m :: ms).map (missRequest cfg layerId)) with ⟨_ | results, b⟩
    · exact hread.trans ⟨rfl, rfl⟩
    · have hbackend : SameAccount s₁ { s₁ with backend := b } := ⟨rfl, rfl⟩
      exact (hread.trans hbackend).trans (sameAccount_netStall _ _)

/-! ## Making room -/

/-- The buffer once a full one has dropped its oldest block. -/
def roomy (cfg : PrefetcherConfig) (s : V2Prefetcher γ) : StagingBuffer :=
  if s.stagedBuffer.size ≥ cfg.bufferCapacity then
    (s.stagedBuffer.popFirst?.map Prod.snd).getD s.stagedBuffer
  else s.stagedBuffer

theorem contains_of_roomy {s : V2Prefetcher γ} {key : Int × Int}
    (h : (roomy cfg s).contains key = true) : s.stagedBuffer.contains key = true := by
  unfold roomy at h
  split at h
  · cases hpop : s.stagedBuffer.popFirst? with
    | none => simpa [hpop] using h
    | some r =>
        have hgone := Dict.get?_of_popFirst? (d := s.stagedBuffer) (e := r.1) hpop key
        simp only [hpop, Option.map_some, Option.getD_some, Dict.contains,
          hgone] at h
        split at h
        · cases h
        · exact h
  · exact h

/-- With a capacity of one at least, room for one block, and nothing unreported. -/
theorem evictIfFull_spec (hcap : 1 ≤ cfg.bufferCapacity) {s : V2Prefetcher γ}
    (hs : Accounted cfg s) :
    ∃ s', evictIfFull cfg s = (.ok (), s') ∧ s'.stagedBuffer = roomy cfg s ∧
      s'.backend = s.backend ∧ s'.stagedBuffer.size < cfg.bufferCapacity ∧ Accounted cfg s' := by
  have hsize := hs.within_capacity
  have hconserved := hs.conserved
  unfold evictIfFull roomy
  by_cases hfull : s.stagedBuffer.size ≥ cfg.bufferCapacity
  · simp only [hfull, if_true]
    cases hpop : s.stagedBuffer.popFirst? with
    | none =>
        have hempty := Dict.popFirst?_eq_none hpop
        omega
    | some r =>
        obtain ⟨⟨key, oldest⟩, rest⟩ := r
        have hrest := Dict.size_of_popFirst? hpop
        have hcount := Dict.countValues_popFirst? StagedBlockEntry.unused hpop
        refine ⟨countDropped { s with stagedBuffer := rest } oldest, rfl, ?_⟩
        simp only [getTelemetry, unaccessed] at hconserved
        unfold countDropped
        cases huseful : oldest.isUseful
        · simp only [StagedBlockEntry.unused, huseful, Bool.not_false, Bool.toNat_true] at hcount
          refine ⟨rfl, rfl, ?_, ?_, ?_⟩
          all_goals
            simp only [getTelemetry, unaccessed, Bool.false_eq_true, if_false]
            omega
        · simp only [StagedBlockEntry.unused, huseful, Bool.not_true, Bool.toNat_false] at hcount
          refine ⟨rfl, rfl, ?_, ?_, ?_⟩
          all_goals
            simp only [getTelemetry, unaccessed, if_true]
            omega
  · simp only [hfull, if_false]
    exact ⟨s, rfl, rfl, rfl, by omega, hs⟩

/-! ## Collecting the requests -/

/-- The blocks that a prefetch requests: from the first one that is not staged on, those that
are not in the buffer once there is room. -/
def wanted (cfg : PrefetcherConfig) (s : V2Prefetcher γ) (layerId : Int) (blockIds : List Int) :
    List Int :=
  (blockIds.dropWhile fun bid => s.stagedBuffer.contains (layerId, bid)).filter fun bid =>
    !(roomy cfg s).contains (layerId, bid)

theorem collect_of_room {s : V2Prefetcher γ} (hroom : s.stagedBuffer.size < cfg.bufferCapacity)
    (layerId : Int) (blockIds prefetched : List Int) :
    collect cfg layerId blockIds prefetched s =
      (.ok (prefetched ++ blockIds.filter fun bid => !s.stagedBuffer.contains (layerId, bid)), s) := by
  induction blockIds generalizing prefetched with
  | nil => simp [collect]
  | cons bid blockIds ih =>
      have hkept : evictIfFull cfg s = (.ok (), s) := by
        unfold evictIfFull
        rw [if_neg (by omega)]
      unfold collect
      cases hstaged : s.stagedBuffer.contains (layerId, bid)
      · simp [hstaged, hkept, ih]
      · simp [hstaged, ih]

theorem collect_spec (hcap : 1 ≤ cfg.bufferCapacity) {s : V2Prefetcher γ} (hs : Accounted cfg s)
    (layerId : Int) (blockIds : List Int) :
    ∃ s', collect cfg layerId blockIds [] s = (.ok (wanted cfg s layerId blockIds), s') ∧
      (wanted cfg s layerId blockIds ≠ [] → evictIfFull cfg s = (.ok (), s')) ∧
      (wanted cfg s layerId blockIds = [] → s' = s) := by
  induction blockIds with
  | nil => exact ⟨s, rfl, fun h => absurd rfl h, fun _ => rfl⟩
  | cons bid blockIds ih =>
      unfold collect
      cases hstaged : s.stagedBuffer.contains (layerId, bid)
      · obtain ⟨s', hevict, hbuffer, -, hroom, -⟩ := evictIfFull_spec hcap hs
        have hgone : (roomy cfg s).contains (layerId, bid) = false := by
          cases h : (roomy cfg s).contains (layerId, bid)
          · rfl
          · simp [contains_of_roomy h] at hstaged
        have hwanted : wanted cfg s layerId (bid :: blockIds) =
            [bid] ++ blockIds.filter fun b => !s'.stagedBuffer.contains (layerId, b) := by
          simp [wanted, hstaged, hgone, hbuffer]
        refine ⟨s', ?_, fun _ => hevict, fun h => by simp [hwanted] at h⟩
        simp [hevict, collect_of_room hroom, hwanted]
      · have hwanted : wanted cfg s layerId (bid :: blockIds) = wanted cfg s layerId blockIds := by
          simp [wanted, hstaged]
        simpa [hwanted] using ih

theorem wanted_not_staged {s s' : V2Prefetcher γ} (hbuffer : s'.stagedBuffer = roomy cfg s)
    {layerId : Int} {blockIds : List Int} {bid : Int}
    (h : bid ∈ wanted cfg s layerId blockIds) : s'.stagedBuffer.get? (layerId, bid) = none := by
  have hgone := (List.mem_filter.mp h).2
  rw [hbuffer]
  simpa [Dict.contains] using hgone

/-! ## Staging the results -/

theorem card_keys_eq_iff (layerId : Int) (bids : List Int) :
    (bids.map fun bid => (layerId, bid)).toFinset.card = bids.length ↔ bids.Nodup := by
  have hinj : Function.Injective fun bid : Int => (layerId, bid) := Prod.mk_right_injective layerId
  rw [← List.nodup_map_iff hinj, ← List.length_map fun bid : Int => (layerId, bid)]
  exact Multiset.toFinset_card_eq_card_iff_nodup
    (m := ((bids.map fun bid => (layerId, bid) : List (Int × Int)) : Multiset (Int × Int)))

/-- A batch of blocks that are not staged is accounted for exactly when it names each of them
once and fits. -/
theorem accounted_stageResults_iff {s : V2Prefetcher γ} (hs : Accounted cfg s) (layerId : Int)
    (currentTimeUs : Rat) {results : List StorageResult} {bids : List Int}
    (hids : results.map StorageResult.blockId = bids)
    (hnew : ∀ bid ∈ bids, s.stagedBuffer.get? (layerId, bid) = none) :
    Accounted cfg (recordPeak cfg (stageResults s layerId currentTimeUs results)) ↔
      bids.Nodup ∧ s.stagedBuffer.size + bids.length ≤ cfg.bufferCapacity := by
  set binds := results.map fun res =>
    ((layerId, res.blockId), stagedEntry layerId currentTimeUs res) with hbinds
  have hkeys : binds.map Prod.fst = bids.map fun bid => (layerId, bid) := by
    simp [hbinds, ← hids]
  have hunbound : ∀ e ∈ binds, s.stagedBuffer.get? e.1 = none := by
    intro e he
    simp only [hbinds, List.mem_map] at he
    obtain ⟨res, hres, rfl⟩ := he
    exact hnew _ (hids ▸ List.mem_map_of_mem hres)
  have hunused : ∀ e ∈ binds, StagedBlockEntry.unused e.2 = true := by
    intro e he
    simp only [hbinds, List.mem_map] at he
    obtain ⟨res, -, rfl⟩ := he
    rfl
  have hsize := Dict.size_setEach s.stagedBuffer binds hunbound
  have hcount := Dict.countValues_setEach _ s.stagedBuffer binds hunused hunbound
  have hlength : results.length = bids.length := by rw [← hids, List.length_map]
  have hdistinct : (bids.map fun bid => (layerId, bid)).toFinset.card ≤ bids.length :=
    (List.toFinset_card_le _).trans_eq (List.length_map _)
  have hconserved := hs.conserved
  simp only [getTelemetry, unaccessed] at hconserved
  rw [hkeys] at hsize hcount
  rw [← card_keys_eq_iff layerId]
  constructor
  · rintro ⟨hwithin, hreported⟩
    simp only [recordPeak, stageResults, ← hbinds, getTelemetry, unaccessed] at hwithin hreported
    omega
  · rintro ⟨hcard, hfits⟩
    refine ⟨?_, ?_⟩
    all_goals
      simp only [recordPeak, stageResults, ← hbinds, getTelemetry, unaccessed]
      omega

/-! ## Runs -/

/-- A batch that the storage answers names each block once and fits where the buffer, once a
full one has dropped its oldest block, has room. -/
def CallFits (B : StorageBackend γ) (cfg : PrefetcherConfig) (s : V2Prefetcher γ) : Call → Prop
  | .accessBlocks _ _ _ => True
  | .prefetchBlocks blockIds layerId _ =>
      let bids := wanted cfg s layerId blockIds
      (B.submitBatch s.backend (bids.map (prefetchRequest cfg layerId))).1.isOk = true →
        bids.Nodup ∧ (roomy cfg s).size + bids.length ≤ cfg.bufferCapacity

theorem accounted_prefetchBlocks_iff (hcap : 1 ≤ cfg.bufferCapacity) {s : V2Prefetcher γ}
    (hs : Accounted cfg s) (blockIds : List Int) (layerId : Int) (currentTimeUs : Rat) :
    Accounted cfg (prefetchBlocks B cfg s blockIds layerId currentTimeUs).2 ↔
      CallFits B cfg s (.prefetchBlocks blockIds layerId currentTimeUs) := by
  obtain ⟨s₁, hcollect, hrequested, hnothing⟩ := collect_spec hcap hs layerId blockIds
  obtain ⟨s₂, hevict, hbuffer, hbackend, hroom, haccounted⟩ := evictIfFull_spec hcap hs
  have hnew : ∀ bid ∈ wanted cfg s layerId blockIds, s₂.stagedBuffer.get? (layerId, bid) = none :=
    fun bid hbid => wanted_not_staged hbuffer hbid
  simp only [prefetchBlocks, hcollect, CallFits, ← hbuffer, ← hbackend]
  generalize wanted cfg s layerId blockIds = bids at hrequested hnothing hnew ⊢
  cases bids with
  | nil =>
      rw [hnothing rfl]
      simp only [List.map_nil, List.nodup_nil, List.length_nil, true_and]
      exact ⟨fun _ _ => hroom.le, fun _ => hs⟩
  | cons bid bids =>
      have hsame : s₁ = s₂ := by
        have h := hrequested (List.cons_ne_nil _ _)
        rw [hevict] at h
        cases h
        rfl
      subst hsame
      dsimp only
      have hids := @StorageBackend.submitBatch_blockIds γ B s₁.backend
        ((bid :: bids).map (prefetchRequest cfg layerId))
      revert hids
      rcases B.submitBatch s₁.backend ((bid :: bids).map (prefetchRequest cfg layerId)) with
        ⟨err | results, b⟩
      · have hkept : SameAccount s₁ { s₁ with backend := b } := ⟨rfl, rfl⟩
        simp only [Except.isOk, Except.toBool, Bool.false_eq_true, false_implies, iff_true]
        exact fun _ => hkept.accounted haccounted
      · intro hids
        have hkept : SameAccount s₁ { s₁ with backend := b } := ⟨rfl, rfl⟩
        have hnamed : results.map StorageResult.blockId = bid :: bids := by
          rw [hids rfl, List.map_map]
          exact List.map_id _
        simp only [Except.isOk, Except.toBool, true_implies]
        exact accounted_stageResults_iff (hkept.accounted haccounted) layerId currentTimeUs hnamed
          hnew

theorem accounted_call_iff (hcap : 1 ≤ cfg.bufferCapacity) {s : V2Prefetcher γ}
    (hs : Accounted cfg s) (c : Call) : Accounted cfg (call B cfg s c).2 ↔ CallFits B cfg s c := by
  cases c with
  | prefetchBlocks blockIds layerId currentTimeUs =>
      exact accounted_prefetchBlocks_iff hcap hs blockIds layerId currentTimeUs
  | accessBlocks blockIds layerId demandTimeUs =>
      have hread := (@sameAccount_accessBlocks γ B cfg s blockIds layerId demandTimeUs).accounted hs
      exact ⟨fun _ => trivial, fun _ => hread⟩

/-- The buffer stays within its capacity and the telemetry reports every request as useful or
useless throughout a run exactly when every batch names each block once and fits. -/
theorem accounted_throughout_iff (B : StorageBackend γ) (cfg : PrefetcherConfig)
    (hcap : 1 ≤ cfg.bufferCapacity) (backend : γ) (calls : List Call) :
    (∀ pre, pre <+: calls → Accounted cfg ((prefetcher B cfg).exec (init backend) pre)) ↔
      (prefetcher B cfg).Meets (CallFits B cfg) (init backend) calls :=
  (prefetcher B cfg).forall_prefix_iff_meets (I := Accounted cfg) (C := Accounted cfg)
    (fun _ hs => hs) (fun _ c hs hfits => (accounted_call_iff hcap hs c).mpr hfits)
    (fun _ c hs hnext => (accounted_call_iff hcap hs c).mp hnext) _ calls
    ⟨Nat.zero_le _, rfl⟩

/-- Two blocks staged, one of them read, and a third one in the place of the other. -/
def threeCalls : List Call :=
  [.prefetchBlocks [1, 2] 0 0, .accessBlocks [1] 0 100, .prefetchBlocks [1, 3] 0 100]

theorem accounted_throughout_three_calls :
    Accounted { bufferCapacity := 2 }
      ((prefetcher mockStorage { bufferCapacity := 2 }).exec
        (init (MockStorageBackend.create 25 200 none)) threeCalls) :=
  (accounted_throughout_iff mockStorage { bufferCapacity := 2 } (by decide)
    (MockStorageBackend.create 25 200 none) threeCalls).mpr
    ⟨fun _ => by decide +kernel, trivial, fun _ => by decide +kernel, trivial⟩ _
    (List.prefix_refl _)

/-- A buffer of one block takes a batch of two, and a block that a batch names twice is two
requests and one useless prefetch. -/
theorem batch_overfills_the_buffer :
    1 ≤ ({ bufferCapacity := 1 } : PrefetcherConfig).bufferCapacity ∧
      ¬ Accounted { bufferCapacity := 1 }
        ((prefetcher mockStorage { bufferCapacity := 1 }).exec
          (init (MockStorageBackend.create 25 200 none)) [.prefetchBlocks [1, 2] 0 0]) ∧
      ¬ Accounted { bufferCapacity := 2 }
        ((prefetcher mockStorage { bufferCapacity := 2 }).exec
          (init (MockStorageBackend.create 25 200 none)) [.prefetchBlocks [1, 1] 0 0]) :=
  ⟨by decide, fun h => absurd h.within_capacity (by decide +kernel),
    fun h => absurd h.conserved (by decide +kernel)⟩

end AiSsd.Prefetch.V2.V2Prefetcher
