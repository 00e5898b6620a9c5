import AiSsd.Api.System

/-!
# Hits after an eviction

An eviction is passed on to the storage engine only. What the prefetcher has staged of the
evicted blocks stays staged, and the next request for them hits. So evicted blocks stay out
until they are staged again exactly when none of them was staged at the eviction.
-/

namespace AiSsd.Api.AISSDSystem

open Lib

variable {σ : Type} {engine : SsdEngine σ}

def Staged (s : AISSDSystem σ) (layerId bid : Int) : Prop :=
  ∃ p ∈ s.prefetcher, p.stagedBuffer.contains (layerId, bid) = true

def StagedAgain (layerId : Int) (requests : List KVRequest) (bid : Int) : Bool :=
  requests.any fun r =>
    decide (r.operation = .kvPrefetch) && decide (r.layerId = layerId) &&
      decide (bid ∈ r.candidateBlocks)

/-- After this eviction, whatever is requested later, a request for evicted blocks of the layer
hits only if those staged again since make up the four fifths that count as staged. -/
def StaysEvicted (engine : SsdEngine σ) (s : AISSDSystem σ) (evict : KVRequest) : Prop :=
  evict.operation = .kvEvict → ∀ (later : List KVRequest) (topk : KVRequest) (resp : KVResponse),
    topk.operation = .kvTopk → topk.layerId = evict.layerId →
    (∀ bid ∈ topk.candidateBlocks, bid ∈ evict.candidateBlocks) →
    (execute engine ((machine engine).exec (execute engine s evict).2 later) topk).1 = .ok resp →
    resp.cacheHit = true →
    SpeculativePrefetcher.isHit (topk.candidateBlocks.countP (StagedAgain evict.layerId later))
      topk.candidateBlocks.length = true

def EvictsUnstaged (s : AISSDSystem σ) (evict : KVRequest) : Prop :=
  evict.operation = .kvEvict → ∀ bid ∈ evict.candidateBlocks, ¬ s.Staged evict.layerId bid

/-! ## What a request stages -/

theorem prefetcher_readLatency (s : AISSDSystem σ) (blocks : List Int) :
    (readLatency engine s blocks).2.prefetcher = s.prefetcher := by
  unfold readLatency
  split <;> rfl

theorem prefetcher_evictInEngine (s : AISSDSystem σ) (request : KVRequest) :
    (evictInEngine engine s request).2.prefetcher = s.prefetcher := by
  unfold evictInEngine
  split <;> rfl

theorem staged_checkHit {s : AISSDSystem σ} {request : KVRequest} {layerId bid : Int} :
    (s.checkHit request).2.Staged layerId bid ↔ s.Staged layerId bid := by
  unfold checkHit Staged
  cases hp : s.prefetcher with
  | none => simp [hp]
  | some p =>
      dsimp only
      split
      · rw [hp]
      · simp [SpeculativePrefetcher.stagedBuffer_isStaged]

theorem Staged.of_prefetcher {s s' : AISSDSystem σ} (h : s'.prefetcher = s.prefetcher)
    {layerId bid : Int} (hstaged : s'.Staged layerId bid) : s.Staged layerId bid := by
  unfold Staged at hstaged ⊢
  rwa [← h]

theorem staged_stage {s : AISSDSystem σ} {request : KVRequest} {layerId bid : Int}
    (h : (s.stage request).2.Staged layerId bid) :
    s.Staged layerId bid ∨ layerId = request.layerId ∧ bid ∈ request.candidateBlocks := by
  unfold stage at h
  cases hp : s.prefetcher with
  | none =>
      rw [hp] at h
      exact .inl h
  | some p =>
      rw [hp] at h
      obtain ⟨p', hp', hcontains⟩ := h
      cases hp'
      exact (SpeculativePrefetcher.contains_stageBlocks hcontains).imp_left fun hold => ⟨p, hp, hold⟩

/-- After a request a block is staged only if it was, or the request asked for it. -/
theorem staged_execute {s : AISSDSystem σ} {request : KVRequest} {layerId bid : Int}
    (h : (execute engine s request).2.Staged layerId bid) :
    s.Staged layerId bid ∨ StagedAgain layerId [request] bid = true := by
  unfold execute at h
  cases hop : request.operation with
  | kvTopk =>
      rw [hop] at h
      left
      unfold handleTopk at h
      dsimp only at h
      split at h
      · exact staged_checkHit.mp h
      · exact staged_checkHit.mp (h.of_prefetcher (prefetcher_readLatency _ _))
  | kvRead =>
      rw [hop] at h
      exact .inl (h.of_prefetcher (prefetcher_readLatency _ _))
  | kvWrite =>
      rw [hop] at h
      exact .inl h
  | kvPrefetch =>
      rw [hop] at h
      have hstage : (s.stage request).2.Staged layerId bid := by
        unfold handlePrefetch at h
        dsimp only at h
        split at h
        · rename_i hrun
          rwa [hrun]
        · rename_i hrun
          rw [hrun]
          refine h.of_prefetcher ?_
          unfold prefetchInEngine
          split <;> rfl
      refine (staged_stage hstage).imp_right fun hnew => ?_
      simp [StagedAgain, hop, hnew.1, hnew.2]
  | kvEvict =>
      rw [hop] at h
      exact .inl (h.of_prefetcher (prefetcher_evictInEngine s request))
  | other name =>
      rw [hop] at h
      exact .inl h

theorem staged_exec {s : AISSDSystem σ} {requests : List KVRequest} {layerId bid : Int}
    (h : ((machine engine).exec s requests).Staged layerId bid) :
    s.Staged layerId bid ∨ StagedAgain layerId requests bid = true := by
  induction requests generalizing s with
  | nil => exact .inl h
  | cons request requests ih =>
      unfold StagedAgain at ih ⊢
      rw [List.any_cons, Bool.or_eq_true]
      rcases ih h with hstaged | hagain
      · rcases staged_execute hstaged with hold | hnew
        · exact .inl hold
        · right
          left
          simpa [StagedAgain] using hnew
      · exact .inr (.inr hagain)

/-! ## When a request hits -/

theorem cacheHit_of_topk {s : AISSDSystem σ} {topk : KVRequest} {resp : KVResponse}
    (hop : topk.operation = .kvTopk) (h : (execute engine s topk).1 = .ok resp) :
    resp.cacheHit = (s.checkHit topk).1 := by
  unfold execute at h
  rw [hop] at h
  unfold handleTopk at h
  dsimp only at h
  split at h
  · cases h
    rfl
  · cases hlatency : (readLatency engine (s.checkHit topk).2
        (sliceTo topk.candidateBlocks (topCount topk.candidateBlocks.length topk.topK))).1 with
    | error err =>
        rw [hlatency] at h
        cases h
    | ok latencyUs =>
        rw [hlatency] at h
        cases h
        rfl

theorem checkHit_iff {s : AISSDSystem σ} {request : KVRequest} :
    (s.checkHit request).1 = true ↔
      ∃ p ∈ s.prefetcher, request.candidateBlocks ≠ [] ∧
        SpeculativePrefetcher.isHit
          (request.candidateBlocks.countP (p.isIn (some request.layerId)))
          request.candidateBlocks.length = true := by
  unfold checkHit
  cases s.prefetcher with
  | none => simp
  | some p =>
      by_cases hblocks : request.candidateBlocks = []
      · simp [hblocks]
      · simp [hblocks, SpeculativePrefetcher.isStaged_hit hblocks]

theorem isHit_of_checkHit {s : AISSDSystem σ} {request : KVRequest} {again : Int → Bool}
    (h : (s.checkHit request).1 = true)
    (hagain : ∀ bid ∈ request.candidateBlocks, s.Staged request.layerId bid → again bid = true) :
    SpeculativePrefetcher.isHit (request.candidateBlocks.countP again)
      request.candidateBlocks.length = true := by
  obtain ⟨p, hp, hblocks, hhit⟩ := checkHit_iff.mp h
  have htotal : 0 < request.candidateBlocks.length := List.length_pos_iff.mpr hblocks
  have hle : request.candidateBlocks.countP (p.isIn (some request.layerId)) ≤
      request.candidateBlocks.countP again :=
    List.countP_mono_left fun bid hbid hin => hagain bid hbid ⟨p, hp, hin⟩
  rw [SpeculativePrefetcher.isHit_iff htotal] at hhit ⊢
  omega

/-- A request for one staged block hits, whatever the engine. -/
theorem hits_of_staged {s : AISSDSystem σ} {topk : KVRequest} {bid : Int}
    (hop : topk.operation = .kvTopk) (hblocks : topk.candidateBlocks = [bid])
    (h : s.Staged topk.layerId bid) :
    ∃ resp, (execute engine s topk).1 = .ok resp ∧ resp.cacheHit = true := by
  have hhit : (s.checkHit topk).1 = true := by
    obtain ⟨p, hp, hin⟩ := h
    have hin' : p.isIn (some topk.layerId) bid = true := hin
    refine checkHit_iff.mpr ⟨p, hp, by simp [hblocks], ?_⟩
    simp [hblocks, hin', SpeculativePrefetcher.isHit_iff]
  unfold execute
  rw [hop]
  unfold handleTopk
  dsimp only
  rw [hhit]
  exact ⟨_, rfl, rfl⟩

/-! ## Evictions that stay -/

theorem staged_execute_evict {s : AISSDSystem σ} {evict : KVRequest} {layerId bid : Int}
    (hop : evict.operation = .kvEvict) :
    (execute engine s evict).2.Staged layerId bid ↔ s.Staged layerId bid := by
  have hsame : (execute engine s evict).2.prefetcher = s.prefetcher := by
    unfold execute
    rw [hop]
    exact prefetcher_evictInEngine s evict
  unfold Staged
  rw [hsame]

theorem staysEvicted_of_unstaged {s : AISSDSystem σ} {evict : KVRequest}
    (h : s.EvictsUnstaged evict) : StaysEvicted engine s evict := by
  intro hevict later topk resp htopk hlayer hblocks hok hhit
  rw [cacheHit_of_topk htopk hok] at hhit
  refine isHit_of_checkHit hhit fun bid hbid hstaged => ?_
  rw [hlayer] at hstaged
  rcases staged_exec hstaged with hold | hagain
  · exact absurd ((staged_execute_evict hevict).mp hold) (h hevict bid (hblocks bid hbid))
  · exact hagain

theorem unstaged_of_staysEvicted {s : AISSDSystem σ} {evict : KVRequest}
    (h : StaysEvicted engine s evict) : s.EvictsUnstaged evict := by
  intro hevict bid hbid hstaged
  let topk : KVRequest := { evict with operation := .kvTopk, candidateBlocks := [bid] }
  have hstill : (execute engine s evict).2.Staged topk.layerId bid :=
    (staged_execute_evict hevict).mpr hstaged
  obtain ⟨resp, hok, hhit⟩ := @hits_of_staged σ engine _ topk bid rfl rfl hstill
  have hagain := h hevict [] topk resp rfl rfl (by simpa [topk] using hbid) hok hhit
  simp [StagedAgain, topk, SpeculativePrefetcher.isHit_iff] at hagain

theorem staysEvicted_iff_evictsUnstaged (s : AISSDSystem σ) (evict : KVRequest) :
    StaysEvicted engine s evict ↔ s.EvictsUnstaged evict :=
  ⟨unstaged_of_staysEvicted, staysEvicted_of_unstaged⟩

/-- Every eviction of a run lasts exactly when each evicts only blocks that are not staged. -/
theorem evictions_last_iff (engine : SsdEngine σ) (s : AISSDSystem σ)
    (requests : List KVRequest) :
    (∀ pre evict, pre ++ [evict] <+: requests →
        StaysEvicted engine ((machine engine).exec s pre) evict) ↔
      (machine engine).Meets EvictsUnstaged s requests := by
  rw [← (machine engine).meets_iff_forall]
  exact (machine engine).meets_congr staysEvicted_iff_evictsUnstaged s requests

/-- A block staged, evicted and then asked for hits. -/
theorem evicted_still_staged :
    ¬ ∀ (pre : List KVRequest) (evict : KVRequest),
      pre ++ [evict] <+: [⟨"a", .kvPrefetch, 0, [1], none, []⟩, ⟨"b", .kvEvict, 0, [1], none, []⟩] →
        StaysEvicted ⟨none, none, none⟩
          ((machine ⟨none, none, none⟩).exec
            ⟨(), some (.init 4 4096 50)⟩ pre) evict := by
  intro h
  have hlast := h [⟨"a", .kvPrefetch, 0, [1], none, []⟩] ⟨"b", .kvEvict, 0, [1], none, []⟩
    List.prefix_rfl rfl [] ⟨"c", .kvTopk, 0, [1], none, []⟩
    (ResponseFactory.success "c" [1] 4096 4096 1 true) rfl rfl (by decide) (by decide +kernel) rfl
  exact absurd hlast (by decide +kernel)

end AiSsd.Api.AISSDSystem
