import AiSsd.Prefetch.BufferBound

/-!
# Where the prefetches go

`get_telemetry` reports as useless what was dropped unread and what is still staged unread. A
read of a staged block and the dropping of the oldest ones move a prefetch from one count to
another. An eviction of a block that nothing has read drops it from all of them, and so does
staging a block over itself.
-/

namespace AiSsd.Prefetch.Async

open Lib Numpy Storage
open Adapters (Astype)
open Adapters.TransformerKVStateProvider (floatNumerics)
open Prefetch.RealInferencePrefetchAdapter (asStored)
open Async.RealInferencePrefetchAdapter

universe v

variable {σ : Type v} {B : Backend σ} {A : Astype} {cfg : AdapterConfig}

/-- `not e.is_useful`. -/
def StagedInferenceBlock.unused (e : StagedInferenceBlock) : Bool := !e.isUseful

namespace RealInferencePrefetchAdapter

/-! ## The account -/

section Account

variable (s : RealInferencePrefetchAdapter σ)

/-- `sum(1 for e in self._staging_buffer.values() if not e.is_useful)`. -/
def unaccessedCount : Nat := s.stagingBuffer.countValues StagedInferenceBlock.unused

/-- `useless_prefetches` of `get_telemetry`. -/
def totalUseless : Nat := s.telemetry.uselessPrefetches + s.unaccessedCount

def Conserved : Prop :=
  s.telemetry.prefetchRequests = s.telemetry.usefulPrefetches + s.totalUseless

def unusedAt (key : Nat × Nat) : Bool :=
  (s.stagingBuffer.get? key).any StagedInferenceBlock.unused

end Account

instance (s : RealInferencePrefetchAdapter σ) : Decidable s.Conserved :=
  inferInstanceAs (Decidable (_ = _))

/-- `n` of the requested prefetches are reported before and not after. -/
def Loses (n : Nat) (s s' : RealInferencePrefetchAdapter σ) : Prop :=
  s'.telemetry.prefetchRequests + (s.telemetry.usefulPrefetches + s.totalUseless) =
    s.telemetry.prefetchRequests + (s'.telemetry.usefulPrefetches + s'.totalUseless) + n

namespace Loses

variable {s s' s'' : RealInferencePrefetchAdapter σ} {n m : Nat}

theorem refl (s : RealInferencePrefetchAdapter σ) : Loses 0 s s := rfl

theorem trans (h : Loses n s s') (h' : Loses m s' s'') : Loses (n + m) s s'' := by
  unfold Loses at *
  omega

theorem of_same (hbuffer : s'.stagingBuffer = s.stagingBuffer)
    (h : SamePrefetches s.telemetry s'.telemetry) : Loses 0 s s' := by
  simp only [Loses, totalUseless, unaccessedCount, hbuffer, h.requests, h.useful, h.useless,
    Nat.add_zero]

end Loses

/-! ## Reads -/

theorem unaccessed_populate (l : Nat) (batch : Dict Nat (NDArray × NDArray))
    (buffer : StagingBuffer) :
    (populate l batch buffer).countValues StagedInferenceBlock.unused =
      buffer.countValues StagedInferenceBlock.unused := by
  unfold populate
  generalize batch.entries = pairs
  induction pairs generalizing buffer with
  | nil => rfl
  | cons pair pairs ih =>
      have hone : (populateOne l buffer pair).countValues StagedInferenceBlock.unused =
          buffer.countValues StagedInferenceBlock.unused := by
        unfold populateOne
        split
        · rename_i entry hentry
          have hset := buffer.countValues_set StagedInferenceBlock.unused (l, pair.1)
            { entry with data := some pair.2, future := none }
          rw [hentry] at hset
          exact Nat.add_right_cancel hset
        · rfl
      exact (ih _).trans hone

theorem loses_resolveEntry (s : RealInferencePrefetchAdapter σ) (entry : StagedInferenceBlock) :
    Loses 0 s (resolveEntry s entry).2 := by
  unfold resolveEntry
  split
  · exact Loses.refl s
  · split
    · exact Loses.refl s
    · rename_i fetch _
      split
      · exact Loses.refl s
      · exact Loses.refl s
      · simp only [Loses, totalUseless, unaccessedCount, unaccessed_populate, Nat.add_zero]

/-- The first read of a staged block takes it from the unread ones to the useful ones. -/
theorem loses_hit {s : RealInferencePrefetchAdapter σ} {key : Nat × Nat}
    {entry : StagedInferenceBlock} (hentry : s.stagingBuffer.get? key = some entry)
    (sizeBytes : Nat) : Loses 0 s (hit s key entry sizeBytes).2 := by
  have hresolve := loses_resolveEntry s entry
  have hstaged := (readOnly_resolveEntry s entry).contains_eq key
  unfold hit
  revert hresolve hstaged
  rcases resolveEntry s entry with ⟨(_ | _) | _, s'⟩
  · exact fun h _ => h
  · intro hresolve hstaged
    have hsome : (s'.stagingBuffer.get? key).isSome := by
      rw [← Dict.contains, hstaged]
      simp [Dict.contains, hentry]
    obtain ⟨e, he⟩ := Option.isSome_iff_exists.mp hsome
    refine hresolve.trans (m := 0) ?_
    have hset := (s'.stagingBuffer.moveToEnd key).countValues_set StagedInferenceBlock.unused key
      { e with isUseful := true }
    rw [Dict.get?_moveToEnd, Dict.countValues_moveToEnd, he] at hset
    simp only [Loses, totalUseless, unaccessedCount, he, Option.getD_some, markUseful,
      AdapterTelemetry.recordHit]
    have hread : StagedInferenceBlock.unused { e with isUseful := true } = false := rfl
    have hunread : StagedInferenceBlock.unused e = !e.isUseful := rfl
    rw [hread, Option.any_some, hunread] at hset
    cases huseful : e.isUseful
    · simp only [huseful, Bool.not_false, Bool.toNat_true, Bool.toNat_false] at hset
      simp only [Bool.false_eq_true, if_false]
      omega
    · simp only [huseful, Bool.not_true, Bool.toNat_false] at hset
      simp only [if_true]
      omega
  · exact fun h _ => h

theorem countingRelation_loses : CountingRelation (@Loses σ 0) where
  refl := Loses.refl
  trans := fun h h' => h.trans h'
  counted := fun _ _ h => Loses.of_same rfl h
  ofHit := fun _ _ _ sizeBytes hentry => loses_hit hentry sizeBytes

theorem loses_fetched (s : RealInferencePrefetchAdapter σ) (b : σ) :
    Loses 0 s { s with storageBackend := b } :=
  Loses.of_same rfl (SamePrefetches.refl _)

theorem loses_readKeyPage (s : RealInferencePrefetchAdapter σ) (l b h t : Nat) :
    Loses 0 s (readKeyPage B cfg s l b h t).2 :=
  countingRelation_loses.readSingle _ _ (fun s _ _ _ _ => loses_fetched s _) s l b h t

theorem loses_readValuePage (s : RealInferencePrefetchAdapter σ) (l b h t : Nat) :
    Loses 0 s (readValuePage B cfg s l b h t).2 :=
  countingRelation_loses.readSingle _ _ (fun s _ _ _ _ => loses_fetched s _) s l b h t

theorem loses_readBlock (s : RealInferencePrefetchAdapter σ) (l b h t : Nat) :
    Loses 0 s (readBlock B cfg s l b h t).2 :=
  countingRelation_loses.readSingle _ _ (fun s _ _ _ _ => loses_fetched s _) s l b h t

theorem loses_readBatch {ρ : Type} (sizeBytes : Nat)
    (staged : List Nat → Option (NDArray × NDArray) → Except PyErr ρ)
    (batch : Option (BatchRead σ ρ)) {single : AdapterRead σ ρ}
    (hsingle : ∀ s l b h t, Loses 0 s (single s l b h t).2) (s : RealInferencePrefetchAdapter σ)
    (l : Nat) (bids : List Nat) (h t : Nat) :
    Loses 0 s (readBatch cfg sizeBytes staged batch single s l bids h t).2 :=
  countingRelation_loses.readBatch sizeBytes staged (fun _ _ s _ _ _ _ => loses_fetched s _)
    hsingle s l bids h t

/-! ## Background fetches -/

theorem loses_setFetch (s : RealInferencePrefetchAdapter σ) (future : Nat)
    (fetch : BackgroundFetch) : Loses 0 s (setFetch s future fetch) :=
  Loses.of_same rfl (SamePrefetches.refl _)

theorem loses_fetchNext (s : RealInferencePrefetchAdapter σ) (future : Nat) :
    Loses 0 s (fetchNext B cfg s future) := by
  have hread := fun l bid h t => @loses_readBlock σ B cfg s l bid h t
  have hset : ∀ {s'} (fetch : BackgroundFetch), Loses 0 s s' →
      Loses 0 s (setFetch s' future fetch) :=
    fun {s'} fetch h => h.trans (m := 0) (loses_setFetch s' future fetch)
  have hstep := @fetchStep_fetchNext σ B cfg s future
  generalize fetchNext B cfg s future = s' at hstep ⊢
  cases hstep with
  | idle => exact Loses.refl s
  | batchRaised => exact hset _ (loses_fetched s _)
  | batchRead => exact hset _ (loses_fetched s _)
  | waits => exact hset _ (hread _ _ _ _)
  | raised => exact hset _ (hread _ _ _ _)
  | took => exact hset _ (hread _ _ _ _)

theorem loses_complete (s : RealInferencePrefetchAdapter σ) (future : Nat) :
    Loses 0 s (complete s future) := by
  unfold complete
  split
  · exact Loses.refl s
  · split
    · exact loses_setFetch s future _
    · exact Loses.refl s

theorem loses_fail (s : RealInferencePrefetchAdapter σ) (future : Nat) (err : PyErr) :
    Loses 0 s (fail s future err) := by
  unfold fail
  split
  · exact Loses.refl s
  · split
    · exact loses_setFetch s future _
    · exact Loses.refl s

/-! ## Dropping and evicting -/

/-- A dropped block goes from the unread ones to the useless ones. -/
theorem counts_dropOldest (capacity fuel : Nat) (buffer : StagingBuffer) (t : AdapterTelemetry) :
    let r := dropOldest capacity fuel buffer t
    r.2.2.prefetchRequests = t.prefetchRequests ∧ r.2.2.usefulPrefetches = t.usefulPrefetches ∧
      r.2.2.uselessPrefetches + r.2.1.countValues StagedInferenceBlock.unused =
        t.uselessPrefetches + buffer.countValues StagedInferenceBlock.unused := by
  induction fuel generalizing buffer t with
  | zero => exact ⟨rfl, rfl, rfl⟩
  | succ fuel ih =>
      unfold dropOldest
      split
      · split
        · exact ⟨rfl, rfl, rfl⟩
        · rename_i key oldest rest hpop
          have hcount := Dict.countValues_popFirst? StagedInferenceBlock.unused hpop
          obtain ⟨hrequests, huseful, huseless⟩ := ih rest (countDropped t oldest)
          have hunread : StagedInferenceBlock.unused oldest = !oldest.isUseful := rfl
          rw [hunread] at hcount
          refine ⟨hrequests.trans ?_, huseful.trans ?_, huseless.trans ?_⟩
          all_goals
            unfold countDropped
            cases hread : oldest.isUseful
            all_goals
              simp only [hread, Bool.not_false, Bool.not_true, Bool.toNat_true,
                Bool.toNat_false] at hcount
              simp only [if_true, Bool.false_eq_true, if_false]
          · omega
          · omega
      · exact ⟨rfl, rfl, rfl⟩

theorem loses_ensureCapacityFor (missBids : List Nat) (s : RealInferencePrefetchAdapter σ) :
    Loses 0 s (ensureCapacityFor cfg missBids s).2 := by
  refine ensureCapacityFor_keeps Loses.refl (fun h h' => h.trans h') ?_ missBids s
  intro s
  obtain ⟨hrequests, huseful, huseless⟩ := counts_dropOldest cfg.bufferCapacityBlocks
    (s.stagingBuffer.size + 1) s.stagingBuffer s.telemetry
  simp only [Loses, totalUseless, unaccessedCount, ensureBufferCapacity]
  omega

/-- An evicted block is reported nowhere if nothing has read it. -/
theorem loses_evictBlock (s : RealInferencePrefetchAdapter σ) (l b : Nat) :
    Loses (s.unusedAt (l, b)).toNat s (evictBlock B s l b).2 := by
  have herase : Loses (s.unusedAt (l, b)).toNat s
      { s with stagingBuffer := s.stagingBuffer.erase (l, b) } := by
    have hcount := s.stagingBuffer.countValues_erase StagedInferenceBlock.unused (l, b)
    simp only [Loses, totalUseless, unaccessedCount, unusedAt]
    omega
  unfold evictBlock
  dsimp only
  repeat' split
  all_goals exact herase

theorem loses_writeBlock (s : RealInferencePrefetchAdapter σ) (l b : Nat) (k v : Payload)
    (h t : Nat) : Loses 0 s (writeBlock B A cfg s l b k v h t).2 := by
  refine Loses.of_same (writeBlock_keeps s l b k v h t).1 ?_
  unfold writeBlock
  cases asStored A cfg k with
  | error err => exact SamePrefetches.refl _
  | ok kArr =>
      cases asStored A cfg v with
      | error err => exact SamePrefetches.refl _
      | ok vArr =>
          dsimp only
          rcases delegateWrite B s.storageBackend l b kArr vArr h t with ⟨_ | _, b'⟩
          · exact ⟨rfl, rfl, rfl⟩
          · exact ⟨rfl, rfl, rfl⟩

/-! ## Staging -/

/-- Staging a block over its unread self leaves one request to two prefetches. -/
theorem loses_stage (s : RealInferencePrefetchAdapter σ) (l bid h : Nat)
    (data : Option (NDArray × NDArray)) (future : Option Nat) :
    Loses (s.unusedAt (l, bid)).toNat s (stage cfg s l bid h data future) := by
  unfold stage
  dsimp only
  have hcount := s.stagingBuffer.countValues_set StagedInferenceBlock.unused (l, bid)
    { blockId := bid, layerId := l, headId := h, sizeBytes := cfg.bytesPerBlock, data := data,
      future := future, isUseful := false, metadata := s.blockMeta.get? (l, bid) }
  have hnew : StagedInferenceBlock.unused
      { blockId := bid, layerId := l, headId := h, sizeBytes := cfg.bytesPerBlock, data := data,
        future := future, isUseful := false, metadata := s.blockMeta.get? (l, bid) } = true := rfl
  rw [hnew, Bool.toNat_true] at hcount
  simp only [Loses, totalUseless, unaccessedCount, unusedAt]
  omega

theorem unusedAt_stage (s : RealInferencePrefetchAdapter σ) (l bid h b : Nat)
    (data : Option (NDArray × NDArray)) (future : Option Nat) :
    (stage cfg s l bid h data future).unusedAt (l, b) =
      if b = bid then true else s.unusedAt (l, b) := by
  simp only [unusedAt, stage, Dict.get?_set, Prod.mk.injEq, true_and, eq_comm (a := bid)]
  split
  · rfl
  · rfl

structure SameSource (s s' : RealInferencePrefetchAdapter σ) : Prop where
  backend_eq : s'.storageBackend = s.storageBackend
  meta_eq : s'.blockMeta = s.blockMeta
  payloads_eq : s'.blockPayloads = s.blockPayloads

theorem fetchForStaging_congr {s s' : RealInferencePrefetchAdapter σ} (hs : SameSource s s')
    (fetched : Dict Nat (NDArray × NDArray)) (l bid h t : Nat) :
    (fetchForStaging B cfg fetched s' l bid h t).1 = (fetchForStaging B cfg fetched s l bid h t).1 ∧
      SameSource (fetchForStaging B cfg fetched s l bid h t).2
        (fetchForStaging B cfg fetched s' l bid h t).2 := by
  unfold fetchForStaging
  split
  · exact ⟨rfl, hs⟩
  · simp only [metaShape, fetchMiss, hs.backend_eq, hs.meta_eq, hs.payloads_eq]
    exact ⟨trivial, rfl, rfl, rfl⟩

variable (B cfg) in
def fetchable (fetched : Dict Nat (NDArray × NDArray)) (layerId headId tokenStart : Nat) :
    List Nat → RealInferencePrefetchAdapter σ → List Nat
  | [], _ => []
  | bid :: bids, s =>
      match fetchForStaging B cfg fetched s layerId bid headId tokenStart with
      | (.error _, _) => []
      | (.ok _, s) => bid :: fetchable fetched layerId headId tokenStart bids s

variable (B cfg) in
def stageable (s : RealInferencePrefetchAdapter σ) (layerId : Nat) (missBids : List Nat)
    (headId tokenStart : Nat) : List Nat :=
  match fetchBlocks B s.storageBackend layerId missBids headId tokenStart with
  | (.error _, _) => []
  | (.ok fetched, b) =>
      fetchable B cfg fetched layerId headId tokenStart missBids { s with storageBackend := b }

theorem fetchable_congr (fetched : Dict Nat (NDArray × NDArray)) (l h t : Nat) (bids : List Nat)
    {s s' : RealInferencePrefetchAdapter σ} (hs : SameSource s s') :
    fetchable B cfg fetched l h t bids s' = fetchable B cfg fetched l h t bids s := by
  induction bids generalizing s s' with
  | nil => rfl
  | cons bid bids ih =>
      obtain ⟨hresult, hnext⟩ := @fetchForStaging_congr σ B cfg s s' hs fetched l bid h t
      unfold fetchable
      revert hresult hnext
      rcases fetchForStaging B cfg fetched s l bid h t with ⟨_ | kv, s₁⟩
      · rcases fetchForStaging B cfg fetched s' l bid h t with ⟨_ | kv', s₁'⟩
        · exact fun _ _ => rfl
        · rintro ⟨⟩
      · rcases fetchForStaging B cfg fetched s' l bid h t with ⟨_ | kv', s₁'⟩
        · rintro ⟨⟩
        · intro _ hnext
          exact congrArg (bid :: ·) (ih hnext)

theorem fetchable_isPrefix (fetched : Dict Nat (NDArray × NDArray)) (l h t : Nat) (bids : List Nat)
    (s : RealInferencePrefetchAdapter σ) : fetchable B cfg fetched l h t bids s <+: bids := by
  induction bids generalizing s with
  | nil => exact List.nil_prefix
  | cons bid bids ih =>
      unfold fetchable
      split
      · exact List.nil_prefix
      · exact List.cons_prefix_cons.mpr ⟨rfl, ih _⟩

/-- A synchronous prefetch loses one for each block that it stages over its unread self. -/
theorem loses_stageEach (fetched : Dict Nat (NDArray × NDArray)) (l h t : Nat)
    (bids dispatched : List Nat) (s : RealInferencePrefetchAdapter σ) :
    ∃ n, Loses n s (stageEach B cfg fetched l h t bids dispatched s).2 ∧
      (n = 0 ↔ (fetchable B cfg fetched l h t bids s).Nodup ∧
        ∀ b ∈ fetchable B cfg fetched l h t bids s, s.unusedAt (l, b) = false) := by
  induction bids generalizing dispatched s with
  | nil =>
      refine ⟨0, Loses.of_same rfl ⟨rfl, rfl, rfl⟩, ?_⟩
      simp [fetchable]
  | cons bid bids ih =>
      have hbuffer := @fetchForStaging_buffer σ B cfg fetched s l bid h t
      have htelemetry : (fetchForStaging B cfg fetched s l bid h t).2.telemetry = s.telemetry := by
        unfold fetchForStaging
        split
        · rfl
        · rfl
      unfold stageEach fetchable
      revert hbuffer htelemetry
      rcases fetchForStaging B cfg fetched s l bid h t with ⟨_ | kv, s'⟩
      · intro hbuffer htelemetry
        refine ⟨0, Loses.of_same hbuffer ?_, by simp⟩
        dsimp only at htelemetry ⊢
        rw [htelemetry]
        exact SamePrefetches.refl _
      · intro hbuffer htelemetry
        dsimp only at hbuffer htelemetry ⊢
        have hfetch : Loses 0 s s' := Loses.of_same hbuffer (htelemetry ▸ SamePrefetches.refl _)
        have hstage := @loses_stage σ cfg s' l bid h (some kv) none
        obtain ⟨n, hrest, hn⟩ := ih (dispatched ++ [bid]) (stage cfg s' l bid h (some kv) none)
        have hsource : SameSource s' (stage cfg s' l bid h (some kv) none) := ⟨rfl, rfl, rfl⟩
        rw [fetchable_congr fetched l h t bids hsource] at hn
        have hunused : ∀ b, s'.unusedAt (l, b) = s.unusedAt (l, b) := by
          intro b
          simp only [unusedAt, hbuffer]
        refine ⟨_, (hfetch.trans hstage).trans hrest, ?_⟩
        simp only [unusedAt_stage, hunused] at hn ⊢
        generalize fetchable B cfg fetched l h t bids s' = staged at hn ⊢
        -- what is staged first is unread when the others are staged
        have hothers : (∀ b ∈ staged, (if b = bid then true else s.unusedAt (l, b)) = false) ↔
            bid ∉ staged ∧ ∀ b ∈ staged, s.unusedAt (l, b) = false := by
          constructor
          · intro hall
            refine ⟨fun hmem => by simpa using hall bid hmem, fun b hb => ?_⟩
            have hb' := hall b hb
            split at hb'
            · cases hb'
            · exact hb'
          · rintro ⟨hnot, hall⟩ b hb
            rw [if_neg fun (heq : b = bid) => hnot (heq ▸ hb)]
            exact hall b hb
        rw [List.nodup_cons, List.forall_mem_cons, Nat.zero_add, Nat.add_eq_zero_iff, hn, hothers,
          Bool.toNat_eq_zero]
        tauto

theorem loses_prefetchSync {s : RealInferencePrefetchAdapter σ} {l : Nat} {missBids : List Nat}
    (hmiss : ∀ b ∈ missBids, s.unusedAt (l, b) = false) (h t : Nat) :
    ∃ n, Loses n s (prefetchSync B cfg s l missBids h t).2 ∧
      (n = 0 ↔ (stageable B cfg s l missBids h t).Nodup) := by
  unfold prefetchSync stageable
  rcases fetchBlocks B s.storageBackend l missBids h t with ⟨_ | fetched, b'⟩
  · exact ⟨0, loses_fetched s b', by simp⟩
  · obtain ⟨n, hloses, hn⟩ := @loses_stageEach σ B cfg fetched l h t missBids []
      { s with storageBackend := b' }
    refine ⟨_, (loses_fetched s b').trans hloses, ?_⟩
    dsimp only
    rw [Nat.zero_add, hn, and_iff_left_iff_imp]
    intro _ b hb
    exact hmiss b ((fetchable_isPrefix fetched l h t missBids _).subset hb)

/-- A buffer without room for a block is popped until that raises. -/
theorem dropOldest_zero (fuel : Nat) (buffer : StagingBuffer) (t : AdapterTelemetry)
    (hfuel : buffer.size < fuel) : (dropOldest 0 fuel buffer t).1 ≠ .ok () := by
  induction fuel generalizing buffer t with
  | zero => omega
  | succ fuel ih =>
      unfold dropOldest
      rw [if_pos (Nat.zero_le _)]
      cases hpop : buffer.popFirst? with
      | none =>
          rintro ⟨⟩
      | some popped =>
          obtain ⟨⟨key, oldest⟩, rest⟩ := popped
          have hsize := Dict.size_of_popFirst? hpop
          exact ih rest (countDropped t oldest) (by omega)

theorem ensureCapacityFor_zero (hcap : cfg.bufferCapacityBlocks = 0) {missBids : List Nat}
    (hne : missBids ≠ []) (s : RealInferencePrefetchAdapter σ) :
    (ensureCapacityFor cfg missBids s).1 ≠ .ok () := by
  cases missBids with
  | nil => exact absurd rfl hne
  | cons bid missBids =>
      have hraises : (ensureBufferCapacity cfg s).1 ≠ .ok () := by
        unfold ensureBufferCapacity
        rw [hcap]
        exact dropOldest_zero _ s.stagingBuffer s.telemetry (Nat.lt_succ_self _)
      unfold ensureCapacityFor
      revert hraises
      rcases ensureBufferCapacity cfg s with ⟨_ | _, s'⟩
      · exact fun _ herr => by cases herr
      · exact fun hraises => absurd rfl hraises

theorem contains_ensureCapacityFor (missBids : List Nat) {s : RealInferencePrefetchAdapter σ}
    {key : Nat × Nat} (h : s.stagingBuffer.contains key = false) :
    (ensureCapacityFor cfg missBids s).2.stagingBuffer.contains key = false :=
  ensureCapacityFor_keeps
    (R := fun s s' => s.stagingBuffer.contains key = false → s'.stagingBuffer.contains key = false)
    (fun _ => id) (fun h h' => h' ∘ h) (fun _ h => contains_dropOldest _ _ _ _ h) missBids s h

theorem contains_of_missing {s : RealInferencePrefetchAdapter σ} {l b : Nat} {bids : List Nat}
    (hb : b ∈ missing s l bids) : s.stagingBuffer.contains (l, b) = false := by
  simpa [missing] using (List.mem_filter.mp hb).2

theorem unusedAt_of_contains {s : RealInferencePrefetchAdapter σ} {key : Nat × Nat}
    (h : s.stagingBuffer.contains key = false) : s.unusedAt key = false := by
  rw [Dict.contains, Option.isSome_eq_false_iff, Option.isNone_iff_eq_none] at h
  rw [unusedAt, h]
  rfl

theorem ensureCapacityFor_source (missBids : List Nat) (s : RealInferencePrefetchAdapter σ) :
    SameSource s (ensureCapacityFor cfg missBids s).2 := by
  refine ensureCapacityFor_keeps (fun _ => ⟨rfl, rfl, rfl⟩) ?_ (fun _ => ⟨rfl, rfl, rfl⟩) missBids s
  intro s s' s'' h h'
  exact ⟨h'.1.trans h.1, h'.2.trans h.2, h'.3.trans h.3⟩

theorem stageable_isPrefix (s : RealInferencePrefetchAdapter σ) (l : Nat) (missBids : List Nat)
    (h t : Nat) : stageable B cfg s l missBids h t <+: missBids := by
  unfold stageable
  split
  · exact List.nil_prefix
  · exact fetchable_isPrefix _ l h t missBids _

theorem stageable_congr {s s' : RealInferencePrefetchAdapter σ} (hs : SameSource s s') (l : Nat)
    (missBids : List Nat) (h t : Nat) :
    stageable B cfg s' l missBids h t = stageable B cfg s l missBids h t := by
  unfold stageable
  rw [hs.backend_eq]
  rcases fetchBlocks B s.storageBackend l missBids h t with ⟨_ | fetched, b'⟩
  · rfl
  · exact fetchable_congr fetched l h t missBids ⟨rfl, hs.meta_eq, hs.payloads_eq⟩

theorem conserved_iff_of_loses {a s : RealInferencePrefetchAdapter σ} {n : Nat}
    (h : Loses n (resetStats B a) s) : s.Conserved ↔ n = 0 := by
  have hfirst : (resetStats B a).telemetry.prefetchRequests = 0 ∧
      (resetStats B a).telemetry.usefulPrefetches + (resetStats B a).totalUseless = 0 := ⟨rfl, rfl⟩
  unfold Loses at h
  unfold Conserved
  omega

end RealInferencePrefetchAdapter

namespace Pipeline

/-! ## Prefetches -/

theorem loses_prefetch (s : RealInferencePrefetchAdapter σ) (bids : List Nat) (l h t : Nat)
    (isAsync : Bool) (layer : Option Nat) :
    ∃ n, Loses n s (prefetch B cfg s bids l h t isAsync layer).2.adapter ∧
      (n = 0 ↔ (isAsync = false → 0 < cfg.bufferCapacityBlocks →
        (stageable B cfg s l (missing s l bids) h t).Nodup)) := by
  unfold prefetch
  dsimp only
  split
  · rename_i hnil
    have hnone : stageable B cfg s l [] h t = [] := by
      unfold stageable
      split
      · rfl
      · rfl
    refine ⟨0, Loses.refl s, ?_⟩
    simp [hnil, hnone]
  · rename_i hne
    have hloses := @loses_ensureCapacityFor σ cfg (missing s l bids) s
    have hsource := @ensureCapacityFor_source σ cfg (missing s l bids) s
    by_cases hcap : 0 < cfg.bufferCapacityBlocks
    · obtain ⟨hok, hroomy⟩ := ensureCapacityFor_roomy hcap hne s
      revert hok hroomy hloses hsource
      rcases ensureCapacityFor cfg (missing s l bids) s with ⟨_ | _, s'⟩
      · intro _ _ hok
        cases hok
      · intro hloses hsource _ hroomy
        cases isAsync with
        | true =>
            have hsubmit : Loses 0 s' (submit s' l (missing s l bids) h t) :=
              Loses.of_same rfl (SamePrefetches.refl _)
            exact ⟨0, hloses.trans (m := 0) hsubmit, by simp⟩
        | false =>
            have hmiss : ∀ b ∈ missing s l bids, s'.unusedAt (l, b) = false :=
              fun b hb => unusedAt_of_contains (hroomy.stays (l, b) (contains_of_missing hb))
            obtain ⟨n, hsync, hn⟩ := @loses_prefetchSync σ B cfg s' l _ hmiss h t
            rw [stageable_congr hsource] at hn
            refine ⟨_, hloses.trans hsync, ?_⟩
            simp [hn, hcap]
    · have hraises := ensureCapacityFor_zero (Nat.eq_zero_of_not_pos hcap) hne s
      refine ⟨0, ?_, by simp [hcap]⟩
      revert hraises hloses
      rcases ensureCapacityFor cfg (missing s l bids) s with ⟨_ | _, s'⟩
      · exact fun hloses _ => hloses
      · exact fun _ hraises => absurd rfl hraises

theorem nodup_predicted {p p' : NextLayerPredictor} {l : Nat} {bids : List Nat} {stride layer : Nat}
    {predicted : List Nat}
    (h : p.predictNextLayerBlocks l bids stride = (.ok (layer, predicted), p')) :
    predicted.Nodup := by
  have hall : ∀ (bids acc : List Nat), acc.Nodup → (bids.foldl (fun predicted bid =>
      if bid + stride ∈ predicted then predicted else predicted ++ [bid + stride]) acc).Nodup := by
    intro bids
    induction bids with
    | nil => exact fun _ hacc => hacc
    | cons bid bids ih =>
        intro acc hacc
        refine ih _ ?_
        dsimp only
        split
        · exact hacc
        · rename_i hnew
          exact hacc.append (List.nodup_singleton _) (List.disjoint_singleton.mpr hnew)
  unfold NextLayerPredictor.predictNextLayerBlocks at h
  split at h
  · cases h
  · cases h
    exact hall bids [] List.nodup_nil

theorem loses_predictAndPrefetch (s : RealInferencePrefetchAdapter σ) (l : Nat) (bids : List Nat)
    (stride : Nat) (isAsync : Bool) :
    Loses 0 s (predictAndPrefetch B cfg s l bids stride isAsync).2.adapter := by
  unfold predictAndPrefetch
  rcases hp : s.predictor.predictNextLayerBlocks l bids stride with ⟨_ | ⟨layer, predicted⟩, p⟩
  · exact Loses.of_same rfl (SamePrefetches.refl _)
  · have hpredict : Loses 0 s { s with predictor := p } :=
      Loses.of_same rfl (SamePrefetches.refl _)
    obtain ⟨n, hloses, hn⟩ := @loses_prefetch σ B cfg { s with predictor := p } predicted layer 0 0
      isAsync (some layer)
    have hnone : n = 0 := by
      refine hn.mpr fun _ _ => ?_
      exact (stageable_isPrefix _ _ _ _ _).sublist.nodup ((nodup_predicted hp).filter _)
    subst hnone
    exact hpredict.trans (m := 0) hloses

/-! ## Calls and events -/

variable (B cfg) in
/-- An eviction meets no unread block, and the blocks that a synchronous prefetch gets to stage
are different ones. -/
def CallLosesNothing (s : RealInferencePrefetchAdapter σ) : Call → Prop
  | .prefetch bids l h t isAsync =>
      isAsync = false → 0 < cfg.bufferCapacityBlocks →
        (stageable B cfg s l (missing s l bids) h t).Nodup
  | .evictBlock l b => s.unusedAt (l, b) = false
  | _ => True

variable (B cfg) in
/-- The same of an event. An asynchronous prefetch registers no entry over an unread one. -/
def LosesNothing (s : Pipeline σ) : Event → Prop
  | .call c => s.registration = none → CallLosesNothing B cfg s.adapter c
  | .registerNext => ∀ r bid rest, s.registration = some r → r.remaining = bid :: rest →
      s.adapter.unusedAt (r.layerId, bid) = false
  | _ => True

theorem loses_call (s : RealInferencePrefetchAdapter σ) {c : Call} (hreset : c ≠ .resetStats) :
    ∃ n, Loses n s (call B A cfg s c).2.adapter ∧ (n = 0 ↔ CallLosesNothing B cfg s c) := by
  have hread : ∀ {r : Outcome Answer × RealInferencePrefetchAdapter σ}, Loses 0 s r.2 →
      ∃ n, Loses n s (finished r).2.adapter ∧ (n = 0 ↔ True) :=
    fun hr => ⟨0, hr, iff_of_true rfl trivial⟩
  cases c with
  | writeBlock l b k v h t => exact hread (loses_writeBlock s l b k v h t)
  | prefetch bids l h t isAsync => exact loses_prefetch s bids l h t isAsync none
  | predictAndPrefetch l bids stride isAsync =>
      exact ⟨0, loses_predictAndPrefetch s l bids stride isAsync, iff_of_true rfl trivial⟩
  | readKeyPage l b h t => exact hread (loses_readKeyPage s l b h t)
  | readValuePage l b h t => exact hread (loses_readValuePage s l b h t)
  | readBlock l b h t => exact hread (loses_readBlock s l b h t)
  | readKeyPageBatch l bs h t => exact hread (loses_readBatch _ _ _ loses_readKeyPage s l bs h t)
  | readValuePageBatch l bs h t =>
      exact hread (loses_readBatch _ _ _ loses_readValuePage s l bs h t)
  | readBlockBatch l bs h t => exact hread (loses_readBatch _ _ _ loses_readBlock s l bs h t)
  | evictBlock l b => exact ⟨_, loses_evictBlock s l b, Bool.toNat_eq_zero⟩
  | resetStats => exact absurd rfl hreset

theorem loses_registerNext (s : Pipeline σ) :
    ∃ n, Loses n s.adapter (registerNext cfg s).2.adapter ∧
      (n = 0 ↔ LosesNothing B cfg s .registerNext) := by
  unfold registerNext
  split
  · rename_i hnone
    refine ⟨0, Loses.refl _, iff_of_true rfl ?_⟩
    intro r bid rest hr
    cases hnone.symm.trans hr
  · rename_i r hr
    split
    · rename_i hnil
      refine ⟨0, Loses.refl _, iff_of_true rfl ?_⟩
      intro r' bid rest hr' hrest
      cases hr.symm.trans hr'
      cases hnil.symm.trans hrest
    · rename_i bid rest hrest
      have hstage := @loses_stage σ cfg s.adapter r.layerId bid r.headId none (some r.future)
      refine ⟨(s.adapter.unusedAt (r.layerId, bid)).toNat, ?_, ?_⟩
      · dsimp only
        split
        · exact hstage.trans (m := 0) (Loses.of_same rfl ⟨rfl, rfl, rfl⟩)
        · exact hstage
      · rw [Bool.toNat_eq_zero]
        constructor
        · intro hunread r' bid' rest' hr' hrest'
          cases hr.symm.trans hr'
          cases hrest.symm.trans hrest'
          exact hunread
        · exact fun hall => hall r bid rest hr hrest

theorem loses_step (s : Pipeline σ) {event : Event} (hreset : event ≠ .call .resetStats) :
    ∃ n, Loses n s.adapter (step B A cfg s event).2.adapter ∧
      (n = 0 ↔ LosesNothing B cfg s event) := by
  cases event with
  | call c =>
      unfold step
      dsimp only
      split
      · rename_i hidle
        obtain ⟨n, hloses, hn⟩ := @loses_call σ B A cfg s.adapter c fun heq => hreset (heq ▸ rfl)
        refine ⟨n, hloses, hn.trans ?_⟩
        simp [LosesNothing, Option.isNone_iff_eq_none.mp hidle]
      · rename_i hbusy
        refine ⟨0, Loses.refl _, iff_of_true rfl ?_⟩
        intro hnone
        exact absurd (Option.isNone_iff_eq_none.mpr hnone) hbusy
  | registerNext => exact loses_registerNext s
  | fetchNext future => exact ⟨0, loses_fetchNext s.adapter future, iff_of_true rfl trivial⟩
  | complete future => exact ⟨0, loses_complete s.adapter future, iff_of_true rfl trivial⟩
  | fail future err => exact ⟨0, loses_fail s.adapter future err, iff_of_true rfl trivial⟩

theorem loses_exec (s : Pipeline σ) {events : List Event}
    (hreset : ∀ e ∈ events, e ≠ .call .resetStats) :
    ∃ n, Loses n s.adapter ((machine B A cfg).exec s events).adapter ∧
      (n = 0 ↔ (machine B A cfg).Meets (LosesNothing B cfg) s events) := by
  induction events generalizing s with
  | nil => exact ⟨0, Loses.refl _, iff_of_true rfl trivial⟩
  | cons event events ih =>
      rw [List.forall_mem_cons] at hreset
      obtain ⟨n, hstep, hn⟩ := @loses_step σ B A cfg s event hreset.1
      obtain ⟨m, hrest, hm⟩ := ih (step B A cfg s event).2 hreset.2
      refine ⟨n + m, hstep.trans hrest, ?_⟩
      rw [Nat.add_eq_zero_iff, hn, hm]
      rfl

/-- From a reset on, every prefetch is reported as useful or useless exactly as long as no
eviction meets an unread block and no prefetch stages a block over its unread self. -/
theorem prefetches_conserved_iff (B : Backend σ) (A : Astype) (cfg : AdapterConfig)
    (a : RealInferencePrefetchAdapter σ) (events : List Event)
    (hreset : ∀ e ∈ events, e ≠ .call .resetStats) :
    ((machine B A cfg).exec ⟨resetStats B a, none⟩ events).adapter.Conserved ↔
      (machine B A cfg).Meets (LosesNothing B cfg) ⟨resetStats B a, none⟩ events := by
  obtain ⟨n, hloses, hn⟩ := @loses_exec σ B A cfg ⟨resetStats B a, none⟩ events hreset
  rw [conserved_iff_of_loses hloses, hn]

/-! ## Three runs -/

def twoBlockConfig : AdapterConfig := { oneBlockConfig with bufferCapacityBlocks := 2 }

def roomForTwo : Pipeline FileStorageBackend where
  adapter := resetStats fileStorage (RealInferencePrefetchAdapter.init twoBlockConfig (.create 2))
  registration := none

/-- Of two prefetched blocks one is read and then evicted, the other is still staged. -/
def readThenEvicted : List Event :=
  [.call (.prefetch [0, 1] 0 0 0 false), .call (.readBlock 0 0 0 0), .call (.evictBlock 0 0)]

theorem prefetches_conserved_iff_read_first :
    ((machine fileStorage floatNumerics.toAstype twoBlockConfig).exec roomForTwo
      readThenEvicted).adapter.Conserved := by
  refine (prefetches_conserved_iff fileStorage floatNumerics.toAstype twoBlockConfig
    (RealInferencePrefetchAdapter.init twoBlockConfig (.create 2)) readThenEvicted ?_).mpr
      ⟨?_, fun _ => trivial, ?_, trivial⟩
  · intro e he
    simp only [readThenEvicted, List.mem_cons, List.not_mem_nil, or_false] at he
    rcases he with rfl | rfl | rfl
    · intro h
      cases h
    · intro h
      cases h
    · intro h
      cases h
  · intro _ _ _
    decide +kernel
  · intro _
    show unusedAt _ _ = false
    decide +kernel

/-- One prefetch is evicted unread, one of two is staged over the other: neither is reported. -/
theorem unread_block_is_lost :
    let evicted := ((machine fileStorage floatNumerics.toAstype twoBlockConfig).exec roomForTwo
      [.call (.prefetch [0] 0 0 0 false), .call (.evictBlock 0 0)]).adapter
    let twice := ((machine fileStorage floatNumerics.toAstype twoBlockConfig).exec roomForTwo
      [.call (.prefetch [0, 0] 0 0 0 false)]).adapter
    evicted.telemetry.prefetchRequests = 1 ∧ evicted.telemetry.usefulPrefetches = 0 ∧
      evicted.totalUseless = 0 ∧ ¬ evicted.Conserved ∧
      twice.telemetry.prefetchRequests = 2 ∧ twice.telemetry.usefulPrefetches = 0 ∧
      twice.totalUseless = 1 ∧ ¬ twice.Conserved := by
  decide +kernel

end Pipeline

end AiSsd.Prefetch.Async
