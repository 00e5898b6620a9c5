import AiSsd.Adapters.ActiveState
import AiSsd.Prefetch.AsyncReads
import AiSsd.Prefetch.FileStore
import Mathlib.Data.Finset.Card

/-!
# The bound on the staging buffer

A prefetch makes room before it stages anything, each time for one block. So the buffer
stays within its capacity exactly as far as the blocks a prefetch is missing fit beside
what that leaves: the buffer as it was, or one below its capacity when it was full.
-/

namespace AiSsd.Prefetch.Async

open Lib Numpy Storage
open Adapters (Astype)
open Adapters.TransformerKVStateProvider (floatNumerics)
open Async.RealInferencePrefetchAdapter

universe v

variable {σ : Type v} {B : Backend σ} {A : Astype} {cfg : AdapterConfig}

namespace RealInferencePrefetchAdapter

def unstaged (s : RealInferencePrefetchAdapter σ) (layerId : Nat) (blockIds : List Nat) :
    Finset Nat :=
  (missing s layerId blockIds).toFinset

theorem mem_unstaged (s : RealInferencePrefetchAdapter σ) (l : Nat) (bids : List Nat) (b : Nat) :
    b ∈ s.unstaged l bids ↔ b ∈ bids ∧ s.stagingBuffer.contains (l, b) = false := by
  simp [unstaged, missing]

theorem unstaged_congr {s s' : RealInferencePrefetchAdapter σ}
    (h : ∀ key, s'.stagingBuffer.contains key = s.stagingBuffer.contains key) (l : Nat)
    (bids : List Nat) : s'.unstaged l bids = s.unstaged l bids := by
  ext b
  rw [mem_unstaged, mem_unstaged, h]

/-! ## Making room -/

/-- Popping until there is room leaves the smaller of the buffer and what is below the capacity. -/
theorem size_dropOldest (capacity fuel : Nat) (buffer : StagingBuffer) (t : AdapterTelemetry)
    (hcap : 0 < capacity) (hfuel : buffer.size < fuel) :
    (dropOldest capacity fuel buffer t).1 = .ok () ∧
      (dropOldest capacity fuel buffer t).2.1.size = min buffer.size (capacity - 1) := by
  induction fuel generalizing buffer t with
  | zero => omega
  | succ fuel ih =>
      unfold dropOldest
      by_cases hfull : buffer.size ≥ capacity
      · rw [if_pos hfull]
        cases hpop : buffer.popFirst? with
        | none =>
            have hempty := Dict.popFirst?_eq_none hpop
            omega
        | some popped =>
            obtain ⟨⟨key, oldest⟩, rest⟩ := popped
            have hsize := Dict.size_of_popFirst? hpop
            obtain ⟨hok, hrest⟩ := ih rest (countDropped t oldest) (by omega)
            refine ⟨hok, hrest.trans ?_⟩
            omega
      · rw [if_neg hfull]
        refine ⟨rfl, ?_⟩
        show buffer.size = _
        omega

/-- Dropping the oldest blocks stages nothing new. -/
theorem contains_dropOldest (capacity fuel : Nat) (buffer : StagingBuffer) (t : AdapterTelemetry)
    {key : Nat × Nat} (h : buffer.contains key = false) :
    (dropOldest capacity fuel buffer t).2.1.contains key = false := by
  cases hentry : (dropOldest capacity fuel buffer t).2.1.get? key with
  | none => simp [Dict.contains, hentry]
  | some entry =>
      have hold := get?_dropOldest capacity fuel buffer t hentry
      simp [Dict.contains, hold] at h

/-- What making room for a list of misses leaves. -/
structure Roomy (cfg : AdapterConfig) (s s' : RealInferencePrefetchAdapter σ) : Prop where
  size_le : s'.stagingBuffer.size ≤ s.stagingBuffer.size
  room : s'.stagingBuffer.size ≤ cfg.bufferCapacityBlocks - 1
  stays : ∀ key, s.stagingBuffer.contains key = false → s'.stagingBuffer.contains key = false

theorem ensureBufferCapacity_roomy (hcap : 0 < cfg.bufferCapacityBlocks)
    (s : RealInferencePrefetchAdapter σ) :
    (ensureBufferCapacity cfg s).1 = .ok () ∧ Roomy cfg s (ensureBufferCapacity cfg s).2 := by
  obtain ⟨hok, hsize⟩ := size_dropOldest cfg.bufferCapacityBlocks (s.stagingBuffer.size + 1)
    s.stagingBuffer s.telemetry hcap (Nat.lt_succ_self _)
  refine ⟨hok, ?_, ?_, fun key hkey => contains_dropOldest _ _ _ _ hkey⟩
  · exact hsize.trans_le (Nat.min_le_left _ _)
  · exact hsize.trans_le (Nat.min_le_right _ _)

theorem ensureCapacityFor_roomy (hcap : 0 < cfg.bufferCapacityBlocks) {missBids : List Nat}
    (hne : missBids ≠ []) (s : RealInferencePrefetchAdapter σ) :
    (ensureCapacityFor cfg missBids s).1 = .ok () ∧
      Roomy cfg s (ensureCapacityFor cfg missBids s).2 := by
  induction missBids generalizing s with
  | nil => exact absurd rfl hne
  | cons bid missBids ih =>
      obtain ⟨hok, hroomy⟩ := ensureBufferCapacity_roomy hcap s
      unfold ensureCapacityFor
      rcases hstep : ensureBufferCapacity cfg s with ⟨_ | _, s'⟩
      · rw [hstep] at hok
        cases hok
      · rw [hstep] at hroomy
        by_cases hnil : missBids = []
        · subst hnil
          exact ⟨rfl, hroomy⟩
        · obtain ⟨hok', hroomy'⟩ := ih hnil s'
          exact ⟨hok', hroomy'.size_le.trans hroomy.size_le, hroomy'.room,
            fun key hkey => hroomy'.stays key (hroomy.stays key hkey)⟩

/-! ## Staging -/

/-- Staging a block takes it from the missing ones and adds it to the staged. -/
theorem size_stage (s : RealInferencePrefetchAdapter σ) (l bid h : Nat)
    (data : Option (NDArray × NDArray)) (future : Option Nat) (bids : List Nat) :
    (stage cfg s l bid h data future).stagingBuffer.size +
        ((stage cfg s l bid h data future).unstaged l bids).card =
      s.stagingBuffer.size + (s.unstaged l (bid :: bids)).card := by
  have hmem : ∀ b, b ∈ (stage cfg s l bid h data future).unstaged l bids ↔
      b ∈ s.unstaged l (bid :: bids) ∧ b ≠ bid := by
    intro b
    simp only [mem_unstaged, stage, Dict.contains_set, List.mem_cons, Bool.or_eq_false_iff,
      decide_eq_false_iff_not, Prod.mk.injEq, true_and]
    constructor
    · rintro ⟨hb, hne, hc⟩
      exact ⟨⟨Or.inr hb, hc⟩, fun heq => hne heq.symm⟩
    · rintro ⟨⟨hb | hb, hc⟩, hne⟩
      · exact absurd hb hne
      · exact ⟨hb, fun heq => hne heq.symm, hc⟩
  have herase : (stage cfg s l bid h data future).unstaged l bids =
      (s.unstaged l (bid :: bids)).erase bid := by
    ext b
    rw [hmem, Finset.mem_erase, and_comm]
  have hsize : (stage cfg s l bid h data future).stagingBuffer.size =
      if s.stagingBuffer.contains (l, bid) then s.stagingBuffer.size
      else s.stagingBuffer.size + 1 := Dict.size_set _ _ _
  rw [herase, hsize]
  by_cases hstaged : s.stagingBuffer.contains (l, bid) = true
  · have hnot : bid ∉ s.unstaged l (bid :: bids) := by simp [mem_unstaged, hstaged]
    rw [if_pos hstaged, Finset.erase_eq_of_notMem hnot]
  · have hin : bid ∈ s.unstaged l (bid :: bids) := by simpa [mem_unstaged] using hstaged
    have hcard := Finset.card_erase_add_one hin
    rw [if_neg hstaged]
    omega

theorem fetchForStaging_buffer (fetched : Dict Nat (NDArray × NDArray))
    (s : RealInferencePrefetchAdapter σ) (l bid h t : Nat) :
    (fetchForStaging B cfg fetched s l bid h t).2.stagingBuffer = s.stagingBuffer := by
  unfold fetchForStaging
  split <;> rfl

theorem size_stageEach (fetched : Dict Nat (NDArray × NDArray)) (l h t : Nat)
    (bids dispatched : List Nat) (s : RealInferencePrefetchAdapter σ) :
    (stageEach B cfg fetched l h t bids dispatched s).2.stagingBuffer.size ≤
      s.stagingBuffer.size + (s.unstaged l bids).card := by
  induction bids generalizing dispatched s with
  | nil => exact Nat.le_add_right _ _
  | cons bid bids ih =>
      have hbuffer := @fetchForStaging_buffer σ B cfg fetched s l bid h t
      unfold stageEach
      revert hbuffer
      rcases fetchForStaging B cfg fetched s l bid h t with ⟨_ | kv, s'⟩
      · intro hbuffer
        dsimp only at hbuffer ⊢
        rw [hbuffer]
        exact Nat.le_add_right _ _
      · intro hbuffer
        have hrest := ih (dispatched ++ [bid]) (stage cfg s' l bid h (some kv) none)
        have hstage := @size_stage σ cfg s' l bid h (some kv) none bids
        rw [unstaged_congr (fun key => congrArg (fun d => Dict.contains d key) hbuffer),
          hbuffer] at hstage
        exact hrest.trans (Nat.le_of_eq hstage)

theorem size_prefetchSync (s : RealInferencePrefetchAdapter σ) (l : Nat) (bids : List Nat)
    (h t : Nat) :
    (prefetchSync B cfg s l bids h t).2.stagingBuffer.size ≤
      s.stagingBuffer.size + (s.unstaged l bids).card := by
  unfold prefetchSync
  rcases fetchBlocks B s.storageBackend l bids h t with ⟨_ | fetched, b⟩
  · exact Nat.le_add_right _ _
  · exact size_stageEach fetched l h t bids [] { s with storageBackend := b }

end RealInferencePrefetchAdapter

namespace Pipeline

/-! ## The bound over runs -/

/-- The buffer, with the entries a prefetch has still to register, is within the capacity. -/
structure Within (cfg : AdapterConfig) (s : Pipeline σ) : Prop where
  buffer : s.adapter.stagingBuffer.size ≤ cfg.bufferCapacityBlocks
  registering : ∀ r, s.registration = some r →
    s.adapter.stagingBuffer.size + (s.adapter.unstaged r.layerId r.remaining).card ≤
      cfg.bufferCapacityBlocks

/-- The blocks a prefetch is missing fit beside what making room for them leaves. -/
def Fits (cfg : AdapterConfig) (s : RealInferencePrefetchAdapter σ) (layerId : Nat)
    (blockIds : List Nat) : Prop :=
  min s.stagingBuffer.size (cfg.bufferCapacityBlocks - 1) + (s.unstaged layerId blockIds).card ≤
    cfg.bufferCapacityBlocks

/-- A prefetch brings no more blocks than fit, predicted ones included. -/
def CallFits (cfg : AdapterConfig) (s : RealInferencePrefetchAdapter σ) : Call → Prop
  | .prefetch bids l _ _ _ => Fits cfg s l bids
  | .predictAndPrefetch l bids stride _ =>
      ∀ layer predicted p,
        s.predictor.predictNextLayerBlocks l bids stride = (.ok (layer, predicted), p) →
        Fits cfg s layer predicted
  | _ => True

def PrefetchFits (cfg : AdapterConfig) (s : Pipeline σ) : Event → Prop
  | .call c => s.registration = none → CallFits cfg s.adapter c
  | _ => True

theorem within_of_keys {s : Pipeline σ} (h : s.Within cfg) {a : RealInferencePrefetchAdapter σ}
    (hcontains : ∀ key, a.stagingBuffer.contains key = s.adapter.stagingBuffer.contains key)
    (hsize : a.stagingBuffer.size = s.adapter.stagingBuffer.size) :
    Within cfg { s with adapter := a } := by
  constructor
  · rw [hsize]
    exact h.buffer
  · intro r hr
    rw [hsize, unstaged_congr hcontains]
    exact h.registering r hr

/-- A finished call that stages nothing new keeps the bound. -/
theorem within_finished {s : RealInferencePrefetchAdapter σ}
    (h : s.stagingBuffer.size ≤ cfg.bufferCapacityBlocks)
    {r : Outcome Answer × RealInferencePrefetchAdapter σ}
    (hsize : r.2.stagingBuffer.size ≤ s.stagingBuffer.size) : (finished r).2.Within cfg :=
  ⟨hsize.trans h, fun _ hr => by cases hr⟩

theorem within_prefetch (hcap : 0 < cfg.bufferCapacityBlocks)
    {s : RealInferencePrefetchAdapter σ} (h : s.stagingBuffer.size ≤ cfg.bufferCapacityBlocks)
    {bids : List Nat} {l : Nat} (hfits : Fits cfg s l bids) (head t : Nat) (isAsync : Bool)
    (layer : Option Nat) : (prefetch B cfg s bids l head t isAsync layer).2.Within cfg := by
  unfold prefetch
  dsimp only
  split
  · exact within_finished h (Nat.le_refl _)
  · rename_i hne
    obtain ⟨hok, hroomy⟩ := ensureCapacityFor_roomy hcap hne s
    revert hok hroomy
    rcases ensureCapacityFor cfg (missing s l bids) s with ⟨_ | _, s'⟩
    · rintro ⟨⟩
    · intro _ hroomy
      -- what was missing is still missing after room was made
      have hmissing : s'.unstaged l (missing s l bids) = s.unstaged l bids := by
        ext b
        simp only [mem_unstaged, missing, List.mem_filter, Bool.not_eq_true']
        constructor
        · exact fun hb => hb.1
        · exact fun hb => ⟨hb, hroomy.stays (l, b) hb.2⟩
      have hbound : s'.stagingBuffer.size + (s'.unstaged l (missing s l bids)).card ≤
          cfg.bufferCapacityBlocks := by
        have hmin := Nat.le_min.mpr ⟨hroomy.size_le, hroomy.room⟩
        rw [hmissing]
        exact (Nat.add_le_add_right hmin _).trans hfits
      dsimp only
      split
      · refine ⟨(Nat.le_add_right _ _).trans hbound, ?_⟩
        rintro r ⟨⟩
        exact hbound
      · refine ⟨?_, fun _ hr => by cases hr⟩
        exact (size_prefetchSync s' l _ head t).trans hbound

theorem within_call (hcap : 0 < cfg.bufferCapacityBlocks) {s : Pipeline σ} (h : s.Within cfg)
    {c : Call} (hfits : CallFits cfg s.adapter c) : (call B A cfg s.adapter c).2.Within cfg := by
  have hread : ∀ {r : Outcome Answer × RealInferencePrefetchAdapter σ},
      ReadOnly s.adapter r.2 → (finished r).2.Within cfg :=
    fun hr => within_finished h.buffer (Nat.le_of_eq hr.size_eq)
  cases c with
  | writeBlock l b k v head t =>
      have hbuffer := (@writeBlock_keeps σ B cfg A s.adapter l b k v head t).1
      exact within_finished h.buffer (Nat.le_of_eq (congrArg Dict.size hbuffer))
  | prefetch bids l head t isAsync => exact within_prefetch hcap h.buffer hfits head t isAsync none
  | predictAndPrefetch l bids stride isAsync =>
      unfold call predictAndPrefetch
      dsimp only
      rcases hp : s.adapter.predictor.predictNextLayerBlocks l bids stride with
        ⟨_ | ⟨layer, predicted⟩, p⟩
      · exact within_finished h.buffer (Nat.le_refl _)
      · exact @within_prefetch σ B cfg hcap { s.adapter with predictor := p } h.buffer predicted
          layer (hfits layer predicted p hp) 0 0 isAsync (some layer)
  | readKeyPage l b head t => exact hread (readOnly_readKeyPage _ l b head t)
  | readValuePage l b head t => exact hread (readOnly_readValuePage _ l b head t)
  | readBlock l b head t => exact hread (readOnly_readBlock _ l b head t)
  | readKeyPageBatch l bs head t =>
      exact hread (readOnly_readBatch _ _ _ readOnly_readKeyPage _ l bs head t)
  | readValuePageBatch l bs head t =>
      exact hread (readOnly_readBatch _ _ _ readOnly_readValuePage _ l bs head t)
  | readBlockBatch l bs head t =>
      exact hread (readOnly_readBatch _ _ _ readOnly_readBlock _ l bs head t)
  | evictBlock l b =>
      refine within_finished h.buffer ?_
      have hsize : (s.adapter.stagingBuffer.erase (l, b)).size ≤ s.adapter.stagingBuffer.size := by
        rw [Dict.size_erase]
        split
        · exact Nat.sub_le _ _
        · exact Nat.le_refl _
      unfold evictBlock
      dsimp only
      repeat' split
      all_goals exact hsize
  | resetStats => exact within_finished h.buffer (Nat.zero_le _)

theorem within_registerNext {s : Pipeline σ} (h : s.Within cfg) :
    (registerNext cfg s).2.Within cfg := by
  unfold registerNext
  split
  · exact h
  · rename_i r hr
    have hbound := h.registering r hr
    split
    · exact ⟨h.buffer, fun _ hr => by cases hr⟩
    · rename_i bid rest hrest
      rw [hrest, ← @size_stage σ cfg s.adapter r.layerId bid r.headId none (some r.future) rest]
        at hbound
      dsimp only
      split
      · exact ⟨(Nat.le_add_right _ _).trans hbound, fun _ hr => by cases hr⟩
      · refine ⟨(Nat.le_add_right _ _).trans hbound, ?_⟩
        rintro r' ⟨⟩
        exact hbound

theorem within_step (hcap : 0 < cfg.bufferCapacityBlocks) {s : Pipeline σ} (h : s.Within cfg)
    {event : Event} (hfits : s.PrefetchFits cfg event) : (step B A cfg s event).2.Within cfg := by
  cases event with
  | call c =>
      unfold step
      dsimp only
      split
      · rename_i hidle
        exact within_call hcap h (hfits (Option.isNone_iff_eq_none.mp hidle))
      · exact h
  | registerNext => exact within_registerNext h
  | fetchNext future =>
      obtain ⟨hcontains, hsize⟩ := @fetchNext_keys σ B cfg s.adapter future
      exact within_of_keys h hcontains hsize
  | complete future =>
      have hbuffer := complete_buffer s.adapter future
      exact within_of_keys h (fun key => congrArg (fun d => Dict.contains d key) hbuffer)
        (congrArg Dict.size hbuffer)
  | fail future err =>
      have hbuffer := fail_buffer s.adapter future err
      exact within_of_keys h (fun key => congrArg (fun d => Dict.contains d key) hbuffer)
        (congrArg Dict.size hbuffer)

theorem within_init (b : σ) : (init cfg b).Within cfg :=
  ⟨Nat.zero_le _, fun _ hr => by cases hr⟩

/-- While every prefetch brings no more blocks than fit, the buffer is never over its
capacity, whatever else is read, evicted, reset, fetched or failed in between. -/
theorem staged_within_capacity (B : Backend σ) (A : Astype) (cfg : AdapterConfig)
    (hcap : 1 ≤ cfg.bufferCapacityBlocks) (b : σ) (events : List Event)
    (hfits : (machine B A cfg).Meets (PrefetchFits cfg) (init cfg b) events) :
    ((machine B A cfg).exec (init cfg b) events).adapter.stagingBuffer.size ≤
      cfg.bufferCapacityBlocks :=
  ((machine B A cfg).exec_invariant_of_meets (I := Within cfg)
    (fun _ _ h hp => within_step hcap h hp) (init cfg b) events (within_init b) hfits).buffer

/-! ## Two prefetches -/

/-- Room for one block of one eight-bit element. -/
def oneBlockConfig : AdapterConfig where
  bufferCapacityBlocks := 1
  bytesPerBlock := 2
  tokensPerBlock := 1
  kvHeadsPerBlock := 1
  headDim := 1
  dtypeStr := "int8"
  numLayers := 1

/-- One block after the other fits a buffer of one. -/
theorem staged_within_capacity_one_by_one :
    ((machine fileStorage floatNumerics.toAstype oneBlockConfig).exec
      (init oneBlockConfig (.create 2))
      [.call (.prefetch [0] 0 0 0 false), .call (.prefetch [1] 0 0 0 true),
        .registerNext]).adapter.stagingBuffer.size ≤ 1 := by
  refine staged_within_capacity fileStorage floatNumerics.toAstype oneBlockConfig
    (Nat.le_refl 1) (.create 2) _ ⟨?_, ?_, trivial, trivial⟩
  · intro _
    show _ ≤ 1
    decide +kernel
  · intro _
    show _ ≤ 1
    decide +kernel

/-- Both blocks of one prefetch are staged in a buffer of one. -/
theorem prefetch_overfills_the_buffer :
    1 ≤ oneBlockConfig.bufferCapacityBlocks ∧
      ¬ ((machine fileStorage floatNumerics.toAstype oneBlockConfig).exec
        (init oneBlockConfig (.create 2))
        [.call (.prefetch [0, 1] 0 0 0 true), .registerNext,
          .registerNext]).adapter.stagingBuffer.size ≤ oneBlockConfig.bufferCapacityBlocks := by
  decide +kernel

end Pipeline

end AiSsd.Prefetch.Async
