import AiSsd.Storage.AnalyticalBackend
import Mathlib.Algebra.Order.BigOperators.Group.List
import Mathlib.Data.Fintype.Basic
import Mathlib.Tactic.Ring

/-!
# The accounts of the analytical backend

Requests and bytes are counted by direction, by channel and by kind of page. The channels
always agree with the directions. The two kinds of page fall short of them by one byte for
each odd number of bytes that is split between keys and values.
-/

namespace AiSsd.Storage

open Lib

namespace AnalyticalFTLBackend

variable {mapper : DeterministicTensorMapper} {s : AnalyticalFTLBackend mapper}

/-! ## Runs -/

inductive Call where
  | read (at_ : Location) (length : Option Int) (kwargs : Kwargs)
  | write (at_ : Location) (data : Bytes) (length : Option Int) (kwargs : Kwargs)
  | submitBatch (requests : List StorageRequest)

/-- What a call leaves behind, whether it returns or raises. -/
def step (s : AnalyticalFTLBackend mapper) : Call → AnalyticalFTLBackend mapper
  | .read at_ length kwargs => (s.read at_ length kwargs).2
  | .write at_ data length kwargs => (s.write at_ data length kwargs).2
  | .submitBatch requests => (s.submitBatch requests).2

def run (s : AnalyticalFTLBackend mapper) (calls : List Call) : AnalyticalFTLBackend mapper :=
  calls.foldl step s

def StorageRequest.transfer (req : StorageRequest) : Transfer :=
  if req.writes then
    writeTransfer req.location (req.payload.getD []) (some req.reqLen) req.metadata
  else readTransfer req.location (some req.reqLen) req.metadata

def Call.transfers : Call → List Transfer
  | .read at_ length kwargs => [readTransfer at_ length kwargs]
  | .write at_ data length kwargs => [writeTransfer at_ data length kwargs]
  | .submitBatch requests => requests.map StorageRequest.transfer

/-- The transfers that the calls make. A mode that the mapper does not know makes none. -/
def transfers (mode : MappingMode) (calls : List Call) : List Transfer :=
  match mode with
  | .other _ => []
  | _ => calls.flatMap Call.transfers

/-! ## One transfer -/

/-- The byte that is neither a key's nor a value's. -/
def Transfer.lost (t : Transfer) : Int := if t.subPage = .both then t.length % 2 else 0

theorem Transfer.lost_nonneg (t : Transfer) : 0 ≤ t.lost := by
  unfold lost
  split <;> omega

theorem Transfer.lost_eq_zero_iff {t : Transfer} :
    t.lost = 0 ↔ (t.subPage = .both → 2 ∣ t.length) := by
  unfold lost
  split
  · next hboth => simp only [hboth, true_imp_iff]; omega
  · next hboth => simp [hboth]

/-- The sums agree once `lost` bytes are added to the two kinds of page. -/
structure Accounted (s : AnalyticalFTLBackend mapper) (lost : Int) : Prop where
  accesses : ∑ ch, s.channelAccessCounts ch = s.totalReads + s.totalWrites
  bytes : ∑ ch, s.channelBytes ch = s.bytesRead + s.bytesWritten
  pages : s.kBytes + s.vBytes + lost = s.bytesRead + s.bytesWritten

theorem accounted_init (mode : MappingMode) : (init mapper mode).Accounted 0 :=
  ⟨by simp [init], by simp [init], by simp [init]⟩

/-- Only the kinds of page are moved, by all of the transfer but the byte that is lost. -/
theorem accountSubpageBytes_spec (s : AnalyticalFTLBackend mapper) (t : Transfer) :
    ∃ k v combined, s.accountSubpageBytes t.length t.subPage =
        { s with kBytes := k, vBytes := v, combinedBytes := combined } ∧
      k + v + t.lost = s.kBytes + s.vBytes + t.length := by
  unfold Transfer.lost
  cases t.subPage with
  | key => exact ⟨_, _, _, rfl, by simp; ring⟩
  | value => exact ⟨_, _, _, rfl, by simp; ring⟩
  | both => exact ⟨_, _, _, rfl, by simp only [if_true]; omega⟩
  | other name =>
      unfold accountSubpageBytes
      by_cases hlength : t.length = logicalBlockBytes
      · rw [if_pos hlength]
        refine ⟨_, _, _, rfl, ?_⟩
        rw [hlength, logicalBlockBytes]
        simp only [reduceCtorEq, if_false]
        omega
      · rw [if_neg hlength]
        exact ⟨_, _, _, rfl, by simp; ring⟩

theorem track_mode (t : Transfer) (ch : Fin mapper.channels) : (s.track t ch).mode = s.mode := by
  unfold track
  obtain ⟨k, v, combined, heq, -⟩ := accountSubpageBytes_spec _ t
  rw [heq]
  cases t.isWrite <;> rfl

theorem Accounted.track {lost : Int} (h : s.Accounted lost) (t : Transfer)
    (ch : Fin mapper.channels) : (s.track t ch).Accounted (lost + t.lost) := by
  obtain ⟨haccesses, hbytes, hpages⟩ := h
  unfold AnalyticalFTLBackend.track
  obtain ⟨k, v, combined, heq, hkv⟩ := accountSubpageBytes_spec _ t
  rw [heq]
  cases hwrite : t.isWrite with
  | true =>
      simp only [hwrite, if_true] at hkv ⊢
      constructor
      · simp only [Counter.sum_charge, haccesses]
        omega
      · simp only [Counter.sum_charge, hbytes]
        omega
      · simp only
        omega
  | false =>
      simp only [hwrite, Bool.false_eq_true, if_false] at hkv ⊢
      constructor
      · simp only [Counter.sum_charge, haccesses]
        omega
      · simp only [Counter.sum_charge, hbytes]
        omega
      · simp only
        omega

/-! ## Whole runs -/

inductive Tracked : AnalyticalFTLBackend mapper → List Transfer →
    AnalyticalFTLBackend mapper → Prop
  | nil (s : AnalyticalFTLBackend mapper) : Tracked s [] s
  | cons {s s' : AnalyticalFTLBackend mapper} {t : Transfer} {ts : List Transfer}
      (ch : Fin mapper.channels) : Tracked (s.track t ch) ts s' → Tracked s (t :: ts) s'

theorem Tracked.append {s₁ s₂ s₃ : AnalyticalFTLBackend mapper} {ts us : List Transfer}
    (h : Tracked s₁ ts s₂) (h' : Tracked s₂ us s₃) : Tracked s₁ (ts ++ us) s₃ := by
  induction h with
  | nil s => exact h'
  | cons ch _ ih => exact .cons ch (ih h')

theorem Tracked.mode {s s' : AnalyticalFTLBackend mapper} {ts : List Transfer}
    (h : Tracked s ts s') : s'.mode = s.mode := by
  induction h with
  | nil s => rfl
  | cons ch _ ih => rw [ih, track_mode]

theorem Tracked.accounted {s s' : AnalyticalFTLBackend mapper} {ts : List Transfer} {lost : Int}
    (h : Tracked s ts s') (hs : s.Accounted lost) :
    s'.Accounted (lost + (ts.map Transfer.lost).sum) := by
  induction h generalizing lost with
  | nil s => simpa using hs
  | cons ch _ ih =>
      have hrest := ih (hs.track _ ch)
      rwa [add_assoc, ← List.sum_cons, ← List.map_cons] at hrest

section KnownMode

variable (hmode : ∀ name, s.mode ≠ .other name)

include hmode

theorem serve_tracked (t : Transfer) :
    (∃ res, (s.serve t).1 = .ok res) ∧ Tracked s [t] (s.serve t).2 := by
  obtain ⟨nand, hnand⟩ := mapper.tensorToNandPhysical_ok hmode
    ⟨t.location.layerId, t.location.headId, t.tokenStart, 16, some t.location.blockId, 44⟩ none
  unfold serve resolvePhysicalCoord
  rw [hnand]
  exact ⟨⟨_, rfl⟩, .cons nand.channel (.nil _)⟩

theorem submitRequest_tracked (req : StorageRequest) :
    (∃ res, (s.submitRequest req).1 = .ok res) ∧
      Tracked s [req.transfer] (s.submitRequest req).2 := by
  obtain ⟨nand, hnand⟩ := mapper.tensorToNandPhysical_ok hmode
    ⟨req.location.layerId, req.location.headId, req.metadata.tokenStart.getD 0, 16,
      some req.location.blockId, 44⟩ none
  unfold submitRequest resolvePhysicalCoord StorageRequest.transfer
  rw [hnand]
  cases req.writes with
  | true => exact serve_tracked hmode _
  | false => exact serve_tracked hmode _

omit hmode in
theorem submitBatch_tracked (requests : List StorageRequest) {s : AnalyticalFTLBackend mapper}
    (hmode : ∀ name, s.mode ≠ .other name) :
    (∃ results, (s.submitBatch requests).1 = .ok results) ∧
      Tracked s (requests.map StorageRequest.transfer) (s.submitBatch requests).2 := by
  induction requests generalizing s with
  | nil => exact ⟨⟨[], rfl⟩, .nil s⟩
  | cons req requests ih =>
      obtain ⟨⟨res, hres⟩, hreq⟩ := submitRequest_tracked hmode req
      have hnext : ∀ name, (s.submitRequest req).2.mode ≠ .other name := by
        rw [hreq.mode]
        exact hmode
      obtain ⟨⟨results, hresults⟩, hrest⟩ := ih hnext
      unfold submitBatch
      rcases hserve : s.submitRequest req with ⟨_ | _, s₁⟩
      · simp [hserve] at hres
      · rw [hserve] at hreq hrest hresults
        rcases hbatch : s₁.submitBatch requests with ⟨_ | _, s₂⟩
        · simp [hbatch] at hresults
        · rw [hbatch] at hrest
          simp only [hbatch]
          exact ⟨⟨_, rfl⟩, hreq.append hrest⟩

theorem step_tracked (call : Call) : Tracked s call.transfers (s.step call) := by
  cases call with
  | read at_ length kwargs => exact (serve_tracked hmode _).2
  | write at_ data length kwargs => exact (serve_tracked hmode _).2
  | submitBatch requests => exact (submitBatch_tracked requests hmode).2

omit hmode in
theorem run_tracked (calls : List Call) {s : AnalyticalFTLBackend mapper}
    (hmode : ∀ name, s.mode ≠ .other name) :
    Tracked s (calls.flatMap Call.transfers) (s.run calls) := by
  induction calls generalizing s with
  | nil => exact .nil s
  | cons call calls ih =>
      have hcall := step_tracked hmode call
      have hnext : ∀ name, (s.step call).mode ≠ .other name := by
        rw [hcall.mode]
        exact hmode
      exact hcall.append (ih hnext)

end KnownMode

/-- A mode that the mapper does not know raises before anything is counted. -/
theorem run_of_unknown {name : String} (hmode : s.mode = .other name) (calls : List Call) :
    s.run calls = s := by
  have hresolve : ∀ at_ tokenStart,
      s.resolvePhysicalCoord at_ tokenStart = DeterministicTensorMapper.unknownMode name := by
    intro at_ tokenStart
    rw [resolvePhysicalCoord, hmode]
    rfl
  have hserve : ∀ t, (s.serve t).2 = s := by
    intro t
    rw [serve, hresolve]
    rfl
  have hstep : ∀ call, s.step call = s := by
    intro call
    cases call with
    | read at_ length kwargs => exact hserve _
    | write at_ data length kwargs => exact hserve _
    | submitBatch requests =>
        cases requests with
        | nil => rfl
        | cons req requests =>
            rw [step, submitBatch, submitRequest, hresolve]
            rfl
  induction calls with
  | nil => rfl
  | cons call calls ih =>
      unfold run at ih ⊢
      rw [List.foldl_cons, hstep, ih]

/-- What a run has counted, up to the bytes its transfers lose. -/
theorem run_accounted (mode : MappingMode) (calls : List Call) :
    ((init mapper mode).run calls).Accounted ((transfers mode calls).map Transfer.lost).sum := by
  have hstart := @accounted_init mapper mode
  unfold transfers
  cases mode with
  | other name =>
      rw [run_of_unknown rfl]
      exact hstart
  | conventional => simpa using (run_tracked calls (by simp [init])).accounted hstart
  | tensorAware => simpa using (run_tracked calls (by simp [init])).accounted hstart

/-! ## The sums -/

/-- The sums over the channels, the directions and the kinds of page agree. -/
structure Balanced (s : AnalyticalFTLBackend mapper) : Prop where
  accesses : ∑ ch, s.channelAccessCounts ch = s.totalReads + s.totalWrites
  pages : ∑ ch, s.channelBytes ch = s.kBytes + s.vBytes
  directions : s.kBytes + s.vBytes = s.bytesRead + s.bytesWritten

theorem Accounted.balanced_iff {lost : Int} (h : s.Accounted lost) : s.Balanced ↔ lost = 0 := by
  obtain ⟨haccesses, hbytes, hpages⟩ := h
  constructor
  · intro hbalanced
    have hdirections := hbalanced.directions
    omega
  · intro hlost
    exact ⟨haccesses, by omega, by omega⟩

theorem lost_sum_eq_zero_iff (ts : List Transfer) :
    (ts.map Transfer.lost).sum = 0 ↔ ∀ t ∈ ts, t.subPage = .both → 2 ∣ t.length := by
  have hnonneg : ∀ lost ∈ ts.map Transfer.lost, 0 ≤ lost := by
    simp [Transfer.lost_nonneg]
  constructor
  · intro hsum t ht
    apply Transfer.lost_eq_zero_iff.mp
    exact List.all_zero_of_le_zero_le_of_sum_eq_zero hnonneg hsum (List.mem_map_of_mem ht)
  · intro heven
    apply List.sum_eq_zero
    simpa [Transfer.lost_eq_zero_iff] using heven

/-- After every run the sums agree exactly when no odd number of bytes was split. -/
theorem run_balanced_iff (mapper : DeterministicTensorMapper) (mode : MappingMode)
    (calls : List Call) :
    ((init mapper mode).run calls).Balanced ↔
      ∀ t ∈ transfers mode calls, t.subPage = .both → 2 ∣ t.length := by
  rw [(run_accounted mode calls).balanced_iff, lost_sum_eq_zero_iff]

/-- Three bytes of keys and values are read; one is a key's and one is a value's. -/
theorem three_bytes_unbalanced :
    ¬ ((init defaultMapper .tensorAware).run
      [.read ⟨0, 0, 0⟩ (some 3) { subPage := some .both }]).Balanced :=
  fun h => absurd h.directions (by decide)

end AnalyticalFTLBackend

end AiSsd.Storage
