import AiSsd.Prefetch.BufferBound

/-!
# What a read counts as demand

A single read counts itself, as a hit when the block is staged and as a miss otherwise. A
batch read counts its hits one by one and its misses at the end. Over a backend without the
batch method it reads each miss singly, which counts it already.
-/

namespace AiSsd.Prefetch.Async

open Lib Numpy Storage
open Adapters (Astype)
open Adapters.TransformerKVStateProvider (floatNumerics)
open Async.RealInferencePrefetchAdapter

universe v

variable {σ : Type v} {B : Backend σ} {A : Astype} {cfg : AdapterConfig}

namespace RealInferencePrefetchAdapter

/-- `hits` and `misses` more demand reads. -/
structure Demand (hits misses : Nat) (s s' : RealInferencePrefetchAdapter σ) : Prop where
  reads_eq : s'.telemetry.demandReads = s.telemetry.demandReads + (hits + misses)
  hits_eq : s'.telemetry.demandHits = s.telemetry.demandHits + hits
  misses_eq : s'.telemetry.demandMisses = s.telemetry.demandMisses + misses

namespace Demand

variable {s s' s'' : RealInferencePrefetchAdapter σ} {h h' m m' : Nat}

theorem refl (s : RealInferencePrefetchAdapter σ) : Demand 0 0 s s := ⟨rfl, rfl, rfl⟩

theorem trans (d : Demand h m s s') (d' : Demand h' m' s' s'') :
    Demand (h + h') (m + m') s s'' where
  reads_eq := by
    rw [d'.reads_eq, d.reads_eq]
    omega
  hits_eq := by
    rw [d'.hits_eq, d.hits_eq]
    omega
  misses_eq := by
    rw [d'.misses_eq, d.misses_eq]
    omega

theorem of_telemetry (h : s'.telemetry = s.telemetry) : Demand 0 0 s s' := by
  constructor
  all_goals simp only [h, Nat.add_zero]

theorem unique (d : Demand h m s s') (d' : Demand h' m' s s') : h' = h ∧ m' = m := by
  have hhits := d.hits_eq
  have hmisses := d.misses_eq
  have hhits' := d'.hits_eq
  have hmisses' := d'.misses_eq
  omega

end Demand

def stagedOf (s : RealInferencePrefetchAdapter σ) (layerId : Nat) (blockIds : List Nat) :
    List Nat :=
  blockIds.filter fun bid => s.stagingBuffer.contains (layerId, bid)

theorem stagedOf_cons_of_some {s : RealInferencePrefetchAdapter σ} {l bid : Nat}
    {entry : StagedInferenceBlock} (hget : s.stagingBuffer.get? (l, bid) = some entry)
    (bids : List Nat) :
    stagedOf s l (bid :: bids) = bid :: stagedOf s l bids ∧
      missing s l (bid :: bids) = missing s l bids := by
  simp [stagedOf, missing, Dict.contains, hget]

theorem stagedOf_cons_of_none {s : RealInferencePrefetchAdapter σ} {l bid : Nat}
    (hget : s.stagingBuffer.get? (l, bid) = none) (bids : List Nat) :
    stagedOf s l (bid :: bids) = stagedOf s l bids ∧
      missing s l (bid :: bids) = bid :: missing s l bids := by
  simp [stagedOf, missing, Dict.contains, hget]

/-- A read of `bids` that counts what is staged as a hit and each miss `times` times. One that
raises counts no more than that once, and one that waits counts nothing yet. -/
def ReadDemand {ρ : Type} (times : Nat) (s : RealInferencePrefetchAdapter σ) (l : Nat)
    (bids : List Nat) (r : Outcome ρ × RealInferencePrefetchAdapter σ) : Prop :=
  match r.1 with
  | .returns (.ok _) =>
      Demand (stagedOf s l bids).length (times * (missing s l bids).length) s r.2
  | .returns (.error _) =>
      ∃ h m, h ≤ (stagedOf s l bids).length ∧ m ≤ (missing s l bids).length ∧ Demand h m s r.2
  | .waits _ => Demand 0 0 s r.2

theorem readDemand_map {ρ τ : Type} (f : ρ → τ) {times : Nat}
    {s : RealInferencePrefetchAdapter σ} {l : Nat} {bids : List Nat}
    {r : Outcome ρ × RealInferencePrefetchAdapter σ} (h : ReadDemand times s l bids r) :
    ReadDemand times s l bids (r.1.map f, r.2) := by
  obtain ⟨(_ | _) | _, s'⟩ := r
  · exact h
  · exact h
  · exact h

/-! ## One block -/

theorem telemetry_resolveEntry (s : RealInferencePrefetchAdapter σ)
    (entry : StagedInferenceBlock) : (resolveEntry s entry).2.telemetry = s.telemetry := by
  unfold resolveEntry
  split
  · rfl
  · split
    · rfl
    · split
      · rfl
      · rfl
      · rfl

theorem demand_hit (s : RealInferencePrefetchAdapter σ) (key : Nat × Nat)
    (entry : StagedInferenceBlock) (sizeBytes : Nat) :
    match (hit s key entry sizeBytes).1 with
    | .returns (.ok _) => Demand 1 0 s (hit s key entry sizeBytes).2
    | _ => Demand 0 0 s (hit s key entry sizeBytes).2 := by
  have hresolve := Demand.of_telemetry (telemetry_resolveEntry s entry)
  unfold hit
  revert hresolve
  rcases resolveEntry s entry with ⟨(_ | _) | _, s'⟩
  · exact id
  · intro hresolve
    have hcounted : ∀ e : StagedInferenceBlock,
        (markUseful s'.telemetry e sizeBytes).demandReads = s'.telemetry.demandReads ∧
        (markUseful s'.telemetry e sizeBytes).demandHits = s'.telemetry.demandHits ∧
        (markUseful s'.telemetry e sizeBytes).demandMisses = s'.telemetry.demandMisses := by
      intro e
      unfold markUseful
      split
      · exact ⟨rfl, rfl, rfl⟩
      · exact ⟨rfl, rfl, rfl⟩
    obtain ⟨hreads, hhits, hmisses⟩ := hcounted ((s'.stagingBuffer.get? key).getD entry)
    have hone : Demand 1 0 s'
        { s' with
          stagingBuffer := (s'.stagingBuffer.moveToEnd key).set key
            { (s'.stagingBuffer.get? key).getD entry with isUseful := true }
          telemetry := (markUseful s'.telemetry ((s'.stagingBuffer.get? key).getD entry)
            sizeBytes).recordHit sizeBytes } :=
      ⟨congrArg (· + 1) hreads, congrArg (· + 1) hhits, hmisses⟩
    exact hresolve.trans hone
  · exact id

theorem demand_countMiss (s : RealInferencePrefetchAdapter σ) : Demand 0 0 s (countMiss s) :=
  ⟨rfl, rfl, rfl⟩

theorem demand_recordMisses (s : RealInferencePrefetchAdapter σ) (sizeBytes : Nat)
    (missBids : List Nat) : Demand 0 missBids.length s (recordMisses s sizeBytes missBids) := by
  have hcounts : ∀ t : AdapterTelemetry,
      let t' := missBids.foldl (fun t _ => t.recordMiss sizeBytes) t
      t'.demandReads = t.demandReads + missBids.length ∧ t'.demandHits = t.demandHits ∧
        t'.demandMisses = t.demandMisses + missBids.length := by
    induction missBids with
    | nil => exact fun t => ⟨rfl, rfl, rfl⟩
    | cons bid missBids ih =>
        intro t
        obtain ⟨hreads, hhits, hmisses⟩ := ih (t.recordMiss sizeBytes)
        have hone : (t.recordMiss sizeBytes).demandReads = t.demandReads + 1 ∧
            (t.recordMiss sizeBytes).demandMisses = t.demandMisses + 1 := ⟨rfl, rfl⟩
        simp only [List.foldl_cons, List.length_cons]
        refine ⟨?_, hhits, ?_⟩
        · omega
        · omega
  obtain ⟨hreads, hhits, hmisses⟩ := hcounts s.telemetry
  exact ⟨by rw [Nat.zero_add]; exact hreads, hhits, hmisses⟩

/-- A fetch that leaves the counters and the buffer alone. -/
def FetchesOnly {ρ : Type} (fetch : BlockRead (RealInferencePrefetchAdapter σ) ρ) : Prop :=
  ∀ s l b h t, (fetch s l b h t).2.telemetry = s.telemetry

theorem readDemand_readSingle {ρ : Type} (sizeBytes : Nat)
    (staged : List Nat → Option (NDArray × NDArray) → Except PyErr ρ)
    {fetch : BlockRead (RealInferencePrefetchAdapter σ) ρ} (hfetch : FetchesOnly fetch)
    (s : RealInferencePrefetchAdapter σ) (l b h t : Nat) :
    ReadDemand 1 s l [b] (readSingle cfg sizeBytes staged fetch s l b h t) := by
  unfold readSingle
  dsimp only
  cases hget : s.stagingBuffer.get? (l, b) with
  | some entry =>
      obtain ⟨hstaged, hmissing⟩ := stagedOf_cons_of_some hget []
      have hhit := demand_hit s (l, b) entry sizeBytes
      dsimp only
      revert hhit
      rcases hit s (l, b) entry sizeBytes with ⟨(_ | data) | _, s'⟩
      · exact fun hhit => ⟨0, 0, Nat.zero_le _, Nat.zero_le _, hhit⟩
      · intro hhit
        unfold ReadDemand
        rw [hstaged, hmissing]
        dsimp only
        cases staged (metaShape cfg s' (l, b)) data with
        | error err => exact ⟨1, 0, le_rfl, le_rfl, hhit⟩
        | ok ret => exact hhit
      · exact id
  | none =>
      obtain ⟨hstaged, hmissing⟩ := stagedOf_cons_of_none hget []
      have hfetched := (demand_countMiss s).trans
        (Demand.of_telemetry (hfetch (countMiss s) l b h t))
      dsimp only
      revert hfetched
      rcases fetch (countMiss s) l b h t with ⟨_ | ret, s'⟩
      · exact fun hfetched => ⟨0, 0, Nat.zero_le _, Nat.zero_le _, hfetched⟩
      · intro hfetched
        unfold ReadDemand
        rw [hstaged, hmissing]
        exact hfetched.trans (demand_recordMisses s' sizeBytes [b])

/-! ## Batches -/

theorem stagedOf_congr {s s' : RealInferencePrefetchAdapter σ} (h : ReadOnly s s') (l : Nat)
    (bids : List Nat) :
    stagedOf s' l bids = stagedOf s l bids ∧ missing s' l bids = missing s l bids := by
  simp only [stagedOf, missing, h.contains_eq, and_self]

/-- The hits of a batch are counted one by one, and its misses are collected. -/
theorem demand_collectHits {ρ : Type} (sizeBytes : Nat)
    (staged : List Nat → Option (NDArray × NDArray) → Except PyErr ρ) (l : Nat) (bids : List Nat)
    (results : Dict Nat ρ) (missBids : List Nat) (s : RealInferencePrefetchAdapter σ) :
    let r := collectHits cfg sizeBytes staged l bids results missBids s
    match r.1 with
    | .returns (.ok collected) =>
        Demand (stagedOf s l bids).length 0 s r.2 ∧ collected.2 = missBids ++ missing s l bids
    | .returns (.error _) => ∃ h, h ≤ (stagedOf s l bids).length ∧ Demand h 0 s r.2
    | .waits _ => True := by
  induction bids generalizing results missBids s with
  | nil => exact ⟨Demand.refl s, (List.append_nil missBids).symm⟩
  | cons bid bids ih =>
      unfold collectHits
      dsimp only at ih ⊢
      cases hget : s.stagingBuffer.get? (l, bid) with
      | some entry =>
          obtain ⟨hstaged, hmissing⟩ := stagedOf_cons_of_some hget bids
          rw [hstaged, hmissing, List.length_cons]
          have hhit := demand_hit s (l, bid) entry sizeBytes
          have hkept := stagedOf_congr (readOnly_hit hget sizeBytes) l bids
          dsimp only
          revert hhit hkept
          rcases hit s (l, bid) entry sizeBytes with ⟨(_ | data) | _, s'⟩
          · exact fun hhit _ => ⟨0, Nat.zero_le _, hhit⟩
          · rintro hhit ⟨hstaged', hmissing'⟩
            dsimp only at hhit hstaged' hmissing' ⊢
            cases staged (metaShape cfg s' (l, bid)) data with
            | error err => exact ⟨1, Nat.le_add_left 1 _, hhit⟩
            | ok ret =>
                have hrest := ih (results.set bid ret) missBids s'
                rw [hstaged', hmissing'] at hrest
                dsimp only
                revert hrest
                rcases collectHits cfg sizeBytes staged l bids (results.set bid ret) missBids s' with
                  ⟨(_ | collected) | _, s''⟩
                · rintro ⟨h, hle, hcount⟩
                  exact ⟨1 + h, by omega, hhit.trans hcount⟩
                · rintro ⟨hcount, hcollected⟩
                  rw [Nat.add_comm]
                  exact ⟨hhit.trans hcount, hcollected⟩
                · exact id
          · exact fun _ _ => trivial
      | none =>
          obtain ⟨hstaged, hmissing⟩ := stagedOf_cons_of_none hget bids
          have hrest := ih results (missBids ++ [bid]) (countMiss s)
          have hmiss := demand_countMiss s
          rw [show stagedOf (countMiss s) l bids = stagedOf s l bids from rfl,
            show missing (countMiss s) l bids = missing s l bids from rfl] at hrest
          rw [hstaged, hmissing]
          dsimp only
          revert hrest
          rcases collectHits cfg sizeBytes staged l bids results (missBids ++ [bid]) (countMiss s) with
            ⟨(_ | collected) | _, s''⟩
          · rintro ⟨h, hle, hcount⟩
            exact ⟨0 + h, by omega, hmiss.trans hcount⟩
          · rintro ⟨hcount, hcollected⟩
            refine ⟨?_, by simpa using hcollected⟩
            rw [← Nat.zero_add (stagedOf s l bids).length]
            exact hmiss.trans hcount
          · exact id

/-- The misses of a batch, read one by one: each of them is counted by its read. -/
theorem demand_readMissesEach {ρ : Type} {single : AdapterRead σ ρ}
    (hsingle : ∀ s l b h t, ReadDemand 1 s l [b] (single s l b h t))
    (hkeeps : ∀ s l b h t, ReadOnly s (single s l b h t).2) (l h t : Nat) (bids : List Nat)
    (results : Dict Nat ρ) (s : RealInferencePrefetchAdapter σ) (hbids : missing s l bids = bids) :
    let r := readMissesEach single l h t bids results s
    match r.1 with
    | .returns (.ok _) => Demand 0 bids.length s r.2
    | .returns (.error _) => ∃ m, m ≤ bids.length ∧ Demand 0 m s r.2
    | .waits _ => True := by
  induction bids generalizing results s with
  | nil => exact Demand.refl s
  | cons bid bids ih =>
      have hnew : s.stagingBuffer.contains (l, bid) = false := by
        have hall := List.filter_eq_self.mp hbids bid List.mem_cons_self
        simpa using hall
      have hrestBids : missing s l bids = bids := by
        have htail := hbids
        simp only [missing, List.filter_cons, hnew, Bool.not_false, if_true, List.cons.injEq,
          true_and] at htail
        exact htail
      have hstagedOne : (stagedOf s l [bid]).length = 0 := by simp [stagedOf, hnew]
      have hmissingOne : (missing s l [bid]).length = 1 := by simp [missing, hnew]
      have hone := hsingle s l bid h t
      have hkept := (stagedOf_congr (hkeeps s l bid h t) l bids).2
      unfold readMissesEach
      unfold ReadDemand at hone
      rw [hstagedOne, hmissingOne] at hone
      rw [hrestBids] at hkept
      dsimp only at hone ⊢
      revert hone hkept
      rcases single s l bid h t with ⟨(_ | ret) | _, s'⟩
      · rintro ⟨h', m, hh, hm, hcount⟩ _
        obtain rfl : h' = 0 := by omega
        exact ⟨m, by rw [List.length_cons]; omega, hcount⟩
      · intro hone hkept
        have hrest := ih (results.set bid ret) s' hkept
        dsimp only at hone hrest ⊢
        revert hrest
        rcases readMissesEach single l h t bids (results.set bid ret) s' with ⟨(_ | pages) | _, s''⟩
        · rintro ⟨m, hle, hcount⟩
          exact ⟨1 + m, by rw [List.length_cons]; omega, hone.trans hcount⟩
        · intro hcount
          rw [List.length_cons, Nat.add_comm]
          exact hone.trans hcount
        · exact id
      · exact fun _ _ => trivial

/-- The misses of a batch: counted already when they were read one by one. -/
theorem demand_fetchMisses {ρ : Type} (batch : Option (BatchRead σ ρ)) {single : AdapterRead σ ρ}
    (hsingle : ∀ s l b h t, ReadDemand 1 s l [b] (single s l b h t))
    (hkeeps : ∀ s l b h t, ReadOnly s (single s l b h t).2) (l h t : Nat) (bids : List Nat)
    (results : Dict Nat ρ) (s : RealInferencePrefetchAdapter σ) (hbids : missing s l bids = bids) :
    let r := fetchMisses batch single s l bids h t results
    match r.1 with
    | .returns (.ok _) => Demand 0 (if batch.isSome then 0 else bids.length) s r.2
    | .returns (.error _) => ∃ m, m ≤ bids.length ∧ Demand 0 m s r.2
    | .waits _ => True := by
  unfold fetchMisses
  split
  · rename_i hnil
    subst hnil
    simpa using Demand.refl s
  · cases batch with
    | none => exact demand_readMissesEach hsingle hkeeps l h t bids results s hbids
    | some read =>
        dsimp only
        cases (read s.storageBackend l bids h t).1 with
        | error err => exact ⟨0, Nat.zero_le _, ⟨rfl, rfl, rfl⟩⟩
        | ok fetched => exact ⟨rfl, rfl, rfl⟩

def timesCounted (hasMethod : Bool) : Nat := if hasMethod then 1 else 2

/-- A batch read counts its misses once over a backend with the batch method, and twice over
one without. -/
theorem readDemand_readBatch {ρ : Type} (sizeBytes : Nat)
    (staged : List Nat → Option (NDArray × NDArray) → Except PyErr ρ)
    (batch : Option (BatchRead σ ρ)) {single : AdapterRead σ ρ}
    (hsingle : ∀ s l b h t, ReadDemand 1 s l [b] (single s l b h t))
    (hkeeps : ∀ s l b h t, ReadOnly s (single s l b h t).2)
    (s : RealInferencePrefetchAdapter σ) (l : Nat) (bids : List Nat) (h t : Nat) :
    ReadDemand (timesCounted batch.isSome) s l bids
      (readBatch cfg sizeBytes staged batch single s l bids h t) := by
  unfold readBatch
  split
  · rename_i hnil
    subst hnil
    exact Demand.refl s
  · have hcollect := @demand_collectHits σ cfg ρ sizeBytes staged l bids Dict.empty [] s
    have hkept := @ReadRelation.collectHits σ cfg ρ _ readRelation_readOnly sizeBytes staged l bids
      Dict.empty [] s
    dsimp only at hcollect ⊢
    revert hcollect hkept
    rcases collectHits cfg sizeBytes staged l bids Dict.empty [] s with
      ⟨(_ | ⟨results, missBids⟩) | _, s₁⟩
    · rintro ⟨hits, hle, hcount⟩ _
      exact ⟨hits, 0, hle, Nat.zero_le _, hcount⟩
    · rintro ⟨hcount, hmissed⟩ hkept
      dsimp only at hcount hmissed hkept ⊢
      rw [List.nil_append] at hmissed
      have hbids : missing s₁ l missBids = missBids := by
        rw [(stagedOf_congr hkept l missBids).2, hmissed]
        simp [missing, List.filter_filter]
      have hfetch := demand_fetchMisses batch hsingle hkeeps l h t missBids results s₁ hbids
      dsimp only at hfetch
      revert hfetch
      rcases fetchMisses batch single s₁ l missBids h t results with ⟨(_ | pages) | _, s₂⟩
      · rintro ⟨m, hle, hfetched⟩
        have hall := hcount.trans hfetched
        rw [Nat.add_zero, Nat.zero_add] at hall
        exact ⟨(stagedOf s l bids).length, m, le_rfl, hmissed ▸ hle, hall⟩
      · intro hfetched
        have hrecorded := demand_recordMisses s₂ sizeBytes missBids
        have hall := (hcount.trans hfetched).trans hrecorded
        unfold ReadDemand
        rw [← hmissed]
        have hmissCount : 0 + (if batch.isSome then 0 else missBids.length) + missBids.length =
            timesCounted batch.isSome * missBids.length := by
          unfold timesCounted
          split
          · omega
          · omega
        rw [hmissCount] at hall
        exact ⟨hall.reads_eq, hall.hits_eq, hall.misses_eq⟩
      · exact fun _ => Demand.refl s
    · exact fun _ _ => Demand.refl s

end RealInferencePrefetchAdapter

/-! ## Runs -/

namespace Pipeline

def demandOf : Call → Option (Nat × List Nat)
  | .readKeyPage l b _ _ => some (l, [b])
  | .readValuePage l b _ _ => some (l, [b])
  | .readBlock l b _ _ => some (l, [b])
  | .readKeyPageBatch l bids _ _ => some (l, bids)
  | .readValuePageBatch l bids _ _ => some (l, bids)
  | .readBlockBatch l bids _ _ => some (l, bids)
  | _ => none

/-- A single read needs no batch method; a batch read asks the backend for its own. -/
def hasMethod (B : Backend σ) : Call → Bool
  | .readKeyPageBatch _ _ _ _ => B.readKeyPageBatch.isSome
  | .readValuePageBatch _ _ _ _ => B.readValuePageBatch.isSome
  | .readBlockBatch _ _ _ _ => B.readBlockBatch.isSome
  | _ => true

theorem readDemand_readKeyPage (s : RealInferencePrefetchAdapter σ) (l b h t : Nat) :
    ReadDemand 1 s l [b] (readKeyPage B cfg s l b h t) :=
  readDemand_readSingle _ _ (fun _ _ _ _ _ => rfl) s l b h t

theorem readDemand_readValuePage (s : RealInferencePrefetchAdapter σ) (l b h t : Nat) :
    ReadDemand 1 s l [b] (readValuePage B cfg s l b h t) :=
  readDemand_readSingle _ _ (fun _ _ _ _ _ => rfl) s l b h t

theorem readDemand_readBlock (s : RealInferencePrefetchAdapter σ) (l b h t : Nat) :
    ReadDemand 1 s l [b] (readBlock B cfg s l b h t) :=
  readDemand_readSingle _ _ (fun _ _ _ _ _ => rfl) s l b h t

/-- Every read comes to an outcome, and counts its misses once or twice. -/
theorem readDemand_call (s : RealInferencePrefetchAdapter σ) {c : Call} {l : Nat}
    {bids : List Nat} (hc : demandOf c = some (l, bids)) :
    ∃ outcome, (call B A cfg s c).1 = some outcome ∧
      ReadDemand (timesCounted (hasMethod B c)) s l bids
        (outcome, (call B A cfg s c).2.adapter) := by
  cases c with
  | readKeyPage l' b h t =>
      cases hc
      exact ⟨_, rfl, readDemand_map _ (readDemand_readKeyPage s l b h t)⟩
  | readValuePage l' b h t =>
      cases hc
      exact ⟨_, rfl, readDemand_map _ (readDemand_readValuePage s l b h t)⟩
  | readBlock l' b h t =>
      cases hc
      exact ⟨_, rfl, readDemand_map _ (readDemand_readBlock s l b h t)⟩
  | readKeyPageBatch l' bids' h t =>
      cases hc
      exact ⟨_, rfl, readDemand_map _ (readDemand_readBatch _ _ _ readDemand_readKeyPage
        readOnly_readKeyPage s l bids h t)⟩
  | readValuePageBatch l' bids' h t =>
      cases hc
      exact ⟨_, rfl, readDemand_map _ (readDemand_readBatch _ _ _ readDemand_readValuePage
        readOnly_readValuePage s l bids h t)⟩
  | readBlockBatch l' bids' h t =>
      cases hc
      exact ⟨_, rfl, readDemand_map _ (readDemand_readBatch _ _ _ readDemand_readBlock
        readOnly_readBlock s l bids h t)⟩
  | _ => cases hc

/-- A read that the main thread makes counts every block it asks for once: as a hit when the
block is staged and as a miss otherwise. -/
def DemandCounted (B : Backend σ) (A : Astype) (cfg : AdapterConfig) (s : Pipeline σ)
    (e : Event) : Prop :=
  ∀ c l bids outcome, e = .call c → s.registration = none → demandOf c = some (l, bids) →
    (call B A cfg s.adapter c).1 = some outcome →
      ReadDemand 1 s.adapter l bids (outcome, (call B A cfg s.adapter c).2.adapter)

/-- A batch read that returns had the backend's batch method, or nothing to ask it for. -/
def MissesBatched (B : Backend σ) (A : Astype) (cfg : AdapterConfig) (s : Pipeline σ)
    (e : Event) : Prop :=
  ∀ c l bids answer, e = .call c → s.registration = none → demandOf c = some (l, bids) →
    (call B A cfg s.adapter c).1 = some (.returns (.ok answer)) →
      hasMethod B c = true ∨ ∀ b ∈ bids, s.adapter.stagingBuffer.contains (l, b) = true

theorem missing_eq_nil_iff (s : RealInferencePrefetchAdapter σ) (l : Nat) (bids : List Nat) :
    missing s l bids = [] ↔ ∀ b ∈ bids, s.stagingBuffer.contains (l, b) = true := by
  simp [missing]

theorem demandCounted_iff (s : Pipeline σ) (e : Event) :
    DemandCounted B A cfg s e ↔ MissesBatched B A cfg s e := by
  constructor
  · intro hcounted c l bids answer he hfree hc hanswer
    obtain ⟨outcome, houtcome, hdemand⟩ := @readDemand_call σ B A cfg s.adapter c l bids hc
    rw [hanswer, Option.some.injEq] at houtcome
    subst houtcome
    have honce := hcounted c l bids _ he hfree hc hanswer
    have hmisses := (Demand.unique hdemand honce).2
    cases hm : hasMethod B c with
    | true => exact Or.inl rfl
    | false =>
        refine Or.inr ((missing_eq_nil_iff s.adapter l bids).mp ?_)
        simp only [hm, timesCounted, Bool.false_eq_true, if_false] at hmisses
        exact List.length_eq_zero_iff.mp (by omega)
  · intro hbatched c l bids outcome he hfree hc houtcome
    obtain ⟨outcome', houtcome', hdemand⟩ := @readDemand_call σ B A cfg s.adapter c l bids hc
    rw [houtcome, Option.some.injEq] at houtcome'
    subst houtcome'
    have hmethod := fun answer => hbatched c l bids answer he hfree hc
    rw [houtcome] at hmethod
    revert hdemand hmethod
    rcases outcome with (_ | answer) | _
    · exact fun hdemand _ => hdemand
    · intro hdemand hmethod
      rcases hmethod answer rfl with hm | hstaged
      · rw [hm] at hdemand
        exact hdemand
      · have hnil := (missing_eq_nil_iff s.adapter l bids).mpr hstaged
        unfold ReadDemand at hdemand ⊢
        simpa only [hnil, List.length_nil, Nat.mul_zero] using hdemand
    · exact fun hdemand _ => hdemand

/-- Throughout a run every read counts its blocks once exactly when every batch read that
returns finds the batch method or all its blocks staged. -/
theorem demand_counted_throughout_iff (B : Backend σ) (A : Astype) (cfg : AdapterConfig)
    (storageBackend : σ) (events : List Event) :
    (∀ pre e, pre ++ [e] <+: events →
        DemandCounted B A cfg ((machine B A cfg).exec (init cfg storageBackend) pre) e) ↔
      (machine B A cfg).Meets (MissesBatched B A cfg) (init cfg storageBackend) events := by
  rw [← Machine.meets_iff_forall]
  exact Machine.meets_congr _ demandCounted_iff _ _

/-- Counted once each, the blocks of a read bound what it adds to `demand_reads`. -/
theorem demandReads_le_of_counted {s : Pipeline σ} {c : Call} {l : Nat} {bids : List Nat}
    (hcounted : DemandCounted B A cfg s (.call c)) (hfree : s.registration = none)
    (hc : demandOf c = some (l, bids)) :
    (call B A cfg s.adapter c).2.adapter.telemetry.demandReads ≤
      s.adapter.telemetry.demandReads +
        ((stagedOf s.adapter l bids).length + (missing s.adapter l bids).length) := by
  obtain ⟨outcome, houtcome, -⟩ := @readDemand_call σ B A cfg s.adapter c l bids hc
  have hread := hcounted c l bids outcome rfl hfree hc houtcome
  rcases outcome with (_ | _) | _
  · obtain ⟨hits, misses, hhits, hmisses, hcount⟩ := hread
    exact hcount.reads_eq.trans_le (by omega)
  · exact hread.reads_eq.trans_le (by omega)
  · exact hread.reads_eq.trans_le (by omega)

/-- A batch read of one block of an empty file is two demand reads. -/
theorem file_batch_counts_a_miss_twice :
    ¬ DemandCounted fileStorage floatNumerics.toAstype oneBlockConfig
      (init oneBlockConfig (.create 2)) (.call (.readKeyPageBatch 0 [0] 0 0)) := by
  intro hcounted
  have hle := demandReads_le_of_counted hcounted rfl rfl
  revert hle
  decide +kernel

end Pipeline

end AiSsd.Prefetch.Async
