import AiSsd.Trace.ReplayConservation

/-!
# Deeper queues

A batch costs its overhead and the load of its busiest channel. Two batches served as one have
the overhead once, and their busiest channel has no more than the two busiest together. So a
queue of a multiple of the depth serves the same reads in no more time; all the other counters
do not depend on the depth.
-/

namespace AiSsd.Trace

open Lib Lib.Batches Storage

/-! ## Channel loads -/

theorem foldl_max_le_iff (xs : List Nat) (first bound : Nat) :
    xs.foldl max first ≤ bound ↔ first ≤ bound ∧ ∀ x ∈ xs, x ≤ bound := by
  induction xs generalizing first with
  | nil => simp
  | cons x xs ih =>
      rw [List.foldl_cons, ih, Nat.max_le, List.forall_mem_cons]
      exact and_assoc

variable {mapper : DeterministicTensorMapper}

def channelLoad (batch : List (Fin mapper.channels × Fin mapper.diesPerChannel))
    (ch : Fin mapper.channels) : Nat :=
  batch.countP fun other => other.1 = ch

/-- The largest load bounds that of every channel, also of those the batch leaves out. -/
theorem maxLoad_le_iff (batch : List (Fin mapper.channels × Fin mapper.diesPerChannel))
    (bound : Nat) : maxLoad batch ≤ bound ↔ ∀ ch, channelLoad batch ch ≤ bound := by
  have hitems : maxLoad batch ≤ bound ↔ ∀ item ∈ batch, channelLoad batch item.1 ≤ bound := by
    unfold maxLoad
    rw [foldl_max_le_iff, and_iff_right (Nat.zero_le bound), List.forall_mem_map]
    rfl
  rw [hitems]
  constructor
  · intro h ch
    by_cases hidle : channelLoad batch ch = 0
    · rw [hidle]
      exact Nat.zero_le bound
    · obtain ⟨item, hitem, hch⟩ := List.countP_pos_iff.mp (Nat.pos_of_ne_zero hidle)
      rw [← of_decide_eq_true hch]
      exact h item hitem
  · intro h item _
    exact h item.1

theorem maxLoad_append_le (first rest : List (Fin mapper.channels × Fin mapper.diesPerChannel)) :
    maxLoad (first ++ rest) ≤ maxLoad first + maxLoad rest := by
  rw [maxLoad_le_iff]
  intro ch
  have hfirst := (maxLoad_le_iff first _).mp (Nat.le_refl _) ch
  have hrest := (maxLoad_le_iff rest _).mp (Nat.le_refl _) ch
  unfold channelLoad at *
  rw [List.countP_append]
  omega

theorem processBatch_of_ne_nil (costs : BatchCosts)
    {batch : List (Fin mapper.channels × Fin mapper.diesPerChannel)} (h : batch ≠ []) :
    processBatch costs batch =
      costs.pcieOverheadUs + maxLoad batch * (costs.tRUs + costs.busTransferUs) := by
  cases batch with
  | nil => exact absurd rfl h
  | cons item batch => rfl

/-- Serving two batches as one takes no longer. -/
theorem subadditive_processBatch (mapper : DeterministicTensorMapper) (costs : BatchCosts) :
    Subadditive (@processBatch mapper costs) where
  nil := rfl
  append := by
    intro first rest
    by_cases hfirst : first = []
    · simp [hfirst, processBatch]
    · by_cases hrest : rest = []
      · simp [hrest, processBatch]
      · have hload : (maxLoad (first ++ rest) : Rat) ≤ maxLoad first + maxLoad rest := by
          exact_mod_cast maxLoad_append_le first rest
        have hpage : 0 ≤ costs.tRUs + costs.busTransferUs :=
          add_nonneg costs.tR_nonneg costs.bus_nonneg
        have hpages := mul_le_mul_of_nonneg_right hload hpage
        have hoverhead := costs.pcie_nonneg
        rw [processBatch_of_ne_nil costs (by simp [hfirst]), processBatch_of_ne_nil costs hfirst,
          processBatch_of_ne_nil costs hrest]
        rw [add_mul] at hpages
        linarith

namespace StorageTraceReplayer

variable {replayer : StorageTraceReplayer} {mode : MappingMode}

/-! ## Two depths -/

def withQueueDepth (replayer : StorageTraceReplayer) (depth : Nat) : StorageTraceReplayer :=
  { replayer with queueDepth := depth }

theorem reports_of_seen {s t : ReplayState replayer.mapper} (h : s.blockIdsSeen = t.blockIdsSeen)
    (depth other events : Nat) :
    (∃ err, (replayer.withQueueDepth depth).report mode s events = .error err ∧
        (replayer.withQueueDepth other).report mode t events = .error err) ∨
      ∃ one two, (replayer.withQueueDepth depth).report mode s events = .ok one ∧
        (replayer.withQueueDepth other).report mode t events = .ok two ∧
        one.totalSimulatedLatencyUs = s.readLatenciesUs.sum ∧
        two.totalSimulatedLatencyUs = t.readLatenciesUs.sum := by
  unfold report
  rw [h]
  cases extremeKey BlockKey.less t.blockIdsSeen with
  | error err => exact .inl ⟨err, rfl, rfl⟩
  | ok lo =>
      cases extremeKey (fun a b => b.less a) t.blockIdsSeen with
      | error err => exact .inl ⟨err, rfl, rfl⟩
      | ok hi => exact .inr ⟨_, _, rfl, rfl, rfl, rfl⟩

/-- A queue of a multiple of the depth serves the reads of a trace in no more time. -/
theorem deeper_queue_no_slower (py : PyText) (percent : String → Int → Except PyErr String)
    (costs : BatchCosts) (replayer : StorageTraceReplayer) (mode : MappingMode)
    (blocksPerHead : Int) (entries : List TraceEntry) {d m : Nat} (hd : 0 < d) (hm : 0 < m) :
    (∃ err,
        (replayer.withQueueDepth d).replay py percent costs mode blocksPerHead entries =
          .error err ∧
        (replayer.withQueueDepth (m * d)).replay py percent costs mode blocksPerHead entries =
          .error err) ∨
      ∃ shallow deep,
        (replayer.withQueueDepth d).replay py percent costs mode blocksPerHead entries =
          .ok shallow ∧
        (replayer.withQueueDepth (m * d)).replay py percent costs mode blocksPerHead entries =
          .ok deep ∧
        deep.totalSimulatedLatencyUs ≤ shallow.totalSimulatedLatencyUs := by
  have hrun : ∀ depth, (replayer.withQueueDepth depth).replay py percent costs mode blocksPerHead
      entries = (entries.mapM (replayer.serve py percent mode blocksPerHead)).bind fun served =>
        (replayer.withQueueDepth depth).report mode
          ((served.foldl (fun s r => s.count costs depth r)
            (ReplayState.init replayer.mapper)).flush costs) entries.length :=
    fun depth => replay_eq entries
  rw [hrun, hrun]
  cases entries.mapM (replayer.serve py percent mode blocksPerHead) with
  | error err => exact .inl ⟨err, rfl, rfl⟩
  | ok served =>
      have hshallow := ReplayState.tallies_foldl costs d served
      have hdeep := ReplayState.tallies_foldl costs (m * d) served
      have hseen : ((served.foldl (fun s r => s.count costs d r)
          (ReplayState.init replayer.mapper)).flush costs).blockIdsSeen =
            ((served.foldl (fun s r => s.count costs (m * d) r)
              (ReplayState.init replayer.mapper)).flush costs).blockIdsSeen := by
        rw [ReplayState.blockIdsSeen_flush, ReplayState.blockIdsSeen_flush, hshallow.seen,
          hdeep.seen]
      rcases @reports_of_seen replayer mode _ _ hseen d (m * d) entries.length with
        herr | ⟨shallow, deep, hone, htwo, hshallowSum, hdeepSum⟩
      · exact .inl herr
      · refine .inr ⟨shallow, deep, hone, htwo, ?_⟩
        rw [hshallowSum, hdeepSum, hshallow.latencies_flush hd,
          hdeep.latencies_flush (Nat.mul_pos hm hd)]
        exact sum_chunks_mul_le (subadditive_processBatch _ costs) hd hm (reads served)

/-- A page of 4096 bytes read from the first block of a layer. -/
def pageRead (layer : Nat) : TraceEntry :=
  .raw [("op", .str "READ"), ("layer_id", .int layer), ("head_id", .int 0), ("token_idx", .int 0),
    ("bytes", .int 4096)] rfl

/-- Two reads of one channel, in two batches and in one. -/
theorem deeper_queue_two_reads : ∃ shallow deep,
    (defaultReplayer.withQueueDepth 1).replay .integers (fun _ _ => .error .typeError) .source
      .tensorAware 44 [pageRead 0, pageRead 8] = .ok shallow ∧
    (defaultReplayer.withQueueDepth (2 * 1)).replay .integers (fun _ _ => .error .typeError) .source
      .tensorAware 44 [pageRead 0, pageRead 8] = .ok deep ∧
    deep.totalSimulatedLatencyUs ≤ shallow.totalSimulatedLatencyUs := by
  have hreturns : ((defaultReplayer.withQueueDepth 1).replay .integers
      (fun _ _ => .error .typeError) .source .tensorAware 44 [pageRead 0, pageRead 8]).map
        ReplayReport.totalSimulatedLatencyUs = .ok 80 := by decide +kernel
  rcases deeper_queue_no_slower .integers (fun _ _ => .error .typeError) .source defaultReplayer
    .tensorAware 44 [pageRead 0, pageRead 8] Nat.one_pos Nat.two_pos with ⟨err, herr, -⟩ | h
  · rw [herr] at hreturns
    cases hreturns
  · exact h

end StorageTraceReplayer

end AiSsd.Trace
