import AiSsd.Lib.Recency
import AiSsd.Trace.ReplayRecords

/-!
# The counters of a replay

What the counters hold after the records that were served: each record is counted on its channel
and its die, its block id is seen, its bytes are read or written, and a read is queued. The bytes
are key bytes, value bytes or combined when the sub-page is one of the three, and in no counter
of a sub-page otherwise.
-/

namespace AiSsd.Trace

open Lib Lib.Batches Lib.Recency Storage

variable {mapper : DeterministicTensorMapper} {costs : BatchCosts} {queueDepth : Nat}

def subPages : List String := ["KEY", "VALUE", "BOTH"]

def reads (served : List (Served mapper)) :
    List (Fin mapper.channels × Fin mapper.diesPerChannel) :=
  (served.filter fun r => !isWrite r.record).map fun r => (r.channel, r.die)

theorem reads_append (first rest : List (Served mapper)) :
    reads (first ++ rest) = reads first ++ reads rest := by
  simp [reads]

def unnamedBytes (served : List (Served mapper)) : Rat :=
  ((served.filter fun r => r.record.subPage ∉ subPages).map Served.bytes).sum

namespace ReplayState

structure Tallies (s : ReplayState mapper) (costs : BatchCosts) (queueDepth : Nat)
    (served : List (Served mapper)) : Prop where
  channels : ∀ ch, s.channelAccessCounts ch = served.countP fun r => r.channel = ch
  dies : ∀ die, s.dieAccessCounts die = served.countP fun r => r.die = die
  seen : s.blockIdsSeen = firstOccurrences (served.map Served.key)
  bytes : s.kBytes + s.vBytes + s.combinedBytes + unnamedBytes served =
    s.totalReadBytes + s.totalWriteBytes
  latencies : s.readLatenciesUs =
    ((reads served).foldl (push queueDepth) ([], [])).1.map (processBatch costs)
  queue : s.batchQueue = ((reads served).foldl (push queueDepth) ([], [])).2

variable {s : ReplayState mapper} {served : List (Served mapper)} {r : Served mapper}

/-! ## One record -/

theorem enqueue_keeps (item : Fin mapper.channels × Fin mapper.diesPerChannel) :
    s.enqueue costs queueDepth item =
      { s with
        readLatenciesUs := (s.enqueue costs queueDepth item).readLatenciesUs
        batchQueue := (s.enqueue costs queueDepth item).batchQueue } := by
  unfold enqueue
  dsimp only
  split <;> rfl

/-- Whether or not the record is queued, the other counters are the same. -/
theorem count_keeps (s : ReplayState mapper) (r : Served mapper) :
    s.count costs queueDepth r =
      { channelAccessCounts := Function.update s.channelAccessCounts r.channel
          (s.channelAccessCounts r.channel + 1)
        dieAccessCounts := Function.update s.dieAccessCounts r.die (s.dieAccessCounts r.die + 1)
        blockIdsSeen :=
          if r.key ∈ s.blockIdsSeen then s.blockIdsSeen else s.blockIdsSeen ++ [r.key]
        opCounts := s.opCounts.set r.record.operation
          ((s.opCounts.get? r.record.operation).getD 0 + 1)
        totalReadBytes :=
          if isWrite r.record then s.totalReadBytes else s.totalReadBytes + r.bytes
        totalWriteBytes :=
          if isWrite r.record then s.totalWriteBytes + r.bytes else s.totalWriteBytes
        kBytes := if r.record.subPage = "KEY" then s.kBytes + r.bytes else s.kBytes
        vBytes := if r.record.subPage = "VALUE" then s.vBytes + r.bytes else s.vBytes
        combinedBytes :=
          if r.record.subPage = "BOTH" then s.combinedBytes + r.bytes else s.combinedBytes
        readLatenciesUs := (s.count costs queueDepth r).readLatenciesUs
        batchQueue := (s.count costs queueDepth r).batchQueue } := by
  unfold count
  dsimp only
  split
  · rfl
  · rw [enqueue_keeps]

theorem count_total (s : ReplayState mapper) (r : Served mapper) :
    (s.count costs queueDepth r).totalReadBytes + (s.count costs queueDepth r).totalWriteBytes =
      s.totalReadBytes + s.totalWriteBytes + r.bytes := by
  rw [count_keeps]
  dsimp only
  split <;> ring

theorem count_named (s : ReplayState mapper) (r : Served mapper) :
    (s.count costs queueDepth r).kBytes + (s.count costs queueDepth r).vBytes +
        (s.count costs queueDepth r).combinedBytes =
      s.kBytes + s.vBytes + s.combinedBytes +
        if r.record.subPage ∈ subPages then r.bytes else 0 := by
  rw [count_keeps]
  dsimp only
  by_cases hkey : r.record.subPage = "KEY"
  · simp [hkey, subPages]
    ring
  · by_cases hvalue : r.record.subPage = "VALUE"
    · simp [hvalue, subPages]
      ring
    · by_cases hboth : r.record.subPage = "BOTH"
      · simp [hboth, subPages]
        ring
      · simp [hkey, hvalue, hboth, subPages]

theorem count_queue (s : ReplayState mapper) (r : Served mapper) {done : List (List _)}
    (hdone : s.readLatenciesUs = done.map (processBatch costs)) :
    (s.count costs queueDepth r).readLatenciesUs =
        ((reads [r]).foldl (push queueDepth) (done, s.batchQueue)).1.map (processBatch costs) ∧
      (s.count costs queueDepth r).batchQueue =
        ((reads [r]).foldl (push queueDepth) (done, s.batchQueue)).2 := by
  unfold count reads
  dsimp only
  cases hwrite : isWrite r.record with
  | true => simp [hwrite, hdone]
  | false =>
      simp only [hwrite, List.filter_cons, List.filter_nil, Bool.not_false, if_true,
        List.map_cons, List.map_nil, List.foldl_cons, List.foldl_nil, Bool.false_eq_true, if_false]
      unfold enqueue push
      dsimp only
      split
      · simp [hdone]
      · exact ⟨hdone, rfl⟩

theorem unnamedBytes_concat (served : List (Served mapper)) (r : Served mapper) :
    unnamedBytes (served ++ [r]) =
      unnamedBytes served + if r.record.subPage ∈ subPages then 0 else r.bytes := by
  unfold unnamedBytes
  rw [List.filter_append, List.map_append, List.sum_append]
  by_cases hnamed : r.record.subPage ∈ subPages <;> simp [hnamed]

theorem Tallies.count (h : s.Tallies costs queueDepth served) (r : Served mapper) :
    (s.count costs queueDepth r).Tallies costs queueDepth (served ++ [r]) where
  channels := by
    intro ch
    rw [count_keeps, List.countP_append, ← h.channels]
    dsimp only
    rw [Function.update_apply]
    by_cases hch : r.channel = ch
    · simp [hch]
    · simp [hch, Ne.symm hch]
  dies := by
    intro die
    rw [count_keeps, List.countP_append, ← h.dies]
    dsimp only
    rw [Function.update_apply]
    by_cases hdie : r.die = die
    · simp [hdie]
    · simp [hdie, Ne.symm hdie]
  seen := by
    rw [count_keeps, List.map_append, List.map_singleton, firstOccurrences_concat, ← h.seen]
  bytes := by
    have htotal := @count_total _ costs queueDepth s r
    have hnamed := @count_named _ costs queueDepth s r
    have hbefore := h.bytes
    rw [unnamedBytes_concat, htotal, hnamed, ← hbefore]
    split <;> ring
  latencies := by
    have hqueue := @count_queue _ costs queueDepth s r _ h.latencies
    rw [hqueue.1, h.queue, reads_append, List.foldl_append]
  queue := by
    have hqueue := @count_queue _ costs queueDepth s r _ h.latencies
    rw [hqueue.2, h.queue, reads_append, List.foldl_append]

theorem tallies_init (mapper : DeterministicTensorMapper) (costs : BatchCosts) (queueDepth : Nat) :
    (init mapper).Tallies costs queueDepth [] :=
  ⟨by simp [init], by simp [init], by simp [init, firstOccurrences],
    by simp [init, unnamedBytes], by simp [init, reads], by simp [init, reads]⟩

theorem tallies_foldl (costs : BatchCosts) (queueDepth : Nat) (served : List (Served mapper)) :
    (served.foldl (fun s r => s.count costs queueDepth r) (init mapper)).Tallies costs queueDepth
      served := by
  induction served using List.reverseRecOn with
  | nil => exact tallies_init mapper costs queueDepth
  | append_singleton served r ih =>
      rw [List.foldl_append, List.foldl_cons, List.foldl_nil]
      exact ih.count r

theorem Tallies.latencies_flush (h : s.Tallies costs queueDepth served) (hdepth : 0 < queueDepth) :
    (s.flush costs).readLatenciesUs =
      (chunks queueDepth (reads served)).map (processBatch costs) := by
  have hpush := @flush_foldl_push _ _ hdepth [] [] (by simpa using hdepth) (reads served)
  rw [List.nil_append, List.nil_append] at hpush
  rw [← hpush, ReplayState.flush, Batches.flush, h.queue]
  split
  · exact h.latencies
  · rw [List.map_append, ← h.latencies]
    rfl

end ReplayState

namespace StorageTraceReplayer

variable {py : PyText} {percent : String → Int → Except PyErr String}
  {replayer : StorageTraceReplayer} {mode : MappingMode} {blocksPerHead : Int}

/-! ## The loop -/

/-- The loop serves all entries, or raises what the first one raises that is not served. -/
theorem replayEach_eq (costs : BatchCosts) (entries : List TraceEntry)
    (s : ReplayState replayer.mapper) :
    replayer.replayEach py percent costs mode blocksPerHead entries s =
      (entries.mapM (replayer.serve py percent mode blocksPerHead)).map fun served =>
        served.foldl (fun s r => s.count costs replayer.queueDepth r) s := by
  induction entries generalizing s with
  | nil => rfl
  | cons entry entries ih =>
      rw [replayEach, List.mapM_cons]
      cases replayer.serve py percent mode blocksPerHead entry with
      | error err => rfl
      | ok served =>
          dsimp only
          rw [ih]
          cases entries.mapM (replayer.serve py percent mode blocksPerHead) <;> rfl

end StorageTraceReplayer

end AiSsd.Trace
