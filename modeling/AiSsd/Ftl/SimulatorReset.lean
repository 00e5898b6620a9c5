import AiSsd.Ftl.StoreTiming

/-!
# Resetting the simulator

A reset goes over the channels: buses, queues and dies are as new afterwards. The translation
layer and the pages of the dies are not reset, so a simulator behaves as a new one exactly when
nothing had been stored.
-/

namespace AiSsd.Ftl

open Lib Channels

namespace TimedSimulator

variable {cfg : SimulatorConfig} (s : TimedSimulator cfg)

/-! ## Reads and the reset -/

/-- `ChannelTransferRequest(..., op_type="READ")`. -/
def readRequest (l : PhysicalLocation) : ChannelTransferRequest where
  dieId := l.die
  opType := .read
  arrivalTimeUs := 0
  transferTimeUs := busTransferUsPerPage
  startTimeUs := 0
  completionTimeUs := 0

def enqueueRead (channels : List FlashChannel) (l : PhysicalLocation) : List FlashChannel :=
  match channels[l.ch]? with
  | none => channels
  | some channel => channels.set l.ch (channel.enqueueRequest (readRequest l))

/-- What the loop of `estimate_read_latency` does to the channels. -/
def enqueueEach (blockIds : List Int) (channels : List FlashChannel) : List FlashChannel :=
  blockIds.foldl
    (fun channels bid =>
      match (s.simulator.getLocation bid).bind parsePhysicalLocation with
      | none => channels
      | some l => enqueueRead channels l)
    channels

def estimateReadLatency (blockIds : List Int) : Nat × TimedSimulator cfg :=
  let r := s.simulator.estimateReadLatency blockIds
  (r.1,
    { simulator := r.2
      channels := (s.enqueueEach blockIds s.channels).map fun ch => (ch.processQueue 0).2 })

/-- A block or the id of one; anything else in the list is passed over. -/
inductive ReadItem where
  | block (b : KVBlock)
  | id (blockId : Int)
  | other

def ReadItem.blockId? : ReadItem → Option Int
  | .block b => some b.blockId
  | .id blockId => some blockId
  | .other => none

def readBlocks (blocks : List ReadItem) : Nat × TimedSimulator cfg :=
  s.estimateReadLatency (blocks.filterMap ReadItem.blockId?)

def reset : TimedSimulator cfg := { s with channels := s.channels.map FlashChannel.reset }

/-! ## Runs -/

inductive Op where
  | storeBlock (block : KVBlock)
  | loadBlock (blockId : Int)
  | getLocation (blockId : Int)
  | readBlocks (blocks : List ReadItem)
  | estimateReadLatency (blockIds : List Int)
  | reset

inductive Answer where
  | location (loc : Text)
  | block (b : Option KVBlock)
  | found (loc : Option Text)
  | latency (us : Nat)
  | done

def step (s : TimedSimulator cfg) : Op → Except PyErr Answer × TimedSimulator cfg
  | .storeBlock block => let r := s.storeBlock block; (r.1.1.map .location, r.2)
  | .loadBlock blockId => (.ok (.block (s.simulator.allocator.loadBlock blockId)), s)
  | .getLocation blockId => (.ok (.found (s.simulator.getLocation blockId)), s)
  | .readBlocks blocks => let r := s.readBlocks blocks; (.ok (.latency r.1), r.2)
  | .estimateReadLatency blockIds =>
      let r := s.estimateReadLatency blockIds
      (.ok (.latency r.1), r.2)
  | .reset => (.ok .done, s.reset)

variable (cfg) in
def simulatorMachine : Machine (TimedSimulator cfg) Op (Except PyErr Answer) where
  step := step

def pageStates (s : TimedSimulator cfg) : PhysicalLocation → FlashPage := s.simulator.pages

def Op.IsStore : Op → Prop
  | .storeBlock _ => True
  | _ => False

def Mapped (s : TimedSimulator cfg) : Prop := ∃ b loc, s.simulator.getLocation b = some loc

/-! ## The channels -/

theorem reset_init (mode : FtlMode) : (init cfg mode).reset = init cfg mode := by
  simp [reset, init, FlashChannel.reset, FlashChannel.init, FlashDie.reset]

/-! ## Without a store -/

theorem readEach_unmapped {s : StorageSimulator cfg} (h : ∀ b, s.getLocation b = none)
    (blockIds : List Int) (locations : List Text) :
    StorageSimulator.readEach blockIds locations s = (locations, s) := by
  induction blockIds with
  | nil => rfl
  | cons bid blockIds ih => rw [StorageSimulator.readEach, h bid, ih]

theorem estimateReadLatency_unmapped (h : ∀ b, s.simulator.getLocation b = none)
    (hqueues : ∀ ch ∈ s.channels, ch.queue = []) (blockIds : List Int) :
    s.estimateReadLatency blockIds = (0, s) := by
  have hchannels : s.enqueueEach blockIds s.channels = s.channels := by
    simp [enqueueEach, h]
  have hprocess : s.channels.map (fun ch => (ch.processQueue 0).2) = s.channels := by
    refine (List.map_congr_left ?_).trans s.channels.map_id
    intro ch hch
    have hqueue := hqueues ch hch
    obtain ⟨dies, bus, queue, completed⟩ := ch
    cases hqueue
    rfl
  simp [estimateReadLatency, StorageSimulator.estimateReadLatency, readEach_unmapped h, hchannels,
    hprocess, batchReadLatency]

theorem getLocation_init (mode : FtlMode) (b : Int) :
    (init cfg mode).simulator.getLocation b = none := by
  cases mode <;> rfl

/-- Every call but a store leaves a new simulator as it is. -/
theorem step_init {mode : FtlMode} {op : Op} (hop : ¬ op.IsStore) :
    ((init cfg mode).step op).2 = init cfg mode := by
  have hread := (init cfg mode).estimateReadLatency_unmapped (getLocation_init mode)
    (by simp [init, FlashChannel.init])
  cases op with
  | storeBlock block => exact absurd trivial hop
  | loadBlock blockId => rfl
  | getLocation blockId => rfl
  | readBlocks blocks => simp [step, readBlocks, hread]
  | estimateReadLatency blockIds => simp [step, hread]
  | reset => exact reset_init mode

/-! ## After a store -/

theorem mapped_storeBlock {s : TimedSimulator cfg} {block : KVBlock} {l : PhysicalLocation}
    (h : s.simulator.nextPage block = some l) : Mapped (s.storeBlock block).2 := by
  refine ⟨block.blockId, l.text, ?_⟩
  rw [(storeBlock_simulator s block).2, StorageSimulator.getLocation_storeBlock h, if_pos rfl]

theorem Mapped.estimateReadLatency {s : TimedSimulator cfg} (h : s.Mapped) (blockIds : List Int) :
    (s.estimateReadLatency blockIds).2.Mapped := by
  obtain ⟨b, loc, hloc⟩ := h
  refine ⟨b, loc, ?_⟩
  have halloc := (StorageSimulator.readEach_keeps blockIds [] s.simulator).1
  rw [StorageSimulator.getLocation] at hloc ⊢
  rw [← hloc]
  exact congrArg (fun a => KVStorageAllocator.getLocation a b) halloc

/-- No call unmaps a block, nor does a reset. -/
theorem Mapped.step {s : TimedSimulator cfg} (h : s.Mapped) (op : Op) : (s.step op).2.Mapped := by
  cases op with
  | storeBlock block =>
      cases hnext : s.simulator.nextPage block with
      | some l => exact mapped_storeBlock hnext
      | none =>
          have hsame : (s.storeBlock block).2.simulator = s.simulator := by
            rw [(storeBlock_simulator s block).2, StorageSimulator.storeBlock_refused hnext]
          simpa only [TimedSimulator.step, Mapped, hsame] using h
  | loadBlock blockId => exact h
  | getLocation blockId => exact h
  | readBlocks blocks => exact h.estimateReadLatency _
  | estimateReadLatency blockIds => exact h.estimateReadLatency blockIds
  | reset => exact h

/-- The first store is never refused. -/
theorem exists_nextPage_init (mode : FtlMode) (block : KVBlock) :
    ∃ l, (init cfg mode).simulator.nextPage block = some l := by
  cases mode with
  | tensorAware => exact ⟨_, rfl⟩
  | conventional =>
      refine ⟨_, if_neg ?_⟩
      have hroom : 0 < cfg.ftlGeometry.totalPages := by
        simp [FtlGeometry.totalPages, SimulatorConfig.ftlGeometry, cfg.channels_pos]
      exact Nat.not_le_of_lt hroom

theorem estimateReadLatency_mapped {b : Int} {loc : Text}
    (h : s.simulator.getLocation b = some loc) : (s.estimateReadLatency [b]).1 ≠ 0 := by
  have hread : (StorageSimulator.readEach [b] [] s.simulator).1 = [loc] := by
    rw [StorageSimulator.readEach, h]
    dsimp only
    split <;> rfl
  simp [estimateReadLatency, StorageSimulator.estimateReadLatency, hread, batchReadLatency]

/-- Once something was stored, some block stays mapped. -/
theorem mapped_exec {mode : FtlMode} {ops : List Op} (h : ∃ op ∈ ops, op.IsStore) :
    Mapped ((simulatorMachine cfg).exec (init cfg mode) ops) := by
  induction ops with
  | nil => simp at h
  | cons op ops ih =>
      rw [Machine.exec_cons]
      by_cases hop : op.IsStore
      · apply (simulatorMachine cfg).exec_invariant (I := Mapped) fun s op hs => hs.step op
        cases op with
        | storeBlock block =>
            have hpage : ∃ l, (init cfg mode).simulator.nextPage block = some l :=
              exists_nextPage_init mode block
            obtain ⟨l, hl⟩ := hpage
            exact mapped_storeBlock hl
        | _ => exact absurd hop id
      · have hsame : ((simulatorMachine cfg).step (init cfg mode) op).2 = init cfg mode :=
          step_init hop
        rw [hsame]
        apply ih
        simpa [hop] using h

/-- After a run, a reset simulator behaves as a new one exactly when the run stored nothing. -/
theorem reset_behaves_iff (mode : FtlMode) (ops : List Op) :
    (simulatorMachine cfg).BehavesAs pageStates
        ((simulatorMachine cfg).exec (init cfg mode) ops).reset (init cfg mode) ↔
      ∀ op ∈ ops, ¬ op.IsStore := by
  constructor
  · intro hbehaves
    by_contra hstored
    have hex : ∃ op ∈ ops, op.IsStore := by simpa using hstored
    -- a block that is still mapped is read, and a new simulator does not know it
    obtain ⟨b, loc, hloc⟩ : Mapped ((simulatorMachine cfg).exec (init cfg mode) ops).reset :=
      mapped_exec hex
    have hanswer := hbehaves.answer (.estimateReadLatency [b])
    have hnew := (init cfg mode).estimateReadLatency_unmapped (getLocation_init mode)
      (by simp [init, FlashChannel.init]) [b]
    simp only [simulatorMachine, step, hnew, Except.ok.injEq, Answer.latency.injEq] at hanswer
    exact estimateReadLatency_mapped _ hloc hanswer
  · intro hops
    have hsame : (simulatorMachine cfg).exec (init cfg mode) ops = init cfg mode :=
      (simulatorMachine cfg).exec_eq_self fun op hop => step_init (hops op hop)
    rw [hsame, reset_init]
    exact .refl _ _ _

/-- One block is stored and found again after the reset. -/
theorem reset_keeps_location :
    let config := StorageSimulator.defaultConfig
    let stored := ((simulatorMachine config).exec (init config .tensorAware)
      [.storeBlock ⟨0, 0, 0, 16, 0, "SSD", none⟩]).reset
    (stored.estimateReadLatency [0]).1 = 40 ∧
      ((init config .tensorAware).estimateReadLatency [0]).1 = 0 ∧
      ¬ (simulatorMachine config).BehavesAs pageStates stored (init config .tensorAware) := by
  intro config stored
  have hold : (stored.estimateReadLatency [0]).1 = 40 := by decide +kernel
  have hnew : ((init config .tensorAware).estimateReadLatency [0]).1 = 0 := by decide +kernel
  refine ⟨hold, hnew, fun hbehaves => ?_⟩
  have hanswer := hbehaves.answer (.estimateReadLatency [0])
  simp only [simulatorMachine, step, Except.ok.injEq, Answer.latency.injEq] at hanswer
  rw [hold, hnew] at hanswer
  cases hanswer

end TimedSimulator

end AiSsd.Ftl
