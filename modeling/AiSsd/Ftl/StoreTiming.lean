import AiSsd.Channels.Schedule
import AiSsd.Ftl.PageAgreement

/-!
# The times of a store

A store books the bus of the channel for the page and the die for its program, both from time
zero on, so the program starts as soon as the die is free, whatever the bus does. On an idle
channel that is before the page has been transferred.
-/

namespace AiSsd.Ftl

open Lib Channels

structure TimedSimulator (cfg : SimulatorConfig) where
  simulator : StorageSimulator cfg
  channels : List FlashChannel

structure PageTiming where
  transfer : Reservation Rat
  program : Reservation Rat
deriving DecidableEq

namespace TimedSimulator

variable {cfg : SimulatorConfig}

variable (cfg) in
def init (mode : FtlMode) : TimedSimulator cfg where
  simulator := StorageSimulator.init cfg mode
  channels := List.replicate cfg.channels (FlashChannel.init cfg.diesPerChannel cfg.planesPerDie)

/-- The end of `store_block`: with the channel and the die in the lists, whether or not the page
was programmed. -/
def bookPage (channels : List FlashChannel) (l : PhysicalLocation) :
    Option PageTiming × List FlashChannel :=
  match channels[l.ch]? with
  | none => (none, channels)
  | some channel =>
      match channel.dies[l.die]? with
      | none => (none, channels)
      | some die =>
          let transfer := channel.scheduleTransfer 0 busTransferUsPerPage
          let program := die.scheduleProgram 0
          (some ⟨transfer.1, program.1⟩,
            channels.set l.ch { transfer.2 with dies := channel.dies.set l.die program.2 })

def storeBlock (s : TimedSimulator cfg) (block : KVBlock) :
    (Except PyErr Text × Option PageTiming) × TimedSimulator cfg :=
  let r := s.simulator.storeBlock block
  match r.1 with
  | .error err => ((.error err, none), { s with simulator := r.2 })
  | .ok loc =>
      match parsePhysicalLocation loc with
      | none => ((.ok loc, none), { s with simulator := r.2 })
      | some l =>
          let booked := bookPage s.channels l
          ((.ok loc, booked.1), { simulator := r.2, channels := booked.2 })

variable (cfg) in
/-- Runs of `store_block`. -/
def machine : Machine (TimedSimulator cfg) KVBlock (Except PyErr Text × Option PageTiming) where
  step := storeBlock

/-- The program of the page starts when its transfer has completed, or later. -/
def ProgramsAfterTransfer (s : TimedSimulator cfg) (block : KVBlock) : Prop :=
  ∀ timing, (s.storeBlock block).1.2 = some timing → timing.transfer.finish ≤ timing.program.start

/-- The block is refused, or placed on a die that the simulator does not have. -/
def PlacedOffDies (s : TimedSimulator cfg) (block : KVBlock) : Prop :=
  ∀ l, s.simulator.nextPage block = some l →
    ¬ (l.ch < cfg.channels ∧ l.die < cfg.diesPerChannel)

def Idle (s : TimedSimulator cfg) : Prop := s.channels = (init cfg .tensorAware).channels

variable {s : TimedSimulator cfg} {block : KVBlock}

/-! ## One store -/

theorem storeBlock_simulator (s : TimedSimulator cfg) (block : KVBlock) :
    (s.storeBlock block).1.1 = (s.simulator.storeBlock block).1 ∧
      (s.storeBlock block).2.simulator = (s.simulator.storeBlock block).2 := by
  unfold storeBlock
  dsimp only
  split
  · rename_i err h
    exact ⟨h.symm, rfl⟩
  · rename_i loc h
    split <;> exact ⟨h.symm, rfl⟩

theorem storeBlock_refused (h : s.simulator.nextPage block = none) :
    (s.storeBlock block).1.2 = none ∧ (s.storeBlock block).2.channels = s.channels := by
  simp [storeBlock, StorageSimulator.storeBlock_refused h]

theorem storeBlock_placed {l : PhysicalLocation} (h : s.simulator.nextPage block = some l) :
    (s.storeBlock block).1.2 = (bookPage s.channels l).1 ∧
      (s.storeBlock block).2.channels = (bookPage s.channels l).2 := by
  simp [storeBlock, StorageSimulator.answer_storeBlock h, parsePhysicalLocation_text]

/-- A program starts after the transfer when the die stays busy for longer than the bus does,
by a transfer at least. -/
theorem programsAfterTransfer_iff {l : PhysicalLocation} {channel : FlashChannel} {die : FlashDie}
    (h : s.simulator.nextPage block = some l) (hchannel : s.channels[l.ch]? = some channel)
    (hdie : channel.dies[l.die]? = some die) :
    s.ProgramsAfterTransfer block ↔
      max 0 channel.busBusyUntilUs + busTransferUsPerPage ≤ max 0 die.busyUntilUs := by
  simp [ProgramsAfterTransfer, storeBlock_placed h, bookPage, hchannel, hdie,
    FlashChannel.scheduleTransfer, FlashDie.scheduleProgram, FlashDie.schedule]

theorem storeBlock_off (hidle : s.Idle) (h : s.PlacedOffDies block) :
    (s.storeBlock block).1.2 = none ∧ (s.storeBlock block).2.channels = s.channels := by
  cases hnext : s.simulator.nextPage block with
  | none => exact storeBlock_refused hnext
  | some l =>
      have hbook : bookPage s.channels l = (none, s.channels) := by
        have hoff := h l hnext
        rw [hidle]
        by_cases hch : l.ch < cfg.channels
        · have hdie : ¬ l.die < cfg.diesPerChannel := fun hlt => hoff ⟨hch, hlt⟩
          simp [bookPage, init, FlashChannel.init, hch, hdie]
        · simp [bookPage, init, hch]
      have hplaced := storeBlock_placed hnext
      rw [hbook] at hplaced
      exact hplaced

/-- On idle channels a program never waits for its page. -/
theorem programsAfterTransfer_iff_off (hidle : s.Idle) :
    s.ProgramsAfterTransfer block ↔ s.PlacedOffDies block := by
  constructor
  · intro hafter l hnext hlands
    have hchannel : s.channels[l.ch]? =
        some (FlashChannel.init cfg.diesPerChannel cfg.planesPerDie) := by
      rw [hidle]
      simp [init, hlands.1]
    have hdie : (FlashChannel.init cfg.diesPerChannel cfg.planesPerDie).dies[l.die]? =
        some ⟨cfg.planesPerDie, 0⟩ := by
      simp [FlashChannel.init, hlands.2]
    rw [programsAfterTransfer_iff hnext hchannel hdie] at hafter
    have hearly : ¬ (max 0 0 + busTransferUsPerPage : Rat) ≤ max 0 0 := by decide +kernel
    exact absurd hafter hearly
  · intro hoff timing htiming
    rw [(storeBlock_off hidle hoff).1] at htiming
    cases htiming

/-! ## Runs -/

theorem idle_step (hidle : s.Idle) (hoff : s.PlacedOffDies block) : (s.storeBlock block).2.Idle :=
  (storeBlock_off hidle hoff).2.trans hidle

/-- In a run of stores every program waits for its page if and only if no page is placed on a
die of the simulator: the first that is does not wait. -/
theorem programs_after_transfers_iff (cfg : SimulatorConfig) (mode : FtlMode)
    (blocks : List KVBlock) :
    (machine cfg).Meets ProgramsAfterTransfer (init cfg mode) blocks ↔
      (machine cfg).Meets PlacedOffDies (init cfg mode) blocks := by
  have hidle : (init cfg mode).Idle := rfl
  constructor
  · apply Machine.Meets.gives
    · intro s block hidle hafter
      exact idle_step hidle ((programsAfterTransfer_iff_off hidle).mp hafter)
    · intro s block hidle hafter
      exact (programsAfterTransfer_iff_off hidle).mp hafter
    · exact hidle
  · apply Machine.Meets.gives
    · intro s block hidle hoff
      exact idle_step hidle hoff
    · intro s block hidle hoff
      exact (programsAfterTransfer_iff_off hidle).mpr hoff
    · exact hidle

/-- The first page is programmed from time 0 on and transferred up to time 5. -/
theorem first_program_before_transfer :
    (storeBlock (init StorageSimulator.defaultConfig .tensorAware)
        ⟨0, 0, 0, 16, 0, "SSD", none⟩).1.2 = some ⟨⟨0, 5⟩, ⟨0, 200⟩⟩ ∧
      ¬ (machine StorageSimulator.defaultConfig).Meets ProgramsAfterTransfer
        (init StorageSimulator.defaultConfig .tensorAware) [⟨0, 0, 0, 16, 0, "SSD", none⟩] := by
  have htiming : (storeBlock (init StorageSimulator.defaultConfig .tensorAware)
      ⟨0, 0, 0, 16, 0, "SSD", none⟩).1.2 = some ⟨⟨0, 5⟩, ⟨0, 200⟩⟩ := by decide +kernel
  refine ⟨htiming, fun h => ?_⟩
  have hafter := h.1 _ htiming
  exact absurd hafter (by decide)

end TimedSimulator

end AiSsd.Ftl
