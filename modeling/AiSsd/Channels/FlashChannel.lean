import AiSsd.Lib.Machine
import AiSsd.Lib.Reservation
import Mathlib.Algebra.Order.Ring.Rat

/-!
# Flash channels

A channel has a bus and dies, each busy up to some time. Transfers are booked on the bus one
after the other, the operations of a die on the die. Times are exact numbers of microseconds.
-/

namespace AiSsd.Channels

open Lib

def tRUs : Rat := 25

def tProgUs : Rat := 200

def tBersUs : Rat := 2000

def busTransferUsPerPage : Rat := 5

structure FlashDie where
  planes : Nat
  busyUntilUs : Rat
deriving DecidableEq

namespace FlashDie

variable (d : FlashDie) (startTimeUs : Rat)

/-- Book the die from the time it is free; the source returns the finish. -/
def schedule (durationUs : Rat) : Reservation Rat × FlashDie :=
  let start := max startTimeUs d.busyUntilUs
  (⟨start, start + durationUs⟩, { d with busyUntilUs := start + durationUs })

def scheduleRead : Reservation Rat × FlashDie := d.schedule startTimeUs tRUs

def scheduleProgram : Reservation Rat × FlashDie := d.schedule startTimeUs tProgUs

def scheduleErase : Reservation Rat × FlashDie := d.schedule startTimeUs tBersUs

/-- The blocks of the planes are not touched. -/
def reset : FlashDie := { d with busyUntilUs := 0 }

end FlashDie

inductive OpType where
  | read
  | program
  | erase
  | other (name : String)
deriving Repr, DecidableEq

structure ChannelTransferRequest where
  dieId : Int
  opType : OpType
  arrivalTimeUs : Rat
  transferTimeUs : Rat
  startTimeUs : Rat
  completionTimeUs : Rat
deriving DecidableEq

structure FlashChannel where
  dies : List FlashDie
  busBusyUntilUs : Rat
  queue : List ChannelTransferRequest
  completedTransfers : List ChannelTransferRequest

/-- What a transfer is granted: the queued request and the base time of its pass, or neither for
a direct transfer; the bus; and the die, if one takes part. -/
structure Service where
  request : Option (ChannelTransferRequest × Rat)
  bus : Reservation Rat
  die : Option (Nat × Reservation Rat)
deriving DecidableEq

namespace FlashChannel

def init (diesPerChannel planesPerDie : Nat) : FlashChannel :=
  ⟨List.replicate diesPerChannel ⟨planesPerDie, 0⟩, 0, [], []⟩

variable (c : FlashChannel)

/-- Book the bus; the source returns the finish. -/
def scheduleTransfer (currentTimeUs transferTimeUs : Rat) : Reservation Rat × FlashChannel :=
  let startTime := max currentTimeUs c.busBusyUntilUs
  let completionTime := startTime + transferTimeUs
  (⟨startTime, completionTime⟩, { c with busBusyUntilUs := completionTime })

def enqueueRequest (req : ChannelTransferRequest) : FlashChannel :=
  { c with queue := c.queue ++ [req] }

/-- `self.dies[die_id]` if it is in the list; a die without planes is empty, and so false. -/
def die? (dieId : Int) : Option (Nat × FlashDie) :=
  if 0 ≤ dieId then
    match c.dies[dieId.toNat]? with
    | none => none
    | some d => if d.planes = 0 then none else some (dieId.toNat, d)
  else none

def onDie (dieId : Int) (schedule : FlashDie → Reservation Rat × FlashDie) :
    Option (Nat × Reservation Rat) × FlashChannel :=
  match c.die? dieId with
  | none => (none, c)
  | some (i, d) =>
      let r := schedule d
      (some (i, r.1), { c with dies := c.dies.set i r.2 })

def complete (req : ChannelTransferRequest) (bus : Reservation Rat) : FlashChannel :=
  { c with
    busBusyUntilUs := max c.busBusyUntilUs bus.finish
    completedTransfers := c.completedTransfers ++
      [{ req with startTimeUs := bus.start, completionTimeUs := bus.finish }] }

def serve (baseTimeUs : Rat) (req : ChannelTransferRequest) : Service × FlashChannel :=
  let ready := req.arrivalTimeUs + baseTimeUs
  match req.opType with
  | .read =>
      let (die, c) := c.onDie req.dieId fun d => d.scheduleRead ready
      let sensingFinish :=
        match die with
        | some (_, sensed) => sensed.finish
        | none => ready + tRUs
      let busStart := max sensingFinish c.busBusyUntilUs
      let bus := ⟨busStart, busStart + req.transferTimeUs⟩
      (⟨some (req, baseTimeUs), bus, die⟩, c.complete req bus)
  | .program =>
      let busStart := max ready c.busBusyUntilUs
      let bus := ⟨busStart, busStart + req.transferTimeUs⟩
      let (die, c) := c.onDie req.dieId fun d => d.scheduleProgram bus.finish
      (⟨some (req, baseTimeUs), bus, die⟩, c.complete req bus)
  | .erase =>
      let (die, c) := c.onDie req.dieId fun d => d.scheduleErase ready
      let busStart := max ready c.busBusyUntilUs
      let bus := ⟨busStart, busStart⟩
      (⟨some (req, baseTimeUs), bus, die⟩, c.complete req bus)
  | .other _ =>
      let busStart := max ready c.busBusyUntilUs
      let bus := ⟨busStart, busStart + req.transferTimeUs⟩
      (⟨some (req, baseTimeUs), bus, none⟩, c.complete req bus)

def serveEach (baseTimeUs : Rat) :
    List ChannelTransferRequest → FlashChannel → List Service × FlashChannel
  | [], c => ([], c)
  | req :: queue, c =>
      let r := c.serve baseTimeUs req
      let rest := serveEach baseTimeUs queue r.2
      (r.1 :: rest.1, rest.2)

/-- The source returns `bus_busy_until_us`, which is in the state. -/
def processQueue (baseTimeUs : Rat) : List Service × FlashChannel :=
  let r := serveEach baseTimeUs c.queue c
  (r.1, { r.2 with queue := [] })

def reset : FlashChannel := ⟨c.dies.map FlashDie.reset, 0, [], []⟩

end FlashChannel

inductive ChannelOp where
  | enqueueRequest (req : ChannelTransferRequest)
  | processQueue (baseTimeUs : Rat)
  | scheduleTransfer (currentTimeUs transferTimeUs : Rat)

def channelMachine : Machine FlashChannel ChannelOp (List Service) where
  step := fun c op =>
    match op with
    | .enqueueRequest req => ([], c.enqueueRequest req)
    | .processQueue baseTimeUs => c.processQueue baseTimeUs
    | .scheduleTransfer currentTimeUs transferTimeUs =>
        let r := c.scheduleTransfer currentTimeUs transferTimeUs
        ([⟨none, r.1, none⟩], r.2)

end AiSsd.Channels
