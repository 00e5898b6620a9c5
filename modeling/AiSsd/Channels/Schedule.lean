import AiSsd.Channels.FlashChannel
import Mathlib.Tactic.NormNum

/-!
# The schedule of a channel

Every transfer is booked on the bus when it is free, and every operation of a die when the die
is. So over any calls with transfer times that are not negative the bus serves in order, and
nothing overlaps on the bus or on a die.
-/

namespace AiSsd.Channels

open Lib

namespace Service

/-- What the service books on the `i`-th die. -/
def onDie (i : Nat) (s : Service) : Option (Reservation Rat) :=
  match s.die with
  | none => none
  | some (j, r) => if j = i then some r else none

/-- The transfer of a read starts after the page has arrived and been sensed. -/
def Sensed (s : Service) : Prop :=
  ∀ req baseTimeUs, s.request = some (req, baseTimeUs) → req.opType = .read →
    req.arrivalTimeUs + baseTimeUs + tRUs ≤ s.bus.start

end Service

namespace ChannelOp

/-- The times that the call brings are not negative. -/
def NonNegative : ChannelOp → Prop
  | .enqueueRequest req => 0 ≤ req.arrivalTimeUs ∧ 0 ≤ req.transferTimeUs
  | .processQueue baseTimeUs => 0 ≤ baseTimeUs
  | .scheduleTransfer currentTimeUs transferTimeUs => 0 ≤ currentTimeUs ∧ 0 ≤ transferTimeUs

def request? : ChannelOp → Option ChannelTransferRequest
  | .enqueueRequest req => some req
  | _ => none

end ChannelOp

namespace FlashChannel

def served (c : FlashChannel) (ops : List ChannelOp) : List Service :=
  channelMachine.history (fun granted _ _ now => granted ++ now) c [] ops

def servedRequests (granted : List Service) : List ChannelTransferRequest :=
  granted.filterMap fun s => s.request.map Prod.fst

structure ScheduleSafe (c : FlashChannel) (ops : List ChannelOp) : Prop where
  busOrdered : ((c.served ops).map Service.bus).Pairwise fun a b => a.finish ≤ b.start
  busForward : ∀ s ∈ c.served ops, s.bus.start ≤ s.bus.finish
  fifo : servedRequests (c.served ops) ++ (channelMachine.exec c ops).queue =
    ops.filterMap ChannelOp.request?
  busKeeps : ∀ earlier, earlier <+: ops →
    (channelMachine.exec c earlier).busBusyUntilUs ≤ (channelMachine.exec c ops).busBusyUntilUs
  sensed : ∀ s ∈ c.served ops, s.Sensed
  diesOrdered : ∀ i, ((c.served ops).filterMap (Service.onDie i)).Pairwise fun a b =>
    a.finish ≤ b.start
  diesForward : ∀ i, ∀ r ∈ (c.served ops).filterMap (Service.onDie i), r.start ≤ r.finish

def dieBusy (c : FlashChannel) (i : Nat) : Rat :=
  match c.dies[i]? with
  | none => 0
  | some d => d.busyUntilUs

structure Scheduled (c : FlashChannel) (granted : List Service) : Prop where
  bus : Booked c.busBusyUntilUs (granted.map Service.bus)
  dies : ∀ i, Booked (c.dieBusy i) (granted.filterMap (Service.onDie i))
  sensed : ∀ s ∈ granted, s.Sensed

/-- No queued request has a negative transfer time. -/
def QueueForward (c : FlashChannel) : Prop := ∀ req ∈ c.queue, 0 ≤ req.transferTimeUs

variable {c : FlashChannel} {granted : List Service} {req : ChannelTransferRequest}
  {baseTimeUs : Rat}

/-! ## Dies -/

theorem die?_eq_some {dieId : Int} {i : Nat} {d : FlashDie} (h : c.die? dieId = some (i, d)) :
    c.dies[i]? = some d := by
  unfold die? at h
  split at h
  · cases hd : c.dies[dieId.toNat]? with
    | none => simp [hd] at h
    | some d' =>
        simp only [hd] at h
        split at h
        · cases h
        · cases h
          exact hd
  · cases h

theorem onDie_keeps {c' : FlashChannel} {die : Option (Nat × Reservation Rat)} {dieId : Int}
    {schedule : FlashDie → Reservation Rat × FlashDie}
    (h : c.onDie dieId schedule = (die, c')) :
    c'.busBusyUntilUs = c.busBusyUntilUs ∧ c'.queue = c.queue := by
  unfold onDie at h
  split at h <;> cases h <;> exact ⟨rfl, rfl⟩

theorem dieBusy_set {i : Nat} {d d' : FlashDie} (h : c.dies[i]? = some d) (j : Nat) :
    dieBusy { c with dies := c.dies.set i d' } j =
      if i = j then d'.busyUntilUs else c.dieBusy j := by
  have hlt : i < c.dies.length := (List.getElem?_eq_some_iff.mp h).choose
  unfold dieBusy
  rw [List.getElem?_set]
  by_cases hij : i = j
  · subst hij
    simp [hlt]
  · simp [hij]

theorem filterMap_onDie_none (request : Option (ChannelTransferRequest × Rat))
    (bus : Reservation Rat) (i : Nat) :
    (granted ++ [Service.mk request bus none]).filterMap (Service.onDie i) =
      granted.filterMap (Service.onDie i) := by
  rw [List.filterMap_append, List.filterMap_cons_none rfl, List.filterMap_nil, List.append_nil]

theorem booked_onDie {c' : FlashChannel} {die : Option (Nat × Reservation Rat)} {dieId : Int}
    {startTimeUs durationUs : Rat}
    (h : ∀ i, Booked (c.dieBusy i) (granted.filterMap (Service.onDie i)))
    (hdie : c.onDie dieId (fun d => d.schedule startTimeUs durationUs) = (die, c'))
    (hduration : 0 ≤ durationUs) (request : Option (ChannelTransferRequest × Rat))
    (bus : Reservation Rat) (i : Nat) :
    Booked (c'.dieBusy i)
      ((granted ++ [Service.mk request bus die]).filterMap (Service.onDie i)) := by
  unfold onDie at hdie
  cases hfound : c.die? dieId with
  | none =>
      rw [hfound] at hdie
      cases hdie
      rw [filterMap_onDie_none]
      exact h i
  | some found =>
      rw [hfound] at hdie
      cases hdie
      obtain ⟨j, d⟩ := found
      have hd := die?_eq_some hfound
      dsimp only
      rw [List.filterMap_append, dieBusy_set hd]
      by_cases hij : j = i
      · subst hij
        have hbusy : c.dieBusy j = d.busyUntilUs := by simp [dieBusy, hd]
        have hj := h j
        rw [hbusy] at hj
        simp only [Service.onDie, FlashDie.schedule, List.filterMap_cons, List.filterMap_nil,
          if_true]
        apply hj.concat
        · exact le_max_right _ _
        · exact le_add_of_nonneg_right hduration
        · exact le_rfl
      · simpa [Service.onDie, hij] using h i

/-! ## One request -/

theorem Scheduled.complete {c' : FlashChannel} {request : Option (ChannelTransferRequest × Rat)}
    {bus : Reservation Rat} {die : Option (Nat × Reservation Rat)} (h : c.Scheduled granted)
    (hdies : ∀ i, Booked (c'.dieBusy i)
      ((granted ++ [Service.mk request bus die]).filterMap (Service.onDie i)))
    (hstart : c.busBusyUntilUs ≤ bus.start) (hforward : bus.start ≤ bus.finish)
    (hsensed : (Service.mk request bus die).Sensed) :
    (c'.complete req bus).Scheduled (granted ++ [Service.mk request bus die]) where
  bus := by
    rw [List.map_append, List.map_singleton]
    exact h.bus.concat hstart hforward (le_max_right _ _)
  dies := hdies
  sensed := by
    intro t ht
    simp only [List.mem_append, List.mem_singleton] at ht
    cases ht with
    | inl hold => exact h.sensed t hold
    | inr hnew => rw [hnew]; exact hsensed

theorem not_sensed {s : Service} {req : ChannelTransferRequest} {baseTimeUs : Rat}
    (h : s.request = some (req, baseTimeUs)) (hop : req.opType ≠ .read) : s.Sensed := by
  intro req' base hreq hread
  cases h.symm.trans hreq
  exact absurd hread hop

/-- On a die or without one, the page of a read has been sensed at the end. -/
theorem sensed_onDie {c' : FlashChannel} {die : Option (Nat × Reservation Rat)} {dieId : Int}
    {readyUs : Rat} (hdie : c.onDie dieId (fun d => d.scheduleRead readyUs) = (die, c')) :
    readyUs + tRUs ≤
      match (die, c').1 with
      | some (_, sensed) => sensed.finish
      | none => readyUs + tRUs := by
  rw [← hdie]
  unfold onDie
  cases c.die? dieId with
  | none => exact le_rfl
  | some found =>
      have hstart : readyUs ≤ max readyUs found.2.busyUntilUs := le_max_left _ _
      simp [FlashDie.scheduleRead, FlashDie.schedule]

theorem Scheduled.serve (h : c.Scheduled granted) (htransfer : 0 ≤ req.transferTimeUs) :
    (c.serve baseTimeUs req).2.Scheduled (granted ++ [(c.serve baseTimeUs req).1]) := by
  unfold FlashChannel.serve
  cases hop : req.opType with
  | read =>
      cases hdie : c.onDie req.dieId fun d => d.scheduleRead (req.arrivalTimeUs + baseTimeUs) with
      | mk die c' =>
        have hbus := (onDie_keeps hdie).1
        dsimp only
        rw [hdie]
        refine h.complete (booked_onDie h.dies hdie (by decide) _ _) ?_ ?_ ?_
        · rw [← hbus]
          exact le_max_right _ _
        · exact le_add_of_nonneg_right htransfer
        · intro req' base hreq _
          cases hreq
          exact (sensed_onDie hdie).trans (le_max_left _ _)
  | program =>
      cases hdie : c.onDie req.dieId fun d => d.scheduleProgram
          (max (req.arrivalTimeUs + baseTimeUs) c.busBusyUntilUs + req.transferTimeUs) with
      | mk die c' =>
        dsimp only
        rw [hdie]
        refine h.complete (booked_onDie h.dies hdie (by decide) _ _) (le_max_right _ _) ?_ ?_
        · exact le_add_of_nonneg_right htransfer
        · exact not_sensed rfl (by simp [hop])
  | erase =>
      cases hdie : c.onDie req.dieId fun d => d.scheduleErase
          (req.arrivalTimeUs + baseTimeUs) with
      | mk die c' =>
        have hbus := (onDie_keeps hdie).1
        dsimp only
        rw [hdie]
        refine h.complete (booked_onDie h.dies hdie (by decide) _ _) ?_ le_rfl ?_
        · rw [← hbus]
          exact le_max_right _ _
        · exact not_sensed rfl (by simp [hop])
  | other name =>
      refine h.complete (fun i => ?_) (le_max_right _ _) ?_ ?_
      · rw [filterMap_onDie_none]
        exact h.dies i
      · exact le_add_of_nonneg_right htransfer
      · exact not_sensed rfl (by simp [hop])

theorem request_serve : (c.serve baseTimeUs req).1.request = some (req, baseTimeUs) := by
  unfold FlashChannel.serve
  cases req.opType <;> rfl

/-! ## Calls -/

theorem Scheduled.serveEach {queue : List ChannelTransferRequest} (h : c.Scheduled granted)
    (hqueue : ∀ req ∈ queue, 0 ≤ req.transferTimeUs) :
    (serveEach baseTimeUs queue c).2.Scheduled
      (granted ++ (FlashChannel.serveEach baseTimeUs queue c).1) := by
  induction queue generalizing c granted with
  | nil => simpa [FlashChannel.serveEach] using h
  | cons req queue ih =>
      rw [List.forall_mem_cons] at hqueue
      have hrest := ih (@Scheduled.serve c granted req baseTimeUs h hqueue.1) hqueue.2
      rw [List.append_assoc] at hrest
      exact hrest

theorem servedRequests_serveEach (baseTimeUs : Rat) (queue : List ChannelTransferRequest)
    (c : FlashChannel) : servedRequests (serveEach baseTimeUs queue c).1 = queue := by
  induction queue generalizing c with
  | nil => rfl
  | cons req queue ih =>
      have hrest := ih (c.serve baseTimeUs req).2
      unfold servedRequests at hrest ⊢
      simp [serveEach, request_serve, hrest]

theorem bus_le_serve : c.busBusyUntilUs ≤ (c.serve baseTimeUs req).2.busBusyUntilUs := by
  have hkeeps : ∀ schedule, (c.onDie req.dieId schedule).2.busBusyUntilUs = c.busBusyUntilUs :=
    fun schedule => (onDie_keeps (rfl : c.onDie req.dieId schedule = (_, _))).1
  unfold FlashChannel.serve
  cases req.opType <;> simp [complete, hkeeps]

theorem bus_le_serveEach (baseTimeUs : Rat) (queue : List ChannelTransferRequest)
    (c : FlashChannel) :
    c.busBusyUntilUs ≤ (serveEach baseTimeUs queue c).2.busBusyUntilUs := by
  induction queue generalizing c with
  | nil => exact le_rfl
  | cons req queue ih => exact bus_le_serve.trans (ih (c.serve baseTimeUs req).2)

/-- A call with times that are not negative keeps the bookings. -/
theorem Scheduled.step (h : c.Scheduled granted) (hqueue : c.QueueForward) (op : ChannelOp)
    (hop : op.NonNegative) :
    (channelMachine.step c op).2.Scheduled (granted ++ (channelMachine.step c op).1) ∧
      (channelMachine.step c op).2.QueueForward := by
  cases op with
  | enqueueRequest req =>
      constructor
      · rw [channelMachine, List.append_nil]
        exact ⟨h.bus, h.dies, h.sensed⟩
      · intro req' hmem
        simp only [channelMachine, enqueueRequest, List.mem_append, List.mem_singleton] at hmem
        cases hmem with
        | inl hold => exact hqueue req' hold
        | inr hnew => rw [hnew]; exact hop.2
  | processQueue baseTimeUs =>
      have hserved := @Scheduled.serveEach c granted baseTimeUs c.queue h hqueue
      refine ⟨⟨hserved.bus, hserved.dies, hserved.sensed⟩, ?_⟩
      simp [QueueForward, channelMachine, processQueue]
  | scheduleTransfer currentTimeUs transferTimeUs =>
      refine ⟨⟨?_, fun i => ?_, ?_⟩, hqueue⟩
      · rw [List.map_append]
        apply h.bus.concat
        · exact le_max_right _ _
        · exact le_add_of_nonneg_right hop.2
        · exact le_rfl
      · rw [channelMachine, filterMap_onDie_none]
        exact h.dies i
      · intro s hs
        simp only [channelMachine, List.mem_append, List.mem_singleton] at hs
        cases hs with
        | inl hold => exact h.sensed s hold
        | inr hnew =>
            rw [hnew]
            intro req base hreq
            cases hreq

theorem bus_le_step (op : ChannelOp) (hop : op.NonNegative) :
    c.busBusyUntilUs ≤ (channelMachine.step c op).2.busBusyUntilUs := by
  cases op with
  | enqueueRequest req => exact le_rfl
  | processQueue baseTimeUs => exact bus_le_serveEach baseTimeUs c.queue c
  | scheduleTransfer currentTimeUs transferTimeUs =>
      exact (le_max_right currentTimeUs c.busBusyUntilUs).trans (le_add_of_nonneg_right hop.2)

/-- What is served and what is queued afterwards is what was and what the call adds. -/
theorem servedRequests_step (op : ChannelOp) :
    servedRequests (granted ++ (channelMachine.step c op).1) ++ (channelMachine.step c op).2.queue =
      servedRequests granted ++ c.queue ++ op.request?.toList := by
  cases op with
  | enqueueRequest req => simp [channelMachine, enqueueRequest, ChannelOp.request?]
  | processQueue baseTimeUs =>
      have hserved := servedRequests_serveEach baseTimeUs c.queue c
      unfold servedRequests at hserved ⊢
      simp [channelMachine, processQueue, ChannelOp.request?, hserved]
  | scheduleTransfer currentTimeUs transferTimeUs =>
      simp [channelMachine, scheduleTransfer, servedRequests, ChannelOp.request?]

/-! ## Runs -/

theorem servedRequests_run (c : FlashChannel) (granted : List Service) (ops : List ChannelOp) :
    servedRequests (channelMachine.history (fun granted _ _ now => granted ++ now) c granted ops) ++
        (channelMachine.exec c ops).queue =
      servedRequests granted ++ c.queue ++ ops.filterMap ChannelOp.request? := by
  induction ops generalizing c granted with
  | nil => simp [Machine.history]
  | cons op ops ih =>
      rw [Machine.history, Machine.exec_cons, ih, servedRequests_step]
      cases hreq : op.request? with
      | none => simp [hreq]
      | some req => simp [hreq]

theorem scheduled_run {ops : List ChannelOp} (h : ∀ op ∈ ops, op.NonNegative)
    (hc : c.Scheduled []) (hqueue : c.QueueForward) :
    (channelMachine.exec c ops).Scheduled (c.served ops) := by
  have hmeets := channelMachine.meets_of_forall_mem c h
  have hstep : ∀ (c : FlashChannel) (granted : List Service) (op : ChannelOp),
      c.Scheduled granted ∧ c.QueueForward → op.NonNegative →
      (channelMachine.step c op).2.Scheduled (granted ++ (channelMachine.step c op).1) ∧
        (channelMachine.step c op).2.QueueForward :=
    fun c granted op hc hop => hc.1.step hc.2 op hop
  exact (channelMachine.history_invariant_of_meets hstep c [] ops ⟨hc, hqueue⟩ hmeets).1

theorem bus_le_exec {ops : List ChannelOp} (h : ∀ op ∈ ops, op.NonNegative) (c : FlashChannel) :
    c.busBusyUntilUs ≤ (channelMachine.exec c ops).busBusyUntilUs := by
  induction ops generalizing c with
  | nil => exact le_rfl
  | cons op ops ih =>
      rw [List.forall_mem_cons] at h
      exact (bus_le_step op h.1).trans (ih h.2 _)

theorem scheduled_init (diesPerChannel planesPerDie : Nat) :
    (init diesPerChannel planesPerDie).Scheduled [] :=
  ⟨Booked.nil, fun _ => Booked.nil, by simp⟩

/-- Whatever the dies and whatever is called in whatever order: the bus serves the queue in
order and one transfer at a time, it is never freed earlier than before, a read is transferred
after it was sensed, and each die does one operation at a time. -/
theorem schedule_safe (diesPerChannel planesPerDie : Nat) (ops : List ChannelOp)
    (h : ∀ op ∈ ops, op.NonNegative) :
    (init diesPerChannel planesPerDie).ScheduleSafe ops := by
  have hrun := scheduled_run h (scheduled_init diesPerChannel planesPerDie)
    (by simp [QueueForward, init])
  constructor
  · exact hrun.bus.ordered
  · intro s hs
    exact hrun.bus.forward s.bus (List.mem_map_of_mem hs)
  · exact servedRequests_run (init diesPerChannel planesPerDie) [] ops
  · intro earlier hprefix
    obtain ⟨later, hlater⟩ := hprefix
    rw [← hlater, List.forall_mem_append] at h
    rw [← hlater, Machine.exec_append]
    exact bus_le_exec h.2 _
  · exact hrun.sensed
  · exact fun i => (hrun.dies i).ordered
  · exact fun i => (hrun.dies i).forward

/-- A program and a read of one die and an erase of another, with a direct transfer before the
pass and a second pass after it. -/
theorem schedule_safe_two_dies :
    (init 2 1).ScheduleSafe
      [.enqueueRequest ⟨0, .program, 3, 5, 0, 0⟩, .enqueueRequest ⟨0, .read, 1, 5, 0, 0⟩,
        .scheduleTransfer 0 5, .enqueueRequest ⟨1, .erase, 0, 5, 0, 0⟩, .processQueue 2,
        .enqueueRequest ⟨1, .read, 0, 5, 0, 0⟩, .processQueue 0] :=
  schedule_safe 2 1 _ (by norm_num [ChannelOp.NonNegative])

end FlashChannel

end AiSsd.Channels
