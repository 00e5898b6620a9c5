import AiSsd.Nvme.ByteDevice

/-!
# The size of the static buffer

Four requests move bytes through the static buffer, each with a length from the wire. A write
and a read refuse a length above the buffer's, a top-k candidate is cut to it, and an item of a
batch is read as it comes. So every use of the buffer fits it exactly when no batch names an
item that is longer.
-/

namespace AiSsd.Nvme

open Lib Lib.LittleEndian

/-- The bytes one step of a turn puts into the static buffer, and those it sends from it. -/
structure BufferUse where
  filled : Nat
  sent : Nat
deriving Repr, DecidableEq

def BufferUse.Fits (u : BufferUse) : Prop := u.filled ≤ bufferSize ∧ u.sent ≤ bufferSize

instance (u : BufferUse) : Decidable u.Fits := inferInstanceAs (Decidable (_ ∧ _))

section

variable {δ F : Type} (g : Guest δ) (fl : FloatOps F)

/-! ## The uses of a turn -/

def writeUses (req : ReqHeader) (rest : Bytes) : List BufferUse :=
  if req.length > bufferSize then [] else [⟨(rest.take req.length).length, 0⟩]

def readUses (s : DaemonState δ) (req : ReqHeader) : List BufferUse :=
  if req.length > bufferSize then []
  else
    let pr := ((g.pread s.guest req.length req.offset).1.getD []).length
    [⟨pr, pr⟩]

def batchUses : δ → List BatchReadItem → List BufferUse
  | _, [] => []
  | d, item :: items =>
      let pr := g.pread d item.length item.offset
      let whole := pr.1.filter fun bs => bs.length = item.length
      ⟨(pr.1.getD []).length, (whole.getD []).length⟩ :: batchUses pr.2 items

def batchReadUses (s : DaemonState δ) (req : ReqHeader) (rest : Bytes) : List BufferUse :=
  if (g.malloc s.guest (req.length * BatchReadItem.size)).1 = false then []
  else if rest.length < req.length * BatchReadItem.size then []
  else batchUses g (s.batchAlloc g req.length).guest
    (readMany BatchReadItem.size BatchReadItem.ofBytes req.length
      (rest.take (req.length * BatchReadItem.size)))

def scanUses (score : (Nat → UInt8) → TopkCandItem → Option F) :
    DaemonState δ → List TopkCandItem → List BufferUse
  | _, [] => []
  | s, cand :: cands =>
      ⟨((g.pread s.guest cand.itemLen cand.offset).1.getD []).length, 0⟩ ::
        match preadBuf g s cand.itemLen cand.offset with
        | none => []
        | some (pr, s) =>
            if pr.map List.length = some cand.itemLen ∧ score s.ioBuf cand = none then []
            else scanUses score s cands

def topkUses (s : DaemonState δ) (req : ReqHeader) (rest : Bytes) : List BufferUse :=
  if rest.length < TopkReqHeader.size then []
  else
    let theader := TopkReqHeader.ofBytes (rest.take TopkReqHeader.size)
    let rest := rest.drop TopkReqHeader.size
    let queryBuf := g.malloc s.guest (theader.qElements * 4)
    let cands := g.malloc queryBuf.2 (theader.numCandidates * TopkCandItem.size)
    if queryBuf.1 = false ∨ cands.1 = false then []
    else if rest.length < theader.qElements * 4 + theader.numCandidates * TopkCandItem.size then []
    else
      let s := { s with guest := cands.2 }
      let topItems := g.malloc s.guest (theader.effectiveK * TopkRespItem.size)
      if theader.effectiveK > 0 ∧ topItems.1 = false then []
      else
        let query := readMany 4 (fun bs => fl.ofBits (next 4 bs).1) theader.qElements
          (rest.take (theader.qElements * 4))
        let cands := readMany TopkCandItem.size TopkCandItem.ofBytes theader.numCandidates
          ((rest.drop (theader.qElements * 4)).take (theader.numCandidates * TopkCandItem.size))
        scanUses g (candidateScore fl theader (isFp16 req theader cands) query)
          { s with guest := topItems.2 } cands

/-- One turn of the loop on the bytes that have arrived. -/
def turnUses (s : DaemonState δ) (bs : Bytes) : List BufferUse :=
  if bs.length < headerSize then []
  else
    let req := ReqHeader.ofBytes (bs.take headerSize)
    let rest := bs.drop headerSize
    if req.magic ≠ magic then []
    else if req.op = opWrite then writeUses req rest
    else if req.op = opRead then readUses g s req
    else if req.op = opBatchRead then batchReadUses g s req rest
    else if req.op = opComputeTopk then topkUses g fl s req rest
    else []

/-! ## What fits -/

variable {g fl}

theorem length_getD_pread_le (d : δ) (length offset : Nat) :
    ((g.pread d length offset).1.getD []).length ≤ length := by
  cases hpr : (g.pread d length offset).1 with
  | none => exact Nat.zero_le _
  | some bs => exact g.length_pread d length offset bs hpr

theorem fits_write {req : ReqHeader} {rest : Bytes} : ∀ u ∈ writeUses req rest, u.Fits := by
  intro u hu
  unfold writeUses at hu
  split at hu
  · cases hu
  · rename_i hle
    have htake := List.length_take_le req.length rest
    rw [List.mem_singleton.mp hu]
    exact ⟨by dsimp only; omega, Nat.zero_le _⟩

theorem fits_read {s : DaemonState δ} {req : ReqHeader} : ∀ u ∈ readUses g s req, u.Fits := by
  intro u hu
  unfold readUses at hu
  split at hu
  · cases hu
  · rename_i hle
    have hread := @length_getD_pread_le δ g s.guest req.length req.offset
    rw [List.mem_singleton.mp hu]
    exact ⟨by dsimp only; omega, by dsimp only; omega⟩

theorem fits_scan {score : (Nat → UInt8) → TopkCandItem → Option F} {s : DaemonState δ}
    {cands : List TopkCandItem} : ∀ u ∈ scanUses g score s cands, u.Fits := by
  induction cands generalizing s with
  | nil =>
      intro u hu
      cases hu
  | cons cand cands ih =>
      intro u hu
      unfold scanUses at hu
      rcases List.mem_cons.mp hu with rfl | hu
      · have hread := @length_getD_pread_le δ g s.guest cand.itemLen cand.offset
        have hcut : cand.itemLen ≤ bufferSize := by
          unfold TopkCandItem.itemLen
          split <;> omega
        exact ⟨hread.trans hcut, Nat.zero_le _⟩
      · split at hu
        · cases hu
        · split at hu
          · cases hu
          · exact ih u hu

theorem fits_topk {s : DaemonState δ} {req : ReqHeader} {rest : Bytes} :
    ∀ u ∈ topkUses g fl s req rest, u.Fits := by
  intro u hu
  unfold topkUses at hu
  dsimp only at hu
  split at hu
  · cases hu
  split at hu
  · cases hu
  split at hu
  · cases hu
  split at hu
  · cases hu
  exact fits_scan u hu

theorem batchUses_cons (d : δ) (item : BatchReadItem) (items : List BatchReadItem) :
    ∃ u, batchUses g d (item :: items) = u :: batchUses g (g.pread d item.length item.offset).2 items ∧
      u.filled = ((g.pread d item.length item.offset).1.getD []).length ∧ u.sent ≤ u.filled := by
  refine ⟨_, rfl, rfl, ?_⟩
  cases hpr : (g.pread d item.length item.offset).1 with
  | none => exact Nat.zero_le _
  | some bs =>
      dsimp only
      rw [Option.filter_some]
      split
      · exact Nat.le_refl _
      · exact Nat.zero_le _

theorem fits_batch {d : δ} {items : List BatchReadItem}
    (h : ∀ item ∈ items, item.length ≤ bufferSize) : ∀ u ∈ batchUses g d items, u.Fits := by
  induction items generalizing d with
  | nil =>
      intro u hu
      cases hu
  | cons item items ih =>
      rw [List.forall_mem_cons] at h
      obtain ⟨u, huses, hfilled, hsent⟩ := @batchUses_cons δ g d item items
      have hread := @length_getD_pread_le δ g d item.length item.offset
      rw [huses, List.forall_mem_cons]
      refine ⟨⟨?_, ?_⟩, ih h.2⟩
      · rw [hfilled]
        exact hread.trans h.1
      · exact (hsent.trans (Nat.le_of_eq hfilled)).trans (hread.trans h.1)

theorem batchItems_isSome_iff {s : DaemonState δ} {items : List BatchReadItem} :
    (batchItems g s items).isSome ↔ ∀ u ∈ batchUses g s.guest items, u.Fits := by
  induction items generalizing s with
  | nil => exact iff_of_true rfl fun u hu => by cases hu
  | cons item items ih =>
      obtain ⟨u, huses, hfilled, hsent⟩ := @batchUses_cons δ g s.guest item items
      have hfits : u.Fits ↔ ((g.pread s.guest item.length item.offset).1.getD []).length ≤
          bufferSize := by
        rw [← hfilled]
        exact ⟨fun h => h.1, fun h => ⟨h, hsent.trans h⟩⟩
      rw [huses, List.forall_mem_cons, hfits]
      unfold batchItems preadBuf
      dsimp only
      cases hpr : (g.pread s.guest item.length item.offset).1 with
      | none => simp [ih]
      | some bs =>
          dsimp only
          by_cases hle : bs.length ≤ bufferSize
          · simp [hle, ih, DaemonState.fill]
          · simp [hle]

/-! ## What does not fit -/

def Crashes (served : Option (Served δ)) : Prop := ∃ r, served = some r ∧ r.conn = .crashed

theorem not_crashes_answered {s : DaemonState δ} {out rest : Bytes} :
    ¬ Crashes (some (answered s out rest)) := by
  rintro ⟨r, hr, hconn⟩
  cases hr
  cases hconn

theorem not_crashes_closed {s : DaemonState δ} {out rest : Bytes} :
    ¬ Crashes (some ⟨s, .closed, out, rest⟩) := by
  rintro ⟨r, hr, hconn⟩
  cases hr
  cases hconn

theorem not_crashes_none : ¬ Crashes (none : Option (Served δ)) := by
  rintro ⟨r, hr, -⟩
  cases hr

theorem serveWrite_not_crashes {s : DaemonState δ} {req : ReqHeader} {rest : Bytes} :
    ¬ Crashes (serveWrite g s req rest) := by
  unfold serveWrite readExact
  dsimp only
  split
  · exact not_crashes_answered
  split
  · split
    · exact not_crashes_answered
    · exact not_crashes_answered
  · exact not_crashes_none

theorem serveRead_not_crashes {s : DaemonState δ} {req : ReqHeader} {rest : Bytes} :
    ¬ Crashes (serveRead g s req rest) := by
  by_cases hlong : req.length > bufferSize
  · rw [serveRead_of_gt hlong]
    exact not_crashes_answered
  · obtain ⟨daemon, -, hserve⟩ := @serveRead_of_le δ g s req (Nat.le_of_not_gt hlong) rest
    rw [hserve]
    exact not_crashes_answered

/-- A batch takes the daemon down exactly when it overruns the buffer. -/
theorem serveBatchRead_crashes_iff {s : DaemonState δ} {req : ReqHeader} {rest : Bytes} :
    Crashes (serveBatchRead g s req rest) ↔ ∃ u ∈ batchReadUses g s req rest, ¬ u.Fits := by
  have hitems := @batchItems_isSome_iff δ g (s.batchAlloc g req.length)
    (readMany BatchReadItem.size BatchReadItem.ofBytes req.length
      (rest.take (req.length * BatchReadItem.size)))
  unfold serveBatchRead batchReadUses readExact
  unfold DaemonState.batchAlloc at hitems ⊢
  dsimp only at hitems ⊢
  split
  · exact iff_of_false not_crashes_closed (by simp)
  split
  · rename_i hle
    rw [if_neg (Nat.not_lt_of_ge hle)]
    split
    · rename_i hnone
      rw [hnone] at hitems
      refine iff_of_true ⟨_, rfl, rfl⟩ ?_
      by_contra hall
      push Not at hall
      exact absurd (hitems.mpr hall) (by simp)
    · rename_i out s' hsome
      rw [hsome] at hitems
      have hfits := hitems.mp rfl
      exact iff_of_false not_crashes_answered fun ⟨u, hu, hover⟩ => hover (hfits u hu)
  · rename_i hlt
    rw [if_pos (Nat.lt_of_not_ge hlt)]
    exact iff_of_false not_crashes_none (by simp)

/-- Outside a top-k scan, which may also score beyond the buffer, a turn takes the daemon down
exactly when one of its uses does not fit. -/
theorem serve_crashes_iff {s : DaemonState δ} {bs : Bytes}
    (hop : (ReqHeader.ofBytes (bs.take headerSize)).op ≠ opComputeTopk) :
    Crashes (serve g fl s bs) ↔ ∃ u ∈ turnUses g fl s bs, ¬ u.Fits := by
  have hnever : ∀ {served : Option (Served δ)} {uses : List BufferUse}, ¬ Crashes served →
      (∀ u ∈ uses, u.Fits) → (Crashes served ↔ ∃ u ∈ uses, ¬ u.Fits) := by
    intro served uses hserved huses
    exact iff_of_false hserved fun ⟨u, hu, hover⟩ => hover (huses u hu)
  unfold serve turnUses readExact
  by_cases hheader : headerSize ≤ bs.length
  · rw [if_pos hheader, if_neg (Nat.not_lt_of_ge hheader)]
    unfold dispatch
    dsimp only
    generalize ReqHeader.ofBytes (bs.take headerSize) = req at hop ⊢
    generalize bs.drop headerSize = rest
    by_cases hmagic : req.magic ≠ magic
    · rw [if_pos hmagic, if_pos hmagic]
      exact hnever not_crashes_closed (by simp)
    rw [if_neg hmagic, if_neg hmagic]
    by_cases hwrite : req.op = opWrite
    · rw [if_neg (by rw [hwrite]; decide), if_pos hwrite, if_pos hwrite]
      exact hnever serveWrite_not_crashes fits_write
    by_cases hread : req.op = opRead
    · rw [if_neg (by rw [hread]; decide), if_neg hwrite, if_pos hread, if_neg hwrite, if_pos hread]
      exact hnever serveRead_not_crashes fits_read
    by_cases hbatch : req.op = opBatchRead
    · rw [if_neg (by rw [hbatch]; decide), if_neg hwrite, if_neg hread, if_pos hbatch, if_neg hwrite,
        if_neg hread, if_pos hbatch]
      exact serveBatchRead_crashes_iff
    rw [if_neg hwrite, if_neg hread, if_neg hbatch, if_neg hop, if_neg hwrite, if_neg hread,
      if_neg hbatch, if_neg hop]
    refine hnever ?_ (by simp)
    split
    · exact not_crashes_answered
    split
    · exact not_crashes_answered
    split
    · exact not_crashes_closed
    · exact not_crashes_answered
  · rw [if_neg hheader, if_pos (Nat.lt_of_not_ge hheader)]
    exact hnever not_crashes_none (by simp)

/-- A device that fills whatever is asked of it. -/
def fullGuest : Guest Unit where
  pread _ length _ := (some (List.replicate length 0), ())
  pwrite _ data _ := (some data.length, ())
  fdatasync := id
  malloc _ _ := (true, ())
  length_pread := by
    intro d length offset bs h
    obtain rfl := Option.some.inj h
    exact Nat.le_of_eq List.length_replicate
  pwrite_le := Guest.written_all

theorem batchUses_fullGuest (items : List BatchReadItem) :
    batchUses fullGuest () items = items.map fun item => ⟨item.length, item.length⟩ := by
  induction items with
  | nil => rfl
  | cons item items ih =>
      have hread : fullGuest.pread () item.length item.offset =
          (some (List.replicate item.length 0), ()) := rfl
      rw [batchUses, hread, ih, List.map_cons]
      simp [Option.filter_some]

/-- A whole batch request that names an item longer than the buffer. -/
def OversizedItem (bs : Bytes) : Prop :=
  let req := ReqHeader.ofBytes (bs.take headerSize)
  let rest := bs.drop headerSize
  headerSize ≤ bs.length ∧ req.magic = magic ∧ req.op = opBatchRead ∧
    req.length * BatchReadItem.size ≤ rest.length ∧
    ∃ item ∈ readMany BatchReadItem.size BatchReadItem.ofBytes req.length
      (rest.take (req.length * BatchReadItem.size)), item.length > bufferSize

/-- A device that has the bytes hands over more than the buffer holds. -/
theorem overrun_of_oversizedItem (fl : FloatOps F) {bs : Bytes} (h : OversizedItem bs) :
    ∃ u ∈ turnUses fullGuest fl ⟨(), fun _ => 0⟩ bs, ¬ u.Fits := by
  obtain ⟨hheader, hmagic, hop, hrest, item, hitem, hlong⟩ := h
  refine ⟨⟨item.length, item.length⟩, ?_, fun hfits => absurd hfits.1 (Nat.not_le_of_gt hlong)⟩
  unfold turnUses
  dsimp only at hmagic hop ⊢
  rw [if_neg (by omega), if_neg (by simp [hmagic]), if_neg (by rw [hop]; decide),
    if_neg (by rw [hop]; decide), if_pos hop, batchReadUses, if_neg (by simp [fullGuest]),
    if_neg (by omega), batchUses_fullGuest]
  exact List.mem_map_of_mem hitem

/-- Whatever the device does and whatever state the daemon is in, every use a turn makes of the
static buffer fits it, exactly when the bytes are no batch request with an item too long. -/
theorem buffer_guarded_iff (fl : FloatOps F) (bs : Bytes) :
    (∀ (δ : Type) (g : Guest δ) (s : DaemonState δ), ∀ u ∈ turnUses g fl s bs, u.Fits) ↔
      ¬ OversizedItem bs := by
  constructor
  · intro h hlong
    obtain ⟨u, hu, hover⟩ := overrun_of_oversizedItem fl hlong
    exact hover (h Unit fullGuest _ u hu)
  · intro hshort δ g s u hu
    unfold turnUses at hu
    dsimp only at hu
    split at hu
    · cases hu
    rename_i hheader
    split at hu
    · cases hu
    rename_i hmagic
    split at hu
    · exact fits_write u hu
    split at hu
    · exact fits_read u hu
    split at hu
    · rename_i hop
      unfold batchReadUses at hu
      split at hu
      · cases hu
      split at hu
      · cases hu
      rename_i hrest
      refine fits_batch (fun item hitem => ?_) u hu
      by_contra hlong
      exact hshort ⟨by omega, not_not.mp hmagic, hop, by omega, item, hitem, by omega⟩
    split at hu
    · exact fits_topk u hu
    · cases hu

/-- A batch of one item, one byte longer than the buffer. -/
theorem oversized_item_overruns :
    ∃ bs, (Call.readBatch [⟨0, 1048577, 7⟩]).Sends bs ∧
      ∃ u ∈ turnUses fullGuest intFloat ⟨(), fun _ => 0⟩ bs, ¬ u.Fits := by
  refine ⟨_, rfl, overrun_of_oversizedItem intFloat ?_⟩
  exact ⟨by decide, by decide, by decide, by decide, ⟨0, 1048577, 7⟩, by decide, by decide⟩

end

end AiSsd.Nvme
