import AiSsd.Nvme.Scoring

/-!
# The guest daemon

One turn of the daemon's request loop: it takes a request off the stream, works on the
device, and answers, closes the connection or, where the C code is undefined, crashes. It
waits, and has done nothing, until all bytes of the request are there.
-/

namespace AiSsd.Nvme

open Lib Lib.LittleEndian

/-- The calls the daemon makes to its kernel and C library, on the state `δ` of that world.
A call that fails is `none`, or `false`. -/
structure Guest (δ : Type) where
  pread : δ → (length offset : Nat) → Option Bytes × δ
  pwrite : δ → (data : Bytes) → (offset : Nat) → Option Nat × δ
  fdatasync : δ → δ
  malloc : δ → (size : Nat) → Bool × δ
  length_pread : ∀ d length offset bs, (pread d length offset).1 = some bs → bs.length ≤ length
  pwrite_le : ∀ d data offset n, (pwrite d data offset).1 = some n → n ≤ data.length

theorem Guest.written_all {δ : Type} (_ : δ) (data : Bytes) (_ n : Nat)
    (h : some data.length = some n) : n ≤ data.length :=
  Nat.le_of_eq (Option.some.inj h).symm

/-- The daemon between two requests; `ioBuf` is its static buffer. -/
structure DaemonState (δ : Type) where
  guest : δ
  ioBuf : Nat → UInt8

inductive Conn where
  | ready
  | closed
  | crashed
deriving Repr, DecidableEq

/-- What one turn of the loop leaves: what it sent, and what it did not read. -/
structure Served (δ : Type) where
  daemon : DaemonState δ
  conn : Conn
  out : Bytes
  rest : Bytes

section

variable {δ F : Type} (g : Guest δ) (fl : FloatOps F)

/-! ## The buffer -/

def DaemonState.fill (s : DaemonState δ) (bs : Bytes) : DaemonState δ :=
  { s with ioBuf := fun i => bs.getD i (s.ioBuf i) }

/-- `pread` into the static buffer: nothing when more than the buffer holds comes in. -/
def preadBuf (s : DaemonState δ) (length offset : Nat) :
    Option (Option Bytes × DaemonState δ) :=
  let pr := g.pread s.guest length offset
  match pr.1 with
  | none => some (none, { s with guest := pr.2 })
  | some bs =>
      if bs.length ≤ bufferSize then some (some bs, { s with guest := pr.2 }.fill bs) else none

/-! ## The requests -/

def answered (s : DaemonState δ) (out rest : Bytes) : Served δ := ⟨s, .ready, out, rest⟩

/-- The reply to a request with the status and length its branch sets. -/
def ReqHeader.reply (req : ReqHeader) (status length : Nat) : RespHeader :=
  { magic := Nvme.magic, status := status, op := req.op, reserved := 0, offset := req.offset,
    length := length }

def serveWrite (s : DaemonState δ) (req : ReqHeader) (rest : Bytes) : Option (Served δ) :=
  if req.length > bufferSize then
    some (answered s (req.reply 1 0).toBytes rest)
  else readExact req.length (fun data rest =>
    let pw := g.pwrite s.guest data req.offset
    let s := { s.fill data with guest := pw.2 }
    if pw.1 = some req.length then
      some (answered s (req.reply 0 req.length).toBytes rest)
    else
      some (answered s (req.reply 1 (pw.1.getD 0)).toBytes rest)) rest

def serveRead (s : DaemonState δ) (req : ReqHeader) (rest : Bytes) : Option (Served δ) :=
  if req.length > bufferSize then
    some (answered s (req.reply 1 0).toBytes rest)
  else
    match preadBuf g s req.length req.offset with
    | none => some ⟨s, .crashed, [], rest⟩
    | some (none, s) =>
        some (answered s (req.reply 1 0).toBytes rest)
    | some (some bs, s) =>
        some (answered s
          ((req.reply 0 bs.length).toBytes ++ bs) rest)

/-- The replies to the items of a batch, unless one overruns the buffer. -/
def batchItems : DaemonState δ → List BatchReadItem → Option (Bytes × DaemonState δ)
  | s, [] => some ([], s)
  | s, item :: items =>
      match preadBuf g s item.length item.offset with
      | none => none
      | some (pr, s) =>
          let whole := pr.filter fun bs => bs.length = item.length
          let itemStatus := if whole.isSome then 0 else 1
          let head := (BatchRespItem.mk itemStatus item.blockId item.length).toBytes
          (batchItems s items).map fun r => (head ++ whole.getD [] ++ r.1, r.2)

def serveBatchRead (s : DaemonState δ) (req : ReqHeader) (rest : Bytes) : Option (Served δ) :=
  let numItems := req.length
  let items := g.malloc s.guest (numItems * BatchReadItem.size)
  let s := { s with guest := items.2 }
  if items.1 = false then some ⟨s, .closed, [], rest⟩
  else readExact (numItems * BatchReadItem.size) (fun bs rest =>
    match batchItems g s (readMany BatchReadItem.size BatchReadItem.ofBytes numItems bs) with
    | none => some ⟨s, .crashed, [], rest⟩
    | some (out, s) =>
        some (answered s ((req.reply 0 numItems).toBytes ++ out)
          rest)) rest

def TopkCandItem.itemLen (cand : TopkCandItem) : Nat :=
  if cand.length > bufferSize then bufferSize else cand.length

/-- Read every candidate's keys and keep the best in the list. A candidate whose keys
cannot be read in full is left out. -/
def scanCandidates (score : (Nat → UInt8) → TopkCandItem → Option F) :
    DaemonState δ → List TopkCandItem → List (TopItem F) →
      Option (List (TopItem F) × DaemonState δ)
  | s, [], top => some (top, s)
  | s, cand :: cands, top =>
      match preadBuf g s cand.itemLen cand.offset with
      | none => none
      | some (pr, s) =>
          if pr.map List.length = some cand.itemLen then
            match score s.ioBuf cand with
            | none => none
            | some sc =>
                scanCandidates score s cands
                  (insertTop fl top ⟨cand.blockId, sc, cand.actualTokens⟩)
          else scanCandidates score s cands top

def isFp16 (req : ReqHeader) (theader : TopkReqHeader) (cands : List TopkCandItem) : Bool :=
  req.flags = 1 ∨
    cands.head?.map TopkCandItem.length = some (16 * theader.kvHeads * theader.headDim * 2 % 2 ^ 32)

/-- The score of a candidate whose keys are in the buffer. -/
def candidateScore (theader : TopkReqHeader) (fp16 : Bool) (query : List F)
    (ioBuf : Nat → UInt8) (cand : TopkCandItem) : Option F :=
  let compute := if fp16 then computeBlockScoreGqaFp16 fl else computeBlockScoreGqa fl
  compute query ioBuf (toInt cand.actualTokens) (toInt theader.qHeads) (toInt theader.kvHeads)
    (toInt theader.headDim) (fl.ofBits theader.scale)

/-- `q_elements`, a product of `uint32_t`. -/
def TopkReqHeader.qElements (theader : TopkReqHeader) : Nat :=
  theader.qHeads * theader.headDim % 2 ^ 32

def TopkReqHeader.effectiveK (theader : TopkReqHeader) : Nat :=
  if theader.topK < theader.numCandidates then theader.topK else theader.numCandidates

/-- Top-k once the request is read: allocate the list, scan, reply. -/
def answerTopk (s : DaemonState δ) (req : ReqHeader) (theader : TopkReqHeader)
    (query : List F) (cands : List TopkCandItem) (rest : Bytes) : Served δ :=
  let topItems := g.malloc s.guest (theader.effectiveK * TopkRespItem.size)
  let s := { s with guest := topItems.2 }
  if theader.effectiveK > 0 ∧ topItems.1 = false then ⟨s, .crashed, [], rest⟩
  else
    match scanCandidates g fl (candidateScore fl theader (isFp16 req theader cands) query) s cands
        (emptyTop fl theader.effectiveK) with
    | none => ⟨s, .crashed, [], rest⟩
    | some (top, s) =>
        answered s ((req.reply 0 theader.effectiveK).toBytes ++
          top.flatMap fun item => (item.resp fl).toBytes) rest

def serveTopk (s : DaemonState δ) (req : ReqHeader) (rest : Bytes) : Option (Served δ) :=
  readExact TopkReqHeader.size (fun bs rest =>
    let theader := TopkReqHeader.ofBytes bs
    let queryBuf := g.malloc s.guest (theader.qElements * 4)
    let cands := g.malloc queryBuf.2 (theader.numCandidates * TopkCandItem.size)
    let s := { s with guest := cands.2 }
    if queryBuf.1 = false ∨ cands.1 = false then some ⟨s, .closed, [], rest⟩
    else readExact (theader.qElements * 4) (fun qs rest =>
      readExact (theader.numCandidates * TopkCandItem.size) (fun cs rest =>
        some (answerTopk g fl s req theader
          (readMany 4 (fun bs => fl.ofBits (next 4 bs).1) theader.qElements qs)
          (readMany TopkCandItem.size TopkCandItem.ofBytes theader.numCandidates cs) rest))
        rest) rest) rest

def dispatch (s : DaemonState δ) (req : ReqHeader) (rest : Bytes) : Option (Served δ) :=
  if req.magic ≠ magic then some ⟨s, .closed, [], rest⟩
  else if req.op = opPing then some (answered s (req.reply 0 0).toBytes rest)
  else if req.op = opWrite then serveWrite g s req rest
  else if req.op = opRead then serveRead g s req rest
  else if req.op = opBatchRead then serveBatchRead g s req rest
  else if req.op = opComputeTopk then serveTopk g fl s req rest
  else if req.op = opFlush then
    some (answered { s with guest := g.fdatasync s.guest } (req.reply 0 0).toBytes rest)
  else if req.op = opShutdown then some ⟨s, .closed, (req.reply 0 0).toBytes, rest⟩
  -- an op the loop does not know gets no reply
  else some (answered s [] rest)

def serve (s : DaemonState δ) : Bytes → Option (Served δ) :=
  readExact headerSize fun bs rest => dispatch g fl s (ReqHeader.ofBytes bs) rest

/-! ## What a turn does -/

theorem preadBuf_of_le {s : DaemonState δ} {length : Nat} (h : length ≤ bufferSize)
    (offset : Nat) :
    ∃ s', preadBuf g s length offset = some ((g.pread s.guest length offset).1, s') ∧
      s'.guest = (g.pread s.guest length offset).2 := by
  have hle := g.length_pread s.guest length offset
  unfold preadBuf
  dsimp only
  cases hpr : (g.pread s.guest length offset).1 with
  | none => exact ⟨_, rfl, rfl⟩
  | some bs =>
      have hbs := hle bs hpr
      dsimp only
      rw [if_pos (by omega)]
      exact ⟨_, rfl, rfl⟩

variable {g}

theorem serveWrite_of_gt {s : DaemonState δ} {req : ReqHeader} {rest : Bytes}
    (h : req.length > bufferSize) :
    serveWrite g s req rest = some (answered s (req.reply 1 0).toBytes rest) := if_pos h

theorem serveWrite_append {s : DaemonState δ} {req : ReqHeader} {data : Bytes}
    (hle : req.length ≤ bufferSize) (hlength : data.length = req.length) (rest : Bytes) :
    serveWrite g s req (data ++ rest) =
      let pw := g.pwrite s.guest data req.offset
      some (answered { s.fill data with guest := pw.2 }
        (if pw.1 = some req.length then req.reply 0 req.length
          else req.reply 1 (pw.1.getD 0)).toBytes rest) := by
  unfold serveWrite
  rw [if_neg (by omega), readExact_append _ hlength]
  dsimp only
  split
  · rfl
  · rfl

theorem serveRead_of_gt {s : DaemonState δ} {req : ReqHeader} {rest : Bytes}
    (h : req.length > bufferSize) :
    serveRead g s req rest = some (answered s (req.reply 1 0).toBytes rest) := if_pos h

/-- A read that fits the buffer sends what `pread` transferred. -/
theorem serveRead_of_le (s : DaemonState δ) {req : ReqHeader} (h : req.length ≤ bufferSize)
    (rest : Bytes) :
    ∃ daemon, daemon.guest = (g.pread s.guest req.length req.offset).2 ∧
      serveRead g s req rest = some (answered daemon
        (match (g.pread s.guest req.length req.offset).1 with
          | none => (req.reply 1 0).toBytes
          | some bs => (req.reply 0 bs.length).toBytes ++ bs) rest) := by
  obtain ⟨daemon, hpread, hguest⟩ := @preadBuf_of_le δ g s req.length h req.offset
  refine ⟨daemon, hguest, ?_⟩
  unfold serveRead
  rw [if_neg (by omega), hpread]
  cases (g.pread s.guest req.length req.offset).1 with
  | none => rfl
  | some bs => rfl

/-- The daemon after `malloc` for the items of a batch. -/
def DaemonState.batchAlloc (g : Guest δ) (s : DaemonState δ) (numItems : Nat) : DaemonState δ :=
  { s with guest := (g.malloc s.guest (numItems * BatchReadItem.size)).2 }

theorem serveBatchRead_append {s : DaemonState δ} {req : ReqHeader} {bs : Bytes}
    (hmalloc : (g.malloc s.guest (req.length * BatchReadItem.size)).1 = true)
    (hlength : bs.length = req.length * BatchReadItem.size) (rest : Bytes) :
    serveBatchRead g s req (bs ++ rest) = some
      (match batchItems g (s.batchAlloc g req.length)
        (readMany BatchReadItem.size BatchReadItem.ofBytes req.length bs) with
      | none => ⟨s.batchAlloc g req.length, .crashed, [], rest⟩
      | some (out, s) => answered s ((req.reply 0 req.length).toBytes ++ out) rest) := by
  unfold serveBatchRead DaemonState.batchAlloc
  dsimp only
  rw [if_neg (by simp [hmalloc]), readExact_append _ hlength]
  split
  · rfl
  · rfl

theorem serveBatchRead_of_refused {s : DaemonState δ} {req : ReqHeader} {rest : Bytes}
    (hmalloc : (g.malloc s.guest (req.length * BatchReadItem.size)).1 = false) :
    serveBatchRead g s req rest = some ⟨s.batchAlloc g req.length, .closed, [], rest⟩ :=
  if_pos hmalloc

/-- The reply to a first item: its data when it was read in full, or a header alone. -/
theorem batchItems_cons {s s' : DaemonState δ} {item : BatchReadItem}
    {items : List BatchReadItem} {out : Bytes}
    (h : batchItems g s (item :: items) = some (out, s')) :
    ∃ pr s₁ out₁, preadBuf g s item.length item.offset = some (pr, s₁) ∧
      batchItems g s₁ items = some (out₁, s') ∧
      ((∃ bs, pr = some bs ∧ bs.length = item.length ∧
          out = (BatchRespItem.mk 0 item.blockId item.length).toBytes ++ (bs ++ out₁)) ∨
        (pr.map List.length ≠ some item.length ∧
          out = (BatchRespItem.mk 1 item.blockId item.length).toBytes ++ out₁)) := by
  unfold batchItems at h
  split at h
  · cases h
  · rename_i pr s₁ hpread
    obtain ⟨⟨out₁, s₂⟩, hitems, hout⟩ := Option.map_eq_some_iff.mp h
    cases hout
    refine ⟨pr, s₁, out₁, hpread, hitems, ?_⟩
    by_cases hwhole : pr.map List.length = some item.length
    · obtain ⟨bs, rfl, hbs⟩ := Option.map_eq_some_iff.mp hwhole
      refine .inl ⟨bs, rfl, hbs, ?_⟩
      simp [Option.filter, hbs]
    · refine .inr ⟨hwhole, ?_⟩
      cases pr with
      | none => simp
      | some bs =>
          have hbs : bs.length ≠ item.length := by simpa using hwhole
          simp [Option.filter, hbs]

theorem batchItems_of_whole {s s₁ s' : DaemonState δ} {item : BatchReadItem}
    {items : List BatchReadItem} {bs out₁ : Bytes}
    (hpread : preadBuf g s item.length item.offset = some (some bs, s₁))
    (hbs : bs.length = item.length) (hitems : batchItems g s₁ items = some (out₁, s')) :
    batchItems g s (item :: items) =
      some ((BatchRespItem.mk 0 item.blockId item.length).toBytes ++ (bs ++ out₁), s') := by
  rw [batchItems, hpread]
  simp [Option.filter, hbs, hitems]

theorem batchItems_ne_nil {s s' : DaemonState δ} {item : BatchReadItem}
    {items : List BatchReadItem} {out : Bytes}
    (h : batchItems g s (item :: items) = some (out, s')) : out ≠ [] := by
  intro hnil
  obtain ⟨pr, s₁, out₁, -, -, ⟨bs, -, -, hout⟩ | ⟨-, hout⟩⟩ := batchItems_cons h
  all_goals
    have hlength := congrArg List.length (hnil.symm.trans hout)
    simp [BatchRespItem.size] at hlength
    omega

/-- The daemon after `malloc` for the query and for the candidates. -/
def DaemonState.topkAlloc (g : Guest δ) (s : DaemonState δ) (theader : TopkReqHeader) :
    DaemonState δ :=
  { s with guest := (g.malloc (g.malloc s.guest (theader.qElements * 4)).2
      (theader.numCandidates * TopkCandItem.size)).2 }

structure TopkGranted (g : Guest δ) (s : DaemonState δ) (theader : TopkReqHeader) : Prop where
  query : (g.malloc s.guest (theader.qElements * 4)).1 = true
  cands : (g.malloc (g.malloc s.guest (theader.qElements * 4)).2
    (theader.numCandidates * TopkCandItem.size)).1 = true

/-- The daemon after `calloc` for the list. -/
def DaemonState.listAlloc (g : Guest δ) (s : DaemonState δ) (effectiveK : Nat) :
    DaemonState δ :=
  { s with guest := (g.malloc s.guest (effectiveK * TopkRespItem.size)).2 }

variable {fl}

theorem serveTopk_of_refused {s : DaemonState δ} {req : ReqHeader} {hdr : Bytes}
    (hlength : hdr.length = TopkReqHeader.size)
    (h : ¬ TopkGranted g s (TopkReqHeader.ofBytes hdr)) (rest : Bytes) :
    serveTopk g fl s req (hdr ++ rest) =
      some ⟨s.topkAlloc g (TopkReqHeader.ofBytes hdr), .closed, [], rest⟩ := by
  unfold serveTopk
  rw [readExact_append _ hlength]
  apply if_pos
  by_contra hgranted
  simp only [not_or, Bool.not_eq_false] at hgranted
  exact h ⟨hgranted.1, hgranted.2⟩

theorem serveTopk_of_granted {s : DaemonState δ} {req : ReqHeader} {hdr : Bytes}
    (hlength : hdr.length = TopkReqHeader.size)
    (h : TopkGranted g s (TopkReqHeader.ofBytes hdr)) (rest : Bytes) :
    serveTopk g fl s req (hdr ++ rest) =
      let theader := TopkReqHeader.ofBytes hdr
      readExact (theader.qElements * 4) (fun qs rest =>
        readExact (theader.numCandidates * TopkCandItem.size) (fun cs rest =>
          some (answerTopk g fl (s.topkAlloc g theader) req theader
            (readMany 4 (fun bs => fl.ofBits (next 4 bs).1) theader.qElements qs)
            (readMany TopkCandItem.size TopkCandItem.ofBytes theader.numCandidates cs) rest))
          rest) rest := by
  unfold serveTopk
  rw [readExact_append _ hlength]
  apply if_neg
  rw [not_or]
  exact ⟨by simp [h.query], by simp [h.cands]⟩

variable (g) in
/-- Every candidate whose keys are read in full has a score. -/
def ScoresDefined (score : (Nat → UInt8) → TopkCandItem → Option F) :
    DaemonState δ → List TopkCandItem → Prop
  | _, [] => True
  | s, cand :: cands =>
      match preadBuf g s cand.itemLen cand.offset with
      | none => False
      | some (pr, s) =>
          (pr.map List.length = some cand.itemLen → (score s.ioBuf cand).isSome) ∧
            ScoresDefined score s cands

theorem scanCandidates_isSome_iff {score : (Nat → UInt8) → TopkCandItem → Option F}
    {s : DaemonState δ} {cands : List TopkCandItem} (top : List (TopItem F)) :
    (scanCandidates g fl score s cands top).isSome ↔ ScoresDefined g score s cands := by
  induction cands generalizing s top with
  | nil => exact iff_of_true rfl trivial
  | cons cand cands ih =>
      unfold scanCandidates ScoresDefined
      cases preadBuf g s cand.itemLen cand.offset with
      | none => simp
      | some r =>
          obtain ⟨pr, s'⟩ := r
          dsimp only
          by_cases hwhole : pr.map List.length = some cand.itemLen
          · rw [if_pos hwhole]
            cases hscore : score s'.ioBuf cand with
            | none => simp [hwhole]
            | some sc =>
                rw [ih]
                simp
          · rw [if_neg hwhole, ih]
            exact ⟨fun h => ⟨fun hread => absurd hread hwhole, h⟩, fun h => h.2⟩

theorem length_scanCandidates {score : (Nat → UInt8) → TopkCandItem → Option F}
    {s s' : DaemonState δ} {cands : List TopkCandItem} {top top' : List (TopItem F)}
    (h : scanCandidates g fl score s cands top = some (top', s')) :
    top'.length = top.length := by
  induction cands generalizing s top with
  | nil =>
      cases h
      rfl
  | cons cand cands ih =>
      unfold scanCandidates at h
      split at h
      · cases h
      · split at h
        · split at h
          · cases h
          · rw [ih h, length_insertTop]
        · exact ih h

end

end AiSsd.Nvme
