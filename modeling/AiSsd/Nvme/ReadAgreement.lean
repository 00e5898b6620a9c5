import AiSsd.Nvme.ByteDevice

/-!
# A read and a batch of one

The daemon answers a short `pread` as success to one opcode and as failure to the other, and
the client returns what it is sent. So a read of an extent at the end of the device may return
less than it was asked for, where a batch of the one extent raises.
-/

namespace AiSsd.Nvme

open Lib Lib.LittleEndian

/-- `OSError` and its subclasses, which is what `IOError` names. -/
def IsIOError : PyErr → Prop
  | .ioError _ => True
  | .connectionResetError _ => True
  | .timeoutError => True
  | _ => False

section

variable {δ F : Type} {g : Guest δ} {fl : FloatOps F}

/-! ## A single read -/

/-- The arguments fit the fields of the request. -/
def FitsWire (offset length : Int) : Prop :=
  (0 ≤ offset ∧ offset < 2 ^ 64) ∧ 0 ≤ length ∧ length < 2 ^ 32

theorem read_receive_failed (offset length : Int) (req : ReqHeader) :
    (read offset length).receive (req.reply 1 0).toBytes =
      some (.error (.ioError
        s!"NVMe read failed at offset {offset}, length {length}, status {1}"), []) := by
  have hbytes := RespHeader.ofBytes_toBytes (req.reply 1 0) []
  rw [List.append_nil] at hbytes
  rw [← List.append_nil (req.reply 1 0).toBytes]
  unfold read
  dsimp only
  rw [recvExact_append _ (RespHeader.length_toBytes _), hbytes,
    if_neg (by simp [RespHeader.Good, ReqHeader.reply])]
  rfl

/-- A read returns what `pread` transferred, however little. -/
theorem call_read {s : Link δ} (hs : InFrame s) {offset length : Int}
    (hfits : FitsWire offset length) (hle : length ≤ bufferSize) :
    (call g fl s (.read offset length)).1 =
      match (g.pread s.daemon.guest length.toNat offset.toNat).1 with
      | none => .error (.ioError
          s!"NVMe read failed at offset {offset}, length {length}, status {1}")
      | some bs => .ok (.data bs) := by
  obtain ⟨req, hreq⟩ := @packHeader_ok opRead 0 offset length (by decide) (by decide) hfits.1
    hfits.2
  have hsends : (Call.read offset length).Sends req := read_sends.mpr hreq
  obtain ⟨daemon, -, hread⟩ := @serveRead_of_le δ g s.daemon
    ⟨magic, opRead, 0, 0, offset.toNat, length.toNat⟩ (by dsimp only; omega) []
  have hserve := (@serve_packed δ F g fl s.daemon _ _ _ _ _ hreq []).trans hread
  rw [List.append_nil] at hserve
  have hbound := g.length_pread s.daemon.guest length.toNat offset.toNat
  cases hpread : (g.pread s.daemon.guest length.toNat offset.toNat).1 with
  | none =>
      simp only [hpread] at hserve
      exact (call_of_serve hs hsends hserve rfl rfl (read_receive_failed offset length _)).1
  | some bs =>
      simp only [hpread] at hserve
      have hbs := hbound bs hpread
      have hreceive := read_receive offset length
        ⟨magic, opRead, 0, 0, offset.toNat, length.toNat⟩ (show bs.length < 256 ^ 4 by
          unfold bufferSize at hle
          omega) []
      rw [List.append_nil] at hreceive
      exact (call_of_serve hs hsends hserve rfl rfl hreceive).1

/-! ## A batch of one -/

/-- The request of a batch of one item, and what the daemon makes of it. -/
theorem sends_one {offset length bid : Int} (hfits : FitsWire offset length)
    (hbid : 0 ≤ bid ∧ bid < 2 ^ 32) :
    ∃ req item, packHeader opBatchRead 0 0 1 = .ok req ∧
      (Call.readBatch [⟨offset, length, bid⟩]).Sends (req ++ item) ∧
      item.length = BatchReadItem.size ∧
      BatchReadItem.ofBytes item = ⟨offset.toNat, length.toNat, bid.toNat⟩ := by
  obtain ⟨⟨hoffset, hoffsetLt⟩, hlength, hlengthLt⟩ := hfits
  obtain ⟨req, hreq⟩ := @packHeader_ok opBatchRead 0 0 1 (by decide) (by decide) (by decide)
    (by decide)
  have hrange : InRange [(8, offset), (4, length), (4, bid)] := by
    simp only [inRange_cons]
    refine ⟨⟨hoffset, ?_⟩, ⟨hlength, ?_⟩, ⟨hbid.1, ?_⟩, inRange_nil⟩
    all_goals omega
  obtain ⟨item, hitem⟩ : ∃ item, (BatchRequest.mk offset length bid).pack = .ok item :=
    ⟨_, structPack_eq_ok.mpr ⟨hrange, rfl⟩⟩
  have hread := BatchRequest.ofBytes_pack hitem []
  rw [List.append_nil] at hread
  refine ⟨req, item, hreq, readBatch_sends.mpr ⟨by simp, req, [item], hreq, ?_, by simp⟩,
    length_structPack hitem, hread⟩
  rw [List.mapM_cons, hitem]
  rfl

/-- Without memory for its item the daemon leaves the connection. -/
theorem call_readBatch_refused {s : Link δ} (hs : InFrame s) {offset length bid : Int}
    (hfits : FitsWire offset length) (hbid : 0 ≤ bid ∧ bid < 2 ^ 32)
    (hmalloc : (g.malloc s.daemon.guest BatchReadItem.size).1 = false) :
    (call g fl s (.readBatch [⟨offset, length, bid⟩])).1 = .error (.connectionResetError
      "Connection closed unexpectedly by QEMU guest NVMe daemon") := by
  obtain ⟨req, item, hreq, hsends, -, -⟩ := sends_one hfits hbid
  have hserve := (@serve_packed δ F g fl s.daemon _ _ _ _ _ hreq item).trans
    (@serveBatchRead_of_refused δ g s.daemon ⟨magic, opBatchRead, 0, 0, 0, 1⟩ item
      (by simpa using hmalloc))
  have hsend := send_of_serve hs hserve
  have hgone : Settled g fl ((s.asked (req ++ item)).after
      ⟨s.daemon.batchAlloc g 1, .closed, [], item⟩) := fun hconn => Conn.noConfusion hconn
  rw [runDaemon_of_settled hgone] at hsend
  rw [call_of_sends hsends, hsend]
  have hempty : (Call.readBatch [⟨offset, length, bid⟩]).exchange.receive [] = none := by
    unfold Call.exchange readBatch recvExact
    dsimp only
    apply readExact_of_lt
    decide
  simp only [Link.recv, Link.after, Link.asked, hs.outbox, List.append_nil, hempty]
  rfl

/-- A batch of one returns only what `pread` transferred in full. -/
theorem call_readBatch_one {s : Link δ} (hs : InFrame s) {offset length bid : Int}
    (hfits : FitsWire offset length) (hbid : 0 ≤ bid ∧ bid < 2 ^ 32) (hle : length ≤ bufferSize)
    (hmalloc : (g.malloc s.daemon.guest BatchReadItem.size).1 = true) {pr : Option Bytes}
    (hpr : (g.pread (g.malloc s.daemon.guest BatchReadItem.size).2 length.toNat
      offset.toNat).1 = pr) :
    (∃ bs, pr = some bs ∧ bs.length = length.toNat ∧
        (call g fl s (.readBatch [⟨offset, length, bid⟩])).1 =
          .ok (.blocks (Dict.empty.set bid bs))) ∨
      (pr.map List.length ≠ some length.toNat ∧
        (call g fl s (.readBatch [⟨offset, length, bid⟩])).1 =
          .error (.ioError s!"NVMe batch read item failed for block {bid.toNat}")) := by
  obtain ⟨req, item, hreq, hsends, hsize, hitem⟩ := sends_one hfits hbid
  obtain ⟨daemon, hpread, -⟩ := @preadBuf_of_le δ g (s.daemon.batchAlloc g 1) length.toNat
    (by omega) offset.toNat
  have hguest : (g.pread (s.daemon.batchAlloc g 1).guest length.toNat offset.toNat).1 = pr := hpr
  rw [hguest] at hpread
  obtain ⟨out, daemon', hout⟩ : ∃ out daemon', batchItems g (s.daemon.batchAlloc g 1)
      [⟨offset.toNat, length.toNat, bid.toNat⟩] = some (out, daemon') := by
    rw [batchItems, hpread]
    exact ⟨_, _, rfl⟩
  have hbatch := @serveBatchRead_append δ g s.daemon ⟨magic, opBatchRead, 0, 0, 0, 1⟩ item
    (by simpa using hmalloc) (by simpa using hsize) []
  have hitems : readMany BatchReadItem.size BatchReadItem.ofBytes 1 item =
      [⟨offset.toNat, length.toNat, bid.toNat⟩] := by
    simp [readMany, hitem]
  rw [List.append_nil] at hbatch
  dsimp only at hbatch
  rw [hitems, hout] at hbatch
  have hserve := (@serve_packed δ F g fl s.daemon _ _ _ _ _ hreq item).trans hbatch
  have hreceive := readBatch_receive [⟨offset, length, bid⟩] ⟨magic, opBatchRead, 0, 0, 0, 1⟩
    (show 1 < 256 ^ 4 by decide) out
  have hlengthLt : length.toNat < 256 ^ 4 := by
    unfold bufferSize at hle
    omega
  have hbidLt : bid.toNat < 256 ^ 4 := by omega
  obtain ⟨pr', s₁, out₁, hfirst, hnil, hcase⟩ := batchItems_cons hout
  rw [hpread] at hfirst
  cases hfirst
  cases hnil
  rcases hcase with ⟨bs, rfl, hbs, rfl⟩ | ⟨hshort, rfl⟩
  · left
    dsimp only at hbs
    have hitem := recvItems_ok 0 Dict.empty hbidLt (show bs.length < 256 ^ 4 by omega) []
    rw [hbs, Int.toNat_of_nonneg hbid.1] at hitem
    refine ⟨bs, rfl, hbs, ?_⟩
    exact (call_of_serve hs hsends hserve rfl rfl (hreceive.trans hitem)).1
  · right
    have hitem := recvItems_failed 0 Dict.empty hbidLt hlengthLt []
    exact ⟨hshort, (call_of_serve hs hsends hserve rfl rfl (hreceive.trans hitem)).1⟩

/-! ## Agreement -/

/-- Both return `length` bytes, those that `pread` transferred, or both raise an `IOError`. -/
def Agree (length bid : Int) (transferred : Option Bytes) (single batch : Except PyErr Reply) :
    Prop :=
  (∃ bs, transferred = some bs ∧ (bs.length : Int) = length ∧ single = .ok (.data bs) ∧
      batch = .ok (.blocks (Dict.empty.set bid bs))) ∨
    ∃ err err', IsIOError err ∧ IsIOError err' ∧ single = .error err ∧ batch = .error err'

/-- A call whose arguments do not fit the request raises `struct.error`. -/
theorem call_read_unfit {s : Link δ} {offset length : Int} (hfits : ¬ FitsWire offset length) :
    (call g fl s (.read offset length)).1 = .error .structError := by
  have hrange : ¬ InRange [(4, (magic : Int)), (1, (opRead : Int)), (1, ((0 : Nat) : Int)),
      (2, 0), (8, offset), (4, length)] := by
    intro hin
    simp only [inRange_cons] at hin
    obtain ⟨-, -, -, -, hoffset, hlength, -⟩ := hin
    exact hfits ⟨by omega, by omega⟩
  have hopening : (Call.read offset length).exchange.opening = .error .structError := by
    unfold Call.exchange read packHeader structPack
    dsimp only
    rw [if_neg hrange]
    rfl
  unfold call
  rw [hopening]

theorem call_readBatch_unfit {s : Link δ} {offset length bid : Int}
    (hbid : ¬ (0 ≤ bid ∧ bid < 2 ^ 32)) :
    (call g fl s (.readBatch [⟨offset, length, bid⟩])).1 = .error .structError := by
  obtain ⟨req, hreq⟩ := @packHeader_ok opBatchRead 0 0 1 (by decide) (by decide) (by decide)
    (by decide)
  have hrange : ¬ InRange [(8, offset), (4, length), (4, bid)] := by
    intro hin
    simp only [inRange_cons] at hin
    omega
  have hopening : (Call.readBatch [⟨offset, length, bid⟩]).exchange.opening =
      .error .structError := by
    have hcount : packHeader opBatchRead 0 0 ([BatchRequest.mk offset length bid].length) =
        .ok req := hreq
    unfold Call.exchange readBatch
    dsimp only
    rw [if_neg (by simp), hcount, List.mapM_cons, BatchRequest.pack, structPack, if_neg hrange]
    rfl
  unfold call
  rw [hopening]

/-- A read and a batch of the one extent agree exactly when the arguments fit the request, and
`pread` fails, or transfers all that was asked for and the daemon had memory for the item. -/
theorem read_and_batch_agree_iff (g : Guest δ) (fl : FloatOps F) (s : Link δ) (hs : InFrame s)
    (offset length bid : Int) (hle : length ≤ bufferSize) (transferred : Option Bytes)
    (hsingle : (g.pread s.daemon.guest length.toNat offset.toNat).1 = transferred)
    (hbatch : (g.pread (g.malloc s.daemon.guest BatchReadItem.size).2 length.toNat
      offset.toNat).1 = transferred) :
    Agree length bid transferred (call g fl s (.read offset length)).1
        (call g fl s (.readBatch [⟨offset, length, bid⟩])).1 ↔
      FitsWire offset length ∧ (0 ≤ bid ∧ bid < 2 ^ 32) ∧
        (transferred = none ∨
          (∃ bs, transferred = some bs ∧ (bs.length : Int) = length) ∧
            (g.malloc s.daemon.guest BatchReadItem.size).1 = true) := by
  by_cases hfits : FitsWire offset length
  swap
  · rw [call_read_unfit hfits]
    simp [hfits, Agree, IsIOError]
  by_cases hbid : 0 ≤ bid ∧ bid < 2 ^ 32
  swap
  · rw [call_readBatch_unfit hbid]
    simp only [hbid, false_and, and_false, iff_false]
    simp [Agree, IsIOError]
  have hread := @call_read δ F g fl s hs offset length hfits hle
  rw [hsingle] at hread
  simp only [hfits, hbid, true_and]
  cases hmalloc : (g.malloc s.daemon.guest BatchReadItem.size).1 with
  | false =>
      rw [call_readBatch_refused hs hfits hbid hmalloc, hread]
      cases transferred <;> simp [Agree, IsIOError]
  | true =>
      have hlength : length = (length.toNat : Int) := (Int.toNat_of_nonneg hfits.2.1).symm
      rcases call_readBatch_one hs hfits hbid hle hmalloc hbatch with
        ⟨bs, rfl, hbs, hone⟩ | ⟨hshort, hone⟩
      · rw [hone, hread]
        simp only [Agree]
        exact iff_of_true (.inl ⟨bs, rfl, by omega, rfl, rfl⟩)
          (.inr ⟨⟨bs, rfl, by omega⟩, trivial⟩)
      · rw [hone, hread]
        cases transferred with
        | none => simp [Agree, IsIOError]
        | some bs =>
            have hne : (bs.length : Int) ≠ length := by
              intro heq
              rw [Option.map_some, ne_eq, Option.some.injEq] at hshort
              omega
            simp [Agree, hne]

/-- Eight bytes at the start of a device of eight. -/
theorem read_and_batch_agree_iff_whole :
    Agree 8 1 (some [1, 2, 3, 4, 5, 6, 7, 8])
        (call fileGuest intFloat (connected ⟨[1, 2, 3, 4, 5, 6, 7, 8]⟩) (.read 0 8)).1
        (call fileGuest intFloat (connected ⟨[1, 2, 3, 4, 5, 6, 7, 8]⟩)
          (.readBatch [⟨0, 8, 1⟩])).1 ↔
      FitsWire 0 8 ∧ (0 ≤ (1 : Int) ∧ (1 : Int) < 2 ^ 32) ∧
        ((some [1, 2, 3, 4, 5, 6, 7, 8] : Option Bytes) = none ∨
          (∃ bs, (some [1, 2, 3, 4, 5, 6, 7, 8] : Option Bytes) = some bs ∧
              (bs.length : Int) = 8) ∧
            (fileGuest.malloc (⟨[1, 2, 3, 4, 5, 6, 7, 8]⟩ : ByteFile)
              BatchReadItem.size).1 = true) :=
  read_and_batch_agree_iff fileGuest intFloat (connected ⟨[1, 2, 3, 4, 5, 6, 7, 8]⟩)
    ⟨rfl, rfl, rfl, rfl⟩ 0 8 1 (by decide) _ rfl rfl

/-- At the end of a device of four bytes, eight are asked for: the read returns four, the batch
raises. -/
theorem short_read_splits :
    let single := (call fileGuest intFloat (connected ⟨[1, 2, 3, 4]⟩) (.read 0 8)).1
    let batch := (call fileGuest intFloat (connected ⟨[1, 2, 3, 4]⟩) (.readBatch [⟨0, 8, 1⟩])).1
    single = .ok (.data [1, 2, 3, 4]) ∧
      batch = .error (.ioError "NVMe batch read item failed for block 1") ∧
      ¬ Agree 8 1 (some [1, 2, 3, 4]) single batch := by
  intro single batch
  have hsingle : single = .ok (.data [1, 2, 3, 4]) := rfl
  have hbatch : batch = .error (.ioError "NVMe batch read item failed for block 1") := rfl
  exact ⟨hsingle, hbatch, by simp [Agree, hsingle, hbatch]⟩

end

end AiSsd.Nvme
