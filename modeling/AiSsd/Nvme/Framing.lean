import AiSsd.Nvme.Link

/-!
# Staying in frame

Between two calls the streams should be empty: then the next reply the client reads is the
reply to its next request, and the next header the daemon parses is that of the request.
A call keeps the link in frame exactly when the daemon reads its request in one turn and
the client reads the whole reply; what that takes is worked out for each method.
-/

namespace AiSsd.Nvme

open Lib Lib.LittleEndian

/-- No byte is left in either stream, and the daemon parsed one header for each request. -/
structure InFrame {δ : Type} (s : Link δ) : Prop where
  conn : s.conn = .ready
  inbox : s.inbox = []
  outbox : s.outbox = []
  parsed : s.parsed = s.sent

/-- The client leaves nothing of the reply unread. -/
def Drains (receive : Recv) (out : Bytes) : Prop :=
  ∀ result rest, receive out = some (result, rest) → rest = []

section

variable {δ F : Type} {g : Guest δ} {fl : FloatOps F}

/-! ## One call in one turn -/

theorem ne_nil_of_sends {c : Call} {bs : Bytes} (h : c.Sends bs) : bs ≠ [] := by
  have hheader : ∀ {op flags : Nat} {offset length : Int} {req tail : Bytes},
      packHeader op flags offset length = .ok req → req ++ tail ≠ [] := by
    intro op flags offset length req tail hreq hnil
    have hlength := length_packHeader hreq
    rw [(List.append_eq_nil_iff.mp hnil).1] at hlength
    cases hlength
  cases c with
  | isAlive => simpa using @hheader _ _ _ _ _ [] (isAlive_sends.mp h)
  | write offset data =>
      obtain ⟨req, hreq, rfl⟩ := write_sends.mp h
      exact hheader hreq
  | read offset length => simpa using @hheader _ _ _ _ _ [] (read_sends.mp h)
  | readBatch requests =>
      obtain ⟨_, req, items, hreq, _, rfl⟩ := readBatch_sends.mp h
      exact hheader hreq
  | computeTopk query candidates topK scale qHeads kvHeads headDim isFp16 =>
      obtain ⟨_, req, topkHdr, cands, hreq, _, _, rfl⟩ := computeTopk_sends.mp h
      simp only [List.append_assoc]
      exact hheader hreq
  | flush => simpa using @hheader _ _ _ _ _ [] (flush_sends.mp h)

theorem call_of_sends {s : Link δ} {c : Call} {bs : Bytes} (h : c.Sends bs) :
    call g fl s c = (s.send g fl bs).recv c.exchange := by
  unfold Call.Sends at h
  unfold call
  rw [h]

theorem call_of_not_sends {s : Link δ} {c : Call} (h : ∀ bs, ¬ c.Sends bs) :
    (call g fl s c).2 = s := by
  unfold call
  cases hopening : c.exchange.opening with
  | error err => rfl
  | ok opening =>
      cases opening with
      | returned reply => rfl
      | sent bs => exact absurd hopening (h bs)

/-- Taking the reply changes nothing but the outbox. -/
theorem inFrame_recv_iff {s : Link δ} {e : Exchange} :
    InFrame (s.recv e).2 ↔
      s.conn = .ready ∧ s.inbox = [] ∧ s.parsed = s.sent ∧ Drains e.receive s.outbox := by
  unfold Link.recv Drains
  cases e.receive s.outbox with
  | none =>
      constructor
      · exact fun h => ⟨h.conn, h.inbox, h.parsed, by simp⟩
      · rintro ⟨hconn, hinbox, hparsed, -⟩
        exact ⟨hconn, hinbox, rfl, hparsed⟩
  | some r =>
      obtain ⟨result, rest⟩ := r
      constructor
      · intro h
        refine ⟨h.conn, h.inbox, h.parsed, ?_⟩
        intro _ _ heq
        cases heq
        exact h.outbox
      · rintro ⟨hconn, hinbox, hparsed, hdrains⟩
        exact ⟨hconn, hinbox, hdrains result rest rfl, hparsed⟩

theorem settled_of_inbox_nil {s : Link δ} (h : s.inbox = []) : Settled g fl s := by
  intro _
  rw [h]
  exact readExact_of_lt _ (by decide)

def Link.asked (s : Link δ) (bs : Bytes) : Link δ := { s with inbox := bs, sent := s.sent + 1 }

theorem send_of_inFrame {s : Link δ} (hs : InFrame s) {bs : Bytes} {fuel : Nat}
    (h : bs.length ≤ fuel) : s.send g fl bs = runDaemon g fl fuel (s.asked bs) := by
  have hinbox : (s.asked bs).inbox.length ≤ fuel := h
  rw [runDaemon_of_le hinbox]
  unfold Link.send Link.asked
  simp only [hs.inbox, List.nil_append]

theorem send_of_serve {s : Link δ} {bs : Bytes} {r : Served δ} (hs : InFrame s)
    (hserve : serve g fl s.daemon bs = some r) :
    s.send g fl bs = runDaemon g fl bs.length ((s.asked bs).after r) := by
  have hready : (s.asked bs).conn = .ready := hs.conn
  rw [send_of_inFrame hs (Nat.le_succ _)]
  exact runDaemon_succ hready hserve _

theorem send_of_serve_whole {s : Link δ} {bs : Bytes} {r : Served δ} (hs : InFrame s)
    (hserve : serve g fl s.daemon bs = some r) (hrest : r.rest = []) :
    s.send g fl bs = (s.asked bs).after r := by
  rw [send_of_serve hs hserve]
  exact runDaemon_of_settled (settled_of_inbox_nil hrest) _

/-- A request that the daemon waits for more of stays in the stream. -/
theorem inbox_of_serve_none {s : Link δ} {bs : Bytes} (hs : InFrame s)
    (hserve : serve g fl s.daemon bs = none) : (s.send g fl bs).inbox = bs := by
  have hsettled : Settled g fl (s.asked bs) := fun _ => hserve
  rw [send_of_inFrame hs (Nat.le_refl _), runDaemon_of_settled hsettled]
  rfl

/-- What the first turn leaves stays in the stream, or is parsed as a header. -/
theorem not_inFrame_of_rest {s : Link δ} {bs : Bytes} {r : Served δ} (hs : InFrame s)
    (hserve : serve g fl s.daemon bs = some r) (hrest : r.rest ≠ [])
    (hinbox : (s.send g fl bs).inbox = []) :
    (s.send g fl bs).parsed ≠ (s.send g fl bs).sent := by
  have hleft : ((s.asked bs).after r).inbox ≠ [] := hrest
  rw [send_of_serve hs hserve] at hinbox ⊢
  have hparsed := (runDaemon_of_inbox_ne_nil hleft _).resolve_left (not_not_intro hinbox)
  have hcounts := hs.parsed
  rw [sent_runDaemon]
  simp only [Link.after, Link.asked] at hparsed ⊢
  omega

/-- A call keeps the frame exactly when the daemon reads its request in one turn, stays on
the connection, and the client reads the whole reply. -/
theorem inFrame_call_iff {s : Link δ} {c : Call} {bs : Bytes} (hs : InFrame s)
    (hsends : c.Sends bs) :
    InFrame (call g fl s c).2 ↔ ∃ r, serve g fl s.daemon bs = some r ∧ r.conn = .ready ∧
      r.rest = [] ∧ Drains c.exchange.receive r.out := by
  have hout : ∀ r : Served δ, ((s.asked bs).after r).outbox = r.out := by
    intro r
    simp only [Link.after, Link.asked, hs.outbox, List.nil_append]
  rw [call_of_sends hsends, inFrame_recv_iff]
  constructor
  · rintro ⟨hconn, hinbox, hparsed, hdrains⟩
    cases hserve : serve g fl s.daemon bs with
    | none =>
        rw [inbox_of_serve_none hs hserve] at hinbox
        exact absurd hinbox (ne_nil_of_sends hsends)
    | some r =>
        by_cases hrest : r.rest = []
        · rw [send_of_serve_whole hs hserve hrest] at hconn hdrains
          rw [hout] at hdrains
          exact ⟨r, rfl, hconn, hrest, hdrains⟩
        · exact absurd hparsed (not_inFrame_of_rest hs hserve hrest hinbox)
  · rintro ⟨r, hserve, hconn, hrest, hdrains⟩
    rw [send_of_serve_whole hs hserve hrest, hout]
    refine ⟨hconn, hrest, ?_, hdrains⟩
    simp only [Link.after, Link.asked, hs.parsed]

theorem serve_packed {s : DaemonState δ} {op flags : Nat} {offset length : Int} {req : Bytes}
    (h : packHeader op flags offset length = .ok req) (rest : Bytes) :
    serve g fl s (req ++ rest) =
      dispatch g fl s ⟨magic, op, flags, 0, offset.toNat, length.toNat⟩ rest := by
  have hheader := ReqHeader.ofBytes_packHeader h []
  rw [List.append_nil] at hheader
  unfold serve
  rw [readExact_append _ (length_packHeader h), hheader]

/-! ## Replies -/

theorem drains_give (reply : Reply) : Drains (give reply) [] := by
  intro _ _ h
  cases h
  rfl

theorem drains_raise_iff (err : PyErr) (out : Bytes) : Drains (raise err) out ↔ out = [] := by
  constructor
  · exact fun h => h _ out rfl
  · intro hout _ _ h
    cases h
    exact hout

theorem drains_recvExact {n : Nat} {k : Bytes → Recv} {bs out : Bytes} (h : bs.length = n) :
    Drains (recvExact n k) (bs ++ out) ↔ Drains (k bs) out := by
  unfold Drains
  rw [recvExact_append k h]

/-- Where nothing more has come there is nothing to leave. -/
theorem drains_recvExact_nil {n : Nat} {k : Bytes → Recv} (h : ∀ bs, Drains (k bs) []) :
    Drains (recvExact n k) [] := by
  intro result rest hrecv
  obtain ⟨-, hk⟩ := readExact_eq_some hrecv
  rw [List.drop_nil] at hk
  exact h _ result rest hk

theorem drains_header {k : Bytes → Recv} (resp : RespHeader) (h : ∀ bs, Drains (k bs) []) :
    Drains (recvExact headerSize k) resp.toBytes := by
  have hdrains := (drains_recvExact resp.length_toBytes).mpr (h resp.toBytes)
  rwa [List.append_nil] at hdrains

theorem good_reply (req : ReqHeader) {length : Nat} (h : length < 256 ^ 4) :
    (RespHeader.ofBytes (req.reply 0 length).toBytes).Good ∧
      (RespHeader.ofBytes (req.reply 0 length).toBytes).length = length := by
  have hbytes := RespHeader.ofBytes_toBytes (req.reply 0 length) []
  rw [List.append_nil] at hbytes
  rw [hbytes]
  exact ⟨⟨rfl, rfl⟩, Nat.mod_eq_of_lt h⟩

/-! ## Ping, flush, write and read -/

/-- A request of a header alone that is answered by a header alone. -/
theorem inFrame_of_header {s : Link δ} (hs : InFrame s) {c : Call} {op : Nat} {req : Bytes}
    (hreq : packHeader op 0 0 0 = .ok req) (hsends : c.Sends req) {daemon : DaemonState δ}
    {resp : RespHeader}
    (hserve : dispatch g fl s.daemon ⟨magic, op, 0, 0, 0, 0⟩ [] =
      some (answered daemon resp.toBytes []))
    (hdrains : Drains c.exchange.receive resp.toBytes) : InFrame (call g fl s c).2 := by
  have hpacked := @serve_packed δ F g fl s.daemon _ _ _ _ _ hreq []
  rw [List.append_nil] at hpacked
  rw [inFrame_call_iff hs hsends, hpacked]
  exact ⟨_, hserve, rfl, rfl, hdrains⟩

theorem inFrame_isAlive {s : Link δ} (hs : InFrame s) : InFrame (call g fl s .isAlive).2 := by
  obtain ⟨req, hreq⟩ : ∃ req, packHeader opPing 0 0 0 = .ok req := ⟨_, rfl⟩
  exact inFrame_of_header hs hreq (isAlive_sends.mpr hreq) rfl
    (drains_header _ fun _ => drains_give _)

theorem inFrame_flush {s : Link δ} (hs : InFrame s) : InFrame (call g fl s .flush).2 := by
  obtain ⟨req, hreq⟩ : ∃ req, packHeader opFlush 0 0 0 = .ok req := ⟨_, rfl⟩
  exact inFrame_of_header hs hreq (flush_sends.mpr hreq) rfl
    (drains_header _ fun _ => drains_give _)

theorem drains_write (offset : Int) (data : Bytes) (resp : RespHeader) :
    Drains (write offset data).receive resp.toBytes := by
  unfold write
  dsimp only
  refine drains_header resp fun bs => ?_
  split
  · exact drains_give _
  · exact (drains_raise_iff _ _).mpr rfl

/-- A write of more than the buffer is refused before its payload is read. -/
theorem inFrame_write_iff {s : Link δ} {offset : Int} {data bs : Bytes} (hs : InFrame s)
    (hsends : (Call.write offset data).Sends bs) :
    InFrame (call g fl s (.write offset data)).2 ↔ data.length ≤ bufferSize := by
  obtain ⟨req, hreq, rfl⟩ := write_sends.mp hsends
  rw [inFrame_call_iff hs hsends, serve_packed hreq, Int.toNat_natCast]
  show (∃ r, serveWrite g s.daemon _ data = some r ∧ _) ↔ _
  constructor
  · rintro ⟨r, hserve, -, hrest, -⟩
    by_contra hbig
    rw [serveWrite_of_gt (show data.length > bufferSize by omega)] at hserve
    cases hserve
    obtain rfl : data = [] := hrest
    exact hbig (Nat.zero_le _)
  · intro hle
    have hserve := @serveWrite_append δ g s.daemon
      ⟨magic, opWrite, 0, 0, offset.toNat, data.length⟩ data hle rfl []
    rw [List.append_nil] at hserve
    exact ⟨_, hserve, rfl, rfl, drains_write offset data _⟩

theorem drains_read (offset length : Int) (resp : RespHeader) :
    Drains (read offset length).receive resp.toBytes := by
  unfold read
  dsimp only
  refine drains_header resp fun bs => ?_
  split
  · exact drains_recvExact_nil fun _ => drains_give _
  · exact (drains_raise_iff _ _).mpr rfl

theorem read_receive (offset length : Int) (req : ReqHeader) {data : Bytes}
    (h : data.length < 256 ^ 4) (rest : Bytes) :
    (read offset length).receive ((req.reply 0 data.length).toBytes ++ (data ++ rest)) =
      some (.ok (.data data), rest) := by
  obtain ⟨hgood, hlength⟩ := good_reply req h
  unfold read
  dsimp only
  rw [recvExact_append _ (RespHeader.length_toBytes _), if_pos hgood, hlength,
    recvExact_append _ rfl]
  rfl

theorem inFrame_read {s : Link δ} {offset length : Int} {bs : Bytes} (hs : InFrame s)
    (hsends : (Call.read offset length).Sends bs) :
    InFrame (call g fl s (.read offset length)).2 := by
  have hreq := read_sends.mp hsends
  have hserve := @serve_packed δ F g fl s.daemon _ _ _ _ _ hreq []
  rw [List.append_nil] at hserve
  rw [inFrame_call_iff hs hsends, hserve]
  show ∃ r, serveRead g s.daemon ⟨magic, opRead, 0, 0, offset.toNat, length.toNat⟩ [] = some r ∧ _
  by_cases hle : length.toNat ≤ bufferSize
  · obtain ⟨daemon, -, hread⟩ := @serveRead_of_le δ g s.daemon
      ⟨magic, opRead, 0, 0, offset.toNat, length.toNat⟩ hle []
    refine ⟨_, hread, rfl, rfl, ?_⟩
    have hbound := g.length_pread s.daemon.guest length.toNat offset.toNat
    cases hpread : (g.pread s.daemon.guest length.toNat offset.toNat).1 with
    | none => exact drains_read offset length _
    | some data =>
        have hdata := hbound data hpread
        have hreceive := read_receive offset length
          ⟨magic, opRead, 0, 0, offset.toNat, length.toNat⟩ (show data.length < 256 ^ 4 by
            unfold bufferSize at hle
            omega) []
        rw [List.append_nil] at hreceive
        intro result rest h
        have heq := hreceive.symm.trans h
        cases heq
        rfl
  · have hgt := @serveRead_of_gt δ g s.daemon
      ⟨magic, opRead, 0, 0, offset.toNat, length.toNat⟩ [] (by dsimp only; omega)
    exact ⟨_, hgt, rfl, rfl, drains_read offset length _⟩

/-! ## Batches -/

theorem encodes_batch {requests : List BatchRequest} {items : List Bytes}
    (h : requests.mapM BatchRequest.pack = .ok items) :
    List.Forall₂ (Encodes BatchReadItem.size BatchReadItem.ofBytes)
      (requests.map BatchRequest.item) items := by
  rw [List.forall₂_map_left_iff]
  refine (mapM_eq_ok h).imp fun r bs hpack => ?_
  exact ⟨length_structPack hpack, BatchRequest.ofBytes_pack hpack⟩

structure BatchReadItem.Packed (item : BatchReadItem) : Prop where
  length_lt : item.length < 256 ^ 4
  blockId_lt : item.blockId < 256 ^ 4

theorem packed_batch {requests : List BatchRequest} {items : List Bytes}
    (h : requests.mapM BatchRequest.pack = .ok items) :
    ∀ item ∈ requests.map BatchRequest.item, item.Packed := by
  intro item hitem
  obtain ⟨r, hr, rfl⟩ := List.mem_map.mp hitem
  obtain ⟨bs, hpack⟩ := ok_of_mapM_eq_ok h r hr
  obtain ⟨hrange, -⟩ := structPack_eq_ok.mp hpack
  simp only [inRange_cons] at hrange
  obtain ⟨-, hlength, hblock, -⟩ := hrange
  constructor
  all_goals
    simp only [BatchRequest.item]
    omega

/-- A batch's replies leave nothing unread when every item but the last is read in full.
The client stops at the first item that failed. -/
def BatchFramed (g : Guest δ) : DaemonState δ → List BatchReadItem → Prop
  | _, [] => True
  | s, item :: items =>
      match preadBuf g s item.length item.offset with
      | none => False
      | some (pr, s) =>
          items = [] ∨ (pr.map List.length = some item.length ∧ BatchFramed g s items)

theorem batchItems_of_framed {s : DaemonState δ} {items : List BatchReadItem}
    (h : BatchFramed g s items) : ∃ r, batchItems g s items = some r := by
  induction items generalizing s with
  | nil => exact ⟨_, rfl⟩
  | cons item items ih =>
      unfold BatchFramed at h
      unfold batchItems
      cases hpread : preadBuf g s item.length item.offset with
      | none =>
          rw [hpread] at h
          exact h.elim
      | some r =>
          obtain ⟨pr, s'⟩ := r
          rw [hpread] at h
          have hitems : ∃ r, batchItems g s' items = some r := by
            rcases h with rfl | ⟨-, h⟩
            · exact ⟨_, rfl⟩
            · exact ih h
          obtain ⟨r, hr⟩ := hitems
          dsimp only
          rw [hr]
          exact ⟨_, rfl⟩

theorem drains_recvItems_iff {s s' : DaemonState δ} {items : List BatchReadItem} {out : Bytes}
    (hpacked : ∀ item ∈ items, item.Packed) (h : batchItems g s items = some (out, s'))
    (results : Dict Int Bytes) :
    Drains (recvItems items.length results) out ↔ BatchFramed g s items := by
  induction items generalizing s s' out results with
  | nil =>
      cases h
      exact iff_of_true (drains_give _) trivial
  | cons item items ih =>
      rw [List.forall_mem_cons] at hpacked
      obtain ⟨⟨hlength, hblock⟩, hrest⟩ := hpacked
      obtain ⟨pr, s₁, out₁, hpread, hitems, hout⟩ := batchItems_cons h
      rw [BatchFramed, hpread, List.length_cons]
      rcases hout with ⟨bs, rfl, hbs, rfl⟩ | ⟨hfailed, rfl⟩
      · rw [← hbs] at hlength ⊢
        have hrecv := recvItems_ok items.length results hblock hlength out₁
        have hdrains := ih hrest hitems (results.set item.blockId bs)
        unfold Drains at hdrains ⊢
        rw [hrecv, hdrains]
        constructor
        · exact fun hframed => .inr ⟨rfl, hframed⟩
        · rintro (rfl | ⟨-, hframed⟩)
          · trivial
          · exact hframed
      · have hrecv := recvItems_failed items.length results hblock hlength out₁
        have hnil : out₁ = [] ↔ items = [] := by
          constructor
          · intro hout₁
            cases items with
            | nil => rfl
            | cons item items => exact absurd hout₁ (batchItems_ne_nil hitems)
          · rintro rfl
            cases hitems
            rfl
        have hraise := drains_raise_iff
          (.ioError s!"NVMe batch read item failed for block {item.blockId}") out₁
        unfold Drains at hraise ⊢
        rw [hrecv, hraise, hnil]
        exact ⟨.inl, fun hframed => hframed.resolve_right fun hwhole => hfailed hwhole.1⟩

theorem readBatch_receive (requests : List BatchRequest) (req : ReqHeader) {count : Nat}
    (h : count < 256 ^ 4) (out : Bytes) :
    (readBatch requests).receive ((req.reply 0 count).toBytes ++ out) =
      recvItems count Dict.empty out := by
  obtain ⟨hgood, hlength⟩ := good_reply req h
  unfold readBatch
  dsimp only
  rw [recvExact_append _ (RespHeader.length_toBytes _), if_pos hgood, hlength]

theorem serveBatchRead_framed_iff {s : DaemonState δ} {requests : List BatchRequest}
    {items : List Bytes} (hitems : requests.mapM BatchRequest.pack = .ok items)
    {req : ReqHeader} (hreq : req.length = requests.length) (hcount : req.length < 256 ^ 4) :
    (∃ r, serveBatchRead g s req items.flatten = some r ∧ r.conn = .ready ∧ r.rest = [] ∧
        Drains (readBatch requests).receive r.out) ↔
      (g.malloc s.guest (req.length * BatchReadItem.size)).1 = true ∧
        BatchFramed g (s.batchAlloc g req.length) (requests.map BatchRequest.item) := by
  have hencodes := encodes_batch hitems
  have hbytes := length_flatten hencodes
  have hread := readMany_flatten hencodes []
  rw [List.length_map, ← hreq] at hbytes hread
  rw [List.append_nil] at hread
  cases hmalloc : (g.malloc s.guest (req.length * BatchReadItem.size)).1 with
  | false =>
      rw [serveBatchRead_of_refused hmalloc]
      simp
  | true =>
      have hserve := serveBatchRead_append hmalloc hbytes []
      rw [List.append_nil, hread] at hserve
      rw [hserve]
      simp only [true_and]
      cases hout : batchItems g (s.batchAlloc g req.length) (requests.map BatchRequest.item) with
      | none =>
          constructor
          · rintro ⟨r, hr, hconn, -⟩
            cases hr
            cases hconn
          · intro hframed
            obtain ⟨r, hr⟩ := batchItems_of_framed hframed
            rw [hout] at hr
            cases hr
      | some r =>
          obtain ⟨out, s'⟩ := r
          have hdrains := drains_recvItems_iff (packed_batch hitems) hout Dict.empty
          have hreceive := readBatch_receive requests req hcount out
          rw [List.length_map, ← hreq] at hdrains
          rw [← hdrains]
          unfold Drains
          rw [← hreceive]
          constructor
          · rintro ⟨r, hr, -, -, hdrains⟩
            cases hr
            exact hdrains
          · exact fun hdrains => ⟨_, rfl, rfl, rfl, hdrains⟩

/-- A batch goes through when the daemon gets its memory and the client can read to the
end of the replies. -/
theorem inFrame_readBatch_iff {s : Link δ} {requests : List BatchRequest} {bs : Bytes}
    (hs : InFrame s) (hsends : (Call.readBatch requests).Sends bs) :
    InFrame (call g fl s (.readBatch requests)).2 ↔
      (g.malloc s.daemon.guest (requests.length * BatchReadItem.size)).1 = true ∧
        BatchFramed g (s.daemon.batchAlloc g requests.length)
          (requests.map BatchRequest.item) := by
  obtain ⟨-, reqHdr, items, hreq, hitems, rfl⟩ := readBatch_sends.mp hsends
  have hcount : requests.length < 256 ^ 4 := by
    obtain ⟨hrange, -⟩ := structPack_eq_ok.mp hreq
    simp only [inRange_cons] at hrange
    omega
  rw [inFrame_call_iff hs hsends, serve_packed hreq, Int.toNat_natCast]
  exact @serveBatchRead_framed_iff δ g s.daemon requests items hitems
    ⟨magic, opBatchRead, 0, 0, (0 : Int).toNat, requests.length⟩ rfl hcount

/-! ## Top-k -/

theorem encodes_candidates {candidates : List Candidate} {cands : List Bytes}
    (h : candidates.mapM Candidate.pack = .ok cands) :
    List.Forall₂ (Encodes TopkCandItem.size TopkCandItem.ofBytes)
      (candidates.map Candidate.item) cands := by
  rw [List.forall₂_map_left_iff]
  refine (mapM_eq_ok h).imp fun c bs hpack => ?_
  exact ⟨length_structPack hpack, Candidate.ofBytes_pack hpack⟩

variable (fl) in
theorem encodes_query (query : List UInt32) :
    List.Forall₂ (Encodes 4 fun bs => fl.ofBits (next 4 bs).1)
      (query.map fun bits => fl.ofBits bits.toNat)
      (query.map fun bits => toBytes 4 bits.toNat) := by
  rw [List.forall₂_map_left_iff, List.forall₂_map_right_iff]
  refine List.forall₂_same.mpr fun bits _ => ⟨length_toBytes 4 _, fun rest => ?_⟩
  have hbits : bits.toNat % 256 ^ 4 = bits.toNat := Nat.mod_eq_of_lt bits.toNat_lt
  rw [next_toBytes, hbits]

/-- Top-k once its request is read goes through when the daemon gets memory for the list
and every candidate it reads has a score. -/
structure TopkScanned (g : Guest δ) (fl : FloatOps F) (s : DaemonState δ) (req : ReqHeader)
    (theader : TopkReqHeader) (query : List F) (cands : List TopkCandItem) : Prop where
  list : 0 < theader.effectiveK →
    (g.malloc s.guest (theader.effectiveK * TopkRespItem.size)).1 = true
  scores : ScoresDefined g (candidateScore fl theader (isFp16 req theader cands) query)
    (s.listAlloc g theader.effectiveK) cands

theorem answerTopk_ready_iff {s : DaemonState δ} {req : ReqHeader} {theader : TopkReqHeader}
    {query : List F} {cands : List TopkCandItem} {rest : Bytes} :
    (answerTopk g fl s req theader query cands rest).conn = .ready ↔
      TopkScanned g fl s req theader query cands := by
  have hscan := @scanCandidates_isSome_iff δ F g fl
    (candidateScore fl theader (isFp16 req theader cands) query)
    (s.listAlloc g theader.effectiveK) cands (emptyTop fl theader.effectiveK)
  unfold answerTopk
  dsimp only
  split
  · rename_i hlist
    refine iff_of_false (by simp) fun h => ?_
    rw [h.list hlist.1] at hlist
    cases hlist.2
  · rename_i hlist
    have hgranted : 0 < theader.effectiveK →
        (g.malloc s.guest (theader.effectiveK * TopkRespItem.size)).1 = true := by
      intro hpos
      by_contra hrefused
      exact hlist ⟨hpos, by simpa using hrefused⟩
    split
    · rename_i hnone
      refine iff_of_false (by simp) fun h => ?_
      have hsome := hscan.mpr h.scores
      unfold DaemonState.listAlloc at hsome
      rw [hnone] at hsome
      cases hsome
    · rename_i top s' hsome
      refine iff_of_true rfl ⟨hgranted, hscan.mp ?_⟩
      unfold DaemonState.listAlloc
      rw [hsome]
      rfl

theorem effectiveK_le (theader : TopkReqHeader) :
    theader.effectiveK ≤ theader.numCandidates := by
  unfold TopkReqHeader.effectiveK
  split
  · omega
  · exact Nat.le_refl _

/-- What a scan that went through sends: a header and an item for each place of the list. -/
theorem out_answerTopk {s : DaemonState δ} {req : ReqHeader} {theader : TopkReqHeader}
    {query : List F} {cands : List TopkCandItem} {rest : Bytes}
    (h : (answerTopk g fl s req theader query cands rest).conn = .ready) :
    ∃ items : Bytes, items.length = theader.effectiveK * TopkRespItem.size ∧
      (answerTopk g fl s req theader query cands rest).out =
        (req.reply 0 theader.effectiveK).toBytes ++ items := by
  unfold answerTopk at h ⊢
  dsimp only at h ⊢
  split at h
  · cases h
  · rename_i hlist
    rw [if_neg hlist]
    split at h
    · cases h
    · rename_i top s' hsome
      refine ⟨_, ?_, rfl⟩
      have hlength := length_scanCandidates hsome
      rw [length_emptyTop] at hlength
      simp [List.length_flatMap, hlength]

theorem computeTopk_receive (query : List UInt32) (candidates : List Candidate) (topK : Int)
    (scale : Option UInt32) (qHeads kvHeads headDim : Int) (isFp16 : Bool) (req : ReqHeader)
    {count : Nat} (h : count < 256 ^ 4) {items : Bytes}
    (hitems : items.length = count * TopkRespItem.size) (rest : Bytes) :
    (computeTopk query candidates topK scale qHeads kvHeads headDim isFp16).receive
      ((req.reply 0 count).toBytes ++ (items ++ rest)) =
      some (.ok (.topk (readMany TopkRespItem.size TopkRespItem.ofBytes count items)), rest) := by
  obtain ⟨hgood, hlength⟩ := good_reply req h
  unfold computeTopk
  dsimp only
  rw [recvExact_append _ (RespHeader.length_toBytes _), if_pos hgood, hlength]
  split
  · rw [recvExact_append _ hitems]
    rfl
  · rename_i hzero
    obtain rfl : count = 0 := by omega
    obtain rfl : items = [] := List.length_eq_zero_iff.mp (by rw [hitems, Nat.zero_mul])
    rfl

/-- What a top-k request needs to go through: a query of the length the daemon computes,
memory, and scores. -/
structure TopkFramed (g : Guest δ) (fl : FloatOps F) (s : DaemonState δ) (req : ReqHeader)
    (theader : TopkReqHeader) (query : List UInt32) (cands : List TopkCandItem) : Prop where
  queryLength : query.length = theader.qElements
  granted : TopkGranted g s theader
  scanned : TopkScanned g fl (s.topkAlloc g theader) req theader
    (query.map fun bits => fl.ofBits bits.toNat) cands

/-- The daemon's turn on a top-k request that has arrived whole. -/
theorem serveTopk_of_whole {s : DaemonState δ} {req : ReqHeader} {hdr : Bytes}
    {theader : TopkReqHeader} {query : List UInt32} {cands : List TopkCandItem}
    {records : List Bytes} (hlength : hdr.length = TopkReqHeader.size)
    (hparse : TopkReqHeader.ofBytes hdr = theader)
    (hcands : List.Forall₂ (Encodes TopkCandItem.size TopkCandItem.ofBytes) cands records)
    (hnum : theader.numCandidates = cands.length) (hgranted : TopkGranted g s theader)
    (hq : query.length = theader.qElements) :
    serveTopk g fl s req
        (hdr ++ ((query.flatMap fun bits => toBytes 4 bits.toNat) ++ records.flatten)) =
      some (answerTopk g fl (s.topkAlloc g theader) req theader
        (query.map fun bits => fl.ofBits bits.toNat) cands []) := by
  have hquery := encodes_query fl query
  have hqBytes := length_flatten hquery
  have hcBytes := length_flatten hcands
  have hqRead := readMany_flatten hquery []
  have hcRead := readMany_flatten hcands []
  subst hparse
  rw [← List.flatMap_def, List.length_map, hq] at hqBytes
  rw [← hnum] at hcBytes
  rw [← List.flatMap_def, List.length_map, List.append_nil, hq] at hqRead
  rw [List.append_nil, ← hnum] at hcRead
  rw [serveTopk_of_granted hlength hgranted]
  dsimp only
  rw [readExact_append _ hqBytes, ← List.append_nil records.flatten,
    readExact_append _ hcBytes, hqRead, hcRead]

/-- The daemon's turn on a top-k request whose header it has the memory for. -/
theorem serveTopk_framed_iff {s : DaemonState δ} {req : ReqHeader} {hdr : Bytes}
    {theader : TopkReqHeader} {query : List UInt32} {cands : List TopkCandItem}
    {records : List Bytes} {receive : Recv} (hlength : hdr.length = TopkReqHeader.size)
    (hparse : TopkReqHeader.ofBytes hdr = theader)
    (hcands : List.Forall₂ (Encodes TopkCandItem.size TopkCandItem.ofBytes) cands records)
    (hnum : theader.numCandidates = cands.length)
    (hreceive : ∀ items : Bytes, items.length = theader.effectiveK * TopkRespItem.size →
      ∃ result, receive ((req.reply 0 theader.effectiveK).toBytes ++ items) = some (result, [])) :
    (∃ r, serveTopk g fl s req
        (hdr ++ ((query.flatMap fun bits => toBytes 4 bits.toNat) ++ records.flatten)) = some r ∧
        r.conn = .ready ∧ r.rest = [] ∧ Drains receive r.out) ↔
      TopkFramed g fl s req theader query cands := by
  by_cases hgranted : TopkGranted g s theader
  · by_cases hq : query.length = theader.qElements
    · rw [serveTopk_of_whole hlength hparse hcands hnum hgranted hq]
      constructor
      · rintro ⟨r, hserve, hconn, -⟩
        cases hserve
        exact ⟨hq, hgranted, answerTopk_ready_iff.mp hconn⟩
      · intro hframed
        have hready := (@answerTopk_ready_iff δ F g fl _ _ _ _ _ []).mpr hframed.scanned
        obtain ⟨items, hitems, hout⟩ := @out_answerTopk δ F g fl _ _ _ _ _ [] hready
        obtain ⟨result, hrecv⟩ := hreceive items hitems
        refine ⟨_, rfl, hready, rest_answerTopk _ _ _ _ _ _, ?_⟩
        intro result' rest h
        rw [hout, hrecv] at h
        cases h
        rfl
    · have hqBytes := length_flatten (encodes_query fl query)
      have hcBytes := length_flatten hcands
      rw [← List.flatMap_def, List.length_map] at hqBytes
      subst hparse
      rw [serveTopk_of_granted hlength hgranted]
      refine iff_of_false ?_ fun h => hq h.queryLength
      rintro ⟨r, hserve, -, hrest, -⟩
      obtain ⟨hqLen, hserve⟩ := readExact_eq_some hserve
      obtain ⟨hcLen, hserve⟩ := readExact_eq_some hserve
      cases hserve
      rw [rest_answerTopk] at hrest
      have hnone := congrArg List.length hrest
      simp only [List.length_drop, List.length_append, List.length_nil, hqBytes, hcBytes,
        hnum] at hqLen hcLen hnone
      omega
  · subst hparse
    rw [serveTopk_of_refused hlength hgranted]
    refine iff_of_false ?_ fun h => hgranted h.granted
    rintro ⟨r, hserve, hconn, -⟩
    cases hserve
    cases hconn

def topkReq (candidates : List Candidate) (isFp16 : Bool) : ReqHeader :=
  ⟨magic, opComputeTopk, if isFp16 then 1 else 0, 0, 0, candidates.length⟩

/-- The parameters of a top-k call, as the daemon reads them. -/
def topkParams (candidates : List Candidate) (topK : Int) (scale : Option UInt32)
    (qHeads kvHeads headDim : Int) : TopkReqHeader :=
  ⟨candidates.length, topK.toNat, qHeads.toNat, kvHeads.toNat, headDim.toNat,
    (scale.getD 0).toNat⟩

theorem inFrame_computeTopk_iff {s : Link δ} {query : List UInt32}
    {candidates : List Candidate} {topK : Int} {scale : Option UInt32}
    {qHeads kvHeads headDim : Int} {isFp16 : Bool} {bs : Bytes} (hs : InFrame s)
    (hsends :
      (Call.computeTopk query candidates topK scale qHeads kvHeads headDim isFp16).Sends bs) :
    InFrame (call g fl s
        (.computeTopk query candidates topK scale qHeads kvHeads headDim isFp16)).2 ↔
      TopkFramed g fl s.daemon (topkReq candidates isFp16)
        (topkParams candidates topK scale qHeads kvHeads headDim) query
        (candidates.map Candidate.item) := by
  obtain ⟨-, reqHdr, hdr, cands, hreq, hhdr, hcands, rfl⟩ := computeTopk_sends.mp hsends
  obtain ⟨_, bits, _, rfl, _⟩ := packTopkHeader_eq_ok.mp hhdr
  have hparse := TopkReqHeader.ofBytes_pack hhdr []
  have hcount : candidates.length < 256 ^ 4 := by
    obtain ⟨hrange, -⟩ := structPack_eq_ok.mp hreq
    simp only [inRange_cons] at hrange
    omega
  have hle := effectiveK_le (topkParams candidates topK (some bits) qHeads kvHeads headDim)
  rw [inFrame_call_iff hs hsends]
  simp only [List.append_assoc]
  rw [serve_packed hreq]
  rw [List.append_nil, Int.toNat_natCast] at hparse
  refine serveTopk_framed_iff (length_packTopkHeader hhdr) hparse (encodes_candidates hcands)
    (List.length_map _).symm fun items hitems => ?_
  have hreceive := computeTopk_receive query candidates topK (some bits) qHeads kvHeads headDim
    isFp16 (topkReq candidates isFp16) (Nat.lt_of_le_of_lt hle hcount) hitems []
  rw [List.append_nil] at hreceive
  exact ⟨_, hreceive⟩

/-! ## Runs -/

/-- What a call needs to keep the frame, when it sends a request at all: a write no longer
than the daemon's buffer; a batch the daemon gets memory for, every item but the last read
in full; a top-k query of the length the daemon computes, with memory and scores. -/
def KeepsFrame (g : Guest δ) (fl : FloatOps F) (s : Link δ) (c : Call) : Prop :=
  (∃ bs, c.Sends bs) →
    match c with
    | .isAlive => True
    | .write _ data => data.length ≤ bufferSize
    | .read _ _ => True
    | .readBatch requests =>
        (g.malloc s.daemon.guest (requests.length * BatchReadItem.size)).1 = true ∧
          BatchFramed g (s.daemon.batchAlloc g requests.length) (requests.map BatchRequest.item)
    | .computeTopk query candidates topK scale qHeads kvHeads headDim isFp16 =>
        TopkFramed g fl s.daemon (topkReq candidates isFp16)
          (topkParams candidates topK scale qHeads kvHeads headDim) query
          (candidates.map Candidate.item)
    | .flush => True

theorem inFrame_call_iff_keepsFrame {s : Link δ} (hs : InFrame s) (c : Call) :
    InFrame (call g fl s c).2 ↔ KeepsFrame g fl s c := by
  unfold KeepsFrame
  by_cases hsends : ∃ bs, c.Sends bs
  · obtain ⟨bs, hbs⟩ := hsends
    have hgives : ∀ P : Prop, ((∃ bs, c.Sends bs) → P) ↔ P :=
      fun P => ⟨fun h => h ⟨bs, hbs⟩, fun h _ => h⟩
    rw [hgives]
    cases c with
    | isAlive => exact iff_of_true (inFrame_isAlive hs) trivial
    | write offset data => exact inFrame_write_iff hs hbs
    | read offset length => exact iff_of_true (inFrame_read hs hbs) trivial
    | readBatch requests => exact inFrame_readBatch_iff hs hbs
    | computeTopk query candidates topK scale qHeads kvHeads headDim isFp16 =>
        exact inFrame_computeTopk_iff hs hbs
    | flush => exact iff_of_true (inFrame_flush hs) trivial
  · rw [call_of_not_sends fun bs hbs => hsends ⟨bs, hbs⟩]
    exact iff_of_true hs fun h => absurd h hsends

variable (g fl) in
/-- The protocol is in frame after every call of a run exactly when every call of the run
keeps it so. -/
theorem stays_in_frame_iff (s : Link δ) (hs : InFrame s) (calls : List Call) :
    (∀ pre, pre <+: calls → InFrame ((link g fl).exec s pre)) ↔
      (link g fl).Meets (KeepsFrame g fl) s calls := by
  have hkeeps : ∀ s c, InFrame s → KeepsFrame g fl s c → InFrame ((link g fl).step s c).2 :=
    fun _ c hs h => (inFrame_call_iff_keepsFrame hs c).mpr h
  have hneeds : ∀ s c, InFrame s → InFrame ((link g fl).step s c).2 → KeepsFrame g fl s c :=
    fun _ c hs h => (inFrame_call_iff_keepsFrame hs c).mp h
  exact (link g fl).forall_prefix_iff_meets (fun _ h => h) hkeeps hneeds s calls hs

theorem stays_in_frame_iff_written :
    InFrame ((link fileGuest intFloat).exec (connected ByteFile.empty)
      [.write 0 [1, 2, 3], .isAlive, .readBatch [⟨0, 2, 7⟩, ⟨1, 5, 8⟩], .read 0 3, .flush]) :=
  (stays_in_frame_iff fileGuest intFloat (connected ByteFile.empty) ⟨rfl, rfl, rfl, rfl⟩
      [.write 0 [1, 2, 3], .isAlive, .readBatch [⟨0, 2, 7⟩, ⟨1, 5, 8⟩], .read 0 3, .flush]).mpr
    ⟨fun _ => by decide, fun _ => trivial, fun _ => ⟨rfl, .inr ⟨rfl, .inl rfl⟩⟩, fun _ => trivial,
      fun _ => trivial, trivial⟩ _ (List.prefix_refl _)

theorem serve_zeros (s : DaemonState δ) (n : Nat) :
    serve g fl s (List.replicate (headerSize + n) 0) =
      some ⟨s, .closed, [], List.replicate n 0⟩ := by
  have hheader : (ReqHeader.ofBytes (List.replicate headerSize 0)).magic ≠ magic := by decide
  rw [List.replicate_add]
  unfold serve
  rw [readExact_append _ List.length_replicate]
  exact if_pos hheader

/-- An oversized write of zero bytes: the write raises, and the daemon takes the payload for
a request and leaves the connection with the rest unread. -/
theorem call_oversized_zeros {s : Link δ} (hs : InFrame s) {n : Nat}
    (hbig : bufferSize < headerSize + n) {bs : Bytes}
    (hsends : (Call.write 0 (List.replicate (headerSize + n) 0)).Sends bs) :
    ((call g fl s (.write 0 (List.replicate (headerSize + n) 0))).2).conn = .closed ∧
      ((call g fl s (.write 0 (List.replicate (headerSize + n) 0))).2).inbox =
        List.replicate n 0 := by
  obtain ⟨req, hreq, rfl⟩ := write_sends.mp hsends
  have hfirst := @serveWrite_of_gt δ g s.daemon
    ⟨magic, opWrite, 0, 0, (0 : Int).toNat, (List.replicate (headerSize + n) (0 : UInt8)).length⟩
    (List.replicate (headerSize + n) 0) (by simpa using hbig)
  have hserve := (@serve_packed δ F g fl s.daemon _ _ _ _ _ hreq
    (List.replicate (headerSize + n) 0)).trans hfirst
  have hready : (s.asked (req ++ List.replicate (headerSize + n) 0)).conn = .ready := hs.conn
  rw [call_of_sends hsends, send_of_inFrame hs (Nat.le_add_right _ 2), runDaemon_succ hready hserve,
    runDaemon_succ rfl (serve_zeros _ n)]
  have hclosed : ∀ t : Link δ, t.conn = .closed → Settled g fl t := by
    intro t hconn hready
    rw [hconn] at hready
    cases hready
  rw [runDaemon_of_settled (hclosed _ rfl)]
  unfold Link.recv
  split
  · exact ⟨rfl, rfl⟩
  · exact ⟨rfl, rfl⟩

/-- A write of one byte more than the buffer on a link in frame. -/
theorem oversized_write_leaves_frame :
    InFrame (connected ByteFile.empty) ∧
      ((call fileGuest intFloat (connected ByteFile.empty)
        (.write 0 (List.replicate (bufferSize + 1) 0))).2).inbox ≠ [] := by
  have hsplit : bufferSize + 1 = headerSize + (bufferSize - 19) := by decide
  have hfits : InRange [(4, (magic : Int)), (1, (opWrite : Int)), (1, ((0 : Nat) : Int)), (2, 0),
      (8, 0), (4, ((bufferSize + 1 : Nat) : Int))] := by decide
  have hsends : ∃ bs,
      (Call.write 0 (List.replicate (headerSize + (bufferSize - 19)) 0)).Sends bs := by
    refine ⟨_, write_sends.mpr ⟨_, structPack_eq_ok.mpr ⟨?_, rfl⟩, rfl⟩⟩
    rw [List.length_replicate, ← hsplit]
    exact hfits
  obtain ⟨bs, hbs⟩ := hsends
  have hframe : InFrame (connected ByteFile.empty) := ⟨rfl, rfl, rfl, rfl⟩
  refine ⟨hframe, ?_⟩
  rw [hsplit, (@call_oversized_zeros _ _ fileGuest intFloat _ hframe _ (by decide) bs hbs).2]
  intro hnil
  have hlength := congrArg List.length hnil
  rw [List.length_replicate] at hlength
  exact absurd hlength (by decide)

end

end AiSsd.Nvme
