import AiSsd.Nvme.Framing

/-!
# The device behind the link

What the client sees of the guest's device through its writes, reads and batches. The
device is a file of bytes: a write overwrites its extent, and a read or a batch item gives
the bytes that are there. The link answers as that file does as long as the calls stay
inside the device and the buffer, a batch has fewer items than its count field can hold,
and the daemon gets the memory for it.
-/

namespace AiSsd.Nvme

open Lib Lib.LittleEndian

inductive DeviceCall where
  | write (offset : Int) (data : Bytes)
  | read (offset length : Int)
  | readBatch (requests : List BatchRequest)

def DeviceCall.call : DeviceCall → Call
  | write offset data => .write offset data
  | read offset length => .read offset length
  | readBatch requests => .readBatch requests

/-! ## The byte array -/

def DeviceCall.apply (f : ByteFile) : DeviceCall → ByteFile
  | write offset data => f.pwrite data offset.toNat
  | read _ _ => f
  | readBatch _ => f

def BatchRequest.extent (f : ByteFile) (r : BatchRequest) : Bytes :=
  f.pread r.length.toNat r.offset.toNat

/-- The result of a call is that of the byte array `f`. -/
def DeviceCall.Answers (f : ByteFile) : DeviceCall → Except PyErr Reply → Prop
  | write _ data, result => result = .ok (.written data.length)
  | read offset length, result => result = .ok (.data (f.pread length.toNat offset.toNat))
  | readBatch requests, result => ∃ results, result = .ok (.blocks results) ∧
      (∀ r ∈ requests, results.get? r.blockId = some (r.extent f)) ∧
      ∀ bid, (∀ r ∈ requests, r.blockId ≠ bid) → results.get? bid = none

structure InDevice (size : Nat) (offset length : Int) : Prop where
  offset_nonneg : 0 ≤ offset
  offset_lt : offset < 2 ^ 64
  length_nonneg : 0 ≤ length
  length_le : length ≤ bufferSize
  inside : offset + length ≤ size

instance (size : Nat) (offset length : Int) : Decidable (InDevice size offset length) :=
  decidable_of_iff (0 ≤ offset ∧ offset < 2 ^ 64 ∧ 0 ≤ length ∧ length ≤ bufferSize ∧
      offset + length ≤ size)
    ⟨fun ⟨h₁, h₂, h₃, h₄, h₅⟩ => ⟨h₁, h₂, h₃, h₄, h₅⟩,
      fun ⟨h₁, h₂, h₃, h₄, h₅⟩ => ⟨h₁, h₂, h₃, h₄, h₅⟩⟩

theorem InDevice.toNat {size : Nat} {offset length : Int} (h : InDevice size offset length) :
    length.toNat ≤ bufferSize ∧ length.toNat < 256 ^ 4 ∧ offset.toNat + length.toNat ≤ size := by
  obtain ⟨hoffset, -, hlength, hle, hinside⟩ := h
  unfold bufferSize at hle ⊢
  omega

/-- The calls of the device's domain: every extent in it, block ids distinct in a batch. -/
def DeviceCall.InDomain (size : Nat) : DeviceCall → Prop
  | write offset data => InDevice size offset data.length
  | read offset length => InDevice size offset length
  | readBatch requests =>
      (∀ r ∈ requests, InDevice size r.offset r.length ∧ 0 ≤ r.blockId ∧ r.blockId < 2 ^ 32) ∧
        (requests.map BatchRequest.blockId).Nodup

instance (size : Nat) : (c : DeviceCall) → Decidable (c.InDomain size)
  | .write offset data => inferInstanceAs (Decidable (InDevice size offset data.length))
  | .read offset length => inferInstanceAs (Decidable (InDevice size offset length))
  | .readBatch requests => inferInstanceAs (Decidable (
      (∀ r ∈ requests, InDevice size r.offset r.length ∧ 0 ≤ r.blockId ∧ r.blockId < 2 ^ 32) ∧
        (requests.map BatchRequest.blockId).Nodup))

section

variable {δ F : Type} {g : Guest δ} {fl : FloatOps F}

/-- The guest's device is a file of bytes: transfers inside it are full. -/
structure IsDevice (g : Guest δ) (content : δ → ByteFile) : Prop where
  pread : ∀ d length offset, offset + length ≤ (content d).size →
    (g.pread d length offset).1 = some ((content d).pread length offset)
  pread_keeps : ∀ d length offset, content (g.pread d length offset).2 = content d
  pwrite : ∀ d data offset, offset + data.length ≤ (content d).size →
    (g.pwrite d data offset).1 = some data.length ∧
      content (g.pwrite d data offset).2 = (content d).pwrite data offset
  malloc_keeps : ∀ d size, content (g.malloc d size).2 = content d

/-- The count of a batch fits its field, and the daemon gets memory for the items. -/
def Accepted (g : Guest δ) (s : Link δ) : DeviceCall → Prop
  | .write _ _ => True
  | .read _ _ => True
  | .readBatch requests => requests.length < 2 ^ 32 ∧
      (g.malloc s.daemon.guest (requests.length * BatchReadItem.size)).1 = true

def deviceLink (g : Guest δ) (fl : FloatOps F) : Machine (Link δ) DeviceCall (Except PyErr Reply) :=
  ⟨fun s c => call g fl s c.call⟩

/-! ## One call -/

theorem packHeader_ok {op flags : Nat} {offset length : Int} (hop : op < 256)
    (hflags : flags < 256) (hoffset : 0 ≤ offset ∧ offset < 2 ^ 64)
    (hlength : 0 ≤ length ∧ length < 2 ^ 32) :
    ∃ req, packHeader op flags offset length = .ok req := by
  refine ⟨_, structPack_eq_ok.mpr ⟨?_, rfl⟩⟩
  simp only [inRange_cons, magic]
  refine ⟨⟨?_, ?_⟩, ⟨?_, ?_⟩, ⟨?_, ?_⟩, ⟨?_, ?_⟩, ⟨?_, ?_⟩, ⟨?_, ?_⟩, inRange_nil⟩
  all_goals omega

/-- A call whose request is read whole and whose reply is taken whole. -/
theorem call_of_serve {s : Link δ} {c : Call} {bs : Bytes} {r : Served δ}
    {result : Except PyErr Reply} (hs : InFrame s) (hsends : c.Sends bs)
    (hserve : serve g fl s.daemon bs = some r) (hconn : r.conn = .ready) (hrest : r.rest = [])
    (hreceive : c.exchange.receive r.out = some (result, [])) :
    (call g fl s c).1 = result ∧ InFrame (call g fl s c).2 ∧
      (call g fl s c).2.daemon = r.daemon := by
  have hdrains : Drains c.exchange.receive r.out := by
    intro result' rest h
    rw [hreceive] at h
    cases h
    rfl
  have hout : ((s.asked bs).after r).outbox = r.out := by
    simp only [Link.after, Link.asked, hs.outbox, List.nil_append]
  have hcall : call g fl s c = (result, { (s.asked bs).after r with outbox := [] }) := by
    rw [call_of_sends hsends, send_of_serve_whole hs hserve hrest]
    unfold Link.recv
    rw [hout, hreceive]
  have hframe := (inFrame_call_iff hs hsends).mpr ⟨r, hserve, hconn, hrest, hdrains⟩
  rw [hcall] at hframe ⊢
  exact ⟨rfl, hframe, rfl⟩

/-- The call answers as the byte array, the link stays in frame, and the device holds what
the byte array holds. -/
structure ActsOn (g : Guest δ) (fl : FloatOps F) (content : δ → ByteFile) (s : Link δ)
    (c : DeviceCall) : Prop where
  answers : c.Answers (content s.daemon.guest) (call g fl s c.call).1
  inFrame : InFrame (call g fl s c.call).2
  content_eq : content (call g fl s c.call).2.daemon.guest = c.apply (content s.daemon.guest)

variable {content : δ → ByteFile}

theorem write_receive (offset : Int) (data : Bytes) (req : ReqHeader)
    (h : data.length < 256 ^ 4) :
    (write offset data).receive (req.reply 0 data.length).toBytes =
      some (.ok (.written data.length), []) := by
  obtain ⟨hgood, hlength⟩ := good_reply req h
  rw [← List.append_nil (req.reply 0 data.length).toBytes]
  unfold write
  dsimp only
  rw [recvExact_append _ (RespHeader.length_toBytes _), if_pos hgood, hlength]
  rfl

theorem actsOn_write (hdev : IsDevice g content) {s : Link δ} (hs : InFrame s) {offset : Int}
    {data : Bytes} (h : InDevice (content s.daemon.guest).size offset data.length) :
    ActsOn g fl content s (.write offset data) := by
  obtain ⟨hle, hcount, hinside⟩ := h.toNat
  rw [Int.toNat_natCast] at hle hcount hinside
  obtain ⟨req, hreq⟩ := @packHeader_ok opWrite 0 offset data.length (by decide) (by decide)
    ⟨h.offset_nonneg, h.offset_lt⟩ ⟨h.length_nonneg, by omega⟩
  have hsends : (Call.write offset data).Sends (req ++ data) := write_sends.mpr ⟨req, hreq, rfl⟩
  obtain ⟨hfull, hcontent⟩ := hdev.pwrite s.daemon.guest data offset.toNat hinside
  have hwrite := @serveWrite_append δ g s.daemon
    ⟨magic, opWrite, 0, 0, offset.toNat, data.length⟩ data hle rfl []
  rw [List.append_nil] at hwrite
  dsimp only at hwrite
  rw [if_pos hfull] at hwrite
  have hserve := (@serve_packed δ F g fl s.daemon _ _ _ _ _ hreq data).trans hwrite
  obtain ⟨hresult, hframe, hdaemon⟩ := call_of_serve hs hsends hserve rfl rfl
    (write_receive offset data _ hcount)
  refine ⟨hresult, hframe, ?_⟩
  show content (call g fl s (.write offset data)).2.daemon.guest = _
  rw [hdaemon]
  exact hcontent

theorem actsOn_read (hdev : IsDevice g content) {s : Link δ} (hs : InFrame s)
    {offset length : Int} (h : InDevice (content s.daemon.guest).size offset length) :
    ActsOn g fl content s (.read offset length) := by
  obtain ⟨hle, hcount, hinside⟩ := h.toNat
  obtain ⟨req, hreq⟩ := @packHeader_ok opRead 0 offset length (by decide) (by decide)
    ⟨h.offset_nonneg, h.offset_lt⟩ ⟨h.length_nonneg, by omega⟩
  have hsends : (Call.read offset length).Sends req := read_sends.mpr hreq
  have hfull := hdev.pread s.daemon.guest length.toNat offset.toNat hinside
  obtain ⟨daemon, hguest, hread⟩ := @serveRead_of_le δ g s.daemon
    ⟨magic, opRead, 0, 0, offset.toNat, length.toNat⟩ hle []
  dsimp only at hread
  rw [hfull] at hread
  have hserve := (@serve_packed δ F g fl s.daemon _ _ _ _ _ hreq []).trans hread
  rw [List.append_nil] at hserve
  have hreceive := read_receive offset length ⟨magic, opRead, 0, 0, offset.toNat, length.toNat⟩
    (show ((content s.daemon.guest).pread length.toNat offset.toNat).length < 256 ^ 4 by
      rw [ByteFile.length_pread_inside _ _ _ hinside]
      exact hcount) []
  rw [List.append_nil] at hreceive
  obtain ⟨hresult, hframe, hdaemon⟩ := call_of_serve hs hsends hserve rfl rfl hreceive
  refine ⟨hresult, hframe, ?_⟩
  show content (call g fl s (.read offset length)).2.daemon.guest = _
  rw [hdaemon]
  show content daemon.guest = _
  rw [hguest]
  exact hdev.pread_keeps _ _ _

/-! ## A batch -/

def fillResults (f : ByteFile) (requests : List BatchRequest) (results : Dict Int Bytes) :
    Dict Int Bytes :=
  requests.foldl (fun results r => results.set r.blockId (r.extent f)) results

theorem get?_fillResults_of_ne (f : ByteFile) {requests : List BatchRequest} {bid : Int}
    (h : ∀ r ∈ requests, r.blockId ≠ bid) (results : Dict Int Bytes) :
    (fillResults f requests results).get? bid = results.get? bid := by
  induction requests generalizing results with
  | nil => rfl
  | cons r requests ih =>
      rw [List.forall_mem_cons] at h
      show (fillResults f requests _).get? bid = _
      rw [ih h.2, Dict.get?_set_of_ne _ _ h.1]

/-- With distinct ids every item keeps its own bytes. -/
theorem get?_fillResults (f : ByteFile) {requests : List BatchRequest}
    (hnodup : (requests.map BatchRequest.blockId).Nodup) (results : Dict Int Bytes) :
    ∀ r ∈ requests, (fillResults f requests results).get? r.blockId = some (r.extent f) := by
  induction requests generalizing results with
  | nil => simp
  | cons r requests ih =>
      rw [List.map_cons, List.nodup_cons] at hnodup
      obtain ⟨hnew, hnodup⟩ := hnodup
      refine List.forall_mem_cons.mpr ⟨?_, ih hnodup _⟩
      show (fillResults f requests _).get? r.blockId = _
      rw [get?_fillResults_of_ne, Dict.get?_set_self]
      intro q hq heq
      exact hnew (List.mem_map.mpr ⟨q, hq, heq⟩)

/-- The daemon serves the items of a batch inside the device one after the other, and the
client reads them so. -/
theorem batchItems_inside (hdev : IsDevice g content) {f : ByteFile}
    {requests : List BatchRequest}
    (h : ∀ r ∈ requests, InDevice f.size r.offset r.length ∧ 0 ≤ r.blockId ∧ r.blockId < 2 ^ 32)
    {s : DaemonState δ} (hs : content s.guest = f) :
    ∃ out s', batchItems g s (requests.map BatchRequest.item) = some (out, s') ∧
      content s'.guest = f ∧ ∀ results rest,
        recvItems requests.length results (out ++ rest) =
          some (.ok (.blocks (fillResults f requests results)), rest) := by
  induction requests generalizing s with
  | nil => exact ⟨[], s, rfl, hs, fun _ _ => rfl⟩
  | cons r requests ih =>
      rw [List.forall_mem_cons] at h
      obtain ⟨⟨hdevice, hblock⟩, hrest⟩ := h
      obtain ⟨hle, hcount, hinside⟩ := hdevice.toNat
      have hlength := ByteFile.length_pread_inside f r.length.toNat r.offset.toNat hinside
      subst hs
      obtain ⟨s₁, hpread, hguest⟩ := @preadBuf_of_le δ g s _ hle r.offset.toNat
      rw [hdev.pread _ _ _ hinside] at hpread
      have hcontent : content s₁.guest = content s.guest := by
        rw [hguest]
        exact hdev.pread_keeps _ _ _
      obtain ⟨out₁, s', hitems, hkeeps, hrecv⟩ := ih hrest hcontent
      refine ⟨_, s', batchItems_of_whole hpread hlength hitems, hkeeps, fun results rest => ?_⟩
      have hbid : ((r.blockId.toNat : Nat) : Int) = r.blockId := Int.toNat_of_nonneg hblock.1
      have hfirst := recvItems_ok requests.length results
        (show r.blockId.toNat < 256 ^ 4 by omega)
        (show ((content s.guest).pread r.length.toNat r.offset.toNat).length < 256 ^ 4 by
          rw [hlength]
          exact hcount) (out₁ ++ rest)
      rw [hlength, hbid] at hfirst
      simp only [List.append_assoc]
      exact hfirst.trans (hrecv _ rest)

theorem pack_ok_of_inDevice {size : Nat} {r : BatchRequest}
    (h : InDevice size r.offset r.length ∧ 0 ≤ r.blockId ∧ r.blockId < 2 ^ 32) :
    ∃ bs, r.pack = .ok bs := by
  obtain ⟨⟨hoffset, hlt, hlength, hle, -⟩, hblock, hblockLt⟩ := h
  refine ⟨_, structPack_eq_ok.mpr ⟨?_, rfl⟩⟩
  unfold bufferSize at hle
  simp only [inRange_cons]
  refine ⟨⟨hoffset, ?_⟩, ⟨hlength, ?_⟩, ⟨hblock, ?_⟩, inRange_nil⟩
  all_goals omega

theorem actsOn_readBatch (hdev : IsDevice g content) {s : Link δ} (hs : InFrame s)
    {requests : List BatchRequest}
    (h : (DeviceCall.readBatch requests).InDomain (content s.daemon.guest).size)
    (haccepted : Accepted g s (.readBatch requests)) :
    ActsOn g fl content s (.readBatch requests) := by
  obtain ⟨hinside, hnodup⟩ := h
  obtain ⟨hcount, hmalloc⟩ := haccepted
  by_cases hnil : requests = []
  · subst hnil
    exact ⟨⟨Dict.empty, rfl, by simp, fun _ _ => rfl⟩, hs, rfl⟩
  · obtain ⟨req, hreq⟩ := @packHeader_ok opBatchRead 0 0 requests.length (by decide) (by decide)
      (by decide) ⟨by omega, by omega⟩
    obtain ⟨items, hitems, -⟩ := mapM_ok_length fun r hr => pack_ok_of_inDevice (hinside r hr)
    have hsends : (Call.readBatch requests).Sends (req ++ items.flatten) :=
      readBatch_sends.mpr ⟨hnil, req, items, hreq, hitems, rfl⟩
    have hcontent : content (s.daemon.batchAlloc g requests.length).guest =
        content s.daemon.guest := hdev.malloc_keeps _ _
    obtain ⟨out, daemon, hout, hkeeps, hrecv⟩ := batchItems_inside hdev hinside hcontent
    have hencodes := encodes_batch hitems
    have hbytes := length_flatten hencodes
    have hread := readMany_flatten hencodes []
    rw [List.length_map] at hbytes hread
    rw [List.append_nil] at hread
    have hbatch := @serveBatchRead_append δ g s.daemon
      ⟨magic, opBatchRead, 0, 0, (0 : Int).toNat, requests.length⟩ items.flatten hmalloc hbytes []
    rw [List.append_nil] at hbatch
    dsimp only at hbatch
    rw [hread, hout] at hbatch
    have hserve := (@serve_packed δ F g fl s.daemon _ _ _ _ _ hreq items.flatten).trans hbatch
    have hreceive := (readBatch_receive requests
      ⟨magic, opBatchRead, 0, 0, (0 : Int).toNat, requests.length⟩
      (show requests.length < 256 ^ 4 by omega) out).trans
        (by simpa using hrecv Dict.empty [])
    obtain ⟨hresult, hframe, hdaemon⟩ := call_of_serve hs hsends hserve rfl rfl hreceive
    refine ⟨⟨_, hresult, get?_fillResults _ hnodup _, fun bid hbid => ?_⟩, hframe, ?_⟩
    · rw [get?_fillResults_of_ne _ hbid]
      rfl
    · show content (call g fl s (.readBatch requests)).2.daemon.guest = _
      rw [hdaemon]
      exact hkeeps

theorem actsOn (hdev : IsDevice g content) {s : Link δ} (hs : InFrame s) {c : DeviceCall}
    (h : c.InDomain (content s.daemon.guest).size) (haccepted : Accepted g s c) :
    ActsOn g fl content s c := by
  cases c with
  | write offset data => exact actsOn_write hdev hs h
  | read offset length => exact actsOn_read hdev hs h
  | readBatch requests => exact actsOn_readBatch hdev hs h haccepted

/-! ## Runs -/

theorem size_apply {f : ByteFile} {c : DeviceCall} (h : c.InDomain f.size) :
    (c.apply f).size = f.size := by
  cases c with
  | write offset data =>
      obtain ⟨-, -, hinside⟩ := InDevice.toNat h
      exact f.size_pwrite_inside data offset.toNat hinside
  | read offset length => rfl
  | readBatch requests => rfl

variable (g fl) in
/-- In a run of writes, reads and batches inside the device every call answers as the byte
array after the writes before it. -/
theorem answers_as_bytes (hdev : IsDevice g content) (s : Link δ) (hs : InFrame s)
    (calls : List DeviceCall) (hcalls : ∀ c ∈ calls, c.InDomain (content s.daemon.guest).size)
    (haccepted : (deviceLink g fl).Meets (Accepted g) s calls) (pre : List DeviceCall)
    (c : DeviceCall) (hpre : pre ++ [c] <+: calls) :
    c.Answers (pre.foldl DeviceCall.apply (content s.daemon.guest))
      ((deviceLink g fl).step ((deviceLink g fl).exec s pre) c).1 := by
  induction calls generalizing s pre with
  | nil => simp at hpre
  | cons d calls ih =>
      rw [List.forall_mem_cons] at hcalls
      have hacts := @actsOn δ F g fl content hdev s hs d hcalls.1 haccepted.1
      cases pre with
      | nil =>
          obtain ⟨rfl, -⟩ := List.cons_prefix_cons.mp hpre
          exact hacts.answers
      | cons e pre =>
          obtain ⟨rfl, hrest⟩ := List.cons_prefix_cons.mp hpre
          have hcontent := hacts.content_eq
          have hsize := size_apply hcalls.1
          rw [← hcontent] at hsize
          rw [List.foldl_cons, ← hcontent]
          refine ih _ hacts.inFrame ?_ haccepted.2 pre hrest
          intro q hq
          rw [hsize]
          exact hcalls.2 q hq

theorem isDevice_fileGuest : IsDevice fileGuest id where
  pread _ _ _ _ := rfl
  pread_keeps _ _ _ := rfl
  pwrite _ _ _ _ := ⟨rfl, rfl⟩
  malloc_keeps _ _ := rfl

theorem answers_as_bytes_written :
    (DeviceCall.readBatch [⟨2, 3, 7⟩, ⟨4, 4, 9⟩]).Answers ⟨[0, 0, 1, 2, 3, 0, 0, 0]⟩
      ((deviceLink fileGuest intFloat).step ((deviceLink fileGuest intFloat).exec
        (connected ⟨[0, 0, 0, 0, 0, 0, 0, 0]⟩) [.write 2 [1, 2, 3], .read 0 4])
        (.readBatch [⟨2, 3, 7⟩, ⟨4, 4, 9⟩])).1 :=
  answers_as_bytes fileGuest intFloat isDevice_fileGuest
    (connected ⟨[0, 0, 0, 0, 0, 0, 0, 0]⟩) ⟨rfl, rfl, rfl, rfl⟩
    [.write 2 [1, 2, 3], .read 0 4, .readBatch [⟨2, 3, 7⟩, ⟨4, 4, 9⟩]] (by decide)
    ⟨trivial, trivial, ⟨by decide, rfl⟩, trivial⟩
    [.write 2 [1, 2, 3], .read 0 4] (.readBatch [⟨2, 3, 7⟩, ⟨4, 4, 9⟩]) (List.prefix_refl _)

/-! ## The batch that does not fit -/

/-- A batch of `2 ^ 32` items: its count does not fit the header. -/
theorem readBatch_of_count_too_large {s : Link δ} {requests : List BatchRequest}
    (h : 2 ^ 32 ≤ requests.length) :
    ((deviceLink g fl).step s (.readBatch requests)).1 = .error .structError := by
  have hnil : requests ≠ [] := by
    rintro rfl
    exact absurd h (by decide)
  have hrange : ¬ InRange [(4, (magic : Int)), (1, (opBatchRead : Int)), (1, ((0 : Nat) : Int)),
      (2, 0), (8, 0), (4, (requests.length : Int))] := by
    intro hin
    simp only [inRange_cons] at hin
    omega
  have hopening : (Call.readBatch requests).exchange.opening = .error .structError := by
    unfold Call.exchange readBatch packHeader structPack
    dsimp only
    rw [if_neg hnil, if_neg hrange]
    rfl
  show (call g fl s (.readBatch requests)).1 = _
  unfold call
  rw [hopening]

def everyBlock : List BatchRequest :=
  (List.range (2 ^ 32)).map fun bid : Nat => ⟨0, 0, (bid : Int)⟩

theorem everyBlock_refused :
    (DeviceCall.readBatch everyBlock).InDomain (connected ByteFile.empty).daemon.guest.size ∧
      ¬ (DeviceCall.readBatch everyBlock).Answers (connected ByteFile.empty).daemon.guest
        ((deviceLink fileGuest intFloat).step (connected ByteFile.empty)
          (.readBatch everyBlock)).1 := by
  have hlength : everyBlock.length = 2 ^ 32 := by
    rw [everyBlock, List.length_map, List.length_range]
  refine ⟨⟨?_, ?_⟩, ?_⟩
  · intro r hr
    obtain ⟨bid, hbid, rfl⟩ := List.mem_map.mp hr
    rw [List.mem_range] at hbid
    dsimp only
    exact ⟨(by decide : InDevice 0 0 0), by omega, by omega⟩
  · rw [everyBlock, List.map_map]
    refine List.Nodup.map ?_ List.nodup_range
    intro a b hab
    exact Int.ofNat_inj.mp hab
  · rintro ⟨results, hresult, -⟩
    rw [readBatch_of_count_too_large (Nat.le_of_eq hlength.symm)] at hresult
    cases hresult

end

end AiSsd.Nvme
