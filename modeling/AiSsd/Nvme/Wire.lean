import AiSsd.Lib.LittleEndian
import AiSsd.PyErr

/-!
# The wire between client and guest daemon

The client packs its requests with `struct.pack` and the daemon reads them into packed C
structs; the replies go the other way. Both sides are written here field by field, and the
round trips say that what one side packs is what the other side reads.
-/

namespace AiSsd.Nvme

open Lib Lib.LittleEndian

def magic : Nat := 0x4E564D45

def opWrite : Nat := 1
def opRead : Nat := 2
def opPing : Nat := 3
def opFlush : Nat := 4
def opShutdown : Nat := 5
def opBatchRead : Nat := 6
def opComputeTopk : Nat := 7

/-- `BUFFER_SIZE`: the daemon's static buffer, 1 MB. -/
def bufferSize : Nat := 1024 * 1024

def headerSize : Nat := 20

/-! ## Packing -/

/-- Every int is in the range of its unsigned field. -/
def InRange (fields : List (Nat × Int)) : Prop := ∀ f ∈ fields, 0 ≤ f.2 ∧ f.2 < 256 ^ f.1

instance (fields : List (Nat × Int)) : Decidable (InRange fields) :=
  inferInstanceAs (Decidable (∀ f ∈ fields, 0 ≤ f.2 ∧ f.2 < 256 ^ f.1))

/-- `struct.pack` of unsigned little-endian fields. -/
def structPack (fields : List (Nat × Int)) : Except PyErr Bytes :=
  if InRange fields then .ok (record (fields.map fun f => (f.1, f.2.toNat)))
  else .error .structError

theorem structPack_eq_ok {fields : List (Nat × Int)} {bs : Bytes} :
    structPack fields = .ok bs ↔
      InRange fields ∧ record (fields.map fun f => (f.1, f.2.toNat)) = bs := by
  unfold structPack
  split
  · rename_i h
    simp [h]
  · rename_i h
    simp [h]

theorem inRange_cons {f : Nat × Int} {fields : List (Nat × Int)} :
    InRange (f :: fields) ↔ (0 ≤ f.2 ∧ f.2 < 256 ^ f.1) ∧ InRange fields := List.forall_mem_cons

theorem inRange_nil : InRange [] := by simp [InRange]

theorem length_structPack {fields : List (Nat × Int)} {bs : Bytes}
    (h : structPack fields = .ok bs) : bs.length = (fields.map Prod.fst).sum := by
  obtain ⟨-, rfl⟩ := structPack_eq_ok.mp h
  rw [length_record, List.map_map]
  rfl

/-! ## Headers -/

/-- `struct req_header`. -/
structure ReqHeader where
  magic : Nat
  op : Nat
  flags : Nat
  reserved : Nat
  offset : Nat
  length : Nat
deriving Repr, DecidableEq

def ReqHeader.ofBytes (bs : Bytes) : ReqHeader :=
  let magic := next 4 bs
  let op := next 1 magic.2
  let flags := next 1 op.2
  let reserved := next 2 flags.2
  let offset := next 8 reserved.2
  let length := next 4 offset.2
  ⟨magic.1, op.1, flags.1, reserved.1, offset.1, length.1⟩

/-- A request header in the client's format `<IBBHQI`. -/
def packHeader (op flags : Nat) (offset length : Int) : Except PyErr Bytes :=
  structPack [(4, magic), (1, op), (1, flags), (2, 0), (8, offset), (4, length)]

theorem length_packHeader {op flags : Nat} {offset length : Int} {bs : Bytes}
    (h : packHeader op flags offset length = .ok bs) : bs.length = headerSize :=
  length_structPack h

theorem ReqHeader.ofBytes_packHeader {op flags : Nat} {offset length : Int} {bs : Bytes}
    (h : packHeader op flags offset length = .ok bs) (rest : Bytes) :
    ReqHeader.ofBytes (bs ++ rest) =
      ⟨Nvme.magic, op, flags, 0, offset.toNat, length.toNat⟩ := by
  obtain ⟨hrange, rfl⟩ := structPack_eq_ok.mp h
  simp only [inRange_cons] at hrange
  obtain ⟨-, hop, hflags, -, hoffset, hlength, -⟩ := hrange
  simp [ReqHeader.ofBytes, Nvme.magic]
  omega

/-- `struct resp_header`. -/
structure RespHeader where
  magic : Nat
  status : Nat
  op : Nat
  reserved : Nat
  offset : Nat
  length : Nat
deriving Repr, DecidableEq

def RespHeader.toBytes (r : RespHeader) : Bytes :=
  record [(4, r.magic), (1, r.status), (1, r.op), (2, r.reserved), (8, r.offset), (4, r.length)]

/-- The client's `struct.unpack` of `<IBBHQI`. -/
def RespHeader.ofBytes (bs : Bytes) : RespHeader :=
  let magic := next 4 bs
  let status := next 1 magic.2
  let op := next 1 status.2
  let reserved := next 2 op.2
  let offset := next 8 reserved.2
  let length := next 4 offset.2
  ⟨magic.1, status.1, op.1, reserved.1, offset.1, length.1⟩

@[simp] theorem RespHeader.length_toBytes (r : RespHeader) : r.toBytes.length = headerSize :=
  length_record _

theorem RespHeader.ofBytes_toBytes (r : RespHeader) (rest : Bytes) :
    RespHeader.ofBytes (r.toBytes ++ rest) =
      ⟨r.magic % 256 ^ 4, r.status % 256 ^ 1, r.op % 256 ^ 1, r.reserved % 256 ^ 2,
        r.offset % 256 ^ 8, r.length % 256 ^ 4⟩ := by
  simp [RespHeader.ofBytes, RespHeader.toBytes]

/-! ## Batch items -/

/-- `struct batch_read_item`. -/
structure BatchReadItem where
  offset : Nat
  length : Nat
  blockId : Nat
deriving Repr, DecidableEq

def BatchReadItem.size : Nat := 16

def BatchReadItem.ofBytes (bs : Bytes) : BatchReadItem :=
  let offset := next 8 bs
  let length := next 4 offset.2
  let blockId := next 4 length.2
  ⟨offset.1, length.1, blockId.1⟩

/-- An `(offset, length, block_id)` tuple of the client. -/
structure BatchRequest where
  offset : Int
  length : Int
  blockId : Int
deriving Repr, DecidableEq

/-- Format `<QII`. -/
def BatchRequest.pack (r : BatchRequest) : Except PyErr Bytes :=
  structPack [(8, r.offset), (4, r.length), (4, r.blockId)]

def BatchRequest.item (r : BatchRequest) : BatchReadItem :=
  ⟨r.offset.toNat, r.length.toNat, r.blockId.toNat⟩

theorem BatchRequest.ofBytes_pack {r : BatchRequest} {bs : Bytes} (h : r.pack = .ok bs)
    (rest : Bytes) : BatchReadItem.ofBytes (bs ++ rest) = r.item := by
  obtain ⟨hrange, rfl⟩ := structPack_eq_ok.mp h
  simp only [inRange_cons] at hrange
  obtain ⟨hoffset, hlength, hblock, -⟩ := hrange
  simp [BatchReadItem.ofBytes, BatchRequest.item]
  omega

/-- The header of one item of a batch reply: `item_status`, `bid`, `item_len`. -/
structure BatchRespItem where
  status : Nat
  blockId : Nat
  length : Nat
deriving Repr, DecidableEq

def BatchRespItem.size : Nat := 9

def BatchRespItem.toBytes (r : BatchRespItem) : Bytes :=
  record [(1, r.status), (4, r.blockId), (4, r.length)]

/-- The client's `struct.unpack` of `<BII`. -/
def BatchRespItem.ofBytes (bs : Bytes) : BatchRespItem :=
  let status := next 1 bs
  let blockId := next 4 status.2
  let length := next 4 blockId.2
  ⟨status.1, blockId.1, length.1⟩

@[simp] theorem BatchRespItem.length_toBytes (r : BatchRespItem) :
    r.toBytes.length = BatchRespItem.size := length_record _

theorem BatchRespItem.ofBytes_toBytes (r : BatchRespItem) (rest : Bytes) :
    BatchRespItem.ofBytes (r.toBytes ++ rest) =
      ⟨r.status % 256 ^ 1, r.blockId % 256 ^ 4, r.length % 256 ^ 4⟩ := by
  simp [BatchRespItem.ofBytes, BatchRespItem.toBytes]

/-! ## Top-k requests and replies -/

/-- `struct topk_req_header`; the scale is the bits of its float. -/
structure TopkReqHeader where
  numCandidates : Nat
  topK : Nat
  qHeads : Nat
  kvHeads : Nat
  headDim : Nat
  scale : Nat
deriving Repr, DecidableEq

def TopkReqHeader.size : Nat := 24

def TopkReqHeader.ofBytes (bs : Bytes) : TopkReqHeader :=
  let numCandidates := next 4 bs
  let topK := next 4 numCandidates.2
  let qHeads := next 4 topK.2
  let kvHeads := next 4 qHeads.2
  let headDim := next 4 kvHeads.2
  let scale := next 4 headDim.2
  ⟨numCandidates.1, topK.1, qHeads.1, kvHeads.1, headDim.1, scale.1⟩

/-- Format `<IIIIIf`. `scale` has the bits of `float(scale)` as a float, or nothing when
it is beyond the range of one. -/
def packTopkHeader (numCands topK qHeads kvHeads headDim : Int) (scale : Option UInt32) :
    Except PyErr Bytes := do
  let ints ← structPack [(4, numCands), (4, topK), (4, qHeads), (4, kvHeads), (4, headDim)]
  match scale with
  | some bits => .ok (ints ++ toBytes 4 bits.toNat)
  | none => .error .overflowError

theorem packTopkHeader_eq_ok {numCands topK qHeads kvHeads headDim : Int}
    {scale : Option UInt32} {bs : Bytes} :
    packTopkHeader numCands topK qHeads kvHeads headDim scale = .ok bs ↔
      ∃ ints bits, structPack [(4, numCands), (4, topK), (4, qHeads), (4, kvHeads), (4, headDim)] =
        .ok ints ∧ scale = some bits ∧ ints ++ toBytes 4 bits.toNat = bs := by
  unfold packTopkHeader
  cases structPack [(4, numCands), (4, topK), (4, qHeads), (4, kvHeads), (4, headDim)] with
  | error err => simp [bind, Except.bind]
  | ok ints => cases scale <;> simp [bind, Except.bind]

theorem length_packTopkHeader {numCands topK qHeads kvHeads headDim : Int}
    {scale : Option UInt32} {bs : Bytes}
    (h : packTopkHeader numCands topK qHeads kvHeads headDim scale = .ok bs) :
    bs.length = TopkReqHeader.size := by
  obtain ⟨ints, bits, hints, -, rfl⟩ := packTopkHeader_eq_ok.mp h
  rw [List.length_append, length_structPack hints, length_toBytes]
  rfl

theorem TopkReqHeader.ofBytes_pack {numCands topK qHeads kvHeads headDim : Int}
    {bits : UInt32} {bs : Bytes}
    (h : packTopkHeader numCands topK qHeads kvHeads headDim (some bits) = .ok bs)
    (rest : Bytes) : TopkReqHeader.ofBytes (bs ++ rest) =
      ⟨numCands.toNat, topK.toNat, qHeads.toNat, kvHeads.toNat, headDim.toNat, bits.toNat⟩ := by
  obtain ⟨ints, bits, hints, hbits, rfl⟩ := packTopkHeader_eq_ok.mp h
  obtain rfl := Option.some.inj hbits
  obtain ⟨hrange, rfl⟩ := structPack_eq_ok.mp hints
  simp only [inRange_cons] at hrange
  obtain ⟨hcands, htop, hq, hkv, hdim, -⟩ := hrange
  have hscale := bits.toNat_lt
  simp [TopkReqHeader.ofBytes]
  omega

/-- `struct topk_cand_item`. -/
structure TopkCandItem where
  offset : Nat
  length : Nat
  blockId : Nat
  actualTokens : Nat
deriving Repr, DecidableEq

def TopkCandItem.size : Nat := 20

def TopkCandItem.ofBytes (bs : Bytes) : TopkCandItem :=
  let offset := next 8 bs
  let length := next 4 offset.2
  let blockId := next 4 length.2
  let actualTokens := next 4 blockId.2
  ⟨offset.1, length.1, blockId.1, actualTokens.1⟩

/-- An `(offset, length, block_id, actual_tokens)` tuple of the client. -/
structure Candidate where
  offset : Int
  length : Int
  blockId : Int
  actualTokens : Int
deriving Repr, DecidableEq

/-- Format `<QIII`. -/
def Candidate.pack (c : Candidate) : Except PyErr Bytes :=
  structPack [(8, c.offset), (4, c.length), (4, c.blockId), (4, c.actualTokens)]

def Candidate.item (c : Candidate) : TopkCandItem :=
  ⟨c.offset.toNat, c.length.toNat, c.blockId.toNat, c.actualTokens.toNat⟩

theorem Candidate.ofBytes_pack {c : Candidate} {bs : Bytes} (h : c.pack = .ok bs)
    (rest : Bytes) : TopkCandItem.ofBytes (bs ++ rest) = c.item := by
  obtain ⟨hrange, rfl⟩ := structPack_eq_ok.mp h
  simp only [inRange_cons] at hrange
  obtain ⟨hoffset, hlength, hblock, htokens, -⟩ := hrange
  simp [TopkCandItem.ofBytes, Candidate.item]
  omega

/-- `struct topk_resp_item`; the score is the bits of its float. -/
structure TopkRespItem where
  blockId : Nat
  score : Nat
  actualTokens : Nat
deriving Repr, DecidableEq

def TopkRespItem.size : Nat := 12

def TopkRespItem.toBytes (r : TopkRespItem) : Bytes :=
  record [(4, r.blockId), (4, r.score), (4, r.actualTokens)]

/-- The client's `struct.unpack_from` of `<IfI`. -/
def TopkRespItem.ofBytes (bs : Bytes) : TopkRespItem :=
  let blockId := next 4 bs
  let score := next 4 blockId.2
  let actualTokens := next 4 score.2
  ⟨blockId.1, score.1, actualTokens.1⟩

@[simp] theorem TopkRespItem.length_toBytes (r : TopkRespItem) :
    r.toBytes.length = TopkRespItem.size := length_record _

end AiSsd.Nvme
