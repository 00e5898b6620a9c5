import AiSsd.Lib.Dict
import AiSsd.Nvme.Wire

/-!
# The host's client

A method of `QemuNvmeClient` is an exchange: what it puts on the stream, and what it takes
from the reply to return or raise. A method that raises before it sends, or returns without
asking the daemon, leaves the stream alone.
-/

namespace AiSsd.Nvme

open Lib Lib.LittleEndian

inductive Reply where
  | alive (answer : Bool)
  | written (bytesWritten : Nat)
  | data (bytes : Bytes)
  | blocks (results : Dict Int Bytes)
  | topk (results : List TopkRespItem)
  | flushed

inductive Opening where
  | returned (reply : Reply)
  | sent (request : Bytes)

/-- A method's second half on the bytes that came back: nothing while it waits for more. -/
abbrev Recv := Bytes → Option (Except PyErr Reply × Bytes)

def recvExact (n : Nat) (k : Bytes → Recv) : Recv := readExact n k

def give (reply : Reply) : Recv := fun rest => some (.ok reply, rest)

def raise (err : PyErr) : Recv := fun rest => some (.error err, rest)

structure Exchange where
  opening : Except PyErr Opening
  receive : Recv
  /-- What becomes of an error that `recv` raises. -/
  broken : PyErr → Except PyErr Reply := .error

/-- The header's checks that every method but `flush` makes. -/
def RespHeader.Good (resp : RespHeader) : Prop := resp.magic = Nvme.magic ∧ resp.status = 0

instance (resp : RespHeader) : Decidable resp.Good := inferInstanceAs (Decidable (_ ∧ _))

/-! ## The methods -/

def isAlive : Exchange where
  opening := do
    let req ← packHeader opPing 0 0 0
    return .sent req
  receive := recvExact headerSize fun resp =>
    give (.alive (decide (RespHeader.ofBytes resp).Good))
  broken := fun _ => .ok (.alive false)

def write (offset : Int) (data : Bytes) : Exchange where
  opening := do
    let req ← packHeader opWrite 0 offset data.length
    return .sent (req ++ data)
  receive := recvExact headerSize fun bs =>
    let resp := RespHeader.ofBytes bs
    let status := resp.status
    let length := data.length
    if resp.Good then give (.written resp.length)
    else raise (.ioError
      s!"NVMe write failed at offset {offset}, length {length}, status {status}")

def read (offset length : Int) : Exchange where
  opening := do
    let req ← packHeader opRead 0 offset length
    return .sent req
  receive := recvExact headerSize fun bs =>
    let resp := RespHeader.ofBytes bs
    let status := resp.status
    if resp.Good then recvExact resp.length fun data => give (.data data)
    else raise (.ioError
      s!"NVMe read failed at offset {offset}, length {length}, status {status}")

/-- The items of a batch reply, `count` of them. -/
def recvItems : (count : Nat) → Dict Int Bytes → Recv
  | 0, results => give (.blocks results)
  | count + 1, results => recvExact BatchRespItem.size fun bs =>
      let item := BatchRespItem.ofBytes bs
      let bid := item.blockId
      if item.status ≠ 0 then raise (.ioError s!"NVMe batch read item failed for block {bid}")
      else recvExact item.length fun data => recvItems count (results.set bid data)

def readBatch (requests : List BatchRequest) : Exchange where
  opening :=
    if requests = [] then .ok (.returned (.blocks Dict.empty))
    else do
      let reqHdr ← packHeader opBatchRead 0 0 requests.length
      let items ← requests.mapM BatchRequest.pack
      return .sent (reqHdr ++ items.flatten)
  receive := recvExact headerSize fun bs =>
    let resp := RespHeader.ofBytes bs
    let status := resp.status
    if resp.Good then recvItems resp.length Dict.empty
    else raise (.ioError s!"NVMe batch read failed, status {status}")

/-- `query` has the bits of the query's floats. -/
def computeTopk (query : List UInt32) (candidates : List Candidate) (topK : Int)
    (scale : Option UInt32) (qHeads kvHeads headDim : Int) (isFp16 : Bool) : Exchange where
  opening :=
    if candidates = [] then .ok (.returned (.topk []))
    else do
      let flags := if isFp16 then 1 else 0
      let reqHdr ← packHeader opComputeTopk flags 0 candidates.length
      let topkHdr ← packTopkHeader candidates.length topK qHeads kvHeads headDim scale
      let qBytes := query.flatMap fun bits => toBytes 4 bits.toNat
      let cands ← candidates.mapM Candidate.pack
      return .sent (reqHdr ++ topkHdr ++ qBytes ++ cands.flatten)
  receive := recvExact headerSize fun bs =>
    let resp := RespHeader.ofBytes bs
    let status := resp.status
    if resp.Good then
      if resp.length > 0 then
        recvExact (resp.length * TopkRespItem.size) fun respBytes =>
          give (.topk (readMany TopkRespItem.size TopkRespItem.ofBytes resp.length respBytes))
      else give (.topk [])
    else raise (.ioError s!"NVMe in-storage topk failed, status {status}")

def flush : Exchange where
  opening := do
    let req ← packHeader opFlush 0 0 0
    return .sent req
  receive := recvExact headerSize fun _ => give .flushed

inductive Call where
  | isAlive
  | write (offset : Int) (data : Bytes)
  | read (offset length : Int)
  | readBatch (requests : List BatchRequest)
  | computeTopk (query : List UInt32) (candidates : List Candidate) (topK : Int)
      (scale : Option UInt32) (qHeads kvHeads headDim : Int) (isFp16 : Bool)
  | flush

def Call.exchange : Call → Exchange
  | isAlive => Nvme.isAlive
  | write offset data => Nvme.write offset data
  | read offset length => Nvme.read offset length
  | readBatch requests => Nvme.readBatch requests
  | computeTopk query candidates topK scale qHeads kvHeads headDim isFp16 =>
      Nvme.computeTopk query candidates topK scale qHeads kvHeads headDim isFp16
  | flush => Nvme.flush

/-- The call puts `bs` on the stream. -/
def Call.Sends (call : Call) (bs : Bytes) : Prop := call.exchange.opening = .ok (.sent bs)

/-! ## What is sent -/

@[simp] theorem recvExact_append {n : Nat} (k : Bytes → Recv) {bs : Bytes} (h : bs.length = n)
    (rest : Bytes) : recvExact n k (bs ++ rest) = k bs rest := readExact_append k h rest

theorem write_sends {offset : Int} {data bs : Bytes} :
    (Call.write offset data).Sends bs ↔
      ∃ req, packHeader opWrite 0 offset data.length = .ok req ∧ req ++ data = bs := by
  simp [Call.Sends, Call.exchange, write, bind_eq_ok, pure, Except.pure]

theorem read_sends {offset length : Int} {bs : Bytes} :
    (Call.read offset length).Sends bs ↔ packHeader opRead 0 offset length = .ok bs := by
  simp [Call.Sends, Call.exchange, read, bind_eq_ok, pure, Except.pure]

theorem isAlive_sends {bs : Bytes} :
    Call.isAlive.Sends bs ↔ packHeader opPing 0 0 0 = .ok bs := by
  simp [Call.Sends, Call.exchange, isAlive, bind_eq_ok, pure, Except.pure]

theorem flush_sends {bs : Bytes} : Call.flush.Sends bs ↔ packHeader opFlush 0 0 0 = .ok bs := by
  simp [Call.Sends, Call.exchange, flush, bind_eq_ok, pure, Except.pure]

theorem readBatch_sends {requests : List BatchRequest} {bs : Bytes} :
    (Call.readBatch requests).Sends bs ↔ requests ≠ [] ∧
      ∃ reqHdr items, packHeader opBatchRead 0 0 requests.length = .ok reqHdr ∧
        requests.mapM BatchRequest.pack = .ok items ∧ reqHdr ++ items.flatten = bs := by
  unfold Call.Sends Call.exchange readBatch
  by_cases h : requests = []
  · simp [h]
  · simp [h, bind_eq_ok, pure, Except.pure]

theorem computeTopk_sends {query : List UInt32} {candidates : List Candidate} {topK : Int}
    {scale : Option UInt32} {qHeads kvHeads headDim : Int} {isFp16 : Bool} {bs : Bytes} :
    (Call.computeTopk query candidates topK scale qHeads kvHeads headDim isFp16).Sends bs ↔
      candidates ≠ [] ∧ ∃ reqHdr topkHdr cands,
        packHeader opComputeTopk (if isFp16 then 1 else 0) 0 candidates.length = .ok reqHdr ∧
        packTopkHeader candidates.length topK qHeads kvHeads headDim scale = .ok topkHdr ∧
        candidates.mapM Candidate.pack = .ok cands ∧
        reqHdr ++ topkHdr ++ (query.flatMap fun bits => toBytes 4 bits.toNat) ++
          cands.flatten = bs := by
  unfold Call.Sends Call.exchange computeTopk
  by_cases h : candidates = []
  · simp [h]
  · simp [h, bind_eq_ok, pure, Except.pure]

/-! ## Batch replies -/

theorem BatchRespItem.ofBytes_mk (status : Nat) {blockId length : Nat}
    (hblock : blockId < 256 ^ 4) (hlength : length < 256 ^ 4) :
    BatchRespItem.ofBytes (BatchRespItem.mk status blockId length).toBytes =
      ⟨status % 256 ^ 1, blockId, length⟩ := by
  have hbytes := BatchRespItem.ofBytes_toBytes ⟨status, blockId, length⟩ []
  rw [List.append_nil] at hbytes
  rw [hbytes, Nat.mod_eq_of_lt hblock, Nat.mod_eq_of_lt hlength]

theorem recvItems_ok (count : Nat) (results : Dict Int Bytes) {blockId : Nat} {bs : Bytes}
    (hblock : blockId < 256 ^ 4) (hlength : bs.length < 256 ^ 4) (rest : Bytes) :
    recvItems (count + 1) results
      ((BatchRespItem.mk 0 blockId bs.length).toBytes ++ (bs ++ rest)) =
      recvItems count (results.set blockId bs) rest := by
  rw [recvItems, recvExact_append _ (BatchRespItem.length_toBytes _)]
  simp only [BatchRespItem.ofBytes_mk 0 hblock hlength]
  rw [if_neg (by decide), recvExact_append _ rfl]

theorem recvItems_failed (count : Nat) (results : Dict Int Bytes) {blockId length : Nat}
    (hblock : blockId < 256 ^ 4) (hlength : length < 256 ^ 4) (rest : Bytes) :
    recvItems (count + 1) results ((BatchRespItem.mk 1 blockId length).toBytes ++ rest) =
      raise (.ioError s!"NVMe batch read item failed for block {blockId}") rest := by
  rw [recvItems, recvExact_append _ (BatchRespItem.length_toBytes _)]
  simp only [BatchRespItem.ofBytes_mk 1 hblock hlength]
  rw [if_pos (by decide)]

end AiSsd.Nvme
