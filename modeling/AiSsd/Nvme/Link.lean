import AiSsd.Lib.Machine
import AiSsd.Nvme.Client
import AiSsd.Nvme.Daemon

/-!
# Client and daemon over two byte streams

A call of the client appends its request to one stream, the daemon serves what has arrived
until it waits for more, and the client takes its reply from the other stream. Each party
is sequential and a stream keeps bytes in order, so this order of turns stands for every
order. The machine also counts the requests sent and the headers the daemon has parsed.
-/

namespace AiSsd.Nvme

open Lib Lib.LittleEndian

structure Link (δ : Type) where
  daemon : DaemonState δ
  conn : Conn
  /-- Sent by the client, not yet read by the daemon. -/
  inbox : Bytes
  /-- Sent by the daemon, not yet read by the client. -/
  outbox : Bytes
  sent : Nat
  parsed : Nat

section

variable {δ F : Type} (g : Guest δ) (fl : FloatOps F)

/-- The link after a turn of the daemon. -/
def Link.after (s : Link δ) (r : Served δ) : Link δ :=
  { daemon := r.daemon, conn := r.conn, inbox := r.rest, outbox := s.outbox ++ r.out,
    sent := s.sent, parsed := s.parsed + 1 }

def runDaemon : (fuel : Nat) → Link δ → Link δ
  | 0, s => s
  | fuel + 1, s =>
      if s.conn = .ready then
        match serve g fl s.daemon s.inbox with
        | none => s
        | some r => runDaemon fuel (s.after r)
      else s

/-- What `recv` raises when no more bytes come: the peer is gone, or the socket times out. -/
def Conn.recvError : Conn → PyErr
  | ready => .timeoutError
  | closed => .connectionResetError "Connection closed unexpectedly by QEMU guest NVMe daemon"
  | crashed => .connectionResetError "Connection closed unexpectedly by QEMU guest NVMe daemon"

/-- The client's request is on the stream. Every request has a header, so the bytes that
wait are fuel enough for the daemon. -/
def Link.send (s : Link δ) (bs : Bytes) : Link δ :=
  let s := { s with inbox := s.inbox ++ bs, sent := s.sent + 1 }
  runDaemon g fl s.inbox.length s

/-- The client takes its reply; without enough bytes it has read what there was. -/
def Link.recv (s : Link δ) (exchange : Exchange) : Except PyErr Reply × Link δ :=
  match exchange.receive s.outbox with
  | some (result, rest) => (result, { s with outbox := rest })
  | none => (exchange.broken s.conn.recvError, { s with outbox := [] })

def call (s : Link δ) (c : Call) : Except PyErr Reply × Link δ :=
  match c.exchange.opening with
  | .error err => (.error err, s)
  | .ok (.returned reply) => (.ok reply, s)
  | .ok (.sent bs) => (s.send g fl bs).recv c.exchange

def link : Machine (Link δ) Call (Except PyErr Reply) := ⟨call g fl⟩

/-! ## What a turn reads -/

variable {g fl}

theorem rest_le_of_serveWrite {s : DaemonState δ} {req : ReqHeader} {bs : Bytes} {r : Served δ}
    (h : serveWrite g s req bs = some r) : r.rest.length ≤ bs.length := by
  unfold serveWrite at h
  split at h
  · cases h
    exact Nat.le_refl _
  · obtain ⟨-, h⟩ := readExact_eq_some h
    dsimp only at h
    split at h
    all_goals
      cases h
      exact (List.drop_sublist _ _).length_le

theorem rest_le_of_serveRead {s : DaemonState δ} {req : ReqHeader} {bs : Bytes} {r : Served δ}
    (h : serveRead g s req bs = some r) : r.rest.length ≤ bs.length := by
  unfold serveRead at h
  split at h
  · cases h
    exact Nat.le_refl _
  · split at h
    all_goals
      cases h
      exact Nat.le_refl _

theorem rest_le_of_serveBatchRead {s : DaemonState δ} {req : ReqHeader} {bs : Bytes}
    {r : Served δ} (h : serveBatchRead g s req bs = some r) :
    r.rest.length ≤ bs.length := by
  unfold serveBatchRead at h
  dsimp only at h
  split at h
  · cases h
    exact Nat.le_refl _
  · obtain ⟨-, h⟩ := readExact_eq_some h
    split at h
    all_goals
      cases h
      exact (List.drop_sublist _ _).length_le

theorem rest_answerTopk (s : DaemonState δ) (req : ReqHeader) (theader : TopkReqHeader)
    (query : List F) (cands : List TopkCandItem) (rest : Bytes) :
    (answerTopk g fl s req theader query cands rest).rest = rest := by
  unfold answerTopk
  dsimp only
  split
  · rfl
  · split
    all_goals rfl

theorem rest_le_of_serveTopk {s : DaemonState δ} {req : ReqHeader} {bs : Bytes} {r : Served δ}
    (h : serveTopk g fl s req bs = some r) : r.rest.length ≤ bs.length := by
  obtain ⟨-, h⟩ := readExact_eq_some h
  dsimp only at h
  split at h
  · cases h
    exact (List.drop_sublist _ _).length_le
  · obtain ⟨-, h⟩ := readExact_eq_some h
    obtain ⟨-, h⟩ := readExact_eq_some h
    cases h
    rw [rest_answerTopk]
    simp only [List.length_drop]
    omega

theorem rest_le_of_dispatch {s : DaemonState δ} {req : ReqHeader} {bs : Bytes} {r : Served δ}
    (h : dispatch g fl s req bs = some r) : r.rest.length ≤ bs.length := by
  have hsame : ∀ {a : Served δ}, a.rest = bs → some a = some r → r.rest.length ≤ bs.length := by
    intro a hrest ha
    rw [← Option.some.inj ha, hrest]
  unfold dispatch at h
  split at h
  · exact hsame rfl h
  split at h
  · exact hsame rfl h
  split at h
  · exact rest_le_of_serveWrite h
  split at h
  · exact rest_le_of_serveRead h
  split at h
  · exact rest_le_of_serveBatchRead h
  split at h
  · exact rest_le_of_serveTopk h
  split at h
  · exact hsame rfl h
  split at h
  · exact hsame rfl h
  · exact hsame rfl h

theorem rest_lt_of_serve {s : DaemonState δ} {bs : Bytes} {r : Served δ}
    (h : serve g fl s bs = some r) : r.rest.length < bs.length := by
  obtain ⟨hheader, h⟩ := readExact_eq_some h
  have hrest := rest_le_of_dispatch h
  rw [List.length_drop] at hrest
  unfold headerSize at hheader hrest
  omega

/-! ## Runs of the daemon -/

def Settled (g : Guest δ) (fl : FloatOps F) (s : Link δ) : Prop :=
  s.conn = .ready → serve g fl s.daemon s.inbox = none

/-- The bytes that wait are fuel enough. -/
theorem settled_runDaemon {fuel : Nat} {s : Link δ} (h : s.inbox.length ≤ fuel) :
    Settled g fl (runDaemon g fl fuel s) := by
  induction fuel generalizing s with
  | zero =>
      intro _
      apply readExact_of_lt
      rw [runDaemon]
      unfold headerSize
      omega
  | succ fuel ih =>
      unfold runDaemon
      split
      · split
        · rename_i hserve
          exact fun _ => hserve
        · rename_i r hserve
          apply ih
          have hrest := rest_lt_of_serve hserve
          show r.rest.length ≤ fuel
          omega
      · rename_i hconn
        exact fun hready => absurd hready hconn

theorem runDaemon_of_settled {s : Link δ} (h : Settled g fl s) (fuel : Nat) :
    runDaemon g fl fuel s = s := by
  cases fuel with
  | zero => rfl
  | succ fuel =>
      unfold runDaemon
      split
      · rename_i hconn
        rw [h hconn]
      · rfl

theorem runDaemon_add (n m : Nat) (s : Link δ) :
    runDaemon g fl (n + m) s = runDaemon g fl m (runDaemon g fl n s) := by
  induction n generalizing s with
  | zero => rw [Nat.zero_add, runDaemon]
  | succ n ih =>
      rw [Nat.succ_add_eq_add_succ, Nat.add_succ, runDaemon, runDaemon]
      split
      · split
        · rename_i hserve
          rw [runDaemon_of_settled fun _ => hserve]
        · exact ih _
      · rename_i hconn
        rw [runDaemon_of_settled fun hready => absurd hready hconn]

/-- More fuel than the bytes that wait changes nothing. -/
theorem runDaemon_of_le {fuel : Nat} {s : Link δ} (h : s.inbox.length ≤ fuel) :
    runDaemon g fl fuel s = runDaemon g fl s.inbox.length s := by
  obtain ⟨m, rfl⟩ := Nat.exists_eq_add_of_le h
  rw [runDaemon_add, runDaemon_of_settled (settled_runDaemon (Nat.le_refl _))]

theorem runDaemon_succ {s : Link δ} {r : Served δ} (hconn : s.conn = .ready)
    (h : serve g fl s.daemon s.inbox = some r) (fuel : Nat) :
    runDaemon g fl (fuel + 1) s = runDaemon g fl fuel (s.after r) := by
  rw [runDaemon, if_pos hconn, h]

theorem sent_runDaemon (fuel : Nat) (s : Link δ) : (runDaemon g fl fuel s).sent = s.sent := by
  induction fuel generalizing s with
  | zero => rfl
  | succ fuel ih =>
      unfold runDaemon
      split
      · split
        · rfl
        · rw [ih]
          rfl
      · rfl

theorem parsed_le_runDaemon (fuel : Nat) (s : Link δ) :
    s.parsed ≤ (runDaemon g fl fuel s).parsed := by
  induction fuel generalizing s with
  | zero => exact Nat.le_refl _
  | succ fuel ih =>
      unfold runDaemon
      split
      · split
        · exact Nat.le_refl _
        · rename_i r _
          exact Nat.le_trans (Nat.le_succ _) (ih (s.after r))
      · exact Nat.le_refl _

/-- What the daemon once left unread it either still has not read, or read as a header. -/
theorem runDaemon_of_inbox_ne_nil {s : Link δ} (hinbox : s.inbox ≠ []) (fuel : Nat) :
    (runDaemon g fl fuel s).inbox ≠ [] ∨ s.parsed < (runDaemon g fl fuel s).parsed := by
  cases fuel with
  | zero => exact .inl hinbox
  | succ fuel =>
      unfold runDaemon
      split
      · split
        · exact .inl hinbox
        · rename_i r _
          exact .inr (parsed_le_runDaemon fuel (s.after r))
      · exact .inl hinbox

end

/-! ## A link to run -/

/-- A guest whose device is a file of bytes and whose allocations succeed. -/
def fileGuest : Guest ByteFile where
  pread f length offset := (some (f.pread length offset), f)
  pwrite f data offset := (some data.length, f.pwrite data offset)
  fdatasync f := f
  malloc f _ := (true, f)
  length_pread := by
    intro f length offset bs h
    obtain rfl := Option.some.inj h
    exact f.length_pread_le length offset
  pwrite_le := by
    intro f data offset n h
    obtain rfl := Option.some.inj h
    exact Nat.le_refl _

/-- Floats that are their own bits, with the order and operations of the integers. -/
def intFloat : FloatOps Int where
  ofBits n := n
  toBits := Int.toNat
  ofHalf n := n
  add := (· + ·)
  mul := (· * ·)
  fma a b c := a * b + c
  lt a b := decide (a < b)

def connected (f : ByteFile) : Link ByteFile :=
  ⟨⟨f, fun _ => 0⟩, .ready, [], [], 0, 0⟩

end AiSsd.Nvme
