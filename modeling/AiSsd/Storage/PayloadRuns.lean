import AiSsd.Storage.BackendReads

/-!
# Runs that write any payload

Plain bytes are written under the canonical shape whatever their length. Every entry still
says where its own bytes lie, and a page reads back exactly when its size is the one its
recorded shape and dtype ask for.
-/

namespace AiSsd.Storage

open Lib Numpy

universe u

namespace RealInferenceStorageBackend

variable {cfg : BackendConfig} {s : RealInferenceStorageBackend cfg} {α : Type u}

/-- An operation of the array runs, or a write of any payload. -/
inductive Request (α : Type u) where
  | write (layerIdx blockId : Nat) (k v : Payload) (headId tokenStart : Nat)
  | other (op : Op α)

def Request.writes (key : Nat × Nat) : Request α → Option (Payload × Payload)
  | .write l b k v _ _ => if (l, b) = key then some (k, v) else none
  | .other op => (op.writes key).map fun kv => (.array kv.1, .array kv.2)

def lastPayload (requests : List (Request α)) (key : Nat × Nat) : Option (Payload × Payload) :=
  requests.reverse.findSome? (Request.writes key)

theorem lastPayload_concat (requests : List (Request α)) (request : Request α) (key : Nat × Nat) :
    lastPayload (requests ++ [request]) key =
      (request.writes key).or (lastPayload requests key) := by
  rw [lastPayload, List.reverse_append, List.findSome?_append]
  cases hw : request.writes key <;> simp [lastPayload, hw]

/-! ## The backend as a machine -/

section Runs

variable [Field α] [LinearOrder α] (cfg) (val : DType → Bytes → α) (kernel : Option (Kernel α))

def serve (s : RealInferenceStorageBackend cfg) :
    Request α → Except PyErr (Answer α) × RealInferenceStorageBackend cfg
  | .write l b k v h ts =>
      let r := writeBlock s l b k v h ts
      (r.1.map fun _ => .done, r.2)
  | .other op => step cfg val kernel s op

def server : Machine (RealInferenceStorageBackend cfg) (Request α) (Except PyErr (Answer α)) where
  step := serve cfg val kernel

end Runs

/-! ## Where the stored bytes are -/

/-- Every entry describes the last payloads written to its block, below the end of the file. -/
structure Laid (s : RealInferenceStorageBackend cfg) (requests : List (Request α)) : Prop where
  atEnd : s.fileOffset = s.file.size
  known : ∀ key e, s.storage.get? key = some e → KnownMode cfg
  entries : ∀ key e, s.storage.get? key = some e → ∃ k v,
    lastPayload requests key = some (k, v) ∧ Extents s.file e (pack cfg k) (pack cfg v)

theorem laid_iff {requests : List (Request α)} :
    Laid s requests ↔ Describes s (lastPayload requests) :=
  ⟨fun h => ⟨h.atEnd, h.known, h.entries⟩, fun h => ⟨h.atEnd, h.known, h.entries⟩⟩

theorem laid_init : Laid (init : RealInferenceStorageBackend cfg) ([] : List (Request α)) :=
  laid_iff.mpr (describes_init _)

theorem lastPayload_of_none {requests : List (Request α)} {request : Request α}
    (hrequest : ∀ key, request.writes key = none) :
    lastPayload (requests ++ [request]) = lastPayload requests := by
  funext key
  rw [lastPayload_concat, hrequest, Option.none_or]

/-- A request that writes nothing and keeps the store keeps where everything is. -/
theorem Laid.of_same {requests : List (Request α)} {request : Request α}
    {s' : RealInferenceStorageBackend cfg} (h : Laid s requests) (hsame : SameStore s s')
    (hrequest : ∀ key, request.writes key = none) : Laid s' (requests ++ [request]) := by
  rw [laid_iff, lastPayload_of_none hrequest]
  exact (laid_iff.mp h).of_same hsame

theorem laid_write {requests : List (Request α)} (h : Laid s requests) {request : Request α}
    {l b : Nat} {k v : Payload} (head ts : Nat)
    (hwrites : ∀ key, request.writes key = if (l, b) = key then some (k, v) else none) :
    Laid (writeBlock s l b k v head ts).2 (requests ++ [request]) := by
  have hlast : lastPayload (requests ++ [request]) =
      fun key => if (l, b) = key then some (k, v) else lastPayload requests key := by
    funext key
    rw [lastPayload_concat, hwrites]
    split <;> rfl
  rw [laid_iff, hlast]
  exact (laid_iff.mp h).write l b k v head ts

theorem laid_evict {requests : List (Request α)} (h : Laid s requests) (l b : Nat) :
    Laid (evictBlock s l b).2 (requests ++ [.other (.evict l b)]) := by
  rw [laid_iff, lastPayload_of_none fun _ => rfl]
  exact (laid_iff.mp h).evict l b

section Runs

variable [Field α] [LinearOrder α] {val : DType → Bytes → α} {kernel : Option (Kernel α)}

theorem laid_serve {requests : List (Request α)} (h : Laid s requests) (request : Request α) :
    Laid (serve cfg val kernel s request).2 (requests ++ [request]) := by
  cases request with
  | write l b k v head ts => exact laid_write h head ts fun _ => rfl
  | other op =>
      cases op with
      | write l b k v head ts =>
          refine laid_write h head ts fun key => ?_
          simp only [Request.writes, Op.writes]
          split <;> rfl
      | evict l b => exact laid_evict h l b
      | _ => exact h.of_same (sameStore_step trivial) fun _ => rfl

theorem laid_run (requests : List (Request α)) :
    Laid ((server cfg val kernel).exec init requests) requests := by
  induction requests using List.reverseRecOn with
  | nil => exact laid_init
  | append_singleton requests request ih =>
      rw [Machine.exec_concat]
      exact laid_serve ih request

end Runs

/-! ## Which pages read back -/

/-- The pages that a kind of read decodes have the sizes their shapes and dtypes ask for. -/
def Fits (kind : ReadKind) (e : Entry cfg.channels) : Prop :=
  match kind with
  | .key => e.kSize = e.kShape.prod * e.kDtype.itemsize
  | .value => e.vSize = e.vShape.prod * e.vDtype.itemsize
  | .block =>
      e.kSize = e.kShape.prod * e.kDtype.itemsize ∧ e.vSize = e.vShape.prod * e.vDtype.itemsize

def BlockFits (kind : ReadKind) (s : RealInferenceStorageBackend cfg) (l b : Nat) : Prop :=
  ∀ e, s.storage.get? (l, b) = some e → Fits kind e

section Fetch

variable {file : ByteFile} {e : Entry cfg.channels} {k v : Packed}

theorem Extents.keyRaw (h : Extents file e k v) :
    (file.pread e.kSize e.kOffset).length = e.kSize := by rw [h.kBytes, h.kSize_eq]

theorem Extents.valueRaw (h : Extents file e k v) :
    (file.pread e.vSize e.vOffset).length = e.vSize := by rw [h.vBytes, h.vSize_eq]

theorem fetchKey_isOk_iff (h : Extents file e k v) :
    (∃ r, fetchKey file (some e) = .ok r) ↔ Fits .key e := by
  have hdecode := @NDArray.decode_isOk_iff (file.pread e.kSize e.kOffset) e.kDtype e.kShape
  rw [h.keyRaw] at hdecode
  rw [Fits, ← hdecode, fetchKey]
  cases NDArray.decode (file.pread e.kSize e.kOffset) e.kDtype e.kShape <;> simp

theorem fetchValue_isOk_iff (h : Extents file e k v) :
    (∃ r, fetchValue file (some e) = .ok r) ↔ Fits .value e := by
  have hdecode := @NDArray.decode_isOk_iff (file.pread e.vSize e.vOffset) e.vDtype e.vShape
  rw [h.valueRaw] at hdecode
  rw [Fits, ← hdecode, fetchValue]
  cases NDArray.decode (file.pread e.vSize e.vOffset) e.vDtype e.vShape <;> simp

theorem fetchBlock_isOk_iff (h : Extents file e k v) :
    (∃ r, fetchBlock file (some e) = .ok r) ↔ Fits .block e := by
  have hkey := @NDArray.decode_isOk_iff (file.pread e.kSize e.kOffset) e.kDtype e.kShape
  have hvalue := @NDArray.decode_isOk_iff (file.pread e.vSize e.vOffset) e.vDtype e.vShape
  rw [h.keyRaw] at hkey
  rw [h.valueRaw] at hvalue
  rw [Fits, ← hkey, ← hvalue, fetchBlock, decodeBlock]
  cases NDArray.decode (file.pread e.kSize e.kOffset) e.kDtype e.kShape with
  | error err => simp
  | ok a =>
      cases NDArray.decode (file.pread e.vSize e.vOffset) e.vDtype e.vShape <;> simp

end Fetch

section Laid

variable {requests : List (Request α)}

theorem Laid.fetchKey_ok_iff (h : Laid s requests) (l b : Nat) :
    (∃ r, fetchKey s.file (s.storage.get? (l, b)) = .ok r) ↔ BlockFits .key s l b := by
  unfold BlockFits
  cases he : s.storage.get? (l, b) with
  | none => simp [fetchKey]
  | some e =>
      obtain ⟨k, v, -, hextents⟩ := h.entries (l, b) e he
      simp [fetchKey_isOk_iff hextents]

theorem Laid.fetchValue_ok_iff (h : Laid s requests) (l b : Nat) :
    (∃ r, fetchValue s.file (s.storage.get? (l, b)) = .ok r) ↔ BlockFits .value s l b := by
  unfold BlockFits
  cases he : s.storage.get? (l, b) with
  | none => simp [fetchValue]
  | some e =>
      obtain ⟨k, v, -, hextents⟩ := h.entries (l, b) e he
      simp [fetchValue_isOk_iff hextents]

theorem Laid.fetchBlock_ok_iff (h : Laid s requests) (l b : Nat) :
    (∃ r, fetchBlock s.file (s.storage.get? (l, b)) = .ok r) ↔ BlockFits .block s l b := by
  unfold BlockFits
  cases he : s.storage.get? (l, b) with
  | none => simp [fetchBlock]
  | some e =>
      obtain ⟨k, v, -, hextents⟩ := h.entries (l, b) e he
      simp [fetchBlock_isOk_iff hextents]

/-- A batch and a single read fetch alike. -/
theorem Laid.fetchBlockSpan_eq (h : Laid s requests) (l b : Nat) :
    fetchBlockSpan s.file (s.storage.get? (l, b)) = fetchBlock s.file (s.storage.get? (l, b)) := by
  cases he : s.storage.get? (l, b) with
  | none => rfl
  | some e =>
      obtain ⟨k, v, -, hextents⟩ := h.entries (l, b) e he
      exact fetchBlockSpan_eq_fetchBlock hextents.vOffset_eq

end Laid

end RealInferenceStorageBackend

end AiSsd.Storage
