import AiSsd.Lib.ByteFile
import Mathlib.Algebra.BigOperators.Group.List.Basic
import Mathlib.Tactic.Ring

/-!
# Little-endian records in a byte stream

A number in a field of fixed width is its bytes from the least significant on. A record is
its fields one after the other, an array its records one after the other, and reading what
was written gives the numbers back, whatever follows in the stream. `readExact` takes a
given number of bytes off a stream, or waits for them.
-/

namespace Lib.LittleEndian

universe u

/-! ## Numbers -/

/-- The `width` lowest bytes of `n`. -/
def toBytes : (width n : Nat) → Bytes
  | 0, _ => []
  | width + 1, n => UInt8.ofNat n :: toBytes width (n / 256)

def ofBytes : Bytes → Nat
  | [] => 0
  | b :: bs => b.toNat + 256 * ofBytes bs

@[simp] theorem length_toBytes (width n : Nat) : (toBytes width n).length = width := by
  induction width generalizing n with
  | zero => rfl
  | succ width ih => simp [toBytes, ih]

theorem ofBytes_toBytes (width n : Nat) : ofBytes (toBytes width n) = n % 256 ^ width := by
  induction width generalizing n with
  | zero => simp [toBytes, ofBytes, Nat.mod_one]
  | succ width ih =>
      have hlow : (UInt8.ofNat n).toNat = n % 256 := UInt8.toNat_ofNat'
      rw [toBytes, ofBytes, ih, hlow, Nat.pow_succ', Nat.mod_mul]

/-! ## Records -/

def record (fields : List (Nat × Nat)) : Bytes := fields.flatMap fun f => toBytes f.1 f.2

def next (width : Nat) (bs : Bytes) : Nat × Bytes := (ofBytes (bs.take width), bs.drop width)

@[simp] theorem record_nil : record [] = [] := rfl

@[simp] theorem record_cons (f : Nat × Nat) (fields : List (Nat × Nat)) :
    record (f :: fields) = toBytes f.1 f.2 ++ record fields := rfl

theorem length_record (fields : List (Nat × Nat)) :
    (record fields).length = (fields.map Prod.fst).sum := by
  induction fields with
  | nil => rfl
  | cons f fields ih => simp [ih]

@[simp] theorem next_toBytes (width n : Nat) (rest : Bytes) :
    next width (toBytes width n ++ rest) = (n % 256 ^ width, rest) := by
  have hlength := length_toBytes width n
  unfold next
  rw [List.take_left' hlength, List.drop_left' hlength, ofBytes_toBytes]

/-! ## Arrays of records -/

/-- `count` records of `size` bytes each. -/
def readMany {α : Type u} (size : Nat) (parse : Bytes → α) : (count : Nat) → Bytes → List α
  | 0, _ => []
  | count + 1, bs => parse bs :: readMany size parse count (bs.drop size)

theorem length_flatMap {α : Type u} {size : Nat} {write : α → Bytes} {xs : List α}
    (hsize : ∀ x ∈ xs, (write x).length = size) :
    (xs.flatMap write).length = xs.length * size := by
  induction xs with
  | nil => simp
  | cons x xs ih =>
      rw [List.forall_mem_cons] at hsize
      rw [List.flatMap_cons, List.length_append, hsize.1, ih hsize.2, List.length_cons]
      ring

/-- `bs` is a record of `size` bytes that `parse` reads as `a`, whatever follows it. -/
structure Encodes {α : Type u} (size : Nat) (parse : Bytes → α) (a : α) (bs : Bytes) : Prop where
  length_eq : bs.length = size
  parse_eq : ∀ rest, parse (bs ++ rest) = a

theorem length_flatten {α : Type u} {size : Nat} {parse : Bytes → α} {xs : List α}
    {records : List Bytes} (h : List.Forall₂ (Encodes size parse) xs records) :
    records.flatten.length = xs.length * size := by
  induction h with
  | nil => simp
  | cons hx _ ih =>
      rw [List.flatten_cons, List.length_append, hx.length_eq, ih, List.length_cons]
      ring

theorem readMany_flatten {α : Type u} {size : Nat} {parse : Bytes → α} {xs : List α}
    {records : List Bytes} (h : List.Forall₂ (Encodes size parse) xs records) (rest : Bytes) :
    readMany size parse xs.length (records.flatten ++ rest) = xs := by
  induction h with
  | nil => rfl
  | cons hx _ ih =>
      rw [List.flatten_cons, List.append_assoc, List.length_cons, readMany, hx.parse_eq,
        List.drop_left' hx.length_eq, ih]

/-! ## Streams -/

/-- Continue with the next `n` bytes and the rest of the stream, once they are there. -/
def readExact {α : Type u} (n : Nat) (k : Bytes → Bytes → Option α) (bs : Bytes) : Option α :=
  if n ≤ bs.length then k (bs.take n) (bs.drop n) else none

theorem readExact_append {α : Type u} {n : Nat} (k : Bytes → Bytes → Option α) {bs : Bytes}
    (h : bs.length = n) (rest : Bytes) : readExact n k (bs ++ rest) = k bs rest := by
  have hle : n ≤ (bs ++ rest).length := by
    rw [List.length_append]
    omega
  rw [readExact, if_pos hle, List.take_left' h, List.drop_left' h]

theorem readExact_of_lt {α : Type u} {n : Nat} (k : Bytes → Bytes → Option α) {bs : Bytes}
    (h : bs.length < n) : readExact n k bs = none := if_neg (by omega)

theorem readExact_eq_some {α : Type u} {n : Nat} {k : Bytes → Bytes → Option α} {bs : Bytes}
    {a : α} (h : readExact n k bs = some a) :
    n ≤ bs.length ∧ k (bs.take n) (bs.drop n) = some a := by
  unfold readExact at h
  split at h
  · rename_i hle
    exact ⟨hle, h⟩
  · cases h

end Lib.LittleEndian
