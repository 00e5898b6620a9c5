import Mathlib.Data.List.Basic
import Mathlib.Tactic.Common

/-!
# Byte-addressed files

A file is its bytes. `pwrite` overwrites an extent, growing the file with zero
bytes when the extent starts past the end; `pread` returns what is there, short
at the end of the file. Reading is characterised byte by byte, so that a write
is seen exactly inside its own extent.
-/

namespace Lib

abbrev Bytes := List UInt8

structure ByteFile where
  bytes : Bytes
deriving Repr, DecidableEq

namespace ByteFile

def empty : ByteFile := ⟨[]⟩

def size (f : ByteFile) : Nat := f.bytes.length

theorem ext_bytes {f g : ByteFile} (h : f.bytes = g.bytes) : f = g := by
  cases f
  cases g
  cases h
  rfl

/-- Up to `length` bytes starting at `offset`. -/
def pread (f : ByteFile) (length offset : Nat) : Bytes :=
  (f.bytes.drop offset).take length

/-- Overwrite the extent at `offset` with `data`. A write of no bytes leaves the
file as it is, wherever it points. -/
def pwrite (f : ByteFile) (data : Bytes) (offset : Nat) : ByteFile :=
  if data = [] then f
  else
    ⟨(f.bytes ++ List.replicate (offset - f.bytes.length) 0).take offset ++ data ++
      f.bytes.drop (offset + data.length)⟩

@[simp] theorem pwrite_nil (f : ByteFile) (offset : Nat) : f.pwrite [] offset = f := by
  simp [pwrite]

/-- The bytes below the extent, padded when the file is shorter. -/
theorem length_padded (f : ByteFile) (offset : Nat) :
    ((f.bytes ++ List.replicate (offset - f.bytes.length) 0).take offset).length = offset := by
  simp only [List.length_take, List.length_append, List.length_replicate]
  omega

theorem size_pwrite (f : ByteFile) {data : Bytes} (offset : Nat) (h : data ≠ []) :
    (f.pwrite data offset).size = max f.size (offset + data.length) := by
  have hp := length_padded f offset
  simp only [pwrite, if_neg h, size, List.length_append, hp, List.length_drop]
  omega

/-- Appending at the end is the only way a write can grow the file without a hole. -/
theorem size_pwrite_end (f : ByteFile) (data : Bytes) :
    (f.pwrite data f.size).size = f.size + data.length := by
  by_cases h : data = []
  · simp [h]
  · rw [size_pwrite f f.size h]
    omega

theorem bytes_pwrite_end (f : ByteFile) (data : Bytes) :
    (f.pwrite data f.size).bytes = f.bytes ++ data := by
  by_cases h : data = []
  · simp [h]
  · simp [pwrite, h, size]

theorem size_pwrite_inside (f : ByteFile) (data : Bytes) (offset : Nat)
    (h : offset + data.length ≤ f.size) : (f.pwrite data offset).size = f.size := by
  by_cases hd : data = []
  · simp [hd]
  · rw [size_pwrite f offset hd]
    omega

theorem length_pread (f : ByteFile) (length offset : Nat) :
    (f.pread length offset).length = min length (f.size - offset) := by
  simp [pread, size]

theorem length_pread_le (f : ByteFile) (length offset : Nat) :
    (f.pread length offset).length ≤ length := by
  rw [length_pread]
  omega

theorem length_pread_inside (f : ByteFile) (length offset : Nat)
    (h : offset + length ≤ f.size) : (f.pread length offset).length = length := by
  rw [length_pread]
  omega

@[simp] theorem pread_zero (f : ByteFile) (offset : Nat) : f.pread 0 offset = [] := by
  simp [pread]

/-- A read of two adjacent extents is the two reads one after the other. -/
theorem pread_add (f : ByteFile) (a b offset : Nat) :
    f.pread (a + b) offset = f.pread a offset ++ f.pread b (offset + a) := by
  simp only [pread, List.take_add, List.drop_drop]

theorem pread_take (f : ByteFile) {a n : Nat} (offset : Nat) (h : a ≤ n) :
    (f.pread n offset).take a = f.pread a offset := by
  simp only [pread, List.take_take, Nat.min_eq_left h]

theorem pread_drop (f : ByteFile) (a b offset : Nat) :
    (f.pread (a + b) offset).drop a = f.pread b (offset + a) := by
  simp only [pread, List.drop_take, Nat.add_sub_cancel_left, List.drop_drop]

/-- Two files with a common start read alike within it. -/
theorem pread_of_start {f g : ByteFile} {n : Nat} (h : g.pread n 0 = f.bytes) {length offset : Nat}
    (hinside : offset + length ≤ n) : g.pread length offset = f.pread length offset := by
  have hstart : f.bytes = g.bytes.take n := by
    rw [← h, pread, List.drop_zero]
  rw [pread, pread, hstart, List.drop_take, List.take_take, Nat.min_eq_left (by omega)]

theorem pread_pwrite_self (f : ByteFile) (data : Bytes) (offset : Nat) :
    (f.pwrite data offset).pread data.length offset = data := by
  by_cases h : data = []
  · simp [h]
  · have hp := length_padded f offset
    simp only [pwrite, if_neg h, pread, List.append_assoc]
    rw [List.drop_append_of_le_length (Nat.le_of_eq hp.symm),
      List.drop_eq_nil_of_le (Nat.le_of_eq hp), List.nil_append, List.take_left]

/-- A read below the written extent, inside the old file, is undisturbed. -/
theorem pread_pwrite_below (f : ByteFile) (data : Bytes) {length offset at' : Nat}
    (hinside : offset + length ≤ f.size) (hbelow : offset + length ≤ at') :
    (f.pwrite data at').pread length offset = f.pread length offset := by
  by_cases h : data = []
  · simp [h]
  · have hp := length_padded f at'
    have hkeep : (f.bytes ++ List.replicate (at' - f.bytes.length) 0).take (offset + length) =
        f.bytes.take (offset + length) :=
      List.take_append_of_le_length hinside
    have htake : ∀ bs : Bytes, (bs.drop offset).take length = (bs.take (offset + length)).drop offset := by
      intro bs
      rw [List.drop_take, Nat.add_sub_cancel_left]
    simp only [pwrite, if_neg h, pread, htake]
    rw [List.append_assoc, List.take_append_of_le_length (by rw [hp]; exact hbelow),
      List.take_take, Nat.min_eq_left hbelow, hkeep]

/-- A read above the written extent is undisturbed. -/
theorem pread_pwrite_above (f : ByteFile) (data : Bytes) {length offset at' : Nat}
    (habove : at' + data.length ≤ offset) :
    (f.pwrite data at').pread length offset = f.pread length offset := by
  by_cases h : data = []
  · simp [h]
  · have hp := length_padded f at'
    simp only [pwrite, if_neg h, pread]
    congr 1
    have hlen : ((f.bytes ++ List.replicate (at' - f.bytes.length) 0).take at' ++ data).length =
        at' + data.length := by rw [List.length_append, hp]
    obtain ⟨k, rfl⟩ := Nat.exists_eq_add_of_le habove
    rw [← List.drop_drop, ← hlen, List.drop_left, hlen, List.drop_drop]

theorem pread_pwrite_disjoint (f : ByteFile) (data : Bytes) {length offset at' : Nat}
    (hinside : offset + length ≤ f.size)
    (hdisj : offset + length ≤ at' ∨ at' + data.length ≤ offset) :
    (f.pwrite data at').pread length offset = f.pread length offset := by
  rcases hdisj with hbelow | habove
  · exact pread_pwrite_below f data hinside hbelow
  · exact pread_pwrite_above f data habove

end ByteFile

/-! ## Byte by byte -/

def byteAt (bytes : Bytes) (i : Nat) : UInt8 := bytes.getD i 0

theorem byteAt_of_le {bytes : Bytes} {i : Nat} (h : bytes.length ≤ i) : byteAt bytes i = 0 := by
  simp [byteAt, List.getElem?_eq_none h]

@[simp] theorem byteAt_nil (i : Nat) : byteAt [] i = 0 := rfl

@[simp] theorem byteAt_zeros (n i : Nat) : byteAt (List.replicate n 0) i = 0 := by
  simp only [byteAt, List.getD_eq_getElem?_getD, List.getElem?_replicate]
  split
  · rfl
  · rfl

theorem byteAt_append (a b : Bytes) (i : Nat) :
    byteAt (a ++ b) i = if i < a.length then byteAt a i else byteAt b (i - a.length) := by
  simp only [byteAt, List.getD_eq_getElem?_getD, List.getElem?_append]
  split
  · rfl
  · rfl

@[simp] theorem byteAt_append_zeros (bytes : Bytes) (n i : Nat) :
    byteAt (bytes ++ List.replicate n 0) i = byteAt bytes i := by
  rw [byteAt_append, byteAt_zeros]
  split
  · rfl
  · next h => rw [byteAt_of_le (Nat.le_of_not_lt h)]

theorem byteAt_take (bytes : Bytes) (n i : Nat) :
    byteAt (bytes.take n) i = if i < n then byteAt bytes i else 0 := by
  simp only [byteAt, List.getD_eq_getElem?_getD, List.getElem?_take]
  split
  · rfl
  · rfl

theorem byteAt_drop (bytes : Bytes) (n i : Nat) :
    byteAt (bytes.drop n) i = byteAt bytes (n + i) := by
  simp only [byteAt, List.getD_eq_getElem?_getD, List.getElem?_drop]

/-- `data` put at `offset`, between what `start` has below it and `rest` above. -/
theorem byteAt_splice {start : Bytes} (data rest : Bytes) {offset : Nat}
    (h : offset ≤ start.length) (i : Nat) :
    byteAt (start.take offset ++ data ++ rest.drop (offset + data.length)) i =
      if i < offset then byteAt start i
      else if i < offset + data.length then byteAt data (i - offset)
      else byteAt rest i := by
  have hlen : (start.take offset).length = offset := by
    rw [List.length_take, Nat.min_eq_left h]
  rw [List.append_assoc, byteAt_append, byteAt_append, hlen, byteAt_take, byteAt_drop]
  by_cases hbelow : i < offset
  · rw [if_pos hbelow, if_pos hbelow, if_pos hbelow]
  · rw [if_neg hbelow, if_neg hbelow]
    by_cases hinside : i < offset + data.length
    · rw [if_pos hinside, if_pos (by omega)]
    · rw [if_neg hinside, if_neg (by omega)]
      congr 1
      omega

/-- A place past the end of block `b` by its block and its place there. -/
theorem place_of_later {stride b b' offset j i : Nat} (hi : i < stride) (hne : b ≠ b')
    (h : b' * stride + i = b * stride + offset + j) :
    stride ≤ offset + j ∧ b + (offset + j) / stride = b' ∧ (offset + j) % stride = i := by
  have hlt : b < b' := by
    by_contra hle
    have hbelow : (b' + 1) * stride ≤ b * stride := Nat.mul_le_mul_right stride (by omega)
    rw [Nat.succ_mul] at hbelow
    omega
  obtain ⟨k, rfl⟩ := Nat.exists_eq_add_of_lt hlt
  have hplace : offset + j = i + stride * (k + 1) := by
    rw [Nat.add_assoc b, Nat.add_mul, Nat.mul_comm (k + 1)] at h
    omega
  have hpos : 0 < stride := Nat.zero_lt_of_lt hi
  have hfar : stride ≤ stride * (k + 1) := Nat.le_mul_of_pos_right stride k.succ_pos
  rw [hplace, Nat.add_mul_div_left _ _ hpos, Nat.div_eq_of_lt hi, Nat.add_mul_mod_self_left,
    Nat.mod_eq_of_lt hi]
  omega

namespace ByteFile

theorem byteAt_pwrite (f : ByteFile) (data : Bytes) (offset i : Nat) :
    byteAt (f.pwrite data offset).bytes i =
      if offset ≤ i ∧ i < offset + data.length then byteAt data (i - offset)
      else byteAt f.bytes i := by
  by_cases hd : data = []
  · subst hd
    rw [pwrite_nil, if_neg (by simp only [List.length_nil]; omega)]
  · simp only [pwrite, if_neg hd]
    rw [byteAt_splice _ _ (by simp only [List.length_append, List.length_replicate]; omega),
      byteAt_append_zeros]
    by_cases hbelow : i < offset
    · rw [if_pos hbelow, if_neg (by omega)]
    · rw [if_neg hbelow]
      by_cases hinside : i < offset + data.length
      · rw [if_pos hinside, if_pos ⟨by omega, hinside⟩]
      · rw [if_neg hinside, if_neg (by omega)]

theorem byteAt_pread (f : ByteFile) (length offset i : Nat) :
    byteAt (f.pread length offset) i = if i < length then byteAt f.bytes (offset + i) else 0 := by
  rw [pread, byteAt_take, byteAt_drop]

end ByteFile

end Lib
