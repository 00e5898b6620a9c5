import AiSsd.Lib.ByteFile
import AiSsd.PyErr
import Mathlib.Algebra.BigOperators.Group.List.Basic

/-!
# Arrays

An array is a dtype, a shape and its elements in C order as bytes, exactly as many
as the shape asks for. The dtypes are the plain ones, whose elements are stored
by value in a positive number of bytes.
-/

namespace AiSsd.Numpy

open Lib

structure DType where
  name : String
  itemsize : Nat
  pos : 0 < itemsize
deriving DecidableEq

theorem float32_size : 0 < 4 := by decide

def float32 : DType := ⟨"float32", 4, float32_size⟩

def float16 : DType := ⟨"float16", 2, Nat.two_pos⟩

structure NDArray where
  dtype : DType
  shape : List Nat
  data : Bytes
  size_eq : data.length = shape.prod * dtype.itemsize
deriving DecidableEq

namespace NDArray

def ndim (a : NDArray) : Nat := a.shape.length

def nbytes (a : NDArray) : Nat := a.data.length

/-- `np.ascontiguousarray`. The result has at least one dimension. -/
def ascontiguousarray (a : NDArray) : NDArray :=
  if h : a.shape = [] then
    { dtype := a.dtype
      shape := [1]
      data := a.data
      size_eq := by
        rw [a.size_eq, h]
        rfl }
  else a

/-- `np.zeros`. -/
def zeros (shape : List Nat) (dtype : DType) : NDArray where
  dtype := dtype
  shape := shape
  data := List.replicate (shape.prod * dtype.itemsize) 0
  size_eq := List.length_replicate

/-- `np.frombuffer`: a flat array of all whole elements of the buffer. -/
def frombuffer (raw : Bytes) (dtype : DType) : Except PyErr NDArray :=
  if h : raw.length % dtype.itemsize = 0 then
    .ok
      { dtype := dtype
        shape := [raw.length / dtype.itemsize]
        data := raw
        size_eq := by
          rw [List.prod_singleton, Nat.div_mul_cancel (Nat.dvd_of_mod_eq_zero h)] }
  else .error (.valueError "buffer size must be a multiple of element size")

def shapeText (shape : List Nat) : String :=
  match shape with
  | [n] => s!"({n},)"
  | _ => "(" ++ ",".intercalate (shape.map toString) ++ ")"

def reshape (a : NDArray) (shape : List Nat) : Except PyErr NDArray :=
  if h : a.shape.prod = shape.prod then
    .ok
      { dtype := a.dtype
        shape := shape
        data := a.data
        size_eq := by rw [a.size_eq, h] }
  else
    .error (.valueError
      ("cannot reshape array of size " ++ toString a.shape.prod ++ " into shape " ++
        shapeText shape))

/-- `np.frombuffer(raw, dtype).reshape(shape).copy()`. -/
def decode (raw : Bytes) (dtype : DType) (shape : List Nat) : Except PyErr NDArray :=
  match frombuffer raw dtype with
  | .error err => .error err
  | .ok flat => flat.reshape shape

theorem ascontiguousarray_of_ne {a : NDArray} (h : a.shape ≠ []) : a.ascontiguousarray = a :=
  dif_neg h

@[simp] theorem data_ascontiguousarray (a : NDArray) : a.ascontiguousarray.data = a.data := by
  unfold ascontiguousarray
  split <;> rfl

@[simp] theorem dtype_ascontiguousarray (a : NDArray) : a.ascontiguousarray.dtype = a.dtype := by
  unfold ascontiguousarray
  split <;> rfl

theorem shape_ascontiguousarray (a : NDArray) :
    a.ascontiguousarray.shape = if a.shape = [] then [1] else a.shape := by
  unfold ascontiguousarray
  split <;> rfl

/-- The bytes of an array, read back under its dtype and shape, are the array. -/
theorem decode_data (a : NDArray) : decode a.data a.dtype a.shape = .ok a := by
  have hmod : a.data.length % a.dtype.itemsize = 0 := by
    rw [a.size_eq]
    exact Nat.mul_mod_left _ _
  have hprod : [a.data.length / a.dtype.itemsize].prod = a.shape.prod := by
    rw [List.prod_singleton, a.size_eq, Nat.mul_div_cancel _ a.dtype.pos]
  unfold decode frombuffer
  rw [dif_pos hmod]
  unfold reshape
  dsimp only
  rw [dif_pos hprod]

theorem frombuffer_ok {raw : Bytes} {dtype : DType} (h : raw.length % dtype.itemsize = 0) :
    ∃ a, frombuffer raw dtype = .ok a ∧ a.data = raw :=
  ⟨_, dif_pos h, rfl⟩

theorem of_decode_eq_ok {raw : Bytes} {dtype : DType} {shape : List Nat} {a : NDArray}
    (h : decode raw dtype shape = .ok a) : a.dtype = dtype ∧ a.shape = shape ∧ a.data = raw := by
  unfold decode frombuffer at h
  by_cases hmod : raw.length % dtype.itemsize = 0
  · rw [dif_pos hmod] at h
    unfold reshape at h
    dsimp only at h
    split at h
    · cases h
      exact ⟨rfl, rfl, rfl⟩
    · cases h
  · rw [dif_neg hmod] at h
    cases h

theorem decode_ok {raw : Bytes} {dtype : DType} {shape : List Nat}
    (h : raw.length = shape.prod * dtype.itemsize) :
    ∃ a, decode raw dtype shape = .ok a ∧ a.data = raw :=
  ⟨⟨dtype, shape, raw, h⟩, decode_data ⟨dtype, shape, raw, h⟩, rfl⟩

/-- Bytes read as an array of a shape exactly when there are as many as it asks for. -/
theorem decode_isOk_iff {raw : Bytes} {dtype : DType} {shape : List Nat} :
    (∃ a, decode raw dtype shape = .ok a) ↔ raw.length = shape.prod * dtype.itemsize := by
  constructor
  · intro h
    obtain ⟨a, ha⟩ := h
    obtain ⟨hdtype, hshape, hdata⟩ := of_decode_eq_ok ha
    rw [← hdata, ← hdtype, ← hshape, a.size_eq]
  · intro h
    obtain ⟨a, ha, -⟩ := decode_ok h
    exact ⟨a, ha⟩

end NDArray

end AiSsd.Numpy
