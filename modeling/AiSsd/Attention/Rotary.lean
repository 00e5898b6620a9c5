import AiSsd.Attention.StreamingSoftmax
import AiSsd.Lib.PlaneRotation
import Mathlib.Analysis.SpecialFunctions.Pow.Real

/-!
# Rotary position embedding

Every head vector is turned by angles that grow with the position. The tables end at
`max_seq_len`, and the slices of a sequence are broadcast against it: with one row of the tables
left, all its tokens are turned alike.
-/

namespace AiSsd.Attention

open Lib

universe u

variable {α : Type u} {heads half : Nat}

/-! ## The source -/

section Source

variable [Field α] (A : Angles α) (pow : α → α → α) (theta : α)

/-- `1.0 / (theta ** (freq_indices / dim_half))`. -/
def invFreq (half : Nat) (j : Fin half) : α := 1 / pow theta ((j : ℕ) / (half : α))

/-- `np.outer(positions, inv_freq)`. -/
def angles (half pos : Nat) (j : Fin half) : α := pos * invFreq pow theta half j

/-- The cosine and the sine of every angle of every position. -/
def precomputeRopeFrequencies (half maxSeqLen : Nat) :
    List (Fin half → α) × List (Fin half → α) :=
  ((List.range maxSeqLen).map fun pos j => A.cos (angles pow theta half pos j),
    (List.range maxSeqLen).map fun pos j => A.sin (angles pow theta half pos j))

def rotateRow (table : (Fin half → α) × (Fin half → α)) (row : Row α heads (half + half)) :
    Row α heads (half + half) :=
  fun h => rotate table.1 table.2 (row h)

/-- `x1 * cos_slice - x2 * sin_slice` and the other half, broadcast over the tokens. -/
def broadcastRotate (slice : List ((Fin half → α) × (Fin half → α)))
    (x : List (Row α heads (half + half))) : Except PyErr (List (Row α heads (half + half))) :=
  if slice.length = x.length then .ok (List.zipWith rotateRow slice x)
  else
    match slice, x with
    | [table], x => .ok (x.map (rotateRow table))
    | slice, [row] => .ok (slice.map fun table => rotateRow table row)
    | _, _ => .error (.valueError "operands could not be broadcast together")

/-- A sequence of tokens from position `pos_offset` on. -/
def applyRotaryPosEmb (cos sin : List (Fin half → α)) (x : List (Row α heads (half + half)))
    (posOffset : Nat) : Except PyErr (List (Row α heads (half + half))) :=
  broadcastRotate
    (((cos.drop posOffset).take x.length).zip ((sin.drop posOffset).take x.length)) x

/-- A single token: `out[0]`. -/
def applyRotaryToken (cos sin : List (Fin half → α)) (row : Row α heads (half + half))
    (posOffset : Nat) : Except PyErr (Row α heads (half + half)) :=
  match applyRotaryPosEmb cos sin [row] posOffset with
  | .error err => .error err
  | .ok [] => .error .indexError
  | .ok (out :: _) => .ok out

end Source

/-! ## Positions -/

section Positions

variable [Field α] (A : Angles α) (pow : α → α → α) (theta : α)

def rotated (pos : Nat) (row : Row α heads (half + half)) : Row α heads (half + half) :=
  fun h => A.turn (angles pow theta half pos) (row h)

def rotatedFrom (pos : Nat) (x : List (Row α heads (half + half))) :
    List (Row α heads (half + half)) :=
  (x.zipIdx pos).map fun row => rotated A pow theta row.2 row.1

@[simp] theorem length_rotatedFrom (pos : Nat) (x : List (Row α heads (half + half))) :
    (rotatedFrom A pow theta pos x).length = x.length := by
  simp [rotatedFrom]

theorem slice_tables (maxSeqLen pos n : Nat) :
    (((precomputeRopeFrequencies A pow theta half maxSeqLen).1.drop pos).take n).zip
        (((precomputeRopeFrequencies A pow theta half maxSeqLen).2.drop pos).take n) =
      (List.range' pos (min n (maxSeqLen - pos))).map fun p =>
        (fun j => A.cos (angles pow theta half p j), fun j => A.sin (angles pow theta half p j)) := by
  have hslice : ((List.range maxSeqLen).drop pos).take n =
      List.range' pos (min n (maxSeqLen - pos)) := by
    rw [List.range_eq_range', List.drop_range', Nat.mul_one, Nat.zero_add]
    rcases Nat.le_total (maxSeqLen - pos) n with hle | hle
    · rw [List.take_range'_of_length_le hle, Nat.min_eq_right hle]
    · rw [List.take_range'_of_length_ge hle, Nat.min_eq_left hle]
  simp only [precomputeRopeFrequencies, ← List.map_drop, ← List.map_take, hslice]
  rw [List.zip_map']

theorem zipWith_rotateRow (pos : Nat) (x : List (Row α heads (half + half))) :
    List.zipWith rotateRow
        ((List.range' pos x.length).map fun p =>
          ((fun j => A.cos (angles pow theta half p j), fun j => A.sin (angles pow theta half p j)) :
            (Fin half → α) × (Fin half → α))) x =
      rotatedFrom A pow theta pos x := by
  induction x generalizing pos with
  | nil => rfl
  | cons row x ih =>
      rw [List.length_cons, List.range'_succ, List.map_cons, List.zipWith_cons_cons, ih]
      rfl

/-- Within the tables every token is turned by its own position. -/
theorem applyRotary_within {maxSeqLen pos : Nat} {x : List (Row α heads (half + half))}
    (h : pos + x.length ≤ maxSeqLen) :
    applyRotaryPosEmb (precomputeRopeFrequencies A pow theta half maxSeqLen).1
      (precomputeRopeFrequencies A pow theta half maxSeqLen).2 x pos =
        .ok (rotatedFrom A pow theta pos x) := by
  rw [applyRotaryPosEmb, slice_tables, Nat.min_eq_left (by omega)]
  unfold broadcastRotate
  rw [if_pos (by rw [List.length_map, List.length_range']), zipWith_rotateRow]

/-- A token past the tables raises; several tokens raise too, unless they start at the last row
of the tables, when all of them are turned as the first. -/
theorem applyRotary_beyond {maxSeqLen pos : Nat} {x : List (Row α heads (half + half))}
    (hseveral : 2 ≤ x.length) (h : maxSeqLen < pos + x.length) :
    applyRotaryPosEmb (precomputeRopeFrequencies A pow theta half maxSeqLen).1
      (precomputeRopeFrequencies A pow theta half maxSeqLen).2 x pos =
        if pos + 1 = maxSeqLen then .ok (x.map (rotated A pow theta pos))
        else .error (.valueError "operands could not be broadcast together") := by
  obtain ⟨row, row', x, rfl⟩ : ∃ row row' y, x = row :: row' :: y := by
    rcases x with _ | ⟨row, _ | ⟨row', x⟩⟩
    · cases hseveral
    · simp at hseveral
    · exact ⟨row, row', x, rfl⟩
  rw [applyRotaryPosEmb, slice_tables, Nat.min_eq_right (by omega)]
  unfold broadcastRotate
  rw [if_neg (by rw [List.length_map, List.length_range']; omega)]
  by_cases hlast : pos + 1 = maxSeqLen
  · rw [if_pos hlast, show maxSeqLen - pos = 1 by omega]
    rfl
  · rw [if_neg hlast]
    obtain hnone | ⟨n, hn⟩ : maxSeqLen - pos = 0 ∨ ∃ n, maxSeqLen - pos = n + 2 := by
      rcases Nat.lt_or_ge (maxSeqLen - pos) 2 with hlt | hge
      · exact Or.inl (by omega)
      · exact Or.inr ⟨maxSeqLen - pos - 2, by omega⟩
    · rw [hnone]
      rfl
    · rw [hn]
      rfl

theorem applyRotary_beyond_two :
    applyRotaryPosEmb (precomputeRopeFrequencies Angles.real Real.rpow 10000 1 8).1
      (precomputeRopeFrequencies Angles.real Real.rpow 10000 1 8).2
      [fun (_ : Fin 1) (_ : Fin (1 + 1)) => 1, fun _ _ => 2] 7 =
        if 7 + 1 = 8 then
          .ok ([fun (_ : Fin 1) (_ : Fin (1 + 1)) => 1, fun _ _ => 2].map
            (rotated Angles.real Real.rpow 10000 7))
        else .error (.valueError "operands could not be broadcast together") :=
  applyRotary_beyond Angles.real Real.rpow 10000 (Nat.le_refl 2) (Nat.lt_succ_self 8)

/-- A single token is turned by its position, and past the tables there is none to return. -/
theorem applyRotaryToken_eq (maxSeqLen pos : Nat) (row : Row α heads (half + half)) :
    applyRotaryToken (precomputeRopeFrequencies A pow theta half maxSeqLen).1
      (precomputeRopeFrequencies A pow theta half maxSeqLen).2 row pos =
        if pos < maxSeqLen then .ok (rotated A pow theta pos row) else .error .indexError := by
  split
  · rename_i hlt
    have hwithin : pos + [row].length ≤ maxSeqLen := hlt
    rw [applyRotaryToken, applyRotary_within A pow theta hwithin]
    rfl
  · rename_i hge
    rw [applyRotaryToken, applyRotaryPosEmb, slice_tables,
      Nat.sub_eq_zero_of_le (Nat.le_of_not_lt hge), Nat.min_zero]
    rfl

end Positions

end AiSsd.Attention
