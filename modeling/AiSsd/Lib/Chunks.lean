import Mathlib.Data.List.Basic
import Mathlib.Data.List.Perm.Subperm
import Mathlib.Tactic.Common

/-!
# Slices and chunks

A list cut into pieces of `n` elements, the last one possibly shorter. `chunk n xs i`
is the `i`-th piece and `numChunks` how many there are. The lemmas say what the
pieces add up to and how they change when the list grows at its end.
-/

namespace Lib

universe u v

variable {α : Type u} {β : Type v}

/-- `xs[start:stop]` for bounds that are not negative. -/
def slice (xs : List α) (start stop : Nat) : List α := (xs.drop start).take (stop - start)

def chunk (n : Nat) (xs : List α) (i : Nat) : List α := (xs.drop (i * n)).take n

/-- `⌈len / n⌉`, as integer division writes it. -/
def numChunks (n len : Nat) : Nat := (len + n - 1) / n

def chunks (n : Nat) (xs : List α) : List (List α) :=
  (List.range (numChunks n xs.length)).map (chunk n xs)

/-! ## Slices -/

theorem length_slice (xs : List α) (start stop : Nat) :
    (slice xs start stop).length = min (stop - start) (xs.length - start) := by
  simp [slice]

theorem slice_eq_chunk (n : Nat) (xs : List α) (i : Nat) :
    slice xs (i * n) (min (i * n + n) xs.length) = chunk n xs i := by
  apply List.ext_getElem
  · simp only [slice, chunk, List.length_take, List.length_drop]
    omega
  · intro j h₁ h₂
    simp only [slice, chunk, List.getElem_take]

theorem map_slice (f : α → β) (xs : List α) (a b : Nat) :
    (slice xs a b).map f = slice (xs.map f) a b := by
  simp only [slice, List.map_take, List.map_drop]

/-! ## How many chunks -/

theorem lt_numChunks_iff {n : Nat} (hn : 0 < n) (len i : Nat) :
    i < numChunks n len ↔ i * n < len := by
  unfold numChunks
  rw [Nat.lt_iff_add_one_le, Nat.le_div_iff_mul_le hn, Nat.add_mul, Nat.one_mul]
  omega

theorem numChunks_zero {n : Nat} (hn : 0 < n) : numChunks n 0 = 0 :=
  Nat.div_eq_of_lt (by omega)

theorem pos_of_numChunks {n len : Nat} (h : 0 < numChunks n len) : 0 < n := by
  apply Nat.pos_of_ne_zero
  intro hzero
  rw [numChunks, hzero, Nat.div_zero] at h
  exact absurd h (Nat.lt_irrefl 0)

/-- Nothing has no chunks, of whatever length. -/
theorem numChunks_nothing (n : Nat) : numChunks n 0 = 0 := by
  rcases Nat.eq_zero_or_pos n with hzero | hpos
  · rw [numChunks, hzero, Nat.div_zero]
  · exact numChunks_zero hpos

/-- A full last chunk: the next element opens a new one. -/
theorem numChunks_succ_of_dvd {n : Nat} (hn : 0 < n) (m : Nat) {extra : Nat}
    (hpos : 0 < extra) (hle : extra ≤ n) : numChunks n (m * n + extra) = m + 1 := by
  apply Nat.le_antisymm
  · by_contra hlt
    have hbound := (lt_numChunks_iff hn (m * n + extra) (m + 1)).mp (Nat.lt_of_not_le hlt)
    rw [Nat.add_mul, Nat.one_mul] at hbound
    omega
  · have hbound := (lt_numChunks_iff hn (m * n + extra) m).mpr (by omega)
    omega

theorem numChunks_mul {n : Nat} (hn : 0 < n) (m : Nat) : numChunks n (m * n) = m := by
  cases m with
  | zero => rw [Nat.zero_mul, numChunks_zero hn]
  | succ m =>
      rw [Nat.add_mul, Nat.one_mul]
      exact numChunks_succ_of_dvd hn m hn (Nat.le_refl n)

/-! ## What a chunk holds -/

theorem length_chunk (n : Nat) (xs : List α) (i : Nat) :
    (chunk n xs i).length = min n (xs.length - i * n) := by
  simp [chunk]

@[simp] theorem length_chunks (n : Nat) (xs : List α) :
    (chunks n xs).length = numChunks n xs.length := by
  simp [chunks]

theorem map_chunk (f : α → β) (n : Nat) (xs : List α) (i : Nat) :
    (chunk n xs i).map f = chunk n (xs.map f) i := by
  simp only [chunk, List.map_take, List.map_drop]

theorem flatten_range_chunk (n : Nat) (xs : List α) (m : Nat) :
    ((List.range m).map (chunk n xs)).flatten = xs.take (m * n) := by
  induction m with
  | zero => simp
  | succ m ih =>
      rw [List.range_succ, List.map_append, List.flatten_append, ih, Nat.add_mul, Nat.one_mul,
        List.take_add]
      simp [chunk]

theorem flatten_chunks {n : Nat} (hn : 0 < n) (xs : List α) : (chunks n xs).flatten = xs := by
  rw [chunks, flatten_range_chunk]
  apply List.take_of_length_le
  by_contra hlt
  have hmore := (lt_numChunks_iff hn xs.length (numChunks n xs.length)).mpr (Nat.lt_of_not_le hlt)
  exact Nat.lt_irrefl _ hmore

/-- Pieces of `n` elements, put together and cut again. -/
theorem chunk_flatten {n : Nat} {xss : List (List α)} (h : ∀ xs ∈ xss, xs.length = n) {i : Nat}
    (hi : i < xss.length) : chunk n xss.flatten i = xss[i] := by
  induction xss generalizing i with
  | nil => simp at hi
  | cons xs xss ih =>
      have hxs := h xs List.mem_cons_self
      cases i with
      | zero => simp [chunk, List.take_left' hxs]
      | succ i =>
          have hrec := ih (fun ys hys => h ys (List.mem_cons_of_mem xs hys)) (i := i) (by simpa using hi)
          rw [List.getElem_cons_succ, ← hrec]
          simp only [chunk, List.flatten_cons]
          rw [Nat.add_mul, Nat.one_mul, Nat.add_comm, ← List.drop_drop, List.drop_left' hxs]

/-- Two lists that are cut alike but for one piece are the same only when the piece is. -/
theorem eq_of_flatten_map_eq {β γ : Type*} {f g : β → List γ} {xs ys : List β} {y : β}
    (hxs : ∀ x ∈ xs, f x = g x) (hys : ∀ x ∈ ys, f x = g x)
    (h : ((xs ++ y :: ys).map f).flatten = ((xs ++ y :: ys).map g).flatten) : f y = g y := by
  simp only [List.map_append, List.map_cons, List.flatten_append, List.flatten_cons,
    List.map_congr_left hxs, List.map_congr_left hys] at h
  exact List.append_cancel_right (List.append_cancel_left h)

theorem length_flatten_of_forall {n : Nat} {xss : List (List α)} (h : ∀ xs ∈ xss, xs.length = n) :
    xss.flatten.length = xss.length * n := by
  rw [List.length_flatten, List.eq_replicate_of_mem (l := xss.map List.length) (a := n)]
  · simp
  · intro m hm
    obtain ⟨xs, hxs, rfl⟩ := List.mem_map.mp hm
    exact h xs hxs

/-! ## Positions -/

/-- The elements at some positions; positions past the end have none. -/
def atPositions (xs : List α) (positions : List Nat) : List α :=
  positions.filterMap fun p => xs[p]?

theorem atPositions_append (xs : List α) (ps qs : List Nat) :
    atPositions xs (ps ++ qs) = atPositions xs ps ++ atPositions xs qs := List.filterMap_append

theorem atPositions_flatMap (xs : List α) (cs : List β) (positions : β → List Nat) :
    atPositions xs (cs.flatMap positions) = cs.flatMap fun c => atPositions xs (positions c) := by
  induction cs with
  | nil => rfl
  | cons c cs ih => rw [List.flatMap_cons, List.flatMap_cons, atPositions_append, ih]

theorem atPositions_range' (xs : List α) (start count : Nat) :
    atPositions xs (List.range' start count) = (xs.drop start).take count := by
  induction count generalizing start with
  | zero => rfl
  | succ count ih =>
      rw [List.range'_succ, ← List.singleton_append, atPositions_append, ih]
      by_cases hlt : start < xs.length
      · rw [List.drop_eq_getElem_cons hlt, List.take_succ_cons]
        simp [atPositions, List.getElem?_eq_getElem hlt]
      · have hnil : ∀ i, start ≤ i → xs.drop i = [] := fun i hi =>
          List.drop_eq_nil_of_le (by omega)
        rw [hnil start (Nat.le_refl _), hnil (start + 1) (Nat.le_succ _)]
        simp [atPositions, List.getElem?_eq_none (Nat.le_of_not_lt hlt)]

/-- Positions without repetition pick elements without repetition. -/
theorem atPositions_subperm (xs : List α) {positions : List Nat} (hnd : positions.Nodup)
    (hin : ∀ p ∈ positions, p < xs.length) : (atPositions xs positions).Subperm xs := by
  have hall : atPositions xs (List.range' 0 xs.length) = xs := by
    rw [atPositions_range', List.drop_zero, List.take_length]
  have hsub : positions.Subperm (List.range' 0 xs.length) := by
    apply hnd.subperm
    intro p hp
    rw [List.mem_range'_1]
    exact ⟨Nat.zero_le p, by simpa using hin p hp⟩
  obtain ⟨picked, hperm, hpicked⟩ := hsub
  have hkeep : (atPositions xs picked).Sublist (atPositions xs (List.range' 0 xs.length)) :=
    hpicked.filterMap _
  rw [hall] at hkeep
  exact ⟨_, hperm.filterMap _, hkeep⟩

theorem chunk_range' (n start len i : Nat) : chunk n (List.range' start len) i =
    List.range' (start + i * n) (min n (len - i * n)) := by
  rw [chunk, List.drop_range', Nat.mul_one]
  by_cases hle : len - i * n ≤ n
  · rw [List.take_range'_of_length_le hle, Nat.min_eq_right hle]
  · rw [List.take_range'_of_length_ge (Nat.le_of_not_le hle),
      Nat.min_eq_left (Nat.le_of_not_le hle)]

/-! ## Growing at the end -/

theorem chunk_append_of_full {n : Nat} {xs : List α} (ys : List α) {i : Nat}
    (h : (i + 1) * n ≤ xs.length) : chunk n (xs ++ ys) i = chunk n xs i := by
  have hlen : i * n + n ≤ xs.length := by
    rw [Nat.add_mul, Nat.one_mul] at h
    exact h
  simp only [chunk]
  rw [List.drop_append_of_le_length (by omega), List.take_append_of_le_length]
  rw [List.length_drop]
  omega

theorem chunk_append_next {n m : Nat} {xs : List α} (ys : List α) (h : xs.length = m * n)
    (hle : ys.length ≤ n) : chunk n (xs ++ ys) m = ys := by
  simp only [chunk]
  rw [← h, List.drop_left, List.take_of_length_le hle]

/-- A partial last chunk takes the next element. -/
theorem chunk_concat_last {n m : Nat} {xs : List α} (y : α) (hstart : m * n ≤ xs.length)
    (hroom : xs.length < m * n + n) : chunk n (xs ++ [y]) m = chunk n xs m ++ [y] := by
  simp only [chunk]
  rw [List.drop_append_of_le_length hstart]
  have hlen : (xs.drop (m * n)).length + 1 ≤ n := by
    rw [List.length_drop]
    omega
  rw [List.take_of_length_le (by simpa using hlen), List.take_of_length_le (by omega)]

end Lib
