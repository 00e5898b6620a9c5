import Mathlib.Data.List.DropRight
import Mathlib.Data.List.Infix

/-!
# Logs with a bound

A log that appends trim to its newest entries, but perhaps not every append does. It is always a
tail of all that was appended, never shorter than the bound asks for; an append that does not
trim leaves exactly the newest entries only while there is room.
-/

namespace Lib

universe u

namespace BoundedLog

variable {ρ : Type u} {trims : ρ → Bool} {bound : Nat} {log all : List ρ}

/-- Append an entry, and keep the newest `bound` entries if it is one that trims. -/
def append (trims : ρ → Bool) (bound : Nat) (log : List ρ) (entry : ρ) : List ρ :=
  if trims entry then (log ++ [entry]).rtake bound else log ++ [entry]

def appendAll (trims : ρ → Bool) (bound : Nat) (log entries : List ρ) : List ρ :=
  entries.foldl (append trims bound) log

@[simp] theorem appendAll_nil (log : List ρ) : appendAll trims bound log [] = log := rfl

@[simp] theorem appendAll_singleton (log : List ρ) (entry : ρ) :
    appendAll trims bound log [entry] = append trims bound log entry := rfl

theorem appendAll_append (log entries entries' : List ρ) :
    appendAll trims bound log (entries ++ entries') =
      appendAll trims bound (appendAll trims bound log entries) entries' := by
  simp [appendAll]

theorem length_rtake (bound : Nat) (all : List ρ) :
    (all.rtake bound).length = min bound all.length := by
  simp [List.rtake]
  omega

theorem rtake_of_length_le (h : all.length ≤ bound) : all.rtake bound = all := by
  simp [List.rtake, Nat.sub_eq_zero_of_le h]

/-- The log ends what was appended, and has at least `bound` entries of it if there are so many. -/
structure Tails (bound : Nat) (log all : List ρ) : Prop where
  suffix : log <:+ all
  long : min bound all.length ≤ log.length

theorem tails_rtake (bound : Nat) (all : List ρ) : Tails bound (all.rtake bound) all where
  suffix := List.drop_suffix _ _
  long := by rw [length_rtake]

theorem Tails.rtake_eq (h : Tails bound log all) {n : Nat} (hn : n ≤ bound) :
    log.rtake n = all.rtake n := by
  obtain ⟨⟨older, hall⟩, hlong⟩ := h
  subst hall
  rw [List.length_append] at hlong
  by_cases hlog : n ≤ log.length
  · have hlen : (older ++ log).length - n = older.length + (log.length - n) := by
      rw [List.length_append]
      omega
    rw [List.rtake, List.rtake, hlen, List.drop_length_add_append]
  · have holder : older = [] := by
      apply List.eq_nil_of_length_eq_zero
      omega
    rw [holder, List.nil_append]

theorem Tails.rtake_concat (h : Tails bound log all) (entry : ρ) :
    (log ++ [entry]).rtake bound = (all ++ [entry]).rtake bound := by
  cases bound with
  | zero => simp
  | succ n =>
      rw [List.rtake_concat_succ, List.rtake_concat_succ, h.rtake_eq (Nat.le_succ n)]

theorem Tails.append (h : Tails bound log all) (entry : ρ) :
    Tails bound (append trims bound log entry) (all ++ [entry]) := by
  unfold BoundedLog.append
  split
  · rw [h.rtake_concat]
    exact tails_rtake bound _
  · obtain ⟨⟨older, hall⟩, hlong⟩ := h
    refine ⟨⟨older, ?_⟩, ?_⟩
    · rw [← hall, List.append_assoc]
    · simp
      omega

/-- After an append the log has exactly the newest entries if the append trims, or if all
entries fit. -/
theorem Tails.append_eq_iff (h : Tails bound log all) (entry : ρ) :
    BoundedLog.append trims bound log entry = (all ++ [entry]).rtake bound ↔
      trims entry = true ∨ all.length < bound := by
  cases htrims : trims entry with
  | true => simp [BoundedLog.append, htrims, h.rtake_concat]
  | false =>
      have happend : BoundedLog.append trims bound log entry = log ++ [entry] := by
        simp [BoundedLog.append, htrims]
      rw [happend]
      constructor
      · intro heq
        have hlen := congrArg List.length heq
        have hlong := h.long
        simp [length_rtake] at hlen
        right
        omega
      · intro hroom
        have hfits : all.length < bound := by simpa using hroom
        have hlog : log = all := by
          apply h.suffix.eq_of_length
          have hle := h.suffix.length_le
          have hlong := h.long
          omega
        rw [hlog, rtake_of_length_le (by simp; omega)]

theorem appendAll_rtake {entries : List ρ} (h : ∀ entry ∈ entries, trims entry = true) :
    appendAll trims bound (all.rtake bound) entries = (all ++ entries).rtake bound := by
  induction entries generalizing all with
  | nil => simp
  | cons entry entries ih =>
      rw [List.forall_mem_cons] at h
      have hone := ((tails_rtake bound all).append_eq_iff entry).mpr (.inl h.1)
      have hrest := @ih (all ++ [entry]) h.2
      rw [← hone, List.append_assoc, List.singleton_append] at hrest
      exact hrest

/-- Such a tail, with what tells whether it is the newest entries. -/
structure Follows (trims : ρ → Bool) (bound : Nat) (log all : List ρ) : Prop
    extends Tails bound log all where
  newest_iff : log = all.rtake bound ↔
    all.length ≤ bound ∨ ∀ entry ∈ all.getLast?, trims entry = true

theorem follows_nil (trims : ρ → Bool) (bound : Nat) : Follows trims bound [] [] where
  suffix := List.suffix_rfl
  long := by simp
  newest_iff := by simp

theorem Follows.append (h : Follows trims bound log all) (entry : ρ) :
    Follows trims bound (append trims bound log entry) (all ++ [entry]) where
  toTails := h.toTails.append entry
  newest_iff := by
    have hlast : (∀ e ∈ (all ++ [entry]).getLast?, trims e = true) ↔ trims entry = true := by
      rw [List.getLast?_concat]
      constructor
      · intro htrims
        exact htrims entry rfl
      · intro htrims e he
        cases he
        exact htrims
    rw [h.append_eq_iff, hlast, or_comm, List.length_append, List.length_singleton,
      Nat.lt_iff_add_one_le]

theorem Follows.appendAll (h : Follows trims bound log all) (entries : List ρ) :
    Follows trims bound (appendAll trims bound log entries) (all ++ entries) := by
  induction entries generalizing log all with
  | nil => simpa using h
  | cons entry entries ih =>
      have hone : Follows trims bound (BoundedLog.append trims bound log entry) (all ++ [entry]) :=
        h.append entry
      have hrest := ih hone
      rwa [List.append_assoc, List.singleton_append] at hrest

end BoundedLog

end Lib
