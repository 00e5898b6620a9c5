import Mathlib.Order.Lattice
import Mathlib.Data.List.Basic
import Mathlib.Tactic.Common

/-!
# Reservations of one resource

A resource that serves one request at a time is booked for intervals. Each booking starts no
earlier than the time up to which the resource is busy and makes it busy up to its finish. So
the intervals follow one another in the order of the bookings.
-/

namespace Lib

universe u

structure Reservation (τ : Type u) where
  start : τ
  finish : τ
deriving Repr, DecidableEq

variable {τ : Type u} [LinearOrder τ] {busy busy' : τ} {granted : List (Reservation τ)}
  {r : Reservation τ}

/-- Intervals one after the other, none of them past `busy`. -/
structure Booked (busy : τ) (granted : List (Reservation τ)) : Prop where
  ordered : granted.Pairwise fun a b => a.finish ≤ b.start
  forward : ∀ r ∈ granted, r.start ≤ r.finish
  within : ∀ r ∈ granted, r.finish ≤ busy

theorem Booked.nil : Booked busy ([] : List (Reservation τ)) :=
  ⟨List.Pairwise.nil, by simp, by simp⟩

theorem Booked.mono (h : Booked busy granted) (hle : busy ≤ busy') : Booked busy' granted :=
  ⟨h.ordered, h.forward, fun r hr => (h.within r hr).trans hle⟩

theorem Booked.concat (h : Booked busy granted) (hstart : busy ≤ r.start)
    (hforward : r.start ≤ r.finish) (hwithin : r.finish ≤ busy') :
    Booked busy' (granted ++ [r]) := by
  have hle : busy ≤ busy' := hstart.trans (hforward.trans hwithin)
  constructor
  · rw [List.pairwise_append]
    refine ⟨h.ordered, List.pairwise_singleton _ _, fun a ha b hb => ?_⟩
    rw [List.mem_singleton.mp hb]
    exact (h.within a ha).trans hstart
  · intro a ha
    simp only [List.mem_append, List.mem_singleton] at ha
    cases ha with
    | inl hold => exact h.forward a hold
    | inr hnew => rw [hnew]; exact hforward
  · intro a ha
    simp only [List.mem_append, List.mem_singleton] at ha
    cases ha with
    | inl hold => exact (h.within a hold).trans hle
    | inr hnew => rw [hnew]; exact hwithin

end Lib
