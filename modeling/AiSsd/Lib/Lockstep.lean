import Mathlib.Tactic.Common

/-!
# Calls that may raise

A call answers or raises and leaves a state either way. `andThen` puts two calls in sequence
and `forEach` is `for i in items: x = call(i, x)`; an exception ends both. Calls run in lockstep
along a relation of states when they answer alike and leave related states, and sequences and
loops of such calls do too.
-/

namespace Lib

universe u v w x y z

variable {ε : Type u} {ι : Type v} {β : Type w} {γ : Type z} {σ : Type x} {τ : Type y}

def andThen (r : Except ε β × σ) (next : β → σ → Except ε γ × σ) : Except ε γ × σ :=
  match r with
  | (.error err, s) => (.error err, s)
  | (.ok x, s) => next x s

def forEach (body : ι → β → σ → Except ε β × σ) : List ι → β → σ → Except ε β × σ
  | [], x, s => (.ok x, s)
  | i :: items, x, s => andThen (body i x s) (forEach body items)

section One

variable {body : ι → β → σ → Except ε β × σ}

@[simp] theorem andThen_ok (x : β) (s : σ) (next : β → σ → Except ε γ × σ) :
    andThen (.ok x, s) next = next x s := rfl

@[simp] theorem andThen_error (err : ε) (s : σ) (next : β → σ → Except ε γ × σ) :
    andThen (.error err, s) next = (.error err, s) := rfl

@[simp] theorem forEach_nil (x : β) (s : σ) : forEach body [] x s = (.ok x, s) := rfl

@[simp] theorem forEach_cons (i : ι) (items : List ι) (x : β) (s : σ) :
    forEach body (i :: items) x s = andThen (body i x s) (forEach body items) := rfl

/-- Under an invariant that gives every pass an answer, the loop has one. -/
theorem forEach_ok {I : β → σ → Prop} {items : List ι}
    (hbody : ∀ i ∈ items, ∀ x s, I x s → ∃ x' s', body i x s = (.ok x', s') ∧ I x' s')
    {x : β} {s : σ} (h : I x s) : ∃ x' s', forEach body items x s = (.ok x', s') ∧ I x' s' := by
  induction items generalizing x s with
  | nil => exact ⟨x, s, rfl, h⟩
  | cons i items ih =>
      rw [List.forall_mem_cons] at hbody
      obtain ⟨x', s', hcall, hnext⟩ := hbody.1 x s h
      rw [forEach_cons, hcall]
      exact ih hbody.2 hnext

/-- The same over consecutive numbers, with an invariant for every number. -/
theorem forEach_range'_ok {body : Nat → β → σ → Except ε β × σ} {I : Nat → β → σ → Prop}
    {start count : Nat}
    (hbody : ∀ i, start ≤ i → i < start + count → ∀ x s, I i x s →
      ∃ x' s', body i x s = (.ok x', s') ∧ I (i + 1) x' s')
    {x : β} {s : σ} (h : I start x s) :
    ∃ x' s', forEach body (List.range' start count) x s = (.ok x', s') ∧
      I (start + count) x' s' := by
  induction count generalizing start x s with
  | zero => exact ⟨x, s, rfl, h⟩
  | succ count ih =>
      obtain ⟨x', s', hcall, hnext⟩ := hbody start (Nat.le_refl start) (by omega) x s h
      have hrest := ih (fun i hi hlt => hbody i (by omega) (by omega)) hnext
      rw [show start + 1 + count = start + (count + 1) by omega] at hrest
      rw [List.range'_succ, forEach_cons, hcall]
      exact hrest

end One

/-! ## Lockstep -/

/-- From states that `R` relates, both answer alike and leave states that `R` relates. -/
def Lockstep (R : σ → τ → Prop) (f : σ → Except ε β × σ) (g : τ → Except ε β × τ) : Prop :=
  ∀ s t, R s t → (f s).1 = (g t).1 ∧ R (f s).2 (g t).2

namespace Lockstep

variable {R : σ → τ → Prop}

theorem answer (r : Except ε β) : Lockstep R (fun s => (r, s)) fun t => (r, t) :=
  fun _ _ h => ⟨rfl, h⟩

theorem andThen {f : σ → Except ε β × σ} {g : τ → Except ε β × τ}
    {next : β → σ → Except ε γ × σ} {next' : β → τ → Except ε γ × τ} (h : Lockstep R f g)
    (hnext : ∀ x, Lockstep R (next x) (next' x)) :
    Lockstep R (fun s => Lib.andThen (f s) next) fun t => Lib.andThen (g t) next' := by
  intro s t hst
  obtain ⟨hout, hrel⟩ := h s t hst
  dsimp only
  revert hout hrel
  rcases f s with ⟨_ | x, s'⟩ <;> rcases g t with ⟨_ | y, t'⟩ <;> rintro ⟨⟩ hrel
  · exact ⟨rfl, hrel⟩
  · exact hnext x s' t' hrel

theorem forEach {body : ι → β → σ → Except ε β × σ} {body' : ι → β → τ → Except ε β × τ}
    {items : List ι} (h : ∀ i ∈ items, ∀ x, Lockstep R (body i x) (body' i x)) (x : β) :
    Lockstep R (Lib.forEach body items x) (Lib.forEach body' items x) := by
  induction items generalizing x with
  | nil => exact answer (.ok x)
  | cons i items ih =>
      rw [List.forall_mem_cons] at h
      exact (h.1 x).andThen fun y => ih h.2 y

end Lockstep

/-! ## Lockstep from stage to stage -/

/-- From states that `R` relates, both answer alike, and an answer leaves states that `R'`
relates. -/
def LockstepTo (R R' : σ → τ → Prop) (f : σ → Except ε β × σ) (g : τ → Except ε β × τ) : Prop :=
  ∀ s t, R s t → (f s).1 = (g t).1 ∧ ∀ x, (f s).1 = .ok x → R' (f s).2 (g t).2

namespace LockstepTo

variable {R R' R'' : σ → τ → Prop}

theorem answer (r : Except ε β) : LockstepTo R R (fun s => (r, s)) fun t => (r, t) :=
  fun _ _ h => ⟨rfl, fun _ _ => h⟩

theorem andThen {f : σ → Except ε β × σ} {g : τ → Except ε β × τ}
    {next : β → σ → Except ε γ × σ} {next' : β → τ → Except ε γ × τ} (h : LockstepTo R R' f g)
    (hnext : ∀ x, LockstepTo R' R'' (next x) (next' x)) :
    LockstepTo R R'' (fun s => Lib.andThen (f s) next) fun t => Lib.andThen (g t) next' := by
  intro s t hst
  obtain ⟨hout, hrel⟩ := h s t hst
  dsimp only
  revert hout hrel
  rcases f s with ⟨_ | x, s'⟩ <;> rcases g t with ⟨_ | y, t'⟩ <;> rintro ⟨⟩ hrel
  · exact ⟨rfl, fun x hx => by cases hx⟩
  · exact hnext x s' t' (hrel x rfl)

/-- A loop over consecutive numbers, with a relation for every number. -/
theorem forEach_range' {R : Nat → σ → τ → Prop} {body : Nat → β → σ → Except ε β × σ}
    {body' : Nat → β → τ → Except ε β × τ} {start count : Nat}
    (h : ∀ i, start ≤ i → i < start + count → ∀ x,
      LockstepTo (R i) (R (i + 1)) (body i x) (body' i x)) (x : β) :
    LockstepTo (R start) (R (start + count)) (Lib.forEach body (List.range' start count) x)
      (Lib.forEach body' (List.range' start count) x) := by
  induction count generalizing start x with
  | zero => exact answer (.ok x)
  | succ count ih =>
      have hrest := fun y => ih (fun i (hi : start + 1 ≤ i) hlt => h i (by omega) (by omega)) y
      rw [show start + 1 + count = start + (count + 1) by omega] at hrest
      exact (h start (Nat.le_refl start) (by omega) x).andThen hrest

end LockstepTo

end Lib
