import AiSsd.Lib.Machine

/-!
# Simulation up to a limit

A call simulates another along a relation of states when the two answer alike and leave related
states. Where the other call ends past a limit, nothing is asked of the first. As long as calls
stay past the limit once they are, whole runs simulate as their steps do.
-/

namespace Lib

universe u v w x y

variable {ε : Type u} {β : Type v} {γ : Type w} {σ : Type x} {τ : Type y}

/-- The same value, or exceptions that `E` relates. -/
inductive Agree (E : ε → ε → Prop) : Except ε β → Except ε β → Prop
  | ok (x : β) : Agree E (.ok x) (.ok x)
  | error {err err' : ε} (h : E err err') : Agree E (.error err) (.error err')

theorem Agree.refl {E : ε → ε → Prop} (hE : ∀ err, E err err) (r : Except ε β) : Agree E r r := by
  cases r with
  | error err => exact .error (hE err)
  | ok x => exact .ok x

theorem Agree.map {E : ε → ε → Prop} {r r' : Except ε β} (h : Agree E r r') (f : β → γ) :
    Agree E (r.map f) (r'.map f) := by
  cases h with
  | ok x => exact .ok (f x)
  | error herr => exact .error herr

inductive BothReturn (A : β → γ → Prop) : Except ε β → Except ε γ → Prop
  | ok {x : β} {y : γ} (h : A x y) : BothReturn A (.ok x) (.ok y)

def Simulates (R : σ → τ → Prop) (A : β → γ → Prop) (Past : τ → Prop) (f : σ → β × σ)
    (g : τ → γ × τ) : Prop :=
  ∀ s t, R s t → Past (g t).2 ∨ A (f s).1 (g t).1 ∧ R (f s).2 (g t).2

def StaysPast (Past : τ → Prop) (g : τ → γ × τ) : Prop := ∀ t, Past t → Past (g t).2

namespace Machine

variable {ι ο ο' : Type*} {m : Machine σ ι ο} {m' : Machine τ ι ο'} {R : σ → τ → Prop}
  {A : ο → ο' → Prop} {Past : τ → Prop}

theorem staysPast_exec (hpast : ∀ i, StaysPast Past fun t => m'.step t i) {t : τ} (h : Past t)
    (is : List ι) : Past (m'.exec t is) :=
  m'.exec_invariant (fun t i => hpast i t) t is h

theorem simulates_run {is : List ι}
    (hstep : ∀ i ∈ is, Simulates R A Past (fun s => m.step s i) fun t => m'.step t i)
    (hpast : ∀ i, StaysPast Past fun t => m'.step t i) {s : σ} {t : τ} (h : R s t) :
    Past (m'.exec t is) ∨
      List.Forall₂ A (m.trace s is) (m'.trace t is) ∧ R (m.exec s is) (m'.exec t is) := by
  induction is generalizing s t with
  | nil => exact .inr ⟨.nil, h⟩
  | cons i is ih =>
      rw [List.forall_mem_cons] at hstep
      rcases hstep.1 s t h with hlimit | ⟨hanswer, hrel⟩
      · exact .inl (staysPast_exec hpast hlimit is)
      · rcases ih hstep.2 hrel with hlimit | ⟨htrace, hexec⟩
        · exact .inl hlimit
        · exact .inr ⟨.cons hanswer htrace, hexec⟩

end Machine

end Lib
