import Mathlib.Tactic.Common

/-!
# Deterministic machines and their runs

A machine answers every input with an output and a next state. `exec` is the
state after a list of inputs and `trace` the outputs on the way. The rules below
carry a step fact to whole runs: an invariant, an invariant under a side
condition on each step, and the exact condition for a property to hold throughout.
-/

namespace Lib

universe u v w x

structure Machine (σ : Type u) (ι : Type v) (ο : Type w) where
  step : σ → ι → ο × σ

namespace Machine

variable {σ : Type u} {τ : Type x} {ι : Type v} {ο : Type w}

def exec (m : Machine σ ι ο) : σ → List ι → σ
  | s, [] => s
  | s, i :: is => exec m (m.step s i).2 is

def trace (m : Machine σ ι ο) : σ → List ι → List ο
  | _, [] => []
  | s, i :: is => (m.step s i).1 :: trace m (m.step s i).2 is

@[simp] theorem exec_nil (m : Machine σ ι ο) (s : σ) : m.exec s [] = s := rfl

@[simp] theorem exec_cons (m : Machine σ ι ο) (s : σ) (i : ι) (is : List ι) :
    m.exec s (i :: is) = m.exec (m.step s i).2 is := rfl

theorem exec_append (m : Machine σ ι ο) (s : σ) (is js : List ι) :
    m.exec s (is ++ js) = m.exec (m.exec s is) js := by
  induction is generalizing s with
  | nil => rfl
  | cons i is ih => exact ih (m.step s i).2

theorem exec_concat (m : Machine σ ι ο) (s : σ) (is : List ι) (i : ι) :
    m.exec s (is ++ [i]) = (m.step (m.exec s is) i).2 := by
  rw [exec_append]
  rfl

theorem exec_invariant (m : Machine σ ι ο) {I : σ → Prop}
    (hstep : ∀ s i, I s → I (m.step s i).2) (s : σ) (is : List ι) (hs : I s) :
    I (m.exec s is) := by
  induction is generalizing s with
  | nil => exact hs
  | cons i is ih => exact ih (m.step s i).2 (hstep s i hs)

/-- A history variable: what `f` makes of every input, the state it meets and its output. -/
def history (m : Machine σ ι ο) (f : τ → σ → ι → ο → τ) : σ → τ → List ι → τ
  | _, t, [] => t
  | s, t, i :: is => history m f (m.step s i).2 (f t s i (m.step s i).1) is

theorem history_invariant (m : Machine σ ι ο) {f : τ → σ → ι → ο → τ} {I : σ → τ → Prop}
    (hstep : ∀ s t i, I s t → I (m.step s i).2 (f t s i (m.step s i).1)) (s : σ) (t : τ)
    (is : List ι) (hs : I s t) : I (m.exec s is) (m.history f s t is) := by
  induction is generalizing s t with
  | nil => exact hs
  | cons i is ih => exact ih (m.step s i).2 _ (hstep s t i hs)

/-- Every step of the run meets `P` in the state it starts from. -/
def Meets (m : Machine σ ι ο) (P : σ → ι → Prop) : σ → List ι → Prop
  | _, [] => True
  | s, i :: is => P s i ∧ Meets m P (m.step s i).2 is

theorem exec_invariant_of_meets (m : Machine σ ι ο) {I : σ → Prop} {P : σ → ι → Prop}
    (hstep : ∀ s i, I s → P s i → I (m.step s i).2) (s : σ) (is : List ι)
    (hs : I s) (hp : m.Meets P s is) : I (m.exec s is) := by
  induction is generalizing s with
  | nil => exact hs
  | cons i is ih => exact ih (m.step s i).2 (hstep s i hs hp.1) hp.2

theorem history_invariant_of_meets (m : Machine σ ι ο) {f : τ → σ → ι → ο → τ}
    {I : σ → τ → Prop} {P : σ → ι → Prop}
    (hstep : ∀ s t i, I s t → P s i → I (m.step s i).2 (f t s i (m.step s i).1))
    (s : σ) (t : τ) (is : List ι) (hs : I s t) (hp : m.Meets P s is) :
    I (m.exec s is) (m.history f s t is) := by
  induction is generalizing s t with
  | nil => exact hs
  | cons i is ih => exact ih (m.step s i).2 _ (hstep s t i hs hp.1) hp.2

theorem forall_prefix_cons (C : List ι → Prop) (i : ι) (is : List ι) :
    (∀ pre, pre <+: i :: is → C pre) ↔ C [] ∧ ∀ pre, pre <+: is → C (i :: pre) := by
  constructor
  · intro h
    exact ⟨h [] List.nil_prefix, fun pre hpre => h (i :: pre) (List.cons_prefix_cons.mpr ⟨rfl, hpre⟩)⟩
  · rintro ⟨hnil, hcons⟩ pre hpre
    rcases List.prefix_cons_iff.mp hpre with rfl | ⟨rest, rfl, hrest⟩
    · exact hnil
    · exact hcons rest hrest

theorem meets_iff_forall (m : Machine σ ι ο) (P : σ → ι → Prop) (s : σ) (is : List ι) :
    m.Meets P s is ↔ ∀ pre i, pre ++ [i] <+: is → P (m.exec s pre) i := by
  induction is generalizing s with
  | nil => simp [Meets]
  | cons i is ih =>
      rw [Meets, ih]
      constructor
      · rintro ⟨hp, hrest⟩ pre j hpre
        cases pre with
        | nil =>
            obtain ⟨rfl, -⟩ := List.cons_prefix_cons.mp hpre
            exact hp
        | cons k pre =>
            obtain ⟨rfl, htail⟩ := List.cons_prefix_cons.mp hpre
            simpa using hrest pre j htail
      · intro h
        exact ⟨h [] i (List.cons_prefix_cons.mpr ⟨rfl, List.nil_prefix⟩),
          fun pre j hpre => h (i :: pre) j (List.cons_prefix_cons.mpr ⟨rfl, hpre⟩)⟩

theorem meets_concat (m : Machine σ ι ο) {P : σ → ι → Prop} {s : σ} {is : List ι} {i : ι} :
    m.Meets P s (is ++ [i]) ↔ m.Meets P s is ∧ P (m.exec s is) i := by
  induction is generalizing s with
  | nil => simp [Meets]
  | cons j is ih => rw [List.cons_append, Meets, Meets, ih, exec_cons, and_assoc]

theorem meets_congr (m : Machine σ ι ο) {P Q : σ → ι → Prop} (h : ∀ s i, P s i ↔ Q s i)
    (s : σ) (is : List ι) : m.Meets P s is ↔ m.Meets Q s is := by
  induction is generalizing s with
  | nil => rfl
  | cons i is ih => rw [Meets, Meets, h, ih]

theorem meets_of_forall_mem (m : Machine σ ι ο) {P : ι → Prop} (s : σ) {is : List ι}
    (h : ∀ i ∈ is, P i) : m.Meets (fun _ => P) s is := by
  induction is generalizing s with
  | nil => trivial
  | cons i is ih =>
      rw [List.forall_mem_cons] at h
      exact ⟨h.1, ih (m.step s i).2 h.2⟩

/-- A condition that an invariant gives is met by every step. -/
theorem meets_of_invariant (m : Machine σ ι ο) {I : σ → Prop} {P : σ → ι → Prop}
    (hstep : ∀ s i, I s → I (m.step s i).2) (hgives : ∀ s i, I s → P s i)
    (s : σ) (is : List ι) (hs : I s) : m.Meets P s is := by
  induction is generalizing s with
  | nil => trivial
  | cons i is ih => exact ⟨hgives s i hs, ih (m.step s i).2 (hstep s i hs)⟩

/-- Under an invariant that steps meeting `P` keep, a run that meets `P` meets what `P` gives. -/
theorem Meets.gives (m : Machine σ ι ο) {I : σ → Prop} {P Q : σ → ι → Prop}
    (hstep : ∀ s i, I s → P s i → I (m.step s i).2) (hgives : ∀ s i, I s → P s i → Q s i)
    (s : σ) (is : List ι) (hs : I s) (hp : m.Meets P s is) : m.Meets Q s is := by
  induction is generalizing s with
  | nil => trivial
  | cons i is ih =>
      exact ⟨hgives s i hs hp.1, ih (m.step s i).2 (hstep s i hs hp.1) hp.2⟩

theorem meets_and (m : Machine σ ι ο) (P Q : σ → ι → Prop) (s : σ) (is : List ι) :
    m.Meets (fun s i => P s i ∧ Q s i) s is ↔ m.Meets P s is ∧ m.Meets Q s is := by
  induction is generalizing s with
  | nil => simp [Meets]
  | cons i is ih =>
      rw [Meets, Meets, Meets, ih, and_and_and_comm]

/-- An invariant that gives `C` and that a step keeps under `P`, where `C` after a step
gives `P` before it: `C` holds in every state of a run exactly when every step meets `P`. -/
theorem forall_prefix_iff_meets (m : Machine σ ι ο) {I C : σ → Prop} {P : σ → ι → Prop}
    (hgives : ∀ s, I s → C s) (hstep : ∀ s i, I s → P s i → I (m.step s i).2)
    (hneeds : ∀ s i, I s → C (m.step s i).2 → P s i) (s : σ) (is : List ι) (hs : I s) :
    (∀ pre, pre <+: is → C (m.exec s pre)) ↔ m.Meets P s is := by
  induction is generalizing s with
  | nil =>
      simp only [List.prefix_nil, forall_eq, exec_nil, Meets, iff_true]
      exact hgives s hs
  | cons i is ih =>
      rw [forall_prefix_cons]
      simp only [exec_nil, exec_cons, Meets]
      constructor
      · rintro ⟨_, hrest⟩
        have hp := hneeds s i hs (hrest [] List.nil_prefix)
        exact ⟨hp, (ih (m.step s i).2 (hstep s i hs hp)).mp hrest⟩
      · rintro ⟨hp, hmeets⟩
        exact ⟨hgives s hs, (ih (m.step s i).2 (hstep s i hs hp)).mpr hmeets⟩

/-- A property of the state and the history that a step keeps exactly when it meets `P`: it holds
throughout a run exactly when every step meets `P`. -/
theorem history_prefix_iff_meets (m : Machine σ ι ο) {f : τ → σ → ι → ο → τ} {C : σ → τ → Prop}
    {P : σ → ι → Prop}
    (hstep : ∀ s t i, C s t → (C (m.step s i).2 (f t s i (m.step s i).1) ↔ P s i))
    (s : σ) (t : τ) (is : List ι) (hs : C s t) :
    (∀ pre, pre <+: is → C (m.exec s pre) (m.history f s t pre)) ↔ m.Meets P s is := by
  induction is generalizing s t with
  | nil =>
      simp only [List.prefix_nil, forall_eq, exec_nil, history, Meets, iff_true]
      exact hs
  | cons i is ih =>
      rw [forall_prefix_cons]
      simp only [exec_nil, exec_cons, history, Meets]
      constructor
      · rintro ⟨_, hrest⟩
        have hnext := hrest [] List.nil_prefix
        exact ⟨(hstep s t i hs).mp hnext, (ih _ _ hnext).mp hrest⟩
      · rintro ⟨hp, hmeets⟩
        exact ⟨hs, (ih _ _ ((hstep s t i hs).mpr hp)).mpr hmeets⟩

/-- From both states every run is answered alike, and the states it ends in look alike. -/
def BehavesAs (m : Machine σ ι ο) (view : σ → τ) (s s' : σ) : Prop :=
  ∀ is, m.trace s is = m.trace s' is ∧ view (m.exec s is) = view (m.exec s' is)

theorem BehavesAs.refl (m : Machine σ ι ο) (view : σ → τ) (s : σ) : m.BehavesAs view s s :=
  fun _ => ⟨rfl, rfl⟩

theorem BehavesAs.answer {m : Machine σ ι ο} {view : σ → τ} {s s' : σ}
    (h : m.BehavesAs view s s') (i : ι) : (m.step s i).1 = (m.step s' i).1 :=
  List.head_eq_of_cons_eq (h [i]).1

theorem exec_eq_self (m : Machine σ ι ο) {s : σ} {is : List ι}
    (h : ∀ i ∈ is, (m.step s i).2 = s) : m.exec s is = s := by
  induction is with
  | nil => rfl
  | cons i is ih =>
      rw [List.forall_mem_cons] at h
      rw [exec_cons, h.1]
      exact ih h.2

end Machine

end Lib
