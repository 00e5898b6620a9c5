import Mathlib.Tactic.Common

/-!
# Exceptions

What an operation of the Python code can raise, with its message where the code
itself builds one. An operation is a function to `Except PyErr` paired with the
state it leaves behind, so that a raise keeps what was already changed.
-/

namespace AiSsd

inductive PyErr where
  | valueError (message : String)
  | keyError (message : String)
  | indexError
  | attributeError
  | zeroDivisionError
  | runtimeError
  | runtimeErrorOf (message : String)
  | notImplementedError (message : String)
  | unboundLocalError
  | stopIteration
  | structError
  | ioError (message : String)
  | connectionResetError (message : String)
  | timeoutError
  | overflowError
  | typeError
  | assertionError (message : String)
  | traceValidationError (message : String)
deriving Repr, DecidableEq

/-! ## Indexing -/

/-- `xs[i]`; a negative index counts from the end. -/
def pyIndex {β : Type*} (xs : List β) (i : Int) : Except PyErr β :=
  match xs[(if i < 0 then i + xs.length else i).toNat]? with
  | some x => if i < -xs.length then .error .indexError else .ok x
  | none => .error .indexError

theorem pyIndex_natCast {β : Type*} {xs : List β} {i : Nat} (hi : i < xs.length) :
    pyIndex xs (i : Int) = .ok xs[i] := by
  have hnonneg : ¬ (i : Int) < 0 := by omega
  have hbound : ¬ (i : Int) < -xs.length := by omega
  simp [pyIndex, hnonneg, hi, hbound]

theorem pyIndex_neg_one {β : Type*} {xs : List β} {i : Nat} (hi : i + 1 = xs.length) :
    pyIndex xs (-1) = pyIndex xs (i : Int) := by
  have hindex : (-1 + (xs.length : Int)).toNat = i := by omega
  have hlt : i < xs.length := by omega
  have hbound : ¬ (-1 : Int) < -xs.length := by omega
  rw [pyIndex_natCast hlt]
  unfold pyIndex
  rw [if_pos (by decide), hindex, List.getElem?_eq_getElem hlt]
  simp [hbound]

theorem mem_of_pyIndex {β : Type*} {xs : List β} {i : Int} {x : β} (h : pyIndex xs i = .ok x) :
    x ∈ xs := by
  unfold pyIndex at h
  split at h
  · rename_i hget
    split at h
    · cases h
    · cases h
      exact List.mem_of_getElem? hget
  · cases h

/-! ## Comprehensions -/

theorem bind_eq_ok {α : Type} {β : Type} {x : Except PyErr α} {f : α → Except PyErr β} {b : β} :
    (x >>= f) = .ok b ↔ ∃ a, x = .ok a ∧ f a = .ok b := by
  cases x <;> simp [bind, Except.bind]

theorem mapM_ok {ε : Type*} {α : Type*} {β : Type*} {f : α → Except ε β} {g : α → β}
    {xs : List α} (h : ∀ x ∈ xs, f x = .ok (g x)) : xs.mapM f = .ok (xs.map g) := by
  induction xs with
  | nil => rfl
  | cons x xs ih =>
      have hx := h x List.mem_cons_self
      have hxs := ih fun y hy => h y (List.mem_cons_of_mem x hy)
      rw [List.mapM_cons, hx, hxs]
      rfl

theorem mapM_congr {ε : Type*} {α : Type*} {β : Type*} {f g : α → Except ε β} {xs : List α}
    (h : ∀ x ∈ xs, f x = g x) : xs.mapM f = xs.mapM g := by
  induction xs with
  | nil => rfl
  | cons x xs ih =>
      rw [List.mapM_cons, List.mapM_cons, h x List.mem_cons_self,
        ih fun y hy => h y (List.mem_cons_of_mem x hy)]

/-- What a comprehension that returned was made of, element by element. -/
theorem mapM_eq_ok {ε : Type*} {α : Type*} {β : Type*} {f : α → Except ε β} {xs : List α}
    {ys : List β} (h : xs.mapM f = .ok ys) : List.Forall₂ (fun x y => f x = .ok y) xs ys := by
  induction xs generalizing ys with
  | nil =>
      cases h
      exact .nil
  | cons x xs ih =>
      rw [List.mapM_cons] at h
      cases hx : f x with
      | error err =>
          rw [hx] at h
          cases h
      | ok y =>
          cases hxs : xs.mapM f with
          | error err =>
              rw [hx, hxs] at h
              cases h
          | ok zs =>
              rw [hx, hxs] at h
              cases h
              exact .cons hx (ih hxs)

theorem mapM_eq_ok_iff {ε : Type*} {α : Type*} {β : Type*} {f : α → Except ε β} {xs : List α}
    {ys : List β} : xs.mapM f = .ok ys ↔ List.Forall₂ (fun x y => f x = .ok y) xs ys := by
  refine ⟨mapM_eq_ok, fun h => ?_⟩
  induction h with
  | nil => rfl
  | cons hx _ ih =>
      rw [List.mapM_cons, hx, ih]
      rfl

universe u in
/-- A comprehension over the results of another one, next to what they came from. -/
theorem mapM_zip_eq_ok {ε : Type*} {α β γ : Type u} {f : α → Except ε β} {g : β × α → Except ε γ}
    {xs : List α} {zs : List γ} :
    (∃ ys, xs.mapM f = .ok ys ∧ (ys.zip xs).mapM g = .ok zs) ↔
      (xs.mapM fun x => (f x).bind fun y => g (y, x)) = .ok zs := by
  simp only [mapM_eq_ok_iff]
  induction xs generalizing zs with
  | nil =>
      constructor
      · rintro ⟨ys, -, hzs⟩
        rw [List.zip_nil_right] at hzs
        cases hzs
        exact .nil
      · intro h
        cases h
        exact ⟨[], .nil, .nil⟩
  | cons x xs ih =>
      constructor
      · rintro ⟨ys, hys, hzs⟩
        cases hys with
        | cons hy hys =>
            rw [List.zip_cons_cons] at hzs
            cases hzs with
            | cons hz hzs =>
                refine .cons ?_ (ih.mp ⟨_, hys, hzs⟩)
                rw [hy]
                exact hz
      · intro h
        cases h with
        | cons hx hxs =>
            obtain ⟨ys, hys, hzs⟩ := ih.mpr hxs
            cases hy : f x with
            | error err =>
                rw [hy] at hx
                cases hx
            | ok y =>
                rw [hy] at hx
                exact ⟨y :: ys, .cons hy hys, .cons hx hzs⟩

/-- The results of a comprehension that returned are those of its calls. -/
theorem mem_mapM_eq_ok {ε : Type*} {α : Type*} {β : Type*} {f : α → Except ε β} {xs : List α}
    {ys : List β} (h : xs.mapM f = .ok ys) :
    (∀ x ∈ xs, ∃ y ∈ ys, f x = .ok y) ∧ ∀ y ∈ ys, ∃ x ∈ xs, f x = .ok y := by
  have hcalls := mapM_eq_ok h
  clear h
  induction hcalls with
  | nil => simp
  | cons hx _ ih =>
      refine ⟨List.forall_mem_cons.mpr ⟨⟨_, List.mem_cons_self, hx⟩, fun x hmem => ?_⟩,
        List.forall_mem_cons.mpr ⟨⟨_, List.mem_cons_self, hx⟩, fun y hmem => ?_⟩⟩
      · obtain ⟨y, hy, hfx⟩ := ih.1 x hmem
        exact ⟨y, List.mem_cons_of_mem _ hy, hfx⟩
      · obtain ⟨x, hx, hfx⟩ := ih.2 y hmem
        exact ⟨x, List.mem_cons_of_mem _ hx, hfx⟩

theorem ok_of_mapM_eq_ok {ε : Type*} {α : Type*} {β : Type*} {f : α → Except ε β} {xs : List α}
    {ys : List β} (h : xs.mapM f = .ok ys) : ∀ x ∈ xs, ∃ y, f x = .ok y := by
  intro x hx
  obtain ⟨y, -, hy⟩ := (mem_mapM_eq_ok h).1 x hx
  exact ⟨y, hy⟩

/-- What each call gives, the results of a comprehension that returned have in order. -/
theorem map_of_mapM_eq_ok {ε : Type*} {α : Type*} {β : Type*} {γ : Type*} {f : α → Except ε β}
    {g : β → γ} {k : α → γ} {P : β → Prop} {xs : List α} {ys : List β} (h : xs.mapM f = .ok ys)
    (hf : ∀ x ∈ xs, ∀ y, f x = .ok y → g y = k x ∧ P y) :
    ys.map g = xs.map k ∧ ∀ y ∈ ys, P y := by
  have hcalls := mapM_eq_ok h
  clear h
  induction hcalls with
  | nil => simp
  | cons hx _ ih =>
      rw [List.forall_mem_cons] at hf
      have hhead := hf.1 _ hx
      have htail := ih hf.2
      exact ⟨by rw [List.map_cons, List.map_cons, hhead.1, htail.1],
        List.forall_mem_cons.mpr ⟨hhead.2, htail.2⟩⟩

/-- A comprehension whose calls all return something related to their argument. -/
theorem exists_mapM_eq_ok {ε : Type*} {α : Type*} {β : Type*} {f : α → Except ε β}
    {P : α → β → Prop} {xs : List α} (h : ∀ x ∈ xs, ∃ y, f x = .ok y ∧ P x y) :
    ∃ ys, xs.mapM f = .ok ys ∧ List.Forall₂ P xs ys := by
  induction xs with
  | nil => exact ⟨[], rfl, .nil⟩
  | cons x xs ih =>
      rw [List.forall_mem_cons] at h
      obtain ⟨y, hy, hrelated⟩ := h.1
      obtain ⟨ys, hys, hrest⟩ := ih h.2
      refine ⟨y :: ys, ?_, .cons hrelated hrest⟩
      rw [List.mapM_cons, hy, hys]
      rfl

/-- A comprehension whose calls all return, when only the length of the result matters. -/
theorem mapM_ok_length {ε : Type*} {α : Type*} {β : Type*} {f : α → Except ε β} {xs : List α}
    (h : ∀ x ∈ xs, ∃ y, f x = .ok y) : ∃ ys, xs.mapM f = .ok ys ∧ ys.length = xs.length := by
  induction xs with
  | nil => exact ⟨[], rfl, rfl⟩
  | cons x xs ih =>
      obtain ⟨y, hy⟩ := h x List.mem_cons_self
      obtain ⟨ys, hys, hlen⟩ := ih fun z hz => h z (List.mem_cons_of_mem x hz)
      refine ⟨y :: ys, ?_, by rw [List.length_cons, List.length_cons, hlen]⟩
      rw [List.mapM_cons, hy, hys]
      rfl

end AiSsd
