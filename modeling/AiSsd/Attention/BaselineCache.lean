import AiSsd.Attention.Engine
import AiSsd.Lib.Machine

/-!
# The baseline cache

`BaselineKVCache` keeps K and V of every layer in memory: a prefill sets a layer, a decode step
appends to it. Prefills and decode steps of the layers in any order compute, for every layer, the
causal attention over the whole sequence of the layer, one output for each token.
-/

namespace AiSsd.Attention

open Lib

universe u

variable {α : Type u} {heads dim : Nat}

/-- A cache with an entry for each of its layers: K and V, which are set together. -/
structure BaselineKVCache (α : Type u) (heads dim : Nat) where
  currentTokens : Nat
  entries : List (Option (List (Row α heads dim) × List (Row α heads dim)))

namespace BaselineKVCache

/-! ## The source -/

/-- `BaselineKVCache(config)`. -/
def init (layers : Nat) : BaselineKVCache α heads dim := ⟨0, List.replicate layers none⟩

def layers (s : BaselineKVCache α heads dim) : Nat := s.entries.length

def prefill (s : BaselineKVCache α heads dim) (layerId : Nat)
    (kSeq vSeq : List (Row α heads dim)) : Except PyErr Unit × BaselineKVCache α heads dim :=
  if layerId < s.layers then
    (.ok (),
      { currentTokens := if layerId = 0 then kSeq.length else s.currentTokens
        entries := s.entries.set layerId (some (kSeq, vSeq)) })
  else (.error .indexError, s)

/-- The last layer counts the token of a decode step. -/
def appendToken (s : BaselineKVCache α heads dim) (layerId : Nat) (kToken vToken : Row α heads dim) :
    Except PyErr Unit × BaselineKVCache α heads dim :=
  match s.entries[layerId]? with
  | none => (.error .indexError, s)
  | some entry =>
      let kv := entry.getD ([], [])
      (.ok (),
        { currentTokens :=
            if layerId = s.layers - 1 then s.currentTokens + 1 else s.currentTokens
          entries := s.entries.set layerId (some (kv.1 ++ [kToken], kv.2 ++ [vToken])) })

def getKv (s : BaselineKVCache α heads dim) (layerId : Nat) :
    Except PyErr (List (Row α heads dim) × List (Row α heads dim)) :=
  match s.entries[layerId]? with
  | none => .error .indexError
  | some entry => .ok (entry.getD ([], []))

/-- `2 (K+V) * layers * heads * head_dim * current_tokens * elem_bytes`. -/
def getMemoryUsageBytes (s : BaselineKVCache α heads dim) (elemBytes : Nat) : Nat :=
  s.currentTokens * (2 * s.layers * heads * dim * elemBytes)

/-! ## Runs -/

inductive Op (α : Type u) (heads dim : Nat) where
  | prefill (layerId : Nat) (kSeq vSeq : List (Row α heads dim))
  | appendToken (layerId : Nat) (kToken vToken : Row α heads dim)

def step (s : BaselineKVCache α heads dim) :
    Op α heads dim → Except PyErr Unit × BaselineKVCache α heads dim
  | .prefill layerId kSeq vSeq => s.prefill layerId kSeq vSeq
  | .appendToken layerId kToken vToken => s.appendToken layerId kToken vToken

def machine : Machine (BaselineKVCache α heads dim) (Op α heads dim) (Except PyErr Unit) where
  step := step

abbrev Given (α : Type u) (heads dim : Nat) := Nat → List (Row α heads dim) × List (Row α heads dim)

def give (given : Given α heads dim) : Op α heads dim → Given α heads dim
  | .prefill layerId kSeq vSeq => Function.update given layerId (kSeq, vSeq)
  | .appendToken layerId kToken vToken =>
      Function.update given layerId
        ((given layerId).1 ++ [kToken], (given layerId).2 ++ [vToken])

def givenBy (ops : List (Op α heads dim)) : Given α heads dim :=
  ops.foldl give fun _ => ([], [])

structure Keeps (layers : Nat) (s : BaselineKVCache α heads dim) (given : Given α heads dim) :
    Prop where
  layers_eq : s.layers = layers
  entry : ∀ l < layers, (s.entries[l]?).map (fun entry => entry.getD ([], [])) = some (given l)

variable {layers : Nat} {s : BaselineKVCache α heads dim} {given : Given α heads dim}

theorem keeps_init (layers : Nat) :
    Keeps layers (init layers : BaselineKVCache α heads dim) fun _ => ([], []) := by
  refine ⟨List.length_replicate, fun l hl => ?_⟩
  rw [init, List.getElem?_replicate, if_pos hl]
  rfl

theorem Keeps.set (h : Keeps layers s given) {l n : Nat}
    {kv : List (Row α heads dim) × List (Row α heads dim)} :
    Keeps layers ⟨n, s.entries.set l (some kv)⟩ (Function.update given l kv) := by
  refine ⟨by rw [BaselineKVCache.layers, List.length_set]; exact h.layers_eq, fun l' hl' => ?_⟩
  by_cases hsame : l = l'
  · subst hsame
    rw [List.getElem?_set_self (by rw [← BaselineKVCache.layers, h.layers_eq]; exact hl'),
      Function.update_self]
    rfl
  · rw [List.getElem?_set_ne hsame, Function.update_of_ne (Ne.symm hsame)]
    exact h.entry l' hl'

theorem Keeps.step (h : Keeps layers s given) (op : Op α heads dim) :
    Keeps layers (step s op).2 (give given op) := by
  have hout : ∀ {l kv}, ¬ l < layers → Keeps layers s (Function.update given l kv) := by
    intro l kv hl
    refine ⟨h.layers_eq, fun l' hl' => ?_⟩
    rw [Function.update_of_ne (by omega)]
    exact h.entry l' hl'
  cases op with
  | prefill l kSeq vSeq =>
      unfold BaselineKVCache.step prefill give
      dsimp only
      rw [h.layers_eq]
      split
      · exact h.set
      · exact hout ‹_›
  | appendToken l kToken vToken =>
      unfold BaselineKVCache.step appendToken give
      dsimp only
      by_cases hl : l < layers
      · have hentry := h.entry l hl
        obtain ⟨entry, hget, hgiven⟩ := Option.map_eq_some_iff.mp hentry
        rw [hget]
        dsimp only
        rw [hgiven]
        exact h.set
      · rw [List.getElem?_eq_none (by rw [← BaselineKVCache.layers, h.layers_eq]; omega)]
        exact hout hl

theorem keeps_run (layers : Nat) (ops : List (Op α heads dim)) :
    Keeps layers (machine.exec (init layers) ops) (givenBy ops) := by
  induction ops using List.reverseRecOn with
  | nil => exact keeps_init layers
  | append_singleton ops op ih =>
      rw [Machine.exec_concat, givenBy, List.foldl_append]
      exact ih.step op

theorem Keeps.getKv (h : Keeps layers s given) {l : Nat} (hl : l < layers) :
    s.getKv l = .ok (given l) := by
  obtain ⟨entry, hget, hgiven⟩ := Option.map_eq_some_iff.mp (h.entry l hl)
  simp only [BaselineKVCache.getKv, hget, hgiven]

/-! ## Attention over the cache -/

section Attention

variable [Field α] [LinearOrder α] [IsStrictOrderedRing α] {exp : α → α} {scale bound : α}

/-- After any run, the decode step of the newest token of a layer over what is cached gives the
one output that the causal attention over the whole sequence of the layer adds to that over the
sequence before. -/
theorem decode_extends_causal (ops : List (Op α heads dim)) {l : Nat} (hl : l < layers)
    {tokens : List (QkvToken α heads dim)} {t : QkvToken α heads dim}
    (hgiven : givenBy ops l =
      ((tokens ++ [t]).map QkvToken.k, (tokens ++ [t]).map QkvToken.v))
    (hmask : AttentionEngine.MaskHides exp scale bound (tokens ++ [t])) :
    ∃ k v out weights, (machine.exec (init layers) ops).getKv l = .ok (k, v) ∧
      AttentionEngine.computeDecodeStep exp scale t.q k v = .ok (out, weights) ∧
      (AttentionEngine.computeFullAttention exp scale true (tokens ++ [t])).map Prod.fst =
        (AttentionEngine.computeFullAttention exp scale true tokens).map Prod.fst ++ [out] ∧
      ((AttentionEngine.computeFullAttention exp scale true (tokens ++ [t])).map Prod.snd)[
        tokens.length]? = some weights := by
  have hkv := (keeps_run layers ops).getKv hl
  rw [hgiven] at hkv
  have hrow := AttentionEngine.causal_row tokens [] t hmask
  refine ⟨_, _, _, _, hkv, AttentionEngine.computeDecodeStep_eq t (by simp),
    AttentionEngine.causal_concat hmask, ?_⟩
  rw [List.getElem?_map, hrow, Option.map_some]
  simp only [List.length_nil, List.replicate_zero, List.append_nil]
  rfl

end Attention

/-! ## Two tokens -/

section Instances

/-- The exponential of single precision, which is zero from -104 down. -/
noncomputable def underflowingExp (x : ℝ) : ℝ := if x ≤ -104 then 0 else Real.exp x

def oneToken (k v : ℝ) : QkvToken ℝ 1 1 := ⟨fun _ _ => 1, fun _ _ => k, fun _ _ => v⟩

theorem maskHides_two :
    AttentionEngine.MaskHides underflowingExp 1 104 ([oneToken 0 5] ++ [oneToken 1 7]) where
  bound_nonneg := by norm_num
  underflow := fun x hx => if_pos hx
  spread := by
    intro s hs t ht u hu h
    simp only [List.singleton_append, List.mem_cons, List.not_mem_nil, or_false] at hs ht hu
    rcases hs with rfl | rfl <;> rcases ht with rfl | rfl <;> rcases hu with rfl | rfl <;>
      norm_num [logit, oneToken]

theorem decode_extends_causal_two :
    ∃ k v out weights,
      (machine.exec (init 1)
        [Op.prefill 0 [fun _ _ => (0 : ℝ)] [fun _ _ => 5],
          .appendToken 0 (fun _ _ => 1) fun _ _ => 7]).getKv 0 = .ok (k, v) ∧
      AttentionEngine.computeDecodeStep underflowingExp 1 (oneToken 1 7).q k v =
        .ok (out, weights) ∧
      (AttentionEngine.computeFullAttention underflowingExp 1 true
          ([oneToken 0 5] ++ [oneToken 1 7])).map Prod.fst =
        (AttentionEngine.computeFullAttention underflowingExp 1 true [oneToken 0 5]).map Prod.fst ++
          [out] ∧
      ((AttentionEngine.computeFullAttention underflowingExp 1 true
        ([oneToken 0 5] ++ [oneToken 1 7])).map Prod.snd)[1]? = some weights :=
  decode_extends_causal [Op.prefill 0 [fun _ _ => (0 : ℝ)] [fun _ _ => 5],
    .appendToken 0 (fun _ _ => 1) fun _ _ => 7] Nat.one_pos rfl maskHides_two

end Instances

end BaselineKVCache

end AiSsd.Attention
