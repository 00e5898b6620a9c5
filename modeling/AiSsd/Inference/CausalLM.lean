import AiSsd.Adapters.LayerLayout

/-!
# The model a decode loop runs

What `run_baseline_decode` and `run_aissd_decode` use of a Transformer: its layers cut at the
attention, so that the part in between can be the cache of the model or the state provider.
The model itself is a parameter. Logits are exact numbers, and `⊥` is `-inf`.
-/

namespace AiSsd.Inference

open Adapters

universe u w

/-- `query[0, :, 0, :]` of a step: a row for every attention head. -/
structure StepQuery (config : ModelArchitectureConfig) (geo : KVGeometry) (α : Type u) where
  rows : List (List α)
  heads_eq : rows.length = config.gqaRatio * geo.kvHeads
  dims_eq : ∀ row ∈ rows, row.length = geo.headDim

/-- A decoder-only Transformer over hidden states `H`. `project` ends with the rotary embedding
of a position; `attend` is the rest of a layer, from the scaled dot products on; `prefill` is
the forward pass over a prompt, with the cache it leaves. -/
structure CausalLM (config : ModelArchitectureConfig) (geo : KVGeometry) (α : Type u)
    (H : Type w) where
  numLayers : Nat
  embed : Nat → H
  project : (layerIdx position : Nat) → H → StepQuery config geo α × KVToken geo
  attend : (layerIdx : Nat) → H → StepQuery config geo α → (keys values : List (TokenRow geo)) → H
  logits : H → List α
  prefill : List Nat → List α × List (List (KVToken geo))
  prefill_layers : ∀ ids, (prefill ids).2.length = numLayers
  prefill_tokens : ∀ ids, ∀ layer ∈ (prefill ids).2, layer.length = ids.length

/-! ## Choosing a token -/

section Choice

variable {β : Type u} [LinearOrder β]

/-- `torch.argmax`: the first of the largest. -/
def argmax (xs : List β) : Option Nat := xs.findIdx? fun x => xs.all (· ≤ x)

theorem argmax_isSome {xs : List β} (h : xs ≠ []) : (argmax xs).isSome := by
  rw [argmax, List.findIdx?_isSome, List.any_eq_true]
  obtain ⟨m, hm⟩ := Option.isSome_iff_exists.mp (List.isSome_max?_of_ne_nil h)
  refine ⟨m, List.max?_mem hm, ?_⟩
  rw [List.all_eq_true]
  intro y hy
  exact decide_eq_true ((List.max?_le_iff hm).mp le_rfl y hy)

theorem argmax_eq_some {xs : List β} {i : Nat} (h : argmax xs = some i) :
    ∃ x, xs[i]? = some x ∧ ∀ y ∈ xs, y ≤ x := by
  rw [argmax, List.findIdx?_eq_some_iff_getElem] at h
  obtain ⟨hi, hmax, -⟩ := h
  refine ⟨xs[i], List.getElem?_eq_getElem hi, ?_⟩
  rw [List.all_eq_true] at hmax
  exact fun y hy => of_decide_eq_true (hmax y hy)

end Choice

end AiSsd.Inference
