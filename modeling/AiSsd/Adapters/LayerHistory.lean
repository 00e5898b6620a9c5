import AiSsd.Adapters.LayerLayout

/-!
# The history of a layer

A layer's history starts when its prefill has gone through and grows with every append. Under
any configuration and over any store, whose writes may fail, it fixes what the layer holds.
Over a store that returns the last write it fixes the blocks as well.
-/

namespace AiSsd.Adapters

open Lib Numpy Storage

universe u v

variable {geo : KVGeometry}

namespace TransformerKVStateProvider

variable {σ : Type v} {α : Type u} {B : BlockBackend σ α} {cfg : ProviderConfig}
  {s s' : TransformerKVStateProvider geo σ}

/-! ## Histories -/

inductive Event (geo : KVGeometry) (α : Type u) where
  | prefill (past : PastKeyValues geo)
  | append (layerIdx : Nat) (kTok vTok : TokenRow geo)
  | select (layerIdx : Nat) (query : Option (List (List α)))

/-- Each layer whose prefill goes through starts anew; the first that raises ends the call. -/
def noteLayers (B : BlockBackend σ α) (cfg : ProviderConfig) :
    List (Nat × List (KVToken geo)) → TransformerKVStateProvider geo σ →
      (Nat → Option (History geo)) → Nat → Option (History geo)
  | [], _, h => h
  | (l, tokens) :: rest, s, h =>
      match prefillLayer B cfg s l tokens with
      | (.error _, _) => h
      | (.ok (), s) => noteLayers B cfg rest s (Function.update h l (some ⟨tokens, []⟩))

/-- The state whose layers a prefill sets: shape and page size are those of the tensors. -/
def shaped (cfg : ProviderConfig) (s : TransformerKVStateProvider geo σ) :
    TransformerKVStateProvider geo σ :=
  { s with
    numKvHeads := geo.kvHeads
    headDim := geo.headDim
    pageBytes := some (cfg.tokensPerBlock * geo.kvHeads * geo.headDim * geo.bytesPerElem) }

/-- The histories after one more call, made in state `s`. -/
def note (B : BlockBackend σ α) (cfg : ProviderConfig) (h : Nat → Option (History geo))
    (s : TransformerKVStateProvider geo σ) : Event geo α → Nat → Option (History geo)
  | .prefill past =>
      match past.layersDict with
      | .error _ => h
      | .ok layers => noteLayers B cfg layers (shaped cfg s) h
  | .append l kTok vTok =>
      Function.update h l ((h l).map fun H => ⟨H.prompt, H.appended ++ [(kTok, vTok)]⟩)
  | .select _ _ => h

/-- The layers of the state are those with a history, laid out as their histories say. -/
structure Follows (cfg : ProviderConfig) (s : TransformerKVStateProvider geo σ)
    (h : Nat → Option (History geo)) : Prop where
  present : ∀ l H, h l = some H → ∃ ld, s.layerData.get? l = some ld ∧ LaidOut cfg ld H
  absent : ∀ l, h l = none → s.layerData.get? l = none

theorem Follows.of_layerData {h : Nat → Option (History geo)} (hf : Follows cfg s h)
    (hsame : s'.layerData = s.layerData) : Follows cfg s' h := by
  constructor
  · rw [hsame]
    exact hf.present
  · rw [hsame]
    exact hf.absent

theorem Follows.set {h : Nat → Option (History geo)} (hf : Follows cfg s h) (l : Nat)
    {ld : LayerData geo} {H : History geo} (hlaid : LaidOut cfg ld H)
    (hset : s'.layerData = s.layerData.set l ld) :
    Follows cfg s' (Function.update h l (some H)) := by
  constructor
  · intro l' H' hH'
    by_cases hl : l' = l
    · subst hl
      rw [Function.update_self, Option.some.injEq] at hH'
      subst hH'
      exact ⟨ld, by rw [hset, Dict.get?_set_self], hlaid⟩
    · rw [Function.update_of_ne hl] at hH'
      rw [hset, Dict.get?_set_of_ne _ _ (Ne.symm hl)]
      exact hf.present l' H' hH'
  · intro l' hl'
    by_cases hl : l' = l
    · subst hl
      rw [Function.update_self] at hl'
      cases hl'
    · rw [Function.update_of_ne hl] at hl'
      rw [hset, Dict.get?_set_of_ne _ _ (Ne.symm hl)]
      exact hf.absent l' hl'

theorem follows_init (b : σ) :
    Follows cfg (init cfg b : TransformerKVStateProvider geo σ) fun _ => none where
  present := by simp
  absent := fun _ _ => rfl

theorem follows_prefillLayers (layers : List (Nat × List (KVToken geo)))
    {h : Nat → Option (History geo)} (hf : Follows cfg s h) :
    Follows cfg (prefillLayers B cfg layers s).2 (noteLayers B cfg layers s h) := by
  induction layers generalizing s h with
  | nil => exact hf
  | cons layer rest ih =>
      obtain ⟨l, tokens⟩ := layer
      rcases prefillLayer_laidOut B cfg s l tokens with
        ⟨err, backend, hcall⟩ | ⟨backend, ld, hcall, hlaid⟩
      · simp only [prefillLayers, noteLayers, hcall]
        exact hf.of_layerData rfl
      · simp only [prefillLayers, noteLayers, hcall]
        exact ih (hf.set l hlaid rfl)

theorem follows_prefill {h : Nat → Option (History geo)} (hf : Follows cfg s h)
    (past : PastKeyValues geo) : Follows cfg (initFromPrefill B cfg s past).2
      (note B cfg h s (.prefill past : Event geo α)) := by
  cases hlayers : past.layersDict with
  | error err =>
      simp only [initFromPrefill, note, hlayers]
      exact hf
  | ok layers =>
      simp only [initFromPrefill, note, hlayers]
      exact follows_prefillLayers (s := shaped cfg s) layers (hf.of_layerData rfl)

theorem follows_append {h : Nat → Option (History geo)} (hf : Follows cfg s h) (l : Nat)
    (kTok vTok : TokenRow geo) : Follows cfg (appendNewToken s l kTok vTok).2
      (note B cfg h s (.append l kTok vTok : Event geo α)) := by
  cases hl : h l with
  | none =>
      simp only [appendNewToken, note, hf.absent l hl, hl, Option.map_none]
      rw [← hl, Function.update_eq_self]
      exact hf
  | some H =>
      obtain ⟨ld, hld, hlaid⟩ := hf.present l H hl
      simp only [appendNewToken, note, hld, hl, Option.map_some]
      exact hf.set l (hlaid.append kTok vTok) rfl

/-! ## What a selection returns -/

section Select

variable [Field α] [LinearOrder α] (N : Numerics α) (kernel : Option (Kernel α))

/-- What a selection returns has the sink in front and the recent window at its end. -/
theorem activeState_of_select {s : TransformerKVStateProvider geo σ} {l : Nat}
    {query : Option (List (List α))} {out : List (TokenRow geo) × List (TokenRow geo)}
    (hout : (selectAndFetchActiveState B cfg N kernel s l query).1 = .ok out) :
    ∃ ld selected, s.layerData.get? l = some ld ∧ out = activeState ld selected := by
  unfold selectAndFetchActiveState at hout
  split at hout
  · cases hout
  · split at hout
    · cases hout
    · rename_i ld hld
      split at hout
      · cases hout
      · split at hout
        · cases hout
          exact ⟨ld, [], hld, rfl⟩
        · split at hout
          · cases hout
          · rename_i loaded _ _
            unfold reconstruct at hout
            cases hrows : (orderBy (fun t => t.2.1) loaded.topBids).mapM
                (winnerRows N.toAstype geo loaded) with
            | error err =>
                rw [hrows] at hout
                cases hout
            | ok selected =>
                rw [hrows] at hout
                cases hout
                exact ⟨ld, selected, hld, rfl⟩

end Select

/-! ## Over a store that returns the last write -/

structure HasBlocks (cfg : ProviderConfig) (V : B.ReturnsLastWrite) (backend : σ)
    (h : Nat → Option (History geo)) : Prop where
  valid : V.Valid backend
  stored : ∀ l H, h l = some H → StoredBlocks cfg (V.content backend) l H.prompt

variable {V : B.ReturnsLastWrite} {h : Nat → Option (History geo)}

theorem HasBlocks.keeps {b b' : σ} (hb : HasBlocks cfg V b h) (hkeeps : V.Keeps b b') :
    HasBlocks cfg V b' h where
  valid := hkeeps.valid
  stored := by
    rw [hkeeps.content_eq]
    exact hb.stored

/-- Storing the blocks of a prompt and starting its history together. -/
theorem HasBlocks.set {b b' : σ} (hb : HasBlocks cfg V b h) (hvalid : V.Valid b') {l : Nat}
    {tokens : List (KVToken geo)} (hstored : StoredBlocks cfg (V.content b') l tokens)
    (hother : ∀ l' i, l' ≠ l → V.content b' (l', i) = V.content b (l', i)) :
    HasBlocks cfg V b' (Function.update h l (some ⟨tokens, []⟩)) := by
  refine ⟨hvalid, ?_⟩
  intro l' H hH
  by_cases hl : l' = l
  · subst hl
    rw [Function.update_self, Option.some.injEq] at hH
    subst hH
    exact hstored
  · rw [Function.update_of_ne hl] at hH
    intro bid hbid
    rw [hother l' bid hl]
    exact hb.stored l' H hH bid hbid

/-- A layer's prefill stores the blocks of its prompt, or raises and stores nothing. -/
theorem prefillLayer_hasBlocks (hb : HasBlocks cfg V s.backend h) (l : Nat)
    (tokens : List (KVToken geo)) :
    HasBlocks cfg V (prefillLayer B cfg s l tokens).2.backend
      (match (prefillLayer B cfg s l tokens).1 with
        | .error _ => h
        | .ok () => Function.update h l (some ⟨tokens, []⟩)) := by
  by_cases hcut : cfg.Offloads tokens.length → 0 < cfg.tokensPerBlock
  · obtain ⟨backend, ld, hcall, hvalid, hstored, hother⟩ :=
      prefillLayer_stores B cfg hb.valid l tokens hcut
    rw [hcall]
    exact hb.set hvalid hstored hother
  · rw [Classical.not_imp] at hcut
    obtain ⟨hlong, hzero⟩ := hcut
    have hraise : prefillLayer B cfg s l tokens =
        (.error (.valueError "range() arg 3 must not be zero"), s) := by
      simp only [prefillLayer, if_neg (Nat.not_le.mpr hlong),
        if_pos (show tokens.length - cfg.recentTokens > cfg.sinkTokens by omega), offload,
        if_pos (Nat.eq_zero_of_not_pos hzero)]
    rw [hraise]
    exact hb

theorem hasBlocks_prefillLayers (layers : List (Nat × List (KVToken geo)))
    (hb : HasBlocks cfg V s.backend h) :
    HasBlocks cfg V (prefillLayers B cfg layers s).2.backend (noteLayers B cfg layers s h) := by
  induction layers generalizing s h with
  | nil => exact hb
  | cons layer rest ih =>
      obtain ⟨l, tokens⟩ := layer
      have hone := prefillLayer_hasBlocks hb l tokens
      unfold prefillLayers noteLayers
      revert hone
      rcases prefillLayer B cfg s l tokens with ⟨_ | _, s'⟩
      · exact id
      · exact ih

theorem hasBlocks_prefill (hb : HasBlocks cfg V s.backend h) (past : PastKeyValues geo) :
    HasBlocks cfg V (initFromPrefill B cfg s past).2.backend
      (note B cfg h s (.prefill past : Event geo α)) := by
  cases hlayers : past.layersDict with
  | error err =>
      simp only [initFromPrefill, note, hlayers]
      exact hb
  | ok layers =>
      simp only [initFromPrefill, note, hlayers]
      exact hasBlocks_prefillLayers (s := shaped cfg s) layers hb

/-- An append writes nothing and changes no prompt. -/
theorem hasBlocks_append (hb : HasBlocks cfg V s.backend h) (l : Nat) (kTok vTok : TokenRow geo) :
    HasBlocks cfg V (appendNewToken s l kTok vTok).2.backend
      (note B cfg h s (.append l kTok vTok : Event geo α)) := by
  have hsame : (appendNewToken s l kTok vTok).2.backend = s.backend := by
    unfold appendNewToken
    split <;> rfl
  rw [hsame]
  refine ⟨hb.valid, ?_⟩
  intro l' H' hH'
  by_cases hl : l' = l
  · subst hl
    rw [note, Function.update_self, Option.map_eq_some_iff] at hH'
    obtain ⟨H, hH, rfl⟩ := hH'
    exact hb.stored l' H hH
  · rw [note, Function.update_of_ne hl] at hH'
    exact hb.stored l' H' hH'

end TransformerKVStateProvider

end AiSsd.Adapters
