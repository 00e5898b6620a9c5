import AiSsd.Adapters.LayerHistory
import AiSsd.Lib.Machine
import Mathlib.Data.List.Induction

/-!
# What a layer holds after any run

Blocks of some tokens and a store that returns the last write let every prefill go through, so
the calls alone fix the histories. With a recent window, layer and store hold their history
after any run.
-/

namespace AiSsd.Adapters

open Lib Numpy Storage

universe u v

namespace TransformerKVStateProvider

variable {geo : KVGeometry} {σ : Type v} {α : Type u} {B : BlockBackend σ α}
  {cfg : ProviderConfig} {V : B.ReturnsLastWrite} {s : TransformerKVStateProvider geo σ}

/-! ## Runs -/

/-- A prefill starts the history of each of its layers anew. -/
def restart (h : Nat → Option (History geo)) :
    List (Nat × List (KVToken geo)) → Nat → Option (History geo)
  | [] => h
  | (l, tokens) :: rest => restart (Function.update h l (some ⟨tokens, []⟩)) rest

def record (h : Nat → Option (History geo)) : Event geo α → Nat → Option (History geo)
  | .prefill past =>
      match past.layersDict with
      | .error _ => h
      | .ok layers => restart h layers
  | .append l kTok vTok =>
      Function.update h l ((h l).map fun H => ⟨H.prompt, H.appended ++ [(kTok, vTok)]⟩)
  | .select _ _ => h

def history (events : List (Event geo α)) : Nat → Option (History geo) :=
  events.foldl record fun _ => none

structure Tracks (cfg : ProviderConfig) (V : B.ReturnsLastWrite)
    (s : TransformerKVStateProvider geo σ) (h : Nat → Option (History geo)) : Prop where
  valid : V.Valid s.backend
  holds : ∀ l H, h l = some H →
    ∃ ld, s.layerData.get? l = some ld ∧ Holds cfg (V.content s.backend) l ld H
  missing : ∀ l, h l = none → s.layerData.get? l = none
  geometry : ∀ l H, h l = some H → s.numKvHeads = geo.kvHeads ∧ s.headDim = geo.headDim

theorem tracks_init {b : σ} (hb : V.Valid b) :
    Tracks cfg V (init cfg b : TransformerKVStateProvider geo σ) fun _ => none where
  valid := hb
  holds := by simp
  missing := fun _ _ => rfl
  geometry := by simp

variable {h : Nat → Option (History geo)}

theorem Tracks.follows (hrecent : 0 < cfg.recentTokens) (ht : Tracks cfg V s h) :
    Follows cfg s h where
  present := by
    intro l H hH
    obtain ⟨ld, hld, hold⟩ := ht.holds l H hH
    exact ⟨ld, hld, ((holds_iff hrecent).mp hold).1⟩
  absent := ht.missing

theorem Tracks.hasBlocks (ht : Tracks cfg V s h) : HasBlocks cfg V s.backend h where
  valid := ht.valid
  stored := by
    intro l H hH
    obtain ⟨ld, hld, hold⟩ := ht.holds l H hH
    exact hold.blocks

theorem tracks_of (hrecent : 0 < cfg.recentTokens) (hf : Follows cfg s h)
    (hb : HasBlocks cfg V s.backend h)
    (hgeo : ∀ l H, h l = some H → s.numKvHeads = geo.kvHeads ∧ s.headDim = geo.headDim) :
    Tracks cfg V s h where
  valid := hb.valid
  holds := by
    intro l H hH
    obtain ⟨ld, hld, hlaid⟩ := hf.present l H hH
    exact ⟨ld, hld, (holds_iff hrecent).mpr ⟨hlaid, hb.stored l H hH⟩⟩
  missing := hf.absent
  geometry := hgeo

theorem noteLayers_eq (hpos : 0 < cfg.tokensPerBlock) (hs : V.Valid s.backend)
    (layers : List (Nat × List (KVToken geo))) (h : Nat → Option (History geo)) :
    noteLayers B cfg layers s h = restart h layers := by
  induction layers generalizing s h with
  | nil => rfl
  | cons layer rest ih =>
      obtain ⟨l, tokens⟩ := layer
      obtain ⟨backend, ld, hcall, hvalid, _, _⟩ :=
        prefillLayer_stores B cfg hs l tokens fun _ => hpos
      simp only [noteLayers, restart, hcall]
      exact ih hvalid _

/-- No prefill raises, so what a call does to the histories does not depend on the state. -/
theorem note_eq (hpos : 0 < cfg.tokensPerBlock) (hs : V.Valid s.backend)
    (h : Nat → Option (History geo)) (event : Event geo α) :
    note B cfg h s event = record h event := by
  cases event with
  | prefill past =>
      cases hlayers : past.layersDict with
      | error err => simp only [note, record, hlayers]
      | ok layers =>
          simp only [note, record, hlayers]
          exact noteLayers_eq (s := shaped cfg s) hpos hs layers h
  | append l kTok vTok => rfl
  | select l query => rfl

/-- A prefill of layers leaves the shape that the state was given before. -/
theorem prefillLayers_geometry (layers : List (Nat × List (KVToken geo))) :
    (prefillLayers B cfg layers s).2.numKvHeads = s.numKvHeads ∧
      (prefillLayers B cfg layers s).2.headDim = s.headDim := by
  induction layers generalizing s with
  | nil => exact ⟨rfl, rfl⟩
  | cons layer rest ih =>
      obtain ⟨l, tokens⟩ := layer
      rcases prefillLayer_laidOut B cfg s l tokens with
        ⟨err, backend, hcall⟩ | ⟨backend, ld, hcall, _⟩
      · simp only [prefillLayers, hcall, and_self]
      · simp only [prefillLayers, hcall]
        exact ih

theorem tracks_prefill (hpos : 0 < cfg.tokensPerBlock) (hrecent : 0 < cfg.recentTokens)
    (ht : Tracks cfg V s h) (past : PastKeyValues geo) :
    Tracks cfg V (initFromPrefill B cfg s past).2 (record h (.prefill past : Event geo α)) := by
  have hf := follows_prefill (B := B) (ht.follows hrecent) past
  have hb := hasBlocks_prefill ht.hasBlocks past
  rw [note_eq hpos ht.valid] at hf hb
  refine tracks_of hrecent hf hb ?_
  cases hlayers : past.layersDict with
  | error err =>
      simp only [initFromPrefill, record, hlayers]
      exact ht.geometry
  | ok layers =>
      simp only [initFromPrefill, hlayers]
      exact fun _ _ _ => prefillLayers_geometry (s := shaped cfg s) layers

theorem tracks_append (hpos : 0 < cfg.tokensPerBlock) (hrecent : 0 < cfg.recentTokens)
    (ht : Tracks cfg V s h) (l : Nat) (kTok vTok : TokenRow geo) :
    Tracks cfg V (appendNewToken s l kTok vTok).2
      (record h (.append l kTok vTok : Event geo α)) := by
  have hf := follows_append (B := B) (ht.follows hrecent) l kTok vTok
  have hb := hasBlocks_append ht.hasBlocks l kTok vTok
  rw [note_eq hpos ht.valid] at hf hb
  refine tracks_of hrecent hf hb ?_
  have hgeo : (appendNewToken s l kTok vTok).2.numKvHeads = s.numKvHeads ∧
      (appendNewToken s l kTok vTok).2.headDim = s.headDim := by
    unfold appendNewToken
    split <;> exact ⟨rfl, rfl⟩
  rw [hgeo.1, hgeo.2]
  -- an append starts no history
  intro l' H' hH'
  by_cases hl : l' = l
  · subst hl
    rw [record, Function.update_self, Option.map_eq_some_iff] at hH'
    obtain ⟨H, hH, _⟩ := hH'
    exact ht.geometry l' H hH
  · rw [record, Function.update_of_ne hl] at hH'
    exact ht.geometry l' H' hH'

theorem Tracks.of_sameLayers {s' : TransformerKVStateProvider geo σ} (ht : Tracks cfg V s h)
    (hsame : SameLayers V s s') : Tracks cfg V s' h := by
  refine ⟨hsame.backend.valid, ?_, ?_, ?_⟩
  · rw [hsame.layerData_eq, hsame.backend.content_eq]
    exact ht.holds
  · rw [hsame.layerData_eq]
    exact ht.missing
  · rw [hsame.numKvHeads_eq, hsame.headDim_eq]
    exact ht.geometry

section Machine

variable [Field α] [LinearOrder α] (B) (cfg) (N : Numerics α) (kernel : Option (Kernel α))

/-- One call. Only a selection returns tensors. -/
def step (s : TransformerKVStateProvider geo σ) : Event geo α →
    Except PyErr (Option (List (TokenRow geo) × List (TokenRow geo))) ×
      TransformerKVStateProvider geo σ
  | .prefill past =>
      let r := initFromPrefill B cfg s past
      (r.1.map fun _ => none, r.2)
  | .append l kTok vTok =>
      let r := appendNewToken s l kTok vTok
      (r.1.map fun _ => none, r.2)
  | .select l query =>
      let r := selectAndFetchActiveState B cfg N kernel s l query
      (r.1.map some, r.2)

def machine : Machine (TransformerKVStateProvider geo σ) (Event geo α)
    (Except PyErr (Option (List (TokenRow geo) × List (TokenRow geo)))) where
  step := step B cfg N kernel

variable {B cfg N kernel}

theorem tracks_step (hpos : 0 < cfg.tokensPerBlock) (hrecent : 0 < cfg.recentTokens)
    (ht : Tracks cfg V s h) (event : Event geo α) :
    Tracks cfg V (step B cfg N kernel s event).2 (record h event) := by
  cases event with
  | prefill past => exact tracks_prefill hpos hrecent ht past
  | append l kTok vTok => exact tracks_append hpos hrecent ht l kTok vTok
  | select l query => exact ht.of_sameLayers (sameLayers_select ht.valid l query)

variable (cfg N kernel) in
theorem tracks_run (hpos : 0 < cfg.tokensPerBlock) (hrecent : 0 < cfg.recentTokens) {b : σ}
    (hb : V.Valid b) (events : List (Event geo α)) :
    Tracks cfg V ((machine B cfg N kernel).exec (init cfg b) events) (history events) := by
  induction events using List.reverseRecOn with
  | nil => exact tracks_init hb
  | append_singleton events event ih =>
      rw [Machine.exec_concat, history, List.foldl_append]
      exact tracks_step hpos hrecent ih event

end Machine

end TransformerKVStateProvider

end AiSsd.Adapters
