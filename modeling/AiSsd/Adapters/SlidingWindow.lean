import AiSsd.Adapters.ActiveState

/-!
# The sliding-window provider

The provider offers its selection only the candidate blocks that reach into the attention
window. For the time of the call the layer's list is replaced. Blocks are placed by their ids,
which is where prefill cut them, so a block is withheld exactly when its last token lies before
the window, and the layers are the same again after the call.
-/

namespace AiSsd.Adapters

open Lib Numpy Storage

universe u v

/-- Constructor arguments with the `sliding_window` of the model. -/
structure SlidingWindowConfig extends ProviderConfig where
  slidingWindow : Option Nat

/-- `config.sliding_window or 4096`. -/
def SlidingWindowConfig.window (cfg : SlidingWindowConfig) : Nat :=
  match cfg.slidingWindow with
  | none | some 0 => 4096
  | some n => n

variable {geo : KVGeometry}

namespace SlidingWindowKVStateProvider

open TransformerKVStateProvider hiding step machine history select_eq selectAndFetchActiveState

variable {σ : Type v} {α : Type u} (B : BlockBackend σ α) (cfg : SlidingWindowConfig)

/-- `ld["candidate_blocks"] = cands`. -/
def setCandidates (s : TransformerKVStateProvider geo σ) (layerIdx : Nat)
    (cands : List (Nat × Nat)) : TransformerKVStateProvider geo σ :=
  match s.layerData.get? layerIdx with
  | none => s
  | some ld =>
      { s with layerData := s.layerData.set layerIdx { ld with candidateBlocks := cands } }

def validCands (windowStart : Nat) (candBlocks : List (Nat × Nat)) : List (Nat × Nat) :=
  candBlocks.filter fun c =>
    let bTokStart := cfg.sinkTokens + c.1 * cfg.tokensPerBlock
    let bTokEnd := bTokStart + c.2
    bTokEnd > windowStart

section Select

variable [Field α] [LinearOrder α] (N : Numerics α) (kernel : Option (Kernel α))

def selectAndFetchActiveState (s : TransformerKVStateProvider geo σ) (layerIdx : Nat)
    (query : Option (List (List α))) :
    Except PyErr (List (TokenRow geo) × List (TokenRow geo)) × TransformerKVStateProvider geo σ :=
  match s.layerData.get? layerIdx with
  | none => (.error (.keyError (toString layerIdx)), s)
  | some ld =>
      let totalTokens := ld.totalTokens
      let origCandBlocks := ld.candidateBlocks
      let s :=
        if totalTokens > cfg.window then
          setCandidates s layerIdx (validCands cfg (totalTokens - cfg.window) origCandBlocks)
        else s
      let r := TransformerKVStateProvider.selectAndFetchActiveState B cfg.toProviderConfig N
        kernel s layerIdx query
      -- `finally`: whatever the call came to
      (r.1, setCandidates r.2 layerIdx origCandBlocks)

/-- One call, as of the transformer provider but for the selection. -/
def step (s : TransformerKVStateProvider geo σ) : Event geo α →
    Except PyErr (Option (List (TokenRow geo) × List (TokenRow geo))) ×
      TransformerKVStateProvider geo σ
  | .select l query =>
      let r := selectAndFetchActiveState B cfg N kernel s l query
      (r.1.map some, r.2)
  | event => TransformerKVStateProvider.step B cfg.toProviderConfig N kernel s event

def machine : Machine (TransformerKVStateProvider geo σ) (Event geo α)
    (Except PyErr (Option (List (TokenRow geo) × List (TokenRow geo)))) where
  step := step B cfg N kernel

def reached (b : σ) (events : List (Event geo α)) : TransformerKVStateProvider geo σ :=
  (machine B cfg N kernel).exec (init cfg.toProviderConfig b) events

def histories (b : σ) (events : List (Event geo α)) : Nat → Option (History geo) :=
  (machine B cfg N kernel).history (fun h s event _ => note B cfg.toProviderConfig h s event)
    (init cfg.toProviderConfig b) (fun _ => none) events

end Select

/-! ## The candidates in and out -/

variable {B cfg} {s : TransformerKVStateProvider geo σ} {l : Nat} {ld : LayerData geo}

theorem layerData_setCandidates (hld : s.layerData.get? l = some ld) (cands : List (Nat × Nat)) :
    (setCandidates s l cands).layerData =
      s.layerData.set l { ld with candidateBlocks := cands } := by
  simp only [setCandidates, hld]

theorem setCandidates_self (hld : s.layerData.get? l = some ld) :
    setCandidates s l ld.candidateBlocks = s := by
  simp only [setCandidates, hld]
  rw [Dict.set_of_get? hld]

theorem setCandidates_back {s' : TransformerKVStateProvider geo σ}
    (hld : s.layerData.get? l = some ld) {cands : List (Nat × Nat)}
    (hset : s'.layerData = s.layerData.set l { ld with candidateBlocks := cands }) :
    setCandidates s' l ld.candidateBlocks = { s' with layerData := s.layerData } := by
  simp only [setCandidates, hset, Dict.get?_set_self, Dict.set_set, Dict.set_of_get? hld]

section Select

variable [Field α] [LinearOrder α] {N : Numerics α} {kernel : Option (Kernel α)}

def offered (cfg : SlidingWindowConfig) (ld : LayerData geo) : List (Nat × Nat) :=
  if ld.totalTokens > cfg.window then
    validCands cfg (ld.totalTokens - cfg.window) ld.candidateBlocks
  else ld.candidateBlocks

variable (B cfg N kernel) in
/-- The call is the selection with the offered blocks for candidates, between two states with
the same layers. -/
theorem select_eq (hld : s.layerData.get? l = some ld) (query : Option (List (List α))) :
    (selectAndFetchActiveState B cfg N kernel s l query).1 =
      (TransformerKVStateProvider.selectAndFetchActiveState B cfg.toProviderConfig N kernel
        (setCandidates s l (offered cfg ld)) l query).1 ∧
    (selectAndFetchActiveState B cfg N kernel s l query).2 =
      { (TransformerKVStateProvider.selectAndFetchActiveState B cfg.toProviderConfig N kernel
        (setCandidates s l (offered cfg ld)) l query).2 with layerData := s.layerData } := by
  have hstart : (if ld.totalTokens > cfg.window then
      setCandidates s l (validCands cfg (ld.totalTokens - cfg.window) ld.candidateBlocks)
      else s) = setCandidates s l (offered cfg ld) := by
    unfold offered
    split
    · rfl
    · rw [setCandidates_self hld]
  have hlayers : (TransformerKVStateProvider.selectAndFetchActiveState B cfg.toProviderConfig N
      kernel (setCandidates s l (offered cfg ld)) l query).2.layerData =
      s.layerData.set l { ld with candidateBlocks := offered cfg ld } := by
    rw [layerData_select, layerData_setCandidates hld]
  simp only [selectAndFetchActiveState, hld, hstart, setCandidates_back hld hlayers, and_self]

end Select

/-! ## Where the blocks lie -/

variable {H : History geo}

theorem offered_sublist (cfg : SlidingWindowConfig) (ld : LayerData geo) :
    (offered cfg ld).Sublist ld.candidateBlocks := by
  unfold offered
  split
  · exact List.filter_sublist
  · exact List.Sublist.refl _

/-- Block `c` of a history has its last token at position `last`. -/
def LastToken (cfg : ProviderConfig) (H : History geo) (c : Nat × Nat) (last : Nat) : Prop :=
  cfg.blockTokens H.prompt c.1 = atPositions H.tokens
      (blockPositions (cfg.sinkEnd H.prompt.length) cfg.tokensPerBlock c) ∧
    (blockPositions (cfg.sinkEnd H.prompt.length) cfg.tokensPerBlock c).getLast? = some last

theorem withheld_iff (hlaid : LaidOut cfg.toProviderConfig ld H) {c : Nat × Nat}
    (hc : c ∈ ld.candidateBlocks) : ∃ last, LastToken cfg.toProviderConfig H c last ∧
      (c ∉ offered cfg ld ↔ last < ld.totalTokens - cfg.window) := by
  obtain ⟨hbid, hlen⟩ := hlaid.candidate hc
  have hcount := hlaid.block_pos hc
  have hsink : cfg.sinkEnd H.prompt.length = cfg.sinkTokens :=
    if_pos (ProviderConfig.offloads_of_block hbid)
  refine ⟨cfg.sinkTokens + c.1 * cfg.tokensPerBlock + c.2 - 1, ⟨?_, ?_⟩, ?_⟩
  · have htokens := ProviderConfig.blockTokens_eq (H := H) hbid
    rwa [← hlen] at htokens
  · obtain ⟨n, hn⟩ : ∃ n, c.2 = n + 1 := ⟨c.2 - 1, by omega⟩
    rw [blockPositions, hn, List.range'_concat, List.getLast?_concat, hsink]
    congr 1
    omega
  · unfold offered
    split
    · simp only [validCands, List.mem_filter, hc, true_and, decide_eq_true_eq]
      omega
    · simp only [hc, not_true, false_iff]
      omega

/-! ## After any run -/

section Runs

variable [Field α] [LinearOrder α] (cfg) (N : Numerics α) (kernel : Option (Kernel α))

theorem layerData_selectWindow (l : Nat) (query : Option (List (List α))) :
    (selectAndFetchActiveState B cfg N kernel s l query).2.layerData = s.layerData := by
  cases hld : s.layerData.get? l with
  | none => simp only [selectAndFetchActiveState, hld]
  | some ld => rw [(select_eq B cfg N kernel hld query).2]

variable (B) in
theorem follows_run (b : σ) (events : List (Event geo α)) :
    Follows cfg.toProviderConfig (reached B cfg N kernel b events)
      (histories B cfg N kernel b events) := by
  apply Machine.history_invariant
  · intro s h event hf
    cases event with
    | prefill past => exact follows_prefill hf past
    | append l kTok vTok => exact follows_append hf l kTok vTok
    | select l query => exact hf.of_layerData (layerData_selectWindow cfg N kernel l query)
  · exact follows_init b

variable {V : B.ReturnsLastWrite}

theorem keeps_selectWindow (hs : V.Valid s.backend) (l : Nat) (query : Option (List (List α))) :
    V.Keeps s.backend (selectAndFetchActiveState B cfg N kernel s l query).2.backend := by
  cases hld : s.layerData.get? l with
  | none =>
      simp only [selectAndFetchActiveState, hld]
      exact .refl hs
  | some ld =>
      have hsame : (setCandidates s l (offered cfg ld)).backend = s.backend := by
        simp only [setCandidates, hld]
      have hvalid : V.Valid (setCandidates s l (offered cfg ld)).backend := by rwa [hsame]
      rw [(select_eq B cfg N kernel hld query).2, ← hsame]
      exact (sameLayers_select hvalid l query).backend

theorem hasBlocks_run {b : σ} (hb : V.Valid b) (events : List (Event geo α)) :
    HasBlocks cfg.toProviderConfig V (reached B cfg N kernel b events).backend
      (histories B cfg N kernel b events) := by
  refine Machine.history_invariant (machine B cfg N kernel)
    (I := fun s h => HasBlocks cfg.toProviderConfig V s.backend h) ?_ _ _ events ?_
  · intro s h event hs
    cases event with
    | prefill past => exact hasBlocks_prefill hs past
    | append l kTok vTok => exact hasBlocks_append hs l kTok vTok
    | select l query => exact hs.keeps (keeps_selectWindow cfg N kernel hs.valid l query)
  · exact ⟨hb, by simp⟩

/-- A selection from a layer with history `H`: the blocks it withholds are those whose last
token lies before the window, sink and recent window come back whole, and the layers stay. -/
structure SelectsInWindow (B : BlockBackend σ α) (s : TransformerKVStateProvider geo σ) (l : Nat)
    (query : Option (List (List α))) (H : History geo) (ld : LayerData geo) : Prop where
  laidOut : LaidOut cfg.toProviderConfig ld H
  withheld : ∀ c ∈ ld.candidateBlocks, ∃ last, LastToken cfg.toProviderConfig H c last ∧
    (c ∉ offered cfg ld ↔ last < ld.totalTokens - cfg.window)
  inOrder : (offered cfg ld).Sublist ld.candidateBlocks
  inner : (selectAndFetchActiveState B cfg N kernel s l query).1 =
    (TransformerKVStateProvider.selectAndFetchActiveState B cfg.toProviderConfig N kernel
      { s with layerData := s.layerData.set l { ld with candidateBlocks := offered cfg ld } } l
      query).1
  passed : ∀ out, (selectAndFetchActiveState B cfg N kernel s l query).1 = .ok out →
    ∃ selected, out = activeState ld selected

/-- After any run over any store, a selection withholds exactly the blocks that end before the
window, and whether it returns or raises, every layer is then as it was. -/
theorem window_withholds_exactly (b : σ) (events : List (Event geo α)) (l : Nat)
    (query : Option (List (List α))) :
    (∀ H, histories B cfg N kernel b events l = some H →
      ∃ ld, (reached B cfg N kernel b events).layerData.get? l = some ld ∧
        SelectsInWindow cfg N kernel B (reached B cfg N kernel b events) l query H ld) ∧
    (histories B cfg N kernel b events l = none →
      (selectAndFetchActiveState B cfg N kernel (reached B cfg N kernel b events) l query).1 =
        .error (.keyError (toString l))) ∧
    (selectAndFetchActiveState B cfg N kernel (reached B cfg N kernel b events) l
      query).2.layerData = (reached B cfg N kernel b events).layerData ∧
    ∀ V : B.ReturnsLastWrite, V.Valid b → ∀ H, histories B cfg N kernel b events l = some H →
      StoredBlocks cfg.toProviderConfig (V.content (reached B cfg N kernel b events).backend) l
        H.prompt := by
  have hf := follows_run B cfg N kernel b events
  refine ⟨?_, ?_, layerData_selectWindow cfg N kernel l query, ?_⟩
  · intro H hH
    obtain ⟨ld, hld, hlaid⟩ := hf.present l H hH
    have heq := (select_eq B cfg N kernel hld query).1
    have hset := layerData_setCandidates hld (offered cfg ld)
    refine ⟨ld, hld, hlaid, fun c hc => withheld_iff hlaid hc, offered_sublist cfg ld, ?_, ?_⟩
    · rw [heq]
      simp only [setCandidates, hld]
    · intro out hout
      rw [heq] at hout
      obtain ⟨ld', selected, hld', rfl⟩ := activeState_of_select N kernel hout
      rw [hset, Dict.get?_set_self] at hld'
      cases hld'
      exact ⟨selected, rfl⟩
  · intro hnone
    simp only [selectAndFetchActiveState, hf.absent l hnone]
  · intro V hb
    exact (hasBlocks_run cfg N kernel hb events).stored l

end Runs

end SlidingWindowKVStateProvider

end AiSsd.Adapters
