import AiSsd.Adapters.ProviderReads

/-!
# The layout of a layer

The prompt of a layer and the tokens appended since fix what the layer holds: a prefix of the
prompt as its sink, the span up to `candEnd` in blocks, the tokens from `windowStart` on as its
recent window. A prefill lays a layer out, and an append keeps it laid out.
-/

namespace AiSsd.Adapters

open Lib Numpy Storage

universe u v

structure History (geo : KVGeometry) where
  prompt : List (KVToken geo)
  appended : List (KVToken geo)

namespace History

variable {geo : KVGeometry}

def tokens (H : History geo) : List (KVToken geo) := H.prompt ++ H.appended

theorem length_tokens (H : History geo) :
    H.tokens.length = H.prompt.length + H.appended.length := List.length_append

end History

/-! ## Where the tokens of a history are -/

namespace ProviderConfig

variable (cfg : ProviderConfig)

abbrev Offloads (promptLen : Nat) : Prop := cfg.sinkTokens + cfg.recentTokens < promptLen

def sinkEnd (promptLen : Nat) : Nat := if cfg.Offloads promptLen then cfg.sinkTokens else promptLen

def candEnd (promptLen : Nat) : Nat :=
  if cfg.Offloads promptLen then promptLen - cfg.recentTokens else promptLen

/-- A short prompt leaves the recent window empty, and it then never holds more than the
newest token. -/
def recentStart (promptLen appendedLen : Nat) : Nat :=
  if cfg.Offloads promptLen then promptLen + appendedLen - cfg.recentTokens
  else promptLen + (appendedLen - 1)

/-- The tokens a long prompt leaves in the recent window: `[-0:]` is the whole prompt. -/
def windowLen (promptLen : Nat) : Nat :=
  if cfg.recentTokens = 0 then promptLen else cfg.recentTokens

def windowStart (promptLen appendedLen : Nat) : Nat :=
  if cfg.Offloads promptLen then promptLen + appendedLen - cfg.windowLen promptLen
  else promptLen + (appendedLen - 1)

variable {geo : KVGeometry}

def offloaded (prompt : List (KVToken geo)) : List (KVToken geo) :=
  slice prompt (cfg.sinkEnd prompt.length) (cfg.candEnd prompt.length)

/-- Block `bid` of the offloaded tokens. -/
def blockTokens (prompt : List (KVToken geo)) (bid : Nat) : List (KVToken geo) :=
  chunk cfg.tokensPerBlock (cfg.offloaded prompt) bid

def numBlocks (prompt : List (KVToken geo)) : Nat :=
  numChunks cfg.tokensPerBlock (cfg.offloaded prompt).length

def storedBlock (tokens : List (KVToken geo)) : NDArray × NDArray :=
  (blockArray cfg.tokensPerBlock (tokens.map Prod.fst),
    blockArray cfg.tokensPerBlock (tokens.map Prod.snd))

theorem sinkEnd_le_candEnd (n : Nat) : cfg.sinkEnd n ≤ cfg.candEnd n := by
  unfold sinkEnd candEnd
  split <;> omega

theorem candEnd_le (n : Nat) : cfg.candEnd n ≤ n := by
  unfold candEnd
  split <;> omega

theorem candEnd_le_recentStart (n m : Nat) : cfg.candEnd n ≤ cfg.recentStart n m := by
  unfold candEnd recentStart
  split <;> omega

theorem recentStart_le (n m : Nat) : cfg.recentStart n m ≤ n + m := by
  unfold recentStart
  split <;> omega

theorem recentStart_lt (hrecent : 0 < cfg.recentTokens) {n m : Nat} (h : 0 < n + m)
    (hnew : cfg.Offloads n ∨ 0 < m) : cfg.recentStart n m < n + m := by
  unfold recentStart
  split <;> omega

theorem windowLen_pos {n : Nat} (hlong : cfg.Offloads n) : 0 < cfg.windowLen n := by
  unfold windowLen
  split <;> omega

theorem windowLen_le {n : Nat} (hlong : cfg.Offloads n) : cfg.windowLen n ≤ n := by
  unfold windowLen
  split <;> omega

theorem windowStart_eq (hrecent : 0 < cfg.recentTokens) (n m : Nat) :
    cfg.windowStart n m = cfg.recentStart n m := by
  rw [windowStart, recentStart, windowLen, if_neg (Nat.ne_of_gt hrecent)]

theorem drop_windowStart_concat {α : Type*} (prompt appended : List α) (t : α) :
    ((prompt ++ appended).drop (cfg.windowStart prompt.length appended.length)).drop 1 ++ [t] =
      (prompt ++ (appended ++ [t])).drop
        (cfg.windowStart prompt.length (appended ++ [t]).length) := by
  have hlen : (prompt ++ appended).length = prompt.length + appended.length :=
    List.length_append
  rw [List.length_append, List.length_singleton, List.drop_drop, ← List.append_assoc]
  by_cases hlong : cfg.Offloads prompt.length
  · have hpos := cfg.windowLen_pos hlong
    have hle := cfg.windowLen_le hlong
    have hnext : cfg.windowStart prompt.length (appended.length + 1) =
        cfg.windowStart prompt.length appended.length + 1 := by
      simp only [windowStart, if_pos hlong]
      omega
    have hinside : cfg.windowStart prompt.length appended.length + 1 ≤
        (prompt ++ appended).length := by
      simp only [windowStart, if_pos hlong]
      omega
    rw [hnext, List.drop_append_of_le_length hinside]
  · -- of a short prompt only the newest token is in the window
    have hnext : cfg.windowStart prompt.length (appended.length + 1) =
        (prompt ++ appended).length := by
      simp only [windowStart, if_neg hlong]
      omega
    have hgone : (prompt ++ appended).length ≤
        cfg.windowStart prompt.length appended.length + 1 := by
      simp only [windowStart, if_neg hlong]
      omega
    rw [hnext, List.drop_left, List.drop_eq_nil_of_le hgone, List.nil_append]

theorem length_offloaded (prompt : List (KVToken geo)) :
    (cfg.offloaded prompt).length = cfg.candEnd prompt.length - cfg.sinkEnd prompt.length := by
  have hle := cfg.candEnd_le prompt.length
  rw [offloaded, length_slice]
  omega

theorem length_blockTokens (prompt : List (KVToken geo)) (bid : Nat) :
    (cfg.blockTokens prompt bid).length = min cfg.tokensPerBlock
      (cfg.candEnd prompt.length - cfg.sinkEnd prompt.length - bid * cfg.tokensPerBlock) := by
  rw [blockTokens, length_chunk, cfg.length_offloaded]

section Blocks

variable {cfg} {prompt : List (KVToken geo)} {bid : Nat}

theorem numBlocks_of_short (hshort : ¬ cfg.Offloads prompt.length) : cfg.numBlocks prompt = 0 := by
  rw [numBlocks, length_offloaded]
  simp only [candEnd, sinkEnd, if_neg hshort, Nat.sub_self, numChunks_nothing]

theorem offloads_of_block (hbid : bid < cfg.numBlocks prompt) : cfg.Offloads prompt.length := by
  by_contra hshort
  rw [numBlocks_of_short hshort] at hbid
  exact absurd hbid (Nat.not_lt_zero bid)

theorem tokensPerBlock_pos_of_block (hbid : bid < cfg.numBlocks prompt) :
    0 < cfg.tokensPerBlock :=
  pos_of_numChunks (Nat.zero_lt_of_lt hbid)

theorem block_start_lt (hbid : bid < cfg.numBlocks prompt) :
    bid * cfg.tokensPerBlock < cfg.candEnd prompt.length - cfg.sinkEnd prompt.length := by
  rw [← length_offloaded]
  exact (lt_numChunks_iff (tokensPerBlock_pos_of_block hbid) _ _).mp hbid

theorem blockTokens_pos (hbid : bid < cfg.numBlocks prompt) :
    0 < (cfg.blockTokens prompt bid).length := by
  have hpos := tokensPerBlock_pos_of_block hbid
  have hstart := block_start_lt hbid
  rw [length_blockTokens]
  omega

theorem mem_blocks {c : Nat × Nat} (hc : c ∈ (List.range (cfg.numBlocks prompt)).map fun bid =>
      (bid, (cfg.blockTokens prompt bid).length)) :
    c.1 < cfg.numBlocks prompt ∧ c.2 = (cfg.blockTokens prompt c.1).length := by
  obtain ⟨bid, hbid, rfl⟩ := List.mem_map.mp hc
  exact ⟨List.mem_range.mp hbid, rfl⟩

end Blocks

end ProviderConfig

/-! ## What a layer holds -/

variable {geo : KVGeometry}

structure LaidOut (cfg : ProviderConfig) (ld : LayerData geo) (H : History geo) : Prop where
  sinkK : ld.sinkK = (H.prompt.take (cfg.sinkEnd H.prompt.length)).map Prod.fst
  sinkV : ld.sinkV = (H.prompt.take (cfg.sinkEnd H.prompt.length)).map Prod.snd
  recentK : ld.recentK =
    (H.tokens.drop (cfg.windowStart H.prompt.length H.appended.length)).map Prod.fst
  recentV : ld.recentV =
    (H.tokens.drop (cfg.windowStart H.prompt.length H.appended.length)).map Prod.snd
  candidates : ld.candidateBlocks = (List.range (cfg.numBlocks H.prompt)).map fun bid =>
    (bid, (cfg.blockTokens H.prompt bid).length)
  total : ld.totalTokens = H.tokens.length

def StoredBlocks (cfg : ProviderConfig) (content : Nat × Nat → Option (NDArray × NDArray))
    (l : Nat) (prompt : List (KVToken geo)) : Prop :=
  ∀ bid < cfg.numBlocks prompt,
    content (l, bid) = some (cfg.storedBlock (cfg.blockTokens prompt bid))

structure Holds {geo : KVGeometry} (cfg : ProviderConfig)
    (content : Nat × Nat → Option (NDArray × NDArray)) (l : Nat) (ld : LayerData geo)
    (H : History geo) : Prop where
  sinkK : ld.sinkK = (H.prompt.take (cfg.sinkEnd H.prompt.length)).map Prod.fst
  sinkV : ld.sinkV = (H.prompt.take (cfg.sinkEnd H.prompt.length)).map Prod.snd
  recentK : ld.recentK =
    (H.tokens.drop (cfg.recentStart H.prompt.length H.appended.length)).map Prod.fst
  recentV : ld.recentV =
    (H.tokens.drop (cfg.recentStart H.prompt.length H.appended.length)).map Prod.snd
  candidates : ld.candidateBlocks = (List.range (cfg.numBlocks H.prompt)).map fun bid =>
    (bid, (cfg.blockTokens H.prompt bid).length)
  blocks : ∀ bid < cfg.numBlocks H.prompt,
    content (l, bid) = some (cfg.storedBlock (cfg.blockTokens H.prompt bid))
  total : ld.totalTokens = H.tokens.length

section Layer

variable {cfg : ProviderConfig} {content : Nat × Nat → Option (NDArray × NDArray)} {l : Nat}
  {ld : LayerData geo} {H : History geo}

theorem holds_iff (hrecent : 0 < cfg.recentTokens) :
    Holds cfg content l ld H ↔ LaidOut cfg ld H ∧ StoredBlocks cfg content l H.prompt := by
  have hstart := cfg.windowStart_eq hrecent H.prompt.length H.appended.length
  constructor
  · intro hold
    refine ⟨⟨hold.sinkK, hold.sinkV, ?_, ?_, hold.candidates, hold.total⟩, hold.blocks⟩
    · rw [hstart, hold.recentK]
    · rw [hstart, hold.recentV]
  · rintro ⟨hlaid, hstored⟩
    refine ⟨hlaid.sinkK, hlaid.sinkV, ?_, ?_, hlaid.candidates, hstored, hlaid.total⟩
    · rw [← hstart, hlaid.recentK]
    · rw [← hstart, hlaid.recentV]

theorem LaidOut.candidate (hlaid : LaidOut cfg ld H) {c : Nat × Nat}
    (hc : c ∈ ld.candidateBlocks) :
    c.1 < cfg.numBlocks H.prompt ∧ c.2 = (cfg.blockTokens H.prompt c.1).length := by
  rw [hlaid.candidates] at hc
  exact ProviderConfig.mem_blocks hc

theorem LaidOut.block_pos (hlaid : LaidOut cfg ld H) {c : Nat × Nat}
    (hc : c ∈ ld.candidateBlocks) : 0 < c.2 := by
  obtain ⟨hbid, hlen⟩ := hlaid.candidate hc
  rw [hlen]
  exact ProviderConfig.blockTokens_pos hbid

/-- An appended token enters the recent window and the oldest one slides out. -/
theorem LaidOut.append (hlaid : LaidOut cfg ld H) (kTok vTok : TokenRow geo) :
    LaidOut cfg
      { ld with
        recentK := ld.recentK.drop 1 ++ [kTok]
        recentV := ld.recentV.drop 1 ++ [vTok]
        totalTokens := ld.totalTokens + 1 }
      ⟨H.prompt, H.appended ++ [(kTok, vTok)]⟩ := by
  have hslide := cfg.drop_windowStart_concat H.prompt H.appended (kTok, vTok)
  have hrows : ∀ row : KVToken geo → TokenRow geo,
      ((H.tokens.drop (cfg.windowStart H.prompt.length H.appended.length)).map row).drop 1 ++
          [row (kTok, vTok)] =
        ((H.prompt ++ (H.appended ++ [(kTok, vTok)])).drop (cfg.windowStart H.prompt.length
          (H.appended ++ [(kTok, vTok)]).length)).map row := by
    intro row
    rw [← hslide, History.tokens, ← List.map_drop, List.map_append, List.map_singleton]
  constructor
  case sinkK => exact hlaid.sinkK
  case sinkV => exact hlaid.sinkV
  case candidates => exact hlaid.candidates
  case recentK =>
    show ld.recentK.drop 1 ++ [kTok] = _
    rw [hlaid.recentK]
    exact hrows Prod.fst
  case recentV =>
    show ld.recentV.drop 1 ++ [vTok] = _
    rw [hlaid.recentV]
    exact hrows Prod.snd
  case total =>
    simp only [hlaid.total, History.length_tokens, List.length_append, List.length_singleton]
    omega

end Layer

namespace TransformerKVStateProvider

variable {σ : Type v} {α : Type u} {B : BlockBackend σ α} {cfg : ProviderConfig}
  {V : B.ReturnsLastWrite} {s : TransformerKVStateProvider geo σ}

/-! ## Prefill lays a layer out -/

/-- The ids and lengths that a finished block loop returns. -/
theorem offloadBlocks_candidates (l : Nat) (tokens : List (KVToken geo))
    (vT : List (TokenRow geo)) (count bid : Nat) (b : σ) {cands : List (Nat × Nat)}
    (hloop : (offloadBlocks B cfg l (tokens.map Prod.fst) vT count bid b).1 = .ok cands) :
    cands = (List.range' bid count).map fun i =>
      (i, (chunk cfg.tokensPerBlock tokens i).length) := by
  induction count generalizing bid b cands with
  | zero =>
      cases hloop
      rfl
  | succ count ih =>
      simp only [offloadBlocks] at hloop
      split at hloop
      · cases hloop
      · split at hloop
        · cases hloop
        · rename_i rest _ hrest
          cases hloop
          rw [ih (bid + 1) _ (congrArg Prod.fst hrest), List.range'_succ, List.map_cons]
          congr 2
          simp only [length_chunk, List.length_map]
          omega

theorem offload_candidates (l : Nat) {tokens : List (KVToken geo)}
    (hlong : cfg.Offloads tokens.length) (vT : List (TokenRow geo)) (b : σ)
    {cands : List (Nat × Nat)}
    (hloop : (offload B cfg l (slice (tokens.map Prod.fst) cfg.sinkTokens
      (tokens.length - cfg.recentTokens)) vT b).1 = .ok cands) :
    cands = (List.range (cfg.numBlocks tokens)).map fun i =>
      (i, (cfg.blockTokens tokens i).length) := by
  have hoff : slice tokens cfg.sinkTokens (tokens.length - cfg.recentTokens) =
      cfg.offloaded tokens := by
    simp only [ProviderConfig.offloaded, ProviderConfig.sinkEnd, ProviderConfig.candEnd,
      if_pos hlong]
  unfold offload at hloop
  split at hloop
  · cases hloop
  · rw [← map_slice, hoff, List.length_map] at hloop
    rw [List.range_eq_range']
    exact offloadBlocks_candidates l _ vT _ 0 b hloop

theorem lastN_eq_drop {tokens : List (KVToken geo)} (hlong : cfg.Offloads tokens.length)
    (row : KVToken geo → TokenRow geo) :
    lastN cfg.recentTokens (tokens.map row) =
      ((tokens ++ []).drop (cfg.windowStart tokens.length 0)).map row := by
  simp only [lastN, ProviderConfig.windowStart, ProviderConfig.windowLen, if_pos hlong,
    List.append_nil, List.map_drop, List.length_map, Nat.add_zero]
  split
  · rw [Nat.sub_self, List.drop_zero]
  · rfl

variable (B cfg) in
/-- A layer's prefill sets the layer to what its prompt makes of it, or raises and sets no
layer. -/
theorem prefillLayer_laidOut (s : TransformerKVStateProvider geo σ) (l : Nat)
    (tokens : List (KVToken geo)) :
    (∃ err backend, prefillLayer B cfg s l tokens = (.error err, { s with backend := backend })) ∨
      ∃ backend ld, prefillLayer B cfg s l tokens =
        (.ok (), { s with backend := backend, layerData := s.layerData.set l ld }) ∧
        LaidOut cfg ld ⟨tokens, []⟩ := by
  unfold prefillLayer
  dsimp only
  split
  · rename_i hfit
    have hshort : ¬ cfg.Offloads tokens.length := Nat.not_lt.mpr hfit
    refine Or.inr ⟨s.backend, _, rfl, ?_⟩
    constructor <;>
      simp [ProviderConfig.sinkEnd, ProviderConfig.windowStart, if_neg hshort, History.tokens,
        ProviderConfig.numBlocks_of_short hshort]
  · rename_i hnot
    have hlong : cfg.Offloads tokens.length := Nat.not_le.mp hnot
    rw [if_pos (by omega)]
    split
    · exact Or.inl ⟨_, _, rfl⟩
    · rename_i cands backend hload
      refine Or.inr ⟨backend, _, rfl, ?_⟩
      constructor
      case sinkK => simp only [ProviderConfig.sinkEnd, if_pos hlong, List.map_take]
      case sinkV => simp only [ProviderConfig.sinkEnd, if_pos hlong, List.map_take]
      case recentK => exact lastN_eq_drop hlong Prod.fst
      case recentV => exact lastN_eq_drop hlong Prod.snd
      case candidates => exact offload_candidates l hlong _ _ (congrArg Prod.fst hload)
      case total => simp [History.tokens]

/-! ## Prefill over a store that returns the last write -/

variable (cfg) in
theorem offloadBlocks_ok (l : Nat) (tokens : List (KVToken geo)) (count bid : Nat) {b : σ}
    (hb : V.Valid b) :
    ∃ b', offloadBlocks B cfg l (tokens.map Prod.fst) (tokens.map Prod.snd) count bid b =
        (.ok ((List.range' bid count).map fun i =>
          (i, (chunk cfg.tokensPerBlock tokens i).length)), b') ∧
      V.Valid b' ∧ ∀ l' i, V.content b' (l', i) =
        if l' = l ∧ bid ≤ i ∧ i < bid + count then
          some (cfg.storedBlock (chunk cfg.tokensPerBlock tokens i))
        else V.content b (l', i) := by
  induction count generalizing bid b with
  | zero =>
      refine ⟨b, rfl, hb, ?_⟩
      intro l' i
      rw [if_neg (by omega)]
  | succ count ih =>
      have hk : slice (tokens.map Prod.fst) (bid * cfg.tokensPerBlock)
          (min (bid * cfg.tokensPerBlock + cfg.tokensPerBlock) (tokens.map Prod.fst).length) =
          (chunk cfg.tokensPerBlock tokens bid).map Prod.fst := by
        rw [slice_eq_chunk, map_chunk]
      have hlen : tokens.length = (tokens.map Prod.snd).length := (List.length_map _).symm
      have hv : slice (tokens.map Prod.snd) (bid * cfg.tokensPerBlock)
          (min (bid * cfg.tokensPerBlock + cfg.tokensPerBlock) (tokens.map Prod.fst).length) =
          (chunk cfg.tokensPerBlock tokens bid).map Prod.snd := by
        rw [List.length_map, hlen, slice_eq_chunk, map_chunk]
      have hcount : min (bid * cfg.tokensPerBlock + cfg.tokensPerBlock)
          (tokens.map Prod.fst).length - bid * cfg.tokensPerBlock =
          (chunk cfg.tokensPerBlock tokens bid).length := by
        rw [length_chunk, List.length_map]
        omega
      have hwrite := V.write_ok b l bid
        (cfg.storedBlock (chunk cfg.tokensPerBlock tokens bid)).1
        (cfg.storedBlock (chunk cfg.tokensPerBlock tokens bid)).2 0 0 hb
        (blockArray_shape_ne _ _) (blockArray_shape_ne _ _)
      have hvalid := V.write_valid b l bid
        (cfg.storedBlock (chunk cfg.tokensPerBlock tokens bid)).1
        (cfg.storedBlock (chunk cfg.tokensPerBlock tokens bid)).2 0 0 hb
        (blockArray_shape_ne _ _) (blockArray_shape_ne _ _)
      have hcontent := V.write_content b l bid
        (cfg.storedBlock (chunk cfg.tokensPerBlock tokens bid)).1
        (cfg.storedBlock (chunk cfg.tokensPerBlock tokens bid)).2 0 0 hb
        (blockArray_shape_ne _ _) (blockArray_shape_ne _ _)
      rcases hcall : B.writeBlock b l bid
        (cfg.storedBlock (chunk cfg.tokensPerBlock tokens bid)).1
        (cfg.storedBlock (chunk cfg.tokensPerBlock tokens bid)).2 0 0 with ⟨out, b₁⟩
      rw [hcall] at hwrite hvalid hcontent
      obtain ⟨b', hloop, hvalid', hcontent'⟩ := ih (bid + 1) hvalid
      refine ⟨b', ?_, hvalid', ?_⟩
      · rw [ProviderConfig.storedBlock] at hcall
        cases hwrite
        simp only [offloadBlocks, hk, hv, hcount, hcall, hloop]
        rw [List.range'_succ, List.map_cons]
      · intro l' i
        rw [hcontent' l' i, hcontent]
        by_cases hl : l' = l
        · subst hl
          by_cases hi : i = bid
          · subst hi
            rw [if_neg (by omega), if_pos (by omega), Function.update_self]
          · rw [Function.update_of_ne (by simp [hi])]
            by_cases hin : bid + 1 ≤ i ∧ i < bid + 1 + count
            · rw [if_pos ⟨rfl, hin⟩, if_pos (by omega)]
            · rw [if_neg (fun h => hin h.2), if_neg (by omega)]
        · rw [if_neg (fun h => hl h.1), if_neg (fun h => hl h.1),
            Function.update_of_ne (by simp [hl])]

theorem offload_ok (hpos : 0 < cfg.tokensPerBlock) {b : σ} (hb : V.Valid b) (l : Nat)
    {tokens : List (KVToken geo)} (hlong : cfg.Offloads tokens.length) :
    ∃ b', offload B cfg l
        (slice (tokens.map Prod.fst) cfg.sinkTokens (tokens.length - cfg.recentTokens))
        (slice (tokens.map Prod.snd) cfg.sinkTokens (tokens.length - cfg.recentTokens)) b =
          (.ok ((List.range (cfg.numBlocks tokens)).map fun i =>
            (i, (cfg.blockTokens tokens i).length)), b') ∧
      V.Valid b' ∧ ∀ l' i, V.content b' (l', i) =
        if l' = l ∧ 0 ≤ i ∧ i < 0 + cfg.numBlocks tokens then
          some (cfg.storedBlock (cfg.blockTokens tokens i))
        else V.content b (l', i) := by
  have hoff : slice tokens cfg.sinkTokens (tokens.length - cfg.recentTokens) =
      cfg.offloaded tokens := by
    rw [ProviderConfig.offloaded, ProviderConfig.sinkEnd, ProviderConfig.candEnd, if_pos hlong,
      if_pos hlong]
  obtain ⟨b', hloop, hvalid, hcontent⟩ := offloadBlocks_ok (B := B) cfg l
    (cfg.offloaded tokens) (cfg.numBlocks tokens) 0 hb
  refine ⟨b', ?_, hvalid, hcontent⟩
  rw [offload, if_neg (Nat.ne_of_gt hpos), ← map_slice, ← map_slice, hoff, List.length_map,
    List.range_eq_range']
  exact hloop

variable (B cfg) in
/-- A layer's prefill goes through unless it has to cut blocks of no tokens. It stores the
blocks of its prompt and touches no other layer's. -/
theorem prefillLayer_stores (hs : V.Valid s.backend) (l : Nat) (tokens : List (KVToken geo))
    (hcut : cfg.Offloads tokens.length → 0 < cfg.tokensPerBlock) :
    ∃ backend ld, prefillLayer B cfg s l tokens =
        (.ok (), { s with backend := backend, layerData := s.layerData.set l ld }) ∧
      V.Valid backend ∧ StoredBlocks cfg (V.content backend) l tokens ∧
      ∀ l' i, l' ≠ l → V.content backend (l', i) = V.content s.backend (l', i) := by
  by_cases hlong : cfg.Offloads tokens.length
  · obtain ⟨b', hload, hvalid, hcontent⟩ := offload_ok (B := B) (hcut hlong) hs l hlong
    have hcall : ∃ ld, prefillLayer B cfg s l tokens =
        (.ok (), { s with backend := b', layerData := s.layerData.set l ld }) := by
      simp only [prefillLayer, if_neg (Nat.not_le.mpr hlong),
        if_pos (show tokens.length - cfg.recentTokens > cfg.sinkTokens by omega), hload]
      exact ⟨_, rfl⟩
    obtain ⟨ld, hcall⟩ := hcall
    refine ⟨b', ld, hcall, hvalid, ?_, ?_⟩
    · intro bid hbid
      rw [hcontent l bid, if_pos (by omega)]
    · intro l' i hl
      rw [hcontent l' i, if_neg fun h => hl h.1]
  · have hcall : ∃ ld, prefillLayer B cfg s l tokens =
        (.ok (), { s with layerData := s.layerData.set l ld }) := by
      simp only [prefillLayer, if_pos (Nat.not_lt.mp hlong)]
      exact ⟨_, rfl⟩
    obtain ⟨ld, hcall⟩ := hcall
    refine ⟨s.backend, ld, hcall, hs, ?_, fun _ _ _ => rfl⟩
    intro bid hbid
    exact absurd (ProviderConfig.offloads_of_block hbid) hlong

end TransformerKVStateProvider

end AiSsd.Adapters
