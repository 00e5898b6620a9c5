import AiSsd.Storage.MockSsd
import AiSsd.Tiering.History

/-!
# Runs of the tiering manager

The eviction loop, prefill and append preserve the represented history, so every
run does. What a represented history means for the blocks of a layer is read off
at the end: they tile it, their data is retrievable and is all of it.
-/

namespace AiSsd.Tiering

open Lib

universe u v w

namespace TieredKVManager

variable {σ : Type w} {α : Type u} {β : Type v} {policy : TieringPolicy} {S : KVStorage σ α β}
  {R : S.ReturnsStored} {before : Nat → Nat → Option (List α × List β)}
  {m : TieredKVManager σ α β} {hist : Nat → List (α × β)}

/-! ## The eviction loop -/

theorem blockPool_offload {l : Nat} {b : KVBlock α β} (hok : (offload S m l b).1 = .ok ()) :
    (offload S m l b).2.blockPool = m.blockPool.assign (offloaded b) := by
  unfold offload at hok ⊢
  revert hok
  rcases S.storeKv m.storage b.blockId l b.kData b.vData with ⟨_ | _, storage⟩
  · intro hok
    cases hok
  · intro _
    rfl

/-- What a pass over `ids` leaves behind. -/
structure Swept (m m' : TieredKVManager σ α β) (leaves : KVBlock α β → Bool) (ids : List Nat) :
    Prop where
  layerIds_eq : ∀ l, m'.blockPool.layerIds l = m.blockPool.layerIds l
  others : ∀ id, id ∉ ids → m'.blockPool.getBlock id = m.blockPool.getBlock id
  stays : ∀ id ∈ ids, ∀ b, m'.blockPool.getBlock id = some b → b.isInRam = true →
    leaves b = false

/-- One more block, stored or kept, before the others. -/
theorem Swept.cons {m₁ m' : TieredKVManager σ α β} {leaves : KVBlock α β → Bool} {id : Nat}
    {ids : List Nat} (h : Swept m₁ m' leaves ids) (hnew : id ∉ ids)
    (hlayers : ∀ l, m₁.blockPool.layerIds l = m.blockPool.layerIds l)
    (hothers : ∀ id', id ≠ id' → m₁.blockPool.getBlock id' = m.blockPool.getBlock id')
    (hstays : ∀ b, m₁.blockPool.getBlock id = some b → b.isInRam = true → leaves b = false) :
    Swept m m' leaves (id :: ids) where
  layerIds_eq := fun l => (h.layerIds_eq l).trans (hlayers l)
  others := by
    intro id' hnot
    rw [List.mem_cons, not_or] at hnot
    rw [h.others id' hnot.2, hothers id' (Ne.symm hnot.1)]
  stays := by
    intro id' hid' b hb hram
    rcases List.mem_cons.mp hid' with rfl | hmem
    · rw [h.others id' hnew] at hb
      exact hstays b hb hram
    · exact h.stays id' hmem b hb hram

theorem represents_evictLoop {l : Nat} (leaves : KVBlock α β → Bool) {ids : List Nat}
    (h : Represents policy R before m hist) (hnodup : ids.Nodup)
    (hids : ∀ id ∈ ids, id ∈ m.blockPool.layerIds l)
    (hcold : ∀ b, leaves b = true → HotColdClassifier.isHot policy b (hist l).length = false)
    (hram : ∀ id ∈ ids, ∀ b, m.blockPool.getBlock id = some b → leaves b = true →
      b.isInRam = true) :
    (evictLoop S l leaves ids m).1 = .ok () ∧
      Represents policy R before (evictLoop S l leaves ids m).2 hist ∧
        Swept m (evictLoop S l leaves ids m).2 leaves ids := by
  induction ids generalizing m with
  | nil => exact ⟨rfl, h, ⟨fun _ => rfl, fun _ _ => rfl, fun _ hid => absurd hid List.not_mem_nil⟩⟩
  | cons id ids ih =>
      rw [List.nodup_cons] at hnodup
      obtain ⟨b, hb, _, hbid⟩ := h.linked.home l id (hids id List.mem_cons_self)
      by_cases hl : leaves b = true
      · obtain ⟨i, hi⟩ := List.mem_iff_getElem?.mp (hids id List.mem_cons_self)
        have hpos : (m.blockPool.getLayerBlocks l)[i]? = some b := by
          rw [h.linked.getLayerBlocks_getElem?_iff, hbid]
          exact ⟨hi, hb⟩
        obtain ⟨hok, hrep⟩ :=
          represents_offload h hpos (hram id List.mem_cons_self b hb hl) (hcold b hl)
        have hpool := blockPool_offload hok
        have hget : ∀ id', id ≠ id' →
            (offload S m l b).2.blockPool.getBlock id' = m.blockPool.getBlock id' := by
          intro id' hne
          rw [hpool, KVBlockPool.getBlock_assign]
          exact if_neg fun hk => hne (hbid.symm.trans hk)
        have hloop : evictLoop S l leaves (id :: ids) m =
            evictLoop S l leaves ids (offload S m l b).2 := by
          simp only [evictLoop, hb, hl, if_true]
          revert hok
          rcases offload S m l b with ⟨_ | _, m'⟩
          · intro hok
            cases hok
          · intro _
            rfl
        obtain ⟨hdone, hrep', hswept⟩ := ih hrep hnodup.2
          (fun id' hid' => by
            rw [hpool, KVBlockPool.layerIds_assign]
            exact hids id' (List.mem_cons_of_mem id hid'))
          (fun id' hid' c hc => by
            have hne : id ≠ id' := fun heq => hnodup.1 (heq ▸ hid')
            rw [hget id' hne] at hc
            exact hram id' (List.mem_cons_of_mem id hid') c hc)
        rw [hloop]
        refine ⟨hdone, hrep', hswept.cons hnodup.1 (fun l' => ?_) hget fun c hc hr => ?_⟩
        · rw [hpool, KVBlockPool.layerIds_assign]
        · rw [hpool, KVBlockPool.getBlock_assign] at hc
          rw [if_pos (show (offloaded b).blockId = id from hbid), Option.some.injEq] at hc
          subst hc
          cases hr
      · have hloop : evictLoop S l leaves (id :: ids) m = evictLoop S l leaves ids m := by
          simp only [evictLoop, hb, hl]
          rfl
        obtain ⟨hdone, hrep', hswept⟩ := ih h hnodup.2
          (fun id' hid' => hids id' (List.mem_cons_of_mem id hid'))
          (fun id' hid' => hram id' (List.mem_cons_of_mem id hid'))
        rw [hloop]
        refine ⟨hdone, hrep', hswept.cons hnodup.1 (fun _ => rfl) (fun _ _ => rfl) fun c hc _ => ?_⟩
        rw [hb, Option.some.injEq] at hc
        subst hc
        exact Bool.eq_false_iff.mpr hl

/-! ## Prefill -/

/-- Pass `n` of the prefill loop allocates the block of chunk `n`. -/
theorem prefillBlock_eq {l n : Nat} {rows : List (α × β)} (pool : KVBlockPool α β) :
    prefillBlock policy l (keyRows rows) (valueRows rows) pool n =
      pool.allocateBlock l (n * policy.tokensPerBlock) (chunk policy.tokensPerBlock rows n).length
        (some (keyRows (chunk policy.tokensPerBlock rows n)))
        (some (valueRows (chunk policy.tokensPerBlock rows n)))
        (decide (((n * policy.tokensPerBlock : Nat) : Int) < policy.sinkTokens)) := by
  have hk := slice_eq_chunk policy.tokensPerBlock (keyRows rows) n
  have hv := slice_eq_chunk policy.tokensPerBlock (valueRows rows) n
  have hlenk : (keyRows rows).length = rows.length := List.length_map _
  have hlenv : (valueRows rows).length = rows.length := List.length_map _
  have hcnt : min (n * policy.tokensPerBlock + policy.tokensPerBlock) rows.length -
      n * policy.tokensPerBlock = (chunk policy.tokensPerBlock rows n).length := by
    rw [length_chunk]
    omega
  have hchunkk : keyRows (chunk policy.tokensPerBlock rows n) =
      chunk policy.tokensPerBlock (keyRows rows) n := map_chunk _ _ _ _
  have hchunkv : valueRows (chunk policy.tokensPerBlock rows n) =
      chunk policy.tokensPerBlock (valueRows rows) n := map_chunk _ _ _ _
  rw [hlenk] at hk
  rw [hlenv] at hv
  simp only [prefillBlock, hlenk, hk, hv, hcnt, hchunkk, hchunkv]

/-- After `n` passes the layer holds the first `n` chunks, all of them in RAM. -/
theorem represents_prefillBlocks (h : Represents policy R before m hist) {l : Nat}
    (hempty : hist l = []) (rows : List (α × β)) {n : Nat}
    (hn : n ≤ numChunks policy.tokensPerBlock rows.length) :
    let r := prefillBlocks policy l (keyRows rows) (valueRows rows) m.blockPool n
    Represents policy R before { m with blockPool := r.2 }
        (Function.update hist l (rows.take (n * policy.tokensPerBlock))) ∧
      r.2.layerIds l = r.1 ∧
        ∀ id ∈ r.1, ∀ b, r.2.getBlock id = some b → b.isInRam = true := by
  induction n with
  | zero =>
      have hids : m.blockPool.layerIds l = [] := by
        apply List.eq_nil_of_length_eq_zero
        rw [h.count l, hempty]
        exact numChunks_zero policy.block_pos
      refine ⟨?_, hids, fun id hid => absurd hid List.not_mem_nil⟩
      rw [Nat.zero_mul, List.take_zero, ← hempty, Function.update_eq_self]
      exact h
  | succ n ih =>
      obtain ⟨hrep, hids, hram⟩ := ih (by omega)
      have hlt : n * policy.tokensPerBlock < rows.length :=
        (lt_numChunks_iff policy.block_pos rows.length n).mp (by omega)
      have hchunk := length_chunk policy.tokensPerBlock rows n
      have hpos := policy.block_pos
      have hne : chunk policy.tokensPerBlock rows n ≠ [] :=
        List.ne_nil_of_length_pos (by omega)
      have hlen : ((Function.update hist l (rows.take (n * policy.tokensPerBlock))) l).length =
          n * policy.tokensPerBlock := by
        rw [Function.update_self, List.length_take]
        omega
      have hnext := represents_allocate hrep
        (decide (((n * policy.tokensPerBlock : Nat) : Int) < policy.sinkTokens)) hlen hne (by omega)
        of_decide_eq_true
      have htake : rows.take (n * policy.tokensPerBlock) ++ chunk policy.tokensPerBlock rows n =
          rows.take ((n + 1) * policy.tokensPerBlock) := by
        rw [Nat.add_mul, Nat.one_mul, List.take_add]
        rfl
      rw [Function.update_self, Function.update_idem, htake] at hnext
      simp only [prefillBlocks, prefillBlock_eq]
      refine ⟨hnext, ?_, ?_⟩
      · rw [KVBlockPool.layerIds_allocate, if_pos rfl, hids]
        rfl
      · intro id hid b hb
        rw [KVBlockPool.getBlock_allocate] at hb
        split at hb
        · cases hb
          rfl
        · rename_i hnew
          rw [List.mem_append, List.mem_singleton] at hid
          rcases hid with hid | hid
          · exact hram id hid b hb
          · exact absurd hid.symm hnew

/-- A prefill of an empty layer never raises and leaves the prefilled rows represented. -/
theorem represents_prefill (h : Represents policy R before m hist) {l : Nat} (hempty : hist l = [])
    (rows : List (α × β)) :
    (prefillSequence policy S m l (keyRows rows) (valueRows rows)).1 = .ok () ∧
      Represents policy R before (prefillSequence policy S m l (keyRows rows) (valueRows rows)).2
        (Function.update hist l (hist l ++ rows)) := by
  have hlenk : (keyRows rows).length = rows.length := List.length_map _
  obtain ⟨hrep, hids, hram⟩ :=
    represents_prefillBlocks h hempty rows (Nat.le_refl (numChunks policy.tokensPerBlock rows.length))
  have hall : rows.take (numChunks policy.tokensPerBlock rows.length * policy.tokensPerBlock) =
      rows := by
    rw [← flatten_range_chunk]
    exact flatten_chunks policy.block_pos rows
  rw [hall] at hrep
  have hloop := represents_evictLoop
    (fun block => !HotColdClassifier.isHot policy block rows.length) hrep
    (hids ▸ hrep.linked.nodup l) (fun id hid => by rw [hids]; exact hid)
    (fun b hb => by
      rw [Function.update_self]
      simpa using hb)
    (fun id hid b hb _ => hram id hid b hb)
  rw [hempty, List.nil_append]
  simp only [prefillSequence, hlenk]
  exact ⟨hloop.1, hloop.2.1⟩

/-! ## Append -/

theorem totalTokens_eq (h : Represents policy R before m hist) (l : Nat) :
    m.totalTokens l = (hist l).length := by
  have hcounts : (m.blockPool.getLayerBlocks l).map (fun b => b.tokenCount) =
      ((m.blockPool.getLayerBlocks l).map (rowsOf policy (hist l))).map List.length := by
    rw [List.map_map]
    exact List.map_congr_left fun b hb => (h.placed_mem hb).count_eq
  unfold totalTokens
  rw [hcounts, h.map_rowsOf l, ← List.length_flatten, flatten_chunks policy.block_pos]

theorem represents_placeToken (h : Represents policy R before m hist) (l : Nat) (k : α) (v : β) :
    Represents policy R before (placeToken policy m l k v)
      (Function.update hist l (hist l ++ [(k, v)])) := by
  have hone : [(k, v)].length ≤ policy.tokensPerBlock := policy.block_pos
  have hlen := h.length_getLayerBlocks l
  unfold placeToken
  rw [totalTokens_eq h l]
  cases hlast : (m.blockPool.getLayerBlocks l).getLast? with
  | none =>
      rw [List.getLast?_eq_none_iff.mp hlast, List.length_nil] at hlen
      have hzero : (hist l).length = 0 * policy.tokensPerBlock := by
        by_contra hne
        have := (lt_numChunks_iff policy.block_pos (hist l).length 0).mpr (by omega)
        omega
      have hnext := represents_allocate h false hzero (List.cons_ne_nil (k, v) []) hone
        (fun hf => by cases hf)
      rw [← hzero] at hnext
      exact hnext
  | some b =>
      dsimp only
      by_cases hroom : b.tokenCount < policy.tokensPerBlock
      · rw [if_pos hroom]
        exact represents_grow h hlast hroom k v
      · rw [if_neg hroom]
        -- a full last block: the history ends at a block boundary
        rw [List.getLast?_eq_getElem?] at hlast
        have hcount := (h.placed_getElem? hlast).count_eq
        have hlt := (List.getElem?_eq_some_iff.mp hlast).choose
        rw [length_chunk, hlen] at hcount
        have hbound : (hist l).length ≤
            numChunks policy.tokensPerBlock (hist l).length * policy.tokensPerBlock := by
          by_contra hgt
          exact Nat.lt_irrefl _ ((lt_numChunks_iff policy.block_pos _ _).mpr (Nat.lt_of_not_le hgt))
        generalize numChunks policy.tokensPerBlock (hist l).length = n at hcount hbound hlen
        obtain ⟨n, rfl⟩ : ∃ n', n = n' + 1 := ⟨n - 1, by omega⟩
        rw [Nat.add_sub_cancel] at hcount
        rw [Nat.add_mul, Nat.one_mul] at hbound
        have hfull : (hist l).length = (n + 1) * policy.tokensPerBlock := by
          have hpos := policy.block_pos
          rw [Nat.add_mul, Nat.one_mul]
          omega
        have hnext := represents_allocate h false hfull (List.cons_ne_nil (k, v) []) hone
          (fun hf => by cases hf)
        rw [← hfull] at hnext
        exact hnext

/-- A decode step never raises; afterwards the blocks in RAM are the hot ones. -/
theorem represents_append (h : Represents policy R before m hist) (l : Nat) (k : α) (v : β) :
    (appendToken policy S m l k v).1 = .ok () ∧
      Represents policy R before (appendToken policy S m l k v).2
        (Function.update hist l (hist l ++ [(k, v)])) ∧
      ∀ b ∈ (appendToken policy S m l k v).2.blockPool.getLayerBlocks l,
        b.isInRam = HotColdClassifier.isHot policy b
          ((appendToken policy S m l k v).2.totalTokens l) := by
  have hplace := represents_placeToken h l k v
  have htotal := totalTokens_eq hplace l
  have hleaves : ∀ b : KVBlock α β, leavesRam policy ((placeToken policy m l k v).totalTokens l) b = true →
      b.isInRam = true ∧ b.isPinned = false ∧
        HotColdClassifier.isHot policy b
          (Function.update hist l (hist l ++ [(k, v)]) l).length = false := by
    intro b hb
    rw [htotal] at hb
    simpa [leavesRam, and_assoc] using hb
  obtain ⟨hdone, hrep, hswept⟩ := represents_evictLoop _ hplace (hplace.linked.nodup l)
    (fun id hid => hid) (fun b hb => (hleaves b hb).2.2) (fun id _ b _ hb => (hleaves b hb).1)
  refine ⟨hdone, hrep, ?_⟩
  intro b hb
  obtain ⟨i, hi⟩ := List.mem_iff_getElem?.mp hb
  obtain ⟨hid, hget⟩ := hrep.linked.getLayerBlocks_getElem?_iff.mp hi
  have hp := hrep.placed_getElem? hi
  have hfinal := totalTokens_eq hrep l
  unfold appendToken
  dsimp only
  rw [hfinal]
  cases hram : b.isInRam with
  | false => exact (hp.cold hram).2.symm
  | true =>
      have hmem : b.blockId ∈ (placeToken policy m l k v).blockPool.layerIds l := by
        rw [← hswept.layerIds_eq l]
        exact List.mem_of_getElem? hid
      have hstays := hswept.stays _ hmem b hget hram
      rw [htotal] at hstays
      by_contra hcold
      have hcold' := Bool.eq_false_iff.mpr (Ne.symm hcold)
      have hpinned : b.isPinned = true := by
        cases hpin : b.isPinned with
        | true => rfl
        | false =>
            rw [leavesRam, hram, hpin, hcold'] at hstays
            cases hstays
      -- pinned blocks are sink blocks, and sink blocks are hot
      have hsink := hp.pinned hpinned
      have := ((HotColdClassifier.isHot_eq_false_iff policy b _).mp hcold').1
      omega

/-! ## Whole runs -/

theorem history_concat (ops : List (Op α β)) (op : Op α β) (l : Nat) :
    history (ops ++ [op]) l = history ops l ++ op.adds l := by
  simp only [history, List.flatMap_append, List.flatMap_cons, List.flatMap_nil, List.append_nil]

theorem history_eq_nil {ops : List (Op α β)} {l : Nat} (h : ∀ op ∈ ops, op.target ≠ some l) :
    history ops l = [] := by
  rw [history, List.flatMap_eq_nil_iff]
  intro op hop
  have ht := h op hop
  cases op with
  | prefill l' rows => exact if_neg fun heq => ht (congrArg some heq)
  | append l' k v => exact if_neg fun heq => ht (congrArg some heq)
  | fetch id l' => rfl

theorem prefillOnce_concat {ops : List (Op α β)} {op : Op α β} (h : PrefillOnce (ops ++ [op])) :
    PrefillOnce ops ∧ ∀ l rows, op = .prefill l rows → history ops l = [] := by
  obtain ⟨hops, _, hcross⟩ := List.pairwise_append.mp h
  refine ⟨hops, ?_⟩
  intro l rows hop
  exact history_eq_nil fun earlier hmem =>
    hcross earlier hmem op List.mem_cons_self l rows hop

theorem adds_target (l : Nat) (ys : List (α × β)) (hist : Nat → List (α × β)) :
    Function.update hist l (hist l ++ ys) = fun l' => hist l' ++ if l = l' then ys else [] := by
  funext l'
  by_cases hl : l = l'
  · subst hl
    rw [Function.update_self, if_pos rfl]
  · rw [Function.update_of_ne (Ne.symm hl), if_neg hl, List.append_nil]

theorem represents_step (h : Represents policy R before m hist) (op : Op α β)
    (hfirst : ∀ l rows, op = .prefill l rows → hist l = []) (hown : FetchesOwn S m op) :
    Represents policy R before (step policy S m op).2 fun l => hist l ++ op.adds l := by
  cases op with
  | prefill l rows =>
      have hnext := (represents_prefill h (hfirst l rows rfl) rows).2
      rw [adds_target] at hnext
      exact hnext
  | append l k v =>
      have hnext := (represents_append h l k v).2.1
      rw [adds_target] at hnext
      exact hnext
  | fetch id l =>
      have hsame : (fun l' => hist l' ++ (Op.fetch id l : Op α β).adds l') = hist :=
        funext fun l' => List.append_nil (hist l')
      rw [hsame]
      exact represents_fetch h hown

theorem represents_concat {storage : σ} {ops : List (Op α β)} {op : Op α β}
    (h : Represents policy R before ((machine policy S).exec (init storage) ops) (history ops))
    (honce : PrefillOnce (ops ++ [op]))
    (hown : FetchesOwn S ((machine policy S).exec (init storage) ops) op) :
    Represents policy R before ((machine policy S).exec (init storage) (ops ++ [op]))
      (history (ops ++ [op])) := by
  have hnext := represents_step h op (prefillOnce_concat honce).2 hown
  rw [Machine.exec_concat]
  have hhist : history (ops ++ [op]) = fun l => history ops l ++ op.adds l :=
    funext fun l => history_concat ops op l
  rw [hhist]
  exact hnext

/-- Every run whose fetches bring blocks back as they were represents the tokens its operations
added, whatever storage held before. -/
theorem represents_run {storage : σ} {ops : List (Op α β)} (honce : PrefillOnce ops)
    (hown : (machine policy S).Meets (FetchesOwn S) (init storage) ops) :
    Represents policy R (R.view storage) ((machine policy S).exec (init storage) ops)
      (history ops) := by
  induction ops using List.reverseRecOn with
  | nil => exact represents_init storage
  | append_singleton ops op ih =>
      rw [Machine.meets_concat] at hown
      exact represents_concat (ih (prefillOnce_concat honce).1 hown.1) honce hown.2

/-- Storage that holds the rows of the layers' blocks only, and raises for the rest, gives every
fetch the block's own rows. -/
theorem fetchesOwn_of_raises
    (hraises : ∀ s id l kv, (S.loadKv s id l).1 = .ok kv → R.view s l id = some kv)
    (h : Represents policy R (fun _ _ => none) m hist) (op : Op α β) : FetchesOwn S m op := by
  cases op with
  | prefill l rows => trivial
  | append l k v => trivial
  | fetch id l =>
      intro b hb hram kv hload
      obtain ⟨i, hid, -⟩ := h.rows_of_view (hraises _ id l kv hload)
      rwa [h.linked.layerId_eq (List.mem_of_getElem? hid) hb]

/-- Over such storage that starts empty every run represents the tokens it added. -/
theorem represents_run_of_raises {storage : σ} (hempty : R.view storage = fun _ _ => none)
    (hraises : ∀ s id l kv, (S.loadKv s id l).1 = .ok kv → R.view s l id = some kv)
    {ops : List (Op α β)} (honce : PrefillOnce ops) :
    Represents policy R (fun _ _ => none) ((machine policy S).exec (init storage) ops)
      (history ops) := by
  induction ops using List.reverseRecOn with
  | nil => exact hempty ▸ represents_init storage
  | append_singleton ops op ih =>
      have hrep := ih (prefillOnce_concat honce).1
      exact represents_concat hrep honce (fetchesOwn_of_raises hraises hrep op)

/-! ## What a represented layer is -/

/-- Consecutive blocks from `start` to `stop`. -/
def Tiles : Nat → List (KVBlock α β) → Nat → Prop
  | start, [], stop => start = stop
  | start, b :: bs, stop => b.tokenStart = start ∧ Tiles (start + b.tokenCount) bs stop

/-- The data of a block: its arrays when it is in RAM, otherwise what `load_kv` returns. -/
def retrieve (S : KVStorage σ α β) (m : TieredKVManager σ α β) (layerId : Nat)
    (b : KVBlock α β) : Except PyErr (List α × List β) :=
  if b.isInRam then
    match b.kData, b.vData with
    | some k, some v => .ok (k, v)
    | _, _ => .error .attributeError
  else (S.loadKv m.storage b.blockId layerId).1

/-- The blocks of a layer hold all of `xs`, in order. -/
structure WholeHistory (policy : TieringPolicy) (S : KVStorage σ α β)
    (m : TieredKVManager σ α β) (l : Nat) (xs : List (α × β)) : Prop where
  total : m.totalTokens l = xs.length
  tiles : Tiles 0 (m.blockPool.getLayerBlocks l) (m.totalTokens l)
  full : ∀ b ∈ (m.blockPool.getLayerBlocks l).dropLast, b.tokenCount = policy.tokensPerBlock
  last : ∀ b ∈ (m.blockPool.getLayerBlocks l).getLast?,
    0 < b.tokenCount ∧ b.tokenCount ≤ policy.tokensPerBlock
  data : ∃ parts, (m.blockPool.getLayerBlocks l).mapM (retrieve S m l) = .ok parts ∧
    (parts.map Prod.fst).flatten = keyRows xs ∧ (parts.map Prod.snd).flatten = valueRows xs

theorem retrieve_eq (h : Represents policy R before m hist) {l : Nat} {b : KVBlock α β}
    (hb : b ∈ m.blockPool.getLayerBlocks l) :
    retrieve S m l b =
      .ok (keyRows (rowsOf policy (hist l) b), valueRows (rowsOf policy (hist l) b)) := by
  have hp := h.placed_mem hb
  rw [hp.rowsOf_eq]
  unfold retrieve
  cases hram : b.isInRam with
  | true =>
      obtain ⟨hk, hv⟩ := hp.ram hram
      simp only [hk, hv, if_true]
  | false => exact R.load_stored _ _ _ _ (hp.cold hram).1

theorem tiles_of_starts {n i stop : Nat} {bs : List (KVBlock α β)} {xs : List (α × β)}
    (hn : 0 < n) (hstop : stop = xs.length) (hlen : i + bs.length = numChunks n xs.length)
    (hbs : ∀ j b, bs[j]? = some b →
      b.tokenStart = (i + j) * n ∧ b.tokenCount = (chunk n xs (i + j)).length) :
    Tiles (min (i * n) xs.length) bs stop := by
  induction bs generalizing i with
  | nil =>
      have hend : ¬ i * n < xs.length := fun hlt => by
        have := (lt_numChunks_iff hn xs.length i).mpr hlt
        rw [List.length_nil] at hlen
        omega
      show min (i * n) xs.length = stop
      omega
  | cons b bs ih =>
      obtain ⟨hstart, hcount⟩ := hbs 0 b rfl
      rw [List.length_cons] at hlen
      have hlt := (lt_numChunks_iff hn xs.length i).mp (by omega)
      rw [Nat.add_zero] at hstart hcount
      rw [length_chunk] at hcount
      refine ⟨by omega, ?_⟩
      have hnext : min (i * n) xs.length + b.tokenCount = min ((i + 1) * n) xs.length := by
        rw [Nat.add_mul, Nat.one_mul]
        omega
      rw [hnext]
      refine ih (by omega) ?_
      intro j c hc
      have := hbs (j + 1) c (by simpa using hc)
      rwa [show i + (j + 1) = i + 1 + j by omega] at this

theorem wholeHistory_of_represents (h : Represents policy R before m hist) (l : Nat) :
    WholeHistory policy S m l (hist l) := by
  have htotal := totalTokens_eq h l
  have hlen := h.length_getLayerBlocks l
  have hplaced : ∀ i b, (m.blockPool.getLayerBlocks l)[i]? = some b →
      Placed policy (R.view m.storage l) (hist l) i b := fun i b hb => h.placed_getElem? hb
  refine ⟨htotal, ?_, ?_, ?_, ?_⟩
  · have htiles : Tiles (min (0 * policy.tokensPerBlock) (hist l).length)
        (m.blockPool.getLayerBlocks l) (m.totalTokens l) :=
      tiles_of_starts policy.block_pos htotal (by omega) (fun j b hb => by
        rw [Nat.zero_add]
        exact ⟨(hplaced j b hb).start_eq, (hplaced j b hb).count_eq⟩)
    rwa [Nat.zero_mul, Nat.zero_min] at htiles
  · intro b hb
    obtain ⟨i, hi⟩ := List.mem_iff_getElem?.mp hb
    have hilt := (List.getElem?_eq_some_iff.mp hi).choose
    rw [List.length_dropLast, hlen] at hilt
    rw [List.getElem?_dropLast] at hi
    split at hi
    · rw [(hplaced i b hi).count_eq, length_chunk]
      have hmore := (lt_numChunks_iff policy.block_pos (hist l).length (i + 1)).mp (by omega)
      rw [Nat.add_mul, Nat.one_mul] at hmore
      omega
    · cases hi
  · intro b hb
    rw [List.getLast?_eq_getElem?, Option.mem_def] at hb
    have hilt := (List.getElem?_eq_some_iff.mp hb).choose
    rw [hlen] at hilt
    have hlt := (lt_numChunks_iff policy.block_pos (hist l).length _).mp hilt
    have hpos := policy.block_pos
    rw [hlen] at hb
    rw [(hplaced _ b hb).count_eq, length_chunk]
    omega
  · have hflat : ((m.blockPool.getLayerBlocks l).map (rowsOf policy (hist l))).flatten = hist l := by
      rw [h.map_rowsOf l, flatten_chunks policy.block_pos]
    refine ⟨_, mapM_ok fun b hb => retrieve_eq h hb, ?_, ?_⟩
    · have hkeys := congrArg keyRows hflat
      simpa only [keyRows, List.map_flatten, List.map_map, Function.comp_def] using hkeys
    · have hvalues := congrArg valueRows hflat
      simpa only [valueRows, List.map_flatten, List.map_map, Function.comp_def] using hvalues

/-! ## Fetches under a layer of their own -/

theorem getLayerBlocks_assign {pool : KVBlockPool α β} (h : pool.Linked) {b : KVBlock α β}
    {id : Nat} (hb : b.blockId = id) (l : Nat) :
    (pool.assign b).getLayerBlocks l =
      (pool.getLayerBlocks l).map fun c => if c.blockId = id then b else c := by
  unfold KVBlockPool.getLayerBlocks
  rw [KVBlockPool.layerIds_assign, List.map_filterMap]
  refine List.filterMap_congr fun id' hid' => ?_
  obtain ⟨c, hc, -, hcid⟩ := h.home l id' hid'
  rw [KVBlockPool.getBlock_assign, hb, hc, Option.map_some, hcid]
  by_cases hid : id = id'
  · rw [if_pos hid, if_pos hid.symm]
  · rw [if_neg hid, if_neg (Ne.symm hid)]

def rowsPair (policy : TieringPolicy) (xs : List (α × β)) (b : KVBlock α β) : List α × List β :=
  (keyRows (rowsOf policy xs b), valueRows (rowsOf policy xs b))

/-- A fetched block brings what storage returned for it, the others what they have. -/
theorem mapM_retrieve_fetched (h : Represents policy R before m hist) {id l : Nat}
    {b : KVBlock α β} (hget : m.blockPool.getBlock id = some b) (hram : b.isInRam = false)
    {kv : List α × List β} (hload : (S.loadKv m.storage id l).1 = .ok kv) :
    let m' := (fetchColdBlock S m id l).2
    (m'.blockPool.getLayerBlocks b.layerId).mapM (retrieve S m' b.layerId) =
      .ok ((m.blockPool.getLayerBlocks b.layerId).map fun c =>
        if c.blockId = id then kv else rowsPair policy (hist b.layerId) c) := by
  have hview := R.view_load m.storage id l
  unfold fetchColdBlock
  rw [hget]
  revert hload hview
  rcases S.loadKv m.storage id l with ⟨_ | ⟨k, v⟩, storage⟩
  · intro hload _
    cases hload
  · intro hload hview
    obtain rfl := Except.ok.inj hload
    have hbid := h.linked.blockId_eq hget
    simp only [hram, Bool.false_eq_true, if_false]
    rw [@getLayerBlocks_assign _ _ _ h.linked
      { b with isInRam := true, tier := .hotRam, kData := some k, vData := some v } id hbid,
      List.mapM_map]
    refine mapM_ok fun c hc => ?_
    by_cases hid : c.blockId = id
    · rw [if_pos hid]
      simp only [Function.comp_apply, if_pos hid, retrieve, if_true]
    · rw [if_neg hid, Function.comp_apply, if_neg hid]
      have hplaced := h.placed_mem hc
      have hrows := hplaced.rowsOf_eq
      unfold retrieve
      cases hc' : c.isInRam with
      | true =>
          obtain ⟨hk, hv⟩ := hplaced.ram hc'
          simp only [hk, hv, rowsPair, hrows, if_true]
      | false =>
          rw [rowsPair, hrows]
          exact R.load_stored _ _ _ _ ((hview _ _).trans (hplaced.cold hc').1)

/-- A fetch that leaves every layer its history brought the block's own rows back. -/
theorem fetchesOwn_of_wholeHistory (h : Represents policy R before m hist) {id l : Nat}
    (hwhole : ∀ l', WholeHistory policy S (fetchColdBlock S m id l).2 l' (hist l')) :
    FetchesOwn S m (.fetch id l) := by
  intro b hget hram kv hload
  have hmem := h.mem_getLayerBlocks hget
  have hbid := h.linked.blockId_eq hget
  have hp := h.placed_mem hmem
  have hown := R.load_stored m.storage b.blockId b.layerId _ (hp.cold hram).1
  obtain ⟨parts, hparts, hkeys, hvalues⟩ := (hwhole b.layerId).data
  rw [mapM_retrieve_fetched h hget hram hload, Except.ok.injEq] at hparts
  subst hparts
  have hflat := congrArg List.flatten (h.map_rowsOf b.layerId)
  rw [flatten_chunks policy.block_pos] at hflat
  -- the block is listed once, so the rest of the layer is what it was
  have hnodup := h.linked.nodup b.layerId
  rw [← h.linked.map_blockId_getLayerBlocks] at hnodup
  obtain ⟨xs, ys, hsplit⟩ := List.append_of_mem hmem
  rw [hsplit] at hkeys hvalues hflat hnodup
  rw [List.map_append, List.map_cons, List.nodup_middle, List.nodup_cons, ← List.map_append,
    hbid] at hnodup
  have hother : ∀ c, c ∈ xs ∨ c ∈ ys → c.blockId ≠ id := fun c hc hid =>
    hnodup.1 (List.mem_map.mpr ⟨c, List.mem_append.mpr hc, hid⟩)
  have hkeys' := @eq_of_flatten_map_eq _ _
    (fun c => (if c.blockId = id then kv else rowsPair policy (hist b.layerId) c).1)
    (fun c => (rowsPair policy (hist b.layerId) c).1) xs ys b
    (fun c hc => by rw [if_neg (hother c (.inl hc))])
    (fun c hc => by rw [if_neg (hother c (.inr hc))])
    (by simpa [keyRows, rowsPair, List.map_flatten, Function.comp_def] using
      hkeys.trans (congrArg keyRows hflat.symm))
  have hvalues' := @eq_of_flatten_map_eq _ _
    (fun c => (if c.blockId = id then kv else rowsPair policy (hist b.layerId) c).2)
    (fun c => (rowsPair policy (hist b.layerId) c).2) xs ys b
    (fun c hc => by rw [if_neg (hother c (.inl hc))])
    (fun c hc => by rw [if_neg (hother c (.inr hc))])
    (by simpa [valueRows, rowsPair, List.map_flatten, Function.comp_def] using
      hvalues.trans (congrArg valueRows hflat.symm))
  rw [if_pos hbid] at hkeys' hvalues'
  rw [hbid, ← hp.rowsOf_eq] at hown
  exact hown.trans (congrArg Except.ok (Prod.ext hkeys' hvalues').symm)

/-! ## The whole run -/

/-- What a run leaves: every layer's whole history, and after an append just the hot blocks of
the layer in RAM. -/
structure KeepsHistory (policy : TieringPolicy) (S : KVStorage σ α β) (storage : σ)
    (ops : List (Op α β)) : Prop where
  whole : ∀ l, WholeHistory policy S ((machine policy S).exec (init storage) ops) l (history ops l)
  hot : ∀ earlier l k v, ops = earlier ++ [.append l k v] →
    let m := (machine policy S).exec (init storage) ops
    ∀ b ∈ m.blockPool.getLayerBlocks l,
      b.isInRam = HotColdClassifier.isHot policy b (m.totalTokens l)

theorem keepsHistory_of_represents {storage : σ} {ops : List (Op α β)} (honce : PrefillOnce ops)
    (hown : (machine policy S).Meets (FetchesOwn S) (init storage) ops) (R : S.ReturnsStored) :
    KeepsHistory policy S storage ops := by
  refine ⟨wholeHistory_of_represents (represents_run (R := R) honce hown), ?_⟩
  rintro earlier l k v rfl
  rw [Machine.meets_concat] at hown
  have hrep := represents_run (R := R) (prefillOnce_concat honce).1 hown.1
  rw [Machine.exec_concat]
  exact (represents_append hrep l k v).2.2

/-- Over storage that returns what was stored, whatever else it holds, a run keeps the whole
history of every layer throughout, with just the hot blocks of a layer in RAM after each append
to it, exactly when every fetch that brings an offloaded block back brings its own rows back. A
fetch under the block's own layer always does. -/
theorem keeps_whole_history_iff (policy : TieringPolicy) {S : KVStorage σ α β} (R : S.ReturnsStored)
    (storage : σ) (ops : List (Op α β)) (honce : PrefillOnce ops) :
    (∀ pre, pre <+: ops → KeepsHistory policy S storage pre) ↔
      (machine policy S).Meets (FetchesOwn S) (init storage) ops := by
  induction ops using List.reverseRecOn with
  | nil =>
      refine iff_of_true (fun pre hpre => ?_) trivial
      obtain rfl := List.prefix_nil.mp hpre
      exact keepsHistory_of_represents honce trivial R
  | append_singleton ops op ih =>
      have hearlier := ih (prefillOnce_concat honce).1
      simp only [List.prefix_concat_iff, forall_eq_or_imp]
      rw [Machine.meets_concat, ← hearlier]
      constructor
      · rintro ⟨hlast, hbefore⟩
        refine ⟨hbefore, ?_⟩
        cases op with
        | prefill l rows => trivial
        | append l k v => trivial
        | fetch id l =>
            have hrep := represents_run (R := R) (prefillOnce_concat honce).1 (hearlier.mp hbefore)
            refine fetchesOwn_of_wholeHistory hrep fun l' => ?_
            have hwhole := hlast.whole l'
            rw [Machine.exec_concat, history_concat, Op.adds, List.append_nil] at hwhole
            exact hwhole
      · rintro ⟨hbefore, hop⟩
        refine ⟨keepsHistory_of_represents honce ?_ R, hbefore⟩
        exact ((machine policy S).meets_concat).mpr ⟨hearlier.mp hbefore, hop⟩

def oneTokenBlocks : TieringPolicy := ⟨0, 1, 1, Nat.one_pos, Nat.one_pos⟩

def tinyFlash : KVStorage (Storage.MockSSDController Nat 1 1) (Attention.Row Nat 1 1)
    (Attention.Row Nat 1 1) := Storage.MockSSDController.kvStorage ⟨4, 4⟩

def tinyRow (x : Nat) : Attention.Row Nat 1 1 := fun _ _ => x

def threeRows : Op (Attention.Row Nat 1 1) (Attention.Row Nat 1 1) :=
  .prefill 0 [(tinyRow 1, tinyRow 2), (tinyRow 3, tinyRow 4), (tinyRow 5, tinyRow 6)]

/-- The third follows them, and the first comes back. -/
theorem keeps_whole_history_iff_tiny :
    KeepsHistory oneTokenBlocks tinyFlash .init
      [threeRows, .append 0 (tinyRow 7) (tinyRow 8), .fetch 0 0] := by
  have honce : PrefillOnce [threeRows, .append 0 (tinyRow 7) (tinyRow 8), .fetch 0 0] := by
    simp [PrefillOnce]
  refine (keeps_whole_history_iff oneTokenBlocks (Storage.MockSSDController.returnsStored ⟨4, 4⟩)
    .init _ honce).mpr ⟨trivial, trivial, fun b hb _ kv hload => ?_, trivial⟩ _ List.prefix_rfl
  have hlayer : b.layerId = 0 := by
    rw [← Option.some.inj hb]
    rfl
  rwa [hlayer]

/-- Before the run the flash has a block 0 of layer 1. Fetched under layer 1, block 0 of layer 0
comes back with its rows. -/
theorem foreign_block_fetched :
    let storage := (tinyFlash.storeKv .init 0 1 (some [tinyRow 9]) (some [tinyRow 9])).2
    PrefillOnce [threeRows, .fetch 0 1] ∧
      ¬ WholeHistory oneTokenBlocks tinyFlash
        ((machine oneTokenBlocks tinyFlash).exec (init storage) [threeRows, .fetch 0 1]) 0
        (history [threeRows, .fetch 0 1] 0) := by
  intro storage
  refine ⟨by simp [PrefillOnce], fun h => ?_⟩
  obtain ⟨parts, hparts, hkeys, -⟩ := h.data
  have hcode : .ok [([tinyRow 9], [tinyRow 9]), ([tinyRow 3], [tinyRow 4]),
      ([tinyRow 5], [tinyRow 6])] = Except.ok parts := hparts
  obtain rfl := Except.ok.inj hcode
  have hfirst := congrFun (congrFun (List.head_eq_of_cons_eq hkeys) 0) 0
  exact absurd hfirst (by decide)

end TieredKVManager

end AiSsd.Tiering
