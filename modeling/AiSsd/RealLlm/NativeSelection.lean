import AiSsd.NativeKernel.FilledPlaces
import AiSsd.RealLlm.TraceGenerator

/-!
# The selection of blocks

At each step the generator selects the best blocks on the SSD with the native kernel where it
is loaded and with NumPy where it is not. The kernel gets the first key head of each block as
if it were all the heads of the query.
-/

namespace AiSsd.RealLlm

open Lib Numpy Schemas NativeKernel
open Nvme (FloatOps)

section Model

variable {α : Type}

def rowMajor (rows cols : Nat) (get : Nat → Nat → α) : FloatArray α where
  shape := [rows, cols]
  elems := (List.range rows).flatMap fun i => (List.range cols).map (get i)
  size_eq := by simp

def Query.array (q : Query α) : FloatArray α := rowMajor q.heads q.dim q.get

/-- `a[0]`. -/
def Tensor3.firstHead (a : Tensor3 α) : Except PyErr (FloatArray α) :=
  if a.d0 = 0 then .error .indexError else .ok (rowMajor a.d1 a.d2 (a.get 0))

/-- `(b.block_id, {"k": payload["k"][0], "v": payload["v"][0]})`. -/
def ckEntry (entry : KVBlock × Payload α) : Except PyErr (LayerBlock α) := do
  let k ← entry.2.k.firstHead
  let v ← entry.2.v.firstHead
  return ⟨entry.1.blockId, k, v⟩

variable (fl : FloatOps α) [Field α] (sqrt : α → α)

/-- `topk_ids.tolist()` of the native kernel; `none` where it leaves its arrays. -/
def kernelTopk (kernel : NativeCKernel) (q : Query α) (ssdEntries : List (KVBlock × Payload α))
    (kVal : Int) : Option (Except PyErr (List Int)) :=
  match ssdEntries.mapM ckEntry with
  | .error err => some (.error err)
  | .ok ckEntries =>
      (kernel.computeTopk fl (fun d => 1 / sqrt d) q.array ckEntries kVal).map
        fun called => called.map Prod.fst

variable [LinearOrder α]

def selectTopk (kernel : NativeCKernel) (headDim : Nat) (q : Query α)
    (ssdEntries : List (KVBlock × Payload α)) (kVal : Int) : Option (Except PyErr (List Int)) :=
  if kernel.loaded then kernelTopk fl sqrt kernel q ssdEntries kVal
  else some (referenceTopk sqrt headDim q ssdEntries kVal)

/-- Both paths return, and the same ids. The kernel returns only when all it reads is there. -/
def SelectionsAgree (libPath : String) (hasGqaAvx2 : Bool) (headDim : Nat) (q : Query α)
    (ssdEntries : List (KVBlock × Payload α)) (kVal : Int) : Prop :=
  ∃ ids, selectTopk fl sqrt ⟨libPath, true, hasGqaAvx2⟩ headDim q ssdEntries kVal =
      some (.ok ids) ∧
    selectTopk fl sqrt ⟨libPath, false, hasGqaAvx2⟩ headDim q ssdEntries kVal = some (.ok ids)

end Model

/-! ## What the adapter produces -/

section Produced

variable {α : Type} [Zero α] {adapter : KVBlockAdapter}

/-- K and V of a layer, `[kv_heads, seq_len, head_dim]` both. -/
structure SameShape (kv : Payload α) : Prop where
  heads : kv.v.d0 = kv.k.d0
  tokens : kv.v.d1 = kv.k.d1
  dim : kv.v.d2 = kv.k.d2

/-- Some of the blocks that the adapter cuts a layer with `kvHeads` heads into, in their order. -/
def Produced (adapter : KVBlockAdapter) (kvHeads : Nat) (entries : List (KVBlock × Payload α)) :
    Prop :=
  ∃ layerId kv offset blocks, SameShape kv ∧ kv.k.d0 = kvHeads ∧
    adapter.blockizeLayer layerId kv offset = .ok blocks ∧ entries.Sublist blocks

structure Tensor3.Page (adapter : KVBlockAdapter) (kvHeads : Nat) (a : Tensor3 α) : Prop where
  heads : 0 < a.d0 ∧ a.d0 ≤ kvHeads
  tokens : a.d1 = adapter.tokensPerBlock
  dim : a.d2 = adapter.headDim

structure Laid (adapter : KVBlockAdapter) (kvHeads : Nat) (entries : List (KVBlock × Payload α)) :
    Prop where
  tokens_pos : 0 < adapter.tokensPerBlock
  keys : ∀ e ∈ entries, e.2.k.Page adapter kvHeads
  values : ∀ e ∈ entries, e.2.v.Page adapter kvHeads
  ids_nonneg : ∀ e ∈ entries, 0 ≤ e.1.blockId
  ids_nodup : (entries.map fun e => e.1.blockId).Nodup

theorem padded_heads {t p : Tensor3 α} {h hCount tStart tEnd : Nat}
    (hp : adapter.padded t h hCount tStart tEnd = .ok p) :
    p.d0 = min (h + hCount) t.d0 - min h t.d0 := by
  unfold KVBlockAdapter.padded Tensor3.concatenate at hp
  dsimp only at hp
  split at hp
  · split at hp
    · cases hp
      rfl
    · cases hp
  · cases hp
    rfl

theorem padded_isPage {t p : Tensor3 α} {kvHeads h hCount tStart : Nat} (hheads : t.d0 = kvHeads)
    (hdim : t.d2 = adapter.headDim) (hh : h < kvHeads) (hpos : 0 < hCount)
    (hp : adapter.padded t h hCount tStart (min (tStart + adapter.tokensPerBlock) t.d1) = .ok p) :
    p.Page adapter kvHeads := by
  obtain ⟨htokens, hwidth⟩ := KVBlockAdapter.padded_shape hp
  have hcount := padded_heads hp
  exact ⟨by omega, htokens, hwidth.trans hdim⟩

theorem makeBlock_pages {layerId blockIdx h tStart : Nat} {kv : Payload α}
    {entry : KVBlock × Payload α} (hshape : SameShape kv) (hheads : 0 < adapter.kvHeadsPerBlock)
    (hdim : kv.k.d2 = adapter.headDim) (hh : h < kv.k.d0)
    (hentry : adapter.makeBlock layerId kv blockIdx h tStart = .ok entry) :
    entry.2.k.Page adapter kv.k.d0 ∧ entry.2.v.Page adapter kv.k.d0 := by
  unfold KVBlockAdapter.makeBlock at hentry
  dsimp only at hentry
  obtain ⟨kSlice, hk, hentry⟩ := bind_eq_ok.mp hentry
  obtain ⟨vSlice, hv, hentry⟩ := bind_eq_ok.mp hentry
  obtain ⟨_, -, hentry⟩ := bind_eq_ok.mp hentry
  cases hentry
  have hcount : 0 < min adapter.kvHeadsPerBlock (kv.k.d0 - h) := by omega
  rw [← hshape.tokens] at hv
  have hkPage := padded_isPage rfl hdim hh hcount hk
  have hvPage := padded_isPage hshape.heads (hshape.dim.trans hdim) hh hcount hv
  exact ⟨⟨hkPage.heads, hkPage.tokens, hkPage.dim⟩, ⟨hvPage.heads, hvPage.tokens, hvPage.dim⟩⟩

theorem blockizeLayer_pages {layerId offset : Nat} {kv : Payload α}
    {blocks : List (KVBlock × Payload α)} (hshape : SameShape kv)
    (h : adapter.blockizeLayer layerId kv offset = .ok blocks) :
    ∀ entry ∈ blocks, entry.2.k.Page adapter kv.k.d0 ∧ entry.2.v.Page adapter kv.k.d0 := by
  unfold KVBlockAdapter.blockizeLayer at h
  split at h
  · cases h
  · split at h
    · cases h
    · split at h
      · cases h
      · rename_i hdim hheads _
        have hpos : 0 < adapter.kvHeadsPerBlock := Nat.pos_of_ne_zero hheads
        refine (map_of_mapM_eq_ok (g := fun _ => ()) (k := fun _ => ()) h ?_).2
        intro corner hmem entry hentry
        obtain ⟨hd, hhead, hrest⟩ := List.mem_flatMap.mp (List.fst_mem_of_mem_zipIdx hmem)
        obtain ⟨tStart, -, hcorner⟩ := List.mem_map.mp hrest
        have hlt := KVBlockAdapter.lt_of_mem_rangeStep hpos hhead
        rw [← hcorner] at hentry
        exact ⟨rfl, makeBlock_pages hshape hpos (not_not.mp hdim) hlt hentry⟩

theorem Produced.laid {kvHeads : Nat} {entries : List (KVBlock × Payload α)}
    (h : Produced adapter kvHeads entries) (hne : entries ≠ []) : Laid adapter kvHeads entries := by
  obtain ⟨layerId, kv, offset, blocks, hshape, rfl, hblocks, hsub⟩ := h
  obtain ⟨-, hids, hcut⟩ := KVBlockAdapter.blockizeLayer_spec hblocks
  have hpages := blockizeLayer_pages hshape hblocks
  obtain ⟨first, hfirst⟩ := List.exists_mem_of_ne_nil entries hne
  have hnodup : (blocks.map fun e => e.1.blockId).Nodup := by
    rw [hids]
    exact List.Nodup.map Nat.cast_injective List.nodup_range'
  exact
    { tokens_pos := (hcut first (hsub.subset hfirst)).tokens_pos
      keys := fun e he => (hpages e (hsub.subset he)).1
      values := fun e he => (hpages e (hsub.subset he)).2
      ids_nonneg := fun e he => (hcut e (hsub.subset he)).blockId
      ids_nodup := (hsub.map _).nodup hnodup }

end Produced

/-! ## The call of the kernel -/

section Call

variable {α : Type} {adapter : KVBlockAdapter} {kvHeads : Nat}
  {entries : List (KVBlock × Payload α)}

def ckEntries (entries : List (KVBlock × Payload α)) : List (LayerBlock α) :=
  entries.map fun e => ⟨e.1.blockId, rowMajor e.2.k.d1 e.2.k.d2 (e.2.k.get 0),
    rowMajor e.2.v.d1 e.2.v.d2 (e.2.v.get 0)⟩

theorem mapM_ckEntry (hlaid : Laid adapter kvHeads entries) :
    entries.mapM ckEntry = .ok (ckEntries entries) := by
  apply mapM_ok
  intro e he
  have hk : e.2.k.d0 ≠ 0 := (hlaid.keys e he).heads.1.ne'
  have hv : e.2.v.d0 ≠ 0 := (hlaid.values e he).heads.1.ne'
  rw [ckEntry, Tensor3.firstHead, if_neg hk, Tensor3.firstHead, if_neg hv]
  rfl

theorem stack_of_shape {arrays : List (FloatArray α)} {shape : List Nat} (hne : arrays ≠ [])
    (h : ∀ a ∈ arrays, a.shape = shape) :
    stack arrays = .ok (arrays.flatMap FloatArray.elems) := by
  cases arrays with
  | nil => exact absurd rfl hne
  | cons a rest =>
      have hall : (rest.all fun b => decide (b.shape = a.shape)) = true := by
        rw [List.all_eq_true]
        intro b hb
        rw [decide_eq_true_iff, h a List.mem_cons_self, h b (List.mem_cons_of_mem a hb)]
      rw [stack, if_pos hall]

def stackedKeys (entries : List (KVBlock × Payload α)) : List α :=
  entries.flatMap fun e => (rowMajor e.2.k.d1 e.2.k.d2 (e.2.k.get 0)).elems

theorem length_rowMajor (rows cols : Nat) (get : Nat → Nat → α) :
    (rowMajor rows cols get).elems.length = rows * cols := by
  simp [rowMajor]

theorem length_stackedKeys (hlaid : Laid adapter kvHeads entries) :
    (stackedKeys entries).length =
      entries.length * (adapter.tokensPerBlock * adapter.headDim) := by
  have hlengths : ∀ e ∈ entries, (rowMajor e.2.k.d1 e.2.k.d2 (e.2.k.get 0)).elems.length =
      adapter.tokensPerBlock * adapter.headDim := by
    intro e he
    rw [length_rowMajor, (hlaid.keys e he).tokens, (hlaid.keys e he).dim]
  rw [stackedKeys, List.length_flatMap, List.map_congr_left hlengths]
  simp

theorem getElem?_flatMap {β : Type} {xs : List β} {f : β → List α} {n : Nat}
    (hlength : ∀ x ∈ xs, (f x).length = n) {i j : Nat} (hi : i < xs.length) (hj : j < n) :
    (xs.flatMap f)[i * n + j]? = (f xs[i])[j]? := by
  have hpieces : ∀ piece ∈ xs.map f, piece.length = n := by
    intro piece hpiece
    obtain ⟨x, hx, rfl⟩ := List.mem_map.mp hpiece
    exact hlength x hx
  have hchunk := chunk_flatten hpieces (i := i) (by simpa using hi)
  rw [List.flatMap_def, ← List.getElem?_drop, ← List.getElem?_take_of_lt hj]
  simpa [chunk] using congrArg (fun piece : List α => piece[j]?) hchunk

theorem getElem?_rowMajor {rows cols i j : Nat} (get : Nat → Nat → α) (hi : i < rows)
    (hj : j < cols) : (rowMajor rows cols get).elems[i * cols + j]? = some (get i j) := by
  have hrows : ∀ r ∈ List.range rows, ((List.range cols).map (get r)).length = cols := by
    simp
  rw [rowMajor, getElem?_flatMap hrows (by simpa using hi) hj]
  simp [hj]

theorem getElem?_stackedKeys (hlaid : Laid adapter kvHeads entries) {b t d : Nat}
    (hb : b < entries.length) (ht : t < adapter.tokensPerBlock) (hd : d < adapter.headDim) :
    (stackedKeys entries)[b * (adapter.tokensPerBlock * adapter.headDim) +
      (t * adapter.headDim + d)]? = some (entries[b].2.k.get 0 t d) := by
  have hlengths : ∀ e ∈ entries, (rowMajor e.2.k.d1 e.2.k.d2 (e.2.k.get 0)).elems.length =
      adapter.tokensPerBlock * adapter.headDim := by
    intro e he
    rw [length_rowMajor, (hlaid.keys e he).tokens, (hlaid.keys e he).dim]
  have hpage := hlaid.keys _ (List.getElem_mem hb)
  have hin : t * adapter.headDim + d < adapter.tokensPerBlock * adapter.headDim := by
    calc t * adapter.headDim + d < t * adapter.headDim + adapter.headDim := by omega
      _ = (t + 1) * adapter.headDim := (Nat.succ_mul t _).symm
      _ ≤ adapter.tokensPerBlock * adapter.headDim := Nat.mul_le_mul_right _ ht
  rw [stackedKeys, getElem?_flatMap hlengths hb hin, hpage.dim]
  exact getElem?_rowMajor _ (by rw [hpage.tokens]; exact ht) hd

theorem callTopk_eq (fl : FloatOps α) (invSqrt : Int → α) {kernel : NativeCKernel}
    (hloaded : kernel.loaded = true) (hlaid : Laid adapter kvHeads entries) (hne : entries ≠ [])
    (q : Query α) {kVal : Int} (hk : 1 ≤ kVal) :
    kernel.callTopk fl invSqrt q.array (ckEntries entries) kVal =
      (instorageTopkFilter fl (ptrOf q.array.elems) (ptrOf (stackedKeys entries))
        (cInt entries.length) (cInt adapter.tokensPerBlock) (cInt q.heads) (cInt q.dim)
        (cInt (min kVal entries.length)) (invSqrt q.dim)).map
          (checked "C kernel execution failed with code ") := by
  have hlength : (ckEntries entries).length = entries.length := List.length_map _
  have hfirst : ((ckEntries entries).head?.bind fun entry => entry.k.shape.head?) =
      some adapter.tokensPerBlock := by
    obtain ⟨first, rest, rfl⟩ := List.exists_cons_of_ne_nil hne
    exact congrArg some (hlaid.keys first List.mem_cons_self).tokens
  have hstack : stack ((ckEntries entries).map LayerBlock.k) = .ok (stackedKeys entries) := by
    have hshapes : ∀ a ∈ (ckEntries entries).map LayerBlock.k,
        a.shape = [adapter.tokensPerBlock, adapter.headDim] := by
      simp only [ckEntries, List.map_map, List.mem_map, Function.comp_apply]
      rintro a ⟨e, he, rfl⟩
      simp [rowMajor, (hlaid.keys e he).tokens, (hlaid.keys e he).dim]
    rw [stack_of_shape (by simpa [ckEntries] using hne) hshapes, ckEntries, List.map_map,
      List.flatMap_map]
    rfl
  have hsize : ¬ min kVal (entries.length : Int) < 0 := by omega
  unfold NativeCKernel.callTopk
  rw [hloaded, if_neg (by decide)]
  simp only [Query.array, rowMajor, hfirst, hstack, hlength, hsize, if_false]

theorem one_head_of_kernel {fl : FloatOps α} {invSqrt : Int → α} {kernel : NativeCKernel}
    (hloaded : kernel.loaded = true) (hlaid : Laid adapter kvHeads entries) (hne : entries ≠ [])
    {q : Query α} (hdim : q.dim = adapter.headDim) {kVal : Int} (hk : 1 ≤ kVal)
    (hblocks : entries.length < 2 ^ 31) (htokens : adapter.tokensPerBlock < 2 ^ 31)
    (hwidth : adapter.headDim < 2 ^ 31) (hheads : q.heads < 2 ^ 31) {out : TopArrays α}
    (h : kernel.callTopk fl invSqrt q.array (ckEntries entries) kVal = some (.ok out)) :
    q.heads = 1 ∧ 0 < adapter.headDim ∧
      adapter.tokensPerBlock * adapter.headDim < 2 ^ 31 ∧
      (entries.length - 1) * (adapter.tokensPerBlock * adapter.headDim) < 2 ^ 31 := by
  rw [callTopk_eq fl invSqrt hloaded hlaid hne q hk, cInt_of_lt hblocks, cInt_of_lt htokens,
    cInt_of_lt hheads, hdim, cInt_of_lt hwidth] at h
  have hreads := readsLayout_of_ok (of_checked h)
  have hone := one_head_of_readsLayout (length_stackedKeys hlaid) hreads
  have hpos : 0 < entries.length := List.length_pos_iff.mpr hne
  have hblock := hreads.block.2
  have hlast := (hreads.start (entries.length - 1) (by omega)).2
  rw [hone] at hblock hlast
  refine ⟨hone, ?_, ?_, ?_⟩
  · exact_mod_cast hreads.pos.2.2.2
  · push_cast at hblock
    rw [mul_one] at hblock
    exact_mod_cast hblock
  · push_cast at hlast
    rw [mul_one] at hlast
    exact_mod_cast hlast

/-! ## The ids looked up -/

def nameAt (layerBlocks : List (LayerBlock α)) (i : Int) : Int :=
  match pyIndex layerBlocks i with
  | .ok entry => entry.blockId
  | .error _ => 0

theorem nameAt_natCast {i : Nat} (hi : i < entries.length) :
    nameAt (ckEntries entries) i = entries[i].1.blockId := by
  have hlt : i < (ckEntries entries).length := by rwa [ckEntries, List.length_map]
  rw [nameAt, pyIndex_natCast hlt]
  simp [ckEntries]

theorem nameAt_neg_one (hne : entries ≠ []) :
    nameAt (ckEntries entries) (-1) =
      nameAt (ckEntries entries) ((entries.length - 1 : Nat) : Int) := by
  have hpos := List.length_pos_iff.mpr hne
  have hlast : entries.length - 1 + 1 = (ckEntries entries).length := by
    rw [ckEntries, List.length_map]
    omega
  rw [nameAt, nameAt, pyIndex_neg_one hlast]

theorem pyIndex_found (hne : entries ≠ []) {i : Int}
    (hi : i = -1 ∨ ∃ j < entries.length, i = (j : Nat)) :
    ∃ entry ∈ ckEntries entries, pyIndex (ckEntries entries) i = .ok entry ∧
      nameAt (ckEntries entries) i = entry.blockId := by
  have hlength : (ckEntries entries).length = entries.length := List.length_map _
  have hpos := List.length_pos_iff.mpr hne
  have hplace : ∃ j < (ckEntries entries).length,
      pyIndex (ckEntries entries) i = pyIndex (ckEntries entries) (j : Nat) := by
    rcases hi with rfl | ⟨j, hj, rfl⟩
    · exact ⟨entries.length - 1, by omega, pyIndex_neg_one (by omega)⟩
    · exact ⟨j, by omega, rfl⟩
  obtain ⟨j, hj, hindex⟩ := hplace
  rw [pyIndex_natCast hj] at hindex
  exact ⟨_, List.getElem_mem hj, hindex, by rw [nameAt, hindex]⟩

/-- What the wrapper makes of an answer: the ids of the entries it points to. -/
theorem computeTopk_of_call {fl : FloatOps α} {invSqrt : Int → α} {kernel : NativeCKernel}
    (hlaid : Laid adapter kvHeads entries) (hne : entries ≠ []) {query : FloatArray α} {kVal : Int}
    (hids : ∀ e ∈ entries, e.1.blockId < 2 ^ 31) {out : TopArrays α} (hout : out.indices ≠ [])
    (hindices : ∀ i ∈ out.indices, i = -1 ∨ ∃ j < entries.length, i = (j : Nat))
    (h : kernel.callTopk fl invSqrt query (ckEntries entries) kVal = some (.ok out)) :
    ∃ values, kernel.computeTopk fl invSqrt query (ckEntries entries) kVal =
      some (.ok (out.indices.map (nameAt (ckEntries entries)), values, out.scores)) := by
  obtain ⟨first, -⟩ := List.exists_mem_of_ne_nil entries hne
  let found : Int → LayerBlock α := fun i =>
    match pyIndex (ckEntries entries) i with
    | .ok entry => entry
    | .error _ => ⟨first.1.blockId, rowMajor 0 0 (first.2.k.get 0), rowMajor 0 0 (first.2.k.get 0)⟩
  have hfound : ∀ i ∈ out.indices, found i ∈ ckEntries entries ∧
      pyIndex (ckEntries entries) i = .ok (found i) ∧
      nameAt (ckEntries entries) i = (found i).blockId := by
    intro i hi
    obtain ⟨entry, hmem, hindex, hname⟩ := pyIndex_found hne (hindices i hi)
    have hsame : found i = entry := by simp [found, hindex]
    rw [hsame]
    exact ⟨hmem, hindex, hname⟩
  have hwinners : out.indices.mapM (pyIndex (ckEntries entries)) =
      .ok (out.indices.map found) := mapM_ok fun i hi => (hfound i hi).2.1
  have hnames : (out.indices.map found).map LayerBlock.blockId =
      out.indices.map (nameAt (ckEntries entries)) := by
    rw [List.map_map]
    exact List.map_congr_left fun i hi => ((hfound i hi).2.2).symm
  have hfits : ((out.indices.map found).any fun entry =>
      decide (entry.blockId < -2 ^ 31 ∨ 2 ^ 31 ≤ entry.blockId)) = false := by
    rw [List.any_eq_false]
    intro entry hentry
    obtain ⟨i, hi, rfl⟩ := List.mem_map.mp hentry
    obtain ⟨e, he, hsame⟩ := List.mem_map.mp (hfound i hi).1
    have hnonneg := hlaid.ids_nonneg e he
    have hlt := hids e he
    rw [← hsame, decide_eq_true_iff]
    dsimp only
    omega
  have hstack : stack ((out.indices.map found).map LayerBlock.v) =
      .ok (((out.indices.map found).map LayerBlock.v).flatMap FloatArray.elems) := by
    refine @stack_of_shape _ _ [adapter.tokensPerBlock, adapter.headDim] (by simpa using hout)
      fun a ha => ?_
    obtain ⟨entry, hentry, rfl⟩ := List.mem_map.mp ha
    obtain ⟨i, hi, rfl⟩ := List.mem_map.mp hentry
    obtain ⟨e, he, hsame⟩ := List.mem_map.mp (hfound i hi).1
    rw [← hsame, ← (hlaid.values e he).tokens, ← (hlaid.values e he).dim]
    rfl
  refine ⟨((out.indices.map found).map LayerBlock.v).flatMap FloatArray.elems, ?_⟩
  unfold NativeCKernel.computeTopk
  rw [h, Option.map_some]
  simp only [bind, Except.bind, hwinners, hfits, hstack, hnames, Bool.false_eq_true, if_false,
    pure, Except.pure]

end Call

/-! ## When the paths agree -/

section Agreement

variable {α : Type} [Field α] [LinearOrder α] {fl : FloatOps α} {sqrt : α → α}
  {adapter : KVBlockAdapter} {kvHeads : Nat} {entries : List (KVBlock × Payload α)} {q : Query α}
  {kVal : Int}

/-- The best product of the first query head and the first key head of each block. -/
def blockScores (sqrt : α → α) (tokens headDim : Nat) (q : Query α)
    (entries : List (KVBlock × Payload α)) : List α :=
  entries.map fun e =>
    maxProduct (headProducts (q.get 0) (e.2.k.get 0) tokens headDim (1 / sqrt headDim))

/-- One query head and one key head in each block, and sizes and ids that are C ints. -/
structure OneHeadEach (adapter : KVBlockAdapter) (q : Query α)
    (entries : List (KVBlock × Payload α)) : Prop where
  dim : q.dim = adapter.headDim
  dim_pos : 0 < adapter.headDim
  queryHeads : q.heads = 1
  keyHeads : ∀ e ∈ entries, e.2.k.d0 = 1
  blocks_lt : entries.length < 2 ^ 31
  block_lt : adapter.tokensPerBlock * adapter.headDim < 2 ^ 31
  buffer_lt : (entries.length - 1) * (adapter.tokensPerBlock * adapter.headDim) < 2 ^ 31
  ids_lt : ∀ e ∈ entries, e.1.blockId < 2 ^ 31

omit [LinearOrder α] in
theorem headProducts_ne (a : Nat → α) (key : Nat → Nat → α) {tokens : Nat} (h : 0 < tokens)
    (headDim : Nat) (scale : α) : headProducts a key tokens headDim scale ≠ [] := by
  rw [headProducts, ne_eq, List.map_eq_nil_iff, List.range_eq_nil]
  omega

/-- With one head each, NumPy computes the kernel's products. -/
theorem referenceScore_eq {k : Tensor3 α} (hdim : q.dim = k.d2) (hquery : q.heads = 1)
    (hkey : k.d0 = 1) (htokens : 0 < k.d1) (scale : α) :
    referenceScore scale q k =
      .ok (maxProduct (headProducts (q.get 0) (k.get 0) k.d1 k.d2 scale)) := by
  have hdots : ((List.range q.heads).flatMap fun h => (List.range k.d1).map fun t =>
      ((List.range k.d0).map fun kv =>
        ((List.range k.d2).map fun d => q.get h d * k.get kv t d).sum).sum * scale) =
      headProducts (q.get 0) (k.get 0) k.d1 k.d2 scale := by
    simp [hquery, hkey, headProducts, sum_range_map]
  have hne := headProducts_ne (q.get 0) (k.get 0) htokens k.d2 scale
  unfold referenceScore
  rw [if_neg (not_not.mpr hdim)]
  simp only [hdots]
  cases hproducts : headProducts (q.get 0) (k.get 0) k.d1 k.d2 scale with
  | nil => exact absurd hproducts hne
  | cons first rest => rfl

/-- The scored ids of the reference path, by the places of the blocks. -/
theorem referenceTopk_eq (hlaid : Laid adapter kvHeads entries)
    (hone : OneHeadEach adapter q entries) :
    referenceTopk sqrt adapter.headDim q entries kVal =
      .ok ((topBy Prod.fst kVal.toNat (indexed (blockScores sqrt adapter.tokensPerBlock
        adapter.headDim q entries))).map fun p => nameAt (ckEntries entries) p.2) := by
  have hscores : ∀ e ∈ entries, ((referenceScore (1 / sqrt adapter.headDim) q e.2.k).map
      fun score => (score, e.1.blockId)) = .ok (maxProduct (headProducts (q.get 0)
        (e.2.k.get 0) adapter.tokensPerBlock adapter.headDim (1 / sqrt adapter.headDim)),
          e.1.blockId) := by
    intro e he
    have hpage := hlaid.keys e he
    rw [referenceScore_eq (hone.dim.trans hpage.dim.symm) hone.queryHeads (hone.keyHeads e he)
      (by rw [hpage.tokens]; exact hlaid.tokens_pos), hpage.tokens, hpage.dim]
    rfl
  have hnamed : (entries.map fun e => (maxProduct (headProducts (q.get 0) (e.2.k.get 0)
        adapter.tokensPerBlock adapter.headDim (1 / sqrt adapter.headDim)), e.1.blockId)) =
      (indexed (blockScores sqrt adapter.tokensPerBlock adapter.headDim q entries)).map
        fun p => (p.1, nameAt (ckEntries entries) p.2) := by
    apply List.ext_getElem
    · simp [indexed, blockScores]
    · intro i hi _
      have hlt : i < entries.length := by simpa using hi
      simp [indexed, blockScores, nameAt_natCast hlt]
  rw [referenceTopk, mapM_ok hscores, hnamed]
  simp only [bind, Except.bind, pure, Except.pure]
  rw [topBy_map (fun p : α × Int => (p.1, nameAt (ckEntries entries) p.2)) fun _ => rfl,
    List.map_map]
  rfl

def kernelEntries (fl : FloatOps α) (scores : List α) (k : Nat) : List (α × Int) :=
  (indexed (scores.map (max fl.minScore))).foldl (offer fl.lt Prod.fst)
    (List.replicate k (fl.minScore, (-1 : Int)))

omit [Field α] in
theorem kernelEntries_places {scores : List α} {k : Nat} {p : α × Int}
    (hp : p ∈ kernelEntries fl scores k) : p.2 = -1 ∨ ∃ j < scores.length, p.2 = (j : Nat) := by
  obtain ⟨ys, hlist, -, hsub⟩ := foldl_offer_fills fl.lt Prod.fst (fl.minScore, (-1 : Int)) k
    (indexed (scores.map (max fl.minScore)))
  rw [kernelEntries, hlist, List.mem_append] at hp
  rcases hp with hp | hp
  · right
    have hmem : p.2 ∈ (indexed (scores.map (max fl.minScore))).map Prod.snd :=
      List.mem_map_of_mem (hsub.subset hp)
    rw [indexed_snd, List.length_map] at hmem
    obtain ⟨j, hj, hsnd⟩ := List.mem_map.mp hmem
    exact ⟨j, List.mem_range.mp hj, hsnd.symm⟩
  · left
    rw [List.eq_of_mem_replicate hp]

omit [Field α] in
theorem length_kernelEntries (scores : List α) (k : Nat) :
    (kernelEntries fl scores k).length = k := by
  rw [kernelEntries, length_foldl_offer, List.length_replicate]

/-- The answer of the filter on the stacked keys. -/
theorem callTopk_one_head (hfl : Exact fl) (hlaid : Laid adapter kvHeads entries)
    (hne : entries ≠ []) (hone : OneHeadEach adapter q entries) (hk : 1 ≤ kVal)
    {kernel : NativeCKernel} (hloaded : kernel.loaded = true) :
    kernel.callTopk fl (fun d => 1 / sqrt d) q.array (ckEntries entries) kVal =
      some (.ok (.ofEntries (kernelEntries fl (blockScores sqrt adapter.tokensPerBlock
        adapter.headDim q entries) (min kVal entries.length).toNat))) := by
  have hpos : 0 < entries.length := List.length_pos_iff.mpr hne
  have htokens : adapter.tokensPerBlock < 2 ^ 31 :=
    Nat.lt_of_le_of_lt (Nat.le_mul_of_pos_right _ hone.dim_pos) hone.block_lt
  have hwidth : adapter.headDim < 2 ^ 31 :=
    Nat.lt_of_le_of_lt (Nat.le_mul_of_pos_left _ hlaid.tokens_pos) hone.block_lt
  have htop : cInt (min kVal entries.length) = ((min kVal entries.length).toNat : Nat) := by
    rw [cInt_min hk hone.blocks_lt]
    omega
  let key : Nat → Nat → Nat → α := fun b => ((entries[b]?).map fun e => e.2.k.get 0).getD 0
  have hquery : ∀ d < adapter.headDim, ptrOf q.array.elems (d : Int) = some (q.get 0 d) := by
    intro d hd
    have helem := @getElem?_rowMajor α q.heads q.dim 0 d q.get
      (by rw [hone.queryHeads]; exact Nat.zero_lt_one) (by rwa [hone.dim])
    rw [Nat.zero_mul, Nat.zero_add] at helem
    rw [ptrOf, if_pos (Int.natCast_nonneg d), Int.toNat_natCast, Query.array, helem]
  have hkeys : ∀ b < entries.length, ∀ t < adapter.tokensPerBlock, ∀ d < adapter.headDim,
      ptrOf (stackedKeys entries) ((b * (adapter.tokensPerBlock * adapter.headDim) +
        (t * adapter.headDim + d) : Nat) : Int) = some (key b t d) := by
    intro b hb t ht d hd
    rw [ptrOf, if_pos (Int.natCast_nonneg _), Int.toNat_natCast,
      getElem?_stackedKeys hlaid hb ht hd]
    simp [key, hb]
  have hfilter := topkFilter_one_head hfl hpos hlaid.tokens_pos hone.dim_pos
    (show 0 < (min kVal entries.length).toNat by omega) hquery hkeys hone.block_lt hone.buffer_lt
    (1 / sqrt adapter.headDim)
  have hscores : ((List.range entries.length).map fun b => (headProducts (q.get 0) (key b)
      adapter.tokensPerBlock adapter.headDim (1 / sqrt adapter.headDim)).foldl max fl.minScore) =
      (blockScores sqrt adapter.tokensPerBlock adapter.headDim q entries).map
        (max fl.minScore) := by
    apply List.ext_getElem
    · simp [blockScores]
    · intro b hb _
      have hlt : b < entries.length := by simpa using hb
      have hproducts := headProducts_ne (q.get 0) (entries[b].2.k.get 0) hlaid.tokens_pos
        adapter.headDim (1 / sqrt adapter.headDim)
      simpa [blockScores, key, hlt] using foldl_max_eq fl.minScore hproducts
  have hcount : min (min kVal entries.length).toNat entries.length =
      (min kVal entries.length).toNat := by omega
  rw [hscores, hcount] at hfilter
  rw [callTopk_eq fl _ hloaded hlaid hne q hk, cInt_of_lt hone.blocks_lt, cInt_of_lt htokens,
    hone.queryHeads, hone.dim, cInt_of_lt hwidth, htop, Int.cast_natCast,
    cInt_of_lt (by omega : 1 < 2 ^ 31), Nat.cast_one, hfilter]
  rfl

/-- With one head each the paths agree exactly when the places of the answer name the best. -/
theorem agree_iff_namesBest (hfl : Exact fl) (hlaid : Laid adapter kvHeads entries)
    (hne : entries ≠ []) (hone : OneHeadEach adapter q entries) (hk : 1 ≤ kVal) (libPath : String)
    (hasGqaAvx2 : Bool) :
    SelectionsAgree fl sqrt libPath hasGqaAvx2 adapter.headDim q entries kVal ↔
      NamesBest fl (min kVal entries.length).toNat
        (blockScores sqrt adapter.tokensPerBlock adapter.headDim q entries) := by
  have hpos : 0 < entries.length := List.length_pos_iff.mpr hne
  have hlength : (blockScores sqrt adapter.tokensPerBlock adapter.headDim q entries).length =
      entries.length := List.length_map _
  have hbest := @names_best_iff α _ fl hfl.lt Int (nameAt (ckEntries entries))
    (blockScores sqrt adapter.tokensPerBlock adapter.headDim q entries)
    (min kVal entries.length).toNat (by simpa [blockScores] using hne) (by omega)
    (by rw [hlength]; exact nameAt_neg_one hne) (by
      rw [hlength]
      intro i j hi hj hsame
      rw [nameAt_natCast hi, nameAt_natCast hj] at hsame
      have hi' : i < (entries.map fun e => e.1.blockId).length := by simpa using hi
      have hj' : j < (entries.map fun e => e.1.blockId).length := by simpa using hj
      exact (@List.Nodup.getElem_inj_iff _ _ hlaid.ids_nodup i hi' j hj').mp (by simpa using hsame))
  have hcall := @callTopk_one_head α _ _ fl sqrt _ _ _ q kVal hfl hlaid hne hone hk
    ⟨libPath, true, hasGqaAvx2⟩ rfl
  obtain ⟨values, hkernel⟩ := computeTopk_of_call hlaid hne hone.ids_lt
    (by
      intro hnil
      have hzero := congrArg List.length hnil
      rw [TopArrays.ofEntries, List.length_map, length_kernelEntries, List.length_nil] at hzero
      omega)
    (by
      intro i hi
      obtain ⟨p, hp, rfl⟩ := List.mem_map.mp hi
      rw [← hlength]
      exact kernelEntries_places hp) hcall
  have hmin : topBy Prod.fst (min kVal entries.length).toNat
      (indexed (blockScores sqrt adapter.tokensPerBlock adapter.headDim q entries)) =
      topBy Prod.fst kVal.toNat
        (indexed (blockScores sqrt adapter.tokensPerBlock adapter.headDim q entries)) := by
    have hindexed : (indexed (blockScores sqrt adapter.tokensPerBlock adapter.headDim q
        entries)).length = entries.length := by simp [indexed, blockScores]
    rw [← topBy_min_length kVal.toNat, hindexed]
    congr 1
    omega
  rw [← hbest, hmin, SelectionsAgree, selectTopk, selectTopk, if_pos rfl,
    if_neg Bool.false_ne_true, kernelTopk, mapM_ckEntry hlaid, referenceTopk_eq hlaid hone]
  simp only [hkernel, Option.map_some, Except.map, Option.some.injEq, Except.ok.injEq,
    TopArrays.ofEntries, List.map_map]
  constructor
  · rintro ⟨ids, hids, hids'⟩
    exact hids.trans hids'.symm
  · intro hsame
    exact ⟨_, rfl, hsame.symm⟩

/-- The sizes and ids that the wrapper passes on are C ints. -/
structure CInts (adapter : KVBlockAdapter) (q : Query α) (entries : List (KVBlock × Payload α)) :
    Prop where
  blocks_lt : entries.length < 2 ^ 31
  tokens_lt : adapter.tokensPerBlock < 2 ^ 31
  dim_lt : adapter.headDim < 2 ^ 31
  heads_lt : q.heads < 2 ^ 31
  ids_lt : ∀ e ∈ entries, e.1.blockId < 2 ^ 31

theorem dim_of_agree (hne : entries ≠ []) (hlaid : Laid adapter kvHeads entries) {libPath : String}
    {hasGqaAvx2 : Bool}
    (h : SelectionsAgree fl sqrt libPath hasGqaAvx2 adapter.headDim q entries kVal) :
    q.dim = adapter.headDim := by
  obtain ⟨ids, -, hreference⟩ := h
  rw [selectTopk, if_neg Bool.false_ne_true] at hreference
  obtain ⟨first, rest, rfl⟩ := List.exists_cons_of_ne_nil hne
  by_contra hdim
  have hscore : referenceScore (1 / sqrt adapter.headDim) q first.2.k =
      .error (.valueError "operands could not be broadcast together") := by
    rw [referenceScore, if_pos (by rw [(hlaid.keys first List.mem_cons_self).dim]; exact hdim)]
  rw [referenceTopk, List.mapM_cons, hscore] at hreference
  cases Option.some.inj hreference

/-- Both paths select the same ids, the kernel within its buffer, when there is one query head
and one key head a block, and the answer's places name the best. With several query heads the
kernel leaves the buffer. -/
theorem selections_agree_iff (hfl : Exact fl) (sqrt : α → α) (libPath : String)
    (hasGqaAvx2 : Bool) (hproduced : Produced adapter kvHeads entries) (hne : entries ≠ [])
    (q : Query α) (hk : 1 ≤ kVal) :
    (OneHeadEach adapter q entries ∧ NamesBest fl (min kVal entries.length).toNat
        (blockScores sqrt adapter.tokensPerBlock adapter.headDim q entries) →
      SelectionsAgree fl sqrt libPath hasGqaAvx2 adapter.headDim q entries kVal) ∧
    (CInts adapter q entries → kvHeads ≤ q.heads →
      (SelectionsAgree fl sqrt libPath hasGqaAvx2 adapter.headDim q entries kVal ↔
        OneHeadEach adapter q entries ∧ NamesBest fl (min kVal entries.length).toNat
          (blockScores sqrt adapter.tokensPerBlock adapter.headDim q entries))) := by
  have hlaid := hproduced.laid hne
  have henough : OneHeadEach adapter q entries ∧ NamesBest fl (min kVal entries.length).toNat
        (blockScores sqrt adapter.tokensPerBlock adapter.headDim q entries) →
      SelectionsAgree fl sqrt libPath hasGqaAvx2 adapter.headDim q entries kVal :=
    fun h => (agree_iff_namesBest hfl hlaid hne h.1 hk libPath hasGqaAvx2).mpr h.2
  refine ⟨henough, fun hints hgrouped => ⟨fun hagree => ?_, henough⟩⟩
  have hdim := dim_of_agree hne hlaid hagree
  have hone : OneHeadEach adapter q entries := by
    obtain ⟨ids, hkernel, -⟩ := hagree
    rw [selectTopk, if_pos rfl, kernelTopk, mapM_ckEntry hlaid] at hkernel
    obtain ⟨returned, hcompute, hids⟩ := Option.map_eq_some_iff.mp hkernel
    obtain ⟨called, hcall, hreturned⟩ := Option.map_eq_some_iff.mp hcompute
    cases called with
    | error err =>
        rw [← hreturned] at hids
        cases hids
    | ok out =>
        obtain ⟨hheads, hpos, hblock, hbuffer⟩ := one_head_of_kernel rfl hlaid hne hdim hk
          hints.blocks_lt hints.tokens_lt hints.dim_lt hints.heads_lt hcall
        refine ⟨hdim, hpos, hheads, fun e he => ?_, hints.blocks_lt, hblock, hbuffer, hints.ids_lt⟩
        have hheadsPage := (hlaid.keys e he).heads
        omega
  exact ⟨hone, (agree_iff_namesBest hfl hlaid hne hone hk libPath hasGqaAvx2).mp hagree⟩

end Agreement

/-! ## One query head and two -/

def oneElement : Payload ℚ := ⟨⟨1, 1, 1, 4, fun _ _ _ => 1⟩, ⟨1, 1, 1, 4, fun _ _ _ => 1⟩⟩

def oneElementAdapter : KVBlockAdapter := ⟨1, 1, 1, "FP32", 0, 0⟩

def oneElementBlocks : List (KVBlock × Payload ℚ) :=
  (oneElementAdapter.blockizeLayer 0 oneElement 0).toOption.getD []

theorem produced_oneElement : Produced oneElementAdapter 1 oneElementBlocks := by
  have hisOk : (oneElementAdapter.blockizeLayer 0 oneElement 0).isOk = true := by decide +kernel
  refine ⟨0, oneElement, 0, oneElementBlocks, ⟨rfl, rfl, rfl⟩, rfl, ?_, List.Sublist.refl _⟩
  unfold oneElementBlocks
  cases hblocks : oneElementAdapter.blockizeLayer 0 oneElement 0 with
  | error err =>
      rw [hblocks] at hisOk
      cases hisOk
  | ok blocks => rfl

def onesOf (heads : Nat) : Query ℚ := ⟨heads, 1, fun _ _ => 1⟩

theorem selections_agree_one_head :
    SelectionsAgree rationalOps (fun x => x) "" true 1 (onesOf 1) oneElementBlocks 1 :=
  have hne : oneElementBlocks ≠ [] := by
    rw [ne_eq, ← List.length_eq_zero_iff]
    decide +kernel
  (selections_agree_iff exact_rationalOps (fun x => x) "" true produced_oneElement hne (onesOf 1)
    (by decide : (1 : Int) ≤ 1)).1
      ⟨⟨rfl, by decide, rfl, by decide +kernel, by decide +kernel, by decide +kernel,
        by decide +kernel, by decide +kernel⟩, .inl (by decide +kernel)⟩

/-- With two query heads the kernel reads a second element of a buffer that holds one. -/
theorem two_heads_leave_buffer :
    Produced oneElementAdapter 1 oneElementBlocks ∧
      kernelTopk rationalOps (fun x => x) ⟨"", true, true⟩ (onesOf 2) oneElementBlocks 1 = none ∧
      ¬ SelectionsAgree rationalOps (fun x => x) "" true 1 (onesOf 2) oneElementBlocks 1 := by
  have hnone : kernelTopk rationalOps (fun x => x) ⟨"", true, true⟩ (onesOf 2) oneElementBlocks 1 =
      none := Option.isNone_iff_eq_none.mp (by decide +kernel)
  refine ⟨produced_oneElement, hnone, ?_⟩
  rintro ⟨ids, hkernel, -⟩
  rw [selectTopk, if_pos rfl, hnone] at hkernel
  cases hkernel

end AiSsd.RealLlm
