import AiSsd.RealLlm.TraceGenerator
import AiSsd.Trace.Reader
import AiSsd.Trace.Replayer

/-!
# A model's trace, read back

Every event the generator writes is within the bounds that the reader takes from the
manifest and passes the replayer's check, and every filter is followed by the fetches of the
blocks it selected. Both are shown of each layer's events before they get their ids.
-/

namespace AiSsd.RealLlm

open Lib Numpy Schemas Trace

/-! ## One event -/

structure ReadsAs (event : TraceEvent) (record : CanonicalTraceRecord) : Prop where
  eventId : record.eventId = event.eventId
  step : record.step = event.step
  layerId : record.layerId = event.layerId
  headId : record.headId = event.headId
  operation : record.operation = event.operation
  blockId : record.blockId = event.blockId
  tokenStart : record.tokenStart = event.tokenStart
  tokenEnd : record.tokenEnd = some event.tokenEnd
  subPage : record.subPage = event.subPage
  byteSize : record.byteSize = event.byteSize
  candidateBlocks : record.candidateBlocks = event.candidateBlocks.map .int
  selectedBlocks : record.selectedBlocks = event.selectedBlocks.map .int

def TraceEvent.canonical (e : TraceEvent) : CanonicalTraceRecord where
  eventId := e.eventId
  step := e.step
  layerId := e.layerId
  headId := e.headId
  operation := e.operation
  blockId := e.blockId
  tokenStart := e.tokenStart
  tokenEnd := some e.tokenEnd
  tokenCount := 16
  subPage := e.subPage
  byteSize := e.byteSize
  tier := e.tier
  hotness := e.hotness
  candidateBlocks := e.candidateBlocks.map .int
  selectedBlocks := e.selectedBlocks.map .int
  queryId := .int e.queryId
  timestampNs := e.timestampNs
  metadata := .dict []

theorem readsAs_canonical (e : TraceEvent) : ReadsAs e e.canonical := by
  constructor <;> rfl

def operations : List String := ["PREFILL_WRITE", "DECODE_READ", "TOPK_FILTER", "TOPK_FETCH"]

/-- An event within the bounds of a model. -/
structure Sound (numLayers numKvHeads : Nat) (e : TraceEvent) : Prop where
  operation : e.operation ∈ operations
  layer : 0 ≤ e.layerId ∧ e.layerId < numLayers
  head : 0 ≤ e.headId ∧ e.headId < numKvHeads
  size : 0 < e.byteSize
  block : 0 ≤ e.blockId

variable {numLayers numKvHeads : Nat} {e : TraceEvent}

theorem Sound.fromDict (h : Sound numLayers numKvHeads e) (py : PyText) :
    CanonicalTraceRecord.fromDict py e.toDict = .ok e.canonical := by
  have hop := h.operation
  obtain ⟨_, _, _, _, _, operation, _, _, _, _, _, _, _, _, _, topkK, _⟩ := e
  simp only [operations, List.mem_cons, List.not_mem_nil, or_false] at hop
  rcases hop with rfl | rfl | rfl | rfl <;> cases topkK <;> rfl

theorem Sound.within (h : Sound numLayers numKvHeads e) {r : TraceReader}
    (hr : r.manifest = some ⟨numLayers, numKvHeads⟩) : r.Within e.canonical := by
  have hlayers : r.maxLayers = numLayers := by
    unfold TraceReader.maxLayers
    rw [hr]
  have hheads : r.maxHeads = numKvHeads := by
    unfold TraceReader.maxHeads
    rw [hr]
  refine ⟨?_, ?_, h.size, h.block⟩
  · rw [hlayers]
    exact h.layer
  · rw [hheads]
    exact h.head

theorem contains_upper_operation : ∀ op ∈ operations,
    StorageTraceReplayer.validOperations.contains (upper op) = true := by
  decide

theorem Sound.validateRecord (h : Sound numLayers numKvHeads e) (py : PyText) (lineNum : Int) :
    ∃ v, StorageTraceReplayer.validateRecord py e.toDict lineNum = .ok v := by
  have hop := h.operation
  have hvalid := contains_upper_operation e.operation hop
  have hlayer : StorageTraceReplayer.isIntFrom 0 (.int e.layerId) = true :=
    decide_eq_true h.layer.1
  have hhead : StorageTraceReplayer.isIntFrom 0 (.int e.headId) = true :=
    decide_eq_true h.head.1
  have hsize : StorageTraceReplayer.isIntFrom 1 (.int e.byteSize) = true :=
    decide_eq_true h.size
  obtain ⟨_, _, _, layerId, headId, operation, _, _, _, _, byteSize, _, _, _, _, topkK, _⟩ := e
  simp only [operations, List.mem_cons, List.not_mem_nil, or_false] at hop
  unfold StorageTraceReplayer.validateRecord
  rcases hop with rfl | rfl | rfl | rfl
  all_goals
    refine ⟨_, (if_neg ?_).trans ((if_neg ?_).trans ((if_neg ?_).trans ((if_neg ?_).trans
      ((if_neg ?_).trans rfl))))⟩
    · exact fun h => Bool.noConfusion (show true = false from h)
    · exact fun h => Bool.noConfusion (hvalid.symm.trans h)
    · exact fun h => Bool.noConfusion (hlayer.symm.trans h)
    · exact fun h => Bool.noConfusion (hhead.symm.trans h)
    · exact fun h => Bool.noConfusion (hsize.symm.trans h)

/-! ## Filters and fetches -/

def TraceEvent.isFetch (e : TraceEvent) : Bool := e.operation = "TOPK_FETCH"

structure FetchedNext (e : TraceEvent) (later : List TraceEvent) : Prop where
  nodup : e.selectedBlocks.Nodup
  candidates : ∀ b ∈ e.selectedBlocks, b ∈ e.candidateBlocks
  fetches : (later.takeWhile TraceEvent.isFetch).map TraceEvent.blockId = e.selectedBlocks

/-- After every filter come the fetches of its blocks, each once, and then no other fetch. -/
def FiltersFetched : List TraceEvent → Prop
  | [] => True
  | e :: later => (e.operation = "TOPK_FILTER" → FetchedNext e later) ∧ FiltersFetched later

def StartsAfresh (events : List TraceEvent) : Prop := events.takeWhile TraceEvent.isFetch = []

theorem StartsAfresh.append {xs ys : List TraceEvent} (hx : StartsAfresh xs)
    (hy : StartsAfresh ys) : StartsAfresh (xs ++ ys) := by
  cases xs with
  | nil => exact hy
  | cons x xs =>
      unfold StartsAfresh at hx ⊢
      rw [List.takeWhile_cons] at hx
      rw [List.cons_append, List.takeWhile_cons]
      split at hx
      · cases hx
      · rename_i hfetch
        rw [if_neg hfetch]

theorem takeWhile_append_afresh {ys : List TraceEvent} (hy : StartsAfresh ys)
    (xs : List TraceEvent) :
    (xs ++ ys).takeWhile TraceEvent.isFetch = xs.takeWhile TraceEvent.isFetch := by
  induction xs with
  | nil => exact hy
  | cons x xs ih => rw [List.cons_append, List.takeWhile_cons, List.takeWhile_cons, ih]

theorem FiltersFetched.append {xs ys : List TraceEvent} (hx : FiltersFetched xs)
    (hy : FiltersFetched ys) (hfresh : StartsAfresh ys) : FiltersFetched (xs ++ ys) := by
  induction xs with
  | nil => exact hy
  | cons x xs ih =>
      refine ⟨fun hfilter => ?_, ih hx.2⟩
      have hnext := hx.1 hfilter
      exact ⟨hnext.nodup, hnext.candidates,
        (congrArg _ (takeWhile_append_afresh hfresh xs)).trans hnext.fetches⟩

theorem filtersFetched_of_plain {events : List TraceEvent}
    (h : ∀ e ∈ events, e.operation ≠ "TOPK_FILTER") : FiltersFetched events := by
  induction events with
  | nil => trivial
  | cons e events ih =>
      rw [List.forall_mem_cons] at h
      exact ⟨fun hfilter => absurd hfilter h.1, ih h.2⟩

theorem startsAfresh_of_plain {events : List TraceEvent}
    (h : ∀ e ∈ events, e.operation ≠ "TOPK_FETCH") : StartsAfresh events := by
  unfold StartsAfresh
  rw [List.takeWhile_eq_nil_iff]
  intro hpos
  simpa [TraceEvent.isFetch] using h _ (List.getElem_mem hpos)

/-! ## Drafts -/

theorem number_append (n : Nat) (xs ys : List Draft) :
    number n (xs ++ ys) = number n xs ++ number (n + xs.length) ys := by
  unfold number
  rw [List.zipIdx_append, List.map_append]

theorem number_cons (n : Nat) (d : Draft) (ds : List Draft) :
    number n (d :: ds) = d n :: number (n + 1) ds := by
  unfold number
  rw [List.zipIdx_cons, List.map_cons]

theorem forall_number {P : TraceEvent → Prop} {drafts : List Draft} (h : ∀ d ∈ drafts, ∀ n, P (d n))
    (n : Nat) : ∀ e ∈ number n drafts, P e := by
  intro e he
  obtain ⟨d, hd, rfl⟩ := List.mem_map.mp he
  exact h d.1 (List.fst_mem_of_mem_zipIdx hd) d.2

/-- Drafts whose events are sound, carry their ids and keep filters and fetches together. -/
structure Good (numLayers numKvHeads : Nat) (drafts : List Draft) : Prop where
  sound : ∀ d ∈ drafts, ∀ n, Sound numLayers numKvHeads (d n) ∧ (d n).eventId = n
  filters : ∀ n, FiltersFetched (number n drafts)
  afresh : ∀ n, StartsAfresh (number n drafts)

theorem good_nil : Good numLayers numKvHeads [] := by
  refine ⟨by simp, fun n => trivial, fun n => rfl⟩

theorem Good.append {xs ys : List Draft} (hx : Good numLayers numKvHeads xs)
    (hy : Good numLayers numKvHeads ys) : Good numLayers numKvHeads (xs ++ ys) where
  sound := by
    intro d hd
    rcases List.mem_append.mp hd with hd | hd
    · exact hx.sound d hd
    · exact hy.sound d hd
  filters n := by
    rw [number_append]
    exact (hx.filters n).append (hy.filters _) (hy.afresh _)
  afresh n := by
    rw [number_append]
    exact (hx.afresh n).append (hy.afresh _)

theorem good_flatten {groups : List (List Draft)}
    (h : ∀ group ∈ groups, Good numLayers numKvHeads group) :
    Good numLayers numKvHeads groups.flatten := by
  induction groups with
  | nil => exact good_nil
  | cons group groups ih =>
      rw [List.forall_mem_cons] at h
      exact h.1.append (ih h.2)

theorem good_of_plain {drafts : List Draft}
    (hsound : ∀ d ∈ drafts, ∀ n, Sound numLayers numKvHeads (d n) ∧ (d n).eventId = n)
    (hplain : ∀ d ∈ drafts, ∀ n,
      (d n).operation ≠ "TOPK_FILTER" ∧ (d n).operation ≠ "TOPK_FETCH") :
    Good numLayers numKvHeads drafts where
  sound := hsound
  filters n := filtersFetched_of_plain (forall_number (fun d hd m => (hplain d hd m).1) n)
  afresh n := startsAfresh_of_plain (forall_number (fun d hd m => (hplain d hd m).2) n)

/-- A comprehension whose calls all give good drafts. -/
theorem exists_good_flatten {β : Type} {f : β → Except PyErr (List Draft)} {xs : List β}
    (h : ∀ x ∈ xs, ∃ drafts, f x = .ok drafts ∧ Good numLayers numKvHeads drafts) :
    ∃ groups, xs.mapM f = .ok groups ∧ Good numLayers numKvHeads groups.flatten ∧
      ∀ x ∈ xs, ∃ drafts ∈ groups, f x = .ok drafts := by
  obtain ⟨groups, hgroups, hcalls⟩ := exists_mapM_eq_ok
    (P := fun x drafts => f x = .ok drafts ∧ Good numLayers numKvHeads drafts) (fun x hx => by
      obtain ⟨drafts, hdrafts, hgood⟩ := h x hx
      exact ⟨drafts, hdrafts, hdrafts, hgood⟩)
  refine ⟨groups, hgroups, good_flatten ?_, ?_⟩
  · intro group hgroup
    obtain ⟨i, hi, rfl⟩ := List.getElem_of_mem hgroup
    exact (hcalls.get (hcalls.length_eq ▸ hi) hi).2
  · intro x hx
    obtain ⟨i, hi, rfl⟩ := List.getElem_of_mem hx
    have hi' : i < groups.length := hcalls.length_eq ▸ hi
    exact ⟨groups[i], List.getElem_mem hi', (hcalls.get hi hi').1⟩

/-! ## One layer -/

section

variable {α : Type} {adapter : KVBlockAdapter} {l : Nat} {blocks : List (KVBlock × Payload α)}

structure LayerCut (adapter : KVBlockAdapter) (l numLayers numKvHeads : Nat)
    (blocks : List (KVBlock × Payload α)) : Prop where
  layer : l < numLayers
  dim_pos : 0 < adapter.headDim
  nodup : (blocks.map fun entry => entry.1.blockId).Nodup
  cut : ∀ entry ∈ blocks, adapter.Cut l numKvHeads entry

variable (env : TraceEnv)

/-- The drafts about one block, with the size of a page or two. -/
theorem LayerCut.sound (h : LayerCut adapter l numLayers numKvHeads blocks)
    {entry : KVBlock × Payload α} (hentry : entry ∈ blocks) {e : TraceEvent}
    (hop : e.operation ∈ operations) (hlayer : e.layerId = l)
    (hhead : e.headId = entry.1.kvHeadStart) (hblock : e.blockId = entry.1.blockId)
    (hsize : e.byteSize = entry.1.totalSizeBytes ∨ e.byteSize = entry.1.valueSizeBytes) :
    Sound numLayers numKvHeads e := by
  have hcut := h.cut entry hentry
  have hpos := hcut.keySize_pos h.dim_pos
  have hkey := hcut.keySize
  have hvalue := hcut.valueSize
  have hlt := h.layer
  refine ⟨hop, ⟨by omega, by omega⟩, ?_, ?_, ?_⟩
  · rw [hhead]
    exact hcut.head
  · rw [KVBlock.totalSizeBytes] at hsize
    omega
  · rw [hblock]
    exact hcut.blockId

theorem LayerCut.good_prefill (h : LayerCut adapter l numLayers numKvHeads blocks) :
    Good numLayers numKvHeads (blocks.map fun entry => prefillWrite env l entry.1) := by
  apply good_of_plain
  · intro d hd n
    obtain ⟨entry, hentry, rfl⟩ := List.mem_map.mp hd
    exact ⟨h.sound hentry (by simp [prefillWrite, operations]) rfl rfl rfl (.inl rfl), rfl⟩
  · intro d hd n
    obtain ⟨entry, -, rfl⟩ := List.mem_map.mp hd
    simp [prefillWrite]

theorem LayerCut.good_reads (h : LayerCut adapter l numLayers numKvHeads blocks)
    (stepIdx : Nat) (keep : KVBlock × Payload α → Bool) :
    Good numLayers numKvHeads (((blocks.filter keep).map Prod.fst).map
      (decodeRead env stepIdx l)) := by
  apply good_of_plain
  · intro d hd n
    obtain ⟨b, hb, rfl⟩ := List.mem_map.mp hd
    obtain ⟨entry, hentry, rfl⟩ := List.mem_map.mp hb
    exact ⟨h.sound (List.mem_of_mem_filter hentry) (by simp [decodeRead, operations]) rfl rfl rfl
      (.inl rfl), rfl⟩
  · intro d hd n
    obtain ⟨b, -, rfl⟩ := List.mem_map.mp hd
    simp [decodeRead]

def FetchOf (blocks : List (KVBlock × Payload α)) (stepIdx l : Nat)
    (candidateIds selected : List Int) (selId : Int) (d : Draft) : Prop :=
  ∃ entry ∈ blocks, entry.1.blockId = selId ∧
    d = topkFetch env stepIdx l selId entry.1 candidateIds selected

variable {env} {stepIdx : Nat} {candidateIds selected : List Int}

theorem number_fetches {ids : List Int} {fetches : List Draft}
    (h : List.Forall₂ (FetchOf env blocks stepIdx l candidateIds selected) ids fetches) (n : Nat) :
    (number n fetches).takeWhile TraceEvent.isFetch = number n fetches ∧
      (number n fetches).map TraceEvent.blockId = ids ∧
      ∀ e ∈ number n fetches, e.operation ≠ "TOPK_FILTER" := by
  induction h generalizing n with
  | nil => exact ⟨rfl, rfl, by simp [number]⟩
  | cons hfetch _ ih =>
      obtain ⟨entry, -, hid, rfl⟩ := hfetch
      obtain ⟨hall, hids, hplain⟩ := ih (n + 1)
      rw [number_cons]
      refine ⟨?_, ?_, ?_⟩
      · rw [List.takeWhile_cons_of_pos rfl, hall]
      · rw [List.map_cons, hids]
        rfl
      · exact List.forall_mem_cons.mpr ⟨by simp [topkFetch], hplain⟩

theorem LayerCut.good_filter (h : LayerCut adapter l numLayers numKvHeads blocks)
    {firstId filterBytes k : Int} {fetches : List Draft} (hheads : 0 < numKvHeads)
    (hfirst : 0 ≤ firstId) (hbytes : 0 < filterBytes) (hnodup : selected.Nodup)
    (hsubset : ∀ b ∈ selected, b ∈ candidateIds)
    (hfetches : List.Forall₂ (FetchOf env blocks stepIdx l candidateIds selected) selected
      fetches) :
    Good numLayers numKvHeads
      (topkFilter env stepIdx l firstId filterBytes candidateIds selected k :: fetches) where
  sound := by
    have hlt := h.layer
    rw [List.forall_mem_cons]
    constructor
    · intro n
      refine ⟨⟨by simp [topkFilter, operations], ?_, ?_, hbytes, hfirst⟩, rfl⟩
      · exact ⟨Int.natCast_nonneg l, Int.ofNat_lt.mpr hlt⟩
      · exact ⟨Int.le_refl 0, Int.ofNat_lt.mpr hheads⟩
    · intro d hd n
      obtain ⟨i, hi, rfl⟩ := List.getElem_of_mem hd
      obtain ⟨entry, hentry, hid, heq⟩ := hfetches.get (by rw [hfetches.length_eq]; exact hi) hi
      rw [List.get_eq_getElem] at heq
      rw [heq]
      exact ⟨h.sound hentry (by simp [topkFetch, operations]) rfl rfl hid.symm (.inr rfl), rfl⟩
  filters n := by
    obtain ⟨hall, hids, hplain⟩ := number_fetches hfetches (n + 1)
    rw [number_cons]
    refine ⟨fun _ => ⟨hnodup, hsubset, ?_⟩, filtersFetched_of_plain hplain⟩
    rw [hall]
    exact hids
  afresh n := by
    rw [number_cons]
    exact List.takeWhile_cons_of_neg (by simp [TraceEvent.isFetch, topkFilter])

/-! ## Scoring -/

variable [Field α] [LinearOrder α]

theorem referenceScore_ok {q : Query α} {k : Tensor3 α} (scale : α) (hdim : q.dim = k.d2)
    (hheads : 0 < q.heads) (htokens : 0 < k.d1) :
    ∃ score, referenceScore scale q k = .ok score := by
  obtain ⟨heads, hheads⟩ := Nat.exists_eq_add_of_lt hheads
  obtain ⟨tokens, htokens⟩ := Nat.exists_eq_add_of_lt htokens
  unfold referenceScore
  rw [if_neg (not_not.mpr hdim), hheads, htokens, Nat.zero_add, Nat.zero_add,
    @List.range_succ_eq_map heads, List.flatMap_cons, @List.range_succ_eq_map tokens,
    List.map_cons, List.cons_append]
  exact ⟨_, rfl⟩

/-- The selection is some of the candidates, each once. -/
theorem referenceTopk_ok {q : Query α} {entries : List (KVBlock × Payload α)} (sqrt : α → α)
    (headDim : Nat) (k : Int)
    (hscore : ∀ entry ∈ entries, ∀ scale, ∃ score, referenceScore scale q entry.2.k = .ok score) :
    ∃ selected, referenceTopk sqrt headDim q entries k = .ok selected ∧
      selected.Subperm (entries.map fun entry => entry.1.blockId) := by
  have hcalls : ∀ entry ∈ entries, ∃ scored,
      (referenceScore (1 / sqrt headDim) q entry.2.k).map (fun score => (score, entry.1.blockId)) =
        .ok scored ∧ scored.2 = entry.1.blockId := by
    intro entry hentry
    obtain ⟨score, hscored⟩ := hscore entry hentry (1 / sqrt headDim)
    rw [hscored]
    exact ⟨_, rfl, rfl⟩
  obtain ⟨scores, hscores, hids⟩ := exists_mapM_eq_ok hcalls
  have hmap : scores.map Prod.snd = entries.map fun entry => entry.1.blockId := by
    clear hscores hscore hcalls
    induction hids with
    | nil => rfl
    | cons hid _ ih => rw [List.map_cons, List.map_cons, hid, ih]
  refine ⟨(topBy Prod.fst k.toNat scores).map Prod.snd, ?_, ?_⟩
  · unfold referenceTopk
    rw [hscores]
    rfl
  · rw [← hmap]
    obtain ⟨kept, hperm, hsub⟩ := topBy_subperm Prod.fst k.toNat scores
    exact ⟨kept.map Prod.snd, hperm.map Prod.snd, hsub.map Prod.snd⟩

theorem kVal_pos (topKPercent : Rat) {n : Nat} (hn : n ≠ 0) : 0 < kVal topKPercent n := by
  unfold kVal
  rw [if_neg hn]
  omega

omit [Field α] [LinearOrder α] in
/-- Every selected block is found again among the entries it came from. -/
theorem fetches_ok {entries : List (KVBlock × Payload α)} (hsub : ∀ e ∈ entries, e ∈ blocks)
    (hselected : ∀ b ∈ selected, b ∈ entries.map fun entry => entry.1.blockId) :
    ∃ fetches, (selected.mapM fun selId => (nextBlock entries selId).map fun target =>
        topkFetch env stepIdx l selId target candidateIds selected) = .ok fetches ∧
      List.Forall₂ (FetchOf env blocks stepIdx l candidateIds selected) selected fetches := by
  apply exists_mapM_eq_ok
  intro selId hsel
  obtain ⟨entry, hentry, hid⟩ := List.mem_map.mp (hselected selId hsel)
  unfold nextBlock
  cases hfind : entries.find? fun entry => entry.1.blockId = selId with
  | none =>
      have hnone := List.find?_eq_none.mp hfind entry hentry
      simp [hid] at hnone
  | some found =>
      have hfound : found.1.blockId = selId := by simpa using List.find?_some hfind
      exact ⟨_, rfl, found, hsub found (List.mem_of_find?_eq_some hfind), hfound, rfl⟩

theorem LayerCut.decodeLayer_ok (h : LayerCut adapter l numLayers numKvHeads blocks)
    (hheads : 0 < numKvHeads) {q : Query α} (hdim : q.dim = adapter.headDim) (hq : 0 < q.heads)
    (sqrt : α → α) (headDim : Nat) (topKPercent : Rat) :
    ∃ drafts, decodeLayer env sqrt headDim topKPercent stepIdx l q blocks = .ok drafts ∧
      Good numLayers numKvHeads drafts := by
  have hreads := h.good_reads env stepIdx fun entry => entry.1.storageTier = .dram
  have hentries : ∀ entry ∈ blocks.filter fun entry => entry.1.storageTier = .ssd,
      entry ∈ blocks := fun entry hentry => List.mem_of_mem_filter hentry
  have hnodup : ((blocks.filter fun entry => entry.1.storageTier = .ssd).map
      fun entry => entry.1.blockId).Nodup := (List.filter_sublist.map _).nodup h.nodup
  unfold decodeLayer
  dsimp only
  generalize blocks.filter (fun entry => entry.1.storageTier = .ssd) = ssdEntries
    at hentries hnodup ⊢
  cases hssd : ssdEntries with
  | nil => exact ⟨_, rfl, hreads⟩
  | cons first rest =>
      have hfirst : first ∈ ssdEntries := by
        rw [hssd]
        exact List.mem_cons_self
      have hpos : 0 < kVal topKPercent (ssdEntries.map fun entry => entry.1.blockId).length :=
        kVal_pos topKPercent (by simp [hssd])
      obtain ⟨selected, hselected, kept, hperm, hkept⟩ := @referenceTopk_ok α _ _ q ssdEntries sqrt
        headDim (kVal topKPercent (ssdEntries.map fun entry => entry.1.blockId).length)
        (fun entry hentry scale => by
          have hcut := h.cut entry (hentries entry hentry)
          apply referenceScore_ok scale (hdim.trans hcut.keyDim.symm) hq
          rw [hcut.keyTokens]
          exact hcut.tokens_pos)
      have hsubset : ∀ b ∈ selected, b ∈ ssdEntries.map fun entry => entry.1.blockId :=
        fun b hb => hkept.subset (hperm.mem_iff.mpr hb)
      obtain ⟨fetches, hfetch, hfetches⟩ := @fetches_ok α l blocks env stepIdx
        (ssdEntries.map fun entry => entry.1.blockId) selected ssdEntries hentries hsubset
      have hblocks := List.ne_nil_of_mem (hentries first hfirst)
      rw [← hssd, if_pos hpos, hselected]
      simp only [bind, Except.bind]
      split
      · rename_i hnone
        simp [hssd] at hnone
      · exact absurd rfl hblocks
      · rename_i firstId ids firstBlock payload others hids
        rw [hfetch]
        have hcut := h.cut (firstBlock, payload) List.mem_cons_self
        have hkey := hcut.keySize_pos h.dim_pos
        have hkeySize : firstBlock.keySizeBytes = adapter.keySizeBytes := hcut.keySize
        have hfirstId : firstId ∈ ssdEntries.map fun entry => entry.1.blockId := by
          rw [hids]
          exact List.mem_cons_self
        obtain ⟨entry, hentry, rfl⟩ := List.mem_map.mp hfirstId
        refine ⟨_, rfl, hreads.append (h.good_filter hheads ?_ ?_ ?_ hsubset hfetches)⟩
        · exact (h.cut entry (hentries entry hentry)).blockId
        · refine Int.mul_pos ?_ (by omega)
          rw [hids]
          exact Int.natCast_pos.mpr (Nat.succ_pos _)
        · exact hperm.nodup_iff.mp (hkept.nodup hnodup)

/-! ## The whole trace -/

omit [Field α] [LinearOrder α] in
theorem map_eventId_number {drafts : List Draft}
    (h : ∀ d ∈ drafts, ∀ n, (d n).eventId = n) (n : Nat) :
    (number n drafts).map TraceEvent.eventId =
      (List.range' n drafts.length).map fun (i : Nat) => (i : Int) := by
  rw [← List.zipIdx_map_snd n drafts, number, List.map_map, List.map_map]
  exact List.map_congr_left fun d hd => h d.1 (List.fst_mem_of_mem_zipIdx hd) d.2

omit [Field α] [LinearOrder α] in
theorem Good.loadAll {drafts : List Draft} (h : Good numLayers numKvHeads drafts)
    (hne : drafts ≠ []) (py : PyText) {r : TraceReader}
    (hr : r.manifest = some ⟨numLayers, numKvHeads⟩) :
    ∃ loaded, r.loadAll py ((number 0 drafts).map fun e => .object e.toDict) = .ok loaded ∧
      List.Forall₂ ReadsAs (number 0 drafts) loaded.1 := by
  have hsound : ∀ e ∈ number 0 drafts, Sound numLayers numKvHeads e :=
    forall_number (fun d hd n => (h.sound d hd n).1) 0
  have hids := map_eventId_number (fun d hd n => (h.sound d hd n).2) 0
  have hread : List.Forall₂ (fun data record => CanonicalTraceRecord.fromDict py data = .ok record)
      ((number 0 drafts).map TraceEvent.toDict) ((number 0 drafts).map TraceEvent.canonical) := by
    rw [List.forall₂_map_left_iff, List.forall₂_map_right_iff, List.forall₂_same]
    exact fun e he => (hsound e he).fromDict py
  have haccepted : TraceReader.Accepted { r with lastEventId := -1 } (-1)
      ((number 0 drafts).map TraceEvent.canonical) := by
    have hcanonical : ((number 0 drafts).map TraceEvent.canonical).map
        CanonicalTraceRecord.eventId = (number 0 drafts).map TraceEvent.eventId := by
      rw [List.map_map]
      rfl
    apply TraceReader.accepted_of_increasing
    · intro record hrecord
      obtain ⟨e, he, rfl⟩ := List.mem_map.mp hrecord
      exact (hsound e he).within hr
    · intro record hrecord
      have hid := List.mem_map_of_mem (f := CanonicalTraceRecord.eventId) hrecord
      rw [hcanonical, hids] at hid
      obtain ⟨i, -, hi⟩ := List.mem_map.mp hid
      omega
    · rw [hcanonical, hids, List.pairwise_map]
      exact List.Pairwise.imp (fun h => Int.ofNat_lt.mpr h) List.pairwise_lt_range'
  obtain ⟨final, hlines⟩ := (@TraceReader.readLines_objects_iff py { r with lastEventId := -1 } 1
    _ _).mpr ⟨hread, haccepted⟩
  refine ⟨((number 0 drafts).map TraceEvent.canonical, final), ?_, ?_⟩
  · rw [List.map_map] at hlines
    obtain ⟨d, ds, rfl⟩ := List.exists_cons_of_ne_nil hne
    rw [number_cons] at hlines ⊢
    have hheader : TraceReader.isHeader (d 0).toDict = false := by
      unfold TraceEvent.toDict
      cases (d 0).topkK <;> rfl
    have hnot : ¬ TraceReader.isHeader (d 0).toDict = true := by
      rw [hheader]
      exact Bool.false_ne_true
    exact (if_neg hnot).trans hlines
  · rw [List.forall₂_map_right_iff, List.forall₂_same]
    exact fun e _ => readsAs_canonical e

omit [Field α] [LinearOrder α] in
theorem not_manifest_traceFilename (workloadName : String) :
    ¬ TraceReader.manifestSuffix <:+ traceFilename workloadName := by
  intro hsuffix
  have hend : ['.', 'j', 's', 'o', 'n', 'l'] <:+ traceFilename workloadName :=
    List.suffix_append _ _
  have hlast := (hsuffix.getLast (by decide)).trans (hend.getLast (by decide)).symm
  exact absurd hlast (by decide)

omit [LinearOrder α] in
theorem layerCut_of_blockize {result : InferenceResult α}
    {layerBlocks : Dict Nat (List (KVBlock × Payload α))}
    (hblocks : adapter.blockizeAllLayers result.layerKv = .ok layerBlocks)
    (hlt : l < result.modelMetadata.numLayers) :
    ∃ blocks, layerBlocks.get? l = some blocks ∧
      adapter.headDim = result.modelMetadata.headDim ∧
      LayerCut adapter l result.modelMetadata.numLayers result.modelMetadata.numKvHeads
        blocks := by
  obtain ⟨kv, hkv, hheads, hdim⟩ := result.layers l hlt
  obtain ⟨blocks, hget, hadapter, hnodup, hcut⟩ :=
    KVBlockAdapter.blockizeAllLayers_spec hblocks hkv
  rw [hheads] at hcut
  have heq : adapter.headDim = result.modelMetadata.headDim := hadapter.symm.trans hdim
  exact ⟨blocks, hget, heq, hlt, heq ▸ result.dim_pos, hnodup, hcut⟩

theorem item_ok {β : Type} {d : Dict Nat β} {key : Nat} {value : β}
    (h : d.get? key = some value) : item d key = .ok value := by
  unfold item
  rw [h]

variable {result : InferenceResult α} {layerBlocks : Dict Nat (List (KVBlock × Payload α))}

omit [LinearOrder α] in
theorem prefillPhase_ok (hblocks : adapter.blockizeAllLayers result.layerKv = .ok layerBlocks) :
    ∃ drafts, prefillPhase env layerBlocks result.modelMetadata.numLayers = .ok drafts ∧
      Good result.modelMetadata.numLayers result.modelMetadata.numKvHeads drafts ∧
      ∀ l < result.modelMetadata.numLayers, ∀ blocks, layerBlocks.get? l = some blocks →
        ∀ entry ∈ blocks, prefillWrite env l entry.1 ∈ drafts := by
  have hlayer {l : Nat} {blocks : List (KVBlock × Payload α)}
      (hget : layerBlocks.get? l = some blocks) : (do
        let blocks ← item layerBlocks l
        return blocks.map fun entry => prefillWrite env l entry.1 : Except PyErr (List Draft)) =
      .ok (blocks.map fun entry => prefillWrite env l entry.1) := by
    rw [item_ok hget]
    rfl
  have hlayers : ∀ l ∈ List.range result.modelMetadata.numLayers, ∃ drafts, (do
        let blocks ← item layerBlocks l
        return blocks.map fun entry => prefillWrite env l entry.1 : Except PyErr (List Draft)) =
          .ok drafts ∧
      Good result.modelMetadata.numLayers result.modelMetadata.numKvHeads drafts := by
    intro l hl
    obtain ⟨blocks, hget, -, hcut⟩ := layerCut_of_blockize hblocks (List.mem_range.mp hl)
    exact ⟨_, hlayer hget, hcut.good_prefill env⟩
  obtain ⟨groups, hgroups, hgood, hcalls⟩ := exists_good_flatten hlayers
  refine ⟨groups.flatten, ?_, hgood, ?_⟩
  · unfold prefillPhase
    rw [hgroups]
    rfl
  · intro l hl blocks hget entry hentry
    obtain ⟨drafts, hdrafts, hcall⟩ := hcalls l (List.mem_range.mpr hl)
    rw [hlayer hget] at hcall
    cases hcall
    exact List.mem_flatten.mpr ⟨_, hdrafts, List.mem_map_of_mem hentry⟩

theorem decodePhase_ok (hblocks : adapter.blockizeAllLayers result.layerKv = .ok layerBlocks)
    (hheads : 0 < result.modelMetadata.numKvHeads) (sqrt : α → α) (topKPercent : Rat) :
    ∃ drafts, decodePhase env sqrt layerBlocks result topKPercent = .ok drafts ∧
      Good result.modelMetadata.numLayers result.modelMetadata.numKvHeads drafts := by
  have hlayer : ∀ step ∈ result.stepQueries.zipIdx, ∀ l ∈ List.range result.modelMetadata.numLayers,
      ∃ drafts, (do
        let q ← item step.1 l
        let blocks ← item layerBlocks l
        decodeLayer env sqrt result.modelMetadata.headDim topKPercent step.2 l q blocks) =
          .ok drafts ∧
        Good result.modelMetadata.numLayers result.modelMetadata.numKvHeads drafts := by
    intro step hstep l hl
    obtain ⟨blocks, hget, hdim, hcut⟩ := layerCut_of_blockize hblocks (List.mem_range.mp hl)
    obtain ⟨q, hq, hqheads, hqdim⟩ := result.queries step.1 (List.fst_mem_of_mem_zipIdx hstep) l
      (List.mem_range.mp hl)
    rw [item_ok hq, item_ok hget]
    apply hcut.decodeLayer_ok hheads
    · rw [hqdim, hdim]
    · rw [hqheads]
      exact result.heads_pos
  have hsteps : ∀ step ∈ result.stepQueries.zipIdx, ∃ drafts, (do
        let layers ← (List.range result.modelMetadata.numLayers).mapM fun lIdx => do
          let q ← item step.1 lIdx
          let blocks ← item layerBlocks lIdx
          decodeLayer env sqrt result.modelMetadata.headDim topKPercent step.2 lIdx q blocks
        return layers.flatten) = .ok drafts ∧
      Good result.modelMetadata.numLayers result.modelMetadata.numKvHeads drafts := by
    intro step hstep
    obtain ⟨layers, hlayers, hgood, -⟩ := exists_good_flatten (hlayer step hstep)
    refine ⟨layers.flatten, ?_, hgood⟩
    rw [hlayers]
    rfl
  obtain ⟨groups, hgroups, hgood, -⟩ := exists_good_flatten hsteps
  refine ⟨groups.flatten, ?_, hgood⟩
  unfold decodePhase
  dsimp only
  rw [hgroups]
  rfl

/-- Whatever the run, its trace is written, loads in full next to its manifest, passes the
replayer's check event by event, and keeps every filter with its fetches. -/
theorem trace_accepted (env : TraceEnv) (sqrt : α → α) (py : PyText) (adapter : KVBlockAdapter)
    (result : InferenceResult α) (layerBlocks : Dict Nat (List (KVBlock × Payload α)))
    (workloadName : String) (topKPercent : Rat)
    (hblocks : adapter.blockizeAllLayers result.layerKv = .ok layerBlocks)
    (hone : ∀ l < result.modelMetadata.numLayers, ∀ blocks,
      layerBlocks.get? l = some blocks → blocks ≠ []) :
    ∃ files, generateTraceFromRun env sqrt layerBlocks result workloadName topKPercent =
        .ok files ∧
      (∃ reader loaded,
        TraceReader.init (traceFilename workloadName) [.object files.manifest] = .ok reader ∧
        reader.loadAll py (files.events.map fun e => .object e.toDict) = .ok loaded ∧
        List.Forall₂ ReadsAs files.events loaded.1) ∧
      (∀ e ∈ files.events, ∀ lineNum, ∃ v,
        StorageTraceReplayer.validateRecord py e.toDict lineNum = .ok v) ∧
      FiltersFetched files.events := by
  obtain ⟨last, hlast⟩ := Nat.exists_eq_succ_of_ne_zero result.layers_pos.ne'
  have hlt : last < result.modelMetadata.numLayers := by omega
  obtain ⟨blocks, hget, -, hcut⟩ := layerCut_of_blockize hblocks hlt
  obtain ⟨first, rest, hcons⟩ := List.exists_cons_of_ne_nil (hone last hlt blocks hget)
  have hheads : 0 < result.modelMetadata.numKvHeads := by
    have hhead := (hcut.cut first (by simp [hcons])).head
    omega
  obtain ⟨prefill, hprefill, hprefillGood, hwrites⟩ := @prefillPhase_ok _ _ env _ _ _ hblocks
  obtain ⟨decode, hdecode, hdecodeGood⟩ := @decodePhase_ok _ _ env _ _ _ _ hblocks hheads sqrt
    topKPercent
  have hgood := hprefillGood.append hdecodeGood
  have hne : prefill ++ decode ≠ [] := by
    apply List.ne_nil_of_mem
    exact List.mem_append_left _ (hwrites last hlt blocks hget first (by simp [hcons]))
  obtain ⟨loaded, hload, hreads⟩ := hgood.loadAll hne py (r := ⟨some
    ⟨result.modelMetadata.numLayers, result.modelMetadata.numKvHeads⟩, none, -1⟩) rfl
  have hfiles : generateTraceFromRun env sqrt layerBlocks result workloadName topKPercent =
      .ok ⟨number 0 (prefill ++ decode), manifestOf env result workloadName topKPercent first.1
        (number 0 (prefill ++ decode))⟩ := by
    unfold generateTraceFromRun
    rw [hprefill, hdecode]
    simp only [bind, Except.bind]
    rw [hlast]
    dsimp only
    rw [item_ok hget, hcons]
    rfl
  refine ⟨_, hfiles, ⟨_, loaded, ?_, hload, hreads⟩, ?_, hgood.filters 0⟩
  · unfold TraceReader.init
    rw [if_neg (not_manifest_traceFilename workloadName)]
    rfl
  · intro e he lineNum
    exact (forall_number (fun d hd n => (hgood.sound d hd n).1) 0 e he).validateRecord py lineNum

end

def threeTokens : InferenceResult Rat where
  modelMetadata := ⟨"tiny", 1, 1, 1, 1, 1, "float32"⟩
  prompt := "a b c"
  promptTokens := 3
  generatedTokens := 1
  layerKv := Dict.empty.set 0 ⟨⟨1, 3, 1, 4, fun _ t _ => t⟩, ⟨1, 3, 1, 4, fun _ t _ => t⟩⟩
  stepQueries := [Dict.empty.set 0 ⟨1, 1, fun _ _ => 1⟩]
  layers_pos := by decide
  heads_pos := by decide
  dim_pos := by decide
  layers l hl := by
    obtain rfl : l = 0 := Nat.lt_one_iff.mp hl
    exact ⟨_, rfl, rfl, rfl⟩
  queries stepQ hstep l hl := by
    obtain rfl : l = 0 := Nat.lt_one_iff.mp hl
    rw [List.mem_singleton.mp hstep]
    exact ⟨_, rfl, rfl, rfl⟩

def perToken : KVBlockAdapter := ⟨1, 1, 1, "float32", 1, 0⟩

def sampleEnv : TraceEnv := ⟨0, "0000000", "2.0.0", "2026-01-01T00:00:00Z", fun _ => ""⟩

theorem trace_accepted_three_tokens :
    ∃ layerBlocks files, perToken.blockizeAllLayers threeTokens.layerKv = .ok layerBlocks ∧
      generateTraceFromRun sampleEnv id layerBlocks threeTokens "tiny" 50 = .ok files ∧
      FiltersFetched files.events := by
  obtain ⟨files, hfiles, -, -, hfetched⟩ := trace_accepted sampleEnv id PyText.integers perToken
    threeTokens (Dict.empty.set 0 _) "tiny" 50 rfl (by
      intro l hl blocks hget
      obtain rfl : l = 0 := Nat.lt_one_iff.mp hl
      cases hget
      exact List.cons_ne_nil _ _)
  exact ⟨_, files, rfl, hfiles, hfetched⟩

end AiSsd.RealLlm
