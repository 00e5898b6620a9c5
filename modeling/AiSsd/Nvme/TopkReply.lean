import AiSsd.NativeKernel.Insertion
import AiSsd.Nvme.ByteDevice

/-!
# What a top-k reply names

The reply has `effective_k` items, fixed before any key is read. A candidate whose keys cannot
be read, or whose score does not beat the sentinel, takes no place, and the places nothing
took go out as they were set up: block 0 with no tokens. So the reply names only candidates
that were read exactly when enough of them beat the sentinel.
-/

namespace AiSsd.Nvme

open Lib Lib.LittleEndian
open NativeKernel (scoredItems scanCandidates_eq_foldl)

/-- Floats are compared by their values. A NaN has none, and the sentinel is no NaN. -/
structure ByValue {F γ : Type} [LinearOrder γ] (fl : FloatOps F) (value : F → WithBot γ) :
    Prop where
  lt : Compares value fl.lt
  minScore : value fl.minScore ≠ ⊥

section

variable {F : Type} (fl : FloatOps F)

def sentinelItem : TopItem F := ⟨0, fl.minScore, 0⟩

/-- The item can take the place of a sentinel. -/
def beatsSentinel (item : TopItem F) : Bool := fl.lt fl.minScore item.score

/-- The items of a reply are candidates that were read, each once, the best first. -/
structure Selects (scored top : List (TopItem F)) : Prop where
  candidates : ∀ item ∈ top, item ∈ scored
  once : (top.map TopItem.blockId).Nodup
  descending : top.Pairwise fun a b => fl.lt a.score b.score = false

/-- The candidates that were read fill the list: enough of them beat the sentinel, or one
too few and a candidate that was read looks like the sentinel that is left. -/
def Fills (effectiveK : Nat) (scored : List (TopItem F)) : Prop :=
  effectiveK ≤ scored.countP (beatsSentinel fl) ∨
    effectiveK = scored.countP (beatsSentinel fl) + 1 ∧ sentinelItem fl ∈ scored

end

section

variable {F γ : Type} [LinearOrder γ] {fl : FloatOps F} {value : F → WithBot γ}

/-- The list after the scan: what beats the sentinel, sorted, cut and filled up. -/
def selected (fl : FloatOps F) (value : F → WithBot γ) (effectiveK : Nat)
    (scored : List (TopItem F)) : List (TopItem F) :=
  (descending (fun item => value item.score) (scored.filter (beatsSentinel fl))).take effectiveK ++
    List.replicate (effectiveK - scored.countP (beatsSentinel fl)) (sentinelItem fl)

theorem mem_best {effectiveK : Nat} {scored : List (TopItem F)} {item : TopItem F}
    (h : item ∈ (descending (fun item => value item.score)
      (scored.filter (beatsSentinel fl))).take effectiveK) :
    item ∈ scored ∧ beatsSentinel fl item = true :=
  List.mem_filter.mp ((descending_perm _ _).mem_iff.mp (List.mem_of_mem_take h))

theorem length_best (scored : List (TopItem F)) :
    (descending (fun item => value item.score) (scored.filter (beatsSentinel fl))).length =
      scored.countP (beatsSentinel fl) := by
  rw [(descending_perm _ _).length_eq, List.countP_eq_length_filter]

theorem offers_eq_selected (hfl : ByValue fl value) (effectiveK : Nat)
    (scored : List (TopItem F)) :
    scored.foldl (offer fl.lt TopItem.score) (emptyTop fl effectiveK) =
      selected fl value effectiveK scored := by
  have hoffers : scored.foldl (offer fl.lt TopItem.score)
      (List.replicate effectiveK (sentinelItem fl)) =
      (descending (fun item => value item.score) (scored.filter (beatsSentinel fl)) ++
        List.replicate effectiveK (sentinelItem fl)).take effectiveK :=
    @foldl_offer_of_values _ _ γ _ value fl.lt TopItem.score hfl.lt (sentinelItem fl)
      hfl.minScore effectiveK scored
  have hempty : emptyTop fl effectiveK = List.replicate effectiveK (sentinelItem fl) := rfl
  rw [hempty, hoffers, selected, List.take_append, List.take_replicate, length_best,
    Nat.min_eq_left (Nat.sub_le _ _)]

theorem descending_selected (hfl : ByValue fl value) (effectiveK : Nat)
    (scored : List (TopItem F)) :
    (selected fl value effectiveK scored).Pairwise fun a b => fl.lt a.score b.score = false := by
  have hle : ∀ a b : F, value b ≤ value a → fl.lt a b = false := by
    intro a b hba
    rw [← Bool.not_eq_true, hfl.lt]
    exact fun hlt => not_lt_of_ge hba hlt.2
  unfold selected
  rw [List.pairwise_append]
  refine ⟨?_, ?_, ?_⟩
  · have hsorted := descending_pairwise (fun item : TopItem F => value item.score)
      (scored.filter (beatsSentinel fl))
    exact (hsorted.sublist (List.take_sublist _ _)).imp fun h => hle _ _ h
  · exact List.pairwise_replicate.mpr (.inr (hle _ _ le_rfl))
  · intro a ha b hb
    have hbeats := ((hfl.lt _ _).mp (mem_best ha).2).2
    rw [List.eq_of_mem_replicate hb]
    exact hle _ _ hbeats.le

theorem once_best {scored : List (TopItem F)} (hids : (scored.map TopItem.blockId).Nodup)
    (effectiveK : Nat) :
    (((descending (fun item => value item.score)
      (scored.filter (beatsSentinel fl))).take effectiveK).map TopItem.blockId).Nodup := by
  refine nodup_map_of_subperm ?_ hids
  exact ((List.take_sublist _ _).subperm.trans (descending_perm _ _).subperm).trans
    List.filter_sublist.subperm

/-- The sentinel beats nothing, so no candidate that beats it has its id when it was read. -/
theorem sentinel_apart (hfl : ByValue fl value) {scored : List (TopItem F)}
    (hids : (scored.map TopItem.blockId).Nodup) (hread : sentinelItem fl ∈ scored)
    {item : TopItem F} (hitem : item ∈ scored) (hbeats : beatsSentinel fl item = true) :
    item.blockId ≠ 0 := by
  intro hid
  have hsame : item = sentinelItem fl := List.inj_on_of_nodup_map hids hitem hread hid
  rw [hsame] at hbeats
  exact lt_irrefl _ ((hfl.lt _ _).mp hbeats).2

theorem selects_selected_iff (hfl : ByValue fl value) {scored : List (TopItem F)}
    (hids : (scored.map TopItem.blockId).Nodup) (effectiveK : Nat) :
    Selects fl scored (selected fl value effectiveK scored) ↔ Fills fl effectiveK scored := by
  constructor
  · intro h
    by_cases hfew : effectiveK ≤ scored.countP (beatsSentinel fl)
    · exact .inl hfew
    · obtain ⟨left, hleft⟩ := Nat.exists_eq_add_of_lt (Nat.lt_of_not_le hfew)
      have hfree : effectiveK - scored.countP (beatsSentinel fl) = left + 1 := by omega
      have hin : sentinelItem fl ∈ selected fl value effectiveK scored := by
        simp [selected, hfree, List.replicate_succ]
      have honce := h.once
      rw [selected, List.map_append, List.nodup_append] at honce
      have hleft := honce.2.1
      rw [List.map_replicate, List.nodup_replicate] at hleft
      exact .inr ⟨by omega, h.candidates _ hin⟩
  · intro h
    refine ⟨?_, ?_, descending_selected hfl effectiveK scored⟩
    · intro item hitem
      rcases List.mem_append.mp hitem with hbest | hrest
      · exact (mem_best hbest).1
      · rcases h with hfew | ⟨-, hread⟩
        · simp [Nat.sub_eq_zero_of_le hfew] at hrest
        · rwa [List.eq_of_mem_replicate hrest]
    · rw [selected, List.map_append, List.nodup_append]
      refine ⟨once_best hids effectiveK, ?_, ?_⟩
      · rw [List.map_replicate, List.nodup_replicate]
        rcases h with hfew | ⟨heq, -⟩
        · omega
        · omega
      · intro a ha b hb hab
        obtain ⟨item, hitem, rfl⟩ := List.mem_map.mp ha
        rw [List.map_replicate] at hb
        have hzero : b = 0 := List.eq_of_mem_replicate hb
        rcases h with hfew | ⟨-, hread⟩
        · simp [Nat.sub_eq_zero_of_le hfew] at hb
        · exact sentinel_apart hfl hids hread (mem_best hitem).1 (mem_best hitem).2
            (hab.trans hzero)

end

/-! ## The reply -/

section

variable {δ F γ : Type} [LinearOrder γ] {g : Guest δ} {fl : FloatOps F} {value : F → WithBot γ}

/-- The candidates the daemon can read, with their scores. -/
def scoredCands (g : Guest δ) (fl : FloatOps F) (s : DaemonState δ) (req : ReqHeader)
    (theader : TopkReqHeader) (query : List F) (cands : List TopkCandItem) : List (TopItem F) :=
  scoredItems g (candidateScore fl theader (isFp16 req theader cands) query)
    (s.listAlloc g theader.effectiveK) cands

theorem scoredItems_sublist {score : (Nat → UInt8) → TopkCandItem → Option F}
    (s : DaemonState δ) (cands : List TopkCandItem) :
    ((scoredItems g score s cands).map fun item => (item.blockId, item.actualTokens)).Sublist
      (cands.map fun cand => (cand.blockId, cand.actualTokens)) := by
  induction cands generalizing s with
  | nil => exact List.Sublist.refl _
  | cons cand cands ih =>
      unfold scoredItems
      split
      · exact List.nil_sublist _
      · split
        · split
          · exact List.nil_sublist _
          · exact (ih _).cons_cons _
        · exact (ih _).cons _

theorem scoredCands_ids {s : DaemonState δ} {req : ReqHeader} {theader : TopkReqHeader}
    {query : List F} {cands : List TopkCandItem}
    (hids : (cands.map TopkCandItem.blockId).Nodup) :
    ((scoredCands g fl s req theader query cands).map TopItem.blockId).Nodup := by
  have hsub := (@scoredItems_sublist δ F g
    (candidateScore fl theader (isFp16 req theader cands) query)
    (s.listAlloc g theader.effectiveK) cands).map Prod.fst
  rw [List.map_map, List.map_map] at hsub
  exact hsub.nodup hids

/-- A turn that answers has scanned the candidates and sends the list. -/
theorem answerTopk_of_ready {s : DaemonState δ} {req : ReqHeader} {theader : TopkReqHeader}
    {query : List F} {cands : List TopkCandItem} {rest : Bytes}
    (h : (answerTopk g fl s req theader query cands rest).conn = .ready) :
    ∃ top s', scanCandidates g fl (candidateScore fl theader (isFp16 req theader cands) query)
        (s.listAlloc g theader.effectiveK) cands (emptyTop fl theader.effectiveK) =
          some (top, s') ∧
      answerTopk g fl s req theader query cands rest =
        answered s' ((req.reply 0 theader.effectiveK).toBytes ++
          top.flatMap fun item => (item.resp fl).toBytes) rest := by
  unfold DaemonState.listAlloc
  unfold answerTopk at h ⊢
  dsimp only at h ⊢
  split at h
  · cases h
  · rename_i hlist
    rw [if_neg hlist]
    split at h
    · cases h
    · rename_i top s' hscan
      rw [hscan]
      exact ⟨top, s', rfl, rfl⟩

theorem scan_eq_selected (hfl : ByValue fl value) {s s' : DaemonState δ} {req : ReqHeader}
    {theader : TopkReqHeader} {query : List F} {cands : List TopkCandItem}
    {top : List (TopItem F)}
    (h : scanCandidates g fl (candidateScore fl theader (isFp16 req theader cands) query)
      (s.listAlloc g theader.effectiveK) cands (emptyTop fl theader.effectiveK) =
        some (top, s')) :
    top = selected fl value theader.effectiveK (scoredCands g fl s req theader query cands) := by
  rw [scanCandidates_eq_foldl fl h, offers_eq_selected hfl]
  rfl

/-! ## What the client reports -/

def TopItem.reported (fl : FloatOps F) (item : TopItem F) : TopkRespItem :=
  ⟨item.blockId % 256 ^ 4, fl.toBits item.score % 256 ^ 4, item.actualTokens % 256 ^ 4⟩

variable (fl) in
theorem encodes_reported (top : List (TopItem F)) :
    List.Forall₂ (Encodes TopkRespItem.size TopkRespItem.ofBytes)
      (top.map (TopItem.reported fl)) (top.map fun item => (item.resp fl).toBytes) := by
  rw [List.forall₂_map_left_iff, List.forall₂_map_right_iff]
  refine List.forall₂_same.mpr fun item _ => ⟨TopkRespItem.length_toBytes _, fun rest => ?_⟩
  simp [TopkRespItem.ofBytes, TopkRespItem.toBytes, TopItem.resp, TopItem.reported]

/-- A top-k call that the daemon answers returns the list of the scan. -/
theorem call_computeTopk {s : Link δ} {query : List UInt32} {candidates : List Candidate}
    {topK : Int} {scale : Option UInt32} {qHeads kvHeads headDim : Int} {isFp16 : Bool}
    {bs : Bytes} (hs : InFrame s)
    (hsends :
      (Call.computeTopk query candidates topK scale qHeads kvHeads headDim isFp16).Sends bs)
    (hframed : TopkFramed g fl s.daemon (topkReq candidates isFp16)
      (topkParams candidates topK scale qHeads kvHeads headDim) query
      (candidates.map Candidate.item)) :
    let req := topkReq candidates isFp16
    let theader := topkParams candidates topK scale qHeads kvHeads headDim
    let cands := candidates.map Candidate.item
    ∃ top s', scanCandidates g fl (candidateScore fl theader (Nvme.isFp16 req theader cands)
          (query.map fun bits => fl.ofBits bits.toNat))
        ((s.daemon.topkAlloc g theader).listAlloc g theader.effectiveK) cands
        (emptyTop fl theader.effectiveK) = some (top, s') ∧
      (call g fl s (.computeTopk query candidates topK scale qHeads kvHeads headDim isFp16)).1 =
        .ok (.topk (top.map (TopItem.reported fl))) := by
  intro req theader cands
  obtain ⟨-, reqHdr, hdr, records, hreq, hhdr, hcands, rfl⟩ := computeTopk_sends.mp hsends
  obtain ⟨_, bits, _, rfl, _⟩ := packTopkHeader_eq_ok.mp hhdr
  have hparse := TopkReqHeader.ofBytes_pack hhdr []
  rw [List.append_nil, Int.toNat_natCast] at hparse
  have hcount : candidates.length < 256 ^ 4 := by
    obtain ⟨hrange, -⟩ := structPack_eq_ok.mp hreq
    simp only [inRange_cons] at hrange
    omega
  have hready := (@answerTopk_ready_iff δ F g fl _ _ _ _ _ []).mpr hframed.scanned
  obtain ⟨top, s', hscan, hanswer⟩ := answerTopk_of_ready hready
  have hlength := length_scanCandidates hscan
  rw [length_emptyTop] at hlength
  refine ⟨top, s', hscan, ?_⟩
  have hserve := @serveTopk_of_whole δ F g fl s.daemon req hdr theader query cands records
    (length_packTopkHeader hhdr) hparse (encodes_candidates hcands) (List.length_map _).symm
    hframed.granted hframed.queryLength
  have hitems := encodes_reported fl top
  have hread := readMany_flatten hitems []
  have hsize := length_flatten hitems
  rw [List.length_map, hlength] at hsize hread
  rw [List.append_nil, ← List.flatMap_def] at hread
  rw [← List.flatMap_def] at hsize
  have hreceive := computeTopk_receive query candidates topK (some bits) qHeads kvHeads headDim
    isFp16 req (Nat.lt_of_le_of_lt (effectiveK_le theader) hcount) hsize []
  rw [List.append_nil, hread] at hreceive
  have hturn : serve g fl s.daemon
      (reqHdr ++ hdr ++ (query.flatMap fun bits => toBytes 4 bits.toNat) ++ records.flatten) =
        some (answered s' ((req.reply 0 theader.effectiveK).toBytes ++
          top.flatMap fun item => (item.resp fl).toBytes) []) := by
    rw [List.append_assoc, List.append_assoc, serve_packed hreq, ← hanswer]
    exact hserve
  exact (call_of_serve hs hsends hturn rfl rfl hreceive).1

def NamesCandidates (candidates : List Candidate) (results : List TopkRespItem) : Prop :=
  ∀ r ∈ results, ∃ c ∈ candidates, c.blockId = r.blockId

theorem inRange_of_packed {candidates : List Candidate} {records : List Bytes}
    (h : candidates.mapM Candidate.pack = .ok records) :
    ∀ c ∈ candidates,
      InRange [(8, c.offset), (4, c.length), (4, c.blockId), (4, c.actualTokens)] := by
  have hall : List.Forall₂ (fun c bs =>
      InRange [(8, c.offset), (4, c.length), (4, c.blockId), (4, c.actualTokens)] ∧
        Candidate.pack c = .ok bs) candidates records :=
    (mapM_eq_ok h).imp fun c bs hpack => ⟨(structPack_eq_ok.mp hpack).1, hpack⟩
  exact ((List.forall₂_and_left _ _).mp hall).1

theorem blockId_of_packed {candidates : List Candidate} {records : List Bytes}
    (h : candidates.mapM Candidate.pack = .ok records) :
    ∀ c ∈ candidates, 0 ≤ c.blockId ∧ c.blockId < 256 ^ 4 := by
  intro c hc
  have hrange := inRange_of_packed h c hc
  simp only [inRange_cons] at hrange
  exact hrange.2.2.1

theorem names_selected_iff {candidates : List Candidate}
    (hrange : ∀ c ∈ candidates, 0 ≤ c.blockId ∧ c.blockId < 256 ^ 4)
    {scored : List (TopItem F)}
    (hids : ∀ item ∈ scored, ∃ c ∈ candidates, c.blockId.toNat = item.blockId)
    (effectiveK : Nat) :
    NamesCandidates candidates
        ((selected fl value effectiveK scored).map (TopItem.reported fl)) ↔
      effectiveK ≤ scored.countP (beatsSentinel fl) ∨ ∃ c ∈ candidates, c.blockId = 0 := by
  unfold NamesCandidates
  rw [List.forall_mem_map]
  constructor
  · intro h
    by_cases hfew : effectiveK ≤ scored.countP (beatsSentinel fl)
    · exact .inl hfew
    · have hleft : effectiveK - scored.countP (beatsSentinel fl) ≠ 0 := by omega
      refine .inr (h (sentinelItem fl) (List.mem_append_right _ ?_))
      exact List.mem_replicate.mpr ⟨hleft, rfl⟩
  · intro h item hitem
    rcases List.mem_append.mp hitem with hbest | hrest
    · obtain ⟨c, hc, hid⟩ := hids item (mem_best hbest).1
      have hblock := hrange c hc
      refine ⟨c, hc, ?_⟩
      simp only [TopItem.reported, ← hid]
      omega
    · obtain ⟨hleft, rfl⟩ := List.mem_replicate.mp hrest
      exact h.resolve_left (by omega)

/-- The items of a reply are candidates that were read, each once and the best first, exactly
when the candidates fill the list. The client names only candidates exactly when enough of
them beat the sentinel, or block 0 is one. -/
theorem topk_reply_iff (hfl : ByValue fl value) :
    (∀ (s : DaemonState δ) (req : ReqHeader) (theader : TopkReqHeader) (query : List F)
      (cands : List TopkCandItem) (rest : Bytes), (cands.map TopkCandItem.blockId).Nodup →
      (answerTopk g fl s req theader query cands rest).conn = .ready →
      ∃ top s', scanCandidates g fl (candidateScore fl theader (isFp16 req theader cands) query)
          (s.listAlloc g theader.effectiveK) cands (emptyTop fl theader.effectiveK) =
            some (top, s') ∧
        answerTopk g fl s req theader query cands rest =
          answered s' ((req.reply 0 theader.effectiveK).toBytes ++
            top.flatMap fun item => (item.resp fl).toBytes) rest ∧
        (Selects fl (scoredCands g fl s req theader query cands) top ↔
          Fills fl theader.effectiveK (scoredCands g fl s req theader query cands))) ∧
    (∀ (s : Link δ) (query : List UInt32) (candidates : List Candidate) (topK : Int)
      (scale : Option UInt32) (qHeads kvHeads headDim : Int) (isFp16 : Bool) (bs : Bytes),
      InFrame s →
      (Call.computeTopk query candidates topK scale qHeads kvHeads headDim isFp16).Sends bs →
      TopkFramed g fl s.daemon (topkReq candidates isFp16)
        (topkParams candidates topK scale qHeads kvHeads headDim) query
        (candidates.map Candidate.item) →
      ∃ results, (call g fl s
          (.computeTopk query candidates topK scale qHeads kvHeads headDim isFp16)).1 =
            .ok (.topk results) ∧
        (NamesCandidates candidates results ↔
          (topkParams candidates topK scale qHeads kvHeads headDim).effectiveK ≤
            (scoredCands g fl (s.daemon.topkAlloc g
                (topkParams candidates topK scale qHeads kvHeads headDim))
              (topkReq candidates isFp16) (topkParams candidates topK scale qHeads kvHeads headDim)
              (query.map fun bits => fl.ofBits bits.toNat)
              (candidates.map Candidate.item)).countP (beatsSentinel fl) ∨
          ∃ c ∈ candidates, c.blockId = 0)) := by
  constructor
  · intro s req theader query cands rest hids hready
    obtain ⟨top, s', hscan, hanswer⟩ := answerTopk_of_ready hready
    refine ⟨top, s', hscan, hanswer, ?_⟩
    rw [scan_eq_selected hfl hscan]
    exact selects_selected_iff hfl (scoredCands_ids hids) _
  · intro s query candidates topK scale qHeads kvHeads headDim isFp16 bs hs hsends hframed
    obtain ⟨top, s', hscan, hcall⟩ := call_computeTopk hs hsends hframed
    refine ⟨_, hcall, ?_⟩
    rw [scan_eq_selected hfl hscan]
    apply names_selected_iff
    · obtain ⟨-, _, _, records, -, -, hrecords, -⟩ := computeTopk_sends.mp hsends
      exact blockId_of_packed hrecords
    · intro item hitem
      have hsub := (scoredItems_sublist _ _).subset (List.mem_map_of_mem hitem)
      simp only [List.map_map, List.mem_map, Function.comp_apply, Prod.mk.injEq] at hsub
      obtain ⟨c, hc, hid, -⟩ := hsub
      exact ⟨c, hc, hid⟩

end

open NativeKernel (rationalOps)

theorem byValue_rationalOps : ByValue rationalOps fun x => (x : WithBot ℚ) where
  lt := fun a b => by simp [rationalOps]
  minScore := WithBot.coe_ne_bot

/-- A device whose first bytes are `1.0f`. -/
def oneFloat : ByteFile := ByteFile.empty.pwrite [0, 0, 0x80, 0x3F] 0

theorem topk_reply_iff_one_block :
    ∃ results, (call fileGuest rationalOps (connected oneFloat)
        (.computeTopk [0x3F800000] [⟨0, 4, 7, 1⟩] 1 (some 0x3F800000) 1 1 1 false)).1 =
          .ok (.topk results) ∧
      NamesCandidates [⟨0, 4, 7, 1⟩] results := by
  have hsends : ∃ bs, (Call.computeTopk [0x3F800000] [⟨0, 4, 7, 1⟩] 1 (some 0x3F800000) 1 1 1
      false).Sends bs := ⟨_, rfl⟩
  obtain ⟨bs, hsends⟩ := hsends
  have hframed : TopkFramed fileGuest rationalOps (connected oneFloat).daemon
      (topkReq [⟨0, 4, 7, 1⟩] false) (topkParams [⟨0, 4, 7, 1⟩] 1 (some 0x3F800000) 1 1 1)
      [0x3F800000] [⟨0, 4, 7, 1⟩] :=
    ⟨rfl, ⟨rfl, rfl⟩, fun _ => rfl, fun _ => by decide +kernel, trivial⟩
  obtain ⟨results, hcall, hiff⟩ := (topk_reply_iff byValue_rationalOps).2 (connected oneFloat)
    [0x3F800000] [⟨0, 4, 7, 1⟩] 1 (some 0x3F800000) 1 1 1 false bs ⟨rfl, rfl, rfl, rfl⟩ hsends
    hframed
  exact ⟨results, hcall, hiff.mpr (.inl (by decide +kernel))⟩

/-- The one candidate lies behind the end of the device: the reply is block 0. -/
theorem unread_candidate_reported :
    ∃ results, (call fileGuest rationalOps (connected ByteFile.empty)
        (.computeTopk [0] [⟨0, 4, 7, 1⟩] 1 (some 0x3F800000) 1 1 1 false)).1 = .ok (.topk results) ∧
      ¬ NamesCandidates [⟨0, 4, 7, 1⟩] results := by
  have hsends : ∃ bs,
      (Call.computeTopk [0] [⟨0, 4, 7, 1⟩] 1 (some 0x3F800000) 1 1 1 false).Sends bs := ⟨_, rfl⟩
  obtain ⟨bs, hsends⟩ := hsends
  have hframed : TopkFramed fileGuest rationalOps (connected ByteFile.empty).daemon
      (topkReq [⟨0, 4, 7, 1⟩] false) (topkParams [⟨0, 4, 7, 1⟩] 1 (some 0x3F800000) 1 1 1) [0]
      [⟨0, 4, 7, 1⟩] :=
    ⟨rfl, ⟨rfl, rfl⟩, fun _ => rfl, fun h => absurd h (by decide +kernel), trivial⟩
  obtain ⟨top, s', hscan, hcall⟩ := @call_computeTopk _ _ fileGuest rationalOps
    (connected ByteFile.empty) _ _ _ _ _ _ _ _ bs ⟨rfl, rfl, rfl, rfl⟩ hsends hframed
  refine ⟨_, hcall, ?_⟩
  cases hscan
  intro hnames
  obtain ⟨c, hc, hid⟩ := hnames _ (List.mem_map_of_mem (List.mem_replicate.mpr ⟨by decide, rfl⟩))
  rw [List.mem_singleton.mp hc] at hid
  exact absurd hid (by decide)

end AiSsd.Nvme
