import AiSsd.NativeKernel.ExactScores
import AiSsd.NativeKernel.Signs
import AiSsd.Nvme.TopkReply
import Mathlib.Data.Int.LeastGreatest

/-!
# What a score sees of the static buffer

All candidates are read into one buffer. A candidate's own bytes end at its length, but the
score asks for as many tokens as the request says, and the choice between floats and halves
looks at the first candidate. Two runs that agree on a candidate, its own bytes and the
parameters give it the same score exactly when neither matters.
-/

namespace AiSsd.Nvme

open Lib Lib.LittleEndian
open NativeKernel

section

variable {δ F : Type} (g : Guest δ) (fl : FloatOps F)

/-! ## Runs of the daemon -/

/-- The states of a daemon between two requests. It starts with a zeroed buffer, and a client
that hangs up amid the payload of a write leaves what came of it. -/
inductive Reached : DaemonState δ → Prop
  | start (guest : δ) : Reached ⟨guest, fun _ => 0⟩
  | turn {s : DaemonState δ} {bs : Bytes} {r : Served δ} (hs : Reached s)
      (h : serve g fl s bs = some r) (hconn : r.conn ≠ .crashed) : Reached r.daemon
  | hangup {s : DaemonState δ} {data : Bytes} (hs : Reached s) (h : data.length < bufferSize) :
      Reached (s.fill data)

/-- Read the candidates in turn: the bytes that come in for the last one, if it is read in
full, and the daemon then. -/
def readUpTo : DaemonState δ → List TopkCandItem → TopkCandItem → Option (Bytes × DaemonState δ)
  | s, [], cand =>
      match preadBuf g s cand.itemLen cand.offset with
      | some (some own, s) => if own.length = cand.itemLen then some (own, s) else none
      | _ => none
  | s, c :: pre, cand =>
      match preadBuf g s c.itemLen c.offset with
      | some (_, s) => readUpTo s pre cand
      | none => none

/-- The parameters of a request, the list of candidates and its length apart. -/
structure ScoreParams where
  flags : Nat
  qHeads : Nat
  kvHeads : Nat
  headDim : Nat
  scale : Nat
deriving Repr, DecidableEq

def ScoreParams.of (req : ReqHeader) (theader : TopkReqHeader) : ScoreParams :=
  ⟨req.flags, theader.qHeads, theader.kvHeads, theader.headDim, theader.scale⟩

/-- In some run of some daemon the candidate's keys come in as `own`, the pages are taken as
halves or as floats, and `score` is what the daemon computes. -/
def ScoredAs (params : ScoreParams) (query : List F) (cand : TopkCandItem) (own : Bytes)
    (fp16 : Bool) (score : Option F) : Prop :=
  ∃ (δ : Type) (g : Guest δ) (s s' : DaemonState δ) (req : ReqHeader) (theader : TopkReqHeader)
    (pre post : List TopkCandItem), Reached g fl s ∧ ScoreParams.of req theader = params ∧
    query.length = theader.qElements ∧ theader.numCandidates = (pre ++ cand :: post).length ∧
    readUpTo g ((s.topkAlloc g theader).listAlloc g theader.effectiveK) pre cand = some (own, s') ∧
    isFp16 req theader (pre ++ cand :: post) = fp16 ∧
    candidateScore fl theader fp16 query s'.ioBuf cand = score

variable {g fl}

/-- A candidate that was read: its bytes, over what the buffer held before. -/
theorem ioBuf_of_readUpTo {s s' : DaemonState δ} {pre : List TopkCandItem} {cand : TopkCandItem}
    {own : Bytes} (h : readUpTo g s pre cand = some (own, s')) :
    own.length = cand.itemLen ∧ ∃ stale : Nat → UInt8, s'.ioBuf = fun i => own.getD i (stale i) := by
  induction pre generalizing s with
  | nil =>
      unfold readUpTo at h
      split at h
      · rename_i own' s₁ hpread
        split at h
        · rename_i hwhole
          cases h
          refine ⟨hwhole, s.ioBuf, ?_⟩
          unfold preadBuf at hpread
          dsimp only at hpread
          split at hpread
          · cases hpread
          · split at hpread
            · cases hpread
              rfl
            · cases hpread
        · cases h
      · cases h
  | cons c pre ih =>
      unfold readUpTo at h
      split at h
      · exact ih h
      · cases h

theorem reached_filled {s : DaemonState δ} (hs : Reached g fl s) {data : Bytes}
    (h : data.length ≤ bufferSize) :
    ∃ s', Reached g fl s' ∧ s'.ioBuf = (s.fill data).ioBuf := by
  have hlt : (data.length : Int) < 2 ^ 32 := by
    unfold bufferSize at h
    omega
  obtain ⟨req, hreq⟩ := @packHeader_ok opWrite 0 0 data.length (by decide) (by decide) (by decide)
    ⟨by omega, hlt⟩
  have hwrite := @serveWrite_append δ g s
    ⟨magic, opWrite, 0, 0, (0 : Int).toNat, (data.length : Int).toNat⟩ data (by simpa using h)
    (by simp) []
  rw [List.append_nil] at hwrite
  have hserve := (@serve_packed δ F g fl s _ _ _ _ _ hreq data).trans hwrite
  exact ⟨_, hs.turn hserve (by simp [answered]), rfl⟩

/-! ## Where the keys lie -/

def keyWidth (fp16 : Bool) : Nat := if fp16 then 2 else 4

@[simp] theorem keyWidth_halves : keyWidth true = 2 := rfl

@[simp] theorem keyWidth_floats : keyWidth false = 4 := rfl

def decodeKey (fl : FloatOps F) (fp16 : Bool) : Nat → F := if fp16 then fl.ofHalf else fl.ofBits

def bufferKey (fl : FloatOps F) (fp16 : Bool) (buf : Nat → UInt8) : Int → Option F :=
  if fp16 then halfKey fl buf else floatKey fl buf

theorem bufferKey_eq (fp16 : Bool) (buf : Nat → UInt8) (j : Int) :
    bufferKey fl fp16 buf j = (loadBuf buf (keyWidth fp16) (keyWidth fp16 * j)).map
      (decodeKey fl fp16) := by
  cases fp16 <;> rfl

theorem loadBuf_eq {buf : Nat → UInt8} {fp16 : Bool} {j : Int} :
    loadBuf buf (keyWidth fp16) (keyWidth fp16 * j) =
      if 0 ≤ j ∧ keyWidth fp16 * (j + 1) ≤ bufferSize then
        some (ofBytes ((List.range (keyWidth fp16)).map fun i => buf (keyWidth fp16 * j.toNat + i)))
      else none := by
  have hcond : (0 ≤ (keyWidth fp16 : Int) * j ∧
        (keyWidth fp16 : Int) * j + (keyWidth fp16 : Nat) ≤ bufferSize) ↔
      0 ≤ j ∧ (keyWidth fp16 : Int) * (j + 1) ≤ bufferSize := by
    cases fp16 <;> simp only [keyWidth_halves, keyWidth_floats] <;> omega
  have hstart : ((keyWidth fp16 : Int) * j).toNat = keyWidth fp16 * j.toNat := by
    cases fp16 <;> simp only [keyWidth_halves, keyWidth_floats] <;> omega
  rw [loadBuf, hstart]
  exact if_congr hcond rfl rfl

theorem isSome_bufferKey (fp16 : Bool) (buf : Nat → UInt8) (j : Int) :
    (bufferKey fl fp16 buf j).isSome ↔ 0 ≤ j ∧ keyWidth fp16 * (j + 1) ≤ (bufferSize : Int) := by
  rw [bufferKey_eq, Option.isSome_map, loadBuf_eq]
  split <;> simp [*]

theorem bufferKey_congr {fp16 : Bool} {buf buf' : Nat → UInt8} {j : Int} {n : Nat} (hj : 0 ≤ j)
    (hin : keyWidth fp16 * (j + 1) ≤ (n : Int)) (h : ∀ i < n, buf i = buf' i) :
    bufferKey fl fp16 buf j = bufferKey fl fp16 buf' j := by
  have hbytes : ((List.range (keyWidth fp16)).map fun i => buf (keyWidth fp16 * j.toNat + i)) =
      (List.range (keyWidth fp16)).map fun i => buf' (keyWidth fp16 * j.toNat + i) := by
    refine List.map_congr_left fun i hi => h _ ?_
    rw [List.mem_range] at hi
    cases fp16 <;> simp only [keyWidth_halves, keyWidth_floats] at hi hin ⊢ <;> omega
  rw [bufferKey_eq, bufferKey_eq, loadBuf_eq, loadBuf_eq, hbytes]

/-- The indices of a score fit an `int`, nothing is divided by zero, and what it asks for lies
in the query and in the buffer. -/
def Addressable (fp16 : Bool) (queryLength : Nat) (t q k d : Int) : Prop :=
  FitsInt (k * d) ∧ ∀ i < t.toNat, FitsInt (i * (k * d)) ∧ ∀ h < q.toNat,
    sharing q k ≠ 0 ∧ FitsInt (h * d) ∧ FitsInt (h / sharing q k * d) ∧ ∀ e < d.toNat,
      (0 ≤ h * d + e ∧ h * d + e < queryLength) ∧
      0 ≤ i * (k * d) + h / sharing q k * d + e ∧
      keyWidth fp16 * (i * (k * d) + h / sharing q k * d + e + 1) ≤ (bufferSize : Int)

theorem isSome_blockScore (query : List F) (fp16 : Bool) (buf : Nat → UInt8) (t q k d : Int)
    (scale : F) :
    (blockScore fl query (bufferKey fl fp16 buf) t q k d scale).isSome ↔
      Addressable fp16 query.length t q k d := by
  rw [blockScore_eq_scoreGqa, isSome_scoreGqa fl (readsHeads_daemonDot fl)]
  refine and_congr_right fun _ => forall₂_congr fun i _ => and_congr_right fun _ =>
    forall₂_congr fun h _ => ?_
  constructor
  · intro hhead
    refine ⟨hhead.ratio, hhead.qVec, hhead.kVec, fun e he => ?_⟩
    exact ⟨(isSome_ptrOf _ _).mp (hhead.elems e he).1,
      (isSome_bufferKey fp16 buf _).mp (hhead.elems e he).2⟩
  · rintro ⟨hratio, hqVec, hkVec, helems⟩
    refine ⟨hratio, hqVec, hkVec, fun e he => ?_⟩
    exact ⟨(isSome_ptrOf _ _).mpr (helems e he).1,
      (isSome_bufferKey fp16 buf _).mpr (helems e he).2⟩

theorem Addressable.key {fp16 : Bool} {queryLength : Nat} {t q k d j : Int}
    (h : Addressable fp16 queryLength t q k d) (hj : ReadsKey t q k d j) :
    0 ≤ j ∧ keyWidth fp16 * (j + 1) ≤ (bufferSize : Int) := by
  obtain ⟨i, hi, qh, hqh, e, he, rfl⟩ := hj
  exact (((h.2 i hi).2 qh hqh).2.2.2 e he).2

/-! ## Bytes of zero and one -/

theorem ofBytes_bits {bs : Bytes} (h : ∀ b ∈ bs, b = 0 ∨ b = 1) :
    255 * ofBytes bs < 256 ^ bs.length ∧ (0 < ofBytes bs ↔ ∃ b ∈ bs, b ≠ 0) := by
  induction bs with
  | nil => simp [ofBytes]
  | cons b bs ih =>
      rw [List.forall_mem_cons] at h
      obtain ⟨hlt, hpos⟩ := ih h.2
      rw [ofBytes, List.length_cons, Nat.pow_succ, List.exists_mem_cons_iff, ← hpos]
      rcases h.1 with rfl | rfl
      · have hzero : (0 : UInt8).toNat = 0 := rfl
        rw [hzero]
        exact ⟨by omega, by simp⟩
      · have hone : (1 : UInt8).toNat = 1 := rfl
        rw [hone]
        exact ⟨by omega, by simp⟩

theorem signed_decodeKey (hfl : KeepsSigns fl) {fp16 : Bool} {n : Nat}
    (h : 255 * n < 256 ^ keyWidth fp16) : Signed fl (decodeKey fl fp16 n) (0 < n) := by
  have hzero : decodeKey fl fp16 0 = fl.zero := by
    cases fp16
    · rfl
    · exact hfl.ofHalf_zero
  rcases Nat.eq_zero_or_pos n with rfl | hpos
  · rw [hzero]
    exact ⟨.inl rfl, iff_of_false hfl.zero (Nat.lt_irrefl 0)⟩
  · have hn : Pos fl (decodeKey fl fp16 n) := by
      cases fp16
      · rw [keyWidth_floats] at h
        exact hfl.ofBits n hpos (by omega)
      · rw [keyWidth_halves] at h
        exact hfl.ofHalf n hpos (by omega)
    exact ⟨.inr hn, iff_of_true hn hpos⟩

/-- An element of such bytes is zero, or positive when one of its bytes is set. -/
theorem signed_bufferKey (hfl : KeepsSigns fl) {fp16 : Bool} {buf : Nat → UInt8}
    (hbits : ∀ i, buf i = 0 ∨ buf i = 1) {j : Int} {y : F} (hy : bufferKey fl fp16 buf j = some y) :
    Signed fl y (∃ i < keyWidth fp16, buf (keyWidth fp16 * j.toNat + i) ≠ 0) := by
  rw [bufferKey_eq, loadBuf_eq] at hy
  obtain ⟨n, hn, rfl⟩ := Option.map_eq_some_iff.mp hy
  split at hn
  · obtain rfl := Option.some.inj hn
    obtain ⟨hlt, hpos⟩ := @ofBytes_bits
      ((List.range (keyWidth fp16)).map fun i => buf (keyWidth fp16 * j.toNat + i))
      (by simpa using fun i _ => hbits _)
    rw [List.length_map, List.length_range] at hlt
    have hsigned := signed_decodeKey hfl hlt
    exact ⟨hsigned.1, hsigned.2.trans (by simpa using hpos)⟩
  · cases hn

/-! ## Two runs -/

def scoreOn (fl : FloatOps F) (params : ScoreParams) (query : List F) (cand : TopkCandItem)
    (fp16 : Bool) (buf : Nat → UInt8) : Option F :=
  blockScore fl query (bufferKey fl fp16 buf) (toInt cand.actualTokens) (toInt params.qHeads)
    (toInt params.kvHeads) (toInt params.headDim) (fl.ofBits params.scale)

theorem candidateScore_eq (req : ReqHeader) (theader : TopkReqHeader) (fp16 : Bool)
    (query : List F) (buf : Nat → UInt8) (cand : TopkCandItem) :
    candidateScore fl theader fp16 query buf cand =
      scoreOn fl (.of req theader) query cand fp16 buf := by
  cases fp16 <;> rfl

theorem itemLen_le (cand : TopkCandItem) : cand.itemLen ≤ bufferSize := by
  unfold TopkCandItem.itemLen
  split <;> omega

/-- A device that holds the same bytes wherever it is read. -/
def ownGuest (own : Bytes) : Guest Unit where
  pread _ length _ := (some (own.take length), ())
  pwrite _ data _ := (some data.length, ())
  fdatasync := id
  malloc _ _ := (true, ())
  length_pread := by
    intro d length offset bs h
    obtain rfl := Option.some.inj h
    exact List.length_take_le _ _
  pwrite_le := Guest.written_all

theorem preadBuf_ownGuest {own : Bytes} (h : own.length ≤ bufferSize) (s : DaemonState Unit)
    (length offset : Nat) :
    preadBuf (ownGuest own) s length offset =
      some (some (own.take length), s.fill (own.take length)) := by
  have hle : (own.take length).length ≤ bufferSize := (List.length_take_le' _ _).trans h
  unfold preadBuf
  exact if_pos hle

/-- Such a device hands a candidate its bytes, whatever is read before. -/
theorem readUpTo_ownGuest {own : Bytes} {cand : TopkCandItem} (hown : own.length = cand.itemLen)
    (s : DaemonState Unit) (pre : List TopkCandItem) :
    ∃ s', readUpTo (ownGuest own) s pre cand = some (own, s') ∧
      s'.ioBuf = fun i => own.getD i (s.ioBuf i) := by
  have hsize : own.length ≤ bufferSize := hown ▸ itemLen_le cand
  induction pre generalizing s with
  | nil =>
      have hwhole : own.take cand.itemLen = own := List.take_of_length_le (Nat.le_of_eq hown)
      rw [readUpTo, preadBuf_ownGuest hsize, hwhole]
      exact ⟨_, if_pos hown, rfl⟩
  | cons c pre ih =>
      obtain ⟨s', hread, hbuf⟩ := ih (s.fill (own.take c.itemLen))
      rw [readUpTo, preadBuf_ownGuest hsize]
      refine ⟨s', hread, hbuf.trans (funext fun i => ?_)⟩
      simp only [DaemonState.fill, List.getD_eq_getElem?_getD]
      by_cases hi : i < own.length
      · simp [hi]
      · have hnone : own[i]? = none := List.getElem?_eq_none (Nat.le_of_not_lt hi)
        have htake : (own.take c.itemLen)[i]? = none := by
          rw [List.getElem?_take, hnone, ite_self]
        rw [hnone, htake]
        rfl

/-- Whatever an earlier write left, and for each choice the flag leaves open, some run scores
the candidate. -/
theorem scoredAs_over (params : ScoreParams) {query : List F} {cand : TopkCandItem}
    {own stale : Bytes} {fp16 : Bool}
    (hquery : query.length = params.qHeads * params.headDim % 2 ^ 32)
    (hown : own.length = cand.itemLen) (hstale : stale.length ≤ bufferSize)
    (hflags : params.flags = 1 → fp16 = true) :
    ScoredAs fl params query cand own fp16
      (scoreOn fl params query cand fp16 fun i => own.getD i (stale.getD i 0)) := by
  obtain ⟨s, hs, hbuf⟩ := reached_filled (@Reached.start Unit F (ownGuest own) fl ()) hstale
  let magicLength := 16 * params.kvHeads * params.headDim * 2 % 2 ^ 32
  let first : TopkCandItem := ⟨0, if fp16 then magicLength else magicLength + 1, 0, 0⟩
  let theader : TopkReqHeader :=
    ⟨2, 1, params.qHeads, params.kvHeads, params.headDim, params.scale⟩
  obtain ⟨s', hread, hend⟩ := readUpTo_ownGuest hown
    ((s.topkAlloc (ownGuest own) theader).listAlloc (ownGuest own) theader.effectiveK) [first]
  refine ⟨Unit, ownGuest own, s, s', ⟨magic, opComputeTopk, params.flags, 0, 0, 2⟩, theader,
    [first], [], hs, rfl, hquery, rfl, hread, ?_, ?_⟩
  · cases fp16
    · have hflag : params.flags ≠ 1 := fun h => Bool.false_ne_true (hflags h)
      simp [isFp16, first, theader, hflag, magicLength]
    · simp [isFp16, first, theader, magicLength]
  · rw [candidateScore_eq ⟨magic, opComputeTopk, params.flags, 0, 0, 2⟩, hend]
    congr 1
    funext i
    exact congrArg (fun buf : Nat → UInt8 => own.getD i (buf i)) hbuf

/-- Two runs that agree on the parameters, the query, the candidate and its own bytes, and that
take its page as halves or as floats as given, give it the same score. What C leaves undefined,
as a score that runs past the static buffer, is no score. -/
def SameScore (fl : FloatOps F) (flags qHeads kvHeads headDim : Nat) (cand : TopkCandItem)
    (fp16 fp16' : Bool) : Prop :=
  ∀ (scale : Nat) (query : List F) (own : Bytes) (score score' : Option F),
    ScoredAs fl ⟨flags, qHeads, kvHeads, headDim, scale⟩ query cand own fp16 score →
    ScoredAs fl ⟨flags, qHeads, kvHeads, headDim, scale⟩ query cand own fp16' score' →
    ∃ best, score = some best ∧ score' = some best

/-- The score is defined and asks for nothing behind the candidate's own bytes. -/
structure WithinOwn (fp16 : Bool) (qHeads kvHeads headDim : Nat) (cand : TopkCandItem) : Prop where
  addressable : Addressable fp16 (qHeads * headDim % 2 ^ 32) (toInt cand.actualTokens)
    (toInt qHeads) (toInt kvHeads) (toInt headDim)
  own : ∀ j, ReadsKey (toInt cand.actualTokens) (toInt qHeads) (toInt kvHeads) (toInt headDim) j →
    keyWidth fp16 * (j + 1) ≤ (cand.itemLen : Int)

structure WithoutKeys (qHeads kvHeads headDim : Nat) (cand : TopkCandItem) : Prop where
  addressable : Addressable true (qHeads * headDim % 2 ^ 32) (toInt cand.actualTokens)
    (toInt qHeads) (toInt kvHeads) (toInt headDim)
  noKeys : ∀ j,
    ¬ ReadsKey (toInt cand.actualTokens) (toInt qHeads) (toInt kvHeads) (toInt headDim) j

variable {flags qHeads kvHeads headDim : Nat} {cand : TopkCandItem}

/-- What a run says about the score it computes. -/
theorem scoreOn_of_scoredAs {params : ScoreParams} {query : List F} {own : Bytes} {fp16 : Bool}
    {score : Option F} (h : ScoredAs fl params query cand own fp16 score) :
    query.length = params.qHeads * params.headDim % 2 ^ 32 ∧ own.length = cand.itemLen ∧
      ∃ stale : Nat → UInt8,
        score = scoreOn fl params query cand fp16 fun i => own.getD i (stale i) := by
  obtain ⟨δ, g, s, s', req, theader, pre, post, -, rfl, hquery, -, hread, -, rfl⟩ := h
  obtain ⟨hown, stale, hbuf⟩ := ioBuf_of_readUpTo hread
  refine ⟨hquery, hown, stale, ?_⟩
  rw [candidateScore_eq req, hbuf]

theorem fp16_of_scoredAs {params : ScoreParams} {query : List F} {own : Bytes} {fp16 : Bool}
    {score : Option F} (h : ScoredAs fl params query cand own fp16 score)
    (hflag : params.flags = 1) : fp16 = true := by
  obtain ⟨_, _, _, _, req, _, _, _, -, rfl, -, -, -, rfl, -⟩ := h
  have hreq : req.flags = 1 := hflag
  simp [isFp16, hreq]

theorem isSome_scoreOn {params : ScoreParams} {query : List F} {fp16 : Bool}
    {buf : Nat → UInt8} :
    (scoreOn fl params query cand fp16 buf).isSome ↔
      Addressable fp16 query.length (toInt cand.actualTokens) (toInt params.qHeads)
        (toInt params.kvHeads) (toInt params.headDim) := by
  rw [scoreOn, isSome_blockScore]

/-- Within its own bytes a candidate's score does not depend on what is left in the buffer. -/
theorem sameScore_of_withinOwn {fp16 : Bool} (h : WithinOwn fp16 qHeads kvHeads headDim cand) :
    SameScore fl flags qHeads kvHeads headDim cand fp16 fp16 := by
  intro scale query own score score' hscore hscore'
  obtain ⟨hquery, hown, stale, rfl⟩ := scoreOn_of_scoredAs hscore
  obtain ⟨-, -, stale', rfl⟩ := scoreOn_of_scoredAs hscore'
  have hsame : scoreOn fl ⟨flags, qHeads, kvHeads, headDim, scale⟩ query cand fp16
        (fun i => own.getD i (stale i)) =
      scoreOn fl ⟨flags, qHeads, kvHeads, headDim, scale⟩ query cand fp16
        (fun i => own.getD i (stale' i)) := by
    refine blockScore_congr (fun j hj => ?_) _
    refine bufferKey_congr (h.addressable.key hj).1 (h.own j hj) fun i hi => ?_
    have hlt : i < own.length := hown ▸ hi
    simp [hlt]
  obtain ⟨best, hbest⟩ := Option.isSome_iff_exists.mp
    ((@isSome_scoreOn F fl cand ⟨flags, qHeads, kvHeads, headDim, scale⟩ query fp16 fun i =>
      own.getD i (stale i)).mpr (hquery ▸ h.addressable))
  exact ⟨best, hbest, hsame ▸ hbest⟩

/-- With a query of ones and the scale one, over bytes of zero and one, a score is positive when
a byte it asks for is set. -/
theorem pos_scoreOn_ones (hfl : KeepsSigns fl) {fp16 : Bool} {n : Nat} {buf : Nat → UInt8} {best : F}
    (haddr : Addressable fp16 n (toInt cand.actualTokens) (toInt qHeads) (toInt kvHeads)
      (toInt headDim)) (hbits : ∀ i, buf i = 0 ∨ buf i = 1)
    (h : scoreOn fl ⟨flags, qHeads, kvHeads, headDim, 0x3F800000⟩ (List.replicate n (one fl)) cand fp16
      buf = some best) :
    Pos fl best ↔ ∃ j, ReadsKey (toInt cand.actualTokens) (toInt qHeads) (toInt kvHeads)
      (toInt headDim) j ∧ ∃ i < keyWidth fp16, buf (keyWidth fp16 * j.toNat + i) ≠ 0 := by
  rw [pos_blockScore hfl (fun j _ y hy => (signed_bufferKey hfl hbits hy).1) h]
  refine exists_congr fun j => and_congr_right fun hj => ?_
  obtain ⟨y, hy⟩ := Option.isSome_iff_exists.mp
    ((@isSome_bufferKey F fl fp16 buf j).mpr (haddr.key hj))
  rw [← (signed_bufferKey hfl hbits hy).2]
  simp [hy]

theorem getD_replicate (n : Nat) (a b : UInt8) (i : Nat) :
    (List.replicate n a).getD i b = if i < n then a else b := by
  rw [List.getD_eq_getElem?_getD, List.getElem?_replicate]
  split <;> rfl

theorem addressable_of_sameScore {fp16 : Bool} (hflags : flags = 1 → fp16 = true)
    (h : SameScore fl flags qHeads kvHeads headDim cand fp16 fp16) :
    Addressable fp16 (qHeads * headDim % 2 ^ 32) (toInt cand.actualTokens) (toInt qHeads)
      (toInt kvHeads) (toInt headDim) := by
  have hrun := @scoredAs_over F fl ⟨flags, qHeads, kvHeads, headDim, 0x3F800000⟩
    (List.replicate (qHeads * headDim % 2 ^ 32) (one fl)) cand (List.replicate cand.itemLen 0) []
    fp16 List.length_replicate List.length_replicate (Nat.zero_le _) hflags
  obtain ⟨best, hbest, -⟩ := h _ _ _ _ _ hrun hrun
  have haddr := isSome_scoreOn.mp (Option.isSome_of_eq_some hbest)
  rwa [List.length_replicate] at haddr

/-- Behind its own bytes a candidate's score shows what an earlier write left. -/
theorem withinOwn_of_sameScore (hfl : KeepsSigns fl) {fp16 : Bool}
    (hflags : flags = 1 → fp16 = true)
    (h : SameScore fl flags qHeads kvHeads headDim cand fp16 fp16) :
    WithinOwn fp16 qHeads kvHeads headDim cand := by
  have haddr := addressable_of_sameScore hflags h
  refine ⟨haddr, fun j hj => ?_⟩
  by_contra hbehind
  -- own bytes of zero, read over a buffer of zeros and over one that a write filled with ones
  have hruns := fun (stale : Bytes) (hstale : stale.length ≤ bufferSize) =>
    @scoredAs_over F fl ⟨flags, qHeads, kvHeads, headDim, 0x3F800000⟩
      (List.replicate (qHeads * headDim % 2 ^ 32) (one fl)) cand (List.replicate cand.itemLen 0)
      stale fp16 List.length_replicate List.length_replicate hstale hflags
  obtain ⟨best, hfresh, hbest⟩ := h _ _ _ _ _ (hruns (List.replicate 0 1) (Nat.zero_le _))
    (hruns (List.replicate bufferSize 1) (Nat.le_of_eq List.length_replicate))
  simp only [getD_replicate, Nat.not_lt_zero, if_false, ite_self] at hfresh hbest
  have hlow := pos_scoreOn_ones hfl haddr (fun _ => .inl rfl) hfresh
  have hbits : ∀ i, (if i < cand.itemLen then 0 else if i < bufferSize then 1 else 0 : UInt8) = 0 ∨
      (if i < cand.itemLen then 0 else if i < bufferSize then 1 else 0 : UInt8) = 1 := by
    intro i
    split
    · exact .inl rfl
    · split
      · exact .inr rfl
      · exact .inl rfl
  have hhigh := pos_scoreOn_ones hfl haddr hbits hbest
  have hkey := haddr.key hj
  have hlast : keyWidth fp16 * j.toNat + (keyWidth fp16 - 1) < bufferSize ∧
      ¬ keyWidth fp16 * j.toNat + (keyWidth fp16 - 1) < cand.itemLen := by
    cases fp16 <;> simp only [keyWidth_halves, keyWidth_floats] at hkey hbehind ⊢ <;> omega
  have hpos : Pos fl best := hhigh.mpr ⟨j, hj, keyWidth fp16 - 1, by cases fp16 <;> decide, by
    rw [if_neg hlast.2, if_pos hlast.1]
    decide⟩
  obtain ⟨_, _, _, _, hset⟩ := hlow.mp hpos
  exact hset rfl

/-- A page whose last float has a byte set behind the last half scores zero as halves and a
positive number as floats. -/
theorem withoutKeys_of_sameScore (hfl : KeepsSigns fl) (hflags : flags ≠ 1)
    (h : ∀ fp16 fp16', SameScore fl flags qHeads kvHeads headDim cand fp16 fp16') :
    WithoutKeys qHeads kvHeads headDim cand := by
  have hhalves := addressable_of_sameScore (fun hflag => absurd hflag hflags) (h true true)
  have hfloats := withinOwn_of_sameScore hfl (fun hflag => absurd hflag hflags) (h false false)
  refine ⟨hhalves, fun j₀ hj₀ => ?_⟩
  have hbound : ∀ j, ReadsKey (toInt cand.actualTokens) (toInt qHeads) (toInt kvHeads)
      (toInt headDim) j → j ≤ (bufferSize : Int) := by
    intro j hj
    have hkey := hhalves.key hj
    rw [keyWidth_halves] at hkey
    omega
  obtain ⟨j, hj, hlast⟩ := Int.exists_greatest_of_bdd ⟨_, hbound⟩ ⟨j₀, hj₀⟩
  have hwithin := hfloats.own j hj
  have hj0 := (hhalves.key hj).1
  rw [keyWidth_floats] at hwithin
  let own : Bytes := (List.replicate cand.itemLen 0).set (4 * j.toNat + 2) 1
  have hown : ∀ i, own.getD i (([] : Bytes).getD i 0) = if i = 4 * j.toNat + 2 then 1 else 0 := by
    intro i
    simp only [own, List.getD_eq_getElem?_getD, List.getElem?_set, List.length_replicate,
      List.getElem?_replicate, List.getElem?_nil, Option.getD_none]
    rcases eq_or_ne i (4 * j.toNat + 2) with rfl | hne
    · have hin : 4 * j.toNat + 2 < cand.itemLen := by omega
      simp [hin]
    · rw [if_neg (Ne.symm hne), if_neg hne]
      split <;> rfl
  have hbits : ∀ i, (if i = 4 * j.toNat + 2 then 1 else 0 : UInt8) = 0 ∨
      (if i = 4 * j.toNat + 2 then 1 else 0 : UInt8) = 1 := by
    intro i
    split
    · exact .inr rfl
    · exact .inl rfl
  have hruns := fun (fp16 : Bool) =>
    @scoredAs_over F fl ⟨flags, qHeads, kvHeads, headDim, 0x3F800000⟩
      (List.replicate (qHeads * headDim % 2 ^ 32) (one fl)) cand own [] fp16
      List.length_replicate (by simp [own]) (Nat.zero_le _) fun hflag => absurd hflag hflags
  obtain ⟨best, hasHalves, hasFloats⟩ := h _ _ _ _ _ _ _ (hruns true) (hruns false)
  simp only [hown] at hasHalves hasFloats
  have hlow := pos_scoreOn_ones hfl hhalves hbits hasHalves
  have hhigh := pos_scoreOn_ones hfl hfloats.addressable hbits hasFloats
  obtain ⟨j', hj', i, hi, hset⟩ := hlow.mp (hhigh.mpr ⟨j, hj, 2, by decide, by simp⟩)
  have hle := hlast j' hj'
  have hj'0 := (hhalves.key hj').1
  rw [keyWidth_halves] at hi hset
  exact hset (if_neg (by omega))

/-- Without keys to read it makes no difference how wide they are. -/
theorem WithoutKeys.either (h : WithoutKeys qHeads kvHeads headDim cand) (fp16 : Bool) :
    Addressable fp16 (qHeads * headDim % 2 ^ 32) (toInt cand.actualTokens) (toInt qHeads)
      (toInt kvHeads) (toInt headDim) := by
  refine ⟨h.addressable.1, fun i hi => ⟨(h.addressable.2 i hi).1, fun qh hqh => ?_⟩⟩
  obtain ⟨hratio, hqVec, hkVec, -⟩ := (h.addressable.2 i hi).2 qh hqh
  exact ⟨hratio, hqVec, hkVec, fun e he => absurd ⟨i, hi, qh, hqh, e, he, rfl⟩ (h.noKeys _)⟩

/-- Without keys to read the choice between halves and floats makes no difference. -/
theorem sameScore_of_withoutKeys (h : WithoutKeys qHeads kvHeads headDim cand)
    (fp16 fp16' : Bool) : SameScore fl flags qHeads kvHeads headDim cand fp16 fp16' := by
  intro scale query own score score' hscore hscore'
  obtain ⟨hquery, -, stale, rfl⟩ := scoreOn_of_scoredAs hscore
  obtain ⟨-, -, stale', rfl⟩ := scoreOn_of_scoredAs hscore'
  have hsame : scoreOn fl ⟨flags, qHeads, kvHeads, headDim, scale⟩ query cand fp16
        (fun i => own.getD i (stale i)) =
      scoreOn fl ⟨flags, qHeads, kvHeads, headDim, scale⟩ query cand fp16'
        (fun i => own.getD i (stale' i)) :=
    blockScore_congr (fun j hj => absurd hj (h.noKeys j)) _
  obtain ⟨best, hbest⟩ := Option.isSome_iff_exists.mp
    ((@isSome_scoreOn F fl cand ⟨flags, qHeads, kvHeads, headDim, scale⟩ query fp16 fun i =>
      own.getD i (stale i)).mpr (hquery ▸ h.either fp16))
  exact ⟨best, hbest, hsame ▸ hbest⟩

/-- Two runs that agree on a candidate, its own bytes, the query and the parameters, and on
taking pages as halves or as floats, give it the same score exactly when the score is defined
and stays within the candidate's own bytes. Whatever the other candidates are, they agree
exactly when the flag fixes the choice and that holds for halves, or when no key is read. -/
theorem score_independent_iff (hfl : KeepsSigns fl) (flags qHeads kvHeads headDim : Nat)
    (cand : TopkCandItem) :
    (∀ fp16, (flags = 1 → fp16 = true) →
      (SameScore fl flags qHeads kvHeads headDim cand fp16 fp16 ↔
        WithinOwn fp16 qHeads kvHeads headDim cand)) ∧
    ((∀ fp16 fp16', SameScore fl flags qHeads kvHeads headDim cand fp16 fp16') ↔
      if flags = 1 then WithinOwn true qHeads kvHeads headDim cand
      else WithoutKeys qHeads kvHeads headDim cand) := by
  refine ⟨fun fp16 hflags => ⟨withinOwn_of_sameScore hfl hflags, sameScore_of_withinOwn⟩, ?_⟩
  split
  · rename_i hflag
    constructor
    · exact fun h => withinOwn_of_sameScore hfl (fun _ => rfl) (h true true)
    · intro h fp16 fp16' scale query own score score' hscore hscore'
      obtain rfl := fp16_of_scoredAs hscore hflag
      obtain rfl := fp16_of_scoredAs hscore' hflag
      exact sameScore_of_withinOwn h scale query own score score' hscore hscore'
  · rename_i hflag
    exact ⟨withoutKeys_of_sameScore hfl hflag, sameScore_of_withoutKeys⟩

end

/-! ## Exact arithmetic -/

/-- A number without a sign that is neither zero nor all ones in its exponent is positive. -/
theorem ieee_pos {mantBits expBits n : Nat} (hpos : 0 < n)
    (hn : n < (2 ^ expBits - 1) * 2 ^ mantBits) : 0 < ieee mantBits expBits n := by
  have hexpo : n / 2 ^ mantBits < 2 ^ expBits - 1 := Nat.div_lt_of_lt_mul (by rwa [Nat.mul_comm])
  have hdiv := Nat.div_add_mod n (2 ^ mantBits)
  have hsign : n / 2 ^ (mantBits + expBits) = n / 2 ^ mantBits / 2 ^ expBits := by
    rw [Nat.pow_add, ← Nat.div_div_eq_div_mul]
  unfold ieee
  dsimp only
  rw [hsign]
  generalize n / 2 ^ mantBits = expo at hexpo hdiv ⊢
  have hlt : expo < 2 ^ expBits := by omega
  rw [Nat.div_eq_of_lt hlt, Nat.mod_eq_of_lt hlt, if_neg (by decide),
    if_neg (show ¬ expo = 2 ^ expBits - 1 by omega)]
  have hscaled : 0 < (if expo = 0 then n % 2 ^ mantBits
      else (2 ^ mantBits + n % 2 ^ mantBits) * 2 ^ (expo - 1)) := by
    split
    · rename_i hzero
      rw [hzero, Nat.mul_zero, Nat.zero_add] at hdiv
      omega
    · positivity
  exact div_pos (by exact_mod_cast hscaled) (by positivity)

section

variable {α : Type} [Field α] [LinearOrder α] [IsStrictOrderedRing α] {fl : FloatOps α}

theorem pos_single {n : Nat} (hpos : 0 < n) (hn : n < 0x7F800000) : 0 < single n := ieee_pos hpos hn

theorem pos_half {n : Nat} (hpos : 0 < n) (hn : n < 0x7C00) : 0 < half n := ieee_pos hpos hn

omit [IsStrictOrderedRing α] in
theorem one_exact (hfl : Exact fl) : one fl = 1 := by
  have hsingle : single 0x3F800000 = 1 := by decide +kernel
  rw [one, hfl.ofBits, hsingle, Rat.cast_one]

omit [IsStrictOrderedRing α] in
theorem pos_exact (hfl : Exact fl) (x : α) : Pos fl x ↔ 0 < x := by
  rw [Pos, hfl.zero, hfl.lt]
  exact decide_eq_true_iff

theorem minScore_neg (hfl : Exact fl) : fl.minScore < 0 := by
  have hsingle : single 0xF149F2CA < 0 := by decide +kernel
  rw [FloatOps.minScore, hfl.ofBits]
  exact Rat.cast_lt_zero.mpr hsingle

theorem keepsSigns_of_exact (hfl : Exact fl) : KeepsSigns fl := by
  have hone := one_exact hfl
  have hpos := pos_exact hfl
  have hnonneg : ∀ x, Nonneg fl x ↔ 0 ≤ x := by
    intro x
    rw [Nonneg, hpos, hfl.zero, le_iff_eq_or_lt, eq_comm]
  have hsum : ∀ a b : α, 0 ≤ a → 0 ≤ b → (0 < a + b ↔ 0 < a ∨ 0 < b) := by
    intro a b ha hb
    constructor
    · intro hab
      by_contra hnot
      push Not at hnot
      linarith
    · rintro (h | h) <;> linarith
  refine
    { zero := by rw [hpos, hfl.zero]; exact lt_irrefl 0
      ofBits := ?_
      ofHalf_zero := ?_
      ofHalf := ?_
      add := ?_
      mul_one := ?_
      one_mul := ?_
      one_fma := ?_
      minScore := by rw [hpos]; exact (minScore_neg hfl).not_gt
      minScore_lt := ?_
      asymm := ?_ }
  · intro n h0 hn
    rw [hpos, hfl.ofBits]
    exact Rat.cast_pos.mpr (pos_single h0 hn)
  · have hhalf : half 0 = 0 := by decide +kernel
    rw [hfl.ofHalf, hhalf, hfl.zero, Rat.cast_zero]
  · intro n h0 hn
    rw [hpos, hfl.ofHalf]
    exact Rat.cast_pos.mpr (pos_half h0 hn)
  · intro a b ha hb
    rw [hnonneg] at ha hb
    rw [hfl.add]
    refine ⟨(hnonneg _).mpr (add_nonneg ha hb), ?_⟩
    rw [hpos, hpos, hpos]
    exact hsum a b ha hb
  · intro a ha
    rw [hone, hfl.mul, mul_one]
    exact ⟨ha, Iff.rfl⟩
  · intro a ha
    rw [hone, hfl.mul, one_mul]
    exact ⟨ha, Iff.rfl⟩
  · intro a b ha hb
    rw [hnonneg] at ha hb
    rw [hone, hfl.fma, one_mul]
    refine ⟨(hnonneg _).mpr (add_nonneg ha hb), ?_⟩
    rw [hpos, hpos, hpos]
    exact hsum a b ha hb
  · intro a ha
    rw [hnonneg] at ha
    rw [hfl.lt]
    exact decide_eq_true ((minScore_neg hfl).trans_le ha)
  · intro a ha
    rw [hpos] at ha
    rw [hfl.lt, hfl.zero]
    exact decide_eq_false (not_lt_of_ge ha.le)

end

theorem keepsSigns_rationalOps : KeepsSigns rationalOps := keepsSigns_of_exact exact_rationalOps

/-- Two tokens of a half each, in a page of four bytes. -/
theorem score_independent_iff_halves : SameScore rationalOps 1 1 1 1 ⟨0, 4, 7, 2⟩ true true := by
  have hiff := (score_independent_iff keepsSigns_rationalOps 1 1 1 1 ⟨0, 4, 7, 2⟩).1 true fun _ => rfl
  refine hiff.mpr ⟨(@isSome_scoreOn Rat rationalOps ⟨0, 4, 7, 2⟩ ⟨1, 1, 1, 1, 0⟩ [1] true
    fun _ => 0).mp (by decide +kernel), ?_⟩
  rintro j ⟨i, hi, h, hh, e, he, rfl⟩
  have hone : toInt 1 = 1 := by decide
  have hi : i < 2 := hi
  have hh : h < 1 := hh
  have he : e < 1 := he
  obtain rfl : h = 0 := by omega
  have hlength : TopkCandItem.itemLen ⟨0, 4, 7, 2⟩ = 4 := by decide
  rw [hlength, hone, keyWidth_halves]
  simp
  omega

/-- A page of one float, scored as two tokens: the second is what a write of eight bytes left
in the buffer. -/
theorem stale_token_scored :
    ∃ score score',
      ScoredAs rationalOps ⟨0, 1, 1, 1, 0x3F800000⟩ [1] ⟨0, 4, 7, 2⟩ [0, 0, 0, 0] false score ∧
      ScoredAs rationalOps ⟨0, 1, 1, 1, 0x3F800000⟩ [1] ⟨0, 4, 7, 2⟩ [0, 0, 0, 0] false score' ∧
      score ≠ score' := by
  refine ⟨_, _, @scoredAs_over _ _ _ _ _ _ [] _ rfl rfl (by decide) (by decide),
    @scoredAs_over _ _ _ _ _ _ [0, 0, 0, 0, 0, 0, 0x80, 0x3F] _ rfl rfl (by decide) (by decide), ?_⟩
  decide +kernel

end AiSsd.Nvme
