import AiSsd.NativeKernel.BlockBounds

/-!
# What a block score depends on

A score depends on the key elements its loops ask for and on no others. With a query of ones it
depends on each of them: over keys that are not negative it is positive exactly when one of
them is, however the arithmetic rounds.
-/

namespace AiSsd.NativeKernel

open Lib
open Nvme (FloatOps vector laneSum lane dotProduct64)

variable {F : Type} {fl : FloatOps F}

/-! ## The key elements of a score -/

/-- The score asks for key element `j`: in each token every query head takes the elements of
the key head it shares. -/
def ReadsKey (t q k d j : Int) : Prop :=
  ∃ i < t.toNat, ∃ h < q.toNat, ∃ e < d.toNat,
    j = (i : Int) * (k * d) + (h : Int) / sharing q k * d + (e : Int)

theorem vector_congr {n : Nat} {v v' : Nat → Option F} (h : ∀ e < n, v e = v' e) :
    vector fl n v = vector fl n v' := by
  have hmap : (List.range n).mapM v = (List.range n).mapM v' := by
    induction n with
    | zero => rfl
    | succ n ih =>
        rw [List.range_succ, List.mapM_append, List.mapM_append,
          ih fun e he => h e (Nat.lt_succ_of_lt he)]
        simp only [List.mapM_cons, List.mapM_nil, h n (Nat.lt_succ_self n)]
  rw [vector, vector, hmap]

def daemonDot (fl : FloatOps F) (headDim : Int) (q k : FloatPtr F) : Option F :=
  Nvme.dotProduct fl headDim (fun e => q e) fun e => k e

theorem readsHeads_daemonDot (fl : FloatOps F) : ReadsHeads (daemonDot fl) := readsHeads_daemon fl

theorem daemonDot_congr {headDim : Int} {q k k' : FloatPtr F}
    (h : ∀ e < headDim.toNat, k (e : Int) = k' (e : Int)) :
    daemonDot fl headDim q k = daemonDot fl headDim q k' := by
  rw [daemonDot, daemonDot, Nvme.dotProduct, Nvme.dotProduct, vector_congr h]

theorem blockScore_eq_scoreGqa (query : List F) (key : FloatPtr F) (t q k d : Int) (scale : F) :
    Nvme.blockScore fl query key t q k d scale =
      scoreGqa fl (daemonDot fl) (ptrOf query) key (sharing q k) t q k d scale :=
  daemon_blockScore_eq fl query key t q k d scale

theorem scaledDotGqa_congr {query key key' : FloatPtr F} {ratio d kToken : Int} {h : Nat}
    (hkeys : ∀ e < d.toNat, key (kToken + (h : Int) / ratio * d + e) =
      key' (kToken + (h : Int) / ratio * d + e)) (scale : F) :
    scaledDotGqa fl (daemonDot fl) query key ratio d scale kToken h =
      scaledDotGqa fl (daemonDot fl) query key' ratio d scale kToken h := by
  unfold scaledDotGqa
  simp only [intMul_eq, Int.tdiv_eq_ediv_of_nonneg (Int.natCast_nonneg h), Option.bind_eq_bind]
  by_cases hfits : FitsInt ((h : Int) / ratio * d)
  · have hdot : ∀ qVec, daemonDot fl d (offset query qVec)
          (offset key (kToken + (h : Int) / ratio * d)) =
        daemonDot fl d (offset query qVec) (offset key' (kToken + (h : Int) / ratio * d)) :=
      fun qVec => daemonDot_congr hkeys
    simp only [if_pos hfits, Option.bind_some, hdot]
  · simp only [if_neg hfits, Option.bind_none]

/-- Keys that agree where the score asks for them give the same score. -/
theorem blockScore_congr {query : List F} {key key' : FloatPtr F} {t q k d : Int}
    (h : ∀ j, ReadsKey t q k d j → key j = key' j) (scale : F) :
    Nvme.blockScore fl query key t q k d scale = Nvme.blockScore fl query key' t q k d scale := by
  rw [blockScore_eq_scoreGqa, blockScore_eq_scoreGqa]
  unfold scoreGqa
  rw [intMul_eq]
  split
  · refine bestOver_congr fun i hi kToken hrow qh hqh => scaledDotGqa_congr ?_ scale
    intro e he
    rw [intMul_eq] at hrow
    split at hrow
    · obtain rfl := Option.some.inj hrow
      exact h _ ⟨i, hi, qh, hqh, e, he, rfl⟩
    · cases hrow
  · rfl

/-! ## Signs -/

/-- `1.0f`. -/
def one (fl : FloatOps F) : F := fl.ofBits 0x3F800000

def Pos (fl : FloatOps F) (x : F) : Prop := fl.lt fl.zero x = true

/-- Zero, and not the negative one, or positive. -/
def Nonneg (fl : FloatOps F) (x : F) : Prop := x = fl.zero ∨ Pos fl x

/-- Not negative, and positive exactly if `p`. -/
def Signed (fl : FloatOps F) (x : F) (p : Prop) : Prop := Nonneg fl x ∧ (Pos fl x ↔ p)

/-- What IEEE arithmetic keeps of signs: nothing rounds a positive sum to zero, one is
neutral, and no result is a NaN as long as no operand is negative. -/
structure KeepsSigns (fl : FloatOps F) : Prop where
  zero : ¬ Pos fl fl.zero
  ofBits : ∀ n, 0 < n → n < 0x7F800000 → Pos fl (fl.ofBits n)
  ofHalf_zero : fl.ofHalf 0 = fl.zero
  ofHalf : ∀ n, 0 < n → n < 0x7C00 → Pos fl (fl.ofHalf n)
  add : ∀ a b, Nonneg fl a → Nonneg fl b → Signed fl (fl.add a b) (Pos fl a ∨ Pos fl b)
  mul_one : ∀ a, Nonneg fl a → Signed fl (fl.mul a (one fl)) (Pos fl a)
  one_mul : ∀ a, Nonneg fl a → Signed fl (fl.mul (one fl) a) (Pos fl a)
  one_fma : ∀ a b, Nonneg fl a → Nonneg fl b → Signed fl (fl.fma (one fl) a b) (Pos fl a ∨ Pos fl b)
  minScore : ¬ Pos fl fl.minScore
  minScore_lt : ∀ a, Nonneg fl a → fl.lt fl.minScore a = true
  asymm : ∀ a, Pos fl a → fl.lt a fl.zero = false

namespace KeepsSigns

variable (h : KeepsSigns fl)

include h

theorem signed_zero : Signed fl fl.zero False := ⟨.inl rfl, iff_of_false h.zero id⟩

theorem signed_add {x y : F} {p q : Prop} (hx : Signed fl x p) (hy : Signed fl y q) :
    Signed fl (fl.add x y) (p ∨ q) := by
  have hsum := h.add x y hx.1 hy.1
  exact ⟨hsum.1, hsum.2.trans (or_congr hx.2 hy.2)⟩

theorem signed_fma {x y : F} {p q : Prop} (hx : Signed fl x p) (hy : Signed fl y q) :
    Signed fl (fl.fma (one fl) y x) (p ∨ q) := by
  have hsum := h.one_fma y x hy.1 hx.1
  exact ⟨hsum.1, hsum.2.trans ((or_congr hy.2 hx.2).trans or_comm)⟩

omit h in
theorem signed_foldl {f : F → Nat → F} {n : Nat} {term : Nat → Prop}
    (hf : ∀ i < n, ∀ acc p, Signed fl acc p → Signed fl (f acc i) (p ∨ term i)) {start : F} {p : Prop}
    (hstart : Signed fl start p) :
    Signed fl ((List.range n).foldl f start) (p ∨ ∃ i < n, term i) := by
  induction n with
  | zero => simpa using hstart
  | succ n ih =>
      have hbefore := ih fun i hi => hf i (Nat.lt_succ_of_lt hi)
      have hlast := hf n (Nat.lt_succ_self n) _ _ hbefore
      rw [List.range_succ, List.foldl_append]
      refine ⟨hlast.1, hlast.2.trans ?_⟩
      rw [Nat.exists_lt_succ_right, or_assoc]

variable {n : Nat} {b : Nat → F} (hb : ∀ e < n, Nonneg fl (b e))

include hb

theorem signed_lane {a : Nat → F} (ha : ∀ e < n, a e = one fl) {start stride count j : Nat}
    (hin : 8 * (start + stride * count) + j < n) :
    Signed fl (lane fl a b start stride count j)
      (∃ i < count + 1, Pos fl (b (8 * (start + stride * i) + j))) := by
  have hindex : ∀ i ≤ count, 8 * (start + stride * i) + j < n := by
    intro i hi
    have hmul := Nat.mul_le_mul_left stride hi
    omega
  have hfirst : 8 * start + j < n := by simpa using hindex 0 (Nat.zero_le _)
  unfold lane
  have hloop := @signed_foldl F fl (fun acc i => fl.fma (a (8 * (start + stride * (i + 1)) + j))
      (b (8 * (start + stride * (i + 1)) + j)) acc) count
    (fun i => Pos fl (b (8 * (start + stride * (i + 1)) + j)))
    (fun i hi acc p hacc => by
      have hi := hindex (i + 1) hi
      rw [ha _ hi]
      exact h.signed_fma hacc ⟨hb _ hi, Iff.rfl⟩)
    _ _ (ha _ hfirst ▸ h.one_mul _ (hb _ hfirst))
  refine ⟨hloop.1, hloop.2.trans ?_⟩
  rw [Nat.exists_lt_succ_left]
  simp

omit hb in
theorem signed_laneSum {acc : Nat → F} {p : Nat → Prop} (hacc : ∀ j < 8, Signed fl (acc j) (p j)) :
    Signed fl (laneSum fl acc) (∃ j < 8, p j) := by
  have hsum := h.signed_add
    (h.signed_add (h.signed_add (hacc 0 (by omega)) (hacc 4 (by omega)))
      (h.signed_add (hacc 1 (by omega)) (hacc 5 (by omega))))
    (h.signed_add (h.signed_add (hacc 2 (by omega)) (hacc 6 (by omega)))
      (h.signed_add (hacc 3 (by omega)) (hacc 7 (by omega))))
  refine ⟨hsum.1, hsum.2.trans ?_⟩
  simp only [Nat.exists_lt_succ_right, Nat.not_lt_zero, false_and, exists_false]
  tauto

/-- Eight lanes of eight elements meet all 64. -/
theorem signed_dotProduct64 {a : Nat → F} (ha : ∀ e < n, a e = one fl) (hn : n = 64) :
    Signed fl (dotProduct64 fl a b) (∃ e < n, Pos fl (b e)) := by
  subst hn
  have hsum := h.signed_laneSum fun j hj =>
    h.signed_lane hb ha (show 8 * (0 + 1 * 7) + j < 64 by omega)
  refine ⟨hsum.1, hsum.2.trans ⟨?_, ?_⟩⟩
  · rintro ⟨j, hj, i, hi, hpos⟩
    exact ⟨_, by omega, hpos⟩
  · rintro ⟨e, he, hpos⟩
    refine ⟨e % 8, by omega, e / 8, by omega, ?_⟩
    have hsplit : 8 * (0 + 1 * (e / 8)) + e % 8 = e := by omega
    rwa [hsplit]

/-- Four accumulators of four vectors each meet all 128. -/
theorem signed_dotProduct128 {a : Nat → F} (ha : ∀ e < n, a e = one fl) (hn : n = 128) :
    Signed fl (Nvme.dotProduct128 fl a b) (∃ e < n, Pos fl (b e)) := by
  subst hn
  have hlane : ∀ s < 4, ∀ j < 8, Signed fl (lane fl a b s 4 3 j)
      (∃ i < 4, Pos fl (b (8 * (s + 4 * i) + j))) :=
    fun s hs j hj => h.signed_lane hb ha (by omega)
  have hsum := h.signed_laneSum fun j hj =>
    h.signed_add
      (h.signed_add (hlane 0 (by omega) j hj) (hlane 1 (by omega) j hj))
      (h.signed_add (hlane 2 (by omega) j hj) (hlane 3 (by omega) j hj))
  have hone : ∀ j, (((∃ i < 4, Pos fl (b (8 * (0 + 4 * i) + j))) ∨
        (∃ i < 4, Pos fl (b (8 * (1 + 4 * i) + j)))) ∨
      ((∃ i < 4, Pos fl (b (8 * (2 + 4 * i) + j))) ∨
        (∃ i < 4, Pos fl (b (8 * (3 + 4 * i) + j))))) ↔
      ∃ s < 4, ∃ i < 4, Pos fl (b (8 * (s + 4 * i) + j)) := by
    intro j
    constructor
    · rintro ((h | h) | (h | h))
      · exact ⟨0, by omega, h⟩
      · exact ⟨1, by omega, h⟩
      · exact ⟨2, by omega, h⟩
      · exact ⟨3, by omega, h⟩
    · rintro ⟨s, hs, h⟩
      obtain rfl | rfl | rfl | rfl : s = 0 ∨ s = 1 ∨ s = 2 ∨ s = 3 := by omega
      · exact .inl (.inl h)
      · exact .inl (.inr h)
      · exact .inr (.inl h)
      · exact .inr (.inr h)
  refine ⟨hsum.1, hsum.2.trans ⟨?_, ?_⟩⟩
  · rintro ⟨j, hj, hpos⟩
    obtain ⟨s, hs, i, hi, hpos⟩ := (hone j).mp hpos
    exact ⟨_, by omega, hpos⟩
  · rintro ⟨e, he, hpos⟩
    refine ⟨e % 8, by omega, (hone _).mpr ⟨e / 8 % 4, by omega, e / 32, by omega, ?_⟩⟩
    have hsplit : 8 * (e / 8 % 4 + 4 * (e / 32)) + e % 8 = e := by omega
    rwa [hsplit]

end KeepsSigns

/-- A query of ones times keys that are not negative. -/
theorem signed_daemonDot (h : KeepsSigns fl) {headDim : Int} {q k : FloatPtr F} {x : F}
    (hq : ∀ e < headDim.toNat, q (e : Int) = some (one fl))
    (hk : ∀ e < headDim.toNat, ∀ y, k (e : Int) = some y → Nonneg fl y)
    (hx : daemonDot fl headDim q k = some x) :
    Signed fl x (∃ e < headDim.toNat, ∃ y, k (e : Int) = some y ∧ Pos fl y) := by
  obtain ⟨a, ha, hx⟩ := Option.bind_eq_some_iff.mp hx
  obtain ⟨b, hb, hx⟩ := Option.bind_eq_some_iff.mp hx
  have hone : ∀ e < headDim.toNat, a e = one fl := fun e he =>
    Option.some.inj ((vector_eq_some fl ha e he).symm.trans (hq e he))
  have hkey := vector_eq_some fl hb
  have hnonneg : ∀ e < headDim.toNat, Nonneg fl (b e) := fun e he => hk e he _ (hkey e he)
  have hsame : (∃ e < headDim.toNat, Pos fl (b e)) ↔
      ∃ e < headDim.toNat, ∃ y, k (e : Int) = some y ∧ Pos fl y := by
    refine exists_congr fun e => and_congr_right fun he => ?_
    rw [hkey e he]
    simp
  suffices hsigned : Signed fl x (∃ e < headDim.toNat, Pos fl (b e)) from
    ⟨hsigned.1, hsigned.2.trans hsame⟩
  split at hx
  · obtain rfl := Option.some.inj hx
    exact h.signed_dotProduct128 hnonneg hone (by omega)
  · split at hx
    · obtain rfl := Option.some.inj hx
      exact h.signed_dotProduct64 hnonneg hone (by omega)
    · obtain rfl := Option.some.inj hx
      have hloop := @KeepsSigns.signed_foldl F fl (fun dot d => fl.add dot (fl.mul (a d) (b d)))
        headDim.toNat (fun e => Pos fl (b e))
        (fun e he acc p hacc => by
          rw [hone e he]
          exact h.signed_add hacc (h.one_mul _ (hnonneg e he)))
        _ _ h.signed_zero
      simpa using hloop

/-- The best of scores that are not negative is positive when one of them is. -/
theorem pos_foldl_better (h : KeepsSigns fl) {ys : List F} (hys : ∀ y ∈ ys, Nonneg fl y) :
    Pos fl (ys.foldl (better fl.lt) fl.minScore) ↔ ∃ y ∈ ys, Pos fl y := by
  -- the best so far is the sentinel, or not negative
  suffices hrun : ∀ start, start = fl.minScore ∨ Nonneg fl start →
      (Pos fl (ys.foldl (better fl.lt) start) ↔ Pos fl start ∨ ∃ y ∈ ys, Pos fl y) from
    (hrun _ (.inl rfl)).trans (or_iff_right h.minScore)
  induction ys with
  | nil => simp
  | cons y ys ih =>
      intro start hstart
      rw [List.forall_mem_cons] at hys
      have hbetter : Pos fl (better fl.lt start y) ↔ Pos fl start ∨ Pos fl y := by
        unfold better
        split
        · rename_i hlt
          refine ⟨.inr, fun hpos => hpos.elim (fun hbefore => ?_) id⟩
          rcases hys.1 with hzero | hy
          · rw [hzero, h.asymm start hbefore] at hlt
            cases hlt
          · exact hy
        · rename_i hlt
          refine ⟨.inl, fun hpos => hpos.elim id fun hnew => ?_⟩
          rcases hstart with hmin | hzero | hbefore
          · exact absurd (hmin ▸ h.minScore_lt y hys.1) hlt
          · exact absurd (hzero ▸ hnew) hlt
          · exact hbefore
      have hnext : better fl.lt start y = fl.minScore ∨ Nonneg fl (better fl.lt start y) := by
        unfold better
        split
        · exact .inr hys.1
        · exact hstart
      rw [List.foldl_cons, ih hys.2 _ hnext, hbetter, List.exists_mem_cons_iff, or_assoc]

theorem scaledDotGqa_eq_some {dot : Int → FloatPtr F → FloatPtr F → Option F}
    {query kBlock : FloatPtr F} {ratio d kToken : Int} {scale x : F} {h : Nat}
    (hx : scaledDotGqa fl dot query kBlock ratio d scale kToken h = some x) :
    ∃ y, dot d (offset query (h * d)) (offset kBlock (kToken + (h : Int) / ratio * d)) = some y ∧
      x = fl.mul y scale := by
  unfold scaledDotGqa at hx
  simp only [intMul_eq, Int.tdiv_eq_ediv_of_nonneg (Int.natCast_nonneg h)] at hx
  split at hx
  · cases hx
  · obtain ⟨qVec, hq, hkeys⟩ := Option.bind_eq_some_iff.mp hx
    obtain ⟨kVec, hk, hdot⟩ := Option.bind_eq_some_iff.mp hkeys
    obtain ⟨y, hy, hmul⟩ := Option.bind_eq_some_iff.mp hdot
    split at hq
    · split at hk
      · cases hq
        cases hk
        exact ⟨y, hy, (Option.some.inj hmul).symm⟩
      · cases hk
    · cases hq

/-- With a query of ones and the scale one, a score is positive exactly when one of the key
elements it asks for is. -/
theorem pos_blockScore (h : KeepsSigns fl) {n : Nat} {key : FloatPtr F} {t q k d : Int} {best : F}
    (hkey : ∀ j, ReadsKey t q k d j → ∀ y, key j = some y → Nonneg fl y)
    (hbest : Nvme.blockScore fl (List.replicate n (one fl)) key t q k d (one fl) = some best) :
    Pos fl best ↔ ∃ j, ReadsKey t q k d j ∧ ∃ y, key j = some y ∧ Pos fl y := by
  rw [blockScore_eq_scoreGqa] at hbest
  have hdefined := (isSome_scoreGqa fl (readsHeads_daemonDot fl) _ _ _ _ _ _ _ _).mp
    (Option.isSome_of_eq_some hbest)
  by_cases hq : 0 < q.toNat
  · unfold scoreGqa at hbest
    rw [intMul_eq, if_pos hdefined.1, Option.bind_eq_bind, Option.bind_some,
      bestOver_eq fl.lt hq] at hbest
    obtain ⟨ys, hys, rfl⟩ := bestOf_eq_some hbest
    have hscore : ∀ y, y ∈ ys ↔ ∃ i < t.toNat, ∃ qh < q.toNat,
        scaledDotGqa fl (daemonDot fl) (ptrOf (List.replicate n (one fl))) key (sharing q k) d
          (one fl) (i * (k * d)) qh = some y := by
      intro y
      rw [← List.mem_map_of_injective (Option.some_injective F), ← hys, mem_allScores]
      refine exists_congr fun i => and_congr_right fun hi => ?_
      simp only [intMul_eq, if_pos (hdefined.2 i hi).1, Option.bind_some]
    have hsigned : ∀ i < t.toNat, ∀ qh < q.toNat, ∀ y,
        scaledDotGqa fl (daemonDot fl) (ptrOf (List.replicate n (one fl))) key (sharing q k) d
          (one fl) (i * (k * d)) qh = some y →
        Signed fl y (∃ e < d.toNat, ∃ x,
          key (i * (k * d) + (qh : Int) / sharing q k * d + e) = some x ∧ Pos fl x) := by
      intro i hi qh hqh y hy
      obtain ⟨dot, hdot, rfl⟩ := scaledDotGqa_eq_some hy
      have hhead := (hdefined.2 i hi).2 qh hqh
      have hsum := signed_daemonDot h (fun e he => ?_)
        (fun e he x hx => hkey _ ⟨i, hi, qh, hqh, e, he, rfl⟩ x hx) hdot
      · have hscaled := h.mul_one dot hsum.1
        exact ⟨hscaled.1, hscaled.2.trans hsum.2⟩
      · have hsome := (isSome_ptrOf _ _).mp (hhead.elems e he).1
        rw [List.length_replicate] at hsome
        unfold offset ptrOf
        rw [if_pos hsome.1, List.getElem?_replicate, if_pos (by omega)]
    rw [pos_foldl_better h]
    · constructor
      · rintro ⟨y, hy, hpos⟩
        obtain ⟨i, hi, qh, hqh, hscored⟩ := (hscore y).mp hy
        obtain ⟨e, he, x, hx, hpos⟩ := (hsigned i hi qh hqh y hscored).2.mp hpos
        exact ⟨_, ⟨i, hi, qh, hqh, e, he, rfl⟩, x, hx, hpos⟩
      · rintro ⟨j, ⟨i, hi, qh, hqh, e, he, rfl⟩, x, hx, hpos⟩
        have hsome := (isSome_scaledDotGqa fl (readsHeads_daemonDot fl) _ _ _ _ (one fl) _ _).mpr
          ((hdefined.2 i hi).2 qh hqh)
        obtain ⟨y, hy⟩ := Option.isSome_iff_exists.mp hsome
        exact ⟨y, (hscore y).mpr ⟨i, hi, qh, hqh, hy⟩,
          (hsigned i hi qh hqh y hy).2.mpr ⟨e, he, x, hx, hpos⟩⟩
    · intro y hy
      obtain ⟨i, hi, qh, hqh, hscored⟩ := (hscore y).mp hy
      exact (hsigned i hi qh hqh y hscored).1
  · have hnone : ∀ j, ¬ ReadsKey t q k d j := by
      rintro j ⟨i, hi, qh, hqh, -⟩
      omega
    have hzero : q.toNat = 0 := by omega
    unfold scoreGqa at hbest
    rw [intMul_eq, if_pos hdefined.1, Option.bind_eq_bind, Option.bind_some, hzero] at hbest
    rw [bestOver_zero hbest]
    exact iff_of_false h.minScore fun ⟨j, hj, _⟩ => hnone j hj

end AiSsd.NativeKernel
