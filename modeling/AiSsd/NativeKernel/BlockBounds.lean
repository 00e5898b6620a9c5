import AiSsd.NativeKernel.ExactFloat
import AiSsd.NativeKernel.InstorageAttention
import AiSsd.Nvme.Daemon

/-!
# Grouped-query scores inside the block

The query heads share key heads by a truncated ratio. The key elements asked for stay inside
the block, and nothing is divided by zero, exactly when the key heads divide the query heads
and the index arithmetic fits an `int`; a block without tokens is not read at all.
-/

namespace AiSsd.NativeKernel

open Lib
open Nvme (FloatOps intMul vector toInt dotProduct64)

variable {F : Type} (fl : FloatOps F)

/-! ## What a score reads -/

/-- The value is an `int`. -/
def FitsInt (x : Int) : Prop := -2 ^ 31 ≤ x ∧ x < 2 ^ 31

instance (x : Int) : Decidable (FitsInt x) := inferInstanceAs (Decidable (_ ∧ _))

theorem intMul_eq (a b : Int) : intMul a b = if FitsInt (a * b) then some (a * b) else none := rfl

theorem vector_eq_some {n : Nat} {v : Nat → Option F} {a : Nat → F}
    (h : vector fl n v = some a) : ∀ d < n, v d = some (a d) := by
  intro d hd
  obtain ⟨xs, hxs, rfl⟩ := Option.map_eq_some_iff.mp h
  have hmap := congrArg (fun l => l[d]?) (mapM_eq_some_iff.mp hxs)
  simp only [List.getElem?_map, List.getElem?_range hd, Option.map_some] at hmap
  obtain ⟨x, hx, hv⟩ := Option.map_eq_some_iff.mp hmap.symm
  dsimp only
  rw [List.getD_eq_getElem?_getD, hx, Option.getD_some, hv]

theorem isSome_vector (n : Nat) (v : Nat → Option F) :
    (vector fl n v).isSome ↔ ∀ d < n, (v d).isSome := by
  unfold vector
  rw [Option.isSome_map, isSome_mapM]
  simp

def ReadsHeads (dot : Int → FloatPtr F → FloatPtr F → Option F) : Prop :=
  ∀ headDim q k, (dot headDim q k).isSome ↔
    ∀ d < headDim.toNat, (q (d : Int)).isSome ∧ (k (d : Int)).isSome

theorem isSome_vectors {n : Nat} {q k : Nat → Option F} {r : (Nat → F) → (Nat → F) → F} :
    ((vector fl n q).bind fun a => (vector fl n k).bind fun b => some (r a b)).isSome ↔
      ∀ d < n, (q d).isSome ∧ (k d).isSome := by
  rw [forall₂_and, ← isSome_vector fl, ← isSome_vector fl]
  cases vector fl n q <;> cases vector fl n k <;> simp

theorem readsHeads_dotProduct : ReadsHeads (dotProduct fl) := by
  intro headDim q k
  rw [← isSome_vectors fl (r := fun a b => if headDim = 64 then dotProduct64 fl a b
    else if headDim = 128 then dotProduct128 fl a b
    else (List.range headDim.toNat).foldl (fun dot d => fl.add dot (fl.mul (a d) (b d))) fl.zero)]
  unfold dotProduct
  simp only [apply_ite some, Option.bind_eq_bind]

theorem readsHeads_daemon :
    ReadsHeads fun headDim q k => Nvme.dotProduct fl headDim (fun d => q d) fun d => k d := by
  intro headDim q k
  rw [← isSome_vectors fl (r := fun a b => if headDim = 128 then Nvme.dotProduct128 fl a b
    else if headDim = 64 then Nvme.dotProduct64 fl a b
    else (List.range headDim.toNat).foldl (fun dot d => fl.add dot (fl.mul (a d) (b d))) fl.zero)]
  unfold Nvme.dotProduct
  simp only [apply_ite some, Option.bind_eq_bind]

structure HeadDefined (query kBlock : FloatPtr F) (gqaRatio headDim kToken : Int) (qh : Nat) :
    Prop where
  ratio : gqaRatio ≠ 0
  qVec : FitsInt (qh * headDim)
  kVec : FitsInt (qh / gqaRatio * headDim)
  elems : ∀ d < headDim.toNat, (query (qh * headDim + d)).isSome ∧
    (kBlock (kToken + qh / gqaRatio * headDim + d)).isSome

theorem isSome_scaledDotGqa {dot : Int → FloatPtr F → FloatPtr F → Option F}
    (hdot : ReadsHeads dot) (query kBlock : FloatPtr F) (gqaRatio headDim : Int) (scale : F)
    (kToken : Int) (qh : Nat) :
    (scaledDotGqa fl dot query kBlock gqaRatio headDim scale kToken qh).isSome ↔
      HeadDefined query kBlock gqaRatio headDim kToken qh := by
  unfold scaledDotGqa
  simp only [intMul_eq, Int.tdiv_eq_ediv_of_nonneg (Int.natCast_nonneg qh)]
  by_cases hratio : gqaRatio = 0
  · simpa [hratio] using fun h : HeadDefined query kBlock 0 headDim kToken qh => h.ratio rfl
  by_cases hq : FitsInt (qh * headDim)
  · by_cases hk : FitsInt (qh / gqaRatio * headDim)
    · have hreads := hdot headDim (offset query (qh * headDim))
        (offset kBlock (kToken + qh / gqaRatio * headDim))
      have hmul : ∀ o : Option F, (o.bind fun dot => some (fl.mul dot scale)).isSome = o.isSome := by
        intro o
        cases o <;> rfl
      simp only [hratio, hq, hk, if_true, if_false, Option.bind_eq_bind, Option.bind_some,
        Option.pure_def, hmul]
      exact hreads.trans ⟨fun h => ⟨hratio, hq, hk, h⟩, fun h => h.elems⟩
    · simpa [hratio, hq, hk] using
        fun h : HeadDefined query kBlock gqaRatio headDim kToken qh => hk h.kVec
  · simpa [hratio, hq] using
      fun h : HeadDefined query kBlock gqaRatio headDim kToken qh => hq h.qVec

theorem isSome_scoreGqa {dot : Int → FloatPtr F → FloatPtr F → Option F}
    (hdot : ReadsHeads dot) (query kBlock : FloatPtr F)
    (gqaRatio actualTokens qHeads kvHeads headDim : Int) (scale : F) :
    (scoreGqa fl dot query kBlock gqaRatio actualTokens qHeads kvHeads headDim scale).isSome ↔
      FitsInt (kvHeads * headDim) ∧ ∀ t < actualTokens.toNat, FitsInt (t * (kvHeads * headDim)) ∧
        ∀ qh < qHeads.toNat,
          HeadDefined query kBlock gqaRatio headDim (t * (kvHeads * headDim)) qh := by
  unfold scoreGqa
  rw [intMul_eq]
  by_cases hstride : FitsInt (kvHeads * headDim)
  · rw [if_pos hstride, Option.bind_eq_bind, Option.bind_some, isSome_bestOver]
    simp only [hstride, true_and, intMul_eq]
    refine forall₂_congr fun t _ => ?_
    by_cases ht : FitsInt (t * (kvHeads * headDim))
    · simp [ht, isSome_scaledDotGqa fl hdot]
    · simp [ht]
  · simp [hstride]

theorem daemon_blockScore_eq (query : List F) (key : FloatPtr F)
    (actualTokens qHeads kvHeads headDim : Int) (scale : F) :
    Nvme.blockScore fl query key actualTokens qHeads kvHeads headDim scale =
      scoreGqa fl (fun headDim q k => Nvme.dotProduct fl headDim (fun d => q d) fun d => k d)
        (ptrOf query) key (if kvHeads > 0 then qHeads.tdiv kvHeads else 1) actualTokens qHeads
        kvHeads headDim scale := by
  have hcast : (do let t ← List.range actualTokens.toNat; pure (t : Int)) =
      (List.range actualTokens.toNat).map Nat.cast := List.map_eq_flatMap.symm
  unfold Nvme.blockScore scoreGqa bestOver scaledDotGqa
  rw [hcast]
  dsimp only
  generalize (if kvHeads > 0 then qHeads.tdiv kvHeads else 1) = gqaRatio
  congr 1
  funext kvStride
  rw [List.foldlM_map]
  congr 1
  funext best t
  congr 1
  funext kToken
  congr 1
  funext best qh
  split
  · rfl
  · cases intMul qh headDim with
    | none => rfl
    | some qVec =>
        cases intMul ((qh : Int).tdiv gqaRatio) headDim with
        | none => rfl
        | some kVec =>
            change Option.bind (Nvme.dotProduct fl headDim
                (fun d => offset (ptrOf query) qVec d) fun d => offset key (kToken + kVec) d) _ =
              Option.map _ (Option.bind (Nvme.dotProduct fl headDim
                (fun d => offset (ptrOf query) qVec d) fun d => offset key (kToken + kVec) d) _)
            cases Nvme.dotProduct fl headDim (fun d => offset (ptrOf query) qVec d)
              fun d => offset key (kToken + kVec) d with
            | none => rfl
            | some dot => exact (apply_ite some _ _ _).symm

/-! ## Index arithmetic -/

variable {fl}

@[simp] theorem isSome_ptrOf (xs : List F) (i : Int) :
    (ptrOf xs i).isSome ↔ 0 ≤ i ∧ i < xs.length := by
  unfold ptrOf
  by_cases h : 0 ≤ i
  · simp [h, Int.toNat_lt h]
  · simp [h]

theorem FitsInt.of_le {a b s : Int} (h : FitsInt (b * s)) (ha : 0 ≤ a) (hab : a ≤ b) :
    FitsInt (a * s) := by
  unfold FitsInt at h ⊢
  rcases Int.le_total 0 s with hs | hs
  · have hlow := Int.mul_nonneg ha hs
    have hhigh := Int.mul_le_mul_of_nonneg_right hab hs
    omega
  · have hhigh := Int.mul_nonpos_of_nonneg_of_nonpos ha hs
    have hlow := Int.mul_le_mul_of_nonpos_right hab hs
    omega

/-- The ratio by which query heads share key heads. -/
def sharing (qHeads kvHeads : Int) : Int := if 0 < kvHeads then qHeads.tdiv kvHeads else 1

theorem sharing_of_pos {q k : Int} (hq : 0 < q) (hk : 0 < k) : sharing q k = q / k := by
  rw [sharing, if_pos hk, Int.tdiv_eq_ediv_of_nonneg (Int.le_of_lt hq)]

theorem sharing_nonneg {q : Int} (hq : 0 < q) (k : Int) : 0 ≤ sharing q k := by
  by_cases hk : 0 < k
  · rw [sharing_of_pos hq hk]
    exact Int.ediv_nonneg (Int.le_of_lt hq) (Int.le_of_lt hk)
  · rw [sharing, if_neg hk]
    decide

theorem one_le_sharing_iff {q : Int} (hq : 0 < q) (k : Int) :
    1 ≤ sharing q k ↔ k ≤ 0 ∨ k ≤ q := by
  by_cases hk : 0 < k
  · rw [sharing_of_pos hq hk, Int.le_ediv_iff_mul_le hk]
    omega
  · rw [sharing, if_neg hk]
    omega

/-- The last query head is given one of the key heads exactly when they divide evenly. -/
theorem last_head_lt_iff {q k : Int} (hq : 0 < q) (hk : 0 < k) (hle : 1 ≤ sharing q k) :
    (q - 1) / sharing q k < k ↔ k ∣ q := by
  rw [Int.ediv_lt_iff_lt_mul (by omega), sharing_of_pos hq hk]
  have hmul : k * (q / k) ≤ q := Int.mul_ediv_self_le (Int.ne_of_gt hk)
  constructor
  · intro h
    exact ⟨q / k, by omega⟩
  · intro h
    rw [Int.mul_ediv_cancel' h]
    omega

/-! ## Staying inside -/

/-- The indices fit an `int`, and with tokens to read the key heads divide the query heads. (A
negative number of key heads, which only a cast can give, leaves room for one token.) -/
def StaysInBlock (actualTokens qHeads kvHeads headDim : Int) : Prop :=
  FitsInt (kvHeads * headDim) ∧ (actualTokens ≤ 0 ∨
    FitsInt ((actualTokens - 1) * (kvHeads * headDim)) ∧ (qHeads ≤ 0 ∨
      FitsInt ((qHeads - 1) * headDim) ∧ (kvHeads ≤ 0 ∨ kvHeads ≤ qHeads) ∧
        (headDim ≤ 0 ∨ if 0 < kvHeads then kvHeads ∣ qHeads else actualTokens = 1)))

instance (t q k d : Int) : Decidable (StaysInBlock t q k d) := inferInstanceAs (Decidable (_ ∧ _))

/-- The arrays are as long as the sizes say, where anything is read from them. -/
structure Sized (query block : List F) (t q k d : Int) : Prop where
  queryLength : 0 < q → 0 < d → FitsInt ((q - 1) * d) → (query.length : Int) = q * d
  blockLength : 0 < t → 0 < q → 0 < d → 0 < k → (block.length : Int) = t * (k * d)
  castLength : 0 < t → 0 < q → 0 < d → k ≤ 0 → k < 0 ∧ q * d ≤ block.length

/-- Every head of every token is defined in arrays of the right size. -/
theorem headDefined_of_stays {query block : List F} {t q k d : Int} (hsize : Sized query block t q k d)
    (ht : 0 < t) (hq : 0 < q) (hfits : FitsInt ((q - 1) * d)) (hratio : 1 ≤ sharing q k)
    (hshare : d ≤ 0 ∨ if 0 < k then k ∣ q else t = 1) {i qh : Nat} (hi : i < t.toNat)
    (hqh : qh < q.toNat) :
    HeadDefined (ptrOf query) (ptrOf block) (sharing q k) d (i * (k * d)) qh := by
  have hhead : 0 ≤ (qh : Int) / sharing q k :=
    Int.ediv_nonneg (Int.natCast_nonneg qh) (by omega)
  have hself : (qh : Int) / sharing q k ≤ qh := Int.ediv_le_self _ (Int.natCast_nonneg qh)
  refine ⟨by omega, hfits.of_le (Int.natCast_nonneg qh) (by omega), hfits.of_le hhead (by omega), ?_⟩
  intro e he
  have hd : 0 < d := by omega
  have hqd : (query.length : Int) = q * d := hsize.queryLength hq hd hfits
  have hrow : ((qh : Int) + 1) * d ≤ q * d :=
    Int.mul_le_mul_of_nonneg_right (by omega) (Int.le_of_lt hd)
  have hqnonneg : 0 ≤ (qh : Int) * d := Int.mul_nonneg (Int.natCast_nonneg qh) (Int.le_of_lt hd)
  rw [Int.add_mul, Int.one_mul] at hrow
  rw [isSome_ptrOf, isSome_ptrOf]
  refine ⟨by omega, ?_⟩
  by_cases hk : 0 < k
  · have hdvd : k ∣ q := by simpa [hk, Int.not_le.mpr hd] using hshare
    have hlt : (qh : Int) / sharing q k < k := by
      rw [Int.ediv_lt_iff_lt_mul (by omega), sharing_of_pos hq hk, Int.mul_ediv_cancel' hdvd]
      omega
    have hblock := hsize.blockLength ht hq hd hk
    have hkd : 0 ≤ k * d := Int.mul_nonneg (Int.le_of_lt hk) (Int.le_of_lt hd)
    have htoken : ((i : Int) + 1) * (k * d) ≤ t * (k * d) :=
      Int.mul_le_mul_of_nonneg_right (by omega) hkd
    have hkey : ((qh : Int) / sharing q k + 1) * d ≤ k * d :=
      Int.mul_le_mul_of_nonneg_right (by omega) (Int.le_of_lt hd)
    have hi0 : 0 ≤ (i : Int) * (k * d) := Int.mul_nonneg (Int.natCast_nonneg i) hkd
    have hh0 : 0 ≤ (qh : Int) / sharing q k * d := Int.mul_nonneg hhead (Int.le_of_lt hd)
    rw [Int.add_mul, Int.one_mul] at htoken hkey
    omega
  · have hone : t = 1 := by simpa [hk, Int.not_le.mpr hd] using hshare
    have hfirst : i = 0 := by omega
    have hblock := (hsize.castLength ht hq hd (Int.not_lt.mp hk)).2
    rw [hfirst, sharing, if_neg hk, Int.ediv_one]
    omega

/-- Conversely the first and the last head of the last token need all of it. -/
theorem stays_of_headDefined {query block : List F} {t q k d : Int}
    (hsize : Sized query block t q k d) (ht : 0 < t) (hq : 0 < q)
    (h : ∀ i < t.toNat, ∀ qh < q.toNat,
      HeadDefined (ptrOf query) (ptrOf block) (sharing q k) d (i * (k * d)) qh) :
    FitsInt ((q - 1) * d) ∧ (k ≤ 0 ∨ k ≤ q) ∧
      (d ≤ 0 ∨ if 0 < k then k ∣ q else t = 1) := by
  have hlast := h (t - 1).toNat (by omega) (q - 1).toNat (by omega)
  have hfirst := h (t - 1).toNat (by omega) 0 (by omega)
  have htcast : ((t - 1).toNat : Int) = t - 1 := by omega
  have hqcast : ((q - 1).toNat : Int) = q - 1 := by omega
  rw [htcast] at hlast hfirst
  have hratio : 1 ≤ sharing q k := by
    have hne := hlast.ratio
    have hnonneg := sharing_nonneg hq k
    omega
  refine ⟨hqcast ▸ hlast.qVec, (one_le_sharing_iff hq k).mp hratio, ?_⟩
  by_cases hd : d ≤ 0
  · exact Or.inl hd
  · right
    have hd : 0 < d := Int.not_le.mp hd
    split
    · rename_i hk
      rw [← last_head_lt_iff hq hk hratio]
      have hin := ((isSome_ptrOf block _).mp (hlast.elems (d - 1).toNat (by omega)).2).2
      rw [hsize.blockLength ht hq hd hk, hqcast] at hin
      have hdcast : ((d - 1).toNat : Int) = d - 1 := by omega
      rw [hdcast, Int.sub_mul, Int.one_mul] at hin
      have hless : (q - 1) / sharing q k * d < k * d := by omega
      exact Int.lt_of_mul_lt_mul_right hless (Int.le_of_lt hd)
    · rename_i hk
      have hneg := (hsize.castLength ht hq hd (Int.not_lt.mp hk)).1
      have hin := ((isSome_ptrOf block _).mp (hfirst.elems 0 (by omega)).2).1
      have hkd : k * d < 0 := Int.mul_neg_of_neg_of_pos hneg hd
      by_contra hmore
      have hrow : (t - 1) * (k * d) < 0 := Int.mul_neg_of_pos_of_neg (by omega) hkd
      simp at hin
      omega

theorem isSome_scoreGqa_iff {dot : Int → FloatPtr F → FloatPtr F → Option F}
    (hdot : ReadsHeads dot) {query block : List F} {t q k d : Int}
    (hsize : Sized query block t q k d) (scale : F) :
    (scoreGqa fl dot (ptrOf query) (ptrOf block) (sharing q k) t q k d scale).isSome ↔
      StaysInBlock t q k d := by
  rw [isSome_scoreGqa fl hdot, StaysInBlock]
  refine and_congr_right fun _ => ?_
  rcases le_or_gt t 0 with ht | ht
  · exact iff_of_true (fun i hi => by omega) (Or.inl ht)
  have hnot : ¬ t ≤ 0 := Int.not_le.mpr ht
  have hrows : (∀ i < t.toNat, FitsInt (i * (k * d))) ↔ FitsInt ((t - 1) * (k * d)) := by
    constructor
    · intro h
      have hcast : ((t - 1).toNat : Int) = t - 1 := by omega
      exact hcast ▸ h (t - 1).toNat (by omega)
    · intro h i hi
      exact h.of_le (Int.natCast_nonneg i) (by omega)
  rw [forall₂_and, hrows]
  simp only [hnot, false_or]
  refine and_congr_right fun _ => ?_
  rcases le_or_gt q 0 with hq | hq
  · exact iff_of_true (fun i _ qh hqh => by omega) (Or.inl hq)
  · simp only [Int.not_le.mpr hq, false_or]
    constructor
    · exact stays_of_headDefined hsize ht hq
    · rintro ⟨hfits, hle, hshare⟩ i hi qh hqh
      exact headDefined_of_stays hsize ht hq hfits ((one_le_sharing_iff hq k).mpr hle) hshare hi hqh

/-! ## The kernel and the daemon -/

theorem eq_of_toInt_pos {n : Nat} (hn : n < 2 ^ 32) (h : 0 < toInt n) : toInt n = n := by
  unfold toInt at h ⊢
  split at h
  · rename_i hlt
    rw [if_pos hlt]
  · omega

theorem sized_of_header {query block : List F} {t q k d : Nat} (ht : t < 2 ^ 32)
    (hq : q < 2 ^ 32) (hk : k < 2 ^ 32) (hd : d < 2 ^ 32) (hk1 : 1 ≤ k)
    (hquery : query.length = q * d % 2 ^ 32) (hblock : block.length = t * k * d) :
    Sized query block (toInt t) (toInt q) (toInt k) (toInt d) where
  queryLength := by
    intro hq0 hd0 hfits
    have hd31 : toInt d < 2 ^ 31 := by
      unfold toInt
      split <;> omega
    rw [eq_of_toInt_pos hq hq0, eq_of_toInt_pos hd hd0] at hfits ⊢
    rw [eq_of_toInt_pos hd hd0] at hd31
    have hlt : (q : Int) * d < 2 ^ 32 := by
      have hrow := hfits.2
      rw [Int.sub_mul, Int.one_mul] at hrow
      omega
    rw [hquery, Nat.mod_eq_of_lt (by exact_mod_cast hlt)]
    exact Int.natCast_mul q d
  blockLength := by
    intro ht0 _ hd0 hk0
    rw [eq_of_toInt_pos ht ht0, eq_of_toInt_pos hk hk0, eq_of_toInt_pos hd hd0, hblock,
      Nat.mul_assoc]
    simp
  castLength := by
    intro ht0 hq0 hd0 hneg
    have hq31 : toInt q < 2 ^ 31 := by
      unfold toInt
      split <;> omega
    have hk31 : 2 ^ 31 ≤ k := by
      unfold toInt at hneg
      split at hneg <;> omega
    have htq : q ≤ t * k := by
      rw [eq_of_toInt_pos hq hq0] at hq31
      have ht1 : 1 ≤ t := by
        rw [eq_of_toInt_pos ht ht0] at ht0
        omega
      calc q ≤ 1 * k := by omega
        _ ≤ t * k := Nat.mul_le_mul_right k ht1
    refine ⟨?_, ?_⟩
    · unfold toInt
      rw [if_neg (by omega)]
      omega
    · rw [eq_of_toInt_pos hq hq0, eq_of_toInt_pos hd hd0, hblock]
      exact_mod_cast Nat.mul_le_mul_right d htq

/-- Grouped-query scores read inside the block, inside the query and without a division by
zero exactly when the sizes let them: the kernel's for every positive number of heads and
dimensions that its filter accepts, the daemon's, over floats and over halves alike, for every
header with a key head. -/
theorem scores_in_block_iff (fl : FloatOps F) (query block : List F) (scale : F) :
    (∀ actualTokens qHeads kvHeads headDim : Int, 0 < qHeads → 0 < kvHeads → 0 < headDim →
      (query.length : Int) = qHeads * headDim →
      (block.length : Int) = max actualTokens 0 * (kvHeads * headDim) →
      ((computeBlockScoreGqaAvx2 fl (ptrOf query) (ptrOf block) actualTokens qHeads kvHeads headDim
        scale).isSome ↔ StaysInBlock actualTokens qHeads kvHeads headDim)) ∧
    ∀ (theader : Nvme.TopkReqHeader) (cand : Nvme.TopkCandItem),
      theader.qHeads < 2 ^ 32 → 1 ≤ theader.kvHeads → theader.kvHeads < 2 ^ 32 →
      theader.headDim < 2 ^ 32 → cand.actualTokens < 2 ^ 32 → query.length = theader.qElements →
      block.length = cand.actualTokens * theader.kvHeads * theader.headDim →
      ((Nvme.blockScore fl query (ptrOf block) (toInt cand.actualTokens) (toInt theader.qHeads)
          (toInt theader.kvHeads) (toInt theader.headDim) scale).isSome ↔
        StaysInBlock (toInt cand.actualTokens) (toInt theader.qHeads) (toInt theader.kvHeads)
          (toInt theader.headDim)) := by
  constructor
  · intro t q k d hq hk hd hquery hblock
    have hsize : Sized query block t q k d :=
      { queryLength := fun _ _ _ => hquery
        blockLength := fun ht _ _ _ => by rw [hblock, max_eq_left (Int.le_of_lt ht)]
        castLength := fun _ _ _ hneg => absurd hk (Int.not_lt.mpr hneg) }
    have hscore : computeBlockScoreGqaAvx2 fl (ptrOf query) (ptrOf block) t q k d scale =
        scoreGqa fl (dotProduct fl) (ptrOf query) (ptrOf block) (sharing q k) t q k d scale := by
      rw [computeBlockScoreGqaAvx2, if_neg (Int.ne_of_gt hk), sharing, if_pos hk]
    rw [hscore]
    exact isSome_scoreGqa_iff (readsHeads_dotProduct fl) hsize scale
  · intro theader cand hq hk1 hk hd ht hquery hblock
    have hsize := sized_of_header ht hq hk hd hk1 hquery hblock
    rw [daemon_blockScore_eq]
    exact isSome_scoreGqa_iff (readsHeads_daemon fl) hsize scale

/-- Two query heads on one key head, in a block of one token. -/
theorem scores_in_block_iff_two_heads :
    (computeBlockScoreGqaAvx2 rationalOps (ptrOf [1, 1]) (ptrOf [1]) 1 2 1 1 1).isSome ∧
      (Nvme.blockScore rationalOps [1, 1] (ptrOf [1]) (toInt 1) (toInt 2) (toInt 1) (toInt 1)
        1).isSome :=
  have both := scores_in_block_iff rationalOps [1, 1] [1] 1
  ⟨(both.1 1 2 1 1 (by decide) (by decide) (by decide) (by decide) (by decide)).mpr (by decide),
    (both.2 ⟨1, 1, 2, 1, 1, 0⟩ ⟨0, 4, 0, 1⟩ (by decide) (by decide) (by decide) (by decide)
      (by decide) (by decide) (by decide)).mpr (by decide)⟩

/-- Three query heads on two key heads read past the block of one token, through the filter's
checks; one query head on two key heads divides by zero in the daemon. -/
theorem uneven_heads_leave_block :
    instorageTopkFilterGqaAvx2 rationalOps (ptrOf [1, 1, 1]) [ptrOf [1, 1]] [1] 1 3 2 1 1 1 =
        none ∧
      ¬ (computeBlockScoreGqaAvx2 rationalOps (ptrOf [1, 1, 1]) (ptrOf [1, 1]) 1 3 2 1 1).isSome ∧
      ¬ (Nvme.blockScore rationalOps [1] (ptrOf [1, 1]) 1 1 2 1 1).isSome := by
  decide +kernel

end AiSsd.NativeKernel
