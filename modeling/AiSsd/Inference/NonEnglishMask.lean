import AiSsd.Inference.CausalLM
import AiSsd.Lib.Dict

/-!
# Suppressing scripts

`enforce_english` sets the logits of the tokens with a character of another script to `-inf`.
Which ids these are is kept for the life of the process under `id(tokenizer)`, so the mask of a
call is that of the first tokenizer with such tokens that was seen at its address.
-/

namespace AiSsd.Inference

open Lib

universe u

/-- The characters of `non_latin_pattern`: CJK, Hangul, Kana, Cyrillic, Arabic, Devanagari, Thai. -/
def nonLatin (c : Char) : Bool :=
  [(0x4e00, 0x9fff), (0x3400, 0x4dbf), (0x3040, 0x30ff), (0xac00, 0xd7af), (0x0400, 0x04ff),
    (0x0600, 0x06ff), (0x0900, 0x097f), (0x0e00, 0x0e7f)].any
    fun range => range.1 ≤ c.toNat && c.toNat ≤ range.2

/-- `id(tokenizer)` and its vocabulary. -/
structure Tokenizer where
  objectId : Nat
  vocab : List (String × Nat)

def Tokenizer.nonEnglishIds (t : Tokenizer) : List Nat :=
  (t.vocab.filter fun entry => entry.1.toList.any nonLatin).map Prod.snd

theorem Tokenizer.mem_nonEnglishIds {t : Tokenizer} {i : Nat} :
    i ∈ t.nonEnglishIds ↔ ∃ text, (text, i) ∈ t.vocab ∧ text.toList.any nonLatin := by
  simp only [nonEnglishIds, List.mem_map, List.mem_filter, Prod.exists, exists_eq_right]

/-- `_NON_ENGLISH_MASK_CACHE`. -/
abbrev MaskCache := Dict Nat (List Nat)

/-- The mask, and the cache with it. A vocabulary that needs no mask leaves none there. -/
def getNonEnglishTokenIds (masks : MaskCache) (tokenizer : Option Tokenizer) :
    Option (List Nat) × MaskCache :=
  match tokenizer with
  | none => (none, masks)
  | some t =>
      match masks.get? t.objectId with
      | some mask => (some mask, masks)
      | none =>
          if t.nonEnglishIds = [] then (none, masks)
          else (some t.nonEnglishIds, masks.set t.objectId t.nonEnglishIds)

def Suppressed (nonEnglishIds : Option (List Nat)) (i : Nat) : Prop :=
  ∃ ids, nonEnglishIds = some ids ∧ i ∈ ids

theorem getNonEnglishTokenIds_fst (masks : MaskCache) (t : Tokenizer) :
    (getNonEnglishTokenIds masks (some t)).1 =
      (getNonEnglishTokenIds masks (some t)).2.get? t.objectId := by
  cases hcached : masks.get? t.objectId with
  | some mask => simp only [getNonEnglishTokenIds, hcached]
  | none =>
      simp only [getNonEnglishTokenIds, hcached]
      split
      · exact hcached.symm
      · exact (Dict.get?_set_self _ _ _).symm

/-- A call caches the mask of its tokenizer unless its address has one. -/
theorem get?_getNonEnglishTokenIds (masks : MaskCache) (t : Tokenizer) (objectId : Nat) :
    (getNonEnglishTokenIds masks (some t)).2.get? objectId = (masks.get? objectId).or
      (if t.objectId = objectId ∧ t.nonEnglishIds ≠ [] then some t.nonEnglishIds else none) := by
  by_cases hid : t.objectId = objectId
  · subst hid
    cases hcached : masks.get? t.objectId with
    | some mask =>
        simp only [getNonEnglishTokenIds, hcached]
        rfl
    | none =>
        simp only [getNonEnglishTokenIds, hcached, Option.none_or, true_and]
        by_cases hids : t.nonEnglishIds = []
        · rw [if_pos hids, if_neg (not_not_intro hids), hcached]
        · rw [if_neg hids, if_pos hids, Dict.get?_set_self]
  · rw [if_neg fun h => hid h.1, Option.or_none]
    unfold getNonEnglishTokenIds
    dsimp only
    split
    · rfl
    · split
      · rfl
      · exact Dict.get?_set_of_ne _ _ hid

/-! ## The cache over the life of a process -/

def masksAfter (calls : List Tokenizer) : MaskCache :=
  calls.foldl (fun masks t => (getNonEnglishTokenIds masks (some t)).2) Dict.empty

def firstMasked (calls : List Tokenizer) (objectId : Nat) : Option Tokenizer :=
  calls.find? fun t => t.objectId = objectId ∧ t.nonEnglishIds ≠ []

theorem masksAfter_concat (calls : List Tokenizer) (t : Tokenizer) :
    masksAfter (calls ++ [t]) = (getNonEnglishTokenIds (masksAfter calls) (some t)).2 := by
  rw [masksAfter, List.foldl_concat, masksAfter]

theorem firstMasked_concat (calls : List Tokenizer) (t : Tokenizer) (objectId : Nat) :
    firstMasked (calls ++ [t]) objectId = (firstMasked calls objectId).or
      (if t.objectId = objectId ∧ t.nonEnglishIds ≠ [] then some t else none) := by
  rw [firstMasked, List.find?_append, List.find?_singleton, firstMasked]
  simp only [decide_eq_true_eq]

theorem get?_masksAfter (calls : List Tokenizer) (objectId : Nat) :
    (masksAfter calls).get? objectId =
      (firstMasked calls objectId).map Tokenizer.nonEnglishIds := by
  induction calls using List.reverseRecOn with
  | nil => rfl
  | append_singleton calls t ih =>
      rw [masksAfter_concat, get?_getNonEnglishTokenIds, ih, firstMasked_concat, Option.map_or]
      split <;> rfl

/-- A mask that suppresses the tokens of a vocabulary that have such a character. -/
def OwnMask (mask : Option (List Nat)) (t : Tokenizer) : Prop :=
  ∀ i, Suppressed mask i ↔ ∃ text, (text, i) ∈ t.vocab ∧ text.toList.any nonLatin

/-- An earlier tokenizer that leaves a later one its mask: one at another address, one that needs
no mask, or one that needs the same. -/
def LeavesMask (earlier t : Tokenizer) : Prop :=
  earlier.objectId = t.objectId → earlier.nonEnglishIds ≠ [] →
    ∀ i, i ∈ earlier.nonEnglishIds ↔ i ∈ t.nonEnglishIds

/-- The mask of a call is that of the first tokenizer seen at its address that needs one. -/
theorem ownMask_iff (calls : List Tokenizer) (t : Tokenizer) :
    OwnMask (getNonEnglishTokenIds (masksAfter calls) (some t)).1 t ↔
      ∀ earlier, firstMasked calls t.objectId = some earlier → LeavesMask earlier t := by
  have hmask : (getNonEnglishTokenIds (masksAfter calls) (some t)).1 =
      (firstMasked (calls ++ [t]) t.objectId).map Tokenizer.nonEnglishIds := by
    rw [getNonEnglishTokenIds_fst, ← masksAfter_concat, get?_masksAfter]
  rw [hmask, firstMasked_concat]
  simp only [OwnMask, Suppressed, ← Tokenizer.mem_nonEnglishIds]
  cases hfirst : firstMasked calls t.objectId with
  | some earlier =>
      have hearlier := List.find?_some hfirst
      simp only [decide_eq_true_eq] at hearlier
      simp [LeavesMask, hearlier.1, hearlier.2]
  | none =>
      by_cases hids : t.nonEnglishIds = []
      · simp [hids]
      · simp [hids]

theorem ownMask_of_leavesMask {calls : List Tokenizer} {t : Tokenizer}
    (h : ∀ earlier ∈ calls, LeavesMask earlier t) :
    OwnMask (getNonEnglishTokenIds (masksAfter calls) (some t)).1 t :=
  (ownMask_iff calls t).mpr fun _ hfirst => h _ (List.mem_of_find?_eq_some hfirst)

/-- Where each tokenizer leaves the later ones their masks, one that gets its own mask is left it
by all of them. -/
theorem leavesMask_of_ownMask {calls : List Tokenizer} (hcalls : calls.Pairwise LeavesMask)
    {t : Tokenizer} (h : OwnMask (getNonEnglishTokenIds (masksAfter calls) (some t)).1 t) :
    ∀ earlier ∈ calls, LeavesMask earlier t := by
  intro earlier hmem hid hids i
  cases hfirst : firstMasked calls t.objectId with
  | none =>
      have hunmasked := List.find?_eq_none.mp hfirst earlier hmem
      exact absurd (decide_eq_true ⟨hid, hids⟩) hunmasked
  | some first =>
      obtain ⟨hfirstMasked, before, after, rfl, hbefore⟩ := List.find?_eq_some_iff_append.mp hfirst
      obtain ⟨hfirstId, hfirstIds⟩ := of_decide_eq_true hfirstMasked
      have hown := (ownMask_iff _ t).mp h first hfirst hfirstId hfirstIds i
      rw [List.mem_append, List.mem_cons] at hmem
      rcases hmem with hlt | rfl | hgt
      · have hno := hbefore earlier hlt
        simp [hid, hids] at hno
      · exact hown
      · have hsame := (List.pairwise_cons.mp (List.pairwise_append.mp hcalls).2.1).1 earlier hgt
        rw [← hsame (hfirstId.trans hid.symm) hfirstIds i]
        exact hown

/-- Every call of a process answers with the mask of its own tokenizer exactly when every
tokenizer leaves the later ones their masks. -/
theorem masks_own_iff (calls : List Tokenizer) :
    (∀ before t after, calls = before ++ t :: after →
        OwnMask (getNonEnglishTokenIds (masksAfter before) (some t)).1 t) ↔
      calls.Pairwise LeavesMask := by
  constructor
  · intro hown
    induction calls using List.reverseRecOn with
    | nil => exact List.Pairwise.nil
    | append_singleton calls t ih =>
        have hcalls := ih fun before u after heq =>
          hown before u (after ++ [t]) (by rw [heq, List.append_assoc, List.cons_append])
        refine List.pairwise_append.mpr ⟨hcalls, List.pairwise_singleton _ _, ?_⟩
        intro earlier hmem u hu
        rw [List.mem_singleton.mp hu]
        exact leavesMask_of_ownMask hcalls (hown calls t [] rfl) earlier hmem
  · rintro hcalls before t after rfl
    exact ownMask_of_leavesMask fun earlier hmem =>
      (List.pairwise_append.mp hcalls).2.2 earlier hmem t (List.mem_cons_self ..)

/-- A tokenizer that gained a Cyrillic token after its first call keeps its first mask. -/
example : (getNonEnglishTokenIds (masksAfter [⟨0, [("я", 0)]⟩])
    (some ⟨0, [("я", 0), ("б", 1)]⟩)).1 = some [0] := by decide

/-! ## Filtering -/

section Filter

variable {α : Type u}

def filterLogitsForEnglish (logits : List (WithBot α)) (nonEnglishIds : Option (List Nat)) :
    List (WithBot α) :=
  match nonEnglishIds with
  | none => logits
  | some ids =>
      let validIds := ids.filter (· < logits.length)
      if validIds = [] then logits
      else logits.mapIdx fun i logit => if i ∈ validIds then ⊥ else logit

@[simp] theorem length_filterLogitsForEnglish (logits : List (WithBot α))
    (nonEnglishIds : Option (List Nat)) :
    (filterLogitsForEnglish logits nonEnglishIds).length = logits.length := by
  unfold filterLogitsForEnglish
  cases nonEnglishIds with
  | none => rfl
  | some ids =>
      dsimp only
      split
      · rfl
      · rw [List.length_mapIdx]

theorem getElem?_filterLogitsForEnglish {logits : List (WithBot α)} {logit : WithBot α}
    {nonEnglishIds : Option (List Nat)} {i : Nat} (hi : logits[i]? = some logit) :
    (Suppressed nonEnglishIds i →
        (filterLogitsForEnglish logits nonEnglishIds)[i]? = some ⊥) ∧
      (¬ Suppressed nonEnglishIds i →
        (filterLogitsForEnglish logits nonEnglishIds)[i]? = some logit) := by
  obtain ⟨hlt, -⟩ := List.getElem?_eq_some_iff.mp hi
  cases nonEnglishIds with
  | none => exact ⟨by rintro ⟨ids, ⟨⟩, -⟩, fun _ => hi⟩
  | some ids =>
      have hmem : i ∈ ids.filter (fun i => decide (i < logits.length)) ↔
          Suppressed (some ids) i := by
        simp [Suppressed, hlt]
      unfold filterLogitsForEnglish
      dsimp only
      split
      · rename_i hnone
        rw [hnone] at hmem
        exact ⟨fun hs => absurd (hmem.mpr hs) List.not_mem_nil, fun _ => hi⟩
      · rw [List.getElem?_mapIdx, hi]
        constructor
        · intro hs
          rw [Option.map_some, if_pos (hmem.mpr hs)]
        · intro hs
          rw [Option.map_some, if_neg fun hin => hs (hmem.mp hin)]

theorem argmax_filtered [LinearOrder α] {logits : List α} {nonEnglishIds : Option (List Nat)}
    {token : Nat}
    (h : argmax (filterLogitsForEnglish (logits.map WithBot.some) nonEnglishIds) = some token) :
    token < logits.length ∧
      (Suppressed nonEnglishIds token → ∀ i < logits.length, Suppressed nonEnglishIds i) := by
  obtain ⟨best, hbest, hmax⟩ := argmax_eq_some h
  have hlt : token < logits.length := by
    have := (List.getElem?_eq_some_iff.mp hbest).1
    simpa using this
  refine ⟨hlt, ?_⟩
  intro hsup i hi
  by_contra hfree
  have hlogit : ∀ j (hj : j < logits.length),
      (logits.map WithBot.some)[j]? = some (WithBot.some logits[j]) := by
    intro j hj
    rw [List.getElem?_map, List.getElem?_eq_getElem hj]
    rfl
  have hbot := (getElem?_filterLogitsForEnglish (hlogit token hlt)).1 hsup
  have hkept := (getElem?_filterLogitsForEnglish (hlogit i hi)).2 hfree
  cases hbest.symm.trans hbot
  -- a finite logit is not below `-inf`
  have hle := hmax _ (List.mem_of_getElem? hkept)
  exact WithBot.not_coe_le_bot _ hle

end Filter

end AiSsd.Inference
