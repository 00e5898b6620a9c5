import AiSsd.Ftl.Location
import AiSsd.Lib.Dict
import AiSsd.PyErr

/-!
# The tables of a flash translation layer

`BaseFTL` keeps a forward table from block ids to location texts and a reverse table
back. Recording a mapping first drops the reverse entry of the block's old location. The
tables are inverse to each other as long as no recorded location is another block's.
-/

namespace AiSsd.Ftl

open Lib

/-- What the translation layers read and set of a `KVBlock`. -/
structure KVBlock where
  blockId : Int
  layerId : Int
  tokenStart : Int
  tokenCount : Int
  kvHeadStart : Int
  storageTier : String
  physicalLocation : Option Text
deriving Repr, DecidableEq

structure BaseFtl where
  mappingTable : Dict Int Text
  reverseMap : Dict Text Int

namespace BaseFtl

def empty : BaseFtl := ⟨Dict.empty, Dict.empty⟩

def translate (t : BaseFtl) (blockId : Int) : Option Text := t.mappingTable.get? blockId

def reverseTranslate (t : BaseFtl) (physicalLoc : Text) : Option Int :=
  t.reverseMap.get? physicalLoc

def recordMapping (t : BaseFtl) (blockId : Int) (physicalLoc : Text) : BaseFtl :=
  let reverseMap :=
    match t.mappingTable.get? blockId with
    | some oldLoc => t.reverseMap.erase oldLoc
    | none => t.reverseMap
  { mappingTable := t.mappingTable.set blockId physicalLoc
    reverseMap := reverseMap.set physicalLoc blockId }

/-- The two tables are the same pairs, read both ways. -/
def Inverse (t : BaseFtl) : Prop :=
  ∀ b loc, t.translate b = some loc ↔ t.reverseTranslate loc = some b

theorem inverse_empty : empty.Inverse := by
  intro b loc
  constructor
  · intro h
    cases h
  · intro h
    cases h

/-- A block has one location in inverse tables, and a location one block. -/
theorem Inverse.unique {t : BaseFtl} (h : t.Inverse) {b b' : Int} {loc : Text}
    (hb : t.translate b = some loc) (hb' : t.translate b' = some loc) : b = b' := by
  have hrev := (h b loc).mp hb
  rw [(h b' loc).mp hb', Option.some.injEq] at hrev
  exact hrev.symm

theorem translate_recordMapping (t : BaseFtl) (blockId : Int) (loc : Text) (b : Int) :
    (t.recordMapping blockId loc).translate b =
      if blockId = b then some loc else t.translate b :=
  Dict.get?_set t.mappingTable blockId loc b

theorem reverseTranslate_recordMapping (t : BaseFtl) (blockId : Int) (loc l : Text) :
    (t.recordMapping blockId loc).reverseTranslate l =
      if loc = l then some blockId
      else if t.translate blockId = some l then none else t.reverseTranslate l := by
  unfold recordMapping reverseTranslate translate
  dsimp only
  rw [Dict.get?_set]
  by_cases hl : loc = l
  · rw [if_pos hl, if_pos hl]
  · rw [if_neg hl, if_neg hl]
    cases t.mappingTable.get? blockId with
    | none => rfl
    | some oldLoc =>
        dsimp only
        rw [Dict.get?_erase]
        simp only [Option.some.injEq]

/-- Recording keeps the tables inverse exactly when the location is no other block's. -/
theorem inverse_recordMapping_iff {t : BaseFtl} (h : t.Inverse) (blockId : Int) (loc : Text) :
    (t.recordMapping blockId loc).Inverse ↔
      ∀ b, b ≠ blockId → t.translate b ≠ some loc := by
  constructor
  · intro hnew b hb hloc
    apply hb
    refine hnew.unique (?_ : _ = some loc) ?_
    · rw [translate_recordMapping, if_neg (Ne.symm hb)]
      exact hloc
    · rw [translate_recordMapping, if_pos rfl]
  · intro hfree b l
    rw [translate_recordMapping, reverseTranslate_recordMapping]
    by_cases hb : blockId = b
    · subst hb
      rw [if_pos rfl]
      by_cases hl : loc = l
      · simp [hl]
      · rw [if_neg hl]
        constructor
        · intro hsome
          exact absurd (Option.some.inj hsome) hl
        · intro hrev
          split at hrev
          · cases hrev
          · rename_i hold
            exact absurd ((h blockId l).mpr hrev) hold
    · rw [if_neg hb]
      by_cases hl : loc = l
      · subst hl
        rw [if_pos rfl]
        constructor
        · intro hsome
          exact absurd hsome (hfree b (Ne.symm hb))
        · intro hsome
          exact absurd (Option.some.inj hsome) hb
      · rw [if_neg hl, h b l]
        by_cases hold : t.translate blockId = some l
        · rw [if_pos hold]
          constructor
          · intro hrev
            exact absurd (h.unique hold ((h b l).mpr hrev)) hb
          · intro hnone
            cases hnone
        · rw [if_neg hold]

end BaseFtl

/-- `allocate_batch`: `results[b.block_id] = self.allocate(b)` for each block. -/
def allocateBatch {τ : Type} (allocate : τ → KVBlock → Except PyErr Text × τ) :
    List KVBlock → Dict Int Text → τ → Except PyErr (Dict Int Text) × τ
  | [], results, s => (.ok results, s)
  | b :: blocks, results, s =>
      match allocate s b with
      | (.error err, s) => (.error err, s)
      | (.ok loc, s) => allocateBatch allocate blocks (results.set b.blockId loc) s

end AiSsd.Ftl
