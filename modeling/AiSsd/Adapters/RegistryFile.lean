import AiSsd.Adapters.Registry

/-!
# What a save leaves of the file

A save that writes its whole document keeps every other model, and the file holds the new
entry. The file is truncated before that, so a document that stops early leaves a text that
does not read, and with it all custom models are gone.
-/

namespace AiSsd.Adapters

open Lib Doc

/-! ## The document of a save -/

def savedFields (file : Option (List (Token JsonAtom))) : List (String × Doc JsonAtom) :=
  match file.bind readDoc with
  | some (.dict fields) => fields
  | _ => []

def savedDocument (file : Option (List (Token JsonAtom))) (modelKey : String)
    (entry : Dict String PyVal) : PyVal :=
  .dict (Dict.assign modelKey (.dict (entryCopy entry)) (mapFields PyAtom.json (savedFields file)))

def Serialisable (entry : Dict String PyVal) : Prop :=
  (imageFields PyAtom.written [] (entryCopy entry)).isSome

section Save

variable {file : Option (List (Token JsonAtom))} {modelKey : String} {entry : Dict String PyVal}
  {models : Dict String PyVal}

theorem wellKeyed_savedFields (file : Option (List (Token JsonAtom))) :
    WellKeyed (.dict (savedFields file)) := by
  unfold savedFields
  split
  · rename_i fields hread
    obtain ⟨text, -, htext⟩ := Option.bind_eq_some_iff.mp hread
    exact wellKeyed_readDoc htext
  · exact .dict (by simp) (by simp)

theorem nodup_savedFields (file : Option (List (Token JsonAtom))) :
    ((savedFields file).map Prod.fst).Nodup := by
  cases wellKeyed_savedFields file with
  | dict hkeys _ => exact hkeys

theorem keys_readEntries {fields : List (String × Doc JsonAtom)} {es : List (String × PyVal)}
    (h : readEntries fields = .ok es) : es.map Prod.fst = fields.map Prod.fst := by
  refine (map_of_mapM_eq_ok (P := fun _ => True) h fun e _ y hy => ?_).1
  cases hentry : readEntry (e.2.map PyAtom.json) with
  | error err =>
      rw [hentry] at hy
      cases hy
  | ok v =>
      rw [hentry] at hy
      cases hy
      exact ⟨rfl, trivial⟩

theorem readModels_of_readDoc {text : List (Token JsonAtom)}
    {fields : List (String × Doc JsonAtom)} (hread : readDoc text = some (.dict fields))
    (hentries : readEntries fields = .ok models.entries) :
    readModels (some text) = .ok models := by
  have hkeys : (models.entries.map Prod.fst).Nodup := models.nodup
  simp only [readModels, hread, hentries]
  exact congrArg Except.ok (Dict.eq_of_entries (Dict.entries_setEach hkeys))

theorem saved_of_readModels (h : readModels file = .ok models) :
    currentModels file = .dict (mapFields PyAtom.json (savedFields file)) ∧
      readEntries (savedFields file) = .ok models.entries := by
  have hnodup := nodup_savedFields file
  unfold readModels at h
  split at h
  · cases h
    exact ⟨rfl, rfl⟩
  · rename_i text
    split at h
    · rename_i fields hread
      have hfields : savedFields (some text) = fields := by simp [savedFields, hread]
      rw [hfields] at hnodup ⊢
      cases hentries : readEntries fields with
      | error err =>
          rw [hentries] at h
          cases h
      | ok es =>
          rw [hentries] at h
          cases h
          refine ⟨by simp [currentModels, hread, Doc.map], ?_⟩
          rw [Dict.entries_setEach (by rw [keys_readEntries hentries]; exact hnodup)]
    · cases h
    · cases h

def Rereads (e : String × PyVal) (w : String × Doc JsonAtom) : Prop :=
  e.1 = w.1 ∧ image PyAtom.written e.2 = some w.2

/-- The whole document reads back as the models of the file with the entry bound anew. -/
theorem image_savedDocument : image PyAtom.written (savedDocument file modelKey entry) =
    (imageFields PyAtom.written [] (entryCopy entry)).map fun c =>
      .dict (Dict.assign modelKey (.dict c) (savedFields file)) := by
  rw [savedDocument, image]
  cases hcopy : imageFields PyAtom.written [] (entryCopy entry) with
  | none =>
      rw [imageFields_eq_none (e := (modelKey, .dict (entryCopy entry)))
        (Dict.mem_assign_self modelKey _ _) (by rw [image, hcopy]; rfl)]
      rfl
  | some c =>
      have hold : List.Forall₂ Rereads (mapFields PyAtom.json (savedFields file))
          (savedFields file) := by
        rw [mapFields_eq, List.forall₂_map_left_iff, List.forall₂_same]
        cases wellKeyed_savedFields file with
        | dict _ hfields =>
            exact fun e he => ⟨rfl, image_map (g := PyAtom.json) (fun _ => rfl) (hfields e he)⟩
      have hvalue : Rereads (modelKey, .dict (entryCopy entry)) (modelKey, .dict c) := by
        refine ⟨rfl, ?_⟩
        rw [image, hcopy]
        rfl
      have hnew := Dict.forall₂_assign (fun _ _ h => h.1) hold hvalue
      rw [imageFields_of hnew [] (by
        simpa using Dict.nodup_assign modelKey (.dict c) (nodup_savedFields file))]
      rfl

/-! ## The entry itself -/

def storedEntry (entry : Dict String PyVal) : Option PyVal :=
  (imageFields PyAtom.written [] (entryCopy entry)).map fun c =>
    .dict (withLevel (mapFields PyAtom.json c))

/-- A file that read reads with the entry bound anew, once the whole document is there. -/
theorem readModels_saved (h : readModels file = .ok models) {c : List (String × Doc JsonAtom)}
    {text : List (Token JsonAtom)}
    (hread : readDoc text = some (.dict (Dict.assign modelKey (.dict c) (savedFields file)))) :
    readModels (some text) =
      .ok (models.set modelKey (.dict (withLevel (mapFields PyAtom.json c)))) := by
  apply readModels_of_readDoc hread
  have hold := mapM_eq_ok (saved_of_readModels h).2
  apply mapM_eq_ok_iff.mpr
  refine Dict.forall₂_assign (fun e e' he => ?_) hold ?_
  · cases hentry : readEntry (e.2.map PyAtom.json) with
    | error err =>
        rw [hentry] at he
        cases he
    | ok w =>
        rw [hentry] at he
        cases he
        rfl
  · rfl

/-! ## The save -/

theorem setItem_currentModels (hcurrent : currentModels file =
    .dict (mapFields PyAtom.json (savedFields file))) :
    setItem (currentModels file) modelKey (.dict (entryCopy entry)) =
      .ok (savedDocument file modelKey entry) := by
  rw [hcurrent]
  rfl

def Disk.taken (disk : Disk) (written : Nat) : Nat :=
  match disk with
  | .accepts | .refuses _ => written
  | .fills tokens _ => tokens

/-- The file is opened, and so truncated. -/
def Disk.Opens : Disk → Prop
  | .refuses _ => False
  | .accepts | .fills _ _ => True

variable {r : ModelRegistry} {disk : Disk}

/-- A save leaves the file alone, or leaves it with as much of the document as was written. -/
theorem file_saveCustomModel (hcurrent : currentModels r.file =
    .dict (mapFields PyAtom.json (savedFields r.file))) (hopens : disk.Opens) :
    (r.saveCustomModel modelKey entry disk).2.file =
      some (((savedDocument r.file modelKey entry).write PyAtom.written).1.take
        (disk.taken ((savedDocument r.file modelKey entry).write PyAtom.written).1.length)) := by
  unfold ModelRegistry.saveCustomModel
  rw [setItem_currentModels hcurrent]
  cases disk with
  | accepts =>
      dsimp only
      split <;> simp [Disk.taken]
  | refuses message => exact absurd hopens id
  | fills tokens message => rfl

abbrev dumped (file : Option (List (Token JsonAtom))) (modelKey : String)
    (entry : Dict String PyVal) : List (Token JsonAtom) × Bool :=
  (savedDocument file modelKey entry).write PyAtom.written

theorem dumped_complete :
    (dumped file modelKey entry).2 = true ↔ Serialisable entry := by
  rw [dumped, write_complete, image_savedDocument, Option.isSome_map]
  rfl

/-- A document that was written in full is in the file with the entry bound anew. -/
theorem readModels_dumped (h : readModels file = .ok models) (hentry : Serialisable entry) :
    ∃ v, storedEntry entry = some v ∧
      readModels (some (dumped file modelKey entry).1) = .ok (models.set modelKey v) := by
  obtain ⟨c, hc⟩ := Option.isSome_iff_exists.mp hentry
  refine ⟨.dict (withLevel (mapFields PyAtom.json c)), by rw [storedEntry, hc]; rfl, ?_⟩
  apply readModels_saved h
  apply readDoc_write
  rw [image_savedDocument, hc]
  rfl

theorem loadCustomModels_cut {n : Nat}
    (hcut : ¬ (Serialisable entry ∧ (dumped file modelKey entry).1.length ≤ n)) :
    loadCustomModels (some ((dumped file modelKey entry).1.take n)) = Dict.empty := by
  have hnone : readDoc ((dumped file modelKey entry).1.take n) = none := by
    rw [Option.eq_none_iff_forall_ne_some]
    intro w hread
    obtain ⟨hwhole, hlen⟩ := whole_of_readDoc_take hread
    exact hcut ⟨dumped_complete.mp hwhole, hlen⟩
  simp [loadCustomModels, readModels, hnone]

/-! ## What a save promises -/

/-- Every other model is still returned as it was, and the table in memory has taken on the entry
only if the file returns it. -/
structure SavesSafely (r : ModelRegistry) (modelKey : String) (entry : Dict String PyVal)
    (disk : Disk) (models : Dict String PyVal) : Prop where
  others : ∀ k, k ≠ modelKey → ∀ v, models.get? k = some v →
    (loadCustomModels (r.saveCustomModel modelKey entry disk).2.file).get? k = some v
  memory : (r.saveCustomModel modelKey entry disk).2.known.get? modelKey =
      some (.dict entry.entries) →
    r.known.get? modelKey = some (.dict entry.entries) ∨
      ∃ v, storedEntry entry = some v ∧
        (loadCustomModels (r.saveCustomModel modelKey entry disk).2.file).get? modelKey = some v

def WritesAll (r : ModelRegistry) (modelKey : String) (entry : Dict String PyVal)
    (disk : Disk) : Prop :=
  disk.Opens ∧ Serialisable entry ∧
    (dumped r.file modelKey entry).1.length ≤ disk.taken (dumped r.file modelKey entry).1.length

/-- After a whole document the file returns the old models and the new entry. -/
theorem load_of_writesAll (h : readModels r.file = .ok models)
    (hall : WritesAll r modelKey entry disk) :
    ∃ v, storedEntry entry = some v ∧
      loadCustomModels (r.saveCustomModel modelKey entry disk).2.file = models.set modelKey v := by
  obtain ⟨hopens, hentry, hlen⟩ := hall
  have hdumped : ∃ v, storedEntry entry = some v ∧
      readModels (some (dumped r.file modelKey entry).1) = .ok (models.set modelKey v) :=
    readModels_dumped h hentry
  obtain ⟨v, hv, hread⟩ := hdumped
  refine ⟨v, hv, ?_⟩
  rw [file_saveCustomModel (saved_of_readModels h).1 hopens, List.take_of_length_le hlen,
    loadCustomModels, hread]

/-- Only a save that returns touches the table in memory, and it has written all. -/
theorem known_saveCustomModel (h : readModels r.file = .ok models) :
    (r.saveCustomModel modelKey entry disk).2.known = r.known ∨
      WritesAll r modelKey entry disk := by
  unfold ModelRegistry.saveCustomModel
  rw [setItem_currentModels (saved_of_readModels h).1]
  cases disk with
  | accepts =>
      dsimp only
      split
      · rename_i hwhole
        exact .inr ⟨trivial, dumped_complete.mp hwhole, le_rfl⟩
      · exact .inl rfl
  | refuses message => exact .inl rfl
  | fills tokens message => exact .inl rfl

/-- A save keeps its promise exactly when there is no other model to lose, the file is not
opened, or the whole document gets to the file. -/
theorem savesSafely_iff (h : readModels r.file = .ok models) :
    SavesSafely r modelKey entry disk models ↔
      (∀ k, k ≠ modelKey → models.get? k = none) ∨ ¬ disk.Opens ∨
        WritesAll r modelKey entry disk := by
  have hmemory : (r.saveCustomModel modelKey entry disk).2.known.get? modelKey =
        some (.dict entry.entries) →
      r.known.get? modelKey = some (.dict entry.entries) ∨ ∃ v, storedEntry entry = some v ∧
        (loadCustomModels (r.saveCustomModel modelKey entry disk).2.file).get? modelKey =
          some v := by
    intro hknown
    have hsaved : (r.saveCustomModel modelKey entry disk).2.known = r.known ∨
        WritesAll r modelKey entry disk :=
      known_saveCustomModel h
    rcases hsaved with hsame | hall
    · rw [hsame] at hknown
      exact .inl hknown
    · obtain ⟨v, hv, hload⟩ := load_of_writesAll h hall
      exact .inr ⟨v, hv, by rw [hload, Dict.get?_set_self]⟩
  constructor
  · intro hsafe
    by_contra hnot
    simp only [not_or, not_forall, not_not] at hnot
    obtain ⟨⟨k, hk, hother⟩, hopens, hpart⟩ := hnot
    obtain ⟨v, hv⟩ := Option.ne_none_iff_exists'.mp hother
    have hkept := hsafe.others k hk v hv
    rw [file_saveCustomModel (saved_of_readModels h).1 hopens,
      loadCustomModels_cut fun hwhole => hpart ⟨hopens, hwhole⟩] at hkept
    cases hkept
  · intro hcases
    refine ⟨fun k hk v hv => ?_, hmemory⟩
    rcases hcases with hnone | hclosed | hall
    · rw [hnone k hk] at hv
      cases hv
    · have hfile : (r.saveCustomModel modelKey entry disk).2.file = r.file := by
        cases disk with
        | refuses message =>
            unfold ModelRegistry.saveCustomModel
            rw [setItem_currentModels (saved_of_readModels h).1]
        | accepts => exact absurd trivial hclosed
        | fills tokens message => exact absurd trivial hclosed
      rw [hfile, loadCustomModels, h]
      exact hv
    · obtain ⟨w, -, hload⟩ := load_of_writesAll h hall
      rw [hload, Dict.get?_set_of_ne _ _ (Ne.symm hk)]
      exact hv

def oneModelFile : List (Token JsonAtom) :=
  [.openDict, .key "first", .openDict, .key "model_id", .atom (.str "org/first"), .closeDict,
    .closeDict]

def oneModel : Dict String PyVal :=
  Dict.empty.set "first" (.dict [("model_id", PyVal.str "org/first")])

theorem savesSafely_second_model :
    SavesSafely ⟨some oneModelFile, KNOWN_MODELS⟩ "second"
      (Dict.empty.set "model_id" (PyVal.str "org/second")) .accepts oneModel :=
  (savesSafely_iff (r := ⟨some oneModelFile, KNOWN_MODELS⟩) rfl).mpr
    (.inr (.inr ⟨trivial, rfl, le_rfl⟩))

/-- An entry that holds an object JSON has no text for: the save raises, and the model that was
there is gone. -/
theorem object_entry_loses_models :
    let r : ModelRegistry := ⟨some oneModelFile, KNOWN_MODELS⟩
    let entry : Dict String PyVal := Dict.empty.set "tokenizer" (.atom .object)
    readModels r.file = .ok oneModel ∧
      (r.saveCustomModel "second" entry .accepts).1 = .error .typeError ∧
      (loadCustomModels (r.saveCustomModel "second" entry .accepts).2.file).entries = [] ∧
      ¬ SavesSafely r "second" entry .accepts oneModel := by
  refine ⟨rfl, rfl, rfl, fun hsafe => ?_⟩
  have hkept := hsafe.others "first" (by decide) _ rfl
  cases hkept

end Save

end AiSsd.Adapters
