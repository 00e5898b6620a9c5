import AiSsd.Adapters.RegistryFile

/-!
# Registering a model and detecting it

A detection looks its normalised key up in the table in memory and then in the file, and copies
the fields of what it finds, two of them excepted. What was registered comes back when those two
say nothing else than the defaults and when the lookup finds fields with the same values: right
away, and after a restart with the built-in table in front of the file.
-/

namespace AiSsd.Adapters

open Lib Doc

/-! ## Agreement -/

/-- The attributes of a configuration that are copied, by the field of the entry. -/
def copiedAttributes : List (String × (Descriptor.ModelArchitectureConfig → PyVal)) :=
  [("model_id", fun c => c.modelId),
    ("architecture", fun c => c.architecture),
    ("model_family", fun c => c.modelFamily),
    ("num_layers", fun c => c.numLayers),
    ("num_attention_heads", fun c => c.numAttentionHeads),
    ("num_key_value_heads", fun c => c.numKeyValueHeads),
    ("head_dim", fun c => c.headDim),
    ("hidden_size", fun c => c.hiddenSize),
    ("vocab_size", fun c => c.vocabSize),
    ("default_precision", fun c => c.defaultPrecision),
    ("supported_precisions", fun c => c.supportedPrecisions),
    ("supported_contexts", fun c => c.supportedContexts),
    ("attention_type", fun c => c.attentionType),
    ("compatibility_level", fun c => c.compatibilityLevel),
    ("compatibility_reason", fun c => c.compatibilityReason),
    ("sliding_window", fun c => c.slidingWindow),
    ("params", fun c => c.paramCount),
    ("expected_tokens_seed42", fun c => c.expectedTokensSeed42),
    ("dense_peak_rss_mb", fun c => c.densePeakRssMb)]

def defaultAttributes : List (String × (Descriptor.ModelArchitectureConfig → PyVal)) :=
  [("has_separable_kv_cache", fun c => PyVal.bool c.hasSeparableKvCache),
    ("layer_types", fun c =>
      match c.layerTypes with
      | none => PyVal.none
      | some types => PyVal.strs types)]

def Agrees (entry : Dict String PyVal) (config : Descriptor.ModelArchitectureConfig) : Prop :=
  ∀ a ∈ copiedAttributes ++ defaultAttributes, ∀ v, entry.get? a.1 = some v →
    PyVal.Equals (a.2 config) v

/-- A configuration comes back, and it agrees with the entry. -/
def Detects (entry : Dict String PyVal)
    (result : Except PyErr (Descriptor.ModelArchitectureConfig × PyVal × PyVal)) : Prop :=
  ∃ config level reason, result = .ok (config, level, reason) ∧ Agrees entry config

def Complete (entry : Dict String PyVal) : Prop :=
  ∀ name ∈ requiredFields, (entry.get? name).isSome

/-- The fields have all that a configuration needs, and the entry's values where it has any. -/
def Carries (entry : Dict String PyVal) (found : PyVal) : Prop :=
  ∃ fields, found = .dict fields ∧ (∀ name ∈ requiredFields, (Dict.lookup name fields).isSome) ∧
    ∀ name ∈ copiedAttributes.map Prod.fst, ∀ v, entry.get? name = some v →
      PyVal.Equals (fieldOf fields name) v

def SaysDefaults (entry : Dict String PyVal) : Prop :=
  (∀ v, entry.get? "has_separable_kv_cache" = some v → PyVal.Equals (PyVal.bool true) v) ∧
    ∀ v, entry.get? "layer_types" = some v → PyVal.Equals PyVal.none v

section Detection

variable {py : PyCase} {r : ModelRegistry} {modelKey : String} {entry : Dict String PyVal}

theorem copiedAttributes_configOf (fields : List (String × PyVal)) :
    ∀ a ∈ copiedAttributes, a.2 (configOf fields) = fieldOf fields a.1 := by
  simp [copiedAttributes, configOf]

theorem agrees_configOf (fields : List (String × PyVal)) :
    Agrees entry (configOf fields) ↔ SaysDefaults entry ∧
      ∀ name ∈ copiedAttributes.map Prod.fst, ∀ v, entry.get? name = some v →
        PyVal.Equals (fieldOf fields name) v := by
  rw [Agrees, List.forall_mem_append, and_comm, List.forall_mem_map]
  apply and_congr
  · simp [defaultAttributes, SaysDefaults, configOf]
  · constructor
    · intro h a ha v hv
      rw [← copiedAttributes_configOf fields a ha]
      exact h a ha v hv
    · intro h a ha v hv
      rw [copiedAttributes_configOf fields a ha]
      exact h a ha v hv

/-- A known model is detected in agreement with the entry when what is known carries it. -/
theorem detects_of_found {found : PyVal} (hf : AutoConfig)
    (hfound : r.listModels.get? (normKey py modelKey) = some found) :
    Detects entry (r.detectModelConfig py hf modelKey) ↔
      SaysDefaults entry ∧ Carries entry found := by
  unfold Detects ModelRegistry.detectModelConfig
  rw [hfound]
  dsimp only
  cases found with
  | atom a => simp [entryConfig, Carries, Except.map]
  | list items => simp [entryConfig, Carries, Except.map]
  | dict fields =>
      cases hmissing : requiredFields.find? fun name => (Dict.lookup name fields).isNone with
      | some name =>
          have hgone : ¬ ∀ name ∈ requiredFields, (Dict.lookup name fields).isSome := by
            intro hall
            have hname := List.find?_some hmissing
            have hsome := hall name (List.mem_of_find?_eq_some hmissing)
            simp_all
          simp [entryConfig, hmissing, Carries, Except.map, hgone]
      | none =>
          have hall : ∀ name ∈ requiredFields, (Dict.lookup name fields).isSome := by
            intro name hname
            simpa [Option.isSome_iff_ne_none] using List.find?_eq_none.mp hmissing name hname
          simp only [entryConfig, hmissing, Except.map, Except.ok.injEq, Prod.mk.injEq]
          constructor
          · rintro ⟨config, level, reason, ⟨rfl, rfl, rfl⟩, hagrees⟩
            obtain ⟨hdefaults, hfields⟩ := (agrees_configOf fields).mp hagrees
            exact ⟨hdefaults, fields, rfl, hall, hfields⟩
          · rintro ⟨hdefaults, fields', hsame, -, hfields⟩
            cases hsame
            exact ⟨_, _, _, ⟨rfl, rfl, rfl⟩, (agrees_configOf fields).mpr ⟨hdefaults, hfields⟩⟩

theorem inspectModel_error (err modelIdentifier key : String) :
    inspectModel (fun _ => .error err) modelIdentifier key = .error err := by
  unfold inspectModel
  dsimp only
  repeat' split
  all_goals rfl

/-- A model that is not known is detected in agreement with no complete entry, whatever the
network says: a failure is reported with its own reason. -/
theorem not_detects_of_missing (hcomplete : Complete entry)
    (hmissing : r.listModels.get? (normKey py modelKey) = none) :
    ¬ ∀ hf, Detects entry (r.detectModelConfig py hf modelKey) := by
  intro hall
  obtain ⟨v, hv⟩ := Option.isSome_iff_exists.mp
    (hcomplete "compatibility_reason" (by simp [requiredFields]))
  have hreason : ∀ err : String,
      PyVal.Equals (PyVal.str ("Failed to inspect configuration: " ++ err)) v := by
    intro err
    obtain ⟨config, level, reason, hdetect, hagrees⟩ := hall fun _ => .error err
    unfold ModelRegistry.detectModelConfig at hdetect
    rw [hmissing, inspectModel_error] at hdetect
    cases hdetect
    exact hagrees ("compatibility_reason", fun c => c.compatibilityReason)
      (by simp [copiedAttributes]) v hv
  have hsame := (hreason "a").trans (hreason "b").symm
  simp [PyVal.str, Doc.map, PyAtom.plain] at hsame

/-! ## An entry and its copies -/

/-- The value at a name is there in the other fields, up to `==`. -/
def Keeps (fields fields' : List (String × PyVal)) : Prop :=
  ∀ name v, Dict.lookup name fields = some v →
    ∃ v', Dict.lookup name fields' = some v' ∧ PyVal.Equals v' v

theorem Keeps.refl (fields : List (String × PyVal)) : Keeps fields fields :=
  fun _ v hv => ⟨v, hv, .refl v⟩

theorem Keeps.trans {fields fields' fields'' : List (String × PyVal)} (h : Keeps fields fields')
    (h' : Keeps fields' fields'') : Keeps fields fields'' := by
  intro name v hv
  obtain ⟨v', hv', heq⟩ := h name v hv
  obtain ⟨v'', hv'', heq'⟩ := h' name v' hv'
  exact ⟨v'', hv'', Eq.trans heq' heq⟩

theorem keeps_assign {fields : List (String × PyVal)} {name : String} {old value : PyVal}
    (hold : Dict.lookup name fields = some old) (hequal : PyVal.Equals value old) :
    Keeps fields (Dict.assign name value fields) := by
  intro other v hv
  rw [Dict.lookup_assign]
  by_cases hname : name = other
  · subst hname
    rw [hold] at hv
    cases hv
    exact ⟨value, if_pos rfl, hequal⟩
  · exact ⟨v, by rw [if_neg hname, hv], .refl v⟩

theorem keeps_entryCopy (entry : Dict String PyVal) :
    Keeps entry.entries (entryCopy entry) := by
  unfold entryCopy
  split
  · rename_i member hlevel
    exact keeps_assign hlevel rfl
  · exact .refl _

theorem wellKeyed_entryCopy (hkeyed : WellKeyed (.dict entry.entries)) :
    WellKeyed (.dict (entryCopy entry)) := by
  unfold entryCopy
  split
  · cases hkeyed with
    | dict hnodup hfields =>
        apply WellKeyed.dict (Dict.nodup_assign _ _ hnodup)
        intro e he
        rcases Dict.mem_assign he with hnew | hold
        · rw [hnew]
          exact .atom _
        · exact hfields e hold
  · exact hkeyed

theorem value_of_ofValue? {s : String} {member : CompatibilityLevel}
    (h : CompatibilityLevel.ofValue? s = some member) : member.value = s := by
  unfold CompatibilityLevel.ofValue? at h
  split at h
  · cases h
    simp_all [CompatibilityLevel.value]
  · split at h
    · cases h
      simp_all [CompatibilityLevel.value]
    · split at h
      · cases h
        simp_all [CompatibilityLevel.value]
      · cases h

theorem keeps_withLevel (fields : List (String × PyVal)) : Keeps fields (withLevel fields) := by
  unfold withLevel
  split
  · rename_i s hlookup
    split
    · rename_i member hmember
      apply keeps_assign hlookup
      rw [← value_of_ofValue? hmember]
      rfl
    · exact .refl _
  · exact .refl _

theorem plain_of_written {a : PyAtom} {b : JsonAtom} (h : a.written = some b) :
    (PyAtom.json b).plain = a.plain := by
  cases a with
  | json b' =>
      cases h
      rfl
  | level member =>
      cases h
      rfl
  | object => cases h

theorem keeps_written {fields : List (String × PyVal)} {ws : List (String × Doc JsonAtom)}
    (hkeyed : WellKeyed (.dict fields)) (h : imageFields PyAtom.written [] fields = some ws) :
    Keeps fields (mapFields PyAtom.json ws) := by
  cases hkeyed with
  | dict hnodup hfields =>
      obtain ⟨ws', rfl, hall⟩ := forall₂_of_imageFields (by simpa using hnodup) h
      clear h hnodup
      intro name v hv
      rw [mapFields_eq]
      induction hall with
      | nil => cases hv
      | @cons e w fields ws hew _ ih =>
          obtain ⟨k, old⟩ := e
          obtain ⟨k', new⟩ := w
          obtain ⟨rfl, hnew⟩ := hew
          rw [List.forall_mem_cons] at hfields
          rw [Dict.lookup] at hv
          rw [List.map_cons, Dict.lookup]
          by_cases hk : k = name
          · rw [if_pos hk] at hv
            cases hv
            refine ⟨new.map PyAtom.json, if_pos hk, ?_⟩
            rw [PyVal.Equals, map_map]
            exact map_image (fun _ _ => plain_of_written) hfields.1 hnew
          · rw [if_neg hk] at hv
            simp only [if_neg hk]
            exact ih hfields.2 hv

theorem carries_of_keeps (hcomplete : Complete entry) {fields : List (String × PyVal)}
    (hkeeps : Keeps entry.entries fields) : Carries entry (.dict fields) := by
  refine ⟨fields, rfl, fun name hname => ?_, fun name _ v hv => ?_⟩
  · obtain ⟨v, hv⟩ := Option.isSome_iff_exists.mp (hcomplete name hname)
    obtain ⟨v', hv', -⟩ := hkeeps name v hv
    rw [hv']
    rfl
  · obtain ⟨v', hv', hequal⟩ := hkeeps name v hv
    rw [fieldOf, hv']
    exact hequal

/-! ## Registration -/

/-- The models that these entries of a file read as; none when one of them does not read. -/
def modelsOf (fields : List (String × Doc JsonAtom)) : Dict String PyVal :=
  match readEntries fields with
  | .ok es => Dict.empty.setEach es
  | .error _ => Dict.empty

theorem loadCustomModels_of_readDoc {text : List (Token JsonAtom)}
    {fields : List (String × Doc JsonAtom)} (hread : readDoc text = some (.dict fields)) :
    loadCustomModels (some text) = modelsOf fields := by
  simp only [loadCustomModels, readModels, hread, modelsOf]
  cases readEntries fields <;> rfl

theorem currentModels_of_dict {file : Option (List (Token JsonAtom))}
    {fields : List (String × PyVal)} (h : currentModels file = .dict fields) :
    currentModels file = .dict (mapFields PyAtom.json (savedFields file)) := by
  unfold currentModels savedFields at *
  cases hdata : file.bind readDoc with
  | none => rfl
  | some data =>
      rw [hdata] at h
      cases data with
      | dict fields => rfl
      | atom a => simp [Doc.map] at h
      | list items => simp [Doc.map] at h

/-- A registration that returns has put the entry into the table, and its text into the file. -/
theorem registered {disk : Disk} (h : (r.registerModelEntry modelKey entry disk).1 = .ok ()) :
    (r.registerModelEntry modelKey entry disk).2.known =
        r.known.set modelKey (.dict entry.entries) ∧
      ∃ c, imageFields PyAtom.written [] (entryCopy entry) = some c ∧
        loadCustomModels (r.registerModelEntry modelKey entry disk).2.file =
          modelsOf (Dict.assign modelKey (.dict c) (savedFields r.file)) := by
  unfold ModelRegistry.registerModelEntry ModelRegistry.saveCustomModel at *
  -- only into a dictionary can an entry be put
  obtain ⟨fields, hcurrent⟩ : ∃ fields, currentModels r.file = .dict fields := by
    cases hdata : currentModels r.file with
    | atom a => simp [hdata, setItem] at h
    | list items => simp [hdata, setItem] at h
    | dict fields => exact ⟨fields, rfl⟩
  rw [setItem_currentModels (currentModels_of_dict hcurrent)] at h ⊢
  cases disk with
  | refuses message => simp at h
  | fills tokens message => simp at h
  | accepts =>
      dsimp only at h ⊢
      split at h
      · rename_i hwhole
        obtain ⟨c, hc⟩ := Option.isSome_iff_exists.mp (dumped_complete.mp hwhole)
        rw [if_pos hwhole]
        refine ⟨rfl, c, hc, loadCustomModels_of_readDoc ?_⟩
        apply readDoc_write
        rw [image_savedDocument, hc]
        rfl
      · cases h

def Reads (e : String × Doc JsonAtom) (w : String × PyVal) : Prop :=
  e.1 = w.1 ∧ readEntry (e.2.map PyAtom.json) = .ok w.2

theorem readEntries_eq_ok_iff {fields : List (String × Doc JsonAtom)}
    {es : List (String × PyVal)} : readEntries fields = .ok es ↔ List.Forall₂ Reads fields es := by
  rw [readEntries, mapM_eq_ok_iff]
  apply iff_of_eq
  congr 1
  funext e w
  rw [Reads, eq_iff_iff]
  cases readEntry (e.2.map PyAtom.json) with
  | error err => simp [Except.map]
  | ok v => simp [Except.map, Prod.ext_iff]

theorem exists_forall₂_reads {fields : List (String × Doc JsonAtom)} :
    (∃ es, List.Forall₂ Reads fields es) ↔
      ∀ e ∈ fields, ∃ v, readEntry (e.2.map PyAtom.json) = .ok v := by
  induction fields with
  | nil => simp
  | cons e fields ih =>
      simp only [List.forall₂_cons_left_iff, List.forall_mem_cons, ← ih]
      constructor
      · rintro ⟨es, w, ws, he, hfields, -⟩
        exact ⟨⟨w.2, he.2⟩, ws, hfields⟩
      · rintro ⟨⟨v, hv⟩, ws, hfields⟩
        exact ⟨(e.1, v) :: ws, (e.1, v), ws, ⟨rfl, hv⟩, hfields, rfl⟩

theorem lookup_reads {fields : List (String × Doc JsonAtom)} {es : List (String × PyVal)}
    (h : List.Forall₂ Reads fields es) (key : String) (found : PyVal) :
    Dict.lookup key es = some found ↔ ∃ v, Dict.lookup key fields = some v ∧
      readEntry (v.map PyAtom.json) = .ok found := by
  induction h with
  | nil => simp [Dict.lookup]
  | @cons e w fields es hread _ ih =>
      obtain ⟨k, v⟩ := e
      obtain ⟨k', v'⟩ := w
      obtain ⟨rfl, hv⟩ := hread
      dsimp only at hv
      rw [Dict.lookup, Dict.lookup]
      by_cases hk : k = key
      · simp [hk, hv]
      · simp [hk, ih]

theorem Reads.keys {fields : List (String × Doc JsonAtom)} {es : List (String × PyVal)}
    (h : List.Forall₂ Reads fields es) : es.map Prod.fst = fields.map Prod.fst :=
  keys_readEntries (readEntries_eq_ok_iff.mpr h)

/-- A file returns a model when all of its entries read, and then what the model reads as. -/
theorem get?_modelsOf {fields : List (String × Doc JsonAtom)}
    (hnodup : (fields.map Prod.fst).Nodup) (key : String) (found : PyVal) :
    (modelsOf fields).get? key = some found ↔
      (∀ e ∈ fields, ∃ v, readEntry (e.2.map PyAtom.json) = .ok v) ∧
        ∃ v, Dict.lookup key fields = some v ∧ readEntry (v.map PyAtom.json) = .ok found := by
  rw [← exists_forall₂_reads, modelsOf]
  cases hentries : readEntries fields with
  | error err =>
      have hnone : ¬ ∃ es, List.Forall₂ Reads fields es := by
        rintro ⟨es, hes⟩
        rw [readEntries_eq_ok_iff.mpr hes] at hentries
        cases hentries
      simp [hnone, Dict.empty, Dict.get?, Dict.lookup]
  | ok es =>
      have hes := readEntries_eq_ok_iff.mp hentries
      have hkeys : (es.map Prod.fst).Nodup := by rwa [Reads.keys hes]
      dsimp only
      rw [Dict.get?, Dict.entries_setEach hkeys, lookup_reads hes]
      exact (and_iff_right ⟨es, hes⟩).symm

def OthersRead (r : ModelRegistry) (modelKey : String) : Prop :=
  ∀ e ∈ savedFields r.file, e.1 ≠ modelKey → ∃ v, readEntry (e.2.map PyAtom.json) = .ok v

/-- Behind a table, a model that carries the entry is found under the normalised key: in the table
if it has the key, else in the file, whose other entries all have to read. -/
inductive FoundBehind (py : PyCase) (r : ModelRegistry) (modelKey : String)
    (entry : Dict String PyVal) (table : Dict String PyVal) : Prop where
  | table {found : PyVal} (hfound : table.get? (normKey py modelKey) = some found)
      (hcarries : Carries entry found)
  | file (hfree : table.get? (normKey py modelKey) = none) (hothers : OthersRead r modelKey)
      (hfound : normKey py modelKey = modelKey ∨
        ∃ v found, Dict.lookup (normKey py modelKey) (savedFields r.file) = some v ∧
          readEntry (v.map PyAtom.json) = .ok found ∧ Carries entry found)

/-- The entry comes back: its two fields that are not copied say what the defaults say, its key is
the normalised one or shares it with a model that carries the same values, and so does the
built-in model where there is one. -/
structure Preserved (py : PyCase) (r : ModelRegistry) (modelKey : String)
    (entry : Dict String PyVal) : Prop where
  defaults : SaysDefaults entry
  here : normKey py modelKey = modelKey ∨ FoundBehind py r modelKey entry r.known
  restarted : FoundBehind py r modelKey entry KNOWN_MODELS

theorem get?_listModels (r : ModelRegistry) (key : String) :
    r.listModels.get? key = (r.known.get? key).or ((loadCustomModels r.file).get? key) :=
  Dict.get?_update _ _ key

/-- Whatever the network says, a detection agrees with the entry exactly when the entry says the
defaults and the lookup finds a model that carries its values. -/
theorem forall_detects_iff (hcomplete : Complete entry) {found : Option PyVal}
    (hfound : r.listModels.get? (normKey py modelKey) = found) :
    (∀ hf, Detects entry (r.detectModelConfig py hf modelKey)) ↔
      SaysDefaults entry ∧ ∃ v, found = some v ∧ Carries entry v := by
  cases found with
  | none => simp [not_detects_of_missing hcomplete hfound]
  | some v =>
      simp only [detects_of_found _ hfound, Option.some.injEq, exists_eq_left']
      exact forall_const AutoConfig

theorem carries_written (hcomplete : Complete entry) (hkeyed : WellKeyed (.dict entry.entries))
    {c : List (String × Doc JsonAtom)}
    (hc : imageFields PyAtom.written [] (entryCopy entry) = some c) :
    Carries entry (.dict (withLevel (mapFields PyAtom.json c))) := by
  apply carries_of_keeps hcomplete
  apply (keeps_entryCopy entry).trans
  apply (keeps_written (wellKeyed_entryCopy hkeyed) hc).trans
  apply keeps_withLevel

/-- A dictionary reads whatever it holds. -/
theorem readEntry_dict (c : List (String × Doc JsonAtom)) :
    readEntry (Doc.map PyAtom.json (.dict c)) =
      .ok (.dict (withLevel (mapFields PyAtom.json c))) := rfl

/-- The file returns a model that carries the entry under the entry's own key, or under another
one, when its other entries read. -/
theorem exists_carries_file_iff (hcomplete : Complete entry)
    (hkeyed : WellKeyed (.dict entry.entries)) {c : List (String × Doc JsonAtom)}
    (hc : imageFields PyAtom.written [] (entryCopy entry) = some c) (key : String) :
    (∃ found, (modelsOf (Dict.assign modelKey (.dict c) (savedFields r.file))).get? key =
        some found ∧ Carries entry found) ↔
      OthersRead r modelKey ∧ (key = modelKey ∨
        ∃ v found, Dict.lookup key (savedFields r.file) = some v ∧
          readEntry (v.map PyAtom.json) = .ok found ∧ Carries entry found) := by
  have hnodup := Dict.nodup_assign modelKey (.dict c) (nodup_savedFields r.file)
  have hreads : (∀ e ∈ Dict.assign modelKey (.dict c) (savedFields r.file),
      ∃ v, readEntry (e.2.map PyAtom.json) = .ok v) ↔ OthersRead r modelKey := by
    simp only [Dict.mem_assign_iff (nodup_savedFields r.file), or_imp, forall_and,
      forall_eq, and_imp, OthersRead]
    simp only [readEntry_dict, Except.ok.injEq, exists_eq', true_and]
    exact forall_congr' fun e => forall_comm
  simp only [get?_modelsOf hnodup, hreads, Dict.lookup_assign]
  by_cases hkey : key = modelKey
  · have hnew := carries_written hcomplete hkeyed hc
    simp only [hkey, if_true, Option.some.injEq, exists_eq_left', readEntry_dict, Except.ok.injEq]
    constructor
    · rintro ⟨found, ⟨hothers, -⟩, -⟩
      exact ⟨hothers, .inl trivial⟩
    · rintro ⟨hothers, -⟩
      exact ⟨_, ⟨hothers, rfl⟩, hnew⟩
  · simp only [hkey, Ne.symm hkey, if_false, false_or]
    constructor
    · rintro ⟨found, ⟨hothers, v, hv, hfound⟩, hcarries⟩
      exact ⟨hothers, v, found, hv, hfound, hcarries⟩
    · rintro ⟨hothers, v, found, hv, hfound, hcarries⟩
      exact ⟨found, ⟨hothers, v, hv, hfound⟩, hcarries⟩

theorem foundBehind_iff (hcomplete : Complete entry) (hkeyed : WellKeyed (.dict entry.entries))
    {c : List (String × Doc JsonAtom)}
    (hc : imageFields PyAtom.written [] (entryCopy entry) = some c) (table : Dict String PyVal) :
    (∃ found, (table.get? (normKey py modelKey)).or
        ((modelsOf (Dict.assign modelKey (.dict c) (savedFields r.file))).get?
          (normKey py modelKey)) = some found ∧ Carries entry found) ↔
      FoundBehind py r modelKey entry table := by
  cases hlookup : table.get? (normKey py modelKey) with
  | some found =>
      simp only [Option.some_or, Option.some.injEq, exists_eq_left']
      constructor
      · exact .table hlookup
      · intro h
        cases h with
        | table hfound hcarries =>
            rw [hlookup] at hfound
            cases hfound
            exact hcarries
        | file hfree => simp [hlookup] at hfree
  | none =>
      rw [Option.none_or, exists_carries_file_iff hcomplete hkeyed hc]
      constructor
      · rintro ⟨hothers, hfound⟩
        exact .file hlookup hothers hfound
      · intro h
        cases h with
        | table hfound => simp [hlookup] at hfound
        | file _ hothers hfound => exact ⟨hothers, hfound⟩

/-- After a registration that returns, detection agrees with the entry in this process and in the
next one exactly when the entry is preserved. -/
theorem register_round_trip_iff {disk : Disk} (hcomplete : Complete entry)
    (hkeyed : WellKeyed (.dict entry.entries))
    (hreg : (r.registerModelEntry modelKey entry disk).1 = .ok ()) :
    ((∀ hf, Detects entry
        ((r.registerModelEntry modelKey entry disk).2.detectModelConfig py hf modelKey)) ∧
      ∀ hf, Detects entry
        ((r.registerModelEntry modelKey entry disk).2.restart.detectModelConfig py hf modelKey)) ↔
      Preserved py r modelKey entry := by
  obtain ⟨hknown, c, hc, hfile⟩ := registered hreg
  rw [forall_detects_iff hcomplete (get?_listModels _ _),
    forall_detects_iff hcomplete (get?_listModels _ _), ModelRegistry.restart, hknown, hfile]
  have hhere : (∃ found, ((r.known.set modelKey (.dict entry.entries)).get?
        (normKey py modelKey)).or ((modelsOf (Dict.assign modelKey (.dict c)
          (savedFields r.file))).get? (normKey py modelKey)) = some found ∧
            Carries entry found) ↔
      (normKey py modelKey = modelKey ∨ FoundBehind py r modelKey entry r.known) := by
    rw [← foundBehind_iff hcomplete hkeyed hc, Dict.get?_set]
    by_cases hkey : normKey py modelKey = modelKey
    · simp [hkey, carries_of_keeps hcomplete (.refl entry.entries)]
    · simp [hkey, Ne.symm hkey]
  rw [hhere, foundBehind_iff hcomplete hkeyed hc]
  constructor
  · rintro ⟨⟨hdefaults, hbehind⟩, -, hbehind'⟩
    exact ⟨hdefaults, hbehind, hbehind'⟩
  · intro h
    exact ⟨⟨h.defaults, h.here⟩, h.defaults, h.restarted⟩

/-- A key that is normalised already, and that the table leaves free. -/
theorem foundBehind_of_plain {table : Dict String PyVal} (hkey : normKey py modelKey = modelKey)
    (hfree : table.get? modelKey = none) (hothers : OthersRead r modelKey) :
    FoundBehind py r modelKey entry table :=
  .file (by rw [hkey, hfree]) hothers (.inl hkey)

end Detection

/-- The fields that a configuration needs, for a small model. -/
def smallModel : Dict String PyVal where
  entries := [
    ("model_id", .str "org/small"),
    ("architecture", .str "qwen2"),
    ("model_family", .str "transformer"),
    ("num_layers", .int 2),
    ("num_attention_heads", .int 4),
    ("num_key_value_heads", .int 2),
    ("head_dim", .int 8),
    ("hidden_size", .int 32),
    ("vocab_size", .int 100),
    ("default_precision", .str "fp16"),
    ("supported_precisions", .strs ["fp16"]),
    ("supported_contexts", .ints [512]),
    ("attention_type", .str "GQA"),
    ("compatibility_level", .level .full),
    ("compatibility_reason", .str "Validated")]
  nodup := by decide

theorem complete_smallModel : Complete smallModel := by
  unfold Complete
  decide +kernel

theorem wellKeyed_smallModel : WellKeyed (.dict smallModel.entries) := by
  apply WellKeyed.dict smallModel.nodup
  simp [smallModel, PyVal.str, PyVal.int, PyVal.strs, PyVal.ints, PyVal.level, WellKeyed.atom,
    WellKeyed.list]

def firstStart : ModelRegistry := ⟨none, KNOWN_MODELS⟩

theorem othersRead_firstStart (modelKey : String) : OthersRead firstStart modelKey :=
  fun e he => absurd he (by simp [savedFields, firstStart])

theorem register_round_trip_small :
    (∀ hf, Detects smallModel ((firstStart.registerModelEntry "small-2l" smallModel
        .accepts).2.detectModelConfig .ascii hf "small-2l")) ∧
      ∀ hf, Detects smallModel ((firstStart.registerModelEntry "small-2l" smallModel
        .accepts).2.restart.detectModelConfig .ascii hf "small-2l") := by
  have hplain : normKey .ascii "small-2l" = "small-2l" := by decide +kernel
  have hreg : (firstStart.registerModelEntry "small-2l" smallModel .accepts).1 = .ok () := by
    decide +kernel
  have hfree : KNOWN_MODELS.get? "small-2l" = none := by decide +kernel
  have hsep : smallModel.get? "has_separable_kv_cache" = none := by decide +kernel
  have htypes : smallModel.get? "layer_types" = none := by decide +kernel
  have hbehind : FoundBehind .ascii firstStart "small-2l" smallModel KNOWN_MODELS :=
    foundBehind_of_plain hplain hfree (othersRead_firstStart "small-2l")
  have hdefaults : SaysDefaults smallModel := by
    rw [SaysDefaults, hsep, htypes]
    simp
  exact (register_round_trip_iff complete_smallModel wellKeyed_smallModel hreg).mpr
    ⟨hdefaults, .inl hplain, hbehind⟩

/-- A small model whose first layer has no keys. -/
def smallHybrid : Dict String PyVal :=
  (smallModel.set "has_separable_kv_cache" (.bool false)).set "layer_types"
    (.strs ["ssm", "attention"])

theorem not_saysDefaults_smallHybrid : ¬ SaysDefaults smallHybrid := by
  intro h
  have hvalue := h.2 (.strs ["ssm", "attention"])
    (by rw [smallHybrid, Dict.get?_set_self])
  simp [PyVal.Equals, PyVal.none, PyVal.strs, Doc.map] at hvalue

/-- The layer types of a complete entry, and its separable cache that is not there, are lost
right away. -/
theorem layer_types_lost :
    Complete smallHybrid ∧
      (firstStart.registerModelEntry "small-2l" smallHybrid .accepts).1 = .ok () ∧
      ∀ hf, ¬ Detects smallHybrid ((firstStart.registerModelEntry "small-2l" smallHybrid
        .accepts).2.detectModelConfig .ascii hf "small-2l") := by
  have hplain : normKey .ascii "small-2l" = "small-2l" := by decide +kernel
  have hreg : (firstStart.registerModelEntry "small-2l" smallHybrid .accepts).1 = .ok () := by
    decide +kernel
  have hcomplete : Complete smallHybrid := by
    unfold Complete
    decide +kernel
  refine ⟨hcomplete, hreg, fun hf hdetects => ?_⟩
  have hknown := (registered hreg).1
  have hfound := get?_listModels (firstStart.registerModelEntry "small-2l" smallHybrid .accepts).2
    (normKey .ascii "small-2l")
  rw [hknown, hplain, Dict.get?_set_self, Option.some_or, ← hplain] at hfound
  exact not_saysDefaults_smallHybrid ((detects_of_found hf hfound).mp hdetects).1

end AiSsd.Adapters
