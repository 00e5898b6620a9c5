import AiSsd.Lib.Dict
import Mathlib.Data.List.Forall2

/-!
# Documents as token streams

A document is written one token after another, and writing stops at the first atom that has
no written form. A reader keeps the containers it is inside of. What was written in full reads
back as the document, a repeated key bound once; what was cut short does not read at all,
because a container is still open.
-/

namespace Lib

universe u v

inductive Doc (α : Type u) where
  | atom (a : α)
  | list (items : List (Doc α))
  | dict (fields : List (String × Doc α))

/-- The tokens of a text. One that is not laid out as a document has `junk` in it. -/
inductive Token (β : Type u) where
  | atom (b : β)
  | key (name : String)
  | openList
  | closeList
  | openDict
  | closeDict
  | junk
deriving DecidableEq

namespace Doc

variable {α : Type u} {β : Type v}

/-! ## Every atom replaced -/

mutual

def map (f : α → β) : Doc α → Doc β
  | .atom a => .atom (f a)
  | .list items => .list (mapItems f items)
  | .dict fields => .dict (mapFields f fields)

def mapItems (f : α → β) : List (Doc α) → List (Doc β)
  | [] => []
  | v :: rest => map f v :: mapItems f rest

def mapFields (f : α → β) : List (String × Doc α) → List (String × Doc β)
  | [] => []
  | (k, v) :: rest => (k, map f v) :: mapFields f rest

end

theorem mapItems_eq (f : α → β) (items : List (Doc α)) : mapItems f items = items.map (map f) := by
  induction items with
  | nil => rfl
  | cons v rest ih => simp [mapItems, ih]

theorem mapFields_eq (f : α → β) (fields : List (String × Doc α)) :
    mapFields f fields = fields.map fun e => (e.1, map f e.2) := by
  induction fields with
  | nil => rfl
  | cons e rest ih => simp [mapFields, ih]

mutual

theorem map_map {γ : Type*} (f : α → β) (g : β → γ) : ∀ v : Doc α,
    map g (map f v) = map (fun a => g (f a)) v
  | .atom a => rfl
  | .list items => by simp only [map, mapItems_map f g items]
  | .dict fields => by simp only [map, mapFields_map f g fields]

theorem mapItems_map {γ : Type*} (f : α → β) (g : β → γ) : ∀ items : List (Doc α),
    mapItems g (mapItems f items) = mapItems (fun a => g (f a)) items
  | [] => rfl
  | v :: rest => by simp only [mapItems, map_map f g v, mapItems_map f g rest]

theorem mapFields_map {γ : Type*} (f : α → β) (g : β → γ) : ∀ fields : List (String × Doc α),
    mapFields g (mapFields f fields) = mapFields (fun a => g (f a)) fields
  | [] => rfl
  | (k, v) :: rest => by simp only [mapFields, map_map f g v, mapFields_map f g rest]

end

/-! ## Writing -/

variable (f : α → Option β)

mutual

/-- The tokens written, and whether that is the whole document. -/
def write : Doc α → List (Token β) × Bool
  | .atom a =>
      match f a with
      | none => ([], false)
      | some b => ([.atom b], true)
  | .list items =>
      let body := writeItems items
      (.openList :: (body.1 ++ if body.2 then [.closeList] else []), body.2)
  | .dict fields =>
      let body := writeFields fields
      (.openDict :: (body.1 ++ if body.2 then [.closeDict] else []), body.2)

def writeItems : List (Doc α) → List (Token β) × Bool
  | [] => ([], true)
  | v :: rest =>
      let head := write v
      if head.2 then (head.1 ++ (writeItems rest).1, (writeItems rest).2) else head

def writeFields : List (String × Doc α) → List (Token β) × Bool
  | [] => ([], true)
  | (k, v) :: rest =>
      let head := write v
      if head.2 then (.key k :: (head.1 ++ (writeFields rest).1), (writeFields rest).2)
      else (.key k :: head.1, false)

end

/-! ## What a document reads back as -/

mutual

/-- The document that reading back gives, when the whole document can be written. -/
def image : Doc α → Option (Doc β)
  | .atom a => (f a).map .atom
  | .list items => (imageItems items).map .list
  | .dict fields => (imageFields [] fields).map .dict

def imageItems : List (Doc α) → Option (List (Doc β))
  | [] => some []
  | v :: rest =>
      match image v, imageItems rest with
      | some w, some ws => some (w :: ws)
      | _, _ => none

/-- A key that comes again keeps its place and takes the new value. -/
def imageFields (done : List (String × Doc β)) :
    List (String × Doc α) → Option (List (String × Doc β))
  | [] => some done
  | (k, v) :: rest =>
      match image v with
      | none => none
      | some w => imageFields (Dict.assign k w done) rest

end

end Doc

/-! ## Reading -/

namespace Reader

variable {β : Type v}

/-- A container part way through: what it holds so far. -/
inductive Frame (β : Type v) where
  | list (done : List (Doc β))
  | dict (done : List (String × Doc β)) (name : Option String)

inductive Reading (β : Type v) where
  | inside (frames : List (Frame β))
  | finished (value : Doc β)

/-- A complete value goes to the innermost container. -/
def deliver (value : Doc β) : List (Frame β) → Option (Reading β)
  | [] => some (.finished value)
  | .list done :: frames => some (.inside (.list (done ++ [value]) :: frames))
  | .dict done (some k) :: frames =>
      some (.inside (.dict (Dict.assign k value done) none :: frames))
  | .dict _ none :: _ => none

def step : Reading β → Token β → Option (Reading β)
  | .finished _, _ => none
  | .inside frames, .atom b => deliver (.atom b) frames
  | .inside frames, .openList => some (.inside (.list [] :: frames))
  | .inside frames, .openDict => some (.inside (.dict [] none :: frames))
  | .inside (.list done :: frames), .closeList => deliver (.list done) frames
  | .inside (.dict done none :: frames), .closeDict => deliver (.dict done) frames
  | .inside (.dict done none :: frames), .key k => some (.inside (.dict done (some k) :: frames))
  | .inside _, _ => none

end Reader

open Reader in
def readDoc {β : Type v} (text : List (Token β)) : Option (Doc β) :=
  match text.foldlM step (.inside []) with
  | some (.finished value) => some value
  | _ => none

/-! ## What was written reads back -/

section RoundTrip

open Doc Reader

variable {α : Type u} {β : Type v} {f : α → Option β}

theorem foldlM_concat_eq {r r' : Reading β} {text : List (Token β)} (t : Token β)
    (h : text.foldlM step r = some r') : (text ++ [t]).foldlM step r = step r' t := by
  rw [List.foldlM_append, h]
  show List.foldlM step r' [t] = _
  rw [List.foldlM_cons]
  cases step r' t <;> rfl

mutual

/-- Writing goes through when there is something to read back, and the reader then delivers
it where it stands. -/
theorem write_image : ∀ (v : Doc α) (frames : List (Frame β)),
    match image f v with
    | none => (write f v).2 = false
    | some w => (write f v).2 = true ∧
        (write f v).1.foldlM step (.inside frames) = deliver w frames
  | .atom a, frames => by
      cases ha : f a with
      | none => simp [image, write, ha]
      | some b =>
          simp only [image, write, ha, Option.map_some, true_and, List.foldlM_cons, step]
          cases deliver (.atom b) frames <;> rfl
  | .list items, frames => by
      have hbody := writeItems_image items [] frames
      simp only [image, write]
      cases hitems : imageItems f items with
      | none =>
          rw [hitems] at hbody
          exact hbody
      | some ws =>
          rw [hitems] at hbody
          obtain ⟨hok, hread⟩ := hbody
          refine ⟨hok, ?_⟩
          rw [if_pos hok, List.foldlM_cons]
          exact foldlM_concat_eq .closeList hread
  | .dict fields, frames => by
      have hbody := writeFields_image fields [] frames
      simp only [image, write]
      cases hfields : imageFields f [] fields with
      | none =>
          rw [hfields] at hbody
          exact hbody
      | some ws =>
          rw [hfields] at hbody
          obtain ⟨hok, hread⟩ := hbody
          refine ⟨hok, ?_⟩
          rw [if_pos hok, List.foldlM_cons]
          exact foldlM_concat_eq .closeDict hread

theorem writeItems_image : ∀ (items : List (Doc α)) (done : List (Doc β))
    (frames : List (Frame β)),
    match imageItems f items with
    | none => (writeItems f items).2 = false
    | some ws => (writeItems f items).2 = true ∧
        (writeItems f items).1.foldlM step (.inside (.list done :: frames)) =
          some (.inside (.list (done ++ ws) :: frames))
  | [], done, frames => by
      simp [imageItems, writeItems]
  | v :: rest, done, frames => by
      have hhead := write_image v (.list done :: frames)
      simp only [imageItems, writeItems]
      cases hv : image f v with
      | none =>
          rw [hv] at hhead
          have hstop : (write f v).2 = false := hhead
          simp [hstop]
      | some w =>
          rw [hv] at hhead
          obtain ⟨hok, hread⟩ := hhead
          have hrest := writeItems_image rest (done ++ [w]) frames
          simp only [hok, if_true]
          cases hws : imageItems f rest with
          | none =>
              rw [hws] at hrest
              exact hrest
          | some ws =>
              rw [hws] at hrest
              refine ⟨hrest.1, ?_⟩
              rw [List.foldlM_append, hread]
              show List.foldlM step (.inside (.list (done ++ [w]) :: frames)) _ = _
              rw [hrest.2, List.append_assoc, List.singleton_append]

theorem writeFields_image : ∀ (fields : List (String × Doc α)) (done : List (String × Doc β))
    (frames : List (Frame β)),
    match imageFields f done fields with
    | none => (writeFields f fields).2 = false
    | some ws => (writeFields f fields).2 = true ∧
        (writeFields f fields).1.foldlM step (.inside (.dict done none :: frames)) =
          some (.inside (.dict ws none :: frames))
  | [], done, frames => by
      simp [imageFields, writeFields]
  | (k, v) :: rest, done, frames => by
      have hhead := write_image v (.dict done (some k) :: frames)
      simp only [imageFields, writeFields]
      cases hv : image f v with
      | none =>
          rw [hv] at hhead
          have hstop : (write f v).2 = false := hhead
          simp [hstop]
      | some w =>
          rw [hv] at hhead
          obtain ⟨hok, hread⟩ := hhead
          have hrest := writeFields_image rest (Dict.assign k w done) frames
          simp only [hok, if_true]
          cases hws : imageFields f (Dict.assign k w done) rest with
          | none =>
              rw [hws] at hrest
              exact hrest
          | some ws =>
              rw [hws] at hrest
              refine ⟨hrest.1, ?_⟩
              rw [List.foldlM_cons]
              show List.foldlM step (.inside (.dict done (some k) :: frames)) _ = _
              rw [List.foldlM_append, hread]
              show List.foldlM step (.inside (.dict (Dict.assign k w done) none :: frames)) _ = _
              exact hrest.2

end

theorem write_complete (v : Doc α) : (write f v).2 = (image f v).isSome := by
  have h := write_image (f := f) v []
  cases hv : image f v with
  | none =>
      rw [hv] at h
      simpa using h
  | some w =>
      rw [hv] at h
      simpa using h.1

theorem readDoc_write {v : Doc α} {w : Doc β} (h : image f v = some w) :
    readDoc (write f v).1 = some w := by
  have hread := write_image (f := f) v []
  rw [h] at hread
  rw [readDoc, hread.2]
  rfl

end RoundTrip

/-! ## Keys bound once -/

section Keys

open Doc Reader

variable {α : Type u} {β : Type v} {f : α → Option β}

/-- Every dictionary in the document binds a key at most once. -/
inductive WellKeyed : Doc β → Prop where
  | atom (b : β) : WellKeyed (.atom b)
  | list {items : List (Doc β)} (hitems : ∀ v ∈ items, WellKeyed v) : WellKeyed (.list items)
  | dict {fields : List (String × Doc β)} (hkeys : (fields.map Prod.fst).Nodup)
      (hfields : ∀ e ∈ fields, WellKeyed e.2) : WellKeyed (.dict fields)

theorem imageItems_of {items : List (Doc α)} {ws : List (Doc β)}
    (h : List.Forall₂ (fun v w => image f v = some w) items ws) :
    imageItems f items = some ws := by
  induction h with
  | nil => rfl
  | cons hv _ ih => simp [imageItems, hv, ih]

/-- Fields whose keys are all new come after the ones already there. -/
theorem imageFields_of {fields : List (String × Doc α)} {ws : List (String × Doc β)}
    (h : List.Forall₂ (fun e w => e.1 = w.1 ∧ image f e.2 = some w.2) fields ws)
    (done : List (String × Doc β)) (hkeys : ((done ++ ws).map Prod.fst).Nodup) :
    imageFields f done fields = some (done ++ ws) := by
  induction h generalizing done with
  | nil => simp [imageFields]
  | @cons e w fields ws hew _ ih =>
      obtain ⟨hkey, hvalue⟩ := hew
      have hnew : e.1 ∉ done.map Prod.fst := by
        rw [List.map_append, List.map_cons, List.nodup_append] at hkeys
        exact fun hmem => hkeys.2.2 e.1 hmem w.1 List.mem_cons_self hkey
      rw [imageFields, hvalue]
      dsimp only
      rw [Dict.assign_of_new hnew, hkey, ih (done ++ [(w.1, w.2)]) (by simpa using hkeys),
        List.append_assoc, List.singleton_append]

/-- One field that cannot be written keeps the rest from being read back. -/
theorem imageFields_eq_none {fields : List (String × Doc α)} {e : String × Doc α}
    (he : e ∈ fields) (hvalue : image f e.2 = none) (done : List (String × Doc β)) :
    imageFields f done fields = none := by
  induction fields generalizing done with
  | nil => cases he
  | cons head rest ih =>
      obtain ⟨k, v⟩ := head
      rw [imageFields]
      rcases List.mem_cons.mp he with rfl | hmem
      · rw [hvalue]
      · cases image f v with
        | none => rfl
        | some w => exact ih hmem _

theorem forall₂_of_imageItems {items : List (Doc α)} {ws : List (Doc β)}
    (h : imageItems f items = some ws) :
    List.Forall₂ (fun v w => image f v = some w) items ws := by
  induction items generalizing ws with
  | nil =>
      cases h
      exact .nil
  | cons v rest ih =>
      rw [imageItems] at h
      split at h
      · rename_i w ws' hv hrest
        cases h
        exact .cons hv (ih hrest)
      · cases h

theorem forall₂_of_imageFields {fields : List (String × Doc α)} {done ws : List (String × Doc β)}
    (hkeys : (done.map Prod.fst ++ fields.map Prod.fst).Nodup)
    (h : imageFields f done fields = some ws) :
    ∃ ws', ws = done ++ ws' ∧
      List.Forall₂ (fun e w => e.1 = w.1 ∧ image f e.2 = some w.2) fields ws' := by
  induction fields generalizing done with
  | nil =>
      cases h
      exact ⟨[], by simp, .nil⟩
  | cons e rest ih =>
      obtain ⟨k, v⟩ := e
      rw [imageFields] at h
      split at h
      · cases h
      · rename_i w hv
        have hnew : k ∉ done.map Prod.fst := by
          intro hmem
          rw [List.map_cons, List.nodup_append] at hkeys
          exact hkeys.2.2 k hmem k List.mem_cons_self rfl
        rw [Dict.assign_of_new hnew] at h
        obtain ⟨ws', rfl, hrest⟩ := ih (by simpa using hkeys) h
        exact ⟨(k, w) :: ws', by simp, .cons ⟨rfl, hv⟩ hrest⟩

theorem map_eq_of_forall₂ {ι κ γ : Type*} {R : ι → κ → Prop} {g : ι → γ} {k : κ → γ}
    {xs : List ι} {ys : List κ} (h : List.Forall₂ R xs ys)
    (hR : ∀ x ∈ xs, ∀ y, R x y → k y = g x) : ys.map k = xs.map g := by
  induction h with
  | nil => rfl
  | @cons x y xs ys hxy _ ih =>
      rw [List.map_cons, List.map_cons, hR x List.mem_cons_self y hxy,
        ih fun x' hx' => hR x' (List.mem_cons_of_mem x hx')]

/-- What an atom keeps when it is written, a document with keys bound once keeps. -/
theorem map_image {γ : Type*} {g : α → γ} {k : β → γ} (hatom : ∀ a b, f a = some b → k b = g a)
    {v : Doc α} (hkeyed : WellKeyed v) {w : Doc β} (h : image f v = some w) :
    map k w = map g v := by
  induction hkeyed generalizing w with
  | atom a =>
      obtain ⟨b, hb, rfl⟩ := Option.map_eq_some_iff.mp h
      simp [map, hatom a b hb]
  | list _ ih =>
      obtain ⟨ws, hws, rfl⟩ := Option.map_eq_some_iff.mp h
      simp only [map, mapItems_eq]
      congr 1
      exact map_eq_of_forall₂ (forall₂_of_imageItems hws) fun v hv w hvw => ih v hv hvw
  | dict hnodup _ ih =>
      obtain ⟨ws, hws, rfl⟩ := Option.map_eq_some_iff.mp h
      obtain ⟨ws', rfl, hall⟩ := forall₂_of_imageFields (by simpa using hnodup) hws
      simp only [map, mapFields_eq]
      congr 1
      apply map_eq_of_forall₂ hall
      intro e he w hew
      rw [hew.1, ih e he hew.2]

/-- A document that was read, its atoms replaced and written again, reads as it was. -/
theorem image_map {g : β → α} (hfg : ∀ b, f (g b) = some b) {w : Doc β} (h : WellKeyed w) :
    image f (map g w) = some w := by
  induction h with
  | atom b => simp [map, image, hfg]
  | @list items hitems ih =>
      have hall : List.Forall₂ (fun v w => image f v = some w) (items.map (map g)) items := by
        rw [List.forall₂_map_left_iff, List.forall₂_same]
        exact ih
      simp [map, image, mapItems_eq, imageItems_of hall]
  | @dict fields hkeys hfields ih =>
      have hall : List.Forall₂ (fun e w => e.1 = w.1 ∧ image f e.2 = some w.2)
          (fields.map fun e => (e.1, map g e.2)) fields := by
        rw [List.forall₂_map_left_iff, List.forall₂_same]
        exact fun e he => ⟨rfl, ih e he⟩
      simp [map, image, mapFields_eq, imageFields_of hall [] (by simpa using hkeys)]

/-- A container under construction is in order. -/
def Reader.Frame.WellKeyed : Frame β → Prop
  | .list done => ∀ v ∈ done, Lib.WellKeyed v
  | .dict done _ => (done.map Prod.fst).Nodup ∧ ∀ e ∈ done, Lib.WellKeyed e.2

def Reader.Reading.WellKeyed : Reading β → Prop
  | .inside frames => ∀ frame ∈ frames, Frame.WellKeyed frame
  | .finished value => Lib.WellKeyed value

theorem wellKeyed_deliver {value : Doc β} {frames : List (Frame β)} {r : Reading β}
    (hvalue : WellKeyed value) (hframes : ∀ frame ∈ frames, Frame.WellKeyed frame)
    (h : deliver value frames = some r) : Reading.WellKeyed r := by
  unfold deliver at h
  split at h
  · cases h
    exact hvalue
  · cases h
    rw [List.forall_mem_cons] at hframes
    refine List.forall_mem_cons.mpr ⟨?_, hframes.2⟩
    exact List.forall_mem_append.mpr ⟨hframes.1, by simpa using hvalue⟩
  · cases h
    rw [List.forall_mem_cons] at hframes
    obtain ⟨⟨hkeys, hdone⟩, hrest⟩ := hframes
    refine List.forall_mem_cons.mpr ⟨⟨Dict.nodup_assign _ _ hkeys, fun e he => ?_⟩, hrest⟩
    rcases Dict.mem_assign he with heq | hmem
    · rw [heq]
      exact hvalue
    · exact hdone e hmem
  · cases h

theorem wellKeyed_step {r r' : Reading β} {t : Token β} (hr : Reading.WellKeyed r)
    (h : step r t = some r') : Reading.WellKeyed r' := by
  unfold step at h
  split at h
  · cases h
  · exact wellKeyed_deliver (.atom _) hr h
  · cases h
    exact List.forall_mem_cons.mpr ⟨by simp [Frame.WellKeyed], hr⟩
  · cases h
    exact List.forall_mem_cons.mpr ⟨by simp [Frame.WellKeyed], hr⟩
  · obtain ⟨hdone, hrest⟩ := List.forall_mem_cons.mp hr
    exact wellKeyed_deliver (.list hdone) hrest h
  · obtain ⟨hdone, hrest⟩ := List.forall_mem_cons.mp hr
    exact wellKeyed_deliver (.dict hdone.1 hdone.2) hrest h
  · cases h
    obtain ⟨hdone, hrest⟩ := List.forall_mem_cons.mp hr
    exact List.forall_mem_cons.mpr ⟨hdone, hrest⟩
  · cases h

theorem wellKeyed_foldlM {text : List (Token β)} {r r' : Reading β} (hr : Reading.WellKeyed r)
    (h : text.foldlM step r = some r') : Reading.WellKeyed r' := by
  induction text generalizing r with
  | nil =>
      cases h
      exact hr
  | cons t text ih =>
      rw [List.foldlM_cons] at h
      obtain ⟨mid, hmid, hrest⟩ := Option.bind_eq_some_iff.mp h
      exact ih (wellKeyed_step hr hmid) hrest

/-- A reader binds the keys it finds, so no key comes twice in what it returns. -/
theorem wellKeyed_readDoc {text : List (Token β)} {v : Doc β} (h : readDoc text = some v) :
    WellKeyed v := by
  unfold readDoc at h
  split at h
  · rename_i value hread
    cases h
    exact wellKeyed_foldlM (r := .inside []) (by simp [Reading.WellKeyed]) hread
  · cases h

end Keys

/-! ## What is cut short does not read -/

section Truncation

open Doc Reader

variable {α : Type u} {β : Type v} {f : α → Option β}

def Token.isOpen : Token β → Bool
  | .openList | .openDict => true
  | _ => false

def Token.isClose : Token β → Bool
  | .closeList | .closeDict => true
  | _ => false

def opens (text : List (Token β)) : Nat := text.countP Token.isOpen

def closes (text : List (Token β)) : Nat := text.countP Token.isClose

@[simp] theorem opens_nil : opens ([] : List (Token β)) = 0 := rfl

@[simp] theorem closes_nil : closes ([] : List (Token β)) = 0 := rfl

@[simp] theorem opens_cons (t : Token β) (text : List (Token β)) :
    opens (t :: text) = opens text + t.isOpen.toNat := by
  cases h : t.isOpen <;> simp [opens, h]

@[simp] theorem closes_cons (t : Token β) (text : List (Token β)) :
    closes (t :: text) = closes text + t.isClose.toNat := by
  cases h : t.isClose <;> simp [closes, h]

@[simp] theorem opens_append (text text' : List (Token β)) :
    opens (text ++ text') = opens text + opens text' := List.countP_append

@[simp] theorem closes_append (text text' : List (Token β)) :
    closes (text ++ text') = closes text + closes text' := List.countP_append

def Reader.height : Reading β → Nat
  | .inside frames => frames.length
  | .finished _ => 0

theorem height_deliver {value : Doc β} {frames : List (Frame β)} {r : Reading β}
    (h : deliver value frames = some r) : height r = frames.length := by
  unfold deliver at h
  split at h
  · cases h
    rfl
  · cases h
    rfl
  · cases h
    rfl
  · cases h

theorem height_step {r r' : Reading β} {t : Token β} (h : step r t = some r') :
    height r' + t.isClose.toNat = height r + t.isOpen.toNat := by
  unfold step at h
  split at h
  · cases h
  · exact height_deliver h
  · cases h
    rfl
  · cases h
    rfl
  · rw [height_deliver h]
    rfl
  · rw [height_deliver h]
    rfl
  · cases h
    rfl
  · cases h

theorem height_foldlM {text : List (Token β)} {r r' : Reading β}
    (h : text.foldlM step r = some r') : height r' + closes text = height r + opens text := by
  induction text generalizing r with
  | nil =>
      cases h
      rfl
  | cons t text ih =>
      rw [List.foldlM_cons] at h
      obtain ⟨mid, hmid, hrest⟩ := Option.bind_eq_some_iff.mp h
      have hone := height_step hmid
      have hmany := ih hrest
      rw [opens_cons, closes_cons]
      omega

theorem closes_of_readDoc {text : List (Token β)} {v : Doc β} (h : readDoc text = some v) :
    closes text = opens text := by
  unfold readDoc at h
  split at h
  · rename_i value hread
    simpa [height] using height_foldlM hread
  · cases h

def Shallow (text : List (Token β)) : Prop := ∀ n, closes (text.take n) ≤ opens (text.take n)

@[simp] theorem shallow_nil : Shallow ([] : List (Token β)) := by
  simp [Shallow]

theorem Shallow.append {text text' : List (Token β)} (h : Shallow text) (h' : Shallow text') :
    Shallow (text ++ text') := by
  intro n
  have hleft := h n
  have hright := h' (n - text.length)
  rw [List.take_append, opens_append, closes_append]
  omega

theorem Shallow.cons {text : List (Token β)} (h : Shallow text) {t : Token β}
    (ht : t.isClose = false) : Shallow (t :: text) := by
  intro n
  cases n with
  | zero => simp
  | succ n =>
      have hrest := h n
      rw [List.take_succ_cons, opens_cons, closes_cons, ht, Bool.toNat_false]
      omega

/-- A closing token after a text behind an opening one: no start is too deep. -/
theorem Shallow.wrap {body tail : List (Token β)} (h : Shallow body) {first : Token β}
    (hopen : first.isOpen = true) (hclose : first.isClose = false) (htail : tail.length ≤ 1)
    (n : Nat) :
    closes ((first :: (body ++ tail)).take n) ≤ opens ((first :: (body ++ tail)).take n) := by
  cases n with
  | zero => simp
  | succ n =>
      have hbody := h n
      have hlast : closes (tail.take (n - body.length)) ≤ 1 :=
        List.countP_le_length.trans (by simp; omega)
      rw [List.take_succ_cons, List.take_append, opens_cons, closes_cons, opens_append,
        closes_append, hopen, hclose, Bool.toNat_true, Bool.toNat_false]
      omega

mutual

/-- What is written never closes more than it opened, and is even once it is whole. -/
theorem write_shallow : ∀ v : Doc α,
    Shallow (write f v).1 ∧ ((write f v).2 = true → closes (write f v).1 = opens (write f v).1)
  | .atom a => by
      cases ha : f a with
      | none => simp [write, ha]
      | some b =>
          refine ⟨?_, fun _ => ?_⟩
          · rw [write, ha]
            exact shallow_nil.cons rfl
          · rw [write, ha]
            rfl
  | .list items => by
      obtain ⟨hbody, heven⟩ := writeItems_shallow items
      simp only [write]
      refine ⟨hbody.wrap rfl rfl (by split <;> simp), fun hok => ?_⟩
      simp [hok, heven hok, Token.isOpen, Token.isClose]
  | .dict fields => by
      obtain ⟨hbody, heven⟩ := writeFields_shallow fields
      simp only [write]
      refine ⟨hbody.wrap rfl rfl (by split <;> simp), fun hok => ?_⟩
      simp [hok, heven hok, Token.isOpen, Token.isClose]

theorem writeItems_shallow : ∀ items : List (Doc α),
    Shallow (writeItems f items).1 ∧
      ((writeItems f items).2 = true →
        closes (writeItems f items).1 = opens (writeItems f items).1)
  | [] => by simp [writeItems]
  | v :: rest => by
      obtain ⟨hhead, hone⟩ := write_shallow v
      obtain ⟨hrest, hmany⟩ := writeItems_shallow rest
      cases hok : (write f v).2 with
      | false => simpa [writeItems, hok] using hhead
      | true =>
          simp only [writeItems, hok, if_true]
          refine ⟨hhead.append hrest, fun hwhole => ?_⟩
          have hleft := hone hok
          have hright := hmany hwhole
          rw [opens_append, closes_append]
          omega

theorem writeFields_shallow : ∀ fields : List (String × Doc α),
    Shallow (writeFields f fields).1 ∧
      ((writeFields f fields).2 = true →
        closes (writeFields f fields).1 = opens (writeFields f fields).1)
  | [] => by simp [writeFields]
  | (k, v) :: rest => by
      obtain ⟨hhead, hone⟩ := write_shallow v
      obtain ⟨hrest, hmany⟩ := writeFields_shallow rest
      cases hok : (write f v).2 with
      | false => simpa [writeFields, hok] using hhead.cons rfl
      | true =>
          simp only [writeFields, hok, if_true]
          refine ⟨(hhead.append hrest).cons rfl, fun hwhole => ?_⟩
          have hleft := hone hok
          have hright := hmany hwhole
          rw [opens_cons, closes_cons, opens_append, closes_append]
          simp only [Token.isOpen, Token.isClose]
          omega

end

theorem whole_of_readDoc_take {fields : List (String × Doc α)} {n : Nat} {w : Doc β}
    (h : readDoc ((write f (.dict fields)).1.take n) = some w) :
    (write f (.dict fields)).2 = true ∧ (write f (.dict fields)).1.length ≤ n := by
  by_contra hcut
  have hbody := (writeFields_shallow (f := f) fields).1
  have hstart : (write f (.dict fields)).1.take n =
      (Token.openDict :: (writeFields f fields).1).take n := by
    simp only [write] at hcut ⊢
    cases hok : (writeFields f fields).2 with
    | false => simp
    | true =>
        have hshort : n < (writeFields f fields).1.length + 2 := by
          simp [hok] at hcut
          omega
        rw [if_pos rfl, ← List.cons_append]
        exact List.take_append_of_le_length (by simp; omega)
  rw [hstart] at h
  have heven := closes_of_readDoc h
  cases n with
  | zero => simp [readDoc] at h
  | succ n =>
      have hprefix := hbody n
      rw [List.take_succ_cons, opens_cons, closes_cons] at heven
      simp only [Token.isOpen, Token.isClose, Bool.toNat_true, Bool.toNat_false] at heven
      omega

end Truncation

end Lib
