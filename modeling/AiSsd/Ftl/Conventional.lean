import AiSsd.Ftl.Tables
import AiSsd.Lib.Machine
import Mathlib.Data.List.Nodup

/-!
# Conventional allocation

`ConventionalFTL` hands out the pages of the drive one after another, page by page, block
by block, plane by plane, die by die and channel by channel, and raises when the last one
is gone. What has been handed out since the last reset is an initial run of the pages.
-/

namespace AiSsd.Ftl

open Lib

structure ConventionalFtl extends BaseFtl where
  linearCounter : Nat

namespace ConventionalFtl

def init : ConventionalFtl := ⟨BaseFtl.empty, 0⟩

variable (geo : FtlGeometry)

def capacityError (blockId : Int) : PyErr :=
  .runtimeErrorOf ("SSD capacity exceeded: cannot allocate block " ++ toString blockId ++ ". " ++
    "Total capacity " ++ toString geo.totalPages ++ " pages exhausted.")

def allocate (s : ConventionalFtl) (block : KVBlock) : Except PyErr Text × ConventionalFtl :=
  if s.linearCounter ≥ geo.totalPages then (.error (capacityError geo block.blockId), s)
  else
    let loc := (geo.unravel s.linearCounter).text
    (.ok loc,
      { toBaseFtl := s.toBaseFtl.recordMapping block.blockId loc
        linearCounter := s.linearCounter + 1 })

def reset : ConventionalFtl := ⟨BaseFtl.empty, 0⟩

/-! ## Runs -/

inductive Op where
  | allocate (block : KVBlock)
  | allocateBatch (blocks : List KVBlock)
  | reset

inductive Answer where
  | location (loc : Text)
  | locations (locs : Dict Int Text)
  | done

def step (s : ConventionalFtl) : Op → Except PyErr Answer × ConventionalFtl
  | .allocate block => let r := allocate geo s block; (r.1.map .location, r.2)
  | .allocateBatch blocks =>
      let r := allocateBatch (allocate geo) blocks Dict.empty s
      (r.1.map .locations, r.2)
  | .reset => (.ok .done, reset)

def machine : Machine ConventionalFtl Op (Except PyErr Answer) where
  step := step geo

def issued : ConventionalFtl → List KVBlock → List Text
  | _, [] => []
  | s, block :: blocks =>
      match allocate geo s block with
      | (.error _, _) => []
      | (.ok loc, s) => loc :: issued s blocks

/-- All locations handed out by a run since its last reset, batches included. -/
def handedOut : ConventionalFtl → List Text → List Op → List Text
  | _, handed, [] => handed
  | s, handed, .allocate block :: ops =>
      handedOut (step geo s (.allocate block)).2 (handed ++ issued geo s [block]) ops
  | s, handed, .allocateBatch blocks :: ops =>
      handedOut (step geo s (.allocateBatch blocks)).2 (handed ++ issued geo s blocks) ops
  | s, _, .reset :: ops => handedOut (step geo s .reset).2 [] ops

def firstPages (count : Nat) : List Text := (List.range count).map fun i => (geo.unravel i).text

variable {geo}

theorem firstPages_succ (count : Nat) :
    firstPages geo (count + 1) = firstPages geo count ++ [(geo.unravel count).text] := by
  rw [firstPages, List.range_succ, List.map_append]
  rfl

theorem mem_firstPages {count : Nat} {i : Nat} :
    (geo.unravel i).text ∈ firstPages geo count ↔ i < count := by
  unfold firstPages
  constructor
  · intro hmem
    obtain ⟨j, hj, htext⟩ := List.mem_map.mp hmem
    have hij := geo.unravel_injective (PhysicalLocation.text_injective htext)
    rw [← hij]
    exact List.mem_range.mp hj
  · intro hi
    exact List.mem_map.mpr ⟨i, List.mem_range.mpr hi, rfl⟩

theorem nodup_firstPages (count : Nat) : (firstPages geo count).Nodup :=
  List.nodup_range.map (PhysicalLocation.text_injective.comp geo.unravel_injective)

theorem all_mem_firstPages {count : Nat} :
    (∀ l : PhysicalLocation, l.Within geo → l.text ∈ firstPages geo count) ↔
      geo.totalPages ≤ count := by
  constructor
  · intro hall
    by_contra hlt
    have hpage := hall (geo.unravel count) (geo.unravel_within (Nat.lt_of_not_le hlt))
    exact absurd (mem_firstPages.mp hpage) (Nat.lt_irrefl count)
  · intro hle l hl
    have hidx := Nat.lt_of_lt_of_le (geo.ravel_lt hl) hle
    have hpage : (geo.unravel (geo.ravel l)).text ∈ firstPages geo count := mem_firstPages.mpr hidx
    rwa [geo.unravel_ravel hl] at hpage

/-- What has been handed out is an initial run of the pages, and all that is mapped. -/
structure Allocated (geo : FtlGeometry) (handed : List Text) (s : ConventionalFtl) : Prop where
  counter_le : s.linearCounter ≤ geo.totalPages
  handed_eq : handed = firstPages geo s.linearCounter
  inverse : s.Inverse
  mapped : ∀ b loc, s.translate b = some loc → loc ∈ handed

variable {handed : List Text} {s : ConventionalFtl}

theorem allocate_full (h : geo.totalPages ≤ s.linearCounter) (block : KVBlock) :
    allocate geo s block = (.error (capacityError geo block.blockId), s) := if_pos h

theorem allocate_room (h : s.linearCounter < geo.totalPages) (block : KVBlock) :
    allocate geo s block = (.ok (geo.unravel s.linearCounter).text,
      { toBaseFtl := s.toBaseFtl.recordMapping block.blockId (geo.unravel s.linearCounter).text
        linearCounter := s.linearCounter + 1 }) :=
  if_neg (Nat.not_le.mpr h)

theorem allocated_init : Allocated geo [] init where
  counter_le := Nat.zero_le _
  handed_eq := rfl
  inverse := BaseFtl.inverse_empty
  mapped := by
    intro b loc h
    cases h

/-- A page handed out is new, so recording it keeps the tables inverse. -/
theorem Allocated.record (h : Allocated geo handed s) (hroom : s.linearCounter < geo.totalPages)
    (block : KVBlock) :
    Allocated geo (handed ++ [(geo.unravel s.linearCounter).text])
      { toBaseFtl := s.toBaseFtl.recordMapping block.blockId (geo.unravel s.linearCounter).text
        linearCounter := s.linearCounter + 1 } where
  counter_le := hroom
  handed_eq := by
    dsimp only
    rw [firstPages_succ, h.handed_eq]
  inverse := by
    apply (BaseFtl.inverse_recordMapping_iff h.inverse _ _).mpr
    intro b _ hloc
    have hmem := h.mapped b _ hloc
    rw [h.handed_eq] at hmem
    exact absurd (mem_firstPages.mp hmem) (Nat.lt_irrefl _)
  mapped := by
    intro b loc hloc
    rw [BaseFtl.translate_recordMapping] at hloc
    split at hloc
    · cases hloc
      exact List.mem_append_right handed List.mem_cons_self
    · exact List.mem_append_left _ (h.mapped b loc hloc)

theorem Allocated.allocateBatch (h : Allocated geo handed s) (blocks : List KVBlock)
    (results : Dict Int Text) :
    Allocated geo (handed ++ issued geo s blocks)
      (Ftl.allocateBatch (allocate geo) blocks results s).2 := by
  induction blocks generalizing handed results s with
  | nil =>
      rw [issued, List.append_nil]
      exact h
  | cons block blocks ih =>
      by_cases hroom : s.linearCounter < geo.totalPages
      · have hnext := ih (h.record hroom block)
          (results.set block.blockId (geo.unravel s.linearCounter).text)
        simp only [issued, Ftl.allocateBatch, allocate_room hroom]
        rw [List.append_assoc] at hnext
        exact hnext
      · simp only [issued, Ftl.allocateBatch, allocate_full (Nat.not_lt.mp hroom), List.append_nil]
        exact h

theorem Allocated.allocate (h : Allocated geo handed s) (block : KVBlock) :
    Allocated geo (handed ++ issued geo s [block]) (allocate geo s block).2 := by
  have hone := h.allocateBatch [block] Dict.empty
  by_cases hroom : s.linearCounter < geo.totalPages
  · simpa only [Ftl.allocateBatch, allocate_room hroom] using hone
  · simpa only [Ftl.allocateBatch, allocate_full (Nat.not_lt.mp hroom)] using hone

theorem allocated_run (h : Allocated geo handed s) (ops : List Op) :
    Allocated geo (handedOut geo s handed ops) ((machine geo).exec s ops) := by
  induction ops generalizing handed s with
  | nil => exact h
  | cons op ops ih =>
      cases op with
      | allocate block => exact ih (h.allocate block)
      | allocateBatch blocks => exact ih (h.allocateBatch blocks Dict.empty)
      | reset => exact ih allocated_init

/-- What callers rely on, given the locations handed out since the last reset. -/
structure AllocatesOnce (geo : FtlGeometry) (handed : List Text) (s : ConventionalFtl) : Prop where
  inverse : s.Inverse
  mapped_within : ∀ b loc, s.translate b = some loc →
    ∃ l : PhysicalLocation, loc = l.text ∧ l.Within geo
  handed_within : ∀ loc ∈ handed, ∃ l : PhysicalLocation, loc = l.text ∧ l.Within geo
  nodup : handed.Nodup
  refuses_iff : ∀ block, (∃ err, (allocate geo s block).1 = .error err) ↔
    ∀ l : PhysicalLocation, l.Within geo → l.text ∈ handed
  refusal : ∀ block err, (allocate geo s block).1 = .error err →
    err = capacityError geo block.blockId ∧ (allocate geo s block).2 = s

theorem Allocated.allocatesOnce (h : Allocated geo handed s) : AllocatesOnce geo handed s := by
  have hwithin : ∀ loc ∈ handed, ∃ l : PhysicalLocation, loc = l.text ∧ l.Within geo := by
    intro loc hloc
    rw [h.handed_eq] at hloc
    obtain ⟨i, hi, rfl⟩ := List.mem_map.mp hloc
    exact ⟨geo.unravel i, rfl,
      geo.unravel_within (Nat.lt_of_lt_of_le (List.mem_range.mp hi) h.counter_le)⟩
  refine ⟨h.inverse, fun b loc hloc => hwithin loc (h.mapped b loc hloc), hwithin, ?_, ?_, ?_⟩
  · rw [h.handed_eq]
    exact nodup_firstPages _
  · intro block
    rw [h.handed_eq, all_mem_firstPages]
    constructor
    · rintro ⟨err, herr⟩
      by_contra hroom
      rw [allocate_room (Nat.lt_of_not_le hroom)] at herr
      cases herr
    · intro hfull
      exact ⟨_, congrArg Prod.fst (allocate_full hfull block)⟩
  · intro block err herr
    by_cases hroom : s.linearCounter < geo.totalPages
    · rw [allocate_room hroom] at herr
      cases herr
    · rw [allocate_full (Nat.not_lt.mp hroom)] at herr ⊢
      cases herr
      exact ⟨rfl, rfl⟩

variable (geo) in
/-- After any run of allocations, batches and resets the tables are inverse, every location
is a page of the drive, no page was handed out twice since the last reset, and allocation
is refused exactly when all pages are gone, with nothing changed. -/
theorem allocates_once (ops : List Op) :
    AllocatesOnce geo (handedOut geo init [] ops) ((machine geo).exec init ops) :=
  (allocated_run allocated_init ops).allocatesOnce

end ConventionalFtl

end AiSsd.Ftl
