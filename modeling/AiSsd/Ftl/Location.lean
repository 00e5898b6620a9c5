import AiSsd.Lib.Digits
import Mathlib.Data.List.TakeWhile
import Mathlib.Tactic.Common

/-!
# Flash locations

A location travels as text, `ch<C>_die<D>_pl<P>_blk<B>_pg<G>`, and is parsed back by a
search that ignores case. Text here is the list of its characters. What is formatted
parses back to the same coordinates, so that two locations never share their text.
-/

namespace AiSsd.Ftl

open Lib

abbrev Text := List Char

structure PhysicalLocation where
  ch : Nat
  die : Nat
  pl : Nat
  blk : Nat
  pg : Nat
deriving Repr, DecidableEq

/-- A drive with at least one page. -/
structure FtlGeometry where
  channels : Nat
  diesPerChannel : Nat
  planesPerDie : Nat
  blocksPerPlane : Nat
  pagesPerBlock : Nat
  channels_pos : 0 < channels
  dies_pos : 0 < diesPerChannel
  planes_pos : 0 < planesPerDie
  blocks_pos : 0 < blocksPerPlane
  pages_pos : 0 < pagesPerBlock

namespace FtlGeometry

/-! The sizes of the default arrays pass the checks above. -/

theorem default_channels : 0 < 8 := by decide

theorem default_dies : 0 < 4 := by decide

theorem default_planes : 0 < 2 := by decide

theorem default_blocks : 0 < 64 := by decide

theorem default_pages : 0 < 128 := by decide

variable (geo : FtlGeometry)

def totalPages : Nat :=
  geo.channels * geo.diesPerChannel * geo.planesPerDie * geo.blocksPerPlane * geo.pagesPerBlock

end FtlGeometry

namespace PhysicalLocation

/-- All coordinates are coordinates of the drive. -/
def Within (loc : PhysicalLocation) (geo : FtlGeometry) : Prop :=
  loc.ch < geo.channels ∧ loc.die < geo.diesPerChannel ∧ loc.pl < geo.planesPerDie ∧
    loc.blk < geo.blocksPerPlane ∧ loc.pg < geo.pagesPerBlock

instance (loc : PhysicalLocation) (geo : FtlGeometry) : Decidable (loc.Within geo) := by
  unfold Within
  infer_instance

/-- `f"ch{ch}_die{die}_pl{pl}_blk{blk}_pg{pg}"`. -/
def text (loc : PhysicalLocation) : Text :=
  ['c', 'h'] ++ Nat.toDigits 10 loc.ch ++ ['_', 'd', 'i', 'e'] ++ Nat.toDigits 10 loc.die ++
    ['_', 'p', 'l'] ++ Nat.toDigits 10 loc.pl ++ ['_', 'b', 'l', 'k'] ++
    Nat.toDigits 10 loc.blk ++ ['_', 'p', 'g'] ++ Nat.toDigits 10 loc.pg

end PhysicalLocation

/-! ## Parsing -/

/-- The text after `word`, which is lower case and matched in any case. -/
def literal : Text → Text → Option Text
  | [], rest => some rest
  | _ :: _, [] => none
  | w :: word, c :: rest => if c.toLower = w then literal word rest else none

/-- `\d+` and what follows it. -/
def number (s : Text) : Option (Nat × Text) :=
  let digits := s.takeWhile Char.isDigit
  if digits = [] then none
  else some (Nat.ofDigitChars 10 digits 0, s.dropWhile Char.isDigit)

/-- `ch\d+_die\d+_pl(?:ane)?\d+_blk\d+_pg\d+` at the start of the text. No digit starts a
word of the pattern, so that a match never gives digits back. -/
def matchAddress (s : Text) : Option PhysicalLocation := do
  let (ch, s) ← number (← literal ['c', 'h'] s)
  let (die, s) ← number (← literal ['_', 'd', 'i', 'e'] s)
  let s ← literal ['_', 'p', 'l'] s
  let (pl, s) ← number ((literal ['a', 'n', 'e'] s).getD s)
  let (blk, s) ← number (← literal ['_', 'b', 'l', 'k'] s)
  let (pg, _) ← number (← literal ['_', 'p', 'g'] s)
  return { ch := ch, die := die, pl := pl, blk := blk, pg := pg }

/-- `ADDRESS_PATTERN.search`: the first match from the left. -/
def parsePhysicalLocation : Text → Option PhysicalLocation
  | [] => none
  | c :: rest =>
      match matchAddress (c :: rest) with
      | some loc => some loc
      | none => parsePhysicalLocation rest

theorem all_isDigit_toDigits (n : Nat) : ∀ c ∈ Nat.toDigits 10 n, c.isDigit = true :=
  fun _ hc => Nat.isDigit_of_mem_toDigits (by decide) (by decide) hc

theorem number_toDigits (n : Nat) {rest : Text} (hrest : rest.takeWhile Char.isDigit = []) :
    number (Nat.toDigits 10 n ++ rest) = some (n, rest) := by
  have htake : (Nat.toDigits 10 n ++ rest).takeWhile Char.isDigit = Nat.toDigits 10 n := by
    rw [List.takeWhile_append_of_pos (all_isDigit_toDigits n), hrest, List.append_nil]
  have hdrop : (Nat.toDigits 10 n ++ rest).dropWhile Char.isDigit = rest := by
    have hall := List.takeWhile_append_dropWhile (p := Char.isDigit)
      (l := Nat.toDigits 10 n ++ rest)
    rw [htake] at hall
    exact List.append_cancel_left hall
  simp only [number, htake, hdrop, if_neg Nat.toDigits_ne_nil, Nat.ofDigitChars_ten_toDigits]

theorem number_toDigits_end (n : Nat) : number (Nat.toDigits 10 n) = some (n, []) := by
  have h := @number_toDigits n [] rfl
  rwa [List.append_nil] at h

theorem literal_ane_toDigits (n : Nat) (rest : Text) :
    literal ['a', 'n', 'e'] (Nat.toDigits 10 n ++ rest) = none := by
  cases hd : Nat.toDigits 10 n with
  | nil => exact absurd hd Nat.toDigits_ne_nil
  | cons c cs =>
      have hc : c.isDigit = true := all_isDigit_toDigits n c (hd ▸ List.mem_cons_self)
      have hne : c.toLower ≠ 'a' := by
        intro heq
        have hlower : c.toLower = c := by
          unfold Char.toLower
          simp only [Char.isDigit, Bool.and_eq_true, decide_eq_true_eq] at hc
          rw [dif_neg]
          intro h
          have h1 := h.1
          have h2 := hc.2
          simp only [ge_iff_le, UInt32.le_iff_toNat_le] at h1 h2
          exact absurd (h1.trans h2) (by decide)
        rw [hlower] at heq
        subst heq
        exact absurd hc (by decide)
      simp only [List.cons_append, literal, if_neg hne]

theorem matchAddress_text (loc : PhysicalLocation) : matchAddress loc.text = some loc := by
  unfold matchAddress PhysicalLocation.text
  simp only [List.append_assoc, List.cons_append, List.nil_append]
  simp [literal, number_toDigits, number_toDigits_end, literal_ane_toDigits]

theorem parsePhysicalLocation_text (loc : PhysicalLocation) :
    parsePhysicalLocation loc.text = some loc := by
  have hmatch := matchAddress_text loc
  obtain ⟨c, rest, htext⟩ : ∃ c rest, loc.text = c :: rest := ⟨'c', _, rfl⟩
  rw [htext] at hmatch ⊢
  simp only [parsePhysicalLocation, hmatch]

theorem PhysicalLocation.text_injective : Function.Injective PhysicalLocation.text := by
  intro a b h
  have ha := parsePhysicalLocation_text a
  rw [h, parsePhysicalLocation_text b] at ha
  exact (Option.some.inj ha).symm

/-! ## The page of a linear index -/

namespace FtlGeometry

variable (geo : FtlGeometry)

/-- Page, block, plane and die of an index, lowest first; what is left is the channel. -/
def unravel (idx : Nat) : PhysicalLocation :=
  let pg := idx % geo.pagesPerBlock
  let idx := idx / geo.pagesPerBlock
  let blk := idx % geo.blocksPerPlane
  let idx := idx / geo.blocksPerPlane
  let pl := idx % geo.planesPerDie
  let idx := idx / geo.planesPerDie
  let die := idx % geo.diesPerChannel
  let ch := idx / geo.diesPerChannel
  { ch := ch, die := die, pl := pl, blk := blk, pg := pg }

def ravel (loc : PhysicalLocation) : Nat :=
  (((loc.ch * geo.diesPerChannel + loc.die) * geo.planesPerDie + loc.pl) * geo.blocksPerPlane +
    loc.blk) * geo.pagesPerBlock + loc.pg

theorem ravel_unravel (idx : Nat) : geo.ravel (geo.unravel idx) = idx := by
  unfold ravel unravel
  dsimp only
  rw [Nat.div_add_mod', Nat.div_add_mod', Nat.div_add_mod', Nat.div_add_mod']

theorem unravel_injective : Function.Injective geo.unravel := by
  intro i j h
  rw [← geo.ravel_unravel i, h, geo.ravel_unravel]

theorem unravel_within {idx : Nat} (h : idx < geo.totalPages) : (geo.unravel idx).Within geo := by
  have hch : idx / geo.pagesPerBlock / geo.blocksPerPlane / geo.planesPerDie /
      geo.diesPerChannel < geo.channels := by
    rw [Nat.div_lt_iff_lt_mul geo.dies_pos, Nat.div_lt_iff_lt_mul geo.planes_pos,
      Nat.div_lt_iff_lt_mul geo.blocks_pos, Nat.div_lt_iff_lt_mul geo.pages_pos]
    exact h
  exact ⟨hch, Nat.mod_lt _ geo.dies_pos, Nat.mod_lt _ geo.planes_pos, Nat.mod_lt _ geo.blocks_pos,
    Nat.mod_lt _ geo.pages_pos⟩

theorem unravel_ravel {loc : PhysicalLocation} (h : loc.Within geo) :
    geo.unravel (geo.ravel loc) = loc := by
  obtain ⟨-, hdie, hpl, hblk, hpg⟩ := h
  obtain ⟨hd1, hm1⟩ := Digits.div_mod (((loc.ch * geo.diesPerChannel + loc.die) *
    geo.planesPerDie + loc.pl) * geo.blocksPerPlane + loc.blk) hpg
  obtain ⟨hd2, hm2⟩ := Digits.div_mod ((loc.ch * geo.diesPerChannel + loc.die) *
    geo.planesPerDie + loc.pl) hblk
  obtain ⟨hd3, hm3⟩ := Digits.div_mod (loc.ch * geo.diesPerChannel + loc.die) hpl
  obtain ⟨hd4, hm4⟩ := Digits.div_mod loc.ch hdie
  unfold unravel ravel
  dsimp only
  rw [hd1, hm1, hd2, hm2, hd3, hm3, hd4, hm4]

theorem ravel_lt {loc : PhysicalLocation} (h : loc.Within geo) :
    geo.ravel loc < geo.totalPages := by
  obtain ⟨hch, hdie, hpl, hblk, hpg⟩ := h
  exact Digits.lt (Digits.lt (Digits.lt (Digits.lt hch hdie) hpl) hblk) hpg

end FtlGeometry

end AiSsd.Ftl
