import AiSsd.Ftl.StorageSimulator
import AiSsd.Storage.TensorMapping

/-!
# Locations as text

Two translation layers and the mapper write a location, the simulator parses all of it and the
latency model its channel. What any of them writes is read back as it was, so that two
locations never share their text.
-/

namespace AiSsd.Storage

open Ftl

namespace NANDPhysicalCoordinate

variable {channels : Nat} (nand : NANDPhysicalCoordinate channels)

/-- `f"ch{channel}_die{die}_pl{plane}_blk{block}_pg{page}"`. -/
def toLocationStr : Text :=
  ['c', 'h'] ++ Nat.toDigits 10 nand.channel ++ ['_', 'd', 'i', 'e'] ++
    Nat.toDigits 10 nand.die ++ ['_', 'p', 'l'] ++ Nat.toDigits 10 nand.plane ++
    ['_', 'b', 'l', 'k'] ++ Nat.toDigits 10 nand.block ++ ['_', 'p', 'g'] ++
    Nat.toDigits 10 nand.page

def location : PhysicalLocation :=
  ⟨nand.channel, nand.die, nand.plane, nand.block, nand.page⟩

theorem toLocationStr_eq : nand.toLocationStr = nand.location.text := rfl

end NANDPhysicalCoordinate

end AiSsd.Storage

namespace AiSsd.Ftl

open Storage

/-- The pattern of the latency model matches at the start of a location. -/
theorem extractChannel_text (l : PhysicalLocation) : extractChannel l.text = l.ch := by
  have hmatch : matchChannel l.text = some l.ch := by
    unfold matchChannel PhysicalLocation.text
    simp only [List.append_assoc, List.cons_append, List.nil_append]
    simp [literal, number_toDigits]
  simp [extractChannel, hmatch]

theorem AnyFtl.answer_allocate {geo : FtlGeometry} {ftl : AnyFtl geo} {block : KVBlock}
    {loc : Text} (h : (ftl.allocate block).1 = .ok loc) :
    ∃ l, ftl.nextPage block = some l ∧ loc = l.text := by
  cases ftl.allocate_spec block with
  | inl hrefused =>
      rw [hrefused.2] at h
      cases h
  | inr hplaced =>
      obtain ⟨l, ftl', hnext, halloc, -⟩ := hplaced
      rw [halloc] at h
      cases h
      exact ⟨l, hnext, rfl⟩

/-- Every location is parsed back and its channel found, whichever formatter wrote it, and
different locations have different texts. -/
theorem location_codec (c d p b g : Nat) :
    let l : PhysicalLocation := ⟨c, d, p, b, g⟩
    (parsePhysicalLocation l.text = some ⟨c, d, p, b, g⟩ ∧ extractChannel l.text = c) ∧
      (∀ (channels : Nat) (nand : NANDPhysicalCoordinate channels),
        nand.location = l → nand.toLocationStr = l.text) ∧
      (∀ (geo : FtlGeometry) (ftl : AnyFtl geo) (block : KVBlock) (loc : Text),
        (ftl.allocate block).1 = .ok loc → ftl.nextPage block = some l → loc = l.text) ∧
      ∀ l' : PhysicalLocation, l' ≠ l → l'.text ≠ l.text := by
  intro l
  refine ⟨⟨parsePhysicalLocation_text l, extractChannel_text l⟩, ?_, ?_, ?_⟩
  · intro channels nand hsame
    rw [nand.toLocationStr_eq, hsame]
  · intro geo ftl block loc hanswer hnext
    obtain ⟨l', hnext', hloc⟩ := AnyFtl.answer_allocate hanswer
    rw [hloc, Option.some.inj (hnext'.symm.trans hnext)]
  · intro l' hne htext
    exact hne (PhysicalLocation.text_injective htext)

end AiSsd.Ftl
