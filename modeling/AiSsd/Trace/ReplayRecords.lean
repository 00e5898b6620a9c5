import AiSsd.Trace.Replay

/-!
# What can be replayed

The check of a record looks at the types of the layer, the head and the byte size, and takes any
token start and block id. The replay computes with both: it puts the block id into a set, and
the index of the token block comes from the token start, or from the block id where that one is
not positive.
-/

namespace AiSsd.Trace

open Lib Storage

/-! ## Numbers -/

def Json.IsWhole (j : Json) : Prop := ∃ i : Int, j.asNumber = .ok i

theorem floorDiv_intCast (z : Int) (n : Nat) : floorDiv z n = (z / n : Int) := by
  unfold floorDiv
  rw [Rat.floor_intCast_div_natCast]

theorem floorMod_intCast (z : Int) (n : Nat) : floorMod z n = (z % n : Int) := by
  unfold floorMod
  rw [Rat.floor_intCast_div_natCast, Int.emod_def]
  push_cast
  rfl

/-- A remainder by a whole number is whole only for a whole number. -/
theorem exists_of_floorMod {x : Rat} {n z : Int} (h : floorMod x n = z) : ∃ i : Int, x = i := by
  refine ⟨z + n * ⌊x / n⌋, ?_⟩
  push_cast
  rw [← h, floorMod]
  ring

namespace StorageTraceReplayer

variable {py : PyText} {percent : String → Int → Except PyErr String}
  {replayer : StorageTraceReplayer}

/-! ## The counter of a number -/

theorem counterOf_natCast {n i : Nat} (h : i < n) : counterOf py n (i : Rat) = .ok ⟨i, h⟩ := by
  simp [counterOf, h]

theorem exists_of_counterOf {n : Nat} {x : Rat} {i : Fin n} (h : counterOf py n x = .ok i) :
    ∃ z : Int, x = z := by
  unfold counterOf at h
  split at h
  · rename_i hwhole
    exact ⟨x.num, (Rat.den_eq_one_iff x |>.mp hwhole.1).symm⟩
  · cases h

/-- The remainder of a whole number selects a counter. -/
theorem counterOf_floorMod {n : Nat} (hn : 0 < n) (z : Int) :
    ∃ i, counterOf py n (floorMod z n) = .ok i := by
  have hnonneg := Int.emod_nonneg z (b := n) (by omega)
  have hlt := Int.emod_lt_of_pos z (b := n) (by omega)
  obtain ⟨i, hi⟩ := Int.eq_ofNat_of_zero_le hnonneg
  rw [floorMod_intCast, hi]
  exact ⟨⟨i, by omega⟩, counterOf_natCast (by omega)⟩

/-! ## Checked records -/

structure Checked (record : ValidatedRecord) : Prop where
  layer : ∃ n : Nat, record.layerId.asNumber = .ok n
  head : ∃ n : Nat, record.headId.asNumber = .ok n
  bytes : ∃ n : Nat, 0 < n ∧ record.byteSize.asNumber = .ok n
  block : record.blockId ≠ .null

theorem exists_of_isIntFrom {low : Nat} {j : Json} (h : isIntFrom low j = true) :
    ∃ n : Nat, low ≤ n ∧ j.asNumber = .ok n := by
  cases j with
  | int i =>
      have hle : (low : Int) ≤ i := of_decide_eq_true h
      refine ⟨i.toNat, by omega, ?_⟩
      have hcast : ((i.toNat : Int) : Rat) = i := congrArg _ (Int.toNat_of_nonneg (by omega))
      exact congrArg Except.ok hcast.symm
  | bool b =>
      have hle : (low : Int) ≤ if b then 1 else 0 := of_decide_eq_true h
      cases b with
      | false => exact ⟨0, by simpa using hle, by simp [Json.asNumber]⟩
      | true => exact ⟨1, by simpa using hle, by simp [Json.asNumber]⟩
  | null | float x | str s | list xs | dict fields => cases h

theorem blockOfToken_ne_null {j blockId : Json} (h : blockOfToken j = .ok blockId) :
    blockId ≠ .null := by
  cases j <;> cases h <;> simp

theorem of_ite_error {α : Type} {c : Prop} [Decidable c] {err : PyErr} {x : Except PyErr α} {a : α}
    (h : (if c then .error err else x) = .ok a) : ¬ c ∧ x = .ok a := by
  split at h
  · cases h
  · rename_i hc
    exact ⟨hc, h⟩

theorem checked_of_validateRecord {item : Fields} {lineNum : Int} {record : ValidatedRecord}
    (h : validateRecord py item lineNum = .ok record) : Checked record := by
  unfold validateRecord at h
  dsimp only at h
  obtain ⟨-, h⟩ := of_ite_error h
  obtain ⟨-, h⟩ := of_ite_error h
  obtain ⟨hlayer, h⟩ := of_ite_error h
  obtain ⟨hhead, h⟩ := of_ite_error h
  obtain ⟨hbytes, h⟩ := of_ite_error h
  obtain ⟨l, -, hl⟩ := exists_of_isIntFrom (Bool.eq_true_of_not_eq_false hlayer)
  obtain ⟨d, -, hd⟩ := exists_of_isIntFrom (Bool.eq_true_of_not_eq_false hhead)
  obtain ⟨b, hpos, hb⟩ := exists_of_isIntFrom (Bool.eq_true_of_not_eq_false hbytes)
  split at h
  · cases h
  · rename_i hblock
    cases h
    exact ⟨⟨l, hl⟩, ⟨d, hd⟩, ⟨b, hpos, hb⟩, hblock⟩
  · obtain ⟨blockId, hblock, hrecord⟩ := bind_eq_ok.mp h
    cases hrecord
    exact ⟨⟨l, hl⟩, ⟨d, hd⟩, ⟨b, hpos, hb⟩, blockOfToken_ne_null hblock⟩
  · rename_i hblock _
    cases h
    exact ⟨⟨l, hl⟩, ⟨d, hd⟩, ⟨b, hpos, hb⟩, hblock⟩

/-! ## Records that can be replayed -/

/-- What a block id has to be when it gives the index: a whole number, or in the conventional
mode, which makes no use of the index, any number or a text that `%` can format. -/
def Indexes (percent : String → Int → Except PyErr String) (mode : MappingMode)
    (blocksPerHead : Int) (blockId : Json) : Prop :=
  match mode, blockId with
  | .conventional, .str s => ∃ t, percent s blocksPerHead = .ok t
  | .conventional, blockId => ∃ x, blockId.asNumber = .ok x
  | _, blockId => blockId.IsWhole

/-- The replay can compute with the record: its mode is known, its block id can be hashed, its
token start is a number, and where that is not positive its block id gives the index. -/
structure Replayable (percent : String → Int → Except PyErr String) (mode : MappingMode)
    (blocksPerHead : Int) (record : ValidatedRecord) : Prop where
  known : ∀ name, mode ≠ .other name
  hashable : ∃ key, record.blockId.blockKey = .ok key
  numeric : ∃ t, record.tokenStart.asNumber = .ok t
  indexes : ∀ t, record.tokenStart.asNumber = .ok t → t ≤ 0 → 0 < blocksPerHead →
    Indexes percent mode blocksPerHead record.blockId

theorem place_tensorAware {layerId headId : Json} {layer head : Nat}
    (hlayer : layerId.asNumber = .ok layer) (hhead : headId.asNumber = .ok head) (b : Rat) :
    replayer.place .tensorAware layerId headId (.number b) =
      .ok (floorMod (layer + head + b + floorDiv b replayer.mapper.channels)
          replayer.mapper.channels,
        floorMod (layer + floorDiv head replayer.mapper.channels +
          floorDiv b replayer.mapper.channels) replayer.mapper.diesPerChannel) := by
  unfold place
  rw [hlayer, hhead]
  rfl

/-- A whole index is placed by remainders of whole numbers. -/
theorem place_intCast {layerId headId : Json} {layer head : Nat}
    (hlayer : layerId.asNumber = .ok layer) (hhead : headId.asNumber = .ok head) (z : Int) :
    ∃ ch die : Int, replayer.place .tensorAware layerId headId (.number z) =
      .ok (floorMod ch replayer.mapper.channels, floorMod die replayer.mapper.diesPerChannel) := by
  have hheads : floorDiv (head : Rat) replayer.mapper.channels =
      ((head / replayer.mapper.channels : Int) : Rat) := by
    rw [← floorDiv_intCast]
    push_cast
    rfl
  refine ⟨layer + head + z + z / replayer.mapper.channels,
    layer + head / replayer.mapper.channels + z / replayer.mapper.channels, ?_⟩
  rw [place_tensorAware hlayer hhead, hheads, floorDiv_intCast]
  push_cast
  rfl

def Counted (py : PyText) (replayer : StorageTraceReplayer) (place : Except PyErr (Rat × Rat)) :
    Prop :=
  ∃ ch die, place = .ok (ch, die) ∧ (∃ i, counterOf py replayer.mapper.channels ch = .ok i) ∧
    ∃ i, counterOf py replayer.mapper.diesPerChannel die = .ok i

theorem counted_conventional (layerId headId : Json) (bIdx : BlockIndex) :
    Counted py replayer (replayer.place .conventional layerId headId bIdx) := by
  have hzero : ((0 : Nat) : Rat) = 0 := Nat.cast_zero
  refine ⟨0, 0, rfl, ?_, ?_⟩
  · rw [← hzero]
    exact ⟨_, counterOf_natCast replayer.mapper.channels_pos⟩
  · rw [← hzero]
    exact ⟨_, counterOf_natCast replayer.mapper.dies_pos⟩

/-- In the tensor-aware mode a record is counted when its index is a whole number. -/
theorem counted_tensorAware_iff {layerId headId : Json} {layer head : Nat}
    (hlayer : layerId.asNumber = .ok layer) (hhead : headId.asNumber = .ok head)
    (bIdx : BlockIndex) :
    Counted py replayer (replayer.place .tensorAware layerId headId bIdx) ↔
      ∃ z : Int, bIdx = .number z := by
  cases bIdx with
  | text s =>
      constructor
      · rintro ⟨ch, die, hplace, -, -⟩
        unfold place at hplace
        rw [hlayer, hhead] at hplace
        cases hplace
      · rintro ⟨z, hz⟩
        cases hz
  | number b =>
      rw [place_tensorAware hlayer hhead]
      constructor
      · rintro ⟨ch, die, hplace, ⟨i, hi⟩, -⟩
        cases hplace
        obtain ⟨z, hz⟩ := exists_of_counterOf hi
        obtain ⟨y, hy⟩ := exists_of_floorMod hz
        refine ⟨y - layer - head - ⌊b / replayer.mapper.channels⌋, ?_⟩
        rw [floorDiv] at hy
        push_cast
        rw [← hy]
        congr 1
        ring
      · rintro ⟨z, hz⟩
        cases hz
        obtain ⟨ch, die, hplace⟩ := place_intCast hlayer hhead z
        rw [← place_tensorAware hlayer hhead, hplace]
        exact ⟨_, _, rfl, counterOf_floorMod replayer.mapper.channels_pos ch,
          counterOf_floorMod replayer.mapper.dies_pos die⟩

/-! ## The index -/

def Usable (mode : MappingMode) (bIdx : BlockIndex) : Prop :=
  match mode with
  | .conventional => True
  | .tensorAware => ∃ z : Int, bIdx = .number z
  | .other _ => False

theorem counted_iff_usable {layerId headId : Json} {layer head : Nat}
    (hlayer : layerId.asNumber = .ok layer) (hhead : headId.asNumber = .ok head)
    (mode : MappingMode) (bIdx : BlockIndex) :
    Counted py replayer (replayer.place mode layerId headId bIdx) ↔ Usable mode bIdx := by
  cases mode with
  | conventional => exact iff_of_true (counted_conventional layerId headId bIdx) trivial
  | tensorAware => exact counted_tensorAware_iff hlayer hhead bIdx
  | other name =>
      refine iff_of_false ?_ id
      rintro ⟨ch, die, hplace, -⟩
      cases hplace

theorem usable_byToken {mode : MappingMode} (hknown : ∀ name, mode ≠ .other name) (x n : Rat) :
    Usable mode (.number (floorDiv x n)) := by
  cases mode with
  | conventional => trivial
  | tensorAware => exact ⟨⌊x / n⌋, rfl⟩
  | other name => exact absurd rfl (hknown name)

theorem whole_modulo_iff {n : Int} (hn : 0 < n) (blockId : Json) :
    (∃ z : Int, blockId.modulo percent n = .ok (.number z)) ↔ blockId.IsWhole := by
  have hnumber : (∃ z : Int, (blockId.asNumber.map fun x => BlockIndex.number (floorMod x n)) =
      .ok (.number z)) ↔ blockId.IsWhole := by
    constructor
    · rintro ⟨z, hz⟩
      cases hx : blockId.asNumber with
      | error err => simp [hx, Except.map] at hz
      | ok x =>
          simp only [hx, Except.map, Except.ok.injEq, BlockIndex.number.injEq] at hz
          obtain ⟨i, hi⟩ := exists_of_floorMod hz
          exact ⟨i, hi ▸ hx⟩
    · rintro ⟨i, hi⟩
      refine ⟨i % n, ?_⟩
      obtain ⟨k, rfl⟩ := Int.eq_ofNat_of_zero_le (Int.le_of_lt hn)
      have hmod := floorMod_intCast i k
      rw [hi]
      simpa [Except.map] using hmod
  cases blockId with
  | str s =>
      refine iff_of_false ?_ ?_
      · rintro ⟨z, hz⟩
        cases hs : percent s n <;> simp [Json.modulo, hs, Except.map] at hz
      · rintro ⟨i, hi⟩
        cases hi
  | null | bool b | int i | float x | list xs | dict fields => exact hnumber

theorem usable_modulo_iff {mode : MappingMode} (hknown : ∀ name, mode ≠ .other name) {n : Int}
    (hn : 0 < n) (blockId : Json) :
    (∃ bIdx, blockId.modulo percent n = .ok bIdx ∧ Usable mode bIdx) ↔
      Indexes percent mode n blockId := by
  cases mode with
  | other name => exact absurd rfl (hknown name)
  | tensorAware =>
      refine Iff.trans ?_ (@whole_modulo_iff percent n hn blockId)
      constructor
      · rintro ⟨bIdx, hb, z, rfl⟩
        exact ⟨z, hb⟩
      · rintro ⟨z, hz⟩
        exact ⟨_, hz, z, rfl⟩
  | conventional =>
      cases blockId with
      | str s => cases hs : percent s n <;> simp [Json.modulo, Indexes, Usable, Except.map, hs]
      | null | bool b | int i | float x | list xs | dict fields =>
          simp [Json.modulo, Indexes, Usable, Except.map, Json.asNumber]

/-- A token start that is a number gives the index, or leaves it to the block id. -/
theorem usable_index_iff {mode : MappingMode} (hknown : ∀ name, mode ≠ .other name)
    (blocksPerHead : Int) (tokenIdx : Json) {blockId : Json} (hblock : blockId ≠ .null) :
    (∃ bIdx, replayer.tokenBlockIdx percent blocksPerHead tokenIdx blockId = .ok bIdx ∧
        Usable mode bIdx) ↔
      (∃ t, tokenIdx.asNumber = .ok t) ∧ ∀ t, tokenIdx.asNumber = .ok t → t ≤ 0 →
        0 < blocksPerHead → Indexes percent mode blocksPerHead blockId := by
  unfold tokenBlockIdx
  cases ht : tokenIdx.asNumber with
  | error err => simp [bind, Except.bind]
  | ok t =>
      simp only [bind, Except.bind, pure, Except.pure, Except.ok.injEq, exists_eq', true_and,
        forall_eq']
      by_cases hpos : t > 0
      · rw [if_pos hpos]
        refine iff_of_true ⟨_, rfl, usable_byToken hknown _ _⟩ fun hle => ?_
        exact absurd hpos (not_lt.mpr hle)
      · rw [if_neg hpos]
        by_cases hheads : blocksPerHead > 0
        · simp only [if_pos hheads]
          rw [usable_modulo_iff hknown hheads]
          exact ⟨fun h _ _ => h, fun h => h (not_lt.mp hpos) hheads⟩
        · simp only [if_neg hheads]
          exact iff_of_true ⟨_, rfl, usable_byToken hknown _ _⟩ fun _ h => absurd h hheads

/-! ## Serving an entry -/

variable {mode : MappingMode} {blocksPerHead : Int} {entry : TraceEntry}

theorem serve_eq_ok_iff {served : Served replayer.mapper} :
    replayer.serve py percent mode blocksPerHead entry = .ok served ↔
      entry.record py = .ok served.record ∧ served.record.blockId.blockKey = .ok served.key ∧
        served.record.byteSize.asNumber = .ok served.bytes ∧
        ∃ bIdx ch die, replayer.tokenBlockIdx percent blocksPerHead served.record.tokenStart
            served.record.blockId = .ok bIdx ∧
          replayer.place mode served.record.layerId served.record.headId bIdx = .ok (ch, die) ∧
          counterOf py replayer.mapper.channels ch = .ok served.channel ∧
          counterOf py replayer.mapper.diesPerChannel die = .ok served.die := by
  unfold serve
  simp only [bind_eq_ok, pure, Except.pure, Except.ok.injEq]
  constructor
  · rintro ⟨record, hrecord, key, hkey, bytes, hbytes, bIdx, hidx, ⟨ch, die⟩, hplace, i, hi, j, hj,
      rfl⟩
    exact ⟨hrecord, hkey, hbytes, bIdx, ch, die, hidx, hplace, hi, hj⟩
  · rintro ⟨hrecord, hkey, hbytes, bIdx, ch, die, hidx, hplace, hi, hj⟩
    exact ⟨_, hrecord, _, hkey, _, hbytes, bIdx, hidx, (ch, die), hplace, _, hi, _, hj, rfl⟩

/-- A checked record is served exactly when it can be replayed. -/
theorem exists_serve_iff {record : ValidatedRecord} (hrecord : entry.record py = .ok record)
    (hchecked : Checked record) :
    (∃ served, replayer.serve py percent mode blocksPerHead entry = .ok served) ↔
      Replayable percent mode blocksPerHead record := by
  obtain ⟨l, hlayer⟩ := hchecked.layer
  obtain ⟨d, hhead⟩ := hchecked.head
  constructor
  · rintro ⟨served, hserved⟩
    obtain ⟨hsame, hkey, -, bIdx, ch, die, hidx, hplace, hi, hj⟩ := serve_eq_ok_iff.mp hserved
    obtain rfl : record = served.record := Except.ok.inj (hrecord.symm.trans hsame)
    have husable := (counted_iff_usable hlayer hhead mode bIdx).mp
      ⟨ch, die, hplace, ⟨_, hi⟩, ⟨_, hj⟩⟩
    have hknown : ∀ name, mode ≠ .other name := by
      rintro name rfl
      exact husable
    obtain ⟨hnumeric, hindexes⟩ := (usable_index_iff hknown blocksPerHead _ hchecked.block).mp
      ⟨bIdx, hidx, husable⟩
    exact ⟨hknown, ⟨_, hkey⟩, hnumeric, hindexes⟩
  · intro h
    obtain ⟨key, hkey⟩ := h.hashable
    obtain ⟨b, -, hbytes⟩ := hchecked.bytes
    obtain ⟨bIdx, hidx, husable⟩ := (@usable_index_iff percent replayer mode h.known blocksPerHead
      record.tokenStart record.blockId hchecked.block).mpr ⟨h.numeric, h.indexes⟩
    obtain ⟨ch, die, hplace, ⟨i, hi⟩, ⟨j, hj⟩⟩ :=
      (@counted_iff_usable py replayer _ _ l d hlayer hhead mode bIdx).mpr husable
    exact ⟨⟨record, key, b, i, j⟩, serve_eq_ok_iff.mpr
      ⟨hrecord, hkey, hbytes, bIdx, ch, die, hidx, hplace, hi, hj⟩⟩

/-! ## Accepted entries -/

/-- `validate_record` accepts the entry, or has returned it. -/
def Accepted (py : PyText) : TraceEntry → Prop
  | .raw item _ => ∃ record, validateRecord py item 0 = .ok record
  | .validated record => ∃ item lineNum, validateRecord py item lineNum = .ok record

theorem Accepted.checked (h : Accepted py entry) :
    ∃ record, entry.record py = .ok record ∧ Checked record := by
  cases entry with
  | raw item unvalidated =>
      obtain ⟨record, hrecord⟩ := h
      exact ⟨record, hrecord, checked_of_validateRecord hrecord⟩
  | validated record =>
      obtain ⟨item, lineNum, hrecord⟩ := h
      exact ⟨record, rfl, checked_of_validateRecord hrecord⟩

end StorageTraceReplayer

end AiSsd.Trace
