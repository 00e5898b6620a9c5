import AiSsd.Storage.BackendReads
import AiSsd.Storage.LogicalAddress

/-!
# The recorded addresses

`write_block` records a logical address computed from the layer and, when it is given no
token, from the block id reduced modulo the 44 blocks a coordinate assumes for a head. So
two stored blocks have one address exactly when the mapper takes their layers and reduced
ids to one place, as it does for blocks 44 apart.
-/

namespace AiSsd.Storage.RealInferenceStorageBackend

open Lib Numpy

universe u

variable {cfg : BackendConfig} {s : RealInferenceStorageBackend cfg}

/-- The coordinate of a block written without a head or a token. -/
def defaultCoordinate (key : Nat × Nat) : TensorCoordinate := ⟨key.1, 0, 0, 16, some key.2, 44⟩

def address (cfg : BackendConfig) (key : Nat × Nat) : Except PyErr Nat :=
  (cfg.mapper.tensorToLba (defaultCoordinate key) cfg.mappingMode).map LBAAddress.lba

def RecordsAddresses (s : RealInferenceStorageBackend cfg) : Prop :=
  ∀ key e, s.storage.get? key = some e → address cfg key = .ok e.lba

theorem RecordsAddresses.of_same {s' : RealInferenceStorageBackend cfg} (h : s.RecordsAddresses)
    (hsame : SameStore s s') : s'.RecordsAddresses := by
  intro key e he
  rw [hsame.storage_eq] at he
  exact h key e he

/-- A write leaves the table as it is, or binds an entry with the coordinate's address. -/
theorem storage_writeBlock (s : RealInferenceStorageBackend cfg) (l b : Nat) (k v : Payload)
    (h ts : Nat) :
    (s.writeBlock l b k v h ts).2.storage = s.storage ∨
      ∃ e, (s.writeBlock l b k v h ts).2.storage = s.storage.set (l, b) e ∧
        (cfg.mapper.tensorToLba ⟨l, h, ts, 16, some b, 44⟩ cfg.mappingMode).map LBAAddress.lba =
          .ok e.lba := by
  unfold writeBlock
  dsimp only
  split
  · exact Or.inl rfl
  · cases haddr : cfg.mapper.tensorToLba ⟨l, h, ts, 16, some b, 44⟩ cfg.mappingMode with
    | error err => exact Or.inl rfl
    | ok addr => exact Or.inr ⟨_, rfl, rfl⟩

theorem RecordsAddresses.write (h : s.RecordsAddresses) (l b : Nat) (k v : Payload) :
    (s.writeBlock l b k v 0 0).2.RecordsAddresses := by
  rcases storage_writeBlock s l b k v 0 0 with hsame | ⟨e, hset, haddr⟩
  · intro key e he
    rw [hsame] at he
    exact h key e he
  · intro key e' he'
    rw [hset, Dict.get?_set] at he'
    by_cases hkey : (l, b) = key
    · rw [if_pos hkey, Option.some.injEq] at he'
      rw [← hkey, ← he']
      exact haddr
    · rw [if_neg hkey] at he'
      exact h key e' he'

theorem RecordsAddresses.evict (h : s.RecordsAddresses) (l b : Nat) :
    (s.evictBlock l b).2.RecordsAddresses := by
  unfold evictBlock
  split
  · intro key e he
    rw [Dict.get?_erase] at he
    split at he
    · cases he
    · exact h key e he
  · exact h

section Runs

variable {α : Type u}

/-- The calls of the provider and of the prefetch adapter: no head, no token. -/
def Op.WritesByDefault : Op α → Prop
  | .write _ _ _ _ headId tokenStart => headId = 0 ∧ tokenStart = 0
  | _ => True

variable [Field α] [LinearOrder α] {val : DType → Bytes → α} {kernel : Option (Kernel α)}

theorem RecordsAddresses.step (h : s.RecordsAddresses) {op : Op α} (hop : op.WritesByDefault) :
    (step cfg val kernel s op).2.RecordsAddresses := by
  cases op with
  | write l b k v head ts =>
      obtain ⟨rfl, rfl⟩ := hop
      exact h.write l b (.array k) (.array v)
  | evict l b => exact h.evict l b
  | _ => exact h.of_same (sameStore_step trivial)

/-! ## When two entries share an address -/

def SameAddress (cfg : BackendConfig) (key key' : Nat × Nat) : Prop :=
  match cfg.mappingMode with
  | .conventional =>
      cfg.mapper.modelIndex (defaultCoordinate key) % cfg.mapper.totalDeviceBlocks =
        cfg.mapper.modelIndex (defaultCoordinate key') % cfg.mapper.totalDeviceBlocks
  | .tensorAware => cfg.mapper.SameStripe (defaultCoordinate key) (defaultCoordinate key')
  | .other _ => True

theorem address_eq_iff (key key' : Nat × Nat) :
    address cfg key = address cfg key' ↔ SameAddress cfg key key' := by
  unfold address SameAddress
  cases cfg.mappingMode with
  | conventional =>
      dsimp only
      rw [DeterministicTensorMapper.lba_conventional, DeterministicTensorMapper.lba_conventional,
        Except.ok.injEq]
  | tensorAware => exact DeterministicTensorMapper.lba_tensorAware_eq_iff _ _
  | other name => exact iff_of_true rfl trivial

theorem recordsAddresses_run (val : DType → Bytes → α) (kernel : Option (Kernel α))
    {ops : List (Op α)} (hops : ∀ op ∈ ops, op.WritesByDefault) :
    RecordsAddresses ((machine cfg val kernel).exec init ops) :=
  (machine cfg val kernel).exec_invariant_of_meets (I := RecordsAddresses)
    (fun _ _ h hop => h.step hop) init ops (fun _ _ he => by cases he)
    ((machine cfg val kernel).meets_of_forall_mem init hops)

/-- After writes without head or token, whatever is read or evicted, no two stored blocks
record one address exactly when no two of them are taken to one place. -/
theorem addresses_distinct_iff (val : DType → Bytes → α) (kernel : Option (Kernel α))
    (ops : List (Op α)) (hops : ∀ op ∈ ops, op.WritesByDefault) :
    (∀ key key' e e', key ≠ key' →
        ((machine cfg val kernel).exec init ops).storage.get? key = some e →
        ((machine cfg val kernel).exec init ops).storage.get? key' = some e' →
        e.lba ≠ e'.lba) ↔
      ∀ key key', key ≠ key' →
        ((machine cfg val kernel).exec init ops).storage.contains key = true →
        ((machine cfg val kernel).exec init ops).storage.contains key' = true →
        ¬ SameAddress cfg key key' := by
  have h : RecordsAddresses ((machine cfg val kernel).exec init ops) :=
    recordsAddresses_run val kernel hops
  generalize (machine cfg val kernel).exec init ops = s at h ⊢
  constructor
  · intro hdistinct key key' hne hstored hstored' hsame
    obtain ⟨e, he⟩ := Option.isSome_iff_exists.mp hstored
    obtain ⟨e', he'⟩ := Option.isSome_iff_exists.mp hstored'
    have haddr := (address_eq_iff key key').mpr hsame
    rw [h key e he, h key' e' he', Except.ok.injEq] at haddr
    exact hdistinct key key' e e' hne he he' haddr
  · intro happart key key' e e' hne he he' hlba
    apply happart key key' hne
    · exact Option.isSome_iff_exists.mpr ⟨e, he⟩
    · exact Option.isSome_iff_exists.mpr ⟨e', he'⟩
    · rw [← address_eq_iff, h key e he, h key' e' he', hlba]

end Runs

/-! ## Two blocks of one layer -/

def defaultConfig : BackendConfig where
  channels := 8
  diesPerChannel := 4
  planesPerDie := 2
  pagesPerBlock := 256
  blocksPerPlane := 1024
  numLayers := 24
  numHeads := 2
  tokensPerBlock := 16
  headDim := 64
  mappingMode := .tensorAware
  enableBatching := true
  channels_pos := Ftl.FtlGeometry.default_channels
  dies_pos := Ftl.FtlGeometry.default_dies
  planes_pos := Ftl.FtlGeometry.default_planes
  pages_pos := by decide
  blocks_pos := by decide

def twoWrites (b b' : Nat) : List (Op ℚ) :=
  [.write 0 b (oneFloat 1) (oneFloat 2) 0 0, .write 0 b' (oneFloat 3) (oneFloat 4) 0 0]

theorem addresses_distinct_iff_neighbours :
    (∀ key key' e e', key ≠ key' →
        ((machine defaultConfig (fun _ _ => (0 : ℚ)) none).exec init
          (twoWrites 0 1)).storage.get? key = some e →
        ((machine defaultConfig (fun _ _ => (0 : ℚ)) none).exec init
          (twoWrites 0 1)).storage.get? key' = some e' →
        e.lba ≠ e'.lba) ↔
      ∀ key key', key ≠ key' →
        ((machine defaultConfig (fun _ _ => (0 : ℚ)) none).exec init
          (twoWrites 0 1)).storage.contains key = true →
        ((machine defaultConfig (fun _ _ => (0 : ℚ)) none).exec init
          (twoWrites 0 1)).storage.contains key' = true →
        ¬ SameAddress defaultConfig key key' :=
  addresses_distinct_iff (fun _ _ => (0 : ℚ)) none (twoWrites 0 1)
    (by simp [twoWrites, Op.WritesByDefault])

/-- Block 44 of a layer is recorded at the address of its block 0. -/
theorem blocks_share_a_recorded_lba :
    2 ≤ defaultConfig.mapper.totalDeviceBlocks ∧
      ∃ e e',
        ((machine defaultConfig (fun _ _ => (0 : ℚ)) none).exec init
          (twoWrites 0 44)).storage.get? (0, 0) = some e ∧
        ((machine defaultConfig (fun _ _ => (0 : ℚ)) none).exec init
          (twoWrites 0 44)).storage.get? (0, 44) = some e' ∧
        e.lba = e'.lba :=
  ⟨by decide, _, _, rfl, rfl, rfl⟩

end AiSsd.Storage.RealInferenceStorageBackend
