import AiSsd.Ftl.PageAgreement
import Mathlib.Data.Set.Insert

/-!
# Blocks on pages of their own

Conventional allocation gives every block a new page. Tensor-aware allocation may place a block
on the page of another one, so it keeps blocks apart as long as it does not.
-/

namespace AiSsd.Ftl.StorageSimulator

variable {cfg : SimulatorConfig} {sim : StorageSimulator cfg} {live : Set Int}

def ApartOn (sim : StorageSimulator cfg) (live : Set Int) : Prop :=
  ∀ gid ∈ live, ∀ gid' ∈ live, gid ≠ gid' → ∀ loc, sim.getLocation gid = some loc →
    sim.getLocation gid' ≠ some loc

/-- Tensor-aware placement does not put the block on the page of another one of the ids. -/
def PlacesApart (sim : StorageSimulator cfg) (live : Set Int) (block : KVBlock) : Prop :=
  match sim.allocator.ftl with
  | .conventional _ => True
  | .tensorAware ftl => ∀ gid ∈ live, gid ≠ block.blockId →
      sim.getLocation gid ≠ some (ftl.placement block).text

def PagesBelow (sim : StorageSimulator cfg) : Prop :=
  ∀ ftl, sim.allocator.ftl = .conventional ftl →
    ∃ handed, ConventionalFtl.Allocated cfg.ftlGeometry handed ftl

theorem pagesBelow_init (mode : FtlMode) : (init cfg mode).PagesBelow := by
  intro ftl hftl
  cases mode with
  | tensorAware => cases hftl
  | conventional =>
      cases hftl
      exact ⟨[], ConventionalFtl.allocated_init⟩

theorem apartOn_init (mode : FtlMode) (live : Set Int) : (init cfg mode).ApartOn live := by
  intro gid _ gid' _ _ loc hloc
  cases mode <;> cases hloc

theorem ApartOn.mono (h : sim.ApartOn live) {fewer : Set Int} (hsub : fewer ⊆ live) :
    sim.ApartOn fewer :=
  fun gid hgid gid' hgid' => h gid (hsub hgid) gid' (hsub hgid')

theorem PagesBelow.storeBlock (h : sim.PagesBelow) (block : KVBlock) :
    (sim.storeBlock block).2.PagesBelow := by
  cases hnext : sim.nextPage block with
  | none => rwa [storeBlock_refused hnext]
  | some l =>
      intro ftl hftl
      have hallocator : (sim.storeBlock block).2.allocator =
          (sim.allocator.storeBlock { block with storageTier := "SSD" }).2 := by
        unfold StorageSimulator.storeBlock
        split
        · rename_i heq
          rw [heq]
        · rename_i heq
          rw [heq]
          split
          · rfl
          · exact storeAt_allocator _ _ _
      have hlayer : (sim.allocator.storeBlock { block with storageTier := "SSD" }).2.ftl =
          (sim.allocator.ftl.allocate { block with storageTier := "SSD" }).2 := by
        unfold KVStorageAllocator.storeBlock
        split <;> simp_all
      rw [hallocator, hlayer] at hftl
      cases hold : sim.allocator.ftl with
      | tensorAware old =>
          rw [hold] at hftl
          cases hftl
      | conventional old =>
          rw [hold] at hftl
          cases hftl
          obtain ⟨handed, hallocated⟩ := h old hold
          exact ⟨_, hallocated.allocate _⟩

theorem PagesBelow.nextPage (h : sim.PagesBelow) {block : KVBlock}
    (hplaces : sim.PlacesApart live block) {l : PhysicalLocation}
    (hnext : sim.nextPage block = some l) :
    ∀ gid ∈ live, gid ≠ block.blockId → sim.getLocation gid ≠ some l.text := by
  intro gid hgid hne
  unfold PlacesApart at hplaces
  unfold StorageSimulator.nextPage AnyFtl.nextPage at hnext
  cases hftl : sim.allocator.ftl with
  | tensorAware ftl =>
      rw [hftl] at hplaces hnext
      obtain rfl := Option.some.inj hnext
      exact hplaces gid hgid hne
  | conventional ftl =>
      rw [hftl] at hnext
      dsimp only at hnext
      split at hnext
      · cases hnext
      · obtain rfl := Option.some.inj hnext
        obtain ⟨handed, hallocated⟩ := h ftl hftl
        intro hloc
        rw [getLocation, KVStorageAllocator.getLocation, hftl] at hloc
        have hmem := hallocated.mapped gid _ hloc
        rw [hallocated.handed_eq, ConventionalFtl.mem_firstPages] at hmem
        exact Nat.lt_irrefl _ hmem

theorem ApartOn.storeBlock_placed (h : sim.ApartOn live) (hpages : sim.PagesBelow) {block : KVBlock}
    (hplaces : sim.PlacesApart live block) {l : PhysicalLocation}
    (hnext : sim.nextPage block = some l) :
    (sim.storeBlock block).2.ApartOn (insert block.blockId live) := by
  have hnew := hpages.nextPage hplaces hnext
  intro gid hgid gid' hgid' hne loc hloc
  rw [getLocation_storeBlock hnext] at hloc ⊢
  by_cases hb : block.blockId = gid
  · subst hb
    rw [if_pos rfl] at hloc
    obtain rfl := Option.some.inj hloc
    rw [if_neg hne]
    exact hnew gid' (hgid'.resolve_left (Ne.symm hne)) (Ne.symm hne)
  · rw [if_neg hb] at hloc
    have hgid := hgid.resolve_left (Ne.symm hb)
    by_cases hb' : block.blockId = gid'
    · rw [if_pos hb']
      intro heq
      obtain rfl := Option.some.inj heq
      exact hnew gid hgid (Ne.symm hb) hloc
    · rw [if_neg hb']
      exact h gid hgid gid' (hgid'.resolve_left (Ne.symm hb')) hne loc hloc

/-- A store leaves the ids apart, whether it finds a page or not. -/
theorem ApartOn.storeBlock (h : sim.ApartOn live) (hpages : sim.PagesBelow) {block : KVBlock}
    (hplaces : sim.PlacesApart live block) : (sim.storeBlock block).2.ApartOn live := by
  cases hnext : sim.nextPage block with
  | none => rwa [storeBlock_refused hnext]
  | some l => exact (h.storeBlock_placed hpages hplaces hnext).mono (Set.subset_insert _ _)

theorem ApartOn.congr (h : sim.ApartOn live) {sim' : StorageSimulator cfg}
    (hallocator : sim'.allocator = sim.allocator) : sim'.ApartOn live := by
  unfold ApartOn getLocation at h ⊢
  rwa [hallocator]

theorem PagesBelow.congr (h : sim.PagesBelow) {sim' : StorageSimulator cfg}
    (hallocator : sim'.allocator = sim.allocator) : sim'.PagesBelow := by
  unfold PagesBelow at h ⊢
  rwa [hallocator]

end AiSsd.Ftl.StorageSimulator
