import KernelScope.Proofs.Memory.Invariant

/-!
# Mapping many regions

Whether a region can be mapped is decided by looking at its neighbours, once from either side.  For
a whole row of regions it comes to a condition that knows no order: each of them ends at an address,
and any two of them are clear of each other (`mapAll_eq_ok_iff`).  So the regions may be mapped in
any order, and the memory is the same (`mapAll_perm`).
-/

set_option autoImplicit false

namespace KernelScope.Memory

/-- Maps the regions one after the other. -/
def mapAll (memory : Memory) (regions : List (Address × Array UInt8)) :
    Except MemoryError Memory :=
  regions.foldlM (fun memory region => memory.map region.1 region.2) memory

/-- Neither region reaches past the base of the other from at or below it. -/
def Clear (r s : Address × Array UInt8) : Prop :=
  (r.1 ≤ s.1 → r.1.toNat + r.2.size ≤ s.1.toNat) ∧
    (s.1 ≤ r.1 → s.1.toNat + s.2.size ≤ r.1.toNat)

theorem clear_comm {r s : Address × Array UInt8} (h : Clear r s) : Clear s r := ⟨h.2, h.1⟩

/-- Memories with the same regions are the same memory. -/
theorem ext_mem {a b : Memory} (h : ∀ region, region ∈ a.toList ↔ region ∈ b.toList) : a = b := by
  cases a
  cases b
  exact congrArg Memory.mk (OrderedMap.ext_mem h)

theorem mapAll_nil (memory changed : Memory) :
    memory.mapAll [] = .ok changed ↔ memory = changed := by
  simp [mapAll, pure, Except.pure]

theorem mapAll_cons (memory changed : Memory) (region : Address × Array UInt8)
    (regions : List (Address × Array UInt8)) :
    memory.mapAll (region :: regions) = .ok changed ↔
      ∃ middle, memory.map region.1 region.2 = .ok middle ∧
        middle.mapAll regions = .ok changed := by
  rw [mapAll, List.foldlM_cons]
  cases memory.map region.1 region.2 with
  | error error => simp [bind, Except.bind]
  | ok middle => simp [bind, Except.bind, mapAll]

namespace WellFormed

variable {memory : Memory} (hmem : memory.WellFormed)

include hmem

/-- A region can be mapped if it ends at an address and is clear of every region there is. -/
theorem exists_map_of_clear {region : Address × Array UInt8}
    (hfits : region.1.toNat + region.2.size < wordLimit)
    (hclear : ∀ other ∈ memory.toList, Clear other region) :
    ∃ changed, memory.map region.1 region.2 = .ok changed :=
  ⟨_, (hmem.map_eq_ok_iff _ _ _).2 ⟨hfits, fun other hother => (hclear other hother).1,
    fun other hother => (hclear other hother).2, rfl⟩⟩

/-- Only then can it be mapped. -/
theorem clear_of_map {region : Address × Array UInt8} {changed : Memory}
    (hmap : memory.map region.1 region.2 = .ok changed) :
    region.1.toNat + region.2.size < wordLimit ∧ ∀ other ∈ memory.toList, Clear other region := by
  obtain ⟨hfits, hbelow, habove, -⟩ := (hmem.map_eq_ok_iff _ _ _).1 hmap
  exact ⟨hfits, fun other hother => ⟨hbelow other hother, habove other hother⟩⟩

/-- Regions can be mapped one after the other exactly if each of them ends at an address and is
clear of the other ones and of those there are.  The memory then has them and those there were. -/
theorem mapAll_eq_ok_iff (regions : List (Address × Array UInt8)) (changed : Memory) :
    memory.mapAll regions = .ok changed ↔
      (∀ region ∈ regions, region.1.toNat + region.2.size < wordLimit) ∧
        regions.Pairwise Clear ∧
        (∀ other ∈ memory.toList, ∀ region ∈ regions, Clear other region) ∧
        ∀ region, region ∈ changed.toList ↔ region ∈ regions ∨ region ∈ memory.toList := by
  induction regions generalizing memory with
  | nil =>
    simp only [mapAll_nil, List.not_mem_nil, false_or]
    constructor
    · rintro rfl
      simp
    · rintro ⟨-, -, -, hmembers⟩
      exact ext_mem fun region => (hmembers region).symm
  | cons first rest ih =>
    rw [mapAll_cons]
    constructor
    · rintro ⟨middle, hmap, hrest⟩
      have hmiddle := hmem.mem_toList_of_map hmap
      obtain ⟨hfirstFits, hfirstClear⟩ := hmem.clear_of_map hmap
      obtain ⟨hfits, hpairs, hclear, hmembers⟩ := (ih (hmem.wellFormed_of_map hmap)).1 hrest
      refine ⟨List.forall_mem_cons.2 ⟨hfirstFits, hfits⟩, ?_, ?_, ?_⟩
      · exact List.pairwise_cons.2 ⟨hclear first ((hmiddle first).2 (.inl rfl)), hpairs⟩
      · intro other hother
        exact List.forall_mem_cons.2
          ⟨hfirstClear other hother, hclear other ((hmiddle other).2 (.inr hother))⟩
      · intro region
        rw [hmembers, hmiddle, List.mem_cons, or_assoc, or_left_comm]
    · rintro ⟨hfits, hpairs, hclear, hmembers⟩
      obtain ⟨hfirst, hpairs⟩ := List.pairwise_cons.1 hpairs
      obtain ⟨middle, hmap⟩ := hmem.exists_map_of_clear (hfits first List.mem_cons_self)
        fun other hother => hclear other hother first List.mem_cons_self
      have hmiddle := hmem.mem_toList_of_map hmap
      refine ⟨middle, hmap, (ih (hmem.wellFormed_of_map hmap)).2 ⟨?_, hpairs, ?_, ?_⟩⟩
      · exact fun region hregion => hfits region (List.mem_cons_of_mem _ hregion)
      · intro other hother region hregion
        rcases (hmiddle other).1 hother with rfl | hold
        · exact hfirst region hregion
        · exact hclear other hold region (List.mem_cons_of_mem _ hregion)
      · intro region
        rw [hmembers, hmiddle, List.mem_cons, or_assoc, or_left_comm]

/-- Regions may be mapped in any order. -/
theorem mapAll_perm {regions permuted : List (Address × Array UInt8)}
    (h : regions.Perm permuted) (changed : Memory) :
    memory.mapAll regions = .ok changed ↔ memory.mapAll permuted = .ok changed := by
  simp only [hmem.mapAll_eq_ok_iff, h.mem_iff, h.pairwise_iff clear_comm]

end WellFormed

end KernelScope.Memory
