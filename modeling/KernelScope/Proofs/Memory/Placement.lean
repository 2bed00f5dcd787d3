import KernelScope.Proofs.Memory.Exact
import KernelScope.Proofs.Memory.Outcome
import KernelScope.Proofs.Memory.Regions

/-!
# Where a region can be mapped

Looking at one neighbour on each side is enough: a region that ends at an address is refused exactly
if there is a region anywhere that has an address in common with it, or if one of the two is empty
and lies at an address of the other (`placement_of_run`).  So the test asks for a little more than
that no address be mapped twice.  An empty region has no address, and still bars its base to all
others; and a region whose last byte is at the last address is taken for one that wraps.
-/

set_option autoImplicit false

namespace KernelScope.Memory

/-- The regions have an address in common. -/
def Meets (r s : Address × Array UInt8) : Prop := ∃ address, Covers r address ∧ Covers s address

/-- The first region is empty and lies at an address of the second. -/
def LiesEmptyIn (r s : Address × Array UInt8) : Prop := r.2 = #[] ∧ Covers s r.1.toNat

instance (r s : Address × Array UInt8) : Decidable (Clear r s) :=
  inferInstanceAs (Decidable (_ ∧ _))

/-- Each region bars the other its own base. -/
theorem clear_iff_not_covers (r s : Address × Array UInt8) :
    Clear r s ↔ ¬ Covers r s.1.toNat ∧ ¬ Covers s r.1.toNat := by
  simp only [Clear, Covers, UInt64.le_iff_toNat_le]
  omega

/-- A region with bytes has its base for an address. -/
theorem covers_base {region : Address × Array UInt8} (hne : region.2 ≠ #[]) :
    Covers region region.1.toNat := by
  have hsize : 0 < region.2.size := Array.size_pos_iff.2 hne
  exact ⟨Nat.le_refl _, by omega⟩

theorem meets_or_liesEmptyIn_of_covers {r s : Address × Array UInt8}
    (hcovers : Covers s r.1.toNat) : Meets r s ∨ LiesEmptyIn r s := by
  by_cases hempty : r.2 = #[]
  · exact .inr ⟨hempty, hcovers⟩
  · exact .inl ⟨r.1.toNat, covers_base hempty, hcovers⟩

/-- Regions that meet have the base of one of them in common. -/
theorem covers_base_of_meets {r s : Address × Array UInt8} (hmeets : Meets r s) :
    Covers r s.1.toNat ∨ Covers s r.1.toNat := by
  obtain ⟨address, ⟨hrlow, hrhigh⟩, ⟨hslow, hshigh⟩⟩ := hmeets
  rcases Nat.le_total r.1.toNat s.1.toNat with hle | hle
  · exact .inl ⟨hle, Nat.lt_of_le_of_lt hslow hrhigh⟩
  · exact .inr ⟨hle, Nat.lt_of_le_of_lt hrlow hshigh⟩

/-- What stands in the way of a region: addresses in common, or an empty region among the addresses
of the other one. -/
theorem not_clear_iff (r s : Address × Array UInt8) :
    ¬ Clear r s ↔ Meets r s ∨ LiesEmptyIn r s ∨ LiesEmptyIn s r := by
  rw [clear_iff_not_covers, ← not_or, Classical.not_not]
  constructor
  · rintro (hcovers | hcovers)
    · rcases meets_or_liesEmptyIn_of_covers hcovers with ⟨address, hs, hr⟩ | hempty
      · exact .inl ⟨address, hr, hs⟩
      · exact .inr (.inr hempty)
    · exact (meets_or_liesEmptyIn_of_covers hcovers).imp id .inl
  · rintro (hmeets | hempty | hempty)
    · exact covers_base_of_meets hmeets
    · exact .inr hempty.2
    · exact .inl hempty.2

theorem map_eq_wraps_iff (memory : Memory) (base : Address) (bytes : Array UInt8) :
    memory.map base bytes = .error (.wraps base bytes.size) ↔
      wordLimit ≤ base.toNat + bytes.size := by
  rw [map]
  constructor
  · intro hmap
    split at hmap
    next hwraps => exact hwraps
    · split at hmap <;> cases hmap
  · intro hwraps
    rw [if_pos hwraps]

namespace WellFormed

variable {memory : Memory} (hmem : memory.WellFormed)

include hmem

/-- A region that ends at an address is refused exactly if something stands in its way. -/
theorem map_eq_overlap_iff (base : Address) (bytes : Array UInt8) :
    memory.map base bytes = .error (.overlap base) ↔
      base.toNat + bytes.size < wordLimit ∧
        ∃ region ∈ memory.toList, ¬ Clear region (base, bytes) := by
  constructor
  · intro hmap
    have hfits : base.toNat + bytes.size < wordLimit := by
      refine Nat.not_le.1 fun hwraps => ?_
      rw [(map_eq_wraps_iff memory base bytes).2 hwraps] at hmap
      cases hmap
    refine ⟨hfits, Classical.byContradiction fun hnone => ?_⟩
    have hclear : ∀ region ∈ memory.toList, Clear region (base, bytes) := fun region hregion =>
      Classical.not_not.1 fun hbars => hnone ⟨region, hregion, hbars⟩
    obtain ⟨changed, hchanged⟩ := hmem.exists_map_of_clear hfits hclear
    rw [hchanged] at hmap
    cases hmap
  · rintro ⟨hfits, region, hregion, hbars⟩
    cases hmap : memory.map base bytes with
    | ok changed => exact absurd ((hmem.clear_of_map hmap).2 region hregion) hbars
    | error error =>
      rcases map_eq_error hmap with rfl | rfl
      · exact absurd ((map_eq_wraps_iff memory base bytes).1 hmap) (Nat.not_le.2 hfits)
      · rfl

/-- Bytes that have been mapped can be read. -/
theorem read_of_map {base : Address} {bytes : Array UInt8} (hne : bytes ≠ #[]) {changed : Memory}
    (hmap : memory.map base bytes = .ok changed) :
    changed.read base bytes.size = .ok bytes.toList := by
  have hregion := (hmem.mem_toList_of_map hmap (base, bytes)).2 (.inl rfl)
  have henough : ¬ base.toNat + bytes.size - base.toNat < bytes.size := by omega
  rw [(hmem.wellFormed_of_map hmap).read_of_covers hregion (covers_base hne), if_neg henough]
  simp

end WellFormed

/-! ## Behind whole runs -/

/-- Behind any run of operations, a region with bytes that ends at an address, has no address in
common with another and has no empty region among its addresses can be mapped, and then its bytes
can be read.  A region is said to wrap exactly if it does not end at an address, as does not even
the one up to the last address; and to overlap exactly if it ends at an address and either an address
would be mapped twice, or an empty region lies among the addresses of another. -/
theorem placement_of_run (operations : List Operation) (base : Address) (bytes : Array UInt8) :
    (bytes ≠ #[] → base.toNat + bytes.size < 2 ^ 64 →
      (∀ region ∈ (run operations).toList, ¬ Meets region (base, bytes)) →
      (∀ region ∈ (run operations).toList, ¬ LiesEmptyIn region (base, bytes)) →
      ∃ changed, (run operations).map base bytes = .ok changed ∧
        changed.read base bytes.size = .ok bytes.toList) ∧
    ((run operations).map base bytes = .error (.wraps base bytes.size) ↔
      2 ^ 64 ≤ base.toNat + bytes.size) ∧
    ((run operations).map base bytes = .error (.overlap base) ↔
      base.toNat + bytes.size < 2 ^ 64 ∧ ∃ region ∈ (run operations).toList,
        Meets region (base, bytes) ∨ LiesEmptyIn region (base, bytes) ∨
          LiesEmptyIn (base, bytes) region) := by
  have hmem := wellFormed_run operations
  refine ⟨?_, map_eq_wraps_iff _ base bytes, ?_⟩
  · intro hne hfits hapart hnone
    have hclear : ∀ region ∈ (run operations).toList, Clear region (base, bytes) := by
      intro region hregion
      refine Classical.not_not.1 fun hbars => ?_
      rcases (not_clear_iff region (base, bytes)).1 hbars with hmeets | hempty | hempty
      · exact hapart region hregion hmeets
      · exact hnone region hregion hempty
      · exact hne hempty.1
    obtain ⟨changed, hmap⟩ := hmem.exists_map_of_clear hfits hclear
    exact ⟨changed, hmap, hmem.read_of_map hne hmap⟩
  · simp only [← not_clear_iff]
    exact hmem.map_eq_overlap_iff base bytes

/-- Between a region that ends at its base and an empty one behind its last byte, a region can be
mapped. -/
theorem placement_of_run_between :
    ∃ changed,
      (run [.map 0x1000 #[1, 2], .map 0x1004 #[], .map 0x1008 #[9]]).map 0x1002 #[3, 4] =
        .ok changed ∧
      changed.read 0x1002 2 = .ok [3, 4] := by
  have hclear : ∀ region ∈ (run [.map 0x1000 #[1, 2], .map 0x1004 #[], .map 0x1008 #[9]]).toList,
      Clear region (0x1002, #[3, 4]) := by decide
  refine (placement_of_run [.map 0x1000 #[1, 2], .map 0x1004 #[], .map 0x1008 #[9]] 0x1002
    #[3, 4]).1 (by decide) (by decide) ?_ ?_
  · intro region hregion hmeets
    exact (not_clear_iff _ _).2 (.inl hmeets) (hclear region hregion)
  · intro region hregion hempty
    exact (not_clear_iff _ _).2 (.inr (.inl hempty)) (hclear region hregion)

/-- The last address cannot be mapped although nothing wraps, and an empty region bars an address
that is not mapped. -/
theorem map_refused_where_free :
    (run []).map 0xFFFFFFFFFFFFFFFF #[0] = .error (.wraps 0xFFFFFFFFFFFFFFFF 1) ∧
    (0xFFFFFFFFFFFFFFFF : Address).toNat + 1 = 2 ^ 64 ∧
    (run [.map 0x1000 #[]]).map 0x1000 #[0] = .error (.overlap 0x1000) ∧
    ∀ region ∈ (run [.map 0x1000 #[]]).toList, ¬ Meets region (0x1000, #[0]) := by
  refine ⟨rfl, rfl, rfl, ?_⟩
  have hregions : (run [.map 0x1000 #[]]).toList = [(0x1000, #[])] := rfl
  rw [hregions, List.forall_mem_singleton]
  rintro ⟨address, hcovers, -⟩
  exact not_covers_empty _ _ hcovers

end KernelScope.Memory
