import KernelScope.Proofs.Memory.Outcome
import KernelScope.Proofs.Memory.Placement

/-!
# The address that an error names

Reading and writing both refuse what is not mapped, and name an address.  A read names its own
address, and no region holds it.  A write that does not end in the last region at or below its
address names the end of that region instead.  That this address is not mapped, and that it was
asked for at all, hangs on what lies around it: another region may begin right there, and the region
may end long before the write begins (`unmapped_of_run`).
-/

set_option autoImplicit false

namespace KernelScope.Memory

/-- Where every region that begins below an address also ends by then, the address belongs to no
region exactly if no region with bytes begins at it. -/
theorem uncovered_iff {memory : Memory} {address : Address}
    (hbelow : ∀ region ∈ memory.toList, region.1 < address →
      region.1.toNat + region.2.size ≤ address.toNat) :
    (∀ region ∈ memory.toList, ¬ Covers region address.toNat) ↔
      ∀ region ∈ memory.toList, region.1 = address → region.2 = #[] := by
  constructor
  · intro huncovered region hregion hbase
    refine Classical.byContradiction fun hne => huncovered region hregion ?_
    rw [← hbase]
    exact covers_base hne
  · intro hempty region hregion hcovers
    obtain ⟨hlow, hhigh⟩ := hcovers
    by_cases hbase : region.1 = address
    · rw [← hbase, hempty region hregion hbase] at hhigh
      simp at hhigh
    · have hlt : region.1 < address :=
        UInt64.lt_of_le_of_ne (UInt64.le_iff_toNat_le.2 hlow) hbase
      have hend := hbelow region hregion hlt
      omega

/-- Above the base of a region nothing begins before its end and reaches past it. -/
theorem WellFormed.ends_by_end {memory : Memory} (hmem : memory.WellFormed)
    {last : Address × Array UInt8} (hlast : last ∈ memory.toList) {behind : Address}
    (hbehind : behind.toNat = last.1.toNat + last.2.size) :
    ∀ region ∈ memory.toList, region.1 < behind →
      region.1.toNat + region.2.size ≤ behind.toNat := by
  intro region hregion hlt
  have hlt' : region.1.toNat < behind.toNat := UInt64.lt_iff_toNat_lt.1 hlt
  rcases OrderedMap.keyBefore_or_eq memory.regions.increasing hregion hlast with h | rfl | h
  · have hapart := hmem.apart region hregion last hlast ((keyBefore_iff _ _).1 h)
    omega
  · exact Nat.le_of_eq hbehind.symm
  · have hapart := hmem.apart last hlast region hregion ((keyBefore_iff _ _).1 h)
    omega

/-- A read is refused as unmapped with its own address, and no region holds it. -/
theorem WellFormed.uncovered_of_read {memory : Memory} (hmem : memory.WellFormed)
    {address named : Address} {length : Nat}
    (hread : memory.read address length = .error (.unmapped named)) :
    named = address ∧ ∀ region ∈ memory.toList, ¬ Covers region named.toNat := by
  rcases read_eq_error hread with hunmapped | ⟨got, -, hshort⟩
  · obtain rfl : named = address := by simpa using hunmapped
    exact ⟨rfl, (hmem.read_eq_unmapped_iff named length).1 hread⟩
  · cases hshort

/-- The address that a write is refused with is its own where no region begins at or below it, and
else the end of the last one of these. -/
theorem WellFormed.named_of_write {memory : Memory} (hmem : memory.WellFormed)
    {address named : Address} {bytes : Array UInt8}
    (hwrite : memory.write address bytes = .error (.unmapped named)) :
    (memory.regions.floor? address = none ∧ named = address) ∨
      ∃ last, memory.regions.floor? address = some last ∧
        named.toNat = last.1.toNat + last.2.size ∧
        named.toNat < address.toNat + bytes.size := by
  cases hfloor : memory.regions.floor? address with
  | none =>
    rw [write_of_nothing_below bytes hfloor] at hwrite
    cases hwrite
    exact .inl ⟨rfl, rfl⟩
  | some last =>
    obtain ⟨hlast, hlow⟩ := below_of_floor? hfloor
    refine .inr ⟨last, rfl, ?_⟩
    by_cases hlong : wordLimit ≤ address.toNat - last.1.toNat + bytes.size
    · rw [write_of_overflow hfloor hlong] at hwrite
      cases hwrite
    · have hfits := Nat.not_le.1 hlong
      by_cases hinside : address.toNat - last.1.toNat + bytes.size ≤ last.2.size
      · obtain ⟨changed, hchanged⟩ := exists_write_of_inside hfloor hfits hinside
        rw [hchanged] at hwrite
        cases hwrite
      · rw [write_of_behind hfloor hfits (Nat.not_le.1 hinside)] at hwrite
        cases hwrite
        have hend := hmem.toNat_end hlast
        exact ⟨hend, by omega⟩

/-! ## Behind whole runs -/

/-- Behind any run of operations, a read that is refused as unmapped names an address that it asked
for and that no region holds.  A write that is refused so names an address before its end.  It
asked for that address exactly if the last region at or below its own address, if there is one, does
not end before that; and no region holds the address exactly if no region with bytes begins at
it. -/
theorem unmapped_of_run (operations : List Operation) (address named : Address) :
    (∀ length, 0 < length → (run operations).read address length = .error (.unmapped named) →
      address ≤ named ∧ named.toNat < address.toNat + length ∧
        ∀ region ∈ (run operations).toList, ¬ Covers region named.toNat) ∧
    ∀ bytes, bytes ≠ #[] →
      (run operations).write address bytes = .error (.unmapped named) →
        named.toNat < address.toNat + bytes.size ∧
        (address ≤ named ↔ ∀ last, (run operations).regions.floor? address = some last →
          address.toNat ≤ last.1.toNat + last.2.size) ∧
        ((∀ region ∈ (run operations).toList, ¬ Covers region named.toNat) ↔
          ∀ region ∈ (run operations).toList, region.1 = named → region.2 = #[]) := by
  have hmem := wellFormed_run operations
  constructor
  · intro length hlength hread
    obtain ⟨rfl, huncovered⟩ := hmem.uncovered_of_read hread
    exact ⟨UInt64.le_rfl, by omega, huncovered⟩
  · intro bytes hne hwrite
    rcases hmem.named_of_write hwrite with ⟨hnone, rfl⟩ | ⟨last, hfloor, hnamed, hbefore⟩
    · have hsize : 0 < bytes.size := Array.size_pos_iff.2 hne
      refine ⟨by omega, by simp [hnone], uncovered_iff fun region hregion hlt => ?_⟩
      have habove := (OrderedMap.floor?_eq_none_iff _ _).1 hnone region hregion
      exact absurd (Std.isLE_compare.2 (UInt64.le_of_lt hlt)) habove
    · refine ⟨hbefore, ?_, uncovered_iff (hmem.ends_by_end (below_of_floor? hfloor).1 hnamed)⟩
      simp only [hfloor, Option.some.injEq, forall_eq', UInt64.le_iff_toNat_le, hnamed]

/-- Behind the last of two regions a read is refused, and so is a write that runs past it; both name
the end of that region, which is not mapped. -/
theorem unmapped_of_run_behind :
    let memory := run [.map 0x1000 #[1, 2], .map 0x1002 #[3, 4]]
    memory.read 0x1004 1 = .error (.unmapped 0x1004) ∧
    memory.write 0x1003 #[5, 6] = .error (.unmapped 0x1004) ∧
    (0x1003 : Address) ≤ 0x1004 ∧
    ∀ region ∈ memory.toList, ¬ Covers region 0x1004 := by
  intro memory
  have hread : memory.read 0x1004 1 = .error (.unmapped 0x1004) := rfl
  have hwrite : memory.write 0x1003 #[5, 6] = .error (.unmapped 0x1004) := rfl
  have huncovered := ((unmapped_of_run _ 0x1004 0x1004).1 1 (by decide) hread).2.2
  obtain ⟨-, hasked, -⟩ := (unmapped_of_run _ 0x1003 0x1004).2 #[5, 6] (by decide) hwrite
  refine ⟨hread, hwrite, hasked.2 fun last hlast => ?_, huncovered⟩
  cases hlast
  decide

/-- A write over two regions that touch is refused with an address that the second one holds, though
the first address not mapped is another; and a write above all regions is refused with an address
that it did not ask for. -/
theorem write_names_other_address :
    (run [.map 0x1000 #[1, 2], .map 0x1002 #[3, 4]]).write 0x1000 #[5, 5, 5, 5, 5] =
      .error (.unmapped 0x1002) ∧
    (∃ region ∈ (run [.map 0x1000 #[1, 2], .map 0x1002 #[3, 4]]).toList, Covers region 0x1002) ∧
    (run [.map 0x1000 #[1, 2], .map 0x1002 #[3, 4]]).write 0x2000 #[6] =
      .error (.unmapped 0x1004) ∧
    ¬ (0x2000 : Address) ≤ 0x1004 := by
  refine ⟨rfl, ⟨(0x1002, #[3, 4]), by decide, by decide⟩, rfl, by decide⟩

end KernelScope.Memory
