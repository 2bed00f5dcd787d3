import KernelScope.Proofs.Memory.Read

/-!
# Exact reads

A read looks at the last region at or below its address only.  Since the regions do not overlap,
this is the region that the address belongs to, if there is one: the address decides the region, and
the region decides what the read comes to (`read_of_run`).  A region without bytes has no address,
so it stands in the way of no read (`read_of_map_empty`).

`byte?` takes a memory for what it is to its readers, bytes at addresses, and a read for the bytes in
a row from its address on (`getElem?_of_read`).
-/

set_option autoImplicit false

namespace KernelScope.Memory

/-- The byte at an address, if it belongs to a region. -/
def byte? (memory : Memory) (address : Nat) : Option UInt8 :=
  memory.toList.findSome? fun region =>
    if region.1.toNat ≤ address then region.2[address - region.1.toNat]? else none

instance (region : Address × Array UInt8) (address : Nat) : Decidable (Covers region address) :=
  inferInstanceAs (Decidable (_ ∧ _))

/-- A region holds the address, or none does. -/
theorem covered_or_uncovered (memory : Memory) (address : Nat) :
    (∃ region ∈ memory.toList, Covers region address) ∨
      ∀ region ∈ memory.toList, ¬ Covers region address := by
  by_cases hcovered : ∃ region ∈ memory.toList, Covers region address
  · exact .inl hcovered
  · exact .inr fun region hregion hcovers => hcovered ⟨region, hregion, hcovers⟩

/-- Where no region holds the address, nothing can be read, not even no byte at all. -/
theorem read_of_uncovered {memory : Memory} {address : Address}
    (h : ∀ region ∈ memory.toList, ¬ Covers region address.toNat) (length : Nat) :
    memory.read address length = .error (.unmapped address) := by
  cases hfloor : memory.regions.floor? address with
  | none => rw [read, hfloor]
  | some region =>
    obtain ⟨hregion, hlow⟩ := below_of_floor? hfloor
    have hbehind : region.2.size ≤ address.toNat - region.1.toNat := by
      have hnot := h region hregion
      simp only [Covers, hlow, true_and] at hnot
      omega
    simp only [read, hfloor, if_pos hbehind]

/-- No address is in a region without bytes. -/
theorem not_covers_empty (base : Address) (address : Nat) : ¬ Covers (base, #[]) address := by
  simp [Covers]

/-- The bytes of a part of a row, each in its place. -/
theorem getElem?_slice {bytes : Array UInt8} {start length i : Nat} (hi : i < length) :
    (bytes.extract start (start + length)).toList[i]? = bytes[start + i]? := by
  rw [Array.toList_extract, List.extract_eq_take_drop, Nat.add_sub_cancel_left,
    List.getElem?_take_of_lt hi, List.getElem?_drop, Array.getElem?_toList]

theorem length_slice {bytes : Array UInt8} {start length : Nat}
    (hfits : start + length ≤ bytes.size) :
    (bytes.extract start (start + length)).toList.length = length := by
  rw [Array.length_toList, Array.size_extract]
  omega

/-- A part of a part of a row is a part of the row. -/
theorem slice_slice {bytes : Array UInt8} {first length start count : Nat}
    (hinside : start + count ≤ length) :
    ((bytes.extract first (first + length)).toList.drop start).take count =
      (bytes.extract (first + start) (first + start + count)).toList := by
  rw [Array.toList_extract, Array.toList_extract, List.extract_eq_take_drop,
    List.extract_eq_take_drop, Nat.add_sub_cancel_left, Nat.add_sub_cancel_left, List.drop_take,
    List.drop_drop, List.take_take, Nat.min_eq_left (by omega)]

namespace WellFormed

variable {memory : Memory} (hmem : memory.WellFormed)

include hmem

/-! ## The region of an address -/

theorem read_eq_unmapped_iff (address : Address) (length : Nat) :
    memory.read address length = .error (.unmapped address) ↔
      ∀ region ∈ memory.toList, ¬ Covers region address.toNat := by
  constructor
  · intro hread region hregion hcovers
    rw [hmem.read_of_covers hregion hcovers] at hread
    split at hread <;> cases hread
  · intro huncovered
    exact read_of_uncovered huncovered length

section Covered

variable {region : Address × Array UInt8} (hregion : region ∈ memory.toList) {address : Address}
  (hcovers : Covers region address.toNat) (length : Nat)

include hregion hcovers

theorem read_eq_shortRead_iff :
    memory.read address length =
        .error (.shortRead address length (region.1.toNat + region.2.size - address.toNat)) ↔
      region.1.toNat + region.2.size - address.toNat < length := by
  rw [hmem.read_of_covers hregion hcovers]
  split
  next hshort => simp [hshort]
  next henough => simp [henough]

theorem read_eq_ok_iff :
    memory.read address length =
        .ok (region.2.extract (address.toNat - region.1.toNat)
          (address.toNat - region.1.toNat + length)).toList ↔
      length ≤ region.1.toNat + region.2.size - address.toNat := by
  rw [hmem.read_of_covers hregion hcovers]
  split
  next hshort => simp [Nat.not_le.2 hshort]
  next henough => simp [Nat.not_lt.1 henough]

end Covered

/-- A read that succeeds lies in the region of its address, and gives its bytes from there on. -/
theorem slice_of_read {address : Address} {length : Nat} {row : List UInt8}
    (hread : memory.read address length = .ok row) :
    ∃ region ∈ memory.toList, Covers region address.toNat ∧
      address.toNat + length ≤ region.1.toNat + region.2.size ∧
      row = (region.2.extract (address.toNat - region.1.toNat)
        (address.toNat - region.1.toNat + length)).toList := by
  rcases covered_or_uncovered memory address.toNat with ⟨region, hregion, hcovers⟩ | huncovered
  · rw [hmem.read_of_covers hregion hcovers] at hread
    split at hread
    · cases hread
    next henough =>
      obtain ⟨hlow, hhigh⟩ := hcovers
      exact ⟨region, hregion, ⟨hlow, hhigh⟩, by omega, (Except.ok.inj hread).symm⟩
  · rw [read_of_uncovered huncovered] at hread
    cases hread

/-- Memories that differ only in regions without bytes are read alike. -/
theorem read_eq_of_bytes {other : Memory} (hother : other.WellFormed)
    (h : ∀ region, region.2 ≠ #[] → (region ∈ memory.toList ↔ region ∈ other.toList))
    (address : Address) (length : Nat) :
    memory.read address length = other.read address length := by
  have hnonempty : ∀ region : Address × Array UInt8, Covers region address.toNat →
      region.2 ≠ #[] := by
    rintro ⟨base, bytes⟩ hcovers rfl
    exact not_covers_empty base _ hcovers
  rcases covered_or_uncovered memory address.toNat with ⟨region, hregion, hcovers⟩ | huncovered
  · have hregionOther := (h region (hnonempty region hcovers)).1 hregion
    rw [hmem.read_of_covers hregion hcovers, hother.read_of_covers hregionOther hcovers]
  · have huncoveredOther : ∀ region ∈ other.toList, ¬ Covers region address.toNat :=
      fun region hregion hcovers =>
        huncovered region ((h region (hnonempty region hcovers)).2 hregion) hcovers
    rw [read_of_uncovered huncovered, read_of_uncovered huncoveredOther]

/-- Whether a read fails, and how, depends on where regions lie and not on their bytes. -/
theorem read_eq_error_of_extents {other : Memory} (hother : other.WellFormed)
    (h : memory.extents = other.extents) {address : Address} {length : Nat} {error : MemoryError}
    (hread : memory.read address length = .error error) :
    other.read address length = .error error := by
  rcases covered_or_uncovered other address.toNat with ⟨twin, htwin, hcovers⟩ | huncoveredOther
  · have hextent : (twin.1, twin.2.size) ∈ memory.extents := h ▸ List.mem_map_of_mem htwin
    obtain ⟨⟨base, bytes⟩, hregion, hsame⟩ := List.mem_map.1 hextent
    obtain ⟨rfl, hsize⟩ := Prod.mk.inj hsame
    have hregionCovers : Covers (twin.1, bytes) address.toNat := by
      simpa only [Covers, hsize] using hcovers
    rw [hmem.read_of_covers hregion hregionCovers] at hread
    rw [hother.read_of_covers htwin hcovers]
    simp only [hsize] at hread
    split at hread
    next hshort => rw [if_pos hshort, hread]
    · cases hread
  · have huncovered : ∀ region ∈ memory.toList, ¬ Covers region address.toNat := by
      intro region hregion hcovers
      have hextent : (region.1, region.2.size) ∈ other.extents := h ▸ List.mem_map_of_mem hregion
      obtain ⟨twin, htwin, hsame⟩ := List.mem_map.1 hextent
      obtain ⟨hbase, hsize⟩ := Prod.mk.inj hsame
      exact huncoveredOther twin htwin (by simpa only [Covers, hbase, hsize] using hcovers)
    rw [read_of_uncovered huncovered] at hread
    rw [read_of_uncovered huncoveredOther, hread]

/-- An empty region hides no byte, wherever it is mapped. -/
theorem read_of_map_empty {base : Address} {changed : Memory}
    (hmap : memory.map base #[] = .ok changed) (address : Address) (length : Nat) :
    changed.read address length = memory.read address length := by
  refine (hmem.wellFormed_of_map hmap).read_eq_of_bytes hmem ?_ address length
  intro region hbytes
  rw [hmem.mem_toList_of_map hmap]
  constructor
  · rintro (rfl | hold)
    · exact absurd rfl hbytes
    · exact hold
  · exact .inr

/-! ## Bytes at addresses -/

theorem byte?_of_covers {region : Address × Array UInt8} (hregion : region ∈ memory.toList)
    {address : Nat} (hcovers : Covers region address) :
    memory.byte? address = region.2[address - region.1.toNat]? := by
  have hinside : address - region.1.toNat < region.2.size := by
    obtain ⟨hlow, hhigh⟩ := hcovers
    omega
  cases hbyte : memory.byte? address with
  | none =>
    have hnone := List.findSome?_eq_none_iff.1 hbyte region hregion
    rw [if_pos hcovers.1] at hnone
    exact hnone.symm
  | some byte =>
    obtain ⟨other, hother, hfound⟩ := List.exists_of_findSome?_eq_some hbyte
    split at hfound
    next hlow =>
      obtain ⟨hsize, -⟩ := Array.getElem?_eq_some_iff.1 hfound
      rw [← hmem.eq_of_covers hother hregion ⟨hlow, by omega⟩ hcovers, hfound]
    · cases hfound

omit hmem in
theorem byte?_of_uncovered {address : Nat}
    (h : ∀ region ∈ memory.toList, ¬ Covers region address) : memory.byte? address = none := by
  refine List.findSome?_eq_none_iff.2 fun region hregion => ?_
  split
  next hlow =>
    have hnot := h region hregion
    simp only [Covers, hlow, true_and] at hnot
    exact Array.getElem?_eq_none (by omega)
  · rfl

theorem length_of_read {address : Address} {length : Nat} {row : List UInt8}
    (hread : memory.read address length = .ok row) : row.length = length := by
  obtain ⟨region, -, ⟨hlow, hhigh⟩, hfits, rfl⟩ := hmem.slice_of_read hread
  exact length_slice (by omega)

/-- What is read are the bytes at the addresses, in their order. -/
theorem getElem?_of_read {address : Address} {length : Nat} {row : List UInt8}
    (hread : memory.read address length = .ok row) {i : Nat} (hi : i < length) :
    row[i]? = memory.byte? (address.toNat + i) := by
  obtain ⟨region, hregion, ⟨hlow, hhigh⟩, hfits, rfl⟩ := hmem.slice_of_read hread
  rw [getElem?_slice hi, hmem.byte?_of_covers hregion ⟨by omega, by omega⟩,
    show address.toNat - region.1.toNat + i = address.toNat + i - region.1.toNat by omega]

/-- Where bytes can be read, any of them can be read alone, and the sum for their address does not
wrap. -/
theorem read_of_read {address : Address} {length : Nat} {row : List UInt8}
    (hread : memory.read address length = .ok row) {start count : Nat} (hpos : 0 < count)
    (hinside : start + count ≤ length) :
    address.toNat + start < wordLimit ∧
      memory.read (address + UInt64.ofNat start) count = .ok ((row.drop start).take count) := by
  obtain ⟨region, hregion, ⟨hlow, hhigh⟩, hfits, rfl⟩ := hmem.slice_of_read hread
  have hend : region.1.toNat + region.2.size < wordLimit := hmem.ends region hregion
  have hsum : (address + UInt64.ofNat start).toNat = address.toNat + start :=
    toNat_add_ofNat (by omega)
  have hcovers : Covers region (address + UInt64.ofNat start).toNat := by
    rw [hsum]
    exact ⟨by omega, by omega⟩
  refine ⟨by omega, ?_⟩
  rw [(hmem.read_eq_ok_iff hregion hcovers count).2 (by omega), hsum, slice_slice hinside,
    show address.toNat - region.1.toNat + start = address.toNat + start - region.1.toNat by omega]

end WellFormed

/-! ## Behind whole runs -/

/-- Behind any run of operations, a read is refused as unmapped exactly if no region holds its
address.  Otherwise one region does, and the read is short exactly if it asks for more bytes than
follow in it, and else gives just these bytes.  No sum or difference that the read forms leaves the
address space or the region, and no empty region makes a difference to it. -/
theorem read_of_run (operations : List Operation) (address : Address) (length : Nat) :
    -- no region holds the address
    ((run operations).read address length = .error (.unmapped address) ↔
      ∀ region ∈ (run operations).toList, ¬ Covers region address.toNat) ∧
    -- one region holds it
    (∀ base bytes, (base, bytes) ∈ (run operations).toList →
      Covers (base, bytes) address.toNat →
      (∀ other ∈ (run operations).toList, Covers other address.toNat → other = (base, bytes)) ∧
      ((run operations).read address length =
          .error (.shortRead address length (base.toNat + bytes.size - address.toNat)) ↔
        base.toNat + bytes.size - address.toNat < length) ∧
      ((run operations).read address length =
          .ok (bytes.extract (address.toNat - base.toNat)
            (address.toNat - base.toNat + length)).toList ↔
        ¬ base.toNat + bytes.size - address.toNat < length)) ∧
    -- sums, differences and slices
    (∀ base bytes, (run operations).regions.floor? address = some (base, bytes) →
      base.toNat ≤ address.toNat ∧ base.toNat + bytes.size < 2 ^ 64 ∧
      ∀ row, (run operations).read address length = .ok row →
        address.toNat - base.toNat < bytes.size ∧
        address.toNat - base.toNat + length ≤ bytes.size ∧ row.length = length) ∧
    -- empty regions
    ∀ base changed, (run operations).map base #[] = .ok changed →
      changed.read address length = (run operations).read address length := by
  have hmem := wellFormed_run operations
  refine ⟨hmem.read_eq_unmapped_iff address length, ?_, ?_, ?_⟩
  · intro base bytes hregion hcovers
    refine ⟨?_, hmem.read_eq_shortRead_iff hregion hcovers length, ?_⟩
    · intro other hother hotherCovers
      exact hmem.eq_of_covers hother hregion hotherCovers hcovers
    · rw [Nat.not_lt]
      exact hmem.read_eq_ok_iff hregion hcovers length
  · intro base bytes hfloor
    obtain ⟨hregion, hlow⟩ := below_of_floor? hfloor
    refine ⟨hlow, hmem.ends _ hregion, ?_⟩
    intro row hread
    obtain ⟨other, hother, hcovers, hfits, -⟩ := hmem.slice_of_read hread
    -- the region of the address is the one that the read looks at
    rw [hmem.floor?_of_covers hother hcovers, Option.some.injEq] at hfloor
    subst hfloor
    simp only at hlow hfits
    have hhigh : address.toNat < base.toNat + bytes.size := hcovers.2
    exact ⟨by omega, by omega, hmem.length_of_read hread⟩
  · intro base changed hmap
    exact hmem.read_of_map_empty hmap address length

/-- A region and an empty one at its end: a read inside, one that is short, one at the end, and one
before and after the empty region was mapped. -/
theorem read_of_run_beside_empty :
    (run [.map 0x1000 #[1, 2, 3], .map 0x1003 #[]]).read 0x1001 2 = .ok [2, 3] ∧
    (run [.map 0x1000 #[1, 2, 3], .map 0x1003 #[]]).read 0x1001 3 =
      .error (.shortRead 0x1001 3 2) ∧
    (run [.map 0x1000 #[1, 2, 3], .map 0x1003 #[]]).read 0x1003 0 = .error (.unmapped 0x1003) ∧
    ∃ changed, (run [.map 0x1000 #[1, 2, 3]]).map 0x1003 #[] = .ok changed ∧
      changed.read 0x1002 1 = (run [.map 0x1000 #[1, 2, 3]]).read 0x1002 1 := by
  have hregion : ((0x1000, #[1, 2, 3]) : Address × Array UInt8) ∈
      (run [.map 0x1000 #[1, 2, 3], .map 0x1003 #[]]).toList := by decide
  refine ⟨?_, ?_, ?_, ?_⟩
  · exact ((read_of_run _ 0x1001 2).2.1 _ _ hregion (by decide)).2.2.2 (by decide)
  · exact ((read_of_run _ 0x1001 3).2.1 _ _ hregion (by decide)).2.1.2 (by decide)
  · exact (read_of_run _ 0x1003 0).1.2 (by decide)
  · exact ⟨_, rfl, (read_of_run _ 0x1002 1).2.2.2 0x1003 _ rfl⟩

end KernelScope.Memory
