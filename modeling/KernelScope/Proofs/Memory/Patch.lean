import KernelScope.Proofs.Memory.Exact

/-!
# Reads after a write

A write of at least one byte succeeds exactly where as many bytes can be read, though the two look
at their region in different ways.  Behind it, the bytes in its window are the new ones and every
other byte is what it was (`byte?_of_write`); no read fails that did not fail before, nor the other
way round.  A write over the same window leaves nothing of the one before (`write_write`).
-/

set_option autoImplicit false

namespace KernelScope.Memory

/-! ## Bytes of a region -/

theorem getElem?_overwrite {region bytes : Array UInt8} {start : Nat}
    (hfits : start + bytes.size ≤ region.size) (i : Nat) :
    (overwrite region start bytes)[i]? =
      if start ≤ i ∧ i < start + bytes.size then bytes[i - start]? else region[i]? := by
  have hfront : (region.extract 0 start).size = start := by
    rw [Array.size_extract]
    omega
  rw [overwrite, Array.append_assoc, Array.getElem?_append, hfront]
  by_cases hbefore : i < start
  · rw [if_pos hbefore, if_neg (by omega), Array.getElem?_extract, if_pos (by omega), Nat.zero_add]
  · rw [if_neg hbefore, Array.getElem?_append]
    by_cases hinside : i - start < bytes.size
    · rw [if_pos hinside, if_pos (by omega)]
    · rw [if_neg hinside, if_neg (by omega), Array.getElem?_extract]
      by_cases hlast : i < region.size
      · rw [if_pos (by omega), show start + bytes.size + (i - start - bytes.size) = i by omega]
      · rw [if_neg (by omega), Array.getElem?_eq_none (by omega)]

/-- Bytes put over as many others leave nothing of them. -/
theorem overwrite_overwrite {region bytes again : Array UInt8} {start : Nat}
    (hfits : start + bytes.size ≤ region.size) (hsize : again.size = bytes.size) :
    overwrite (overwrite region start bytes) start again = overwrite region start again := by
  apply Array.ext_getElem?
  intro i
  have hfitsAgain : start + again.size ≤ region.size := by omega
  rw [getElem?_overwrite (by rwa [size_overwrite hfits]), getElem?_overwrite hfitsAgain,
    getElem?_overwrite hfits, hsize]
  split <;> rfl

namespace WellFormed

variable {memory : Memory} (hmem : memory.WellFormed)

include hmem

/-! ## Where a write succeeds -/

/-- Bytes that end in the region of their address are written there. -/
theorem write_of_covers {region : Address × Array UInt8} (hregion : region ∈ memory.toList)
    {address : Address} (hcovers : Covers region address.toNat) {bytes : Array UInt8}
    (hfits : address.toNat + bytes.size ≤ region.1.toNat + region.2.size) :
    memory.write address bytes = .ok ⟨memory.regions.insert region.1
      (overwrite region.2 (address.toNat - region.1.toNat) bytes)⟩ := by
  have hlow : region.1.toNat ≤ address.toNat := hcovers.1
  have hend := hmem.ends region hregion
  exact (write_eq_ok_iff _ _ _ _).2
    ⟨region, hmem.floor?_of_covers hregion hcovers, by omega, by omega, rfl⟩

omit hmem in
/-- A write of some bytes that succeeds ends in the region of its address. -/
theorem covers_of_write {address : Address} {bytes : Array UInt8} (hne : bytes ≠ #[])
    {changed : Memory} (hwrite : memory.write address bytes = .ok changed) :
    ∃ region ∈ memory.toList, Covers region address.toNat ∧
      address.toNat + bytes.size ≤ region.1.toNat + region.2.size ∧
      changed = ⟨memory.regions.insert region.1
        (overwrite region.2 (address.toNat - region.1.toNat) bytes)⟩ := by
  obtain ⟨region, hfloor, -, hfits, rfl⟩ := (write_eq_ok_iff _ _ _ _).1 hwrite
  obtain ⟨hregion, hlow⟩ := below_of_floor? hfloor
  have hsize : 0 < bytes.size := Array.size_pos_iff.2 hne
  exact ⟨region, hregion, ⟨hlow, by omega⟩, by omega, rfl⟩

/-- Some bytes can be written exactly where as many can be read. -/
theorem exists_write_iff_exists_read (address : Address) {bytes : Array UInt8}
    (hne : bytes ≠ #[]) :
    (∃ changed, memory.write address bytes = .ok changed) ↔
      ∃ row, memory.read address bytes.size = .ok row := by
  constructor
  · rintro ⟨changed, hwrite⟩
    obtain ⟨region, hregion, hcovers, hfits, -⟩ := covers_of_write hne hwrite
    exact ⟨_, (hmem.read_eq_ok_iff hregion hcovers _).2 (by omega)⟩
  · rintro ⟨row, hread⟩
    obtain ⟨region, hregion, hcovers, hfits, -⟩ := hmem.slice_of_read hread
    exact ⟨_, hmem.write_of_covers hregion hcovers hfits⟩

/-- Writing keeps the invariant. -/
theorem wellFormed_of_write {address : Address} {bytes : Array UInt8} {changed : Memory}
    (hwrite : memory.write address bytes = .ok changed) : changed.WellFormed := by
  rw [wellFormed_iff_extents, extents_of_write hwrite]
  exact (wellFormed_iff_extents memory).1 hmem

/-! ## Behind a write -/

section Written

variable {address : Address} {bytes : Array UInt8} (hne : bytes ≠ #[]) {changed : Memory}
  (hwrite : memory.write address bytes = .ok changed)

include hwrite

theorem read_of_write_eq_error_iff (other : Address) (length : Nat) (error : MemoryError) :
    changed.read other length = .error error ↔ memory.read other length = .error error := by
  have hchanged := hmem.wellFormed_of_write hwrite
  have hextents := extents_of_write hwrite
  exact ⟨hchanged.read_eq_error_of_extents hmem hextents,
    hmem.read_eq_error_of_extents hchanged hextents.symm⟩

include hne

/-- Behind a write, the bytes in its window are the new ones, and all others are what they were. -/
theorem byte?_of_write (other : Nat) :
    changed.byte? other =
      if address.toNat ≤ other ∧ other < address.toNat + bytes.size then
        bytes[other - address.toNat]?
      else memory.byte? other := by
  have hchanged := hmem.wellFormed_of_write hwrite
  obtain ⟨region, hregion, ⟨hlow, hhigh⟩, hfits, rfl⟩ := covers_of_write hne hwrite
  have hinside : address.toNat - region.1.toNat + bytes.size ≤ region.2.size := by omega
  have hmembers := OrderedMap.mem_insert_iff memory.regions region.1
    (overwrite region.2 (address.toNat - region.1.toNat) bytes)
  by_cases hcovers : Covers region other
  · have hnewCovers : Covers (region.1,
        overwrite region.2 (address.toNat - region.1.toNat) bytes) other := by
      simpa only [Covers, size_overwrite hinside] using hcovers
    rw [hchanged.byte?_of_covers ((hmembers _).2 (.inl rfl)) hnewCovers,
      hmem.byte?_of_covers hregion hcovers, getElem?_overwrite hinside]
    simp only
    obtain ⟨hotherLow, hotherHigh⟩ := hcovers
    by_cases hwindow : address.toNat ≤ other ∧ other < address.toNat + bytes.size
    · rw [if_pos hwindow, if_pos (by omega), show other - region.1.toNat -
        (address.toNat - region.1.toNat) = other - address.toNat by omega]
    · rw [if_neg hwindow, if_neg (by omega)]
  · -- the window lies in the region that was written to
    have houtside : ¬ (address.toNat ≤ other ∧ other < address.toNat + bytes.size) :=
      fun hwindow => hcovers ⟨by omega, by omega⟩
    rw [if_neg houtside]
    rcases covered_or_uncovered memory other with ⟨same, hsame, hsameCovers⟩ | huncovered
    · have hbase : same.1 ≠ region.1 := by
        intro hbase
        rw [memory.regions.eq_of_key_eq hsame hregion hbase] at hsameCovers
        exact hcovers hsameCovers
      rw [hchanged.byte?_of_covers ((hmembers _).2 (.inr ⟨hsame, hbase⟩)) hsameCovers,
        hmem.byte?_of_covers hsame hsameCovers]
    · rw [byte?_of_uncovered huncovered]
      refine byte?_of_uncovered fun same hsame hsameCovers => ?_
      rcases (hmembers same).1 hsame with rfl | ⟨hold, -⟩
      · exact hcovers (by simpa only [Covers, size_overwrite hinside] using hsameCovers)
      · exact huncovered same hold hsameCovers

/-- Behind a write, what was written is read. -/
theorem read_of_write : changed.read address bytes.size = .ok bytes.toList := by
  have hchanged := hmem.wellFormed_of_write hwrite
  obtain ⟨row, hrow⟩ := (hmem.exists_write_iff_exists_read address hne).1 ⟨changed, hwrite⟩
  cases hafter : changed.read address bytes.size with
  | error error =>
    rw [(hmem.read_of_write_eq_error_iff hwrite address bytes.size error).1 hafter] at hrow
    cases hrow
  | ok after =>
    have hlength := hchanged.length_of_read hafter
    congr 1
    refine List.ext_getElem? fun i => ?_
    by_cases hi : i < bytes.size
    · rw [hchanged.getElem?_of_read hafter hi, hmem.byte?_of_write hne hwrite,
        if_pos ⟨by omega, by omega⟩, Nat.add_sub_cancel_left, Array.getElem?_toList]
    · rw [List.getElem?_eq_none (by omega), List.getElem?_eq_none (by simpa using hi)]

/-- Of two writes over the same window, the last one counts. -/
theorem write_write {again : Array UInt8} (hsize : again.size = bytes.size) :
    ∃ last, changed.write address again = .ok last ∧ memory.write address again = .ok last := by
  have hchanged := hmem.wellFormed_of_write hwrite
  obtain ⟨region, hregion, ⟨hlow, hhigh⟩, hfits, rfl⟩ := covers_of_write hne hwrite
  have hinside : address.toNat - region.1.toNat + bytes.size ≤ region.2.size := by omega
  have hnew := (OrderedMap.mem_insert_iff memory.regions region.1
    (overwrite region.2 (address.toNat - region.1.toNat) bytes) _).2 (.inl rfl)
  have hnewSize := size_overwrite hinside
  have hnewCovers : Covers (region.1, overwrite region.2 (address.toNat - region.1.toNat) bytes)
      address.toNat := ⟨hlow, by simpa only [hnewSize] using hhigh⟩
  have hagainFits : address.toNat + again.size ≤ region.1.toNat + region.2.size := by omega
  refine ⟨_, ?_, hmem.write_of_covers hregion ⟨hlow, hhigh⟩ hagainFits⟩
  rw [hchanged.write_of_covers hnew hnewCovers (by simpa only [hnewSize] using hagainFits),
    OrderedMap.insert_insert, overwrite_overwrite hinside hsize]

end Written

end WellFormed

/-! ## Behind whole runs -/

/-- Behind any run of operations, some bytes can be written exactly where as many can be read.  After
they have been, every read fails just as it did or succeeds as it did; then the bytes in the window
are those that were written, and the others those that were read before.  Writing as many bytes there
again gives the memory that would be without the first write. -/
theorem read_after_write (operations : List Operation) (address : Address) (bytes : Array UInt8)
    (hne : bytes ≠ #[]) :
    ((∃ changed, (run operations).write address bytes = .ok changed) ↔
      ∃ row, (run operations).read address bytes.size = .ok row) ∧
    ∀ changed, (run operations).write address bytes = .ok changed →
      (∀ (other : Address) (length : Nat) (error : MemoryError),
        changed.read other length = .error error ↔
          (run operations).read other length = .error error) ∧
      (∀ (other : Address) (length : Nat) (before : List UInt8),
        (run operations).read other length = .ok before →
        ∃ after, changed.read other length = .ok after ∧ after.length = length ∧
          ∀ i < length, after[i]? =
            if address.toNat ≤ other.toNat + i ∧
                other.toNat + i < address.toNat + bytes.size then
              bytes[other.toNat + i - address.toNat]?
            else before[i]?) ∧
      ∀ again : Array UInt8, again.size = bytes.size →
        ∃ last, changed.write address again = .ok last ∧
          (run operations).write address again = .ok last := by
  have hmem := wellFormed_run operations
  refine ⟨hmem.exists_write_iff_exists_read address hne, fun changed hwrite => ⟨?_, ?_, ?_⟩⟩
  · exact hmem.read_of_write_eq_error_iff hwrite
  · intro other length before hbefore
    have hchanged := hmem.wellFormed_of_write hwrite
    cases hafter : changed.read other length with
    | error error =>
      rw [(hmem.read_of_write_eq_error_iff hwrite other length error).1 hafter] at hbefore
      cases hbefore
    | ok after =>
      refine ⟨after, rfl, hchanged.length_of_read hafter, fun i hi => ?_⟩
      rw [hchanged.getElem?_of_read hafter hi, hmem.getElem?_of_read hbefore hi,
        hmem.byte?_of_write hne hwrite]
  · intro again hsize
    exact hmem.write_write hne hwrite hsize

/-- Two regions that touch, the first one written to at its end: a read that overlaps the window in
part, one of the region behind it, one that is short and one that is not mapped, and a second write
over the first. -/
theorem read_after_write_touching :
    #[0xAA, 0xBB] ≠ (#[] : Array UInt8) ∧
    ∃ changed,
      (run [.map 0x1000 #[1, 2, 3, 4], .map 0x1004 #[5, 6]]).write 0x1002 #[0xAA, 0xBB] =
        .ok changed ∧
      (∃ after, changed.read 0x1001 2 = .ok after ∧ after[0]? = some 2 ∧ after[1]? = some 0xAA) ∧
      (∃ after, changed.read 0x1004 2 = .ok after ∧ after[0]? = some 5 ∧ after[1]? = some 6) ∧
      changed.read 0x1003 2 = .error (.shortRead 0x1003 2 1) ∧
      changed.read 0x1006 1 = .error (.unmapped 0x1006) ∧
      ∃ last, changed.write 0x1002 #[7, 8] = .ok last ∧
        (run [.map 0x1000 #[1, 2, 3, 4], .map 0x1004 #[5, 6]]).write 0x1002 #[7, 8] = .ok last := by
  have hne : #[0xAA, 0xBB] ≠ (#[] : Array UInt8) := by decide
  obtain ⟨hpossible, hbehind⟩ := read_after_write
    [.map 0x1000 #[1, 2, 3, 4], .map 0x1004 #[5, 6]] 0x1002 #[0xAA, 0xBB] hne
  obtain ⟨changed, hwrite⟩ := hpossible.2 ⟨[3, 4], rfl⟩
  obtain ⟨herrors, hrows, hagain⟩ := hbehind changed hwrite
  obtain ⟨partly, hpartly, -, hpartlyBytes⟩ := hrows 0x1001 2 [2, 3] rfl
  obtain ⟨apart, hapart, -, hapartBytes⟩ := hrows 0x1004 2 [5, 6] rfl
  refine ⟨hne, changed, hwrite, ⟨partly, hpartly, ?_, ?_⟩, ⟨apart, hapart, ?_, ?_⟩,
    (herrors 0x1003 2 _).2 rfl, (herrors 0x1006 1 _).2 rfl, hagain #[7, 8] rfl⟩
  · exact hpartlyBytes 0 (by decide)
  · exact hpartlyBytes 1 (by decide)
  · exact hapartBytes 0 (by decide)
  · exact hapartBytes 1 (by decide)

end KernelScope.Memory
