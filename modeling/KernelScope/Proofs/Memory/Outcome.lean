import KernelScope.Proofs.Memory.Invariant

/-!
# How operations on captured memory end

Mapping and reading end with a value or say which address is to blame, whatever they are asked for.
Of the sums that the operations form, the end of a region always is an address, and the end of a
read that succeeds lies in its region.  The one sum that may not fit a word is that of a write: the
distance of its address from the last region below, which may be as long as the address space, and
the number of its bytes (`write_eq_overflow_iff`).  A write for which it fits either stays in that
region or is refused with the address behind the region.
-/

set_option autoImplicit false

namespace KernelScope.Memory

/-! ## Mapping and reading -/

theorem map_eq_error {memory : Memory} {base : Address} {bytes : Array UInt8} {error : MemoryError}
    (h : memory.map base bytes = .error error) :
    error = .wraps base bytes.size ∨ error = .overlap base := by
  unfold map at h
  split at h
  · cases h
    exact .inl rfl
  · split at h
    · cases h
      exact .inr rfl
    · cases h

theorem read_eq_error {memory : Memory} {address : Address} {length : Nat} {error : MemoryError}
    (h : memory.read address length = .error error) :
    error = .unmapped address ∨ ∃ got < length, error = .shortRead address length got := by
  unfold read at h
  split at h
  · cases h
    exact .inl rfl
  · simp only at h
    split at h
    · cases h
      exact .inl rfl
    · split at h
      next hshort =>
        cases h
        exact .inr ⟨_, hshort, rfl⟩
      · cases h

/-- What is read lies in the last region at or below the address. -/
theorem inside_of_read {memory : Memory} {address : Address} {length : Nat} {bytes : List UInt8}
    (h : memory.read address length = .ok bytes) :
    ∃ region ∈ memory.toList, region.1 ≤ address ∧
      address.toNat - region.1.toNat + length ≤ region.2.size := by
  cases hfloor : memory.regions.floor? address with
  | none =>
    rw [read, hfloor] at h
    cases h
  | some region =>
    obtain ⟨hregion, hbelow, -⟩ := (OrderedMap.floor?_eq_some_iff _ _ _).1 hfloor
    refine ⟨region, hregion, Std.isLE_compare.1 hbelow, ?_⟩
    simp only [read, hfloor] at h
    split at h
    · cases h
    · split at h
      · cases h
      · omega

/-! ## Writing -/

section Writing

variable {memory : Memory} {address : Address}

theorem write_of_nothing_below (bytes : Array UInt8)
    (hfloor : memory.regions.floor? address = none) :
    memory.write address bytes = .error (.unmapped address) := by
  rw [write, hfloor]

variable {bytes : Array UInt8} {region : Address × Array UInt8}
  (hfloor : memory.regions.floor? address = some region)

include hfloor

theorem write_of_overflow (hlong : wordLimit ≤ address.toNat - region.1.toNat + bytes.size) :
    memory.write address bytes = .error (.overflow .addition) := by
  simp only [write, hfloor, if_pos hlong]

/-- A write that ends behind the last region below is refused with the address behind it. -/
theorem write_of_behind (hfits : address.toNat - region.1.toNat + bytes.size < wordLimit)
    (hbehind : region.2.size < address.toNat - region.1.toNat + bytes.size) :
    memory.write address bytes =
      .error (.unmapped (region.1 + UInt64.ofNat region.2.size)) := by
  simp only [write, hfloor, if_neg (Nat.not_le.2 hfits), if_pos hbehind]

theorem exists_write_of_inside (hfits : address.toNat - region.1.toNat + bytes.size < wordLimit)
    (hinside : address.toNat - region.1.toNat + bytes.size ≤ region.2.size) :
    ∃ changed, memory.write address bytes = .ok changed :=
  ⟨_, (write_eq_ok_iff _ _ _ _).2 ⟨region, hfloor, hfits, hinside, rfl⟩⟩

end Writing

/-- A write overflows exactly if its end, counted from the base of the last region at or below its
address, does not fit a word. -/
theorem write_eq_overflow_iff (memory : Memory) (address : Address) (bytes : Array UInt8) :
    memory.write address bytes = .error (.overflow .addition) ↔
      ∃ region, memory.regions.floor? address = some region ∧
        wordLimit ≤ address.toNat - region.1.toNat + bytes.size := by
  constructor
  · intro hwrite
    cases hfloor : memory.regions.floor? address with
    | none =>
      rw [write_of_nothing_below bytes hfloor] at hwrite
      cases hwrite
    | some region =>
      refine ⟨region, rfl, Nat.not_lt.1 fun hfits => ?_⟩
      by_cases hinside : address.toNat - region.1.toNat + bytes.size ≤ region.2.size
      · obtain ⟨changed, hchanged⟩ := exists_write_of_inside hfloor hfits hinside
        rw [hchanged] at hwrite
        cases hwrite
      · rw [write_of_behind hfloor hfits (Nat.not_le.1 hinside)] at hwrite
        cases hwrite
  · rintro ⟨region, hfloor, hlong⟩
    exact write_of_overflow hfloor hlong

/-! ## Behind whole runs -/

/-- Behind any run of operations, mapping and reading end with a value or with an error that tells
of the base or the address that was given.  Every region ends at an address, and a read that
succeeds ends in a region, so their sums fit a word.  A write overflows exactly if the distance of
its address from the last region below and the number of its bytes together do not fit a word.
Otherwise it is refused with its own address where there is no such region, and with the address
behind the region where it does not end in it, and else succeeds. -/
theorem outcome_of_run (operations : List Operation) :
    (∀ base bytes error, (run operations).map base bytes = .error error →
      error = .wraps base bytes.size ∨ error = .overlap base) ∧
    (∀ address length error, (run operations).read address length = .error error →
      error = .unmapped address ∨ ∃ got < length, error = .shortRead address length got) ∧
    (∀ region ∈ (run operations).toList, region.1.toNat + region.2.size < 2 ^ 64) ∧
    (∀ address length bytes, (run operations).read address length = .ok bytes →
      ∃ region ∈ (run operations).toList, region.1 ≤ address ∧
        address.toNat - region.1.toNat + length ≤ region.2.size) ∧
    (∀ address bytes, (run operations).write address bytes = .error (.overflow .addition) ↔
      ∃ region, (run operations).regions.floor? address = some region ∧
        2 ^ 64 ≤ address.toNat - region.1.toNat + bytes.size) ∧
    (∀ address bytes, (run operations).regions.floor? address = none →
      (run operations).write address bytes = .error (.unmapped address)) ∧
    ∀ address bytes region, (run operations).regions.floor? address = some region →
      address.toNat - region.1.toNat + bytes.size < 2 ^ 64 →
        (region.2.size < address.toNat - region.1.toNat + bytes.size →
          ∃ behind : Address, behind.toNat = region.1.toNat + region.2.size ∧
            (run operations).write address bytes = .error (.unmapped behind)) ∧
        (address.toNat - region.1.toNat + bytes.size ≤ region.2.size →
          ∃ changed, (run operations).write address bytes = .ok changed) := by
  have hmem := wellFormed_run operations
  refine ⟨fun _ _ _ => map_eq_error, fun _ _ _ => read_eq_error, hmem.ends,
    fun _ _ _ => inside_of_read, write_eq_overflow_iff _,
    fun _ bytes => write_of_nothing_below bytes, ?_⟩
  intro address bytes region hfloor hfits
  have hregion := ((OrderedMap.floor?_eq_some_iff _ _ _).1 hfloor).1
  exact ⟨fun hbehind => ⟨_, hmem.toNat_end hregion, write_of_behind hfloor hfits hbehind⟩,
    exists_write_of_inside hfloor hfits⟩

/-- With one byte mapped at the lowest address, writing one byte at the highest overflows. -/
theorem write_overflow_at_top :
    (run [.map 0 #[0]]).write 0xFFFFFFFFFFFFFFFF #[0xAA] = .error (.overflow .addition) := rfl

end KernelScope.Memory
