import KernelScope.Proofs.Memory.Invariant

/-!
# Bytes that lie in memory

Bytes lie at an address if one region holds all of them there.  A read of these bytes succeeds and
gives them back, because the invariant leaves no other region at or below the address that begins
later.
-/

set_option autoImplicit false

namespace KernelScope.Memory

/-- One region holds the bytes from the address on. -/
def Holds (memory : Memory) (address : Nat) (bytes : List UInt8) : Prop :=
  ∃ region ∈ memory.toList, region.1.toNat ≤ address ∧
    address + bytes.length ≤ region.1.toNat + region.2.size ∧
    (region.2.extract (address - region.1.toNat)
      (address - region.1.toNat + bytes.length)).toList = bytes

/-- What stands in a row of bytes lies in a memory in which just this row is mapped. -/
theorem holds_run_map {base : Address} {row : List UInt8}
    (hfits : base.toNat + row.length < wordLimit) {address : Nat} {bytes : List UInt8}
    (hlow : base.toNat ≤ address) (hhigh : address + bytes.length ≤ base.toNat + row.length)
    (hbytes : (row.drop (address - base.toNat)).take bytes.length = bytes) :
    (run [.map base row.toArray]).Holds address bytes := by
  have hmap : empty.map base row.toArray = .ok ⟨OrderedMap.empty.insert base row.toArray⟩ := by
    refine (wellFormed_empty.map_eq_ok_iff _ _ _).2 ⟨hfits, ?_, ?_, rfl⟩ <;>
      simp [empty, toList, OrderedMap.empty]
  have hrun : run [.map base row.toArray] = ⟨OrderedMap.empty.insert base row.toArray⟩ :=
    after_of_ok hmap
  refine ⟨(base, row.toArray), ?_, hlow, hhigh, ?_⟩
  · rw [hrun]
    exact List.mem_singleton_self _
  · rw [Array.toList_extract, List.extract_eq_take_drop, Nat.add_sub_cancel_left]
    exact hbytes

/-- The last region at or below an address is a region, and is at or below it. -/
theorem below_of_floor? {memory : Memory} {address : Address} {region : Address × Array UInt8}
    (hfloor : memory.regions.floor? address = some region) :
    region ∈ memory.toList ∧ region.1.toNat ≤ address.toNat := by
  obtain ⟨hregion, hbelow, -⟩ := (OrderedMap.floor?_eq_some_iff _ _ _).1 hfloor
  exact ⟨hregion, UInt64.le_iff_toNat_le.1 (Std.isLE_compare.1 hbelow)⟩

/-- Where many bytes can be read, so can the first ones of them. -/
theorem read_take {memory : Memory} {address : Address} {length : Nat} {bytes : List UInt8}
    (h : memory.read address length = .ok bytes) {count : Nat} (hcount : count ≤ length) :
    memory.read address count = .ok (bytes.take count) := by
  unfold read at h ⊢
  cases hfloor : memory.regions.floor? address with
  | none => simp [hfloor] at h
  | some region =>
    simp only [hfloor] at h ⊢
    by_cases hinside : region.2.size ≤ address.toNat - region.1.toNat
    · simp [hinside] at h
    · by_cases henough : region.2.size - (address.toNat - region.1.toNat) < length
      · simp [hinside, henough] at h
      · have hbytes := Except.ok.inj (by simpa only [if_neg hinside, if_neg henough] using h)
        rw [if_neg hinside, if_neg (by omega), ← hbytes, Array.toList_extract, Array.toList_extract,
          List.extract_eq_take_drop, List.extract_eq_take_drop, Nat.add_sub_cancel_left,
          Nat.add_sub_cancel_left, List.take_take, Nat.min_eq_left hcount]

namespace WellFormed

variable {memory : Memory} (hmem : memory.WellFormed)

include hmem

/-- The last region at or below an address is the one that the address belongs to. -/
theorem floor?_of_covers {region : Address × Array UInt8} (hregion : region ∈ memory.toList)
    {address : Address} (hcovers : Covers region address.toNat) :
    memory.regions.floor? address = some region := by
  obtain ⟨hlow, hhigh⟩ := hcovers
  refine (OrderedMap.floor?_eq_some_iff _ _ _).2 ⟨hregion, ?_, ?_⟩
  · exact Std.isLE_compare.2 (UInt64.le_iff_toNat_le.2 hlow)
  · intro other hother hle
    have hother' : other.1.toNat ≤ address.toNat :=
      UInt64.le_iff_toNat_le.1 (Std.isLE_compare.1 hle)
    rcases OrderedMap.keyBefore_or_eq memory.regions.increasing hother hregion with h | h | h
    · exact .inr h
    · exact .inl h
    · have hapart := hmem.apart region hregion other hother ((keyBefore_iff _ _).1 h)
      omega

/-- A read from an address in a region stays in it: it is cut short where the region ends, or gives
the bytes from the address on. -/
theorem read_of_covers {region : Address × Array UInt8} (hregion : region ∈ memory.toList)
    {address : Address} (hcovers : Covers region address.toNat) (length : Nat) :
    memory.read address length =
      if region.1.toNat + region.2.size - address.toNat < length then
        .error (.shortRead address length (region.1.toNat + region.2.size - address.toNat))
      else
        .ok (region.2.extract (address.toNat - region.1.toNat)
          (address.toNat - region.1.toNat + length)).toList := by
  obtain ⟨hlow, hhigh⟩ := hcovers
  have hfloor := hmem.floor?_of_covers hregion ⟨hlow, hhigh⟩
  have hinside : ¬ region.2.size ≤ address.toNat - region.1.toNat := by omega
  have hgot : region.2.size - (address.toNat - region.1.toNat) =
      region.1.toNat + region.2.size - address.toNat := by omega
  simp only [read, hfloor, if_neg hinside, hgot]

/-- Bytes that lie at an address are read from it. -/
theorem read_of_holds {address : Address} {bytes : List UInt8} (hne : bytes ≠ [])
    (h : memory.Holds address.toNat bytes) : memory.read address bytes.length = .ok bytes := by
  obtain ⟨region, hregion, hlow, hhigh, hbytes⟩ := h
  have hlength : 0 < bytes.length := List.length_pos_iff.2 hne
  have henough : ¬ region.1.toNat + region.2.size - address.toNat < bytes.length := by omega
  rw [hmem.read_of_covers hregion ⟨hlow, by omega⟩, if_neg henough, hbytes]

/-- No sum for the address of a byte in memory wraps. -/
theorem lt_wordLimit_of_holds {address : Nat} {bytes : List UInt8} (hne : bytes ≠ [])
    (h : memory.Holds address bytes) : address < wordLimit := by
  obtain ⟨region, hregion, _, hhigh, _⟩ := h
  have hlength : 0 < bytes.length := List.length_pos_iff.2 hne
  have hend := hmem.ends region hregion
  omega

end WellFormed

end KernelScope.Memory
