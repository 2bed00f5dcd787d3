import KernelScope.Proofs.Target

/-!
# Counted strings

A counted string gives back the text whose units it holds, and of any other units their one reading:
from left to right, with the replacement character for each surrogate that misses its partner
(`readUnicodeString_inverts`).  Its length counts bytes, and an odd one counts a unit less.  Nothing
else near it matters, neither the capacity beside the length nor what follows the units.
-/

set_option autoImplicit false

namespace KernelScope.Target

/-- Reading a counted string undoes what the kernel wrote, from any source of bytes and with pointers
of either width.  Any units are decoded as their one reading, and those of a text as the text.  What
lies so in a captured memory can be read so. -/
theorem readUnicodeString_inverts :
    -- any units
    (∀ (target : Target) (address buffer : Address) (length : UInt16) (units : List UInt16),
      target.pointerSize = 4 ∨ target.pointerSize = 8 →
      length.toNat = 2 * units.length ∨ length.toNat = 2 * units.length + 1 → buffer ≠ 0 →
      target.HasUnits address length buffer units →
      ∃ cs, target.readUnicodeString address = .ok (String.ofList cs) ∧
        ∀ other, Text.Reads units other ↔ other = cs) ∧
    -- the units of a text
    (∀ (target : Target) (address buffer : Address) (length : UInt16) (text : String),
      target.pointerSize = 4 ∨ target.pointerSize = 8 →
      length.toNat = 2 * (Text.toUnits16 text.toList).length ∨
        length.toNat = 2 * (Text.toUnits16 text.toList).length + 1 → buffer ≠ 0 →
      target.HasUnits address length buffer (Text.toUnits16 text.toList) →
      target.readUnicodeString address = .ok text) ∧
    -- captured memory
    ∀ (profile : Profile) (operations : List Memory.Operation) (address buffer : Address)
      (length : UInt16) (units : List UInt16),
      profile.pointerSize = 4 ∨ profile.pointerSize = 8 →
      (Memory.run operations).HoldsU16 address.toNat length →
      (Memory.run operations).HoldsPointer profile.pointerSize
        (address.toNat + profile.pointerSize.toNat) buffer →
      (Memory.run operations).Holds buffer.toNat (Bytes.ofUnits units) →
      (ofMemory profile (.run operations)).HasUnits address length buffer units := by
  refine ⟨?_, ?_, ?_⟩
  · intro target address buffer length units hsize hlength hbuffer hunits
    exact ⟨_, readUnicodeString_of_hasUnits hsize hunits (by omega) fun _ => hbuffer,
      Text.reads_iff units⟩
  · intro target address buffer length text hsize hlength hbuffer hunits
    rw [readUnicodeString_of_hasUnits hsize hunits (by omega) fun _ => hbuffer,
      Text.ofUnits16_toUnits16, String.ofList_toList]
  · intro profile operations address buffer length units hsize hlength hbuffer hunits
    exact hasUnits_of_holds (Memory.wellFormed_run operations) hsize hlength hbuffer
      fun _ => hunits

/-- A profile that knows nothing but the width of pointers. -/
def bareProfile (pointerSize : UInt64) : Profile := ⟨pointerSize, true, .empty, .empty⟩

/-- Two counted strings: one of a pair of surrogates, with an odd length and a pointer of eight
bytes, and one of a pair the wrong way round and a letter, with a pointer of four. -/
def stringBytes : List UInt8 := [
  0x05, 0, 0xFF, 0xFF, 0, 0, 0, 0, 0x10, 0x10, 0, 0, 0, 0, 0, 0,
  0x3D, 0xD8, 0x00, 0xDE, 0x2A, 0, 0, 0, 0x06, 0, 0xAA, 0xAA, 0x20, 0x10, 0, 0,
  0x00, 0xDE, 0x3D, 0xD8, 0x41, 0]

/-- Both strings are read from captured memory. -/
theorem readUnicodeString_inverts_pairs :
    (ofMemory (bareProfile 8) (.run [.map 0x1000 stringBytes.toArray])).readUnicodeString 0x1000 =
      .ok "😀" ∧
    ∃ cs, (ofMemory (bareProfile 4) (.run [.map 0x1000 stringBytes.toArray])).readUnicodeString
        0x1018 = .ok (String.ofList cs) ∧
      ∀ other, Text.Reads [0xDE00, 0xD83D, 0x41] other ↔ other = cs := by
  have hholds : ∀ {address : Nat} {bytes : List UInt8}, 0x1000 ≤ address →
      address + bytes.length ≤ 0x1000 + 38 →
      (stringBytes.drop (address - 0x1000)).take bytes.length = bytes →
      (Memory.run [.map 0x1000 stringBytes.toArray]).Holds address bytes :=
    fun hlow hhigh hbytes => Memory.holds_run_map (by decide) hlow hhigh hbytes
  refine ⟨?_, ?_⟩
  · refine readUnicodeString_inverts.2.1 _ 0x1000 0x1010 5 "😀" (.inr rfl) (.inr rfl)
      (by decide) (readUnicodeString_inverts.2.2 _ _ _ _ _ _ (.inr rfl) ?_ ⟨by decide, ?_⟩ ?_)
    · exact hholds (by decide) (by decide) (by decide)
    · exact hholds (by decide) (by decide) (by decide)
    · exact hholds (by decide) (by decide) (by decide)
  · refine readUnicodeString_inverts.1 _ 0x1018 0x1020 6 _ (.inl rfl) (.inl rfl) (by decide)
      (readUnicodeString_inverts.2.2 _ _ _ _ _ _ (.inl rfl) ?_ ⟨by decide, ?_⟩ ?_)
    · exact hholds (by decide) (by decide) (by decide)
    · exact hholds (by decide) (by decide) (by decide)
    · exact hholds (by decide) (by decide) (by decide)

end KernelScope.Target
