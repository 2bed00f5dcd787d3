import KernelScope.Proofs.Bytes
import KernelScope.Proofs.Memory.Read
import KernelScope.Proofs.Success
import KernelScope.Proofs.Text.Units16
import KernelScope.Target

/-!
# Typed reads of captured memory

What lies in memory as a byte, a word, a pointer or a counted string is read as such.  None of the
sums for an address fails, since a region that holds the bytes ends at an address.
-/

set_option autoImplicit false

namespace KernelScope

/-! ## Sums and products -/

theorem toNat_add_of_lt {a b : UInt64} (h : a.toNat + b.toNat < wordLimit) :
    (a + b).toNat = a.toNat + b.toNat := by
  rw [UInt64.toNat_add]
  exact Nat.mod_eq_of_lt h

theorem addWords_eq_ok {a b : UInt64} (h : a.toNat + b.toNat < wordLimit) :
    ∃ sum, addWords a b = .ok sum ∧ sum.toNat = a.toNat + b.toNat :=
  ⟨a + b, if_pos h, toNat_add_of_lt h⟩

theorem multiplyWords_eq_ok {a b : UInt64} (h : a.toNat * b.toNat < wordLimit) :
    ∃ product, multiplyWords a b = .ok product ∧ product.toNat = a.toNat * b.toNat := by
  refine ⟨a * b, if_pos h, ?_⟩
  rw [UInt64.toNat_mul]
  exact Nat.mod_eq_of_lt h

theorem multiplyWords_comm (a b : UInt64) : multiplyWords a b = multiplyWords b a := by
  rw [multiplyWords, multiplyWords, Nat.mul_comm, UInt64.mul_comm]

theorem bufferSize_eq_ok {count width : Nat} (hfits : count * width ≤ bufferLimit) :
    bufferSize count width = .ok (count * width) := by
  have hword : ¬ wordLimit ≤ count * width := by
    simp only [wordLimit, bufferLimit] at *
    omega
  rw [bufferSize, if_neg hword, if_neg (Nat.not_lt.2 hfits)]

/-- A buffer is as large as its items are. -/
theorem eq_of_bufferSize {count width size : Nat} (h : bufferSize count width = .ok size) :
    size = count * width := by
  unfold bufferSize at h
  split at h
  · cases h
  · split at h
    · cases h
    · exact (Except.ok.inj h).symm

/-! ## What lies in memory -/

namespace Memory

/-- A byte lies at the address. -/
def HoldsByte (memory : Memory) (address : Nat) (byte : UInt8) : Prop :=
  memory.Holds address [byte]

/-- A 16-bit word lies at the address. -/
def HoldsU16 (memory : Memory) (address : Nat) (word : UInt16) : Prop :=
  memory.Holds address (Bytes.ofNat 2 word.toNat)

/-- A pointer of `size` bytes lies at the address, and these hold all of it. -/
def HoldsPointer (memory : Memory) (size : UInt64) (address : Nat) (pointer : Address) : Prop :=
  pointer.toNat < 256 ^ size.toNat ∧ memory.Holds address (Bytes.ofNat size.toNat pointer.toNat)

/-- The counted string of a text lies at the address: the length in bytes of its units and, one
pointer further, the address where the units lie.  Without units, no address has to be given. -/
def HoldsText (memory : Memory) (size : UInt64) (address : Nat) (text : String) : Prop :=
  (Text.toUnits16 text.toList).length ≤ 32767 ∧
    memory.HoldsU16 address (UInt16.ofNat (2 * (Text.toUnits16 text.toList).length)) ∧
    ∃ buffer, memory.HoldsPointer size (address + size.toNat) buffer ∧
      (Text.toUnits16 text.toList ≠ [] →
        buffer ≠ 0 ∧ memory.Holds buffer.toNat (Bytes.ofUnits (Text.toUnits16 text.toList)))

end Memory

/-! ## What the profile knows -/

namespace Profile

/-- The profile has a symbol at the address. -/
def HasSymbol (profile : Profile) (name : String) (address : Address) : Prop :=
  profile.symbols.get? name = some address

/-- The profile has a field of the type at the offset. -/
def HasField (profile : Profile) (type field : String) (offset : UInt64) : Prop :=
  ∃ layout, profile.types.get? type = some layout ∧ layout.fields.get? field = some offset

/-- The profile has the type but no such field of it. -/
def LacksField (profile : Profile) (type field : String) : Prop :=
  ∃ layout, profile.types.get? type = some layout ∧ layout.fields.get? field = none

end Profile

namespace Target

/-! ## What a target can read -/

/-- The byte `offset` behind `base` can be read, and so can the sum of the two. -/
def HasByte (target : Target) (base offset : UInt64) (byte : UInt8) : Prop :=
  base.toNat + offset.toNat < wordLimit ∧ target.readU8 (base + offset) = .ok byte

/-- So can the pointer there. -/
def HasPointer (target : Target) (base offset : UInt64) (pointer : Address) : Prop :=
  base.toNat + offset.toNat < wordLimit ∧ target.readPointer (base + offset) = .ok pointer

/-- Where a table of pointers keeps the one with an index. -/
def slot (target : Target) (table : Address) (index : UInt8) : Address :=
  table + target.pointerSize * index.toUInt64

/-- The pointer in a slot of a table can be read. -/
def HasSlot (target : Target) (table : Address) (index : UInt8) (pointer : Address) : Prop :=
  table.toNat + target.pointerSize.toNat * index.toNat < wordLimit ∧
    target.readPointer (target.slot table index) = .ok pointer

section Slots

variable {target : Target}

theorem HasByte.addWords {base offset : UInt64} {byte : UInt8}
    (h : target.HasByte base offset byte) :
    KernelScope.addWords base offset = .ok (base + offset) := if_pos h.1

theorem HasPointer.addWords {base offset : UInt64} {pointer : Address}
    (h : target.HasPointer base offset pointer) :
    KernelScope.addWords base offset = .ok (base + offset) := if_pos h.1

theorem toNat_distance {index : UInt8} (h : target.pointerSize.toNat * index.toNat < wordLimit) :
    (target.pointerSize * index.toUInt64).toNat = target.pointerSize.toNat * index.toNat := by
  rw [UInt64.toNat_mul, UInt8.toNat_toUInt64]
  exact Nat.mod_eq_of_lt h

theorem HasSlot.multiplyWords {table : Address} {index : UInt8} {pointer : Address}
    (h : target.HasSlot table index pointer) :
    KernelScope.multiplyWords target.pointerSize index.toUInt64 =
      .ok (target.pointerSize * index.toUInt64) := by
  refine if_pos ?_
  rw [UInt8.toNat_toUInt64]
  exact Nat.lt_of_le_of_lt (Nat.le_add_left _ _) h.1

theorem HasSlot.addWords {table : Address} {index : UInt8} {pointer : Address}
    (h : target.HasSlot table index pointer) :
    KernelScope.addWords table (target.pointerSize * index.toUInt64) =
      .ok (target.slot table index) := by
  refine if_pos ?_
  rw [toNat_distance (Nat.lt_of_le_of_lt (Nat.le_add_left _ _) h.1)]
  exact h.1

/-- Different slots of a table are at different addresses. -/
theorem slot_inj (hsize : target.pointerSize = 4 ∨ target.pointerSize = 8) (table : Address)
    {index other : UInt8} (h : target.slot table index = target.slot table other) :
    index = other := by
  have hwidth : 0 < target.pointerSize.toNat ∧ target.pointerSize.toNat ≤ 8 := by
    rcases hsize with hsize | hsize <;> rw [hsize] <;> decide
  have hdistance : ∀ index : UInt8, (target.pointerSize * index.toUInt64).toNat =
      target.pointerSize.toNat * index.toNat := by
    intro index
    have hbound : target.pointerSize.toNat * index.toNat ≤ 8 * 256 :=
      Nat.mul_le_mul hwidth.2 (Nat.le_of_lt index.toNat_lt)
    exact toNat_distance (Nat.lt_of_le_of_lt hbound (by decide))
  have hproducts := congrArg UInt64.toNat ((UInt64.add_right_inj table).1 h)
  rw [hdistance, hdistance] at hproducts
  exact UInt8.toNat_inj.1 (Nat.eq_of_mul_eq_mul_left hwidth.1 hproducts)

end Slots

/-! ## Arrays -/

/-- The words can be read at the address, one right behind the other. -/
def HasU32s (target : Target) (address : Address) (words : List UInt32) : Prop :=
  target.read address (words.length * 4) = .ok (Bytes.ofWords 4 (words.map UInt32.toNat))

/-- So can the words of eight bytes. -/
def HasU64s (target : Target) (address : Address) (words : List UInt64) : Prop :=
  target.read address (words.length * 8) = .ok (Bytes.ofWords 8 (words.map UInt64.toNat))

instance (target : Target) (address : Address) (words : List UInt32) :
    Decidable (target.HasU32s address words) :=
  decidable_of_iff _ toOption_eq_some_iff

instance (target : Target) (address : Address) (words : List UInt64) :
    Decidable (target.HasU64s address words) :=
  decidable_of_iff _ toOption_eq_some_iff

section Arrays

variable {target : Target} {address : Address}

/-- As many words are read as there are, as far as these fit their width. -/
theorem readNats_of_read {width : Nat} {words : List Nat}
    (hfits : words.length * width ≤ bufferLimit)
    (h : target.read address (words.length * width) = .ok (Bytes.ofWords width words)) :
    target.readNats address words.length width = .ok (words.map (· % 256 ^ width)) := by
  have hvalues : (words.map (Bytes.ofNat width)).map Bytes.littleEndian =
      words.map (· % 256 ^ width) := by
    rw [List.map_map]
    exact List.map_congr_left fun word _ => Bytes.littleEndian_ofNat width word
  simp only [readNats, bufferSize_eq_ok hfits, h, Bytes.chunks_ofWords, hvalues, ok_bind,
    liftM_overflow_memory]
  rfl

/-- So are words of any kind, if each is given back by a number that fits the width. -/
theorem map_readNats_of_read {Word : Type} {width : Nat} {number : Word → Nat} {word : Nat → Word}
    {words : List Word} (hnumber : ∀ w ∈ words, number w < 256 ^ width)
    (hword : ∀ w ∈ words, word (number w) = w) (hfits : words.length * width ≤ bufferLimit)
    (h : target.read address (words.length * width) =
      .ok (Bytes.ofWords width (words.map number))) :
    (target.readNats address words.length width).map (List.map word) = .ok words := by
  have hwords : ((words.map number).map (· % 256 ^ width)).map word = words := by
    rw [List.map_map, List.map_map]
    refine (List.map_congr_left fun w hw => ?_).trans (List.map_id words)
    simp only [Function.comp_apply, Nat.mod_eq_of_lt (hnumber w hw), hword w hw, id]
  rw [← List.length_map number] at h hfits ⊢
  rw [readNats_of_read hfits h]
  exact congrArg Except.ok hwords

theorem readU32s_of_hasU32s {words : List UInt32} (hfits : words.length * 4 ≤ bufferLimit)
    (h : target.HasU32s address words) : target.readU32s address words.length = .ok words :=
  map_readNats_of_read (fun w _ => w.toNat_lt) (fun _ _ => UInt32.ofNat_toNat) hfits h

theorem readU64s_of_hasU64s {words : List UInt64} (hfits : words.length * 8 ≤ bufferLimit)
    (h : target.HasU64s address words) : target.readU64s address words.length = .ok words :=
  map_readNats_of_read (fun w _ => w.toNat_lt) (fun _ _ => UInt64.ofNat_toNat) hfits h

end Arrays

/-! ## Words from bytes -/

section Words

variable {target : Target} {address : Address}

/-- The number whose bytes are read is read, as far as these hold it. -/
theorem readNat_of_read {width n : Nat} (h : target.read address width = .ok (Bytes.ofNat width n)) :
    target.readNat address width = .ok (n % 256 ^ width) := by
  simp only [readNat, h, Except.map, Bytes.littleEndian_ofNat]

theorem readU8_of_read {byte : UInt8} (h : target.read address 1 = .ok [byte]) :
    target.readU8 address = .ok byte := by
  have hbyte : [byte] = Bytes.ofNat 1 byte.toNat := by simp [Bytes.ofNat]
  have hlt : byte.toNat < 256 := byte.toNat_lt
  rw [hbyte] at h
  rw [readU8, readNat_of_read h, Nat.pow_one, Nat.mod_eq_of_lt hlt]
  simp only [Except.map, UInt8.ofNat_toNat]

theorem readU16_of_read {word : UInt16}
    (h : target.read address 2 = .ok (Bytes.ofNat 2 word.toNat)) :
    target.readU16 address = .ok word := by
  have hlt : word.toNat < 256 ^ 2 := word.toNat_lt
  rw [readU16, readNat_of_read h, Nat.mod_eq_of_lt hlt]
  simp only [Except.map, UInt16.ofNat_toNat]

/-- Pointers of either width are read with all their bits. -/
theorem readPointer_of_read (hsize : target.pointerSize = 4 ∨ target.pointerSize = 8)
    {pointer : Address} (hlt : pointer.toNat < 256 ^ target.pointerSize.toNat)
    (h : target.read address target.pointerSize.toNat =
      .ok (Bytes.ofNat target.pointerSize.toNat pointer.toNat)) :
    target.readPointer address = .ok pointer := by
  unfold readPointer
  rcases hsize with hsize | hsize
  · have hwidth : target.pointerSize.toNat = 4 := by rw [hsize]; rfl
    rw [hwidth] at hlt h
    rw [if_pos hsize, readU32, readNat_of_read h, Nat.mod_eq_of_lt hlt]
    simp only [Except.map, Except.ok.injEq]
    apply UInt64.toNat_inj.1
    rw [UInt32.toNat_toUInt64]
    exact UInt32.toNat_ofNat_of_lt' hlt
  · have hwidth : target.pointerSize.toNat = 8 := by rw [hsize]; rfl
    have hother : ¬ target.pointerSize = 4 := by
      rw [hsize]
      decide
    rw [hwidth] at hlt h
    rw [if_neg hother, readU64, readNat_of_read h, Nat.mod_eq_of_lt hlt]
    simp only [Except.map, UInt64.ofNat_toNat]

end Words

/-! ## Strings from bytes -/

/-- A counted string can be read at the address: a length, one pointer further the address of a
buffer, and in the buffer the units.  Without units, no buffer has to be there. -/
structure HasUnits (target : Target) (address : Address) (length : UInt16) (buffer : Address)
    (units : List UInt16) : Prop where
  count : target.read address 2 = .ok (Bytes.ofNat 2 length.toNat)
  inside : address.toNat + target.pointerSize.toNat < wordLimit
  fits : buffer.toNat < 256 ^ target.pointerSize.toNat
  pointer : target.read (address + target.pointerSize) target.pointerSize.toNat =
    .ok (Bytes.ofNat target.pointerSize.toNat buffer.toNat)
  row : units ≠ [] → target.read buffer (2 * units.length) = .ok (Bytes.ofUnits units)

/-- The units of a counted string are decoded, as many as half its length counts. -/
theorem readUnicodeString_of_hasUnits {target : Target}
    (hsize : target.pointerSize = 4 ∨ target.pointerSize = 8) {address buffer : Address}
    {length : UInt16} {units : List UInt16} (h : target.HasUnits address length buffer units)
    (hcount : length.toNat / 2 = units.length) (hbuffer : units ≠ [] → buffer ≠ 0) :
    target.readUnicodeString address = .ok (String.ofList (Text.ofUnits16 units)) := by
  have hsum : addWords address target.pointerSize = .ok (address + target.pointerSize) :=
    if_pos h.inside
  simp only [readUnicodeString, readU16_of_read h.count, hsum,
    readPointer_of_read hsize h.fits h.pointer, hcount, ok_bind, liftM_overflow_memory]
  by_cases hempty : units = []
  · subst hempty
    rw [if_pos (.inl rfl)]
    rfl
  · have hsome : ¬ (units.length = 0 ∨ buffer = 0) := by
      rintro (hzero | hzero)
      · exact hempty (List.length_eq_zero_iff.1 hzero)
      · exact hbuffer hempty hzero
    rw [if_neg hsome, h.row hempty]
    simp only [ok_bind, Bytes.map_chunks_ofUnits]
    rfl

/-! ## What the profile answers -/

variable {profile : Profile} {memory : Memory}

theorem symbol_of_hasSymbol {name : String} {address : Address}
    (h : profile.HasSymbol name address) :
    (ofMemory profile memory).symbol name = .ok address := by
  have hget : (ofMemory profile memory).profile.symbols.get? name = some address := h
  rw [symbol, hget]

theorem fieldOffset?_of_hasField {type field : String} {offset : UInt64}
    (h : profile.HasField type field offset) :
    (ofMemory profile memory).fieldOffset? type field = .ok (some offset) := by
  obtain ⟨layout, htype, hfield⟩ := h
  simp only [fieldOffset?, Target.layout, ofMemory, htype, Except.map, hfield]

theorem fieldOffset?_of_lacksField {type field : String} (h : profile.LacksField type field) :
    (ofMemory profile memory).fieldOffset? type field = .ok none := by
  obtain ⟨layout, htype, hfield⟩ := h
  simp only [fieldOffset?, Target.layout, ofMemory, htype, Except.map, hfield]

theorem fieldOffset_of_hasField {type field : String} {offset : UInt64}
    (h : profile.HasField type field offset) :
    (ofMemory profile memory).fieldOffset type field = .ok offset := by
  rw [fieldOffset, fieldOffset?_of_hasField h]
  rfl

/-! ## Reads -/

/-- The first bytes at an address give the low part of the number there. -/
theorem readNat_take {address : Address} {width n : Nat}
    (h : (ofMemory profile memory).readNat address width = .ok n) {count : Nat}
    (hcount : count ≤ width) :
    (ofMemory profile memory).readNat address count = .ok (n % 256 ^ count) := by
  obtain ⟨bytes, hbytes, rfl⟩ := map_eq_ok h
  have hfirst : (ofMemory profile memory).read address count = .ok (bytes.take count) :=
    Memory.read_take hbytes hcount
  simp only [readNat, hfirst, Except.map, Bytes.littleEndian_take]

variable (hmem : memory.WellFormed)

include hmem

theorem read_of_holds {address : Address} {width n : Nat} (hwidth : 0 < width)
    (h : memory.Holds address.toNat (Bytes.ofNat width n)) :
    (ofMemory profile memory).read address width = .ok (Bytes.ofNat width n) := by
  have hlength := Bytes.length_ofNat width n
  have hne : Bytes.ofNat width n ≠ [] := by
    rw [← List.length_pos_iff, hlength]
    exact hwidth
  have hread := hmem.read_of_holds hne h
  rwa [hlength] at hread

theorem readU8_of_holds {address : Address} {byte : UInt8}
    (h : memory.HoldsByte address.toNat byte) :
    (ofMemory profile memory).readU8 address = .ok byte :=
  readU8_of_read (hmem.read_of_holds (List.cons_ne_nil _ _) h)

theorem readU16_of_holds {address : Address} {word : UInt16}
    (h : memory.HoldsU16 address.toNat word) :
    (ofMemory profile memory).readU16 address = .ok word :=
  readU16_of_read (read_of_holds hmem (by decide) h)

omit hmem in
theorem toNat_pointerSize_pos (hsize : profile.pointerSize = 4 ∨ profile.pointerSize = 8) :
    0 < profile.pointerSize.toNat := by
  rcases hsize with hsize | hsize <;> rw [hsize] <;> decide

theorem readPointer_of_holds (hsize : profile.pointerSize = 4 ∨ profile.pointerSize = 8)
    {address pointer : Address}
    (h : memory.HoldsPointer profile.pointerSize address.toNat pointer) :
    (ofMemory profile memory).readPointer address = .ok pointer := by
  have hwidth : (ofMemory profile memory).pointerSize = 4 ∨
      (ofMemory profile memory).pointerSize = 8 := hsize
  exact readPointer_of_read hwidth h.1 (read_of_holds hmem (toNat_pointerSize_pos hsize) h.2)

/-! ## Reads at an offset -/

theorem hasByte_of_holds (profile : Profile) {base offset : UInt64} {byte : UInt8}
    (h : memory.HoldsByte (base.toNat + offset.toNat) byte) :
    (ofMemory profile memory).HasByte base offset byte := by
  have hlt := hmem.lt_wordLimit_of_holds (by simp) h
  rw [← toNat_add_of_lt hlt] at h
  exact ⟨hlt, readU8_of_holds hmem h⟩

omit hmem in
theorem pointerBytes_ne_nil (hsize : profile.pointerSize = 4 ∨ profile.pointerSize = 8)
    (pointer : Address) : Bytes.ofNat profile.pointerSize.toNat pointer.toNat ≠ [] := by
  rw [← List.length_pos_iff, Bytes.length_ofNat]
  exact toNat_pointerSize_pos hsize

theorem hasPointer_of_holds (hsize : profile.pointerSize = 4 ∨ profile.pointerSize = 8)
    {base offset : UInt64} {pointer : Address}
    (h : memory.HoldsPointer profile.pointerSize (base.toNat + offset.toNat) pointer) :
    (ofMemory profile memory).HasPointer base offset pointer := by
  have hlt := hmem.lt_wordLimit_of_holds (pointerBytes_ne_nil hsize pointer) h.2
  rw [← toNat_add_of_lt hlt] at h
  exact ⟨hlt, readPointer_of_holds hmem hsize h⟩

/-- The pointers of an array are read at their places. -/
theorem readPointer_slot (hsize : profile.pointerSize = 4 ∨ profile.pointerSize = 8)
    {base index : UInt64} {pointer : Address}
    (h : memory.HoldsPointer profile.pointerSize
      (base.toNat + profile.pointerSize.toNat * index.toNat) pointer) :
    ∃ distance sum, multiplyWords profile.pointerSize index = .ok distance ∧
      addWords base distance = .ok sum ∧
      (ofMemory profile memory).readPointer sum = .ok pointer := by
  have hlt := hmem.lt_wordLimit_of_holds (pointerBytes_ne_nil hsize pointer) h.2
  have hproduct : profile.pointerSize.toNat * index.toNat < wordLimit := by omega
  obtain ⟨distance, hdistance, hdistanceNat⟩ := multiplyWords_eq_ok hproduct
  rw [← hdistanceNat] at h
  have hslot := hasPointer_of_holds hmem hsize h
  exact ⟨distance, base + distance, hdistance, hslot.addWords, hslot.2⟩

theorem hasSlot_of_holds (hsize : profile.pointerSize = 4 ∨ profile.pointerSize = 8)
    {table pointer : Address} {index : UInt8}
    (h : memory.HoldsPointer profile.pointerSize
      (table.toNat + profile.pointerSize.toNat * index.toNat) pointer) :
    (ofMemory profile memory).HasSlot table index pointer := by
  have hlt := hmem.lt_wordLimit_of_holds (pointerBytes_ne_nil hsize pointer) h.2
  have hdistance : ((ofMemory profile memory).pointerSize * index.toUInt64).toNat =
      profile.pointerSize.toNat * index.toNat :=
    toNat_distance (Nat.lt_of_le_of_lt (Nat.le_add_left _ _) hlt)
  rw [← hdistance] at h
  exact ⟨hlt, (hasPointer_of_holds hmem hsize h).2⟩

/-! ## Counted strings -/

/-- What lies in memory as a counted string can be read as one. -/
theorem hasUnits_of_holds (hsize : profile.pointerSize = 4 ∨ profile.pointerSize = 8)
    {address buffer : Address} {length : UInt16} {units : List UInt16}
    (hlength : memory.HoldsU16 address.toNat length)
    (hbuffer : memory.HoldsPointer profile.pointerSize
      (address.toNat + profile.pointerSize.toNat) buffer)
    (hunits : units ≠ [] → memory.Holds buffer.toNat (Bytes.ofUnits units)) :
    (ofMemory profile memory).HasUnits address length buffer units := by
  have hinside := hmem.lt_wordLimit_of_holds (pointerBytes_ne_nil hsize buffer) hbuffer.2
  refine ⟨read_of_holds hmem (by decide) hlength, hinside, hbuffer.1, ?_, fun hne => ?_⟩
  · refine read_of_holds hmem (toNat_pointerSize_pos hsize) ?_
    have hsum : (address + profile.pointerSize).toNat =
        address.toNat + profile.pointerSize.toNat := toNat_add_of_lt hinside
    exact hsum ▸ hbuffer.2
  · have hbytes : Bytes.ofUnits units ≠ [] := by
      have hpos : 0 < units.length := List.length_pos_iff.2 hne
      rw [← List.length_pos_iff, Bytes.length_ofUnits]
      omega
    rw [← Bytes.length_ofUnits]
    exact hmem.read_of_holds hbytes (hunits hne)

/-- The counted string of a text is read as the text. -/
theorem readUnicodeString_of_holds (hsize : profile.pointerSize = 4 ∨ profile.pointerSize = 8)
    {address : Address} {text : String}
    (h : memory.HoldsText profile.pointerSize address.toNat text) :
    (ofMemory profile memory).readUnicodeString address = .ok text := by
  obtain ⟨hunits, hlength, buffer, hbuffer, hbytes⟩ := h
  have hcount : (UInt16.ofNat (2 * (Text.toUnits16 text.toList).length)).toNat / 2 =
      (Text.toUnits16 text.toList).length := by
    rw [UInt16.toNat_ofNat_of_lt' (by simp only [UInt16.size]; omega)]
    omega
  have hstring := hasUnits_of_holds hmem hsize hlength hbuffer fun hne => (hbytes hne).2
  have hwidth : (ofMemory profile memory).pointerSize = 4 ∨
      (ofMemory profile memory).pointerSize = 8 := hsize
  rw [readUnicodeString_of_hasUnits hwidth hstring hcount fun hne => (hbytes hne).1,
    Text.ofUnits16_toUnits16, String.ofList_toList]

theorem readUnicodeString_at (hsize : profile.pointerSize = 4 ∨ profile.pointerSize = 8)
    {base offset : UInt64} {text : String}
    (h : memory.HoldsText profile.pointerSize (base.toNat + offset.toNat) text) :
    ∃ sum, addWords base offset = .ok sum ∧
      (ofMemory profile memory).readUnicodeString sum = .ok text := by
  have hlength : Bytes.ofNat 2
      (UInt16.ofNat (2 * (Text.toUnits16 text.toList).length)).toNat ≠ [] := by
    rw [← List.length_pos_iff, Bytes.length_ofNat]
    decide
  obtain ⟨sum, hsum, hsumNat⟩ := addWords_eq_ok (hmem.lt_wordLimit_of_holds hlength h.2.1)
  rw [← hsumNat] at h
  exact ⟨sum, hsum, readUnicodeString_of_holds hmem hsize h⟩

end Target

end KernelScope
