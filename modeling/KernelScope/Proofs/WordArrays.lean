import KernelScope.Proofs.Memory.Patch
import KernelScope.Proofs.Target

/-!
# Arrays and their words

A word that lies in memory among others can be read alone or with them.  The two ways of reading
come to the same words, and to those that were written.

What the words of a kind are is told once, by how wide they are and which numbers stand for them
(`WordKind`); what is then said of every kind goes back to the bytes that both ways read.
-/

set_option autoImplicit false

namespace KernelScope

open Target (ofMemory)

/-! ## Numbers -/

namespace Target

variable {profile : Profile} {memory : Memory} {address : Address} {count width : Nat}
  {numbers : List Nat}

/-- The numbers of an array are those of its bytes. -/
theorem exists_read_of_readNats {target : Target}
    (h : target.readNats address count width = .ok numbers) :
    ∃ bytes, target.read address (count * width) = .ok bytes ∧
      numbers = (Bytes.chunks width count bytes).map Bytes.littleEndian := by
  obtain ⟨size, hsize, hrest⟩ := bind_eq_ok h
  obtain ⟨bytes, hread, hnumbers⟩ := bind_eq_ok hrest
  have hproduct : size = count * width := eq_of_bufferSize (ok_of_mapError hsize)
  exact ⟨bytes, hproduct ▸ hread, (Except.ok.inj hnumbers).symm⟩

/-- There are as many numbers as were asked for. -/
theorem length_of_readNats {target : Target}
    (h : target.readNats address count width = .ok numbers) : numbers.length = count := by
  obtain ⟨bytes, -, rfl⟩ := exists_read_of_readNats h
  rw [List.length_map, Bytes.length_chunks]

/-- Each number of an array can be read at its own place. -/
theorem readNat_of_readNats (hmem : memory.WellFormed) (hwidth : 0 < width)
    (h : (ofMemory profile memory).readNats address count width = .ok numbers) {i n : Nat}
    (hi : numbers[i]? = some n) :
    address.toNat + i * width < wordLimit ∧
      (ofMemory profile memory).readNat (address + UInt64.ofNat (i * width)) width = .ok n := by
  obtain ⟨bytes, hread, rfl⟩ := exists_read_of_readNats h
  have hlt : i < count := by
    have hbound := (List.getElem?_eq_some_iff.1 hi).1
    rwa [List.length_map, Bytes.length_chunks] at hbound
  rw [List.getElem?_map, Bytes.getElem?_chunks width hlt] at hi
  have hinside : i * width + width ≤ count * width := by
    rw [← Nat.succ_mul]
    exact Nat.mul_le_mul_right width hlt
  obtain ⟨hsum, hpiece⟩ := hmem.read_of_read hread hwidth hinside
  refine ⟨hsum, ?_⟩
  have hpiece : (ofMemory profile memory).read (address + UInt64.ofNat (i * width)) width = _ :=
    hpiece
  rw [readNat, hpiece]
  exact congrArg Except.ok (Option.some.inj hi)

end Target

/-! ## Kinds of words -/

/-- Words of one kind: their width in memory, which of them fit it, the number whose bytes stand for
a word there, and how one of them is read, and a row of them. -/
structure WordKind (profile : Profile) (Word : Type) where
  width : Nat
  Fits : Word → Prop
  number : Word → Nat
  word : Nat → Word
  read : Memory → Address → Except MemoryError Word
  readRow : Memory → Address → (count : Nat) → Except MemoryError (List Word)
  width_pos : 0 < width
  number_lt : ∀ w, Fits w → number w < 256 ^ width
  word_number : ∀ w, Fits w → word (number w) = w
  read_eq : ∀ memory address,
    read memory address = ((ofMemory profile memory).readNat address width).map word
  readRow_eq : ∀ memory address count,
    readRow memory address count =
      ((ofMemory profile memory).readNats address count width).map (List.map word)

namespace WordKind

variable (profile : Profile)

/-- Words of 32 bits. -/
def unsigned32 : WordKind profile UInt32 where
  width := 4
  Fits _ := True
  number := UInt32.toNat
  word := UInt32.ofNat
  read memory := (ofMemory profile memory).readU32
  readRow memory := (ofMemory profile memory).readU32s
  width_pos := by decide
  number_lt w _ := w.toNat_lt
  word_number w _ := UInt32.ofNat_toNat
  read_eq _ _ := rfl
  readRow_eq _ _ _ := rfl

/-- Signed words of 32 bits, in two's complement. -/
def signed32 : WordKind profile Int32 where
  width := 4
  Fits _ := True
  number w := (w.toInt % 0x100000000).toNat
  word n := (UInt32.ofNat n).toInt32
  read memory := (ofMemory profile memory).readI32
  readRow memory := (ofMemory profile memory).readI32s
  width_pos := by decide
  number_lt w _ := by omega
  word_number w _ := by
    have hbits : (w.toInt % 0x100000000).toNat = w.toUInt32.toNat := by
      have hsame : w.toUInt32.toNat = (BitVec.ofInt 32 w.toBitVec.toInt).toNat := by
        rw [BitVec.ofInt_toInt]
        rfl
      rw [hsame, BitVec.toNat_ofInt]
      rfl
    rw [hbits, UInt32.ofNat_toNat, Int32.toInt32_toUInt32]
  read_eq memory address :=
    Functor.map_map UInt32.ofNat UInt32.toInt32 ((ofMemory profile memory).readNat address 4)
  readRow_eq _ _ _ := map_map_list _ _ _

/-- Words of 64 bits. -/
def unsigned64 : WordKind profile UInt64 where
  width := 8
  Fits _ := True
  number := UInt64.toNat
  word := UInt64.ofNat
  read memory := (ofMemory profile memory).readU64
  readRow memory := (ofMemory profile memory).readU64s
  width_pos := by decide
  number_lt w _ := w.toNat_lt
  word_number w _ := UInt64.ofNat_toNat
  read_eq _ _ := rfl
  readRow_eq _ _ _ := rfl

variable {profile}

/-- The pointer that a number stands for. -/
def pointerOf (size : UInt64) (n : Nat) : Address :=
  if size = 4 then (UInt32.ofNat n).toUInt64 else UInt64.ofNat n

section Pointers

variable (hsize : profile.pointerSize = 4 ∨ profile.pointerSize = 8)

theorem pointerOf_toNat {pointer : Address}
    (hfits : pointer.toNat < 256 ^ profile.pointerSize.toNat) :
    pointerOf profile.pointerSize pointer.toNat = pointer := by
  unfold pointerOf
  split
  next hfour =>
    rw [hfour] at hfits
    apply UInt64.toNat_inj.1
    rw [UInt32.toNat_toUInt64]
    exact UInt32.toNat_ofNat_of_lt' hfits
  · exact UInt64.ofNat_toNat

include hsize

theorem readPointer_eq (memory : Memory) (address : Address) :
    (ofMemory profile memory).readPointer address =
      ((ofMemory profile memory).readNat address profile.pointerSize.toNat).map
        (pointerOf profile.pointerSize) := by
  obtain ⟨size, kernel, symbols, types⟩ := profile
  rcases hsize with rfl | rfl
  · exact Functor.map_map UInt32.ofNat UInt32.toUInt64 (Target.readNat _ address 4)
  · rfl

theorem readPointers_eq (memory : Memory) (address : Address) (count : Nat) :
    (ofMemory profile memory).readPointers address count =
      ((ofMemory profile memory).readNats address count profile.pointerSize.toNat).map
        (List.map (pointerOf profile.pointerSize)) := by
  obtain ⟨size, kernel, symbols, types⟩ := profile
  rcases hsize with rfl | rfl
  · exact map_map_list (Target.readNats _ address count 4) UInt32.ofNat UInt32.toUInt64
  · rfl

end Pointers

/-- Pointers, as wide as the profile says.  Those of four bytes are extended by zeros. -/
def pointer (hsize : profile.pointerSize = 4 ∨ profile.pointerSize = 8) :
    WordKind profile Address where
  width := profile.pointerSize.toNat
  Fits w := w.toNat < 256 ^ profile.pointerSize.toNat
  number := UInt64.toNat
  word := pointerOf profile.pointerSize
  read memory := (ofMemory profile memory).readPointer
  readRow memory := (ofMemory profile memory).readPointers
  width_pos := Target.toNat_pointerSize_pos hsize
  number_lt _ hfits := hfits
  word_number _ := pointerOf_toNat
  read_eq := readPointer_eq hsize
  readRow_eq := readPointers_eq hsize

/-! ## Rows of words -/

variable {Word : Type} (kind : WordKind profile Word)

/-- The bytes that words of the kind are in memory. -/
def encode (words : List Word) : List UInt8 :=
  Bytes.ofWords kind.width (words.map kind.number)

/-- Each of the words can be read at its own place in the row at the address, and no sum for a place
wraps. -/
def Lists (memory : Memory) (address : Address) (words : List Word) : Prop :=
  ∀ i word, words[i]? = some word →
    address.toNat + i * kind.width < wordLimit ∧
      kind.read memory (address + UInt64.ofNat (i * kind.width)) = .ok word

/-- Words that are written are read in a row and one by one, as far as they fit their width and all
of them one buffer; and the words of any row that can be read can be read one by one. -/
def Agrees (memory : Memory) (address : Address) : Prop :=
  (∀ words changed, words ≠ [] → (∀ word ∈ words, kind.Fits word) →
    (kind.encode words).length ≤ bufferLimit →
    memory.write address (kind.encode words).toArray = .ok changed →
      kind.readRow changed address words.length = .ok words ∧ kind.Lists changed address words) ∧
  ∀ count words, kind.readRow memory address count = .ok words →
    words.length = count ∧ kind.Lists memory address words

section Rows

variable {kind} {memory : Memory} (hmem : memory.WellFormed) {address : Address}
  {words : List Word}

theorem encode_ne_nil (hne : words ≠ []) : kind.encode words ≠ [] := by
  have hwords := List.length_pos_iff.2 hne
  rw [← List.length_pos_iff, encode, Bytes.length_ofWords, List.length_map]
  exact Nat.mul_pos hwords kind.width_pos

theorem length_of_readRow {count : Nat} (h : kind.readRow memory address count = .ok words) :
    words.length = count := by
  rw [kind.readRow_eq] at h
  obtain ⟨numbers, hnumbers, rfl⟩ := map_eq_ok h
  rw [List.length_map, Target.length_of_readNats hnumbers]

include hmem

theorem lists_of_readRow {count : Nat} (h : kind.readRow memory address count = .ok words) :
    kind.Lists memory address words := by
  rw [kind.readRow_eq] at h
  obtain ⟨numbers, hnumbers, rfl⟩ := map_eq_ok h
  intro i word hword
  rw [List.getElem?_map, Option.map_eq_some_iff] at hword
  obtain ⟨n, hn, rfl⟩ := hword
  obtain ⟨hsum, hread⟩ := Target.readNat_of_readNats hmem kind.width_pos hnumbers hn
  refine ⟨hsum, ?_⟩
  rw [kind.read_eq, hread]
  rfl

theorem readRow_of_write {changed : Memory} (hne : words ≠ [])
    (hfits : ∀ word ∈ words, kind.Fits word)
    (hlimit : (kind.encode words).length ≤ bufferLimit)
    (hwrite : memory.write address (kind.encode words).toArray = .ok changed) :
    kind.readRow changed address words.length = .ok words := by
  have hbytes : (kind.encode words).toArray ≠ #[] := by
    simpa using encode_ne_nil hne
  have hread := hmem.read_of_write hbytes hwrite
  rw [List.size_toArray, encode, Bytes.length_ofWords] at hread
  rw [encode, Bytes.length_ofWords, List.length_map] at hlimit
  rw [List.length_map] at hread
  rw [kind.readRow_eq]
  exact Target.map_readNats_of_read (fun word hword => kind.number_lt word (hfits word hword))
    (fun word hword => kind.word_number word (hfits word hword)) hlimit hread

theorem agrees (address : Address) : kind.Agrees memory address := by
  refine ⟨fun words changed hne hfits hlimit hwrite => ?_, fun count words hrow => ?_⟩
  · have hrow := readRow_of_write hmem hne hfits hlimit hwrite
    exact ⟨hrow, lists_of_readRow (hmem.wellFormed_of_write hwrite) hrow⟩
  · exact ⟨length_of_readRow hrow, lists_of_readRow hmem hrow⟩

end Rows

end WordKind

/-- Behind any run of operations, single reads, reads of arrays and writes agree for every kind of
word: what is written is read, in a row and one by one, and a row that can be read has as many words
as were asked for, each of which can be read at its own place. -/
theorem wordKinds_agree (profile : Profile)
    (hsize : profile.pointerSize = 4 ∨ profile.pointerSize = 8)
    (operations : List Memory.Operation) (address : Address) :
    (WordKind.unsigned32 profile).Agrees (.run operations) address ∧
    (WordKind.signed32 profile).Agrees (.run operations) address ∧
    (WordKind.unsigned64 profile).Agrees (.run operations) address ∧
    (WordKind.pointer hsize).Agrees (.run operations) address := by
  have hmem := Memory.wellFormed_run operations
  exact ⟨WordKind.agrees hmem address, WordKind.agrees hmem address,
    WordKind.agrees hmem address, WordKind.agrees hmem address⟩

/-- Two words of four bytes are written, and read in a row and one by one: as signed words, and as
pointers. -/
theorem wordKinds_agree_narrow :
    ∃ changed, (Memory.run [.map 0x1000 #[0, 0, 0, 0, 0, 0, 0, 0, 0]]).write 0x1001
        #[0xFE, 0xFF, 0xFF, 0xFF, 3, 0, 0, 0] = .ok changed ∧
      (ofMemory (.ofPointerSize 4 true) changed).readI32s 0x1001 2 = .ok [-2, 3] ∧
      (ofMemory (.ofPointerSize 4 true) changed).readI32 0x1001 = .ok (-2) ∧
      (ofMemory (.ofPointerSize 4 true) changed).readPointers 0x1001 2 = .ok [0xFFFFFFFE, 3] ∧
      (ofMemory (.ofPointerSize 4 true) changed).readPointer 0x1005 = .ok 3 := by
  obtain ⟨-, ⟨hsigned, -⟩, -, ⟨hpointers, -⟩⟩ := wordKinds_agree (.ofPointerSize 4 true)
    (.inl rfl) [.map 0x1000 #[0, 0, 0, 0, 0, 0, 0, 0, 0]] 0x1001
  have hfits : ∀ pointer ∈ [0xFFFFFFFE, 3], UInt64.toNat pointer < 256 ^ 4 := by simp
  obtain ⟨hrow, hlists⟩ := hsigned [-2, 3] _ (by simp) (fun _ _ => trivial) (by decide) rfl
  obtain ⟨hpointerRow, hpointerLists⟩ :=
    hpointers [0xFFFFFFFE, 3] _ (by simp) hfits (by decide) rfl
  exact ⟨_, rfl, hrow, (hlists 0 (-2) rfl).2, hpointerRow, (hpointerLists 1 3 rfl).2⟩

end KernelScope
