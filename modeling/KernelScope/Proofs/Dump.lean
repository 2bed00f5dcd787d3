import KernelScope.Proofs.Bytes
import KernelScope.Proofs.Inspect
import KernelScope.Proofs.Memory.Exact
import KernelScope.Proofs.Text.Numeral

/-!
# Dumps of bytes

A dump has a line for every sixteen bytes, and a shorter one for those that are left over.  Its form
is said here without the writer (`IsDump`), and from the form alone the bytes can be read back
(`readDump_of_isDump`).  What the command for a dump writes has this form, and its bytes are those
that memory holds (`execute_dump`).
-/

set_option autoImplicit false

namespace KernelScope.Inspect

/-! ## The form of a dump -/

/-- The digits are as many as the width says, in lower case, and spell the number in base
sixteen. -/
structure Spells (width : Nat) (digits : List Char) (n : Nat) : Prop where
  length : digits.length = width
  lowerCase : digits.map Char.toLower = digits
  numeral : Text.Numeral 16 digits n

/-- The line shows the bytes at the address: its sixteen digits, two blanks, and two digits for each
byte, with a blank between one byte and the next. -/
def ShowsBytes (address : Nat) (bytes : List UInt8) (line : List Char) : Prop :=
  ∃ digits groups, line = digits ++ [' ', ' '] ++ [' '].intercalate groups ∧
    Spells 16 digits address ∧
      List.Forall₂ (fun group byte => Spells 2 group byte.toNat) groups bytes

/-- The lines show the bytes from the address on, sixteen on each but the last, and no address of a
line wraps. -/
structure IsDump (address : Nat) (bytes : List UInt8) (lines : List (List Char)) : Prop where
  count : lines.length = (bytes.length + 15) / 16
  full : ∀ i, i + 1 < lines.length → ((bytes.drop (16 * i)).take 16).length = 16
  shows : ∀ i line, lines[i]? = some line →
    address + 16 * i < wordLimit ∧
      ShowsBytes (address + 16 * i) ((bytes.drop (16 * i)).take 16) line

/-- The text of the lines, each of which is ended. -/
def ofLines (lines : List (List Char)) : String :=
  String.ofList (lines.flatMap fun line => line ++ ['\n'])

/-! ## Reading a dump -/

/-- The bytes of a line: its digits without those of the address. -/
def readLine (line : List Char) : Except Hex.BytesError (List UInt8) :=
  Hex.toBytes (String.ofList ((line.drop 18).filter (· ≠ ' ')))

/-- The bytes of all lines, in their order. -/
def readDump (text : String) : Except Hex.BytesError (List UInt8) :=
  ((text.toList.splitOn '\n').mapM readLine).map List.flatten

section Lines

variable {address width n : Nat} {digits line : List Char} {bytes : List UInt8}

theorem Spells.isBlank_eq_false (h : Spells width digits n) :
    ∀ c ∈ digits, Text.isBlank c = false := by
  intro c hc
  obtain ⟨value, -, hdigit⟩ := h.numeral.isDigit c hc
  exact hdigit.isBlank_eq_false

/-- The two digits of a byte are the only ones that spell it. -/
theorem Spells.eq_byteDigits {byte : UInt8} (h : Spells 2 digits byte.toNat) :
    digits = Hex.byteDigits byte := by
  obtain ⟨hlength, hlower, hnumeral⟩ := h
  obtain ⟨high, low, rfl⟩ := List.length_eq_two.1 hlength
  obtain ⟨first, second, ⟨-, hhigh⟩, ⟨hlt, hlow⟩, hvalue⟩ := hnumeral.exists_of_pair
  simp only [List.map_cons, List.map_nil, List.cons.injEq, and_true] at hlower
  obtain ⟨hhighLower, hlowLower⟩ := hlower
  have hfirst : byte.toNat / 16 = first := by omega
  have hsecond : byte.toNat % 16 = second := by omega
  rw [Hex.byteDigits, hfirst, hsecond, ← hhigh, ← hlow, hhighLower, hlowLower]

theorem spells_byteDigits (byte : UInt8) : Spells 2 (Hex.byteDigits byte) byte.toNat := by
  have hhigh := Hex.div_16_lt byte
  have hlow := Hex.mod_16_lt byte
  refine ⟨rfl, ?_, ?_⟩
  · simp [Hex.byteDigits, Text.toLower_digitChar _ hhigh, Text.toLower_digitChar _ hlow]
  · have hfirst : Text.Numeral 16 [Nat.digitChar (byte.toNat / 16)] (byte.toNat / 16) :=
      .digit (Text.isDigit_digitChar hhigh) hhigh
    have hboth := hfirst.snoc (Text.isDigit_digitChar hlow) hlow
    rwa [Nat.div_add_mod] at hboth

/-- The groups of a line are the digits of its bytes. -/
theorem groups_iff {groups : List (List Char)} :
    List.Forall₂ (fun group byte => Spells 2 group byte.toNat) groups bytes ↔
      groups = bytes.map Hex.byteDigits := by
  constructor
  · intro h
    induction h with
    | nil => rfl
    | cons hgroup _ ih => rw [hgroup.eq_byteDigits, ih, List.map_cons]
  · rintro rfl
    induction bytes with
    | nil => exact .nil
    | cons byte bytes ih => exact .cons (spells_byteDigits byte) ih

/-- Without the blanks, the groups of a line are their digits. -/
theorem filter_groups (bytes : List UInt8) :
    ([' '].intercalate (bytes.map Hex.byteDigits)).filter (· ≠ ' ') =
      bytes.flatMap Hex.byteDigits := by
  have hgroup : ∀ byte : UInt8, (Hex.byteDigits byte).filter (· ≠ ' ') = Hex.byteDigits byte := by
    intro byte
    refine List.filter_eq_self.2 fun c hc => decide_eq_true ?_
    rintro rfl
    cases (spells_byteDigits byte).isBlank_eq_false ' ' hc
  induction bytes with
  | nil => rfl
  | cons byte rest ih =>
    cases rest with
    | nil => simpa using hgroup byte
    | cons next rest =>
      rw [List.map_cons] at ih
      rw [List.map_cons, List.map_cons, List.intercalate_cons_cons, List.filter_append,
        List.filter_append, hgroup, ih, List.flatMap_cons]
      rfl

/-- The bytes of a line are read from it. -/
theorem readLine_of_showsBytes (h : ShowsBytes address bytes line) :
    readLine line = .ok bytes := by
  obtain ⟨digits, groups, rfl, haddress, hgroups⟩ := h
  obtain rfl := groups_iff.1 hgroups
  have hfront : (digits ++ [' ', ' ']).length = 18 := by simp [haddress.length]
  rw [readLine, List.drop_left' hfront, filter_groups]
  exact Hex.toBytes_ofBytes bytes

theorem newline_notMem (h : ShowsBytes address bytes line) : '\n' ∉ line := by
  obtain ⟨digits, groups, rfl, haddress, hgroups⟩ := h
  obtain rfl := groups_iff.1 hgroups
  intro hmem
  rcases List.mem_append.1 hmem with hfront | hbytes
  · rcases List.mem_append.1 hfront with hdigits | hblanks
    · cases haddress.isBlank_eq_false '\n' hdigits
    · simp at hblanks
  · have hdigits : '\n' ∈ bytes.flatMap Hex.byteDigits := by
      rw [← filter_groups]
      exact List.mem_filter.2 ⟨hbytes, rfl⟩
    obtain ⟨byte, -, hbyte⟩ := List.mem_flatMap.1 hdigits
    cases (spells_byteDigits byte).isBlank_eq_false '\n' hbyte

end Lines

/-! ## Reading all lines -/

/-- Lines that are ended are the lines, and nothing behind the last. -/
theorem splitOn_ofLines {lines : List (List Char)} (hlines : ∀ line ∈ lines, '\n' ∉ line) :
    (ofLines lines).toList.splitOn '\n' = lines ++ [[]] := by
  have hjoined : lines.flatMap (fun line => line ++ ['\n']) =
      ['\n'].intercalate (lines ++ [[]]) := by
    clear hlines
    induction lines with
    | nil => rfl
    | cons line lines ih =>
      rw [List.flatMap_cons, ih]
      cases lines <;> simp [List.intercalate_cons_cons]
  rw [ofLines, String.toList_ofList, hjoined, List.splitOn_intercalate]
  · simpa [or_imp, forall_and] using hlines
  · simp

/-- The bytes of lines that are read one by one are read together. -/
theorem readDump_ofLines {lines : List (List Char)} {rows : List (List UInt8)}
    (hlines : ∀ line ∈ lines, '\n' ∉ line)
    (hrows : List.Forall₂ (fun line row => readLine line = .ok row) lines rows) :
    readDump (ofLines lines) = .ok rows.flatten := by
  have hread : lines.mapM readLine = .ok rows := by
    clear hlines
    induction hrows with
    | nil => rfl
    | cons hline _ ih =>
      rw [List.mapM_cons, hline, ih]
      rfl
  rw [readDump, splitOn_ofLines hlines, List.mapM_append, hread]
  change Except.ok (rows ++ [[]]).flatten = _
  simp

/-- From any dump of bytes, these are read. -/
theorem readDump_of_isDump {address : Nat} {bytes : List UInt8} {lines : List (List Char)}
    (h : IsDump address bytes lines) : readDump (ofLines lines) = .ok bytes := by
  have hrows : List.Forall₂ (fun line row => readLine line = .ok row) lines
      (Bytes.chunks 16 lines.length bytes) := by
    refine List.forall₂_iff_get.2 ⟨(Bytes.length_chunks 16 lines.length bytes).symm, ?_⟩
    intro i hline hrow
    have hshows := (h.shows i _ (List.getElem?_eq_getElem hline)).2
    have hpiece := Bytes.getElem?_chunks 16 hline bytes
    rw [List.getElem?_eq_getElem hrow, Nat.mul_comm, Option.some.injEq] at hpiece
    rw [List.get_eq_getElem, List.get_eq_getElem, hpiece]
    exact readLine_of_showsBytes hshows
  have hall : bytes.take (lines.length * 16) = bytes := by
    apply List.take_of_length_le
    rw [h.count]
    omega
  rw [readDump_ofLines ?_ hrows, Bytes.flatten_chunks, hall]
  intro line hline
  obtain ⟨i, hi, rfl⟩ := List.getElem_of_mem hline
  exact newline_notMem (h.shows i _ (List.getElem?_eq_getElem hi)).2

/-! ## Writing a dump -/

/-- A line of a dump before it is ended. -/
def dumpBody (address : Address) (bytes : List UInt8) : List Char :=
  (Hex.padded 16 address.toNat).toList ++ [' ', ' '] ++
    [' '].intercalate (bytes.map Hex.byteDigits)

/-- The lines of a dump. -/
def dumpLines (address : Address) (bytes : List UInt8) : List (List Char) :=
  (Bytes.chunks dumpWidth ((bytes.length + dumpWidth - 1) / dumpWidth) bytes).zipIdx.map fun line =>
    dumpBody (address + UInt64.ofNat (dumpWidth * line.2)) line.1

theorem toList_dumpLine (address : Address) (bytes : List UInt8) :
    (dumpLine address bytes).toList = dumpBody address bytes ++ ['\n'] := by
  simp [dumpLine, dumpBody, String.toList_intercalate, Function.comp_def]

theorem dumpText_eq (address : Address) (bytes : List UInt8) :
    dumpText address bytes = ofLines (dumpLines address bytes) := by
  apply String.toList_inj.1
  simp only [dumpText, ofLines, dumpLines, String.toList_join, String.toList_ofList,
    List.flatMap_map, toList_dumpLine]

theorem spells_padded (address : Address) :
    Spells 16 (Hex.padded 16 address.toNat).toList address.toNat := by
  have hlength : (Nat.toDigits 16 address.toNat).length ≤ 16 :=
    (Nat.length_toDigits_le_iff (by decide) (by decide)).2 address.toNat_lt
  rw [Hex.padded, String.toList_ofList]
  refine ⟨?_, ?_, ?_⟩
  · rw [List.length_leftpad]
    omega
  · simp [List.leftpad, Text.map_toLower_toDigits]
  · exact (Text.numeral_toDigits (by decide) (by decide) _).leftpad (by decide) 16

theorem showsBytes_dumpBody (address : Address) (bytes : List UInt8) :
    ShowsBytes address.toNat bytes (dumpBody address bytes) :=
  ⟨_, _, rfl, spells_padded address, groups_iff.2 rfl⟩

/-- What is written for bytes that end where addresses do is a dump of them. -/
theorem isDump_dumpLines {address : Address} {bytes : List UInt8}
    (hend : address.toNat + bytes.length ≤ wordLimit) :
    IsDump address.toNat bytes (dumpLines address bytes) := by
  have hcount : (dumpLines address bytes).length = (bytes.length + 15) / 16 := by
    rw [dumpLines, List.length_map, List.length_zipIdx, Bytes.length_chunks]
    rfl
  refine ⟨hcount, fun i hi => ?_, fun i line hline => ?_⟩
  · rw [List.length_take, List.length_drop]
    omega
  · have hi : i < (bytes.length + 15) / 16 := by
      rw [← hcount]
      exact (List.getElem?_eq_some_iff.1 hline).1
    have hpiece : (Bytes.chunks dumpWidth ((bytes.length + dumpWidth - 1) / dumpWidth) bytes)[i]? =
        some ((bytes.drop (i * 16)).take 16) := Bytes.getElem?_chunks 16 hi bytes
    rw [dumpLines, List.getElem?_map, List.getElem?_zipIdx, hpiece, Nat.mul_comm] at hline
    obtain rfl := Option.some.inj hline
    have hinside : address.toNat + 16 * i < wordLimit := by omega
    have hshows := showsBytes_dumpBody (address + UInt64.ofNat (16 * i))
      ((bytes.drop (16 * i)).take 16)
    rw [Memory.toNat_add_ofNat hinside] at hshows
    exact ⟨hinside, by simpa [dumpWidth] using hshows⟩

/-! ## The command -/

section Shown

variable {target : Target} {address : Address} {length : UInt64}

theorem dump_of_tooLong (hlong : 0x10000 < length.toNat) :
    dump target address length = ⟨"", .error (.dumpTooLong length)⟩ := by
  have hlimit : CommandError.dumpLimit < length := UInt64.lt_iff_toNat_lt.2 hlong
  rw [dump, if_pos hlimit]
  rfl

variable (hshort : length.toNat ≤ 0x10000)

include hshort

/-- A dump that is not too long reads its bytes and shows them. -/
theorem dump_of_short :
    dump target address length = (do
      let bytes ← target.read address length.toNat
      .write (dumpText address bytes)) := by
  have hlimit : ¬ CommandError.dumpLimit < length :=
    fun h => absurd (UInt64.lt_iff_toNat_lt.1 h) (Nat.not_lt.2 hshort)
  rw [dump, if_neg hlimit]

theorem dump_of_unread {error : MemoryError}
    (hread : target.read address length.toNat = .error error) :
    dump target address length = ⟨"", .error (.service (.target (.memory error)))⟩ := by
  rw [dump_of_short hshort, hread]
  rfl

theorem dump_of_read {bytes : List UInt8} (hread : target.read address length.toNat = .ok bytes) :
    dump target address length = ⟨ofLines (dumpLines address bytes), .ok ()⟩ := by
  rw [dump_of_short hshort, hread, ← dumpText_eq]
  exact Report.ofExcept_ok_bind bytes fun bytes => .write (dumpText address bytes)

end Shown

end KernelScope.Inspect

namespace KernelScope.Command

open Inspect

/-- Behind any run of operations, a dump of too many bytes, or of bytes that cannot be read, fails
and writes nothing.  Any other writes lines of which the bytes can be read back, and these are the
bytes that memory holds from the address on. -/
theorem execute_dump (profile : Profile) (operations : List Memory.Operation) (address : Address)
    (length : UInt64) (coloured : Bool) :
    (0x10000 < length.toNat →
      (Command.dump address length).execute (.ofMemory profile (.run operations)) coloured =
        ⟨"", .error (.dumpTooLong length)⟩) ∧
    (length.toNat ≤ 0x10000 →
      (∀ error, (Memory.run operations).read address length.toNat = .error error →
        (Command.dump address length).execute (.ofMemory profile (.run operations)) coloured =
          ⟨"", .error (.service (.target (.memory error)))⟩) ∧
      ∀ bytes, (Memory.run operations).read address length.toNat = .ok bytes →
        bytes.length = length.toNat ∧
        (∀ i < length.toNat, bytes[i]? = (Memory.run operations).byte? (address.toNat + i)) ∧
        ∃ lines, IsDump address.toNat bytes lines ∧ readDump (ofLines lines) = .ok bytes ∧
          (Command.dump address length).execute (.ofMemory profile (.run operations)) coloured =
            ⟨ofLines lines, .ok .goOn⟩) := by
  have hmem := Memory.wellFormed_run operations
  refine ⟨fun hlong => ?_, fun hshort => ⟨fun error hread => ?_, fun bytes hread => ?_⟩⟩
  · rw [execute_eq, output, dump_of_tooLong hlong]
    rfl
  · have hread : (Target.ofMemory profile (.run operations)).read address length.toNat = _ := hread
    rw [execute_eq, output, dump_of_unread hshort hread]
    rfl
  · have hlength := hmem.length_of_read hread
    obtain ⟨region, hregion, -, hfits, -⟩ := hmem.slice_of_read hread
    have hend : region.1.toNat + region.2.size < wordLimit := hmem.ends region hregion
    have hdump : IsDump address.toNat bytes (dumpLines address bytes) :=
      isDump_dumpLines (by omega)
    refine ⟨hlength, fun i hi => hmem.getElem?_of_read hread hi, dumpLines address bytes, hdump,
      readDump_of_isDump hdump, execute_of_output ?_ (by simp)⟩
    exact dump_of_read hshort hread

/-- Three bytes at the top of the address space: a dump of them, one of too many bytes, and one that
reaches past them. -/
theorem execute_dump_at_top :
    (∃ lines, IsDump 0xFFFFFFFFFFFFFFFC [0xAB, 0x00, 0x1F] lines ∧
      readDump (ofLines lines) = .ok [0xAB, 0x00, 0x1F] ∧
      (Command.dump 0xFFFFFFFFFFFFFFFC 3).execute (.ofMemory (.ofPointerSize 8 true)
        (.run [.map 0xFFFFFFFFFFFFFFFC #[0xAB, 0x00, 0x1F]])) false =
          ⟨ofLines lines, .ok .goOn⟩) ∧
    (Command.dump 0xFFFFFFFFFFFFFFFC 0x10001).execute (.ofMemory (.ofPointerSize 8 true)
      (.run [.map 0xFFFFFFFFFFFFFFFC #[0xAB, 0x00, 0x1F]])) false =
        ⟨"", .error (.dumpTooLong 0x10001)⟩ ∧
    (Command.dump 0xFFFFFFFFFFFFFFFC 4).execute (.ofMemory (.ofPointerSize 8 true)
      (.run [.map 0xFFFFFFFFFFFFFFFC #[0xAB, 0x00, 0x1F]])) false =
        ⟨"", .error (.service (.target (.memory (.shortRead 0xFFFFFFFFFFFFFFFC 4 3))))⟩ := by
  have hdump := execute_dump (.ofPointerSize 8 true)
    [.map 0xFFFFFFFFFFFFFFFC #[0xAB, 0x00, 0x1F]] 0xFFFFFFFFFFFFFFFC
  obtain ⟨-, hshown⟩ := hdump 3 false
  obtain ⟨-, hbytes⟩ := hshown (by decide)
  obtain ⟨-, -, lines, hlines, hread, hexecute⟩ := hbytes [0xAB, 0x00, 0x1F] rfl
  obtain ⟨htooLong, -⟩ := hdump 0x10001 false
  obtain ⟨-, hfailing⟩ := hdump 4 false
  obtain ⟨hunread, -⟩ := hfailing (by decide)
  exact ⟨⟨lines, hlines, hread, hexecute⟩, htooLong (by decide), hunread _ rfl⟩

end KernelScope.Command
