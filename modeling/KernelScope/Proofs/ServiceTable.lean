import KernelScope.Proofs.ObjectManager.Header
import KernelScope.Proofs.ObjectManager.Overflow
import KernelScope.Proofs.Snapshot

/-!
# Service tables read

Each build packs the distance of a routine and the number of its arguments into one signed word in
its own way, and reading the table gives the routines back (`read_inverts`), also where the sum of
start and distance wraps.  A table that claims too many services is refused before anything else of
it is read.  Reading forms no sum that fails and no buffer that is too large.
-/

set_option autoImplicit false

namespace KernelScope

open ObjectManager

namespace ServiceTable

/-! ## Entries -/

/-- What a kernel has to say about a service: how far from the start of the table its routine is,
and how many arguments are on the stack. -/
structure Service where
  distance : Int
  arguments : Nat

namespace Service

/-- The entry of most builds: the distance is shifted up, the arguments are put behind it. -/
def shifted (service : Service) : Int32 :=
  (Int32.ofInt service.distance <<< 4) ||| Int32.ofNat service.arguments

/-- The entry of build 3790: the arguments are put into the low bits of the distance. -/
def unshifted (service : Service) : Int32 :=
  Int32.ofInt service.distance ||| Int32.ofNat service.arguments

/-- The distance can be shifted up, and the arguments fit behind it. -/
structure FitsShifted (service : Service) : Prop where
  low : -0x8000000 ≤ service.distance
  high : service.distance < 0x8000000
  arguments : service.arguments < 16

/-- The distance is a signed word whose low bits are free, and the arguments fit into them. -/
structure FitsUnshifted (service : Service) : Prop where
  low : -0x80000000 ≤ service.distance
  high : service.distance < 0x80000000
  aligned : 16 ∣ service.distance
  arguments : service.arguments < 16

instance (service : Service) : Decidable service.FitsShifted :=
  decidable_of_iff
    (-0x8000000 ≤ service.distance ∧ service.distance < 0x8000000 ∧ service.arguments < 16)
    ⟨fun ⟨hlow, hhigh, harguments⟩ => ⟨hlow, hhigh, harguments⟩,
      fun h => ⟨h.low, h.high, h.arguments⟩⟩

instance (service : Service) : Decidable service.FitsUnshifted :=
  decidable_of_iff
    (-0x80000000 ≤ service.distance ∧ service.distance < 0x80000000 ∧ 16 ∣ service.distance ∧
      service.arguments < 16)
    ⟨fun ⟨hlow, hhigh, haligned, harguments⟩ => ⟨hlow, hhigh, haligned, harguments⟩,
      fun h => ⟨h.low, h.high, h.aligned, h.arguments⟩⟩

/-- The routine of a service; the sum may wrap. -/
def routine (start : Address) (service : Service) : Address :=
  start + UInt64.ofInt service.distance

end Service

/-- A number that fits into the free low bits of a word is added by putting it there. -/
theorem toInt_or_of_lt {word : Int32} (hfree : 16 ∣ word.toInt) {n : Nat} (hn : n < 16) :
    (word ||| Int32.ofNat n).toInt = word.toInt + n := by
  have hlt := word.toBitVec.isLt
  rw [← Int32.toInt_toBitVec, BitVec.toInt_eq_toNat_cond] at hfree
  have hor : (word ||| Int32.ofNat n).toBitVec.toNat = word.toBitVec.toNat + n := by
    have hsmall : (Int32.ofNat n).toBitVec.toNat = n := by
      rw [Int32.toBitVec_ofNat', BitVec.toNat_ofNat]
      omega
    -- the bits alone are a multiple of sixteen too, as 2 ^ 32 is one, so that nothing is carried
    have hshifted : word.toBitVec.toNat = (word.toBitVec.toNat / 16) <<< 4 := by
      rw [Nat.shiftLeft_eq]
      split at hfree <;> omega
    rw [Int32.toBitVec_or, BitVec.toNat_or, hsmall, hshifted,
      ← Nat.shiftLeft_add_eq_or_of_lt hn]
  rw [← Int32.toInt_toBitVec, ← Int32.toInt_toBitVec, BitVec.toInt_eq_toNat_cond,
    BitVec.toInt_eq_toNat_cond, hor]
  split at hfree <;> split <;> omega

theorem toInt_shiftLeft {distance : Int} (hlow : -0x8000000 ≤ distance)
    (hhigh : distance < 0x8000000) :
    (Int32.ofInt distance <<< 4).toInt = 16 * distance := by
  have hamount : (4 : Int32).toBitVec.smod 32 = 4#32 := by decide
  have hword : (Int32.ofInt distance <<< 4).toBitVec = BitVec.ofInt 32 distance <<< 4 := by
    rw [Int32.toBitVec_shiftLeft, hamount, BitVec.shiftLeft_eq', Int32.toBitVec_ofInt]
    rfl
  rw [← Int32.toInt_toBitVec, hword, BitVec.toInt_shiftLeft, BitVec.toNat_ofInt, Nat.shiftLeft_eq,
    Int.bmod_def]
  omega

/-- Shifting an entry down gives its distance. -/
theorem distance_shifted {build : UInt16} (hbuild : build ≠ unshiftedBuild) {service : Service}
    (h : service.FitsShifted) : distance build service.shifted.toInt = service.distance := by
  have hshift := toInt_shiftLeft h.low h.high
  have hentry : service.shifted.toInt = 16 * service.distance + service.arguments := by
    rw [Service.shifted, toInt_or_of_lt (hshift ▸ Int.dvd_mul_right 16 _) h.arguments, hshift]
  have harguments := h.arguments
  rw [distance, if_neg hbuild, hentry]
  omega

/-- Clearing the low bits of an entry gives its distance. -/
theorem distance_unshifted {service : Service} (h : service.FitsUnshifted) :
    distance unshiftedBuild service.unshifted.toInt = service.distance := by
  have hword : (Int32.ofInt service.distance).toInt = service.distance :=
    Int32.toInt_ofInt_of_le h.low h.high
  have haligned := h.aligned
  have harguments := h.arguments
  have hentry : service.unshifted.toInt = service.distance + service.arguments := by
    rw [Service.unshifted, toInt_or_of_lt (hword.symm ▸ haligned) harguments, hword]
  rw [distance, if_pos rfl, hentry]
  omega

theorem routine_shifted {build : UInt16} (hbuild : build ≠ unshiftedBuild) (start : Address)
    {service : Service} (h : service.FitsShifted) :
    routine build start service.shifted = service.routine start := by
  rw [routine, distance_shifted hbuild h, Service.routine]

theorem routine_unshifted (start : Address) {service : Service} (h : service.FitsUnshifted) :
    routine unshiftedBuild start service.unshifted = service.routine start := by
  rw [routine, distance_unshifted h, Service.routine]

/-! ## Tables -/

@[simp] theorem liftM_target_service {α : Type} (a : α) :
    (liftM (Except.ok a : Except TargetError α) : Except ServiceError α) = .ok a := rfl

@[simp] theorem liftM_memory_service {α : Type} (a : α) :
    (liftM (Except.ok a : Except MemoryError α) : Except ServiceError α) = .ok a := rfl

section Tables

variable {target : Target} {descriptor : Address}

/-- Four words of any width, as many as a descriptor has, fit a buffer. -/
theorem four_mul_le_bufferLimit {width : Nat} (hwidth : width ≤ 8) : 4 * width ≤ bufferLimit :=
  Nat.le_trans (Nat.mul_le_mul_left 4 hwidth) (by decide)

theorem startAndCount_four {start second count fourth : UInt64} :
    startAndCount [start, second, count, fourth] = (start, count) := rfl

theorem plausibleCount_of_le {count : Nat} (h : count ≤ 4096) :
    plausibleCount (UInt64.ofNat count) = .ok count := by
  have hcount : (UInt64.ofNat count).toNat = count :=
    UInt64.toNat_ofNat_of_lt' (Nat.lt_of_le_of_lt h (by decide))
  have hplausible : ¬ serviceLimit < UInt64.ofNat count := by
    rw [UInt64.lt_iff_toNat_lt, hcount]
    exact Nat.not_lt.2 h
  rw [plausibleCount, if_neg hplausible, hcount]

theorem plausibleCount_of_lt {count : UInt64} (h : 4096 < count) :
    plausibleCount count = .error (.implausibleCount count) := if_pos h

/-- The entries of a table are read one by one. -/
theorem readWide_eq_ok {start second fourth : UInt64} {build : UInt16} {entries : List Int32}
    (hcount : entries.length ≤ 4096)
    (hdescriptor : target.HasU64s descriptor
      [start, second, UInt64.ofNat entries.length, fourth])
    (hbuild : buildNumber target = .ok build)
    (hentries : target.HasU32s start (entries.map Int32.toUInt32)) :
    readWide target descriptor = .ok ⟨start, entries.map (routine build start), true⟩ := by
  have hwords : target.readU64s descriptor 4 = _ :=
    Target.readU64s_of_hasU64s (four_mul_le_bufferLimit (by decide)) hdescriptor
  have hread : target.readI32s start entries.length = .ok entries := by
    have hfits : (entries.map Int32.toUInt32).length * 4 ≤ bufferLimit := by
      rw [List.length_map, bufferLimit]
      omega
    rw [Target.readI32s, ← List.length_map Int32.toUInt32,
      Target.readU32s_of_hasU32s hfits hentries]
    simp [Except.map, Function.comp_def]
  simp only [readWide, hwords, startAndCount_four, plausibleCount_of_le hcount, hbuild, hread,
    ok_bind, liftM_memory_service, liftM_target_service]
  rfl

/-- The addresses of a table are read one by one. -/
theorem readNarrow_eq_ok {start second fourth : UInt32} {addresses : List UInt32}
    (hsize : target.pointerSize = 4) (hcount : addresses.length ≤ 4096)
    (hdescriptor : target.HasU32s descriptor
      [start, second, UInt32.ofNat addresses.length, fourth])
    (haddresses : target.HasU32s start.toUInt64 addresses) :
    readNarrow target descriptor =
      .ok ⟨start.toUInt64, addresses.map UInt32.toUInt64, false⟩ := by
  have hwords : target.readU32s descriptor 4 = _ :=
    Target.readU32s_of_hasU32s (four_mul_le_bufferLimit (by decide)) hdescriptor
  have hclaimed : (UInt32.ofNat addresses.length).toUInt64 = UInt64.ofNat addresses.length := by
    apply UInt64.toNat_inj.1
    rw [UInt32.toNat_toUInt64, UInt32.toNat_ofNat_of_lt' (Nat.lt_of_le_of_lt hcount (by decide)),
      UInt64.toNat_ofNat_of_lt' (Nat.lt_of_le_of_lt hcount (by decide))]
  have hread : target.readPointers start.toUInt64 addresses.length =
      .ok (addresses.map UInt32.toUInt64) := by
    have hfits : addresses.length * 4 ≤ bufferLimit := by
      rw [bufferLimit]
      omega
    rw [Target.readPointers, if_pos hsize, Target.readU32s_of_hasU32s hfits haddresses]
    rfl
  simp only [readNarrow, hwords, List.map_cons, List.map_nil, hclaimed, startAndCount_four,
    plausibleCount_of_le hcount, hread, ok_bind, liftM_memory_service]
  rfl

theorem readWide_eq_error {start second count fourth : UInt64} (hcount : 4096 < count)
    (hdescriptor : target.HasU64s descriptor [start, second, count, fourth]) :
    readWide target descriptor = .error (.implausibleCount count) := by
  have hwords : target.readU64s descriptor 4 = _ :=
    Target.readU64s_of_hasU64s (four_mul_le_bufferLimit (by decide)) hdescriptor
  simp only [readWide, hwords, startAndCount_four, plausibleCount_of_lt hcount, ok_bind,
    liftM_memory_service]
  rfl

theorem readNarrow_eq_error {start second count fourth : UInt32} (hcount : 4096 < count)
    (hdescriptor : target.HasU32s descriptor [start, second, count, fourth]) :
    readNarrow target descriptor = .error (.implausibleCount count.toUInt64) := by
  have hwords : target.readU32s descriptor 4 = _ :=
    Target.readU32s_of_hasU32s (four_mul_le_bufferLimit (by decide)) hdescriptor
  have hclaimed : 4096 < count.toUInt64 := by
    rw [UInt64.lt_iff_toNat_lt, UInt32.toNat_toUInt64]
    exact UInt32.lt_iff_toNat_lt.1 hcount
  simp only [readNarrow, hwords, List.map_cons, List.map_nil, startAndCount_four,
    plausibleCount_of_lt hclaimed, ok_bind, liftM_memory_service]
  rfl

end Tables

/-! ## No fault of arithmetic -/

section Faults

variable {Cause : Prop}

theorem faultsBy_plausibleCount (count : UInt64) :
    FaultsBy ServiceError.overflow? Cause (plausibleCount count) := by
  unfold plausibleCount
  split
  · exact faultsBy_error rfl
  · exact faultsBy_ok _

/-- A plausible number of services is small enough for any buffer. -/
theorem fits_of_plausibleCount {claimed : UInt64} {count : Nat}
    (h : plausibleCount claimed = .ok count) : count * 8 ≤ bufferLimit := by
  unfold plausibleCount at h
  split at h
  · cases h
  next hplausible =>
    cases h
    have hle : claimed.toNat ≤ 4096 := UInt64.not_lt.1 hplausible
    simp only [bufferLimit]
    omega

variable {target : Target} (hregular : target.Regular)

include hregular

theorem faultsBy_readWide (descriptor : Address) :
    FaultsBy ServiceError.overflow? Cause (readWide target descriptor) := by
  have hwords : 4 * 8 ≤ bufferLimit := four_mul_le_bufferLimit (by decide)
  refine ((hregular.readNats descriptor hwords).map _).target.service.bind fun words _ => ?_
  refine (faultsBy_plausibleCount _).bind fun count hplausible => ?_
  refine (faultsBy_buildNumber hregular).service.bind fun build _ => ?_
  have hfits := fits_of_plausibleCount hplausible
  have hentries : count * 4 ≤ bufferLimit := by omega
  refine FaultsBy.bind ?_ fun entries _ => faultsBy_ok _
  exact (((hregular.readNats _ hentries).map _).map _).target.service

theorem faultsBy_readNarrow (descriptor : Address) :
    FaultsBy ServiceError.overflow? Cause (readNarrow target descriptor) := by
  have hwords : 4 * 4 ≤ bufferLimit := four_mul_le_bufferLimit (by decide)
  refine ((hregular.readNats descriptor hwords).map _).target.service.bind fun words _ => ?_
  refine (faultsBy_plausibleCount _).bind fun count hplausible => ?_
  refine FaultsBy.bind ?_ fun routines _ => faultsBy_ok _
  exact (hregular.readPointers _ (fits_of_plausibleCount hplausible)).target.service

/-- Reading the service table forms no sum, and no buffer that is too large. -/
theorem faultsBy_read : FaultsBy ServiceError.overflow? Cause (read target) := by
  refine (target.faultsBy_symbol _).service.bind fun descriptor _ => ?_
  split
  · exact faultsBy_readWide hregular descriptor
  · exact faultsBy_readNarrow hregular descriptor

end Faults

/-! ## What a kernel writes is read -/

section Images

variable (profile : Profile) (memory : Memory)

/-- A 64-bit kernel says in memory where its table starts and how many services it has. -/
structure Wide (start : Address) (count : UInt64) : Prop where
  width : profile.pointerSize = 8
  descriptor : ∃ address second fourth,
    profile.HasSymbol "nt!KeServiceDescriptorTable" address ∧
      (Target.ofMemory profile memory).HasU64s address [start, second, count, fourth]

/-- So does a 32-bit kernel. -/
structure Narrow (start count : UInt32) : Prop where
  width : profile.pointerSize = 4
  descriptor : ∃ address second fourth,
    profile.HasSymbol "nt!KeServiceDescriptorTable" address ∧
      (Target.ofMemory profile memory).HasU32s address [start, second, count, fourth]

/-- The number that the kernel keeps for its build, of two bytes or more. -/
def HasBuild (number : Nat) : Prop :=
  ∃ address width, profile.HasSymbol "nt!NtBuildNumber" address ∧ 2 ≤ width ∧
    (Target.ofMemory profile memory).readNat address width = .ok number

variable {profile memory}

theorem read_of_wide {start : Address} {count : UInt64} (h : Wide profile memory start count) :
    ∃ address second fourth,
      (Target.ofMemory profile memory).HasU64s address [start, second, count, fourth] ∧
        read (.ofMemory profile memory) = readWide (.ofMemory profile memory) address := by
  obtain ⟨hwidth, address, second, fourth, hsymbol, hwords⟩ := h
  have hsize : (Target.ofMemory profile memory).pointerSize = 8 := hwidth
  refine ⟨address, second, fourth, hwords, ?_⟩
  rw [read, Target.symbol_of_hasSymbol hsymbol, liftM_target_service, ok_bind, if_pos hsize]

theorem read_of_narrow {start count : UInt32} (h : Narrow profile memory start count) :
    ∃ address second fourth,
      (Target.ofMemory profile memory).HasU32s address [start, second, count, fourth] ∧
        read (.ofMemory profile memory) = readNarrow (.ofMemory profile memory) address := by
  obtain ⟨hwidth, address, second, fourth, hsymbol, hwords⟩ := h
  have hsize : ¬ (Target.ofMemory profile memory).pointerSize = 8 := by
    change ¬ profile.pointerSize = 8
    rw [hwidth]
    decide
  refine ⟨address, second, fourth, hwords, ?_⟩
  rw [read, Target.symbol_of_hasSymbol hsymbol, liftM_target_service, ok_bind, if_neg hsize]

/-- Of entries that each build's way of packing gives back, the routines are read. -/
theorem read_of_entries {start : Address} {services : List Service} {pack : Service → Int32}
    {number : Nat} (hwide : Wide profile memory start (UInt64.ofNat services.length))
    (hcount : services.length ≤ 4096) (hbuild : HasBuild profile memory number)
    (hpack : ∀ service ∈ services,
      routine (UInt16.ofNat number) start (pack service) = service.routine start)
    (hentries : (Target.ofMemory profile memory).HasU32s start
      (services.map fun service => (pack service).toUInt32)) :
    read (.ofMemory profile memory) = .ok ⟨start, services.map (·.routine start), true⟩ := by
  obtain ⟨address, second, fourth, hwords, hread⟩ := read_of_wide hwide
  obtain ⟨buildAddress, width, hsymbol, hwidth, hnumber⟩ := hbuild
  have hlow := buildNumber_of_readNat hsymbol hwidth hnumber
  have hroutines : (services.map pack).map (routine (UInt16.ofNat number) start) =
      services.map (·.routine start) := by
    rw [List.map_map]
    exact List.map_congr_left hpack
  have hpacked : (Target.ofMemory profile memory).HasU32s start
      ((services.map pack).map Int32.toUInt32) := by
    rw [List.map_map]
    exact hentries
  rw [← List.length_map pack] at hwords hcount
  rw [hread, readWide_eq_ok hcount hwords hlow hpacked, hroutines]

end Images

/-- Reading the service table of a captured target undoes what the kernel wrote.  A 64-bit kernel
keeps distances, shifted up or, in build 3790, as they are, and the sum with the start may wrap; a
32-bit kernel keeps addresses.  There is one routine for each entry, in order.  Only the low sixteen
bits of the build number count.  A table that claims more than 4096 services is refused, whatever
else memory holds.  With the profile of a snapshot that was loaded, no arithmetic fails. -/
theorem read_inverts (profile : Profile) (memory : Memory) :
    -- distances that are shifted up
    (∀ (start : Address) (services : List Service) (number : Nat),
      Wide profile memory start (UInt64.ofNat services.length) → services.length ≤ 4096 →
      HasBuild profile memory number → number % 0x10000 ≠ 3790 →
      (∀ service ∈ services, service.FitsShifted) →
      (Target.ofMemory profile memory).HasU32s start
        (services.map fun service => service.shifted.toUInt32) →
      read (.ofMemory profile memory) = .ok ⟨start, services.map (·.routine start), true⟩) ∧
    -- distances as they are
    (∀ (start : Address) (services : List Service) (number : Nat),
      Wide profile memory start (UInt64.ofNat services.length) → services.length ≤ 4096 →
      HasBuild profile memory number → number % 0x10000 = 3790 →
      (∀ service ∈ services, service.FitsUnshifted) →
      (Target.ofMemory profile memory).HasU32s start
        (services.map fun service => service.unshifted.toUInt32) →
      read (.ofMemory profile memory) = .ok ⟨start, services.map (·.routine start), true⟩) ∧
    -- addresses
    (∀ (start : UInt32) (addresses : List UInt32),
      Narrow profile memory start (UInt32.ofNat addresses.length) → addresses.length ≤ 4096 →
      (Target.ofMemory profile memory).HasU32s start.toUInt64 addresses →
      read (.ofMemory profile memory) =
        .ok ⟨start.toUInt64, addresses.map UInt32.toUInt64, false⟩) ∧
    -- too many services
    (∀ (start : Address) (count : UInt64), Wide profile memory start count → 4096 < count →
      read (.ofMemory profile memory) = .error (.implausibleCount count)) ∧
    (∀ start count : UInt32, Narrow profile memory start count → 4096 < count →
      read (.ofMemory profile memory) = .error (.implausibleCount count.toUInt64)) ∧
    -- whatever memory holds
    (∀ (readText : String → Except FileError String) (path : String) (snapshot : Snapshot),
      Snapshot.load readText path = .ok snapshot →
      (∃ table, read (.ofMemory snapshot.profile memory) = .ok table) ∨
        ∃ error, read (.ofMemory snapshot.profile memory) = .error error ∧
          error.overflow? = none) := by
  refine ⟨?_, ?_, ?_, ?_, ?_, ?_⟩
  · intro start services number hwide hcount hbuild hnumber hfits hentries
    have hother : UInt16.ofNat number ≠ unshiftedBuild := by
      rw [Ne, ← UInt16.toNat_inj, UInt16.toNat_ofNat']
      exact hnumber
    exact read_of_entries hwide hcount hbuild
      (fun service hmem => routine_shifted hother start (hfits service hmem)) hentries
  · intro start services number hwide hcount hbuild hnumber hfits hentries
    have hsame : UInt16.ofNat number = unshiftedBuild := by
      rw [← UInt16.toNat_inj, UInt16.toNat_ofNat']
      exact hnumber
    exact read_of_entries hwide hcount hbuild
      (fun service hmem => hsame ▸ routine_unshifted start (hfits service hmem)) hentries
  · intro start addresses hnarrow hcount haddresses
    obtain ⟨address, second, fourth, hwords, hread⟩ := read_of_narrow hnarrow
    rw [hread]
    exact readNarrow_eq_ok hnarrow.width hcount hwords haddresses
  · intro start count hwide hcount
    obtain ⟨address, second, fourth, hwords, hread⟩ := read_of_wide hwide
    rw [hread, readWide_eq_error hcount hwords]
  · intro start count hnarrow hcount
    obtain ⟨address, second, fourth, hwords, hread⟩ := read_of_narrow hnarrow
    rw [hread, readNarrow_eq_error hcount hwords]
  · intro readText path snapshot hload
    have hregular := Target.regular_ofMemory (Snapshot.validate_of_load hload) memory
    cases hread : read (.ofMemory snapshot.profile memory) with
    | ok table => exact .inl ⟨table, rfl⟩
    | error error =>
      refine .inr ⟨error, rfl, Option.eq_none_iff_forall_ne_some.2 fun fault hfault => ?_⟩
      exact (faultsBy_read hregular error fault hread hfault).2

/-! ## Small tables -/

/-- A kernel whose descriptor, build number and table lie one behind the other. -/
def smallWide : Profile where
  pointerSize := 8
  kernel := true
  symbols := .ofList [("nt!KeServiceDescriptorTable", 0x1000), ("nt!NtBuildNumber", 0x1020)]
  types := .empty

/-- The memory of such a kernel. -/
def smallWideMemory (count build : Nat) (entries : List Int32) : Memory :=
  .run [.map 0x1000 (Bytes.ofWords 8 [0x1028, 0, count, 0] ++ Bytes.ofWords 4 [build, 0] ++
    Bytes.ofWords 4 (entries.map fun entry => entry.toUInt32.toNat)).toArray]

/-- A 32-bit kernel whose descriptor and table lie one behind the other. -/
def smallNarrow : Profile where
  pointerSize := 4
  kernel := true
  symbols := .ofList [("nt!KeServiceDescriptorTable", 0x1000)]
  types := .empty

/-- The memory of such a kernel. -/
def smallNarrowMemory (count : Nat) (addresses : List Nat) : Memory :=
  .run [.map 0x1000 (Bytes.ofWords 4 [0x1010, 0, count, 0] ++ Bytes.ofWords 4 addresses).toArray]

/-- Two services before and behind the start of the table, in all three forms; a table of too many
services; and one that cannot be read. -/
theorem read_inverts_small :
    read (.ofMemory smallWide (smallWideMemory 2 0xF0001770 [-0x7D, 0x100])) =
        .ok ⟨0x1028, [0x1020, 0x1038], true⟩ ∧
      read (.ofMemory smallWide (smallWideMemory 2 3790 [-0x0B, 0x20])) =
        .ok ⟨0x1028, [0x1018, 0x1048], true⟩ ∧
      read (.ofMemory smallNarrow (smallNarrowMemory 2 [0x80001000, 0x10])) =
        .ok ⟨0x1010, [0x80001000, 0x10], false⟩ ∧
      read (.ofMemory smallWide (smallWideMemory 4097 0 [])) = .error (.implausibleCount 4097) ∧
      read (.ofMemory smallNarrow (smallNarrowMemory 4097 [])) = .error (.implausibleCount 4097) ∧
      ((∃ table, read (.ofMemory smallNarrow .empty) = .ok table) ∨
        ∃ error, read (.ofMemory smallNarrow .empty) = .error error ∧ error.overflow? = none) := by
  refine ⟨?_, ?_, ?_, ?_, ?_, ?_⟩
  · exact (read_inverts smallWide (smallWideMemory 2 0xF0001770 [-0x7D, 0x100])).1 0x1028
      [⟨-8, 3⟩, ⟨0x10, 0⟩] 0xF0001770 ⟨rfl, 0x1000, 0, 0, rfl, by decide +kernel⟩ (by decide)
      ⟨0x1020, 4, rfl, by decide, toOption_eq_some_iff.1 (by decide +kernel)⟩ (by decide)
      (by decide) (by decide +kernel)
  · exact (read_inverts smallWide (smallWideMemory 2 3790 [-0x0B, 0x20])).2.1 0x1028
      [⟨-0x10, 5⟩, ⟨0x20, 0⟩] 3790 ⟨rfl, 0x1000, 0, 0, rfl, by decide +kernel⟩ (by decide)
      ⟨0x1020, 4, rfl, by decide, toOption_eq_some_iff.1 (by decide +kernel)⟩ (by decide)
      (by decide) (by decide +kernel)
  · exact (read_inverts smallNarrow (smallNarrowMemory 2 [0x80001000, 0x10])).2.2.1 0x1010
      [0x80001000, 0x10] ⟨rfl, 0x1000, 0, 0, rfl, by decide +kernel⟩ (by decide)
      (by decide +kernel)
  · exact (read_inverts smallWide (smallWideMemory 4097 0 [])).2.2.2.1 0x1028 4097
      ⟨rfl, 0x1000, 0, 0, rfl, by decide +kernel⟩ (by decide)
  · exact (read_inverts smallNarrow (smallNarrowMemory 4097 [])).2.2.2.2.1 0x1010 4097
      ⟨rfl, 0x1000, 0, 0, rfl, by decide +kernel⟩ (by decide)
  · have hvalid : (Snapshot.capture smallNarrow .empty).profile.validate = .ok () := rfl
    exact (read_inverts smallNarrow .empty).2.2.2.2.2 _ "snapshot.json" _
      (Snapshot.load_text hvalid _)

end ServiceTable

end KernelScope
