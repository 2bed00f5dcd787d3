import KernelScope.Proofs.ObjectManager.Image

/-!
# Headers of either kind

What a kernel writes into the header of an object depends on its generation.  Here it is said of any
target what such a header holds, and that reading it gives back the type and the place of the name,
whether or not the index of the type is scrambled.
-/

set_option autoImplicit false

namespace KernelScope.ObjectManager

/-! ## Scrambled indexes -/

/-- Scrambling an index twice gives it back. -/
theorem plainIndex_storedIndex {manager : ObjectManager} {generation : Generation}
    (hcookie : manager.cookie = generation.cookie?) (header : Address) (index : UInt8) :
    manager.plainIndex header (generation.storedIndex header index) = index := by
  unfold plainIndex Generation.storedIndex
  rw [hcookie]
  cases generation.cookie? with
  | none => rfl
  | some cookie =>
    simp only
    rw [UInt8.xor_assoc, UInt8.xor_self, UInt8.xor_zero]

/-! ## Probing -/

/-- The byte that type indexes are scrambled with. -/
def readCookie (target : Target) : Except TargetError UInt8 := do
  target.readU8 (← target.symbol "nt!ObHeaderCookie")

/-- The target tells that its kernel is of the generation. -/
def Generation.Told (target : Target) : Generation → Prop
  | .direct nameInfoOffset type =>
    target.fieldOffset? headerType "NameInfoOffset" = .ok (some nameInfoOffset) ∧
      target.fieldOffset headerType "Type" = .ok type
  | .indexed infoMask typeIndex build cookie =>
    target.fieldOffset? headerType "NameInfoOffset" = .ok none ∧
      target.fieldOffset headerType "InfoMask" = .ok infoMask ∧
      target.fieldOffset headerType "TypeIndex" = .ok typeIndex ∧
      buildNumber target = .ok build ∧
      (firstCookieBuild ≤ build → readCookie target = .ok cookie)

section Probing

variable {target : Target} {generation : Generation}

/-- The layout of headers is found out from their fields. -/
theorem probeLayout_of_told (h : generation.Told target) :
    probeLayout target = .ok generation.layout := by
  cases generation with
  | direct nameInfoOffset type =>
    obtain ⟨hname, htype⟩ := h
    simp only [probeLayout, hname, htype, ok_bind]
    rfl
  | indexed infoMask typeIndex build cookie =>
    obtain ⟨hlacks, hmask, hindex, -, -⟩ := h
    simp only [probeLayout, hlacks, hmask, hindex, ok_bind]
    rfl

/-- The cookie counts where the build scrambles type indexes. -/
theorem probeCookie_of_build {build : UInt16} (hbuild : buildNumber target = .ok build)
    (infoMask typeIndex : UInt64) :
    probeCookie target (.indexed infoMask typeIndex) =
      if build < firstCookieBuild then .ok none else (readCookie target).map some := by
  simp only [probeCookie, hbuild, ok_bind]
  by_cases hscrambles : firstCookieBuild ≤ build
  · rw [if_pos hscrambles, if_neg (UInt16.not_lt.2 hscrambles), readCookie]
    cases target.symbol "nt!ObHeaderCookie" with
    | error error => rfl
    | ok address =>
      simp only [ok_bind]
      cases target.readU8 address <;> rfl
  · rw [if_neg hscrambles, if_pos (UInt16.not_le.1 hscrambles)]
    rfl

/-- The cookie is found out from the build. -/
theorem probeCookie_of_told (h : generation.Told target) :
    probeCookie target generation.layout = .ok generation.cookie? := by
  cases generation with
  | direct nameInfoOffset type => rfl
  | indexed infoMask typeIndex build cookie =>
    obtain ⟨-, -, -, hbuild, hcookie⟩ := h
    rw [Generation.layout, probeCookie_of_build hbuild, Generation.cookie?]
    by_cases hscrambles : firstCookieBuild ≤ build
    · rw [if_neg (UInt16.not_lt.2 hscrambles), if_pos hscrambles, hcookie hscrambles]
      rfl
    · rw [if_pos (UInt16.not_le.1 hscrambles), if_neg hscrambles]

/-- The layout of the target's objects is found out. -/
theorem probe_of_told (h : generation.Told target) {body : UInt64}
    (hbody : target.fieldOffset headerType "Body" = .ok body) :
    probe target = .ok ⟨generation.layout, body, generation.cookie?⟩ := by
  simp only [probe, hbody, probeLayout_of_told h, probeCookie_of_told h, ok_bind]
  rfl

/-- Of the build number only the low sixteen bits are read. -/
theorem buildNumber_of_readNat {profile : Profile} {memory : Memory} {address : Address}
    {width n : Nat} (hsymbol : profile.HasSymbol "nt!NtBuildNumber" address) (hwidth : 2 ≤ width)
    (hread : (Target.ofMemory profile memory).readNat address width = .ok n) :
    buildNumber (.ofMemory profile memory) = .ok (UInt16.ofNat n) := by
  have hlow := Target.readNat_take hread hwidth
  simp only [buildNumber, Target.symbol_of_hasSymbol hsymbol, ok_bind, Target.readU16, hlow,
    Except.map, liftM_memory_target]
  rw [show 256 ^ 2 = 2 ^ 16 from rfl, UInt16.ofNat_mod_size]

end Probing

/-! ## Headers -/

/-- A header with a pointer to the type, and with the distance to the name. -/
structure DirectHeader (target : Target) (nameInfoOffset typeOffset : UInt64) (header : Address)
    (type : Address) (distance : UInt8) : Prop where
  type : target.HasPointer header typeOffset type
  distance : target.HasByte header nameInfoOffset distance

/-- A header with a stored byte for an index, whose slot in the table of types holds the type, and
with a mask whose low two bits choose a distance to the name, if the second of them is set. -/
structure IndexedHeader (target : Target) (infoMask typeIndex : UInt64) (header : Address)
    (stored index : UInt8) (type : Address) (low distance : UInt8) : Prop where
  stored : target.HasByte header typeIndex stored
  type : ∃ table, target.symbol "nt!ObTypeIndexTable" = .ok table ∧
    target.HasSlot table index type
  mask : ∃ mask, target.HasByte header infoMask mask ∧ mask &&& 3 = low
  distance : low &&& 2 ≠ 0 → ∃ table, target.symbol "nt!ObpInfoMaskToOffset" = .ok table ∧
    target.HasByte table low.toUInt64 distance

section Headers

variable {manager : ObjectManager} {target : Target} {object type : Address} {distance : UInt8}

theorem readHeader_of_direct {nameInfoOffset typeOffset : UInt64}
    (hlayout : manager.layout = .direct nameInfoOffset typeOffset)
    (h : DirectHeader target nameInfoOffset typeOffset (object - manager.bodyOffset) type
      distance) :
    manager.readHeader target object =
      .ok ⟨object - manager.bodyOffset, type,
        Generation.nameInfoAt (object - manager.bodyOffset) distance⟩ := by
  simp only [readHeader, objectType, nameDistance, hlayout, h.type.addWords, h.type.2,
    h.distance.addWords, h.distance.2, ok_bind, liftM_overflow_target, liftM_memory_target]
  rfl

theorem objectType_of_indexed {infoMask typeIndex : UInt64} {header : Address}
    {stored index low : UInt8} (hlayout : manager.layout = .indexed infoMask typeIndex)
    (hplain : manager.plainIndex header stored = index)
    (h : IndexedHeader target infoMask typeIndex header stored index type low distance) :
    manager.objectType target header = .ok type := by
  obtain ⟨table, hsymbol, hslot⟩ := h.type
  simp only [objectType, hlayout, h.stored.addWords, h.stored.2, hplain, hsymbol,
    hslot.multiplyWords, hslot.addWords, hslot.2, ok_bind, liftM_overflow_target,
    liftM_memory_target]

/-- The second bit of a mask is that of its low two bits. -/
theorem and_two_of_low {mask low : UInt8} (h : mask &&& 3 = low) : mask &&& 2 = low &&& 2 := by
  rw [← h, UInt8.and_assoc]
  rfl

theorem nameDistance_of_indexed {infoMask typeIndex : UInt64} {header : Address}
    {stored index low : UInt8} (hlayout : manager.layout = .indexed infoMask typeIndex)
    (h : IndexedHeader target infoMask typeIndex header stored index type low distance) :
    manager.nameDistance target header = .ok (if low &&& 2 = 0 then 0 else distance) := by
  obtain ⟨mask, hmask, hlow⟩ := h.mask
  simp only [nameDistance, hlayout, hmask.addWords, hmask.2, and_two_of_low hlow, hlow, ok_bind,
    liftM_overflow_target, liftM_memory_target]
  by_cases hnamed : low &&& 2 = 0
  · rw [if_pos hnamed, if_pos hnamed]
    rfl
  · obtain ⟨table, hsymbol, hentry⟩ := h.distance hnamed
    simp only [if_neg hnamed, hsymbol, hentry.addWords, hentry.2, ok_bind, liftM_overflow_target,
      liftM_memory_target]

theorem readHeader_of_indexed {infoMask typeIndex : UInt64} {stored index low : UInt8}
    (hlayout : manager.layout = .indexed infoMask typeIndex)
    (hplain : manager.plainIndex (object - manager.bodyOffset) stored = index)
    (h : IndexedHeader target infoMask typeIndex (object - manager.bodyOffset) stored index type
      low distance) :
    manager.readHeader target object =
      .ok ⟨object - manager.bodyOffset, type,
        Generation.nameInfoAt (object - manager.bodyOffset)
          (if low &&& 2 = 0 then 0 else distance)⟩ := by
  simp only [readHeader, objectType_of_indexed hlayout hplain h, nameDistance_of_indexed hlayout h,
    ok_bind]
  rfl

end Headers

/-! ## What a kernel writes is read -/

/-- What a kernel writes for an index: the index with bits 8 to 15 of the header's address and the
cookie mixed in. -/
def scramble (cookie : UInt8) (header : Address) (index : UInt8) : UInt8 :=
  index ^^^ (header >>> 8).toUInt8 ^^^ cookie

theorem storedIndex_eq_scramble (infoMask typeIndex : UInt64) (build : UInt16) (cookie : UInt8)
    (header : Address) (index : UInt8) :
    (Generation.indexed infoMask typeIndex build cookie).storedIndex header index =
      if build < firstCookieBuild then index else scramble cookie header index := by
  unfold Generation.storedIndex Generation.cookie?
  by_cases hscrambles : firstCookieBuild ≤ build
  · simp only [if_pos hscrambles, if_neg (UInt16.not_lt.2 hscrambles)]
    rw [scramble, UInt8.xor_assoc]
  · simp only [if_neg hscrambles, if_pos (UInt16.not_le.1 hscrambles)]

/-- With another cookie than the one that an index was scrambled with, one comes to another index:
the bits in which the cookies differ are the wrong ones. -/
theorem plainIndex_scramble {manager : ObjectManager} {probed : UInt8}
    (hcookie : manager.cookie = some probed) (cookie : UInt8) (header : Address) (index : UInt8) :
    manager.plainIndex header (scramble cookie header index) = index ^^^ (cookie ^^^ probed) := by
  simp only [plainIndex, hcookie, scramble]
  rw [UInt8.xor_assoc index, UInt8.xor_assoc index, UInt8.xor_comm _ cookie,
    UInt8.xor_assoc cookie, ← UInt8.xor_assoc _ _ probed, UInt8.xor_self, UInt8.zero_xor]

theorem nameInfoAt_of_low (header : Address) (low distance : UInt8) :
    Generation.nameInfoAt header (if low &&& 2 = 0 then 0 else distance) =
      if low &&& 2 ≠ 0 ∧ distance ≠ 0 then some (header - distance.toUInt64) else none := by
  unfold Generation.nameInfoAt
  by_cases hnamed : low &&& 2 = 0
  · simp [hnamed]
  · by_cases hdistance : distance = 0
    · simp [hdistance]
    · simp [hnamed, hdistance]

/-- Reading the header of an object undoes what the kernel wrote, in every generation, at every
address.  A header with an index yields the pointer in the slot of that index, scrambled or not, and
a name only if the second bit of the mask is set and the distance chosen by its low two bits is not
zero; no other bit of the mask counts.  A header of the older kind yields its pointer, and a name
unless the distance is zero.  Only the low sixteen bits of the build number decide whether indexes
are scrambled.  Where another cookie is read than the one they were scrambled with, a slot other
than the right one is taken. -/
theorem readHeader_inverts :
    -- headers with an index
    (∀ (target : Target) (body infoMask typeIndex : UInt64) (build : UInt16) (cookie : UInt8)
        (object type : Address) (index low distance : UInt8),
      target.fieldOffset headerType "Body" = .ok body →
      (Generation.indexed infoMask typeIndex build cookie).Told target →
      IndexedHeader target infoMask typeIndex (object - body)
        (if build < firstCookieBuild then index else scramble cookie (object - body) index) index
        type low distance →
      ∃ manager, probe target = .ok manager ∧
        manager.readHeader target object = .ok ⟨object - body, type,
          if low &&& 2 ≠ 0 ∧ distance ≠ 0 then some (object - body - distance.toUInt64)
          else none⟩) ∧
    -- headers with a pointer
    (∀ (target : Target) (body nameInfoOffset typeOffset : UInt64) (object type : Address)
        (distance : UInt8),
      target.fieldOffset headerType "Body" = .ok body →
      (Generation.direct nameInfoOffset typeOffset).Told target →
      DirectHeader target nameInfoOffset typeOffset (object - body) type distance →
      ∃ manager, probe target = .ok manager ∧
        manager.readHeader target object = .ok ⟨object - body, type,
          if distance = 0 then none else some (object - body - distance.toUInt64)⟩) ∧
    -- the build
    (∀ (profile : Profile) (memory : Memory) (address : Address) (width number : Nat)
        (infoMask typeIndex : UInt64),
      profile.HasSymbol "nt!NtBuildNumber" address → 2 ≤ width →
      (Target.ofMemory profile memory).readNat address width = .ok number →
      probeCookie (.ofMemory profile memory) (.indexed infoMask typeIndex) =
        if number % 0x10000 < 10074 then .ok none
        else (readCookie (.ofMemory profile memory)).map some) ∧
    -- another cookie
    (∀ (target : Target) (body infoMask typeIndex : UInt64) (build : UInt16)
        (probed cookie : UInt8) (object : Address) (index : UInt8),
      (target.pointerSize = 4 ∨ target.pointerSize = 8) →
      target.fieldOffset headerType "Body" = .ok body →
      (Generation.indexed infoMask typeIndex build probed).Told target →
      firstCookieBuild ≤ build → probed ≠ cookie →
      ∃ manager selected, probe target = .ok manager ∧
        manager.plainIndex (object - body) (scramble cookie (object - body) index) = selected ∧
        selected ≠ index ∧
        (∀ table, target.slot table selected ≠ target.slot table index) ∧
        ∀ (type : Address) (low distance : UInt8),
          IndexedHeader target infoMask typeIndex (object - body)
            (scramble cookie (object - body) index) selected type low distance →
          manager.readHeader target object = .ok ⟨object - body, type,
            if low &&& 2 ≠ 0 ∧ distance ≠ 0 then some (object - body - distance.toUInt64)
            else none⟩) := by
  refine ⟨?_, ?_, ?_, ?_⟩
  · intro target body infoMask typeIndex build cookie object type index low distance hbody htold
      hheader
    have hprobe := probe_of_told htold hbody
    rw [← storedIndex_eq_scramble infoMask typeIndex] at hheader
    rw [← nameInfoAt_of_low]
    exact ⟨_, hprobe, readHeader_of_indexed rfl (plainIndex_storedIndex rfl _ _) hheader⟩
  · intro target body nameInfoOffset typeOffset object type distance hbody htold hheader
    exact ⟨_, probe_of_told htold hbody, readHeader_of_direct rfl hheader⟩
  · intro profile memory address width number infoMask typeIndex hsymbol hwidth hread
    have hlow : UInt16.ofNat number < firstCookieBuild ↔ number % 0x10000 < 10074 := by
      rw [UInt16.lt_iff_toNat_lt, UInt16.toNat_ofNat']
      rfl
    rw [probeCookie_of_build (buildNumber_of_readNat hsymbol hwidth hread)]
    simp only [hlow]
  · intro target body infoMask typeIndex build probed cookie object index hsize hbody htold
      hscrambles hother
    have hprobe := probe_of_told htold hbody
    have hcookie : (⟨.indexed infoMask typeIndex, body,
        (Generation.indexed infoMask typeIndex build probed).cookie?⟩ : ObjectManager).cookie =
          some probed := if_pos hscrambles
    have hselected := plainIndex_scramble hcookie cookie (object - body) index
    have hne : index ^^^ (cookie ^^^ probed) ≠ index := by
      intro heq
      have hzero : cookie ^^^ probed = 0 := by
        rw [← UInt8.xor_right_inj index, heq, UInt8.xor_zero]
      exact hother (UInt8.xor_eq_zero_iff.1 hzero).symm
    refine ⟨_, _, hprobe, hselected, hne,
      fun table hslot => hne (Target.slot_inj hsize table hslot), ?_⟩
    intro type low distance hheader
    rw [← nameInfoAt_of_low]
    exact readHeader_of_indexed rfl hselected hheader

/-- A kernel of build 10240, whose number is kept with a flag in its high half. -/
def scrambledTarget : Target :=
  .ofMemory
    { pointerSize := 4
      kernel := true
      symbols := .ofList [("nt!NtBuildNumber", 0x1000), ("nt!ObHeaderCookie", 0x1004),
        ("nt!ObpInfoMaskToOffset", 0x1008), ("nt!ObTypeIndexTable", 0x1010)]
      types := .ofList [
        (headerType, ⟨8, .ofList [("Body", 8), ("InfoMask", 1), ("TypeIndex", 0)]⟩)] }
    (.run [.map 0x1000 #[
      0x00, 0x28, 0x00, 0xF0, 0x5A, 0, 0, 0, 0, 0x20, 0x10, 0x30, 0, 0, 0, 0,
      0, 0, 0, 0, 0x11, 0x11, 0, 0, 0x22, 0x22, 0, 0, 0x33, 0x33, 0, 0,
      0, 0, 0, 0, 0, 0, 0, 0, 0, 0, 0, 0, 0, 0, 0, 0,
      0x48, 0xFE, 0, 0, 0, 0, 0, 0]])

theorem told_scrambledTarget : (Generation.indexed 1 0 10240 0x5A).Told scrambledTarget :=
  ⟨rfl, rfl, rfl, rfl, fun _ => rfl⟩

/-- The header at 0x1030 has the index 2, and a mask of which only the second bit counts. -/
theorem indexedHeader_scrambledTarget :
    IndexedHeader scrambledTarget 1 0 0x1030 0x48 2 0x2222 2 0x10 where
  stored := ⟨by decide, rfl⟩
  type := ⟨0x1010, rfl, by decide, rfl⟩
  mask := ⟨0xFE, ⟨by decide, rfl⟩, rfl⟩
  distance _ := ⟨0x1008, rfl, by decide, rfl⟩

/-- The header at 0x1030 is read, as is one of the older kind; with another cookie, its index would
be another one. -/
theorem readHeader_inverts_scrambledTarget :
    (∃ manager, probe scrambledTarget = .ok manager ∧
      manager.readHeader scrambledTarget 0x1038 = .ok ⟨0x1030, 0x2222, some 0x1020⟩) ∧
    (∃ manager, probe (.ofMemory smallProfile (.run [.map 0x1000 smallBytes.toArray])) =
        .ok manager ∧
      manager.readHeader (.ofMemory smallProfile (.run [.map 0x1000 smallBytes.toArray])) 0x10C0 =
        .ok ⟨0x10B8, 0x66, some 0x10AC⟩) ∧
    probeCookie scrambledTarget (.indexed 1 0) = .ok (some 0x5A) ∧
    ∃ manager selected, probe scrambledTarget = .ok manager ∧
      manager.plainIndex 0x1030 0x48 = selected ∧ selected ≠ 3 := by
  refine ⟨?_, ?_, ?_, ?_⟩
  · exact readHeader_inverts.1 scrambledTarget 8 1 0 10240 0x5A 0x1038 0x2222 2 2 0x10 rfl
      told_scrambledTarget indexedHeader_scrambledTarget
  · have hmem := Memory.wellFormed_run [.map 0x1000 smallBytes.toArray]
    exact readHeader_inverts.2.1 _ 8 0 4 0x10C0 0x66 12 rfl ⟨rfl, rfl⟩
      ⟨Target.hasPointer_of_holds hmem (.inl rfl) (holdsPointer_of_standAt (by decide)),
        Target.hasByte_of_holds hmem smallProfile (holds_of_standAt (by decide))⟩
  · exact readHeader_inverts.2.2.1 _ _ 0x1000 4 0xF0002800 1 0 rfl (by decide) rfl
  · obtain ⟨manager, selected, hprobe, hselected, hother, -⟩ :=
      readHeader_inverts.2.2.2 scrambledTarget 8 1 0 10240 0x5A 0x5B 0x1038 3 (.inl rfl) rfl
        told_scrambledTarget (by decide) (by decide)
    exact ⟨manager, selected, hprobe, hselected, hother⟩

end KernelScope.ObjectManager
