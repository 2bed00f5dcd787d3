import KernelScope.ObjectManager
import KernelScope.Proofs.ObjectTree.Simulation
import KernelScope.Proofs.Target

/-!
# Memory images of object spaces

How the memory of a kernel encodes a space of objects, for each generation of object headers: what
has to lie where, and what the profile has to know.  Every question to the object manager over such
an image is answered by the space.
-/

set_option autoImplicit false

namespace KernelScope

namespace ObjectManager

/-! ## Generations -/

/-- How the object headers of a kernel are laid out. -/
inductive Generation where
  /-- the distance to the name, and a pointer to the type -/
  | direct (nameInfoOffset type : UInt64)
  /-- a mask of the parts before the header, and an index into the table of types; the builds from
  `firstCookieBuild` on scramble the index with the cookie -/
  | indexed (infoMask typeIndex : UInt64) (build : UInt16) (cookie : UInt8)

/-- The offsets of the other fields that objects are read by. -/
structure Offsets where
  body : UInt64
  name : UInt64
  hashBuckets : UInt64
  chainLink : UInt64
  object : UInt64

namespace Generation

/-- The fields that headers are known by. -/
def layout : Generation → HeaderLayout
  | .direct nameInfoOffset type => .direct nameInfoOffset type
  | .indexed infoMask typeIndex _ _ => .indexed infoMask typeIndex

/-- The byte that type indexes are scrambled with, if they are. -/
def cookie? : Generation → Option UInt8
  | .direct _ _ => none
  | .indexed _ _ build cookie => if firstCookieBuild ≤ build then some cookie else none

/-- The object manager of a kernel of the generation. -/
def manager (generation : Generation) (offsets : Offsets) : ObjectManager :=
  ⟨generation.layout, offsets.body, generation.cookie?⟩

/-- The byte that is stored for a type index in the header at an address. -/
def storedIndex (generation : Generation) (header : Address) (index : UInt8) : UInt8 :=
  match generation.cookie? with
  | some cookie => index ^^^ ((header >>> 8).toUInt8 ^^^ cookie)
  | none => index

/-- Where the name is kept that stands `distance` bytes before a header; no distance, no name. -/
def nameInfoAt (header : Address) (distance : UInt8) : Option Address :=
  if distance = 0 then none else some (header - distance.toUInt64)

variable (profile : Profile) (memory : Memory)

/-- The profile and the memory say that the kernel is of the generation. -/
def Known : Generation → Prop
  | .direct nameInfoOffset type =>
    profile.HasField headerType "NameInfoOffset" nameInfoOffset ∧
      profile.HasField headerType "Type" type
  | .indexed infoMask typeIndex build cookie =>
    profile.LacksField headerType "NameInfoOffset" ∧
      profile.HasField headerType "InfoMask" infoMask ∧
      profile.HasField headerType "TypeIndex" typeIndex ∧
      (∃ address, profile.HasSymbol "nt!NtBuildNumber" address ∧
        memory.HoldsU16 address.toNat build) ∧
      (firstCookieBuild ≤ build →
        ∃ address, profile.HasSymbol "nt!ObHeaderCookie" address ∧
          memory.HoldsByte address.toNat cookie)

/-- The header at an address has the type. -/
def HoldsType (header type : Address) : Generation → Prop
  | .direct _ offset =>
    memory.HoldsPointer profile.pointerSize (header.toNat + offset.toNat) type
  | .indexed infoMask typeIndex build cookie =>
    ∃ table index, profile.HasSymbol "nt!ObTypeIndexTable" table ∧
      memory.HoldsByte (header.toNat + typeIndex.toNat)
        ((indexed infoMask typeIndex build cookie).storedIndex header index) ∧
      memory.HoldsPointer profile.pointerSize
        (table.toNat + profile.pointerSize.toNat * index.toNat) type

/-- The header at an address says where the name is kept. -/
def HoldsNameInfo (header : Address) (nameInfo : Option Address) : Generation → Prop
  | .direct offset _ =>
    ∃ distance, memory.HoldsByte (header.toNat + offset.toNat) distance ∧
      nameInfo = nameInfoAt header distance
  | .indexed infoMask _ _ _ =>
    ∃ mask, memory.HoldsByte (header.toNat + infoMask.toNat) mask ∧
      (mask &&& 2 = 0 ∧ nameInfo = none ∨
        mask &&& 2 ≠ 0 ∧ ∃ table distance,
          profile.HasSymbol "nt!ObpInfoMaskToOffset" table ∧
          memory.HoldsByte (table.toNat + (mask &&& 3).toNat) distance ∧
          nameInfo = nameInfoAt header distance)

end Generation

/-! ## Images -/

variable {ι : Type}

/-- The memory, read with the profile, lays out the space at the given addresses.  Everything that
is stored lies inside one region. -/
structure LaysOut (profile : Profile) (memory : Memory) (generation : Generation)
    (offsets : Offsets) (space : ObjectSpace ι) (place : Placement ι) : Prop where
  width : profile.pointerSize = 4 ∨ profile.pointerSize = 8
  bodyField : profile.HasField headerType "Body" offsets.body
  nameField : profile.HasField nameInfoType "Name" offsets.name
  bucketsField : profile.HasField ObjectManager.directoryType "HashBuckets" offsets.hashBuckets
  chainField : profile.HasField linkType "ChainLink" offsets.chainLink
  objectField : profile.HasField linkType "Object" offsets.object
  known : generation.Known profile memory
  root : ∃ address, profile.HasSymbol "nt!ObpRootDirectoryObject" address ∧
    memory.HoldsPointer profile.pointerSize address.toNat (place.body space.root)
  directoryType : ∃ address, profile.HasSymbol "nt!ObpDirectoryObjectType" address ∧
    memory.HoldsPointer profile.pointerSize address.toNat place.directoryType
  /-- directories and no other objects have the type of directories -/
  types : ∀ object, (place.header object).type = place.directoryType ↔
    space.isDirectory object = true
  /-- a header stands in front of its object -/
  header : ∀ object, (place.header object).address = place.body object - offsets.body
  type : ∀ object, generation.HoldsType profile memory (place.header object).address
    (place.header object).type
  nameInfo : ∀ object, generation.HoldsNameInfo profile memory (place.header object).address
    (place.header object).nameInfo
  unnamed : ∀ object, space.name object = none → (place.header object).nameInfo = none
  named : ∀ object text, space.name object = some text →
    ∃ nameInfo, (place.header object).nameInfo = some nameInfo ∧
      memory.HoldsText profile.pointerSize (nameInfo.toNat + offsets.name.toNat) text
  /-- a link is at an address other than zero -/
  link_ne_zero : ∀ {directory : ι} {all : Buckets ι}, space.buckets directory = some all →
    ∀ (bucket : Fin bucketCount) (position : Nat), position < (all bucket).length →
      place.link directory bucket position ≠ 0
  /-- a bucket holds the address of its first link, or zero -/
  head : ∀ {directory : ι} {all : Buckets ι}, space.buckets directory = some all →
    ∀ bucket : Fin bucketCount,
      memory.HoldsPointer profile.pointerSize
        ((place.body directory).toNat + offsets.hashBuckets.toNat +
          profile.pointerSize.toNat * bucket)
        ((place.link? directory bucket (all bucket).length 0).getD 0)
  /-- a link holds the address of the next one, or zero, and its object -/
  link : ∀ {directory : ι} {all : Buckets ι}, space.buckets directory = some all →
    ∀ (bucket : Fin bucketCount) (position : Nat) (object : ι),
      (all bucket)[position]? = some object →
        memory.HoldsPointer profile.pointerSize
          ((place.link directory bucket position).toNat + offsets.chainLink.toNat)
          ((place.link? directory bucket (all bucket).length (position + 1)).getD 0) ∧
        memory.HoldsPointer profile.pointerSize
          ((place.link directory bucket position).toNat + offsets.object.toNat)
          (place.body object)

/-! ## A small image -/

/-- A root with one object in its first bucket. -/
def smallSpace : ObjectSpace Bool where
  root := false
  name object := if object then some "a" else none
  buckets object :=
    if object then none else some fun bucket => if bucket.val = 0 then [true] else []
  rootBuckets bucket := if bucket.val = 0 then [true] else []
  buckets_root := rfl

/-- Where the two objects and the link between them are kept. -/
def smallPlacement : Placement Bool where
  body object := if object then 0x10C0 else 0x1010
  header object := if object then ⟨0x10B8, 0x66, some 0x10AC⟩ else ⟨0x1008, 0x77, none⟩
  link _ _ _ := 0x10A4
  directoryType := 0x77

/-- What is known of a kernel with headers of the first kind and short pointers. -/
def smallProfile : Profile where
  pointerSize := 4
  kernel := true
  symbols := .ofList [("nt!ObpRootDirectoryObject", 0x1000), ("nt!ObpDirectoryObjectType", 0x1004)]
  types := .ofList [
    (headerType, ⟨8, .ofList [("Body", 8), ("NameInfoOffset", 0), ("Type", 4)]⟩),
    (nameInfoType, ⟨8, .ofList [("Name", 0)]⟩),
    (directoryType, ⟨148, .ofList [("HashBuckets", 0)]⟩),
    (linkType, ⟨8, .ofList [("ChainLink", 0), ("Object", 4)]⟩)]

/-- The bytes from 0x1000 on: the two symbols, the root behind its header, the link, the name of the
object, and the header of the object. -/
def smallBytes : List UInt8 :=
  [0x10, 0x10, 0, 0, 0x77, 0, 0, 0] ++ [0, 0, 0, 0, 0x77, 0, 0, 0] ++
    [0xA4, 0x10, 0, 0] ++ List.replicate 144 0 ++ [0, 0, 0, 0, 0xC0, 0x10, 0, 0] ++
    [2, 0, 2, 0, 0xB4, 0x10, 0, 0, 0x61, 0, 0, 0] ++ [12, 0, 0, 0, 0x66, 0, 0, 0]

/-- The bytes stand in the small image from the address on. -/
def StandAt (address : Nat) (bytes : List UInt8) : Prop :=
  0x1000 ≤ address ∧ address + bytes.length ≤ 0x10C0 ∧
    (smallBytes.drop (address - 0x1000)).take bytes.length = bytes

instance (address : Nat) (bytes : List UInt8) : Decidable (StandAt address bytes) :=
  inferInstanceAs (Decidable (_ ∧ _ ∧ _))

theorem holds_of_standAt {address : Nat} {bytes : List UInt8} (h : StandAt address bytes) :
    (Memory.run [.map 0x1000 smallBytes.toArray]).Holds address bytes := by
  obtain ⟨hlow, hhigh, hbytes⟩ := h
  have hbase : (0x1000 : Address).toNat = 0x1000 := by decide
  have hlength : smallBytes.length = 0xC0 := by decide +kernel
  refine Memory.holds_run_map ?_ ?_ ?_ ?_
  · rw [hbase, hlength]
    decide
  · rwa [hbase]
  · rw [hbase, hlength]
    exact hhigh
  · rwa [hbase]

theorem holdsPointer_of_standAt {address : Nat} {pointer : Address}
    (h : pointer.toNat < 256 ^ 4 ∧ StandAt address (Bytes.ofNat 4 pointer.toNat)) :
    (Memory.run [.map 0x1000 smallBytes.toArray]).HoldsPointer smallProfile.pointerSize address
      pointer :=
  ⟨h.1, holds_of_standAt h.2⟩

/-- The buckets of the root stand behind its header. -/
theorem standAt_buckets : ∀ bucket : Fin bucketCount,
    ((smallPlacement.link? false bucket (smallSpace.rootBuckets bucket).length 0).getD 0).toNat <
        256 ^ 4 ∧
      StandAt (0x1010 + 0 + 4 * bucket) (Bytes.ofNat 4
        ((smallPlacement.link? false bucket
          (smallSpace.rootBuckets bucket).length 0).getD 0).toNat) := by
  decide +kernel

theorem rootBuckets_of_buckets {directory : Bool} {all : Buckets Bool}
    (h : smallSpace.buckets directory = some all) :
    directory = false ∧ all = smallSpace.rootBuckets := by
  cases directory with
  | true => cases h
  | false =>
    cases h
    exact ⟨rfl, rfl⟩

theorem laysOut_small :
    LaysOut smallProfile (.run [.map 0x1000 smallBytes.toArray]) (.direct 0 4) ⟨8, 0, 0, 0, 4⟩
      smallSpace smallPlacement where
  width := .inl rfl
  bodyField := ⟨_, rfl, rfl⟩
  nameField := ⟨_, rfl, rfl⟩
  bucketsField := ⟨_, rfl, rfl⟩
  chainField := ⟨_, rfl, rfl⟩
  objectField := ⟨_, rfl, rfl⟩
  known := ⟨⟨_, rfl, rfl⟩, ⟨_, rfl, rfl⟩⟩
  root := ⟨0x1000, rfl, holdsPointer_of_standAt (by decide)⟩
  directoryType := ⟨0x1004, rfl, holdsPointer_of_standAt (by decide)⟩
  types := by decide
  header := by decide
  type object := by cases object <;> exact holdsPointer_of_standAt (by decide)
  nameInfo object := by
    cases object with
    | false => exact ⟨0, holds_of_standAt (by decide), rfl⟩
    | true => exact ⟨12, holds_of_standAt (by decide), rfl⟩
  unnamed := by decide
  named object text htext := by
    cases object with
    | false => cases htext
    | true =>
      cases htext
      refine ⟨0x10AC, rfl, by decide, holds_of_standAt (by decide), 0x10B4,
        holdsPointer_of_standAt (by decide), fun _ => ⟨by decide, ?_⟩⟩
      exact holds_of_standAt (by decide)
  link_ne_zero := by
    intro directory all _ bucket position _
    change (0x10A4 : Address) ≠ 0
    decide
  head := by
    intro directory all hall bucket
    obtain ⟨rfl, rfl⟩ := rootBuckets_of_buckets hall
    exact holdsPointer_of_standAt (standAt_buckets bucket)
  link := by
    intro directory all hall bucket position object hobject
    obtain ⟨rfl, rfl⟩ := rootBuckets_of_buckets hall
    by_cases hbucket : bucket.val = 0
    · obtain rfl : bucket = ⟨0, by decide⟩ := Fin.ext hbucket
      cases position with
      | succ position => cases hobject
      | zero =>
        cases hobject
        exact ⟨holdsPointer_of_standAt (by decide), holdsPointer_of_standAt (by decide)⟩
    · simp [smallSpace, hbucket] at hobject

end ObjectManager

end KernelScope
