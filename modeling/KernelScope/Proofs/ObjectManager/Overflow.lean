import KernelScope.DriverObject
import KernelScope.Proofs.ObjectTree.Coupling
import KernelScope.Proofs.Overflow

/-!
# Sums that leave the address space

Places of the object tree are found by adding offsets to what memory holds.  Any pointer may be held
there, and a profile may give any offset, so such a sum need not be an address.  `Forms` lists the
sums that are formed about the places a walk can come to (`Reached`).  Nothing else fails for
arithmetic: no product does, and a question to the tree only if one of its sums wraps (`Escapes`).
-/

set_option autoImplicit false

namespace KernelScope

open ObjectTree

/-! ## Places that are reached -/

namespace ObjectTree

/-- A place in a tree. -/
inductive Place where
  | directory (address : Address)
  | link (address : Address)
  | object (address : Address)

/-- The places that a walk over a tree can come to: the root, the links in the buckets of
directories, their objects, and among these the directories. -/
inductive Reached {ε : Type} (tree : ObjectTree (Except ε)) : Place → Prop where
  | root {root : Address} (hroot : tree.root = .ok root) : Reached tree (.directory root)
  | rootObject {root : Address} (hroot : tree.root = .ok root) : Reached tree (.object root)
  | head {directory first : Address} {bucket : Nat}
      (hdirectory : Reached tree (.directory directory))
      (hhead : tree.bucketHead directory bucket = .ok (some first)) : Reached tree (.link first)
  | next {address next : Address} {link : Link} (haddress : Reached tree (.link address))
      (hlink : tree.link address = .ok link) (hnext : link.next = some next) :
      Reached tree (.link next)
  | object {address : Address} {link : Link} (haddress : Reached tree (.link address))
      (hlink : tree.link address = .ok link) : Reached tree (.object link.object)
  | directory {object : Address} (hobject : Reached tree (.object object))
      (hdirectory : tree.isDirectory object = .ok true) : Reached tree (.directory object)

/-- The places that are reached in a tree, with the headers that it has for its objects. -/
def reachedPlaces {ε : Type} (tree : ObjectTree (Except ε)) : Places where
  Directory address := Reached tree (.directory address)
  Link address := Reached tree (.link address)
  Object address := Reached tree (.object address)
  Heads object header := Reached tree (.object object) ∧ tree.header object = .ok header

end ObjectTree

/-! ## Sums that are formed -/

/-- The offsets of the fields that a header is read by. -/
def HeaderLayout.offsets : HeaderLayout → List UInt64
  | .direct nameInfoOffset type => [nameInfoOffset, type]
  | .indexed infoMask typeIndex => [infoMask, typeIndex]

/-- The offset of the field that tells of the type, which is read first. -/
def HeaderLayout.typeOffset : HeaderLayout → UInt64
  | .direct _ type => type
  | .indexed _ typeIndex => typeIndex

namespace ObjectManager

variable (manager : ObjectManager) (target : Target)

/-- The header in front of an object. -/
def headerAddress (object : Address) : Address := object - manager.bodyOffset

/-- The sums that are formed about the places that are reached. -/
inductive Forms : (base offset : UInt64) → Prop where
  /-- a field of a header -/
  | header {object : Address} {offset : UInt64}
      (hobject : Reached (manager.tree target) (.object object))
      (hoffset : offset ∈ manager.layout.offsets) : Forms (manager.headerAddress object) offset
  /-- the type of a header, in the table of types -/
  | type {object table : Address} {infoMask typeIndex : UInt64} {stored : UInt8}
      (hobject : Reached (manager.tree target) (.object object))
      (hlayout : manager.layout = .indexed infoMask typeIndex)
      (hstored : target.readU8 (manager.headerAddress object + typeIndex) = .ok stored)
      (htable : target.symbol "nt!ObTypeIndexTable" = .ok table) :
      Forms table (target.pointerSize *
        (manager.plainIndex (manager.headerAddress object) stored).toUInt64)
  /-- the distance that the mask of a header stands for, in the table of distances -/
  | mask {object table : Address} {infoMask typeIndex : UInt64} {mask : UInt8}
      (hobject : Reached (manager.tree target) (.object object))
      (hlayout : manager.layout = .indexed infoMask typeIndex)
      (hmask : target.readU8 (manager.headerAddress object + infoMask) = .ok mask)
      (htable : target.symbol "nt!ObpInfoMaskToOffset" = .ok table) :
      Forms table (mask &&& 3).toUInt64
  /-- the buckets of a directory -/
  | buckets {directory : Address} {buckets : UInt64}
      (hdirectory : Reached (manager.tree target) (.directory directory))
      (hbuckets : target.fieldOffset directoryType "HashBuckets" = .ok buckets) :
      Forms directory buckets
  /-- one bucket of a directory -/
  | bucket {directory : Address} {buckets : UInt64} {bucket : Nat}
      (hdirectory : Reached (manager.tree target) (.directory directory))
      (hbuckets : target.fieldOffset directoryType "HashBuckets" = .ok buckets)
      (hbucket : bucket < bucketCount) :
      Forms (directory + buckets) (UInt64.ofNat bucket * target.pointerSize)
  /-- the next link of a link -/
  | chain {link : Address} {chain : UInt64} (hlink : Reached (manager.tree target) (.link link))
      (hchain : target.fieldOffset linkType "ChainLink" = .ok chain) : Forms link chain
  /-- the object of a link -/
  | linked {link : Address} {object : UInt64} (hlink : Reached (manager.tree target) (.link link))
      (hobject : target.fieldOffset linkType "Object" = .ok object) : Forms link object
  /-- the name of an object -/
  | name {object nameInfo : Address} {header : ObjectHeader} {name : UInt64}
      (hobject : Reached (manager.tree target) (.object object))
      (hheader : (manager.tree target).header object = .ok header)
      (hnameInfo : header.nameInfo = some nameInfo)
      (hname : target.fieldOffset nameInfoType "Name" = .ok name) : Forms nameInfo name
  /-- the address of the units of a name -/
  | units {object nameInfo : Address} {header : ObjectHeader} {name : UInt64}
      (hobject : Reached (manager.tree target) (.object object))
      (hheader : (manager.tree target).header object = .ok header)
      (hnameInfo : header.nameInfo = some nameInfo)
      (hname : target.fieldOffset nameInfoType "Name" = .ok name) :
      Forms (nameInfo + name) target.pointerSize
  /-- the routines of a driver -/
  | routines {object : Address} {table : UInt64}
      (hobject : Reached (manager.tree target) (.object object))
      (htable : target.fieldOffset DriverObject.typeName "MajorFunction" = .ok table) :
      Forms object table

/-- One of the sums that are formed leaves the address space. -/
def Escapes : Prop :=
  ∃ base offset, Forms manager target base offset ∧ wordLimit ≤ base.toNat + offset.toNat

variable {manager target}

theorem Forms.escapes {base offset : UInt64} (h : Forms manager target base offset)
    (hwraps : wordLimit ≤ base.toNat + offset.toNat) : manager.Escapes target :=
  ⟨base, offset, h, hwraps⟩

/-! ## Probing -/

section Probing

variable {target : Target} (hregular : target.Regular) {Cause : Prop}

include hregular

theorem faultsBy_buildNumber : FaultsBy TargetError.overflow? Cause (buildNumber target) := by
  refine (target.faultsBy_symbol _).bind fun address _ => ?_
  exact (hregular.readU16 address).target

omit hregular in
theorem faultsBy_probeLayout : FaultsBy TargetError.overflow? Cause (probeLayout target) := by
  refine (target.faultsBy_fieldOffset? _ _).bind fun nameInfoOffset? _ => ?_
  cases nameInfoOffset? with
  | some nameInfoOffset =>
    exact (target.faultsBy_fieldOffset _ _).bind fun type _ => faultsBy_ok _
  | none =>
    refine (target.faultsBy_fieldOffset _ _).bind fun infoMask _ => ?_
    exact (target.faultsBy_fieldOffset _ _).bind fun typeIndex _ => faultsBy_ok _

theorem faultsBy_probeCookie (layout : HeaderLayout) :
    FaultsBy TargetError.overflow? Cause (probeCookie target layout) := by
  cases layout with
  | direct nameInfoOffset type => exact faultsBy_ok _
  | indexed infoMask typeIndex =>
    refine (faultsBy_buildNumber hregular).bind fun build _ => ?_
    split
    · refine (target.faultsBy_symbol _).bind fun address _ => ?_
      exact (hregular.readU8 address).target.bind fun cookie _ => faultsBy_ok _
    · exact faultsBy_ok _

/-- Finding out the layout forms no sum at all. -/
theorem faultsBy_probe : FaultsBy TargetError.overflow? Cause (probe target) := by
  refine (target.faultsBy_fieldOffset _ _).bind fun bodyOffset _ => ?_
  refine faultsBy_probeLayout.bind fun layout _ => ?_
  exact (faultsBy_probeCookie hregular layout).bind fun cookie _ => faultsBy_ok _

end Probing

/-! ## Questions to a target -/

section Questions

variable (hregular : target.Regular)

include hregular

theorem byte_mul_pointerSize_lt (byte : UInt8) :
    target.pointerSize.toNat * byte.toUInt64.toNat < wordLimit := by
  have hbyte : byte.toNat < 256 := byte.toNat_lt
  have hproduct : target.pointerSize.toNat * byte.toNat ≤ 8 * 255 :=
    Nat.mul_le_mul hregular.width_le (Nat.le_of_lt_succ hbyte)
  rw [UInt8.toNat_toUInt64]
  exact Nat.lt_of_le_of_lt hproduct (by decide)

theorem bucket_mul_pointerSize_lt {bucket : Nat} (hbucket : bucket < bucketCount) :
    (UInt64.ofNat bucket).toNat * target.pointerSize.toNat < wordLimit := by
  have hsmall : bucket < 37 := hbucket
  have hproduct : bucket * target.pointerSize.toNat ≤ 37 * 8 :=
    Nat.mul_le_mul (Nat.le_of_lt hsmall) hregular.width_le
  rw [UInt64.toNat_ofNat_of_lt' (Nat.lt_trans hsmall (by decide))]
  exact Nat.lt_of_le_of_lt hproduct (by decide)

variable {object : Address} (hobject : Reached (manager.tree target) (.object object))

include hobject

theorem faultsBy_objectType :
    FaultsBy TargetError.overflow? (manager.Escapes target)
      (manager.objectType target (manager.headerAddress object)) := by
  unfold objectType
  split
  next nameInfoOffset type hlayout =>
    have hforms : Forms manager target (manager.headerAddress object) type :=
      .header hobject (by simp [hlayout, HeaderLayout.offsets])
    refine (faultsBy_addWords hforms.escapes).memory.target.bind fun address _ => ?_
    exact (hregular.readPointer address).target
  next infoMask typeIndex hlayout =>
    have hforms : Forms manager target (manager.headerAddress object) typeIndex :=
      .header hobject (by simp [hlayout, HeaderLayout.offsets])
    refine (faultsBy_addWords hforms.escapes).memory.target.bind fun address haddress => ?_
    obtain rfl := add_of_addWords (ok_of_mapError (ok_of_mapError haddress))
    refine (hregular.readU8 _).target.bind fun stored hstored => ?_
    refine (target.faultsBy_symbol _).bind fun table htable => ?_
    have hproduct := byte_mul_pointerSize_lt hregular
      (manager.plainIndex (manager.headerAddress object) stored)
    refine (faultsBy_multiplyWords hproduct).memory.target.bind fun distance hdistance => ?_
    obtain rfl := mul_of_multiplyWords (ok_of_mapError (ok_of_mapError hdistance))
    have hslot := Forms.type hobject hlayout (ok_of_mapError hstored) htable
    refine (faultsBy_addWords hslot.escapes).memory.target.bind fun slot _ => ?_
    exact (hregular.readPointer slot).target

theorem faultsBy_nameDistance :
    FaultsBy TargetError.overflow? (manager.Escapes target)
      (manager.nameDistance target (manager.headerAddress object)) := by
  unfold nameDistance
  split
  next nameInfoOffset type hlayout =>
    have hforms : Forms manager target (manager.headerAddress object) nameInfoOffset :=
      .header hobject (by simp [hlayout, HeaderLayout.offsets])
    refine (faultsBy_addWords hforms.escapes).memory.target.bind fun address _ => ?_
    exact (hregular.readU8 address).target
  next infoMask typeIndex hlayout =>
    have hforms : Forms manager target (manager.headerAddress object) infoMask :=
      .header hobject (by simp [hlayout, HeaderLayout.offsets])
    refine (faultsBy_addWords hforms.escapes).memory.target.bind fun address haddress => ?_
    obtain rfl := add_of_addWords (ok_of_mapError (ok_of_mapError haddress))
    refine (hregular.readU8 _).target.bind fun mask hmask => ?_
    split
    · exact faultsBy_ok _
    · refine (target.faultsBy_symbol _).bind fun table htable => ?_
      have hslot := Forms.mask hobject hlayout (ok_of_mapError hmask) htable
      refine (faultsBy_addWords hslot.escapes).memory.target.bind fun slot _ => ?_
      exact (hregular.readU8 slot).target

theorem faultsBy_readHeader :
    FaultsBy TargetError.overflow? (manager.Escapes target)
      (manager.readHeader target object) := by
  refine (faultsBy_objectType hregular hobject).bind fun type _ => ?_
  refine (faultsBy_nameDistance hregular hobject).bind fun distance _ => ?_
  exact faultsBy_ok _

theorem faultsBy_readName {header : ObjectHeader}
    (hheader : (manager.tree target).header object = .ok header) :
    FaultsBy TargetError.overflow? (manager.Escapes target) (readName target header) := by
  unfold readName
  split
  · exact faultsBy_ok _
  next nameInfo hnameInfo =>
    refine (target.faultsBy_fieldOffset _ _).bind fun name hname => ?_
    have hforms := Forms.name hobject hheader hnameInfo hname
    refine (faultsBy_addWords hforms.escapes).memory.target.bind fun text htext => ?_
    obtain rfl := add_of_addWords (ok_of_mapError (ok_of_mapError htext))
    have hunits := Forms.units hobject hheader hnameInfo hname
    exact (hregular.readUnicodeString hunits.escapes).target

omit hobject

theorem faultsBy_readPointerAt {Cause : Prop} (symbol : String) :
    FaultsBy TargetError.overflow? Cause
      (do target.readPointer (← target.symbol symbol) : Except TargetError Address) := by
  refine (target.faultsBy_symbol symbol).bind fun address _ => ?_
  exact (hregular.readPointer address).target

theorem faultsBy_readBucketHead {directory : Address}
    (hdirectory : Reached (manager.tree target) (.directory directory)) (bucket : Nat) :
    FaultsBy ObjectError.overflow? (manager.Escapes target)
      (readBucketHead target directory bucket) := by
  unfold readBucketHead
  split
  · exact faultsBy_error rfl
  next hbucket =>
    have hbucket : bucket < bucketCount := Nat.lt_of_not_le hbucket
    refine (target.faultsBy_fieldOffset _ _).object.bind fun buckets hbuckets => ?_
    have hbuckets := ok_of_mapError hbuckets
    have hforms := Forms.buckets hdirectory hbuckets
    refine (faultsBy_addWords hforms.escapes).memory.target.object.bind fun first hfirst => ?_
    obtain rfl := add_of_addWords (ok_of_mapError (ok_of_mapError (ok_of_mapError hfirst)))
    have hproduct := bucket_mul_pointerSize_lt hregular hbucket
    refine (faultsBy_multiplyWords hproduct).memory.target.object.bind fun distance hdistance => ?_
    obtain rfl := mul_of_multiplyWords (ok_of_mapError (ok_of_mapError (ok_of_mapError hdistance)))
    have hslot := Forms.bucket hdirectory hbuckets hbucket
    refine (faultsBy_addWords hslot.escapes).memory.target.object.bind fun slot _ => ?_
    exact (hregular.readPointer slot).target.object.bind fun head _ => faultsBy_ok _

theorem faultsBy_readLink {link : Address}
    (hlink : Reached (manager.tree target) (.link link)) :
    FaultsBy TargetError.overflow? (manager.Escapes target) (readLink target link) := by
  refine (target.faultsBy_fieldOffset _ _).bind fun chain hchain => ?_
  refine (target.faultsBy_fieldOffset _ _).bind fun object hobject => ?_
  have hnext := Forms.chain hlink hchain
  refine (faultsBy_addWords hnext.escapes).memory.target.bind fun slot _ => ?_
  refine (hregular.readPointer slot).target.bind fun next _ => ?_
  have hlinked := Forms.linked hlink hobject
  refine (faultsBy_addWords hlinked.escapes).memory.target.bind fun slot _ => ?_
  exact (hregular.readPointer slot).target.bind fun object _ => faultsBy_ok _

end Questions

/-! ## Walks -/

/-- A computation goes with itself where its faults have a cause. -/
def faultCoupling (Cause : Prop) : Coupling (Except ObjectError) (Except ObjectError) where
  Pairs Meets x _ := (∀ a, x = .ok a → Meets a) ∧ FaultsBy ObjectError.overflow? Cause x
  pairs_pure := by
    intro _ _ a ha
    refine ⟨fun other hother => ?_, faultsBy_ok a⟩
    cases hother
    exact ha
  pairs_bind := by
    intro _ _ _ _ x _ next _ hx hnext
    refine ⟨fun b hb => ?_, hx.2.bind fun a ha => (hnext a (hx.1 a ha)).2⟩
    obtain ⟨a, ha, hb⟩ := bind_eq_ok hb
    exact (hnext a (hx.1 a ha)).1 b hb

variable (manager) in
/-- About the places that are reached, a tree fails for arithmetic only where a sum escapes. -/
theorem couples_faultCoupling (hregular : target.Regular) :
    (manager.tree target).Couples (faultCoupling (manager.Escapes target)) (manager.tree target)
      (reachedPlaces (manager.tree target)) where
  root := ⟨fun _ => .root, (faultsBy_readPointerAt hregular _).object⟩
  bucketHead hdirectory bucket := by
    refine ⟨fun head hhead address haddress => ?_, ?_⟩
    · obtain rfl : head = some address := haddress
      exact .head hdirectory hhead
    · exact faultsBy_readBucketHead hregular hdirectory bucket
  link hlink :=
    ⟨fun _ hread => ⟨.object hlink hread, fun _ hnext => .next hlink hread hnext⟩,
      (faultsBy_readLink hregular hlink).object⟩
  header hobject :=
    ⟨fun _ hheader => ⟨hobject, hheader⟩, (faultsBy_readHeader hregular hobject).object⟩
  isDirectoryType := by
    intro object header hheads
    refine ⟨fun flag hflag htrue => ?_, ?_⟩
    · subst htrue
      refine .directory hheads.1 ?_
      rw [isDirectory, hheads.2]
      exact hflag
    · exact (faultsBy_readPointerAt hregular _).object.bind fun type _ => faultsBy_ok _
  name hheads := ⟨fun _ _ => trivial, (faultsBy_readName hregular hheads.1 hheads.2).object⟩

/-! ## Headers that wrap -/

variable (target) in
theorem objectType_of_wraps {header : Address}
    (hwraps : wordLimit ≤ header.toNat + manager.layout.typeOffset.toNat) :
    manager.objectType target header = .error (.memory (.overflow .addition)) := by
  unfold objectType
  cases hlayout : manager.layout with
  | direct nameInfoOffset type =>
    rw [hlayout] at hwraps
    have hsum : addWords header type = .error .addition := addWords_eq_error hwraps
    simp only [hsum]
    rfl
  | indexed infoMask typeIndex =>
    rw [hlayout] at hwraps
    have hsum : addWords header typeIndex = .error .addition := addWords_eq_error hwraps
    simp only [hsum]
    rfl

/-- An object whose header lies so high that its first field wraps cannot be told from a
directory. -/
theorem isDirectory_of_wraps {object : Address}
    (hwraps : wordLimit ≤
      (manager.headerAddress object).toNat + manager.layout.typeOffset.toNat) :
    (manager.tree target).isDirectory object =
      .error (.target (.memory (.overflow .addition))) := by
  have hheader : manager.readHeader target object = .error (.memory (.overflow .addition)) := by
    have htype := objectType_of_wraps target hwraps
    rw [headerAddress] at htype
    simp only [readHeader, htype]
    rfl
  simp only [isDirectory, tree, treeIn, hheader]
  rfl

end ObjectManager

end KernelScope
