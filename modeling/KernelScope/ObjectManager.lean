import KernelScope.ObjectTree
import KernelScope.Target

/-!
# The object manager of a kernel

How a Windows kernel lays out its object tree in memory.  In front of each object stands a header.
Old kernels keep in it the distance to the name and a pointer to the type; newer ones keep a mask of
the parts in front of the header and an index into a table of types; the newest scramble that index
with a cookie and with a byte of the header's own address.

`ObjectManager.probe` finds out which layout a target has.  `ObjectManager.tree` answers questions
from memory as it is.  `ObjectManager.cachedTree` reads the type of directories only once and keeps
it from then on, even when memory changes.
-/

set_option autoImplicit false

namespace KernelScope

/-! ## Errors -/

/-- Why a question about objects has no answer. -/
inductive ObjectError where
  | target (error : TargetError)
  /-- a directory has no bucket of this number -/
  | bucketOutOfRange (bucket : Nat)
  deriving DecidableEq, Repr

/-- The text of the error. -/
def ObjectError.message : ObjectError → String
  | .target error => error.message
  | .bucketOutOfRange bucket => "Bucket index " ++ toString bucket ++ " out of range"

/-- The fault of arithmetic behind the error, if there is one. -/
def ObjectError.overflow? : ObjectError → Option Overflow
  | .target error => error.overflow?
  | .bucketOutOfRange _ => none

instance : MonadLift (Except TargetError) (Except ObjectError) where
  monadLift result := result.mapError .target

/-! ## Layout -/

/-- The layout of object headers, as the offsets of the fields it is known by. -/
inductive HeaderLayout where
  /-- the distance to the name, and a pointer to the type -/
  | direct (nameInfoOffset type : UInt64)
  /-- a mask of the parts before the header, and an index into the table of types -/
  | indexed (infoMask typeIndex : UInt64)
  deriving DecidableEq, Repr

/-- What has to be known to read the objects of a target. -/
structure ObjectManager where
  layout : HeaderLayout
  /-- the offset of the object behind its header -/
  bodyOffset : UInt64
  /-- the byte that type indexes are scrambled with, if they are -/
  cookie : Option UInt8
  deriving DecidableEq, Repr

namespace ObjectManager

/-- The type of the header in front of an object. -/
def headerType : String := "nt!_OBJECT_HEADER"

/-- The type of the record that holds the name of an object. -/
def nameInfoType : String := "nt!_OBJECT_HEADER_NAME_INFO"

/-- The type of a directory. -/
def directoryType : String := "nt!_OBJECT_DIRECTORY"

/-- The type of a link in a directory. -/
def linkType : String := "nt!_OBJECT_DIRECTORY_ENTRY"

/-- The first build that scrambles type indexes. -/
def firstCookieBuild : UInt16 := 10074

/-! ## Probing -/

/-- The build number of the kernel, of which the low sixteen bits count. -/
def buildNumber (target : Target) : Except TargetError UInt16 := do
  target.readU16 (← target.symbol "nt!NtBuildNumber")

/-- The layout of the target's object headers. -/
def probeLayout (target : Target) : Except TargetError HeaderLayout := do
  match ← target.fieldOffset? headerType "NameInfoOffset" with
  | some nameInfoOffset => return .direct nameInfoOffset (← target.fieldOffset headerType "Type")
  | none =>
    let infoMask ← target.fieldOffset headerType "InfoMask"
    let typeIndex ← target.fieldOffset headerType "TypeIndex"
    return .indexed infoMask typeIndex

/-- The cookie that the target's kernel scrambles type indexes with, if it does. -/
def probeCookie (target : Target) : HeaderLayout → Except TargetError (Option UInt8)
  | .direct _ _ => return none
  | .indexed _ _ => do
    if firstCookieBuild ≤ (← buildNumber target) then
      return some (← target.readU8 (← target.symbol "nt!ObHeaderCookie"))
    else
      return none

/-- Finds out how the target's objects are laid out. -/
def probe (target : Target) : Except TargetError ObjectManager := do
  let bodyOffset ← target.fieldOffset headerType "Body"
  let layout ← probeLayout target
  let cookie ← probeCookie target layout
  return ⟨layout, bodyOffset, cookie⟩

/-! ## Headers -/

/-- An address, or none for a null pointer. -/
def nonNull (address : Address) : Option Address :=
  if address = 0 then none else some address

/-- The index that a header's index byte stands for. -/
def plainIndex (manager : ObjectManager) (header : Address) (stored : UInt8) : UInt8 :=
  match manager.cookie with
  | some cookie => stored ^^^ ((header >>> 8).toUInt8 ^^^ cookie)
  | none => stored

/-- The type of the object behind a header. -/
def objectType (manager : ObjectManager) (target : Target) (header : Address) :
    Except TargetError Address := do
  match manager.layout with
  | .direct _ type => target.readPointer (← addWords header type)
  | .indexed _ typeIndex =>
    let stored ← target.readU8 (← addWords header typeIndex)
    let index := manager.plainIndex header stored
    let table ← target.symbol "nt!ObTypeIndexTable"
    let distance ← multiplyWords target.pointerSize index.toUInt64
    target.readPointer (← addWords table distance)

/-- How far before a header its name is kept; zero if the object has no name. -/
def nameDistance (manager : ObjectManager) (target : Target) (header : Address) :
    Except TargetError UInt8 := do
  match manager.layout with
  | .direct nameInfoOffset _ => target.readU8 (← addWords header nameInfoOffset)
  | .indexed infoMask _ =>
    let mask ← target.readU8 (← addWords header infoMask)
    if mask &&& 2 = 0 then return 0
    let table ← target.symbol "nt!ObpInfoMaskToOffset"
    target.readU8 (← addWords table (mask &&& 3).toUInt64)

/-- The header of an object. -/
def readHeader (manager : ObjectManager) (target : Target) (object : Address) :
    Except TargetError ObjectHeader := do
  let address := object - manager.bodyOffset
  let type ← manager.objectType target address
  let distance ← manager.nameDistance target address
  return ⟨address, type, if distance = 0 then none else some (address - distance.toUInt64)⟩

/-- The name of the object with the header. -/
def readName (target : Target) (header : ObjectHeader) : Except TargetError String := do
  match header.nameInfo with
  | none => return ""
  | some nameInfo =>
    let name ← target.fieldOffset nameInfoType "Name"
    target.readUnicodeString (← addWords nameInfo name)

/-! ## Directories -/

/-- The directory that absolute paths start from. -/
def readRoot (target : Target) : Except TargetError Address := do
  target.readPointer (← target.symbol "nt!ObpRootDirectoryObject")

/-- The type of all directories. -/
def readDirectoryType (target : Target) : Except TargetError Address := do
  target.readPointer (← target.symbol "nt!ObpDirectoryObjectType")

/-- The first link in a bucket of a directory. -/
def readBucketHead (target : Target) (directory : Address) (bucket : Nat) :
    Except ObjectError (Option Address) := do
  if bucketCount ≤ bucket then throw (.bucketOutOfRange bucket)
  let buckets ← target.fieldOffset directoryType "HashBuckets"
  let first ← addWords directory buckets
  let distance ← multiplyWords (UInt64.ofNat bucket) target.pointerSize
  return nonNull (← target.readPointer (← addWords first distance))

/-- The link at an address. -/
def readLink (target : Target) (address : Address) : Except TargetError Link := do
  let chain ← target.fieldOffset linkType "ChainLink"
  let object ← target.fieldOffset linkType "Object"
  let next ← target.readPointer (← addWords address chain)
  return ⟨← target.readPointer (← addWords address object), nonNull next⟩

/-! ## Trees -/

/-- The object tree in a monad that errors can be raised in; `directoryType` yields the type of all
directories. -/
def treeIn {m : Type → Type} [Monad m] (manager : ObjectManager) (target : Target)
    (raise : {α : Type} → Except ObjectError α → m α) (directoryType : m Address) :
    ObjectTree m where
  root := raise ((readRoot target).mapError .target)
  bucketHead directory bucket := raise (readBucketHead target directory bucket)
  link address := raise ((readLink target address).mapError .target)
  header object := raise ((manager.readHeader target object).mapError .target)
  isDirectoryType type := return type == (← directoryType)
  name header := raise ((readName target header).mapError .target)

/-- The object tree of a target whose memory does not change. -/
def tree (manager : ObjectManager) (target : Target) : ObjectTree (Except ObjectError) :=
  manager.treeIn target id ((readDirectoryType target).mapError .target)

/-- A computation that may fail and that keeps the type of directories once it is known, also when it
fails later. -/
abbrev CacheM : Type → Type := EStateM ObjectError (Option Address)

/-- Raises the error of a computation that keeps nothing. -/
def CacheM.raise {α : Type} : Except ObjectError α → CacheM α
  | .ok value => pure value
  | .error error => throw error

/-- The type of all directories: the one kept, or else the one in memory, which is kept if it can be
read. -/
def cachedDirectoryType (target : Target) : CacheM Address := do
  match ← get with
  | some type => return type
  | none =>
    let type ← CacheM.raise ((readDirectoryType target).mapError .target)
    set (some type)
    return type

/-- The object tree of a target of which the type of directories is read only once. -/
def cachedTree (manager : ObjectManager) (target : Target) : ObjectTree CacheM :=
  manager.treeIn target CacheM.raise (cachedDirectoryType target)

end ObjectManager

end KernelScope
