import KernelScope.ObjectManager

/-!
# Object trees given by tables

A tree can be written down: which objects and links there are, by address, and which links the
buckets of a directory begin with.  What is not written down is not mapped.
-/

set_option autoImplicit false

namespace KernelScope

/-- An object that is written down: its name if it has one, its type, and the first link of each
bucket that is not empty. -/
structure TableObject where
  name : Option String
  type : Address
  heads : OrderedMap Nat Address
  deriving DecidableEq, Repr

/-- A tree that is written down. -/
structure ObjectTable where
  /-- the directory that absolute paths start from, if it is known -/
  root : Option Address
  /-- the type of all directories, if it is known -/
  directoryType : Option Address
  objects : OrderedMap Address TableObject
  links : OrderedMap Address Link
  deriving DecidableEq, Repr

namespace ObjectTable

/-- An entry of a table. -/
def entryAt {ν : Type} (table : OrderedMap Address ν) (address : Address) : Except ObjectError ν :=
  match table.get? address with
  | some entry => .ok entry
  | none => .error (.target (.memory (.unmapped address)))

/-- A fact that may be unknown, called by the name of a symbol. -/
def known (name : String) : Option Address → Except ObjectError Address
  | some address => .ok address
  | none => .error (.target (.unknownSymbol name))

/-- The tree that a table describes.  The header of an object is the object itself. -/
def tree (table : ObjectTable) : ObjectTree (Except ObjectError) where
  root := known "root" table.root
  bucketHead directory bucket :=
    (entryAt table.objects directory).map fun object => object.heads.get? bucket
  link address := entryAt table.links address
  header object := (entryAt table.objects object).map fun entry => ⟨object, entry.type, none⟩
  isDirectoryType type :=
    (known "directory_type" table.directoryType).map fun directory => type == directory
  name header := (entryAt table.objects header.address).map fun entry => entry.name.getD ""

end ObjectTable

end KernelScope
