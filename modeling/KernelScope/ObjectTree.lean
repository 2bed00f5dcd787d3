import KernelScope.Address

/-!
# Object trees

The kernel keeps named objects in directories.  A directory has a fixed number of buckets, each the
head of a chain of links, and each link leads to an object.  An `ObjectTree` answers the questions
that a walk over directories asks; what answers them, and with which effects, is left open.
-/

set_option autoImplicit false

namespace KernelScope

/-- The number of buckets of a directory. -/
def bucketCount : Nat := 37

/-- A link of a chain: its object, and the next link if there is one. -/
structure Link where
  object : Address
  next : Option Address
  deriving DecidableEq, Repr

/-- What stands in front of an object: where it stands, the object's type, and where its name is
kept if it has one. -/
structure ObjectHeader where
  address : Address
  type : Address
  nameInfo : Option Address
  deriving DecidableEq, Repr

/-- Answers about a tree of directories, in a monad of their effects. -/
structure ObjectTree (m : Type → Type) where
  /-- the directory that absolute paths start from -/
  root : m Address
  /-- the first link in a bucket of a directory -/
  bucketHead : (directory : Address) → (bucket : Nat) → m (Option Address)
  /-- the link at an address -/
  link : Address → m Link
  /-- the header of an object -/
  header : (object : Address) → m ObjectHeader
  /-- whether objects of the type are directories -/
  isDirectoryType : (type : Address) → m Bool
  /-- the name of the object with the header, empty if it has none -/
  name : ObjectHeader → m String

namespace ObjectTree

variable {m : Type → Type} [Monad m]

/-- A link together with the name of its object. -/
structure Entry where
  name : String
  object : Address
  next : Option Address
  deriving DecidableEq, Repr

/-- Reads a link, then the header of its object, then the name. -/
@[specialize] def entry (tree : ObjectTree m) (address : Address) : m Entry := do
  let link ← tree.link address
  let header ← tree.header link.object
  let name ← tree.name header
  return ⟨name, link.object, link.next⟩

/-- Whether an object is a directory, as its header says. -/
@[specialize] def isDirectory (tree : ObjectTree m) (object : Address) : m Bool := do
  let header ← tree.header object
  tree.isDirectoryType header.type

end ObjectTree

end KernelScope
