import KernelScope.ObjectTree.Lookup

/-!
# Questions to an object tree

Everything that can be asked of a tree, as data, together with the kinds of answers.  A question is
answered by any tree, whatever its monad.
-/

set_option autoImplicit false

namespace KernelScope.ObjectTree

/-- A question to an object tree. -/
inductive Question where
  | root
  | bucketHead (directory : Address) (bucket : Nat)
  | link (address : Address)
  | header (object : Address)
  | isDirectoryType (type : Address)
  /-- the name of an object, whose header is read first -/
  | name (object : Address)
  | lookup (limit : Nat) (path : String)
  | resolve (limit : Nat) (directory : Address) (path : String)
  | list (limit : Nat) (directory : Address)
  deriving DecidableEq, Repr

/-- The answer to a question. -/
inductive Answer where
  | address (address : Address)
  | head (first : Option Address)
  | link (link : Link)
  | header (header : ObjectHeader)
  | flag (value : Bool)
  | name (text : String)
  | found (object : Option Address)
  | rows (rows : List Row)
  deriving DecidableEq, Repr

/-- Answers a question. -/
@[specialize] def ask {m : Type → Type} [Monad m] (tree : ObjectTree m) :
    Question → ExceptT LookupError m Answer
  | .root => return .address (← tree.root)
  | .bucketHead directory bucket => return .head (← tree.bucketHead directory bucket)
  | .link address => return .link (← tree.link address)
  | .header object => return .header (← tree.header object)
  | .isDirectoryType type => return .flag (← tree.isDirectoryType type)
  | .name object => do
    let header ← tree.header object
    return .name (← tree.name header)
  | .lookup limit path => return .found (← tree.lookup limit path)
  | .resolve limit directory path => return .found (← tree.resolve limit directory path)
  | .list limit directory => return .rows (← tree.list limit directory)

end KernelScope.ObjectTree
