import KernelScope.ObjectPath
import KernelScope.ObjectTree
import KernelScope.Text.LowerCase

/-!
# Looking up objects

A directory is walked bucket by bucket, and each bucket link by link.  A chain may be corrupt and
lead back into itself, so a walk takes a bounded number of links from one bucket and gives up when
there are more.  `find` walks until a name matches, without regard to case; `list` walks to the end;
`resolve` and `lookup` find one name after the other.

Each function fails in two ways that are kept apart: the tree may fail to answer, which is an effect
of its monad, and a walk may come to nothing, which is a `LookupError`.
-/

set_option autoImplicit false

namespace KernelScope

/-- Why a walk over a tree that answered every question came to nothing. -/
inductive LookupError where
  /-- the path is not absolute, or has an empty name -/
  | invalidPath (path : String) (flaw : ObjectPath.Flaw)
  /-- names are left over, and the object found so far holds none -/
  | notDirectory (name remaining : String)
  /-- a bucket has more than `limit` links -/
  | chainTooLong (bucket limit : Nat)
  deriving DecidableEq, Repr

/-- The text of the error. -/
def LookupError.message : LookupError → String
  | .invalidPath path flaw => "Invalid object path '" ++ path ++ "': " ++ flaw.message
  | .notDirectory name remaining =>
    "'" ++ name ++ "' is not a directory, cannot resolve '" ++ remaining ++ "'"
  | .chainTooLong bucket limit =>
    "Bucket " ++ toString bucket ++ " chain exceeds " ++ toString limit ++ " entries"

/-- The most links taken from one bucket where no other limit is given. -/
def defaultChainLimit : Nat := 4096

namespace ObjectTree

variable {m : Type → Type} [Monad m] {σ : Type}

/-! ## Walking a directory -/

/-- What a walk does at an entry: the state so far and the entry give the next state, and whether
the walk ends there. -/
abbrev Visitor (m : Type → Type) (σ : Type) : Type := σ → (bucket : Nat) → Entry → m (ForInStep σ)

/-- Visits the links of one chain; at most `room` more may be taken of the `limit` allowed. -/
@[specialize] def walkChain (tree : ObjectTree m) (visit : Visitor m σ) (limit bucket : Nat) :
    (room : Nat) → Option Address → σ → ExceptT LookupError m (ForInStep σ)
  | _, none, state => return .yield state
  | 0, some _, _ => throw (.chainTooLong bucket limit)
  | room + 1, some address, state => do
    let entry ← tree.entry address
    match ← visit state bucket entry with
    | .done state => return .done state
    | .yield state => walkChain tree visit limit bucket room entry.next state

/-- Visits the chains of the given buckets of a directory. -/
@[specialize] def walkBuckets (tree : ObjectTree m) (visit : Visitor m σ) (limit : Nat)
    (directory : Address) : List Nat → σ → ExceptT LookupError m σ
  | [], state => return state
  | bucket :: buckets, state => do
    let head ← tree.bucketHead directory bucket
    match ← walkChain tree visit limit bucket limit head state with
    | .done state => return state
    | .yield state => walkBuckets tree visit limit directory buckets state

/-- Visits every entry of a directory, in the order of buckets and then of links. -/
@[specialize] def walk (tree : ObjectTree m) (visit : Visitor m σ) (limit : Nat)
    (directory : Address) (state : σ) : ExceptT LookupError m σ :=
  walkBuckets tree visit limit directory (List.range bucketCount) state

/-! ## Finding a name -/

/-- Ends the walk at the first entry whose name has the lower case `wanted`. -/
def visitName (wanted : String) : Visitor m (Option Address) := fun found _ entry =>
  return if Text.lowerCase entry.name = wanted then .done (some entry.object) else .yield found

/-- The first object of a directory that has the name, without regard to case. -/
@[specialize] def find (tree : ObjectTree m) (limit : Nat) (directory : Address) (name : String) :
    ExceptT LookupError m (Option Address) :=
  walk tree (visitName (Text.lowerCase name)) limit directory none

/-- The object that the names lead to from a directory, or none if one of them is not there.  An
empty last name is passed over. -/
@[specialize] def resolveNames (tree : ObjectTree m) (limit : Nat) :
    (directory : Address) → (names : List String) → ExceptT LookupError m (Option Address)
  | _, [] => return none
  | directory, name :: rest => do
    match ← tree.find limit directory name with
    | none => return none
    | some object =>
      if rest = [] ∨ rest = [""] then return some object
      if ← tree.isDirectory object then resolveNames tree limit object rest
      else throw (.notDirectory name (ObjectPath.ofNames rest))

/-- The object at a path below a directory. -/
@[specialize] def resolve (tree : ObjectTree m) (limit : Nat) (directory : Address)
    (path : String) : ExceptT LookupError m (Option Address) :=
  tree.resolveNames limit directory (ObjectPath.names path)

/-- The object at an absolute path.  A path that is not absolute is refused before the tree is asked
anything. -/
@[specialize] def lookup (tree : ObjectTree m) (limit : Nat) (path : String) :
    ExceptT LookupError m (Option Address) := do
  match ObjectPath.absoluteNames path with
  | .error flaw => throw (.invalidPath path flaw)
  | .ok names =>
    let root ← tree.root
    tree.resolveNames limit root names

/-! ## Listing a directory -/

/-- One line of a listing. -/
structure Row where
  bucket : Nat
  name : String
  object : Address
  isDirectory : Bool
  deriving DecidableEq, Repr

/-- Adds a row for the entry, and goes on. -/
@[specialize] def visitRow (tree : ObjectTree m) : Visitor m (Array Row) :=
  fun rows bucket entry => do
    let isDirectory ← tree.isDirectory entry.object
    return .yield (rows.push ⟨bucket, entry.name, entry.object, isDirectory⟩)

/-- A row for every entry of a directory, in the order of buckets and then of links. -/
@[specialize] def list (tree : ObjectTree m) (limit : Nat) (directory : Address) :
    ExceptT LookupError m (List Row) := do
  let rows ← walk tree tree.visitRow limit directory #[]
  return rows.toList

end ObjectTree

end KernelScope
