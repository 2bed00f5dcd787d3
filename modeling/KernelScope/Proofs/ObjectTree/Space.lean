import KernelScope.ObjectTree.Question
import KernelScope.Proofs.ObjectTree.Evaluation

/-!
# Spaces of objects

A space is a tree of objects without addresses: which object is the root, what the objects are
called, and what stands in the buckets of those that are directories.  What a lookup or a listing
should give is said on spaces, by looking at whole buckets.  An object tree that answers its single
questions as a space does, with addresses for the objects, then answers every question so.
-/

set_option autoImplicit false

namespace KernelScope

/-- The objects in each bucket of a directory, in order. -/
abbrev Buckets (ι : Type) : Type := Fin bucketCount → List ι

/-- Objects with names, of which some are directories. -/
structure ObjectSpace (ι : Type) where
  root : ι
  name : ι → Option String
  /-- the buckets of a directory, or none for any other object -/
  buckets : ι → Option (Buckets ι)
  /-- the root is a directory -/
  rootBuckets : Buckets ι
  buckets_root : buckets root = some rootBuckets

namespace ObjectSpace

variable {ι : Type} (space : ObjectSpace ι)

/-- The name of an object, empty if it has none. -/
def display (object : ι) : String := (space.name object).getD ""

/-- Whether the object is a directory. -/
def isDirectory (object : ι) : Bool := (space.buckets object).isSome

/-! ## Finding -/

/-- The first of the objects of a bucket whose name has the lower case `wanted`.  It has to be among
the first `limit` of them, and unless it is there may not be more than these. -/
def findAmong (limit : Nat) (wanted : String) (bucket : Nat) (objects : List ι) :
    Except LookupError (Option ι) :=
  match (objects.take limit).find? fun object => Text.lowerCase (space.display object) = wanted with
  | some object => .ok (some object)
  | none => if limit < objects.length then .error (.chainTooLong bucket limit) else .ok none

/-- The first object of the given buckets whose name has the lower case `wanted`. -/
def findIn (limit : Nat) (wanted : String) (all : Buckets ι) :
    List (Fin bucketCount) → Except LookupError (Option ι)
  | [] => .ok none
  | bucket :: rest =>
    match space.findAmong limit wanted bucket (all bucket) with
    | .ok none => findIn limit wanted all rest
    | answer => answer

/-- The first object of a directory that has the name, without regard to case. -/
def find (limit : Nat) (all : Buckets ι) (name : String) : Except LookupError (Option ι) :=
  space.findIn limit (Text.lowerCase name) all (List.finRange bucketCount)

/-- The object that the names lead to.  Every object on the way has to be a directory, and an empty
last name is passed over. -/
def resolveNames (limit : Nat) (all : Buckets ι) : List String → Except LookupError (Option ι)
  | [] => .ok none
  | name :: rest =>
    match space.find limit all name with
    | .ok (some object) =>
      if rest = [] ∨ rest = [""] then .ok (some object)
      else
        match space.buckets object with
        | some inner => resolveNames limit inner rest
        | none => .error (.notDirectory name (ObjectPath.ofNames rest))
    | answer => answer

/-- The object at a path below a directory. -/
def resolve (limit : Nat) (all : Buckets ι) (path : String) : Except LookupError (Option ι) :=
  space.resolveNames limit all (ObjectPath.names path)

/-- The object at an absolute path. -/
def lookup (limit : Nat) (path : String) : Except LookupError (Option ι) :=
  match ObjectPath.absoluteNames path with
  | .error flaw => .error (.invalidPath path flaw)
  | .ok names => space.resolveNames limit space.rootBuckets names

/-! ## Listing -/

/-- The objects of a directory with their buckets, in order.  No bucket may have more than `limit`
of them. -/
def list (limit : Nat) (all : Buckets ι) : Except LookupError (List (Fin bucketCount × ι)) :=
  match (List.finRange bucketCount).find? fun bucket => limit < (all bucket).length with
  | some bucket => .error (.chainTooLong bucket limit)
  | none =>
    .ok ((List.finRange bucketCount).flatMap fun bucket =>
      (all bucket).map fun object => (bucket, object))

end ObjectSpace

/-! ## Addresses -/

/-- Where the objects of a space and the links of its buckets are kept. -/
structure Placement (ι : Type) where
  body : ι → Address
  header : ι → ObjectHeader
  /-- the link at a position of a bucket of a directory -/
  link : (directory : ι) → (bucket position : Nat) → Address
  directoryType : Address

/-- The link at a position of a bucket with `length` objects, if there are so many. -/
def Placement.link? {ι : Type} (place : Placement ι) (directory : ι)
    (bucket length position : Nat) : Option Address :=
  if position < length then some (place.link directory bucket position) else none

/-- What a space replies to a question, with addresses for its objects. -/
inductive ObjectSpace.Replies {ι : Type} (space : ObjectSpace ι) (place : Placement ι) :
    ObjectTree.Question → Except LookupError ObjectTree.Answer → Prop where
  | root : Replies space place .root (.ok (.address (place.body space.root)))
  | bucketHead {directory : ι} {all : Buckets ι} (hall : space.buckets directory = some all)
      (bucket : Fin bucketCount) :
      Replies space place (.bucketHead (place.body directory) bucket)
        (.ok (.head (place.link? directory bucket (all bucket).length 0)))
  | link {directory : ι} {all : Buckets ι} (hall : space.buckets directory = some all)
      {bucket : Fin bucketCount} {position : Nat} {object : ι}
      (hobject : (all bucket)[position]? = some object) :
      Replies space place (.link (place.link directory bucket position))
        (.ok (.link ⟨place.body object,
          place.link? directory bucket (all bucket).length (position + 1)⟩))
  | header (object : ι) :
      Replies space place (.header (place.body object)) (.ok (.header (place.header object)))
  | isDirectoryType (type : Address) :
      Replies space place (.isDirectoryType type) (.ok (.flag (type == place.directoryType)))
  | name (object : ι) :
      Replies space place (.name (place.body object)) (.ok (.name (space.display object)))
  | lookup (limit : Nat) (path : String) :
      Replies space place (.lookup limit path)
        ((space.lookup limit path).map fun found => .found (found.map place.body))
  | resolve {directory : ι} {all : Buckets ι} (hall : space.buckets directory = some all)
      (limit : Nat) (path : String) :
      Replies space place (.resolve limit (place.body directory) path)
        ((space.resolve limit all path).map fun found => .found (found.map place.body))
  | list {directory : ι} {all : Buckets ι} (hall : space.buckets directory = some all)
      (limit : Nat) :
      Replies space place (.list limit (place.body directory))
        ((list limit all).map fun rows => .rows (rows.map fun row =>
          ⟨row.1, space.display row.2, place.body row.2, space.isDirectory row.2⟩))

/-- A tree answers its single questions as a space does. -/
structure ObjectTree.Answers {ι : Type} {m : Type → Type} [Monad m] (ev : Evaluation m)
    (tree : ObjectTree m) (space : ObjectSpace ι) (place : Placement ι) : Prop where
  root : ev.Yields tree.root (place.body space.root)
  bucketHead : ∀ {directory : ι} {all : Buckets ι}, space.buckets directory = some all →
    ∀ bucket : Fin bucketCount, ev.Yields (tree.bucketHead (place.body directory) bucket)
      (place.link? directory bucket (all bucket).length 0)
  link : ∀ {directory : ι} {all : Buckets ι}, space.buckets directory = some all →
    ∀ {bucket : Fin bucketCount} {position : Nat} {object : ι},
      (all bucket)[position]? = some object →
        ev.Yields (tree.link (place.link directory bucket position))
          ⟨place.body object, place.link? directory bucket (all bucket).length (position + 1)⟩
  header : ∀ object, ev.Yields (tree.header (place.body object)) (place.header object)
  isDirectoryType : ∀ type, ev.Yields (tree.isDirectoryType type) (type == place.directoryType)
  types : ∀ object, (place.header object).type = place.directoryType ↔
    space.isDirectory object = true
  name : ∀ object, ev.Yields (tree.name (place.header object)) (space.display object)

end KernelScope
