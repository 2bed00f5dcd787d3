/-!
# Object paths

A path such as `\Driver\afd` names an object by the names that lead to it from the root directory.
The names of an absolute path are not empty; a path below a directory may be any text.
-/

set_option autoImplicit false

namespace KernelScope.ObjectPath

/-- The character between two names. -/
def separator : Char := '\\'

/-- The names between separators.  There is always at least one, which may be empty. -/
def names (path : String) : List String := (path.toList.splitOn separator).map String.ofList

/-- The text that has the given names. -/
def ofNames (names : List String) : String := (String.singleton separator).intercalate names

/-- The path of the root directory. -/
def root : String := String.singleton separator

/-- What is wrong with a path that should be absolute. -/
inductive Flaw where
  | empty
  | relative
  | emptyName
  deriving DecidableEq, Repr

/-- The text of the flaw. -/
def Flaw.message : Flaw → String
  | .empty => "path is empty"
  | .relative => "path must start with '\\'"
  | .emptyName => "path has an empty segment"

/-- The names of an absolute path: a separator, then names that are not empty. -/
def absoluteNames (path : String) : Except Flaw (List String) :=
  match path.toList with
  | [] => .error .empty
  | first :: rest =>
    if first ≠ separator then .error .relative
    else
      let names := rest.splitOn separator
      if names.any List.isEmpty then .error .emptyName else .ok (names.map String.ofList)

end KernelScope.ObjectPath
