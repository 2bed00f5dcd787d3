import KernelScope.OrderedMap

/-!
# Files of a folder

Profiles and snapshots are named by paths relative to the working folder.  A `Folder` holds files by
name and no further folders.  A path may also leave it, upwards or for the root; nothing is known of
the folders there but that they exist, that they hold the files written to them and that files can
be written.  Any other path fails in the way that the system reports.
-/

set_option autoImplicit false

namespace KernelScope

/-- Why a file cannot be read or written. -/
inductive FileError where
  | notFound
  | notFolder
  | isFolder
  | nameTooLong
  | zeroInName
  | notText
  deriving DecidableEq, Repr

/-- The text of the error. -/
def FileError.message : FileError → String
  | .notFound => "No such file or directory (os error 2)"
  | .notFolder => "Not a directory (os error 20)"
  | .isFolder => "Is a directory (os error 21)"
  | .nameTooLong => "File name too long (os error 36)"
  | .zeroInName => "file name contained an unexpected NUL byte"
  | .notText => "stream did not contain valid UTF-8"

/-- A folder that holds nothing but files, by name.  A file outside of it has its name behind the
path of the folder that it is in. -/
structure Folder where
  files : OrderedMap String ByteArray

namespace Folder

/-- The most bytes of a name. -/
def nameLimit : Nat := 255

/-- The most bytes of a path. -/
def pathLimit : Nat := 4095

/-- The folder without files. -/
def empty : Folder := ⟨.empty⟩

/-- The path of the folder above the one with the path `base`, which is empty or ends in a slash.
Nothing is above the root. -/
def above (base : String) : String := if base = "/" then "/" else base ++ "../"

/-- What a path leads to. -/
inductive Place where
  /-- a folder -/
  | folder
  /-- the name of a file that may be in the folder `base` -/
  | file (base name : String)
  /-- the same with slashes behind it, as if the name were one of a folder -/
  | slashed (base name : String)
  deriving DecidableEq, Repr

/-- The content of the file of a name in the folder `base`, if there is such a file. -/
def content? (folder : Folder) (base name : String) : Except FileError (Option ByteArray) :=
  if nameLimit < name.utf8ByteSize then .error .nameTooLong
  else .ok (folder.files.get? (base ++ name))

/-- Why no path leads on from a name in the folder `base`, since it is not one of a folder. -/
def deadEnd (folder : Folder) (base name : String) : FileError :=
  match folder.content? base name with
  | .ok (some _) => .notFolder
  | .ok none => .notFound
  | .error error => error

/-- Follows the parts of a path, which slashes separate, from the folder `base`. -/
def follow (folder : Folder) (base : String) : List String → Except FileError Place
  | [] => .ok .folder
  | part :: rest =>
    if part = "" ∨ part = "." then folder.follow base rest
    else if part = ".." then folder.follow (above base) rest
    else if rest.isEmpty then .ok (.file base part)
    else if rest.all (· == "") then .ok (.slashed base part)
    else .error (folder.deadEnd base part)

/-- The place that a path leads to. -/
def locate (folder : Folder) (path : String) : Except FileError Place :=
  if path.toList.contains '\x00' then .error .zeroInName
  else if path = "" then .error .notFound
  else if pathLimit < path.utf8ByteSize then .error .nameTooLong
  else
    folder.follow (if path.startsWith "/" then "/" else "")
      ((path.toList.splitOn '/').map String.ofList)

/-- The bytes of the file at a path. -/
def read (folder : Folder) (path : String) : Except FileError ByteArray := do
  match ← folder.locate path with
  | .folder => .error .isFolder
  | .slashed base name => .error (folder.deadEnd base name)
  | .file base name =>
    match ← folder.content? base name with
    | some bytes => .ok bytes
    | none => .error .notFound

/-- The text of the file at a path, which has to be UTF-8. -/
def readText (folder : Folder) (path : String) : Except FileError String := do
  let bytes ← folder.read path
  match String.fromUTF8? bytes with
  | some text => .ok text
  | none => .error .notText

/-- The folder after a text is written to the file at a path, which is made if it is not there.  A
path with a slash at its end asks for a folder and so will never do. -/
def writeText (folder : Folder) (path text : String) : Except FileError Folder := do
  match ← folder.locate path with
  | .folder | .slashed .. => .error .isFolder
  | .file base name =>
    let _ ← folder.content? base name
    return ⟨folder.files.insert (base ++ name) text.toUTF8⟩

end Folder

end KernelScope
