import KernelScope.Folder
import KernelScope.Json.Reader
import KernelScope.Json.Record
import KernelScope.Memory

/-!
# Profiles

A profile says what a symbol engine would: how wide pointers are, where symbols lie and how
structures are laid out.  It is kept as a JSON record.
-/

set_option autoImplicit false

namespace KernelScope

/-! ## Errors -/

/-- Why a profile or a snapshot cannot be loaded or saved. -/
inductive ProfileError where
  /-- the file at `path` cannot be read or written -/
  | file (path : String) (error : FileError)
  /-- the text is not JSON, or not a record of the right form -/
  | malformed
  /-- the bytes of the region at `base` are not digits of base sixteen -/
  | regionBytes (base : Address) (error : Hex.BytesError)
  /-- pointers are neither four nor eight bytes wide -/
  | pointerSize (size : UInt64)
  /-- the regions do not form a memory, or the process cannot be opened -/
  | memory (error : MemoryError)
  deriving DecidableEq, Repr

namespace ProfileError

/-- The text of the error. -/
def message : ProfileError → String
  | .file path error => "Failed to read " ++ path ++ ": " ++ error.message
  | .malformed => "Malformed profile"
  | .regionBytes base error =>
    "Region at " ++ Hex.prefixed base.toNat ++ " has invalid hex bytes: " ++ error.message
  | .pointerSize size => "Unsupported pointer size " ++ toString size
  | .memory error => error.message

/-- The text of the error behind this one, if there is one. -/
def cause? : ProfileError → Option String
  | .file _ error => some error.message
  | .regionBytes _ error => some error.message
  | _ => none

/-- The text of the error followed by that of its cause. -/
def fullMessage (error : ProfileError) : String :=
  match error.cause? with
  | some cause => error.message ++ ": " ++ cause
  | none => error.message

end ProfileError

instance : MonadLift (Except MemoryError) (Except ProfileError) where
  monadLift result := result.mapError .memory

/-! ## Layouts -/

/-- The layout of one structure type: its size, and the offset of each field. -/
structure TypeLayout where
  size : UInt64
  fields : OrderedMap String UInt64
  deriving DecidableEq, Repr

namespace TypeLayout

/-- A layout without fields. -/
def ofSize (size : UInt64) : TypeLayout := ⟨size, .empty⟩

/-- The layout with a field at the given offset, wherever the field was before. -/
def withField (layout : TypeLayout) (field : String) (offset : UInt64) : TypeLayout :=
  { layout with fields := layout.fields.insert field offset }

/-- Reads a layout from JSON; it may have no fields. -/
def ofJson? (json : Json) : Option TypeLayout := do
  match ← json.record? ["size", "fields"] with
  | [some size, fields] =>
    return ⟨← size.word?, ← Json.optional (Json.table? Json.word?) .empty fields⟩
  | _ => none

/-- A layout in JSON. -/
def toJson (layout : TypeLayout) : Json :=
  .ofRecord [("size", .ofWord layout.size), ("fields", .ofTable .ofWord layout.fields)]

end TypeLayout

/-! ## Profiles -/

/-- Symbols and type layouts of one target. -/
structure Profile where
  /-- the width of a pointer in bytes -/
  pointerSize : UInt64
  /-- whether the target is a kernel -/
  kernel : Bool
  /-- the address of each symbol, by a name such as `nt!NtBuildNumber` -/
  symbols : OrderedMap String Address
  /-- the layout of each type, by a name such as `nt!_OBJECT_HEADER` -/
  types : OrderedMap String TypeLayout
  deriving DecidableEq, Repr

namespace Profile

/-- A profile without symbols and types. -/
def ofPointerSize (pointerSize : UInt64) (kernel : Bool) : Profile :=
  ⟨pointerSize, kernel, .empty, .empty⟩

/-- Refuses a profile whose pointers are neither four nor eight bytes wide. -/
def validate (profile : Profile) : Except ProfileError Unit :=
  if profile.pointerSize = 4 ∨ profile.pointerSize = 8 then .ok ()
  else .error (.pointerSize profile.pointerSize)

/-- Reads a profile from JSON.  Only the pointer size has to be given. -/
def ofJson? (json : Json) : Option Profile := do
  match ← json.record? ["pointer_size", "kernel", "symbols", "types"] with
  | [some pointerSize, kernel, symbols, types] =>
    return {
      pointerSize := ← pointerSize.word?
      kernel := ← Json.optional Json.flag? false kernel
      symbols := ← Json.optional (Json.table? Json.word?) .empty symbols
      types := ← Json.optional (Json.table? TypeLayout.ofJson?) .empty types }
  | _ => none

/-- A profile in JSON. -/
def toJson (profile : Profile) : Json :=
  .ofRecord [
    ("pointer_size", .ofWord profile.pointerSize),
    ("kernel", .bool profile.kernel),
    ("symbols", .ofTable .ofWord profile.symbols),
    ("types", .ofTable TypeLayout.toJson profile.types)]

/-- Reads a valid profile from a text. -/
def ofText (text : String) : Except ProfileError Profile := do
  match (Json.parse? text).bind ofJson? with
  | none => .error .malformed
  | some profile =>
    profile.validate
    return profile

/-- Loads the profile at a path; `readText` is how files are read. -/
def load (readText : String → Except FileError String) (path : String) :
    Except ProfileError Profile := do
  ofText (← (readText path).mapError (.file path))

/-- The symbol with the greatest address at or below `address`.  Of several at one address the last
in the order of names counts. -/
def nearestSymbol? (profile : Profile) (address : Address) : Option (String × Address) :=
  profile.symbols.toList.foldl (fun best symbol =>
    if symbol.2 ≤ address ∧ best.all (·.2 ≤ symbol.2) then some symbol else best) none

end Profile

end KernelScope
