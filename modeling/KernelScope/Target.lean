import KernelScope.Bytes
import KernelScope.Profile
import KernelScope.Text.Units16

/-!
# Targets

A target is what the walkers look at: a profile, and a way to read bytes at an address.  A captured
memory and a live process both serve as the source of the bytes.  All typed reads are built on the
one read of bytes.
-/

set_option autoImplicit false

namespace KernelScope

/-! ## Errors -/

/-- Why a question to a target has no answer. -/
inductive TargetError where
  | memory (error : MemoryError)
  /-- the profile has no symbol of this name -/
  | unknownSymbol (name : String)
  /-- the profile has no layout of this type -/
  | unknownType (name : String)
  /-- the layout of the type has no such field -/
  | missingField (type field : String)
  deriving DecidableEq, Repr

/-- The text of the error. -/
def TargetError.message : TargetError → String
  | .memory error => error.message
  | .unknownSymbol name => "Unknown symbol: " ++ name
  | .unknownType name => "Unknown type: " ++ name
  | .missingField type field => "Type " ++ type ++ " has no field " ++ field

/-- The fault of arithmetic behind the error, if there is one. -/
def TargetError.overflow? : TargetError → Option Overflow
  | .memory error => error.overflow?
  | _ => none

instance : MonadLift (Except MemoryError) (Except TargetError) where
  monadLift result := result.mapError .memory

/-! ## Targets -/

/-- A profile, and a source of bytes that reads exactly as many as it is asked for. -/
structure Target where
  profile : Profile
  read : (address : Address) → (length : Nat) → Except MemoryError (List UInt8)

namespace Target

/-- The target of a captured memory. -/
def ofMemory (profile : Profile) (memory : Memory) : Target := ⟨profile, memory.read⟩

/-- The width of a pointer in bytes. -/
def pointerSize (target : Target) : UInt64 := target.profile.pointerSize

/-! ## Symbols and layouts -/

/-- The address of a symbol. -/
def symbol (target : Target) (name : String) : Except TargetError Address :=
  match target.profile.symbols.get? name with
  | some address => .ok address
  | none => .error (.unknownSymbol name)

/-- Whether the profile has a symbol. -/
def hasSymbol (target : Target) (name : String) : Bool :=
  (target.profile.symbols.get? name).isSome

/-- The layout of a type. -/
def layout (target : Target) (type : String) : Except TargetError TypeLayout :=
  match target.profile.types.get? type with
  | some layout => .ok layout
  | none => .error (.unknownType type)

/-- The size of a type. -/
def typeSize (target : Target) (type : String) : Except TargetError UInt64 :=
  (target.layout type).map (·.size)

/-- The offset of a field, or none if the type lacks it. -/
def fieldOffset? (target : Target) (type field : String) : Except TargetError (Option UInt64) :=
  (target.layout type).map (·.fields.get? field)

/-- The offset of a field that the type has to have. -/
def fieldOffset (target : Target) (type field : String) : Except TargetError UInt64 := do
  match ← target.fieldOffset? type field with
  | some offset => return offset
  | none => throw (.missingField type field)

/-- The address of the record whose field lies at `address`; it may wrap below zero. -/
def containingRecord (target : Target) (address : Address) (type field : String) :
    Except TargetError Address :=
  (target.fieldOffset type field).map (address - ·)

/-- The symbol at `address`, or the nearest below it and the distance, or else the address. -/
def describe (target : Target) (address : Address) : String :=
  match target.profile.nearestSymbol? address with
  | some (name, base) =>
    if base = address then name else name ++ "+" ++ Hex.prefixed (address - base).toNat
  | none => address.digits

/-! ## Words -/

/-- The number in the `width` bytes at an address. -/
def readNat (target : Target) (address : Address) (width : Nat) : Except MemoryError Nat :=
  (target.read address width).map Bytes.littleEndian

/-- The byte at an address. -/
def readU8 (target : Target) (address : Address) : Except MemoryError UInt8 :=
  (target.readNat address 1).map UInt8.ofNat

/-- The 16-bit word at an address. -/
def readU16 (target : Target) (address : Address) : Except MemoryError UInt16 :=
  (target.readNat address 2).map UInt16.ofNat

/-- The 32-bit word at an address. -/
def readU32 (target : Target) (address : Address) : Except MemoryError UInt32 :=
  (target.readNat address 4).map UInt32.ofNat

/-- The signed 32-bit word at an address. -/
def readI32 (target : Target) (address : Address) : Except MemoryError Int32 :=
  (target.readU32 address).map UInt32.toInt32

/-- The 64-bit word at an address. -/
def readU64 (target : Target) (address : Address) : Except MemoryError UInt64 :=
  (target.readNat address 8).map UInt64.ofNat

/-- The pointer at an address.  Pointers of four bytes are extended by zeros; of any other width,
eight bytes are read. -/
def readPointer (target : Target) (address : Address) : Except MemoryError Address :=
  if target.pointerSize = 4 then (target.readU32 address).map UInt32.toUInt64
  else target.readU64 address

/-! ## Arrays -/

/-- The numbers in `count` adjoining places of `width` bytes. -/
def readNats (target : Target) (address : Address) (count width : Nat) :
    Except MemoryError (List Nat) := do
  let size ← bufferSize count width
  let bytes ← target.read address size
  return (Bytes.chunks width count bytes).map Bytes.littleEndian

/-- An array of 32-bit words. -/
def readU32s (target : Target) (address : Address) (count : Nat) :
    Except MemoryError (List UInt32) :=
  (target.readNats address count 4).map (List.map UInt32.ofNat)

/-- An array of signed 32-bit words. -/
def readI32s (target : Target) (address : Address) (count : Nat) :
    Except MemoryError (List Int32) :=
  (target.readU32s address count).map (List.map UInt32.toInt32)

/-- An array of 64-bit words. -/
def readU64s (target : Target) (address : Address) (count : Nat) :
    Except MemoryError (List UInt64) :=
  (target.readNats address count 8).map (List.map UInt64.ofNat)

/-- An array of pointers. -/
def readPointers (target : Target) (address : Address) (count : Nat) :
    Except MemoryError (List Address) :=
  if target.pointerSize = 4 then (target.readU32s address count).map (List.map UInt32.toUInt64)
  else target.readU64s address count

/-! ## Counted strings -/

/-- The text of the counted string at an address: its length in bytes, and one pointer further the
address of its units.  A string without length or without units is empty. -/
def readUnicodeString (target : Target) (address : Address) : Except MemoryError String := do
  let length ← target.readU16 address
  let units := length.toNat / 2
  let buffer ← target.readPointer (← addWords address target.pointerSize)
  if units = 0 ∨ buffer = 0 then return ""
  let bytes ← target.read buffer (2 * units)
  let words := (Bytes.chunks 2 units bytes).map fun pair => UInt16.ofNat (Bytes.littleEndian pair)
  return String.ofList (Text.ofUnits16 words)

end Target

end KernelScope
