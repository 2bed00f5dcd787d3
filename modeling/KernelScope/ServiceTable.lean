import KernelScope.ObjectManager

/-!
# The system service table

A kernel finds its services in a table.  A 32-bit kernel keeps their addresses in it.  A 64-bit
kernel keeps signed distances from the start of the table, with a count of stack arguments in the low
four bits: most builds shift the distance up to make room, build 3790 takes distances that are
multiples of sixteen as they are.
-/

set_option autoImplicit false

namespace KernelScope

/-- Why a service table cannot be read. -/
inductive ServiceError where
  | target (error : TargetError)
  /-- the table claims more services than any kernel has -/
  | implausibleCount (count : UInt64)
  deriving DecidableEq, Repr

/-- The text of the error. -/
def ServiceError.message : ServiceError → String
  | .target error => error.message
  | .implausibleCount count =>
    "Service count " ++ Hex.prefixed count.toNat ++ " is implausible"

/-- The fault of arithmetic behind the error, if there is one. -/
def ServiceError.overflow? : ServiceError → Option Overflow
  | .target error => error.overflow?
  | .implausibleCount _ => none

instance : MonadLift (Except TargetError) (Except ServiceError) where
  monadLift result := result.mapError .target

/-- A service table: where it starts, and the address of each routine. -/
structure ServiceTable where
  start : Address
  routines : List Address
  /-- whether the table held distances instead of addresses -/
  wide : Bool
  deriving DecidableEq, Repr

namespace ServiceTable

/-- The most services that are read. -/
def serviceLimit : UInt64 := 4096

/-- The build that does not shift distances. -/
def unshiftedBuild : UInt16 := 3790

/-- The number of services that a table claims to have, if it is plausible. -/
def plausibleCount (count : UInt64) : Except ServiceError Nat :=
  if serviceLimit < count then .error (.implausibleCount count) else .ok count.toNat

/-- The distance from the start of the table that an entry holds. -/
def distance (build : UInt16) (entry : Int) : Int :=
  if build = unshiftedBuild then entry - entry % 16 else entry / 16

/-- The routine that an entry stands for; the sum may wrap. -/
def routine (build : UInt16) (start : Address) (entry : Int32) : Address :=
  start + UInt64.ofInt (distance build entry.toInt)

/-- The start and the count in a descriptor of four words. -/
def startAndCount (words : List UInt64) : UInt64 × UInt64 := (words.getD 0 0, words.getD 2 0)

/-- Reads the table of a 64-bit kernel whose descriptor is at an address. -/
def readWide (target : Target) (descriptor : Address) : Except ServiceError ServiceTable := do
  let words ← target.readU64s descriptor 4
  let (start, count) := startAndCount words
  let count ← plausibleCount count
  let build ← ObjectManager.buildNumber target
  let entries ← target.readI32s start count
  return ⟨start, entries.map (routine build start), true⟩

/-- Reads the table of a 32-bit kernel whose descriptor is at an address. -/
def readNarrow (target : Target) (descriptor : Address) : Except ServiceError ServiceTable := do
  let words ← target.readU32s descriptor 4
  let (start, count) := startAndCount (words.map UInt32.toUInt64)
  let count ← plausibleCount count
  let routines ← target.readPointers start count
  return ⟨start, routines, false⟩

/-- Reads the service table of a target. -/
def read (target : Target) : Except ServiceError ServiceTable := do
  let descriptor ← target.symbol "nt!KeServiceDescriptorTable"
  if target.pointerSize = 8 then readWide target descriptor else readNarrow target descriptor

/-- The line that shows one service. -/
def routineLine (table : ServiceTable) (target : Target) (routine : Address) (index : Nat) :
    String :=
  "[" ++ toString index ++ "] " ++ target.describe routine ++
    (if table.wide then " (" ++ routine.digits ++ ")" else "") ++ "\n"

/-- A heading, and a line for each service. -/
def text (table : ServiceTable) (target : Target) : String :=
  "ServiceTable  start: " ++ table.start.digits ++ "  count: " ++
    Hex.digits table.routines.length ++ "\n" ++
    String.join (table.routines.zipIdx.map fun pair => table.routineLine target pair.1 pair.2)

end ServiceTable

end KernelScope
