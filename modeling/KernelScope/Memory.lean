import KernelScope.Address
import KernelScope.OrderedMap

/-!
# Memory of a target

A captured memory image is a set of regions, each a row of bytes at a base address.  Regions do not
overlap and end below the top of the address space.  `Memory.map` keeps it so by looking at the
neighbours of a new region only.  A read or a write stays inside the region that holds its first
byte, even where another region begins right behind it.
-/

set_option autoImplicit false

namespace KernelScope

/-! ## Errors -/

/-- Why memory of a target, captured or live, cannot be mapped, written or read. -/
inductive MemoryError where
  /-- the system refused to read a process -/
  | readFailed (address : Address) (reason : String)
  /-- fewer bytes than wanted follow the address in its region -/
  | shortRead (address : Address) (wanted got : Nat)
  /-- no region holds the address -/
  | unmapped (address : Address)
  /-- a region at `base` would share addresses with another -/
  | overlap (base : Address)
  /-- a region would reach the end of the address space -/
  | wraps (base : Address) (length : Nat)
  /-- the process to read cannot be opened -/
  | openFailed (pid : UInt32) (reason : String)
  /-- no process has been opened -/
  | noProcess
  /-- an address or a size cannot be formed -/
  | overflow (fault : Overflow)
  deriving DecidableEq, Repr

/-- The text of the error. -/
def MemoryError.message : MemoryError → String
  | .readFailed address reason =>
    "Failed to read memory at " ++ Hex.prefixed address.toNat ++ ": " ++ reason
  | .shortRead address wanted got =>
    "Short read at " ++ Hex.prefixed address.toNat ++ ": wanted " ++ toString wanted ++
      " bytes, got " ++ toString got
  | .unmapped address => "Address " ++ Hex.prefixed address.toNat ++ " is not mapped"
  | .overlap base => "Overlapping region at " ++ Hex.prefixed base.toNat
  | .wraps base length =>
    "Region at " ++ Hex.prefixed base.toNat ++ " of " ++ Hex.prefixed length ++
      " bytes wraps the address space"
  | .openFailed pid reason => "Failed to open process " ++ toString pid ++ ": " ++ reason
  | .noProcess => "No process attached"
  | .overflow fault => fault.message

/-- The fault of arithmetic behind the error, if there is one. -/
def MemoryError.overflow? : MemoryError → Option Overflow
  | .overflow fault => some fault
  | _ => none

instance : MonadLift (Except Overflow) (Except MemoryError) where
  monadLift result := result.mapError .overflow

/-! ## Captured memory -/

/-- A captured memory image: its regions by base address. -/
structure Memory where
  regions : OrderedMap Address (Array UInt8)
  deriving DecidableEq, Repr

namespace Memory

/-- Memory in which nothing is mapped. -/
def empty : Memory := ⟨.empty⟩

/-- The regions as pairs of base and bytes, in address order. -/
def toList (memory : Memory) : List (Address × Array UInt8) := memory.regions.toList

/-- The address behind a region, if there is such an address. -/
def regionEnd (region : Address × Array UInt8) : Except Overflow Address :=
  addWords region.1 (UInt64.ofNat region.2.size)

/-- Whether the last region at or below `base` reaches past it, or has no end. -/
def reachesPast (memory : Memory) (base : Address) : Bool :=
  match memory.regions.floor? base with
  | none => false
  | some region =>
    match regionEnd region with
    | .ok stop => base < stop
    | .error _ => true

/-- Whether a region begins at or above `base` and before `limit`. -/
def beginsBefore (memory : Memory) (base : Address) (limit : Nat) : Bool :=
  match memory.regions.ceiling? base with
  | some (above, _) => above.toNat < limit
  | none => false

/-- Maps `bytes` at `base`.  The region has to end below the top of the address space and may not
share an address with another.  A region with bytes may not hold the base of an empty one either;
only an empty region takes the place of an empty one at the same base. -/
def map (memory : Memory) (base : Address) (bytes : Array UInt8) : Except MemoryError Memory :=
  if wordLimit ≤ base.toNat + bytes.size then .error (.wraps base bytes.size)
  else if memory.reachesPast base || memory.beginsBefore base (base.toNat + bytes.size) then
    .error (.overlap base)
  else .ok ⟨memory.regions.insert base bytes⟩

/-- The bytes of `region` with those from `start` on replaced by `bytes`. -/
def overwrite (region : Array UInt8) (start : Nat) (bytes : Array UInt8) : Array UInt8 :=
  region.extract 0 start ++ bytes ++ region.extract (start + bytes.size) region.size

/-- Overwrites mapped bytes.  The last region at or below the address has to hold all of them. -/
def write (memory : Memory) (address : Address) (bytes : Array UInt8) :
    Except MemoryError Memory :=
  match memory.regions.floor? address with
  | none => .error (.unmapped address)
  | some (base, region) =>
    let start := address.toNat - base.toNat
    if wordLimit ≤ start + bytes.size then .error (.overflow .addition)
    else if region.size < start + bytes.size then
      .error (.unmapped (base + UInt64.ofNat region.size))
    else .ok ⟨memory.regions.insert base (overwrite region start bytes)⟩

/-- Reads exactly `length` bytes.  The last region at or below the address has to hold all of them,
and the address itself even when no byte is asked for. -/
def read (memory : Memory) (address : Address) (length : Nat) : Except MemoryError (List UInt8) :=
  match memory.regions.floor? address with
  | none => .error (.unmapped address)
  | some (base, region) =>
    let start := address.toNat - base.toNat
    if region.size ≤ start then .error (.unmapped address)
    else if region.size - start < length then
      .error (.shortRead address length (region.size - start))
    else .ok (region.extract start (start + length)).toList

end Memory

end KernelScope
