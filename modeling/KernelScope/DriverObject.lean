import KernelScope.Target

/-!
# Driver objects

A driver object holds a table with one routine for each kind of request.
-/

set_option autoImplicit false

namespace KernelScope

/-- The table of routines of the driver at an address. -/
structure DriverObject where
  address : Address
  majorFunctions : List Address
  deriving DecidableEq, Repr

namespace DriverObject

/-- The type of a driver object. -/
def typeName : String := "nt!_DRIVER_OBJECT"

/-- The number of kinds of requests. -/
def majorFunctionCount : Nat := 28

/-- Reads the driver object at an address. -/
def read (target : Target) (address : Address) : Except TargetError DriverObject := do
  let table ← target.fieldOffset typeName "MajorFunction"
  let routines ← target.readPointers (← addWords address table) majorFunctionCount
  return ⟨address, routines⟩

/-- The line that shows the routine for one kind of request. -/
def routineLine (target : Target) (routine : Address) (index : Nat) : String :=
  "MajorFunction[" ++ toString index ++ "] = " ++ target.describe routine ++ "\n"

/-- A line for each routine. -/
def text (driver : DriverObject) (target : Target) : String :=
  String.join (driver.majorFunctions.zipIdx.map fun pair => routineLine target pair.1 pair.2)

end DriverObject

end KernelScope
