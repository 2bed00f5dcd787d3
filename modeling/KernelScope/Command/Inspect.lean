import KernelScope.Bytes
import KernelScope.DriverObject
import KernelScope.ObjectPath
import KernelScope.OpenObjects
import KernelScope.Report

/-!
# What the commands show

One report for each kind of thing that can be looked at: an object, a directory, the routines of a
driver, the service table, a symbol, bytes.
-/

set_option autoImplicit false

namespace KernelScope.Inspect

/-- A report of a command. -/
abbrev Output : Type → Type := Report CommandError

/-- The line that is shown when a path leads nowhere. -/
def notFoundLine : String := "object not found\n"

/-- The object at an absolute path. -/
def lookup (manager : ObjectManager) (target : Target) (path : String) :
    Except CommandError (Option Address) :=
  CommandError.ofWalk ((manager.tree target).lookup defaultChainLimit path).run

/-! ## Objects and directories -/

/-- Shows the object at a path, and whether it is a directory. -/
def object (target : Target) (path : String) : Output Unit := do
  let manager ← ObjectManager.probe target
  match ← lookup manager target path with
  | none => .write notFoundLine
  | some address =>
    let isDirectory ← (manager.tree target).isDirectory address
    let mark := if isDirectory then " <Directory>" else ""
    .write (path ++ " " ++ address.digits ++ mark ++ "\n")

/-- The bucket of an entry, in at least two places. -/
def bucketText (bucket : Nat) : String :=
  String.ofList ((Nat.toDigits 10 bucket).leftpad 2 ' ')

/-- The line of one entry of a listing. -/
def rowLine (row : ObjectTree.Row) : String :=
  "  [" ++ bucketText row.bucket ++ "] " ++ Hex.padded 16 row.object.toNat ++ " " ++ row.name ++ " " ++
    (if row.isDirectory then "<Directory>" else "") ++ "\n"

/-- The directory to list: the root, or the object at a path. -/
def directoryAt (manager : ObjectManager) (target : Target) (path : String) :
    Except CommandError (Option Address) :=
  if path = ObjectPath.root then
    (((manager.tree target).root).map some).mapError .object
  else lookup manager target path

/-- Shows the directory at a path, or the root, with a line for each entry. -/
def directory (target : Target) (path : String) : Output Unit := do
  let manager ← ObjectManager.probe target
  match ← directoryAt manager target path with
  | none => .write notFoundLine
  | some address =>
    let tree := manager.tree target
    unless ← tree.isDirectory address do
      .ofExcept (.error (.notDirectory path))
    .write ("Directory " ++ path ++ " " ++ address.digits ++ "\n")
    let rows ← CommandError.ofWalk (tree.list defaultChainLimit address).run
    .write (String.join (rows.map rowLine))

/-! ## Drivers -/

/-- The path of a driver. -/
def driverPath (name : String) : String := "\\Driver\\" ++ name

/-- Shows the routines of the driver at a path, given what the path leads to. -/
def majorFunctions (target : Target) (path : String)
    (found : Except CommandError (Option Address)) : Output Unit := do
  match ← found with
  | none => .write notFoundLine
  | some address =>
    .write (path ++ " " ++ address.digits ++ "\n")
    let driver ← DriverObject.read target address
    .write (driver.text target)

/-- Shows the routines of a driver that is looked up through open objects. -/
def driver (target : Target) (objects : OpenObjects) (name : String) : Output OpenObjects := do
  let path := driverPath name
  let (found, after) := objects.lookup target path
  majorFunctions target path found
  return after

/-- Shows the routines of several drivers, up to the first that cannot be shown.  The objects are
opened once, for all of them. -/
def drivers (target : Target) (names : List String) : Output Unit := do
  let manager ← ObjectManager.probe target
  discard (names.foldlM (driver target) ⟨manager, none⟩)

/-! ## Services, symbols and bytes -/

/-- Shows the service table. -/
def services (target : Target) : Output Unit := do
  let table ← ServiceTable.read target
  .write (table.text target)

/-- Shows the symbol nearest to an address. -/
def symbol (target : Target) (address : Address) : Output Unit :=
  .write (address.digits ++ " " ++ target.describe address ++ "\n")

/-- The number of bytes on one line. -/
def dumpWidth : Nat := 16

/-- The line that shows the bytes at an address. -/
def dumpLine (address : Address) (bytes : List UInt8) : String :=
  Hex.padded 16 address.toNat ++ "  " ++
    " ".intercalate (bytes.map fun byte => String.ofList (Hex.byteDigits byte)) ++ "\n"

/-- The lines that show the bytes from an address on. -/
def dumpText (address : Address) (bytes : List UInt8) : String :=
  let lines := Bytes.chunks dumpWidth ((bytes.length + dumpWidth - 1) / dumpWidth) bytes
  String.join (lines.zipIdx.map fun line =>
    dumpLine (address + UInt64.ofNat (dumpWidth * line.2)) line.1)

/-- Shows the bytes at an address. -/
def dump (target : Target) (address : Address) (length : UInt64) : Output Unit := do
  if CommandError.dumpLimit < length then
    .ofExcept (.error (.dumpTooLong length))
  let bytes ← target.read address length.toNat
  .write (dumpText address bytes)

end KernelScope.Inspect
