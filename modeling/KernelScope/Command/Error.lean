import KernelScope.ObjectManager
import KernelScope.ObjectTree.Lookup
import KernelScope.ServiceTable

/-!
# Errors of commands

Everything that a command can fail with, each kept as the cause that it is.
-/

set_option autoImplicit false

namespace KernelScope

/-- Why a command failed. -/
inductive CommandError where
  /-- the target could not answer a question about objects -/
  | object (error : ObjectError)
  /-- a path or a directory could not be walked -/
  | lookup (error : LookupError)
  | service (error : ServiceError)
  /-- there is no sample of this name -/
  | unknownSample (name : String)
  /-- the object at the path has no entries to list -/
  | notDirectory (path : String)
  /-- more bytes were asked for than are shown at once -/
  | dumpTooLong (length : UInt64)
  deriving DecidableEq, Repr

namespace CommandError

/-- The most bytes that are shown at once. -/
def dumpLimit : UInt64 := 0x10000

/-- The text of the error. -/
def message : CommandError → String
  | .object error => error.message
  | .lookup error => error.message
  | .service error => error.message
  | .unknownSample name => "Unknown sample: " ++ name
  | .notDirectory path => path ++ " is not a directory"
  | .dumpTooLong length =>
    "dump length " ++ Hex.prefixed length.toNat ++ " exceeds " ++ Hex.prefixed dumpLimit.toNat

/-- The fault of arithmetic behind the error, if there is one. -/
def overflow? : CommandError → Option Overflow
  | .object error => error.overflow?
  | .service error => error.overflow?
  | _ => none

/-- The outcome of a walk, with both of its ways to fail as errors of a command. -/
def ofWalk {α : Type} : Except ObjectError (Except LookupError α) → Except CommandError α
  | .error error => .error (.object error)
  | .ok (.error error) => .error (.lookup error)
  | .ok (.ok value) => .ok value

end CommandError

instance : MonadLift (Except ObjectError) (Except CommandError) where
  monadLift result := result.mapError .object

instance : MonadLift (Except ServiceError) (Except CommandError) where
  monadLift result := result.mapError .service

end KernelScope
