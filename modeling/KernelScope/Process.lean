import KernelScope.Target

/-!
# Live processes

Memory can also be read from a process, and a process can be stopped while it is looked at.  Which
processes are alive is the only thing about them that is known here: the bytes of a process cannot
be read, and a living process is not stopped.
-/

set_option autoImplicit false

namespace KernelScope

/-! ## Reading a process -/

/-- The process whose memory is read, if one has been opened. -/
structure ProcessMemory where
  process : Option UInt32
  deriving DecidableEq, Repr

namespace ProcessMemory

/-- No process opened yet. -/
def closed : ProcessMemory := ⟨none⟩

/-- Opens a process, which has to be alive.  If it is not, the process opened before stays open. -/
def openProcess (alive : UInt32 → Bool) (pid : UInt32) : Except MemoryError ProcessMemory :=
  if alive pid then .ok ⟨some pid⟩ else .error (.openFailed pid FileError.notFound.message)

/-- Reads bytes of the process.  Reading none always succeeds. -/
def read (memory : ProcessMemory) (address : Address) (length : Nat) :
    Except MemoryError (List UInt8) :=
  match memory.process with
  | none => .error .noProcess
  | some _ =>
    if length = 0 then .ok [] else .error (.readFailed address "Input/output error (os error 5)")

end ProcessMemory

/-- The target of a live process described by the profile at a path.  The profile is loaded before
the process is opened. -/
def Target.ofProcess (readText : String → Except FileError String) (alive : UInt32 → Bool)
    (pid : UInt32) (path : String) : Except ProfileError Target := do
  let profile ← Profile.load readText path
  let memory ← ProcessMemory.openProcess alive pid
  return ⟨profile, memory.read⟩

/-! ## Stopping a process -/

/-- Why a process cannot be stopped or let go. -/
inductive AttachError where
  | attachFailed (pid : UInt32) (reason : String)
  | notAttached
  | unsupported
  deriving DecidableEq, Repr

/-- The text of the error. -/
def AttachError.message : AttachError → String
  | .attachFailed pid reason => "Failed to attach to process " ++ toString pid ++ ": " ++ reason
  | .notAttached => "Not attached to any process"
  | .unsupported => "Process pausing is not supported on this platform"

/-- The process that is stopped, if there is one. -/
structure Attachment where
  process : Option UInt32
  deriving DecidableEq, Repr

namespace Attachment

/-- No process stopped. -/
def idle : Attachment := ⟨none⟩

/-- Whether a process is stopped. -/
def isActive (attachment : Attachment) : Bool := attachment.process.isSome

/-- Stops a process. -/
def attach (alive : UInt32 → Bool) (pid : UInt32) : Except AttachError Attachment :=
  if alive pid then .error .unsupported
  else .error (.attachFailed pid "ESRCH: No such process")

/-- Lets the stopped process go. -/
def detach (attachment : Attachment) : Except AttachError Attachment :=
  match attachment.process with
  | some _ => .ok idle
  | none => .error .notAttached

end Attachment

end KernelScope
