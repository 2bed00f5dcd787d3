import KernelScope.Command.Inspect
import KernelScope.ObjectTree.Question
import KernelScope.Snapshot

/-!
# Sessions

A session keeps a target open whose memory can be patched between questions.  Its object manager is
probed once, when the objects are opened; the layout and the cookie found then stay in use, and so
does the type of directories from the first time it is needed.
-/

set_option autoImplicit false

namespace KernelScope

/-- A profile, the memory as it is now, and the objects if they are open. -/
structure Session where
  profile : Profile
  memory : Memory
  objects : Option OpenObjects
  deriving DecidableEq, Repr

namespace Session

/-- A session in which no objects are open. -/
def ofMemory (profile : Profile) (memory : Memory) : Session := ⟨profile, memory, none⟩

/-- A session on a snapshot. -/
def ofSnapshot (snapshot : Snapshot) : Except ProfileError Session :=
  snapshot.memory.map (ofMemory snapshot.profile)

/-- The target as it is now. -/
def target (session : Session) : Target := .ofMemory session.profile session.memory

/-- Maps a region into the memory. -/
def map (session : Session) (base : Address) (bytes : Array UInt8) : Except MemoryError Session :=
  (session.memory.map base bytes).map fun memory => { session with memory }

/-- Overwrites bytes of the memory. -/
def write (session : Session) (address : Address) (bytes : Array UInt8) :
    Except MemoryError Session :=
  (session.memory.write address bytes).map fun memory => { session with memory }

/-- Opens the objects anew; when that fails, none are open. -/
def openObjects (session : Session) : Except TargetError Unit × Session :=
  match ObjectManager.probe session.target with
  | .ok manager => (.ok (), { session with objects := some ⟨manager, none⟩ })
  | .error error => (.error error, { session with objects := none })

/-- Asks the open objects a question; there is no answer if none are open. -/
def ask (session : Session) (question : ObjectTree.Question) :
    Option (Except CommandError ObjectTree.Answer × Session) :=
  session.objects.map fun objects =>
    let (answer, after) := objects.run ((objects.manager.cachedTree session.target).ask question)
    (answer, { session with objects := some after })

/-- Shows the routines of a driver, found through the open objects. -/
def majorFunctions (session : Session) (name : String) :
    Option (Report CommandError Unit × Session) :=
  session.objects.map fun objects =>
    let path := Inspect.driverPath name
    let (found, after) := objects.lookup session.target path
    (Inspect.majorFunctions session.target path found, { session with objects := some after })

end Session

end KernelScope
