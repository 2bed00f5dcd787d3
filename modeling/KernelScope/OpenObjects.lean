import KernelScope.Command.Error

/-!
# Objects in use

An object manager is probed once, when the objects of a target are opened.  The layout and the
cookie found then stay in use, and so does the type of directories from the first time it is needed.
-/

set_option autoImplicit false

namespace KernelScope

/-- An object manager in use: what was probed, and the type of directories if it is known. -/
structure OpenObjects where
  manager : ObjectManager
  directoryType : Option Address
  deriving DecidableEq, Repr

namespace OpenObjects

/-- What a computation on open objects comes to, and the objects after it. -/
def run {α : Type} (objects : OpenObjects)
    (computation : ExceptT LookupError ObjectManager.CacheM α) :
    Except CommandError α × OpenObjects :=
  match computation.run.run objects.directoryType with
  | .ok outcome known =>
    (CommandError.ofWalk (.ok outcome), { objects with directoryType := known })
  | .error error known =>
    (CommandError.ofWalk (.error error), { objects with directoryType := known })

/-- The object at an absolute path, and the objects after the lookup. -/
def lookup (objects : OpenObjects) (target : Target) (path : String) :
    Except CommandError (Option Address) × OpenObjects :=
  objects.run ((objects.manager.cachedTree target).lookup defaultChainLimit path)

end OpenObjects

end KernelScope
