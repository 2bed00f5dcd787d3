import KernelScope.Command.Inspect
import KernelScope.Sample.Source
import KernelScope.Text.Style

/-!
# Samples

A sample is a small walk over a kernel that is run by name and can show its own source.
-/

set_option autoImplicit false

namespace KernelScope

/-- The samples that come with the program. -/
inductive Sample where
  /-- shows the service table -/
  | services
  /-- shows the routines of drivers -/
  | drivers
  deriving DecidableEq, Repr

namespace Sample

/-- All samples, in the order in which they are listed. -/
def all : List Sample := [.services, .drivers]

/-- The name that a sample is run by. -/
def name : Sample → String
  | .services => "km.ssdt"
  | .drivers => "km.drvobj"

/-- What a sample does, in a few words. -/
def description : Sample → String
  | .services => "Get kernel service"
  | .drivers => "Get driver object"

/-- The source of a sample. -/
def source : Sample → String
  | .services => serviceSource
  | .drivers => driverSource

/-- The sample of a name. -/
def named (name : String) : Except CommandError Sample :=
  match all.find? fun sample => sample.name = name with
  | some sample => .ok sample
  | none => .error (.unknownSample name)

/-- The drivers that are shown when none is named. -/
def defaultDrivers : List String := ["afd", "ntfs"]

/-- Runs a sample on a kernel. -/
def runOn (target : Target) (arguments : List String) : Sample → Report CommandError Unit
  | .services => Inspect.services target
  | .drivers => Inspect.drivers target (if arguments.isEmpty then defaultDrivers else arguments)

/-- Runs the sample of a name, unless the target is no kernel. -/
def run (target : Target) (name : String) (arguments : List String) :
    Report CommandError Unit := do
  let sample ← named name
  if target.profile.kernel then sample.runOn target arguments
  else .write "not a kernel debugging\n"

/-- Shows the source of the sample of a name. -/
def showSource (name : String) : Report CommandError Unit := do
  let sample ← named name
  .write sample.source

/-- The line that lists a sample. -/
def listLine (coloured : Bool) (sample : Sample) : String :=
  "  " ++ sample.description ++ String.ofList (List.replicate (28 - sample.description.length) ' ') ++
    " run: " ++ Text.Style.green.paint coloured ("kdwalk run " ++ sample.name) ++
    "  source: " ++ Text.Style.green.paint coloured ("kdwalk source " ++ sample.name) ++ "\n"

/-- The list of all samples. -/
def listing (coloured : Bool) : String :=
  Text.Style.bold.paint coloured "Kernel mode" ++ "\n" ++
    String.join (all.map (listLine coloured)) ++ "\n"

end Sample

end KernelScope
