import KernelScope.Command.Execute
import KernelScope.CommandLine.Arguments
import KernelScope.Process
import KernelScope.Snapshot

/-!
# Running the program

One run of the program loads a target and executes one command on it.  What the run can see of its
surroundings, the files and which processes are alive, is given; what it leaves behind is a text, a
message in case of failure, and an exit code.
-/

set_option autoImplicit false

namespace KernelScope

namespace CommandLine

/-- What a run can see of its surroundings. -/
structure Surroundings where
  readText : String → Except FileError String
  alive : UInt32 → Bool

/-! ## Errors -/

/-- Why a run failed. -/
inductive RunError where
  /-- neither a snapshot nor a process with a profile was given -/
  | noTarget
  | snapshot (path : String) (error : ProfileError)
  | process (pid : UInt32) (error : ProfileError)
  | pause (error : AttachError)
  | badAddress (text : String) (error : NumberError)
  | command (error : CommandError)
  deriving DecidableEq, Repr

/-- The text of the error, with what it came from. -/
def RunError.message : RunError → String
  | .noTarget => "no target: pass --snapshot or --pid with --profile"
  | .snapshot path error => path ++ " - load failed: " ++ error.fullMessage
  | .process pid error => "process " ++ toString pid ++ " - load failed: " ++ error.fullMessage
  | .pause error => error.message
  | .badAddress text error => "bad address '" ++ text ++ "': " ++ error.message
  | .command error => error.message

/-- The fault of arithmetic behind the error, if there is one. -/
def RunError.overflow? : RunError → Option Overflow
  | .command error => error.overflow?
  | _ => none

instance : MonadLift (Except CommandError) (Except RunError) where
  monadLift result := result.mapError .command

/-- A report of a command as one of a run. -/
def ofReport {α : Type} (report : Report CommandError α) : Report RunError α :=
  ⟨report.text, report.outcome.mapError .command⟩

/-! ## Running -/

/-- The command that is executed, or none for the shell. -/
def Verb.command? : Verb → Except RunError (Option Command)
  | .samples => .ok (some .samples)
  | .run name arguments => .ok (some (.run name arguments))
  | .source name => .ok (some (.source name))
  | .object path => .ok (some (.object path))
  | .list path => .ok (some (.list path))
  | .services => .ok (some .services)
  | .driver name => .ok (some (.driver name))
  | .symbol text =>
    match Address.ofText text with
    | .ok address => .ok (some (.symbol address))
    | .error error => .error (.badAddress text error)
  | .shell => .ok none

/-- Stops the process if that is asked for. -/
def pauseProcess (surroundings : Surroundings) (options : Options) : Except RunError Attachment :=
  match options.pause, options.process with
  | true, some pid => (Attachment.attach surroundings.alive pid).mapError .pause
  | _, _ => .ok .idle

/-- Loads the target that the options name. -/
def loadTarget (surroundings : Surroundings) (options : Options) : Except RunError Target :=
  match options.snapshot, options.process, options.profile with
  | some path, _, _ =>
    let loaded : Except ProfileError Target := do
      let snapshot ← Snapshot.load surroundings.readText path
      return .ofMemory snapshot.profile (← snapshot.memory)
    loaded.mapError (.snapshot path)
  | none, some pid, some path =>
    (Target.ofProcess surroundings.readText surroundings.alive pid path).mapError (.process pid)
  | _, _, _ => .error .noTarget

/-- What is left to do at the end of a run. -/
inductive Ending where
  | finished
  /-- the shell takes over with the target -/
  | shell (target : Target)

/-- Runs a command that needs a target. -/
def runOnTarget (surroundings : Surroundings) (invocation : Invocation) : Report RunError Ending := do
  let _ ← pauseProcess surroundings invocation.options
  let target ← loadTarget surroundings invocation.options
  match ← invocation.verb.command? with
  | none => return .shell target
  | some command =>
    let _ ← ofReport (command.execute target false)
    return .finished

/-- Runs a command.  The samples can be listed and shown without a target. -/
def Invocation.run (surroundings : Surroundings) (invocation : Invocation) :
    Report RunError Ending :=
  match invocation.verb with
  | .samples => do
    .write (Sample.listing false)
    return .finished
  | .source name => do
    ofReport (Sample.showSource name)
    return .finished
  | _ => runOnTarget surroundings invocation

/-! ## Results -/

/-- What a run leaves behind. -/
structure Result where
  exitCode : UInt8
  output : String
  /-- the message in case of failure -/
  message : Option String
  deriving DecidableEq, Repr

/-- The version that the program tells. -/
def versionLine : String := "kdwalk 0.1.0\n"

/-- The line that tells how the program is called. -/
def usageLine : String := "Usage: kdwalk [OPTIONS] <COMMAND>\n"

/-- The line that reports a failure. -/
def failureLine (error : RunError) : String := "[!] " ++ error.message ++ "\n"

/-- What a finished run leaves behind.  A fault of arithmetic ends it with a code of its own. -/
def Result.ofReport {α : Type} (report : Report RunError α) : Result :=
  match report.outcome with
  | .ok _ => ⟨0, report.text, none⟩
  | .error error =>
    if error.overflow?.isSome then ⟨101, report.text, none⟩ else ⟨1, report.text, some (failureLine error)⟩

/-- What the program leaves behind when it is called with the arguments, the shell aside. -/
def Result.ofArguments (surroundings : Surroundings) (arguments : List String) : Result :=
  match Request.ofArguments arguments with
  | .invoke invocation => .ofReport (invocation.run surroundings)
  | .version => ⟨0, versionLine, none⟩
  | .help => ⟨0, usageLine, none⟩
  | .misuse => ⟨2, "", some usageLine⟩

end CommandLine

end KernelScope
