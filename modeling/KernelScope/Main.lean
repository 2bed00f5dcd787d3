import KernelScope.CommandLine.Run
import KernelScope.Prompt

/-!
# The program

The outer layer: it reads the files and asks the system about processes, lets the library do the work
and prints what comes of it.
-/

set_option autoImplicit false

namespace KernelScope.CommandLine

/-- The fault of the system as an error of a file. -/
def fileErrorOf : IO.Error → FileError
  | .noFileOrDirectory .. => .notFound
  | .inappropriateType _ code _ => if code = 20 ∨ code = -20 then .notFolder else .isFolder
  | .invalidArgument .. => .nameTooLong
  | _ => .isFolder

/-- The text of a file. -/
def readFileText (path : String) : IO (Except FileError String) := do
  try
    let bytes ← IO.FS.readBinFile path
    match String.fromUTF8? bytes with
    | some text => return .ok text
    | none => return .error .notText
  catch error => return .error (fileErrorOf error)

/-- Whether the system knows a process of this number. -/
def isAlive (pid : UInt32) : IO Bool := do
  try
    discard <| IO.FS.Handle.mk ("/proc/" ++ toString pid ++ "/mem") .read
    return true
  catch
    | .noFileOrDirectory .. => return false
    | _ => return true

/-- Looks up what a run with the options can see. -/
def observe (options : Options) : IO Surroundings := do
  let paths := options.snapshot.toList ++ options.profile.toList
  let texts ← paths.mapM fun path => return (path, ← readFileText path)
  let alive ← options.process.toList.mapM fun pid => return (pid, ← isAlive pid)
  return {
    readText := fun path => (texts.lookup path).getD (.error .notFound)
    alive := fun pid => (alive.lookup pid).getD false }

/-- Reads lines and executes them until one of them quits or the input ends. -/
partial def shellLoop (target : Target) (prompt : String) : IO Unit := do
  IO.print prompt
  (← IO.getStdout).flush
  let line ← (← IO.getStdin).getLine
  if line.isEmpty then
    IO.println "\n[*] Interrupted"
  else if (Text.trim line).isEmpty then
    shellLoop target prompt
  else
    let report := (Command.ofLine line).execute target false
    IO.print report.text
    match report.outcome with
    | .ok .quit => IO.println "[*] Shutting down..."
    | .ok .goOn => shellLoop target prompt
    | .error error =>
      IO.println ("[!] " ++ error.message)
      shellLoop target prompt

/-- The shell on a target. -/
def shell (target : Target) : IO Unit := do
  IO.println "kdwalk shell - Type '?' for help, 'q' to quit"
  match Prompt.ofProfile target.profile with
  | .ok prompt => shellLoop target (prompt.left ++ Prompt.indicator)
  | .error fault => IO.eprintln fault.message

end KernelScope.CommandLine

open KernelScope CommandLine in
/-- Runs the program. -/
def main (arguments : List String) : IO UInt32 := do
  let request := Request.ofArguments arguments
  let surroundings ← match request with
    | .invoke invocation => observe invocation.options
    | _ => observe .none
  let result := Result.ofArguments surroundings arguments
  IO.print result.output
  if let some message := result.message then
    IO.eprint message
  if let .invoke invocation := request then
    if let .ok (.shell target) := (invocation.run surroundings).outcome then
      shell target
  return result.exitCode.toUInt32
