import KernelScope.Command
import KernelScope.Command.Help
import KernelScope.Sample

/-!
# Executing commands

What each command does to a target, as a report of what it writes.
-/

set_option autoImplicit false

namespace KernelScope

/-- Whether the shell goes on after a command. -/
inductive Flow where
  | goOn
  | quit
  deriving DecidableEq, Repr

namespace Command

/-- What is shown for a line that is no command. -/
def unknownText (coloured : Bool) (line : String) : String :=
  Text.Style.red.paint coloured "[!]" ++ " Unknown command: '" ++ line ++ "'\n" ++
    "    Type '?' for help\n"

/-- What a command shows. -/
def output (target : Target) (coloured : Bool) : Command → Report CommandError Unit
  | .samples => .write (Sample.listing coloured)
  | .run name arguments => Sample.run target name arguments
  | .source name => Sample.showSource name
  | .object path => Inspect.object target path
  | .list path => Inspect.directory target (path.getD ObjectPath.root)
  | .services => Inspect.services target
  | .driver name => Inspect.drivers target [name]
  | .symbol address => Inspect.symbol target address
  | .dump address length => Inspect.dump target address length
  | .help => .write (Help.text coloured)
  | .quit => .write ""
  | .unknown line => .write (unknownText coloured line)

/-- Executes a command, and tells whether the shell goes on. -/
def execute (command : Command) (target : Target) (coloured : Bool) : Report CommandError Flow := do
  command.output target coloured
  return if command = .quit then .quit else .goOn

end Command

end KernelScope
