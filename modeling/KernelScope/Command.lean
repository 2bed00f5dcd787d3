import KernelScope.Address.Text

/-!
# Commands

What can be asked of a target, and how it is typed on a line.  The first word says what to do and the
following ones with what; words that are not needed are passed over.  A line that is no command is
kept, without the blanks around it.
-/

set_option autoImplicit false

namespace KernelScope

/-- A command of the shell. -/
inductive Command where
  /-- list the samples -/
  | samples
  /-- run a sample -/
  | run (name : String) (arguments : List String)
  /-- show the source of a sample -/
  | source (name : String)
  /-- find the object at a path -/
  | object (path : String)
  /-- list the directory at a path, or the root -/
  | list (path : Option String)
  /-- show the service table -/
  | services
  /-- show the routines of a driver -/
  | driver (name : String)
  /-- show the symbol nearest to an address -/
  | symbol (address : Address)
  /-- show the bytes at an address -/
  | dump (address : Address) (length : UInt64)
  | help
  | quit
  /-- a line that is none of these -/
  | unknown (line : String)
  deriving DecidableEq, Repr

namespace Command

/-- The number of bytes shown where none is given. -/
def defaultDumpLength : UInt64 := 0x40

/-- The command to show bytes, of which the arguments give the address and perhaps the number. -/
def dumpOf? : List String → Option Command
  | [] => none
  | [address] => (Address.ofText address).toOption.map fun a => .dump a defaultDumpLength
  | address :: length :: _ => do
    return .dump (← (Address.ofText address).toOption) (← (Address.ofText length).toOption)

/-- The command that a first word and its arguments make. -/
def ofWords? (verb : String) (arguments : List String) : Option Command :=
  match verb with
  | "samples" | "list" => some .samples
  | "run" => arguments.head?.map fun name => .run name arguments.tail
  | "source" | "src" => arguments.head?.map .source
  | "obj" | "object" => arguments.head?.map .object
  | "ls" | "dir" => some (.list arguments.head?)
  | "ssdt" => some .services
  | "drv" | "drvobj" => arguments.head?.map .driver
  | "ln" => arguments.head?.bind fun address => (Address.ofText address).toOption.map .symbol
  | "db" => dumpOf? arguments
  | "?" | "help" => some .help
  | "q" | "quit" | "exit" => some .quit
  | _ => none

/-- Reads a line. -/
def ofLine (line : String) : Command :=
  match Text.words line with
  | [] => .unknown (Text.trim line)
  | verb :: arguments => (ofWords? verb arguments).getD (.unknown (Text.trim line))

end Command

end KernelScope
