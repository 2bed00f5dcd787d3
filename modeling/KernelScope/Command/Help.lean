import KernelScope.Text.Style

/-!
# Help

The text that tells what commands there are.
-/

set_option autoImplicit false

namespace KernelScope.Help

/-- One command: how it is typed, the blanks behind that, and what it does. -/
structure Entry where
  typed : String
  gap : Nat
  meaning : String
  deriving DecidableEq, Repr

/-- A group of commands under a heading. -/
structure Section where
  heading : String
  entries : List Entry
  deriving DecidableEq, Repr

/-- All commands. -/
def sections : List Section := [
  ⟨"Samples:", [
    ⟨"samples", 14, "List samples"⟩,
    ⟨"run <name> [args]", 2, "Run a sample"⟩,
    ⟨"source <name>", 8, "Show sample source"⟩]⟩,
  ⟨"Objects:", [
    ⟨"obj <path>", 11, "Resolve an object path"⟩,
    ⟨"ls [path]", 12, "List a directory"⟩,
    ⟨"drv <name>", 11, "Driver dispatch table"⟩,
    ⟨"ssdt", 17, "System service table"⟩]⟩,
  ⟨"Memory:", [
    ⟨"ln <addr>", 12, "Nearest symbol"⟩,
    ⟨"db <addr> [len]", 5, "Hex dump"⟩]⟩,
  ⟨"Other:", [
    ⟨"?", 20, "Show this help"⟩,
    ⟨"q", 20, "Quit"⟩]⟩]

/-- The line of one command. -/
def entryLine (coloured : Bool) (entry : Entry) : String :=
  "  " ++ Text.Style.green.paint coloured entry.typed ++
    String.ofList (List.replicate entry.gap ' ') ++ entry.meaning ++ "\n"

/-- The lines of a group. -/
def sectionText (coloured : Bool) (group : Section) : String :=
  "\n" ++ Text.Style.boldYellow.paint coloured group.heading ++ "\n" ++
    String.join (group.entries.map (entryLine coloured))

/-- The whole text. -/
def text (coloured : Bool) : String :=
  Text.Style.boldCyan.paint coloured "kdwalk Commands" ++ "\n" ++
    Text.Style.cyan.paint coloured (String.ofList (List.replicate 50 '═')) ++ "\n" ++
    String.join (sections.map (sectionText coloured))

end KernelScope.Help
