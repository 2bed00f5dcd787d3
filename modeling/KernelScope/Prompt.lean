import KernelScope.Target

/-!
# The prompt of the shell

The prompt tells whether the target is a kernel and how many bits its pointers have.
-/

set_option autoImplicit false

namespace KernelScope

/-- What the prompt of a target shows. -/
structure Prompt where
  kernel : Bool
  pointerBits : UInt64
  deriving DecidableEq, Repr

namespace Prompt

/-- The prompt for targets with a profile. -/
def ofProfile (profile : Profile) : Except Overflow Prompt :=
  (multiplyWords profile.pointerSize 8).map fun bits => ⟨profile.kernel, bits⟩

/-- The text at the left of the line. -/
def left (prompt : Prompt) : String :=
  "[" ++ (if prompt.kernel then "kd" else "ud") ++ ":" ++ toString prompt.pointerBits ++ "]"

/-- The text at the right of the line. -/
def right : String := ""

/-- The text in front of what is typed. -/
def indicator : String := "> "

/-- The text in front of what is typed on a further line. -/
def multiline : String := "... "

/-- The text shown while the history is searched for a term. -/
def search (found : Bool) (term : String) : String :=
  "(search: " ++ (if found then "" else "(failed) ") ++ term ++ ") "

end Prompt

end KernelScope
