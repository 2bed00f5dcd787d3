/-!
# Reports

A command writes text and may fail on the way.  A `Report` is what it has written by the time it
ends, and how it ends; what was written before a failure stays.
-/

set_option autoImplicit false

namespace KernelScope

/-- A text, and the result or the error behind it. -/
structure Report (ε α : Type) where
  text : String
  outcome : Except ε α

namespace Report

variable {ε α β : Type}

/-- The report that writes a text. -/
def write (text : String) : Report ε Unit := ⟨text, .ok ()⟩

/-- The report that writes nothing and ends with the given outcome. -/
def ofExcept (outcome : Except ε α) : Report ε α := ⟨"", outcome⟩

/-- The first report, and behind it the second if the first does not fail. -/
def andThen (first : Report ε α) (second : α → Report ε β) : Report ε β :=
  match first.outcome with
  | .ok value => ⟨first.text ++ (second value).text, (second value).outcome⟩
  | .error error => ⟨first.text, .error error⟩

instance : Monad (Report ε) where
  pure value := ofExcept (.ok value)
  bind := andThen

instance : MonadLift (Except ε) (Report ε) where
  monadLift := ofExcept

end Report

end KernelScope
