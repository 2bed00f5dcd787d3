/-!
# JSON values

Profiles and snapshots are kept as JSON.  A value of this type is what a JSON text says, down to the
order and the repetition of the members of an object.  A string literal may be well formed and still
denote no text, when its escapes leave half of a surrogate pair; such a literal may stand where it
is not looked at, and so it is a value too.
-/

set_option autoImplicit false

namespace KernelScope

/-- A JSON value. -/
inductive Json where
  | null
  | bool (value : Bool)
  /-- a number, as it is written -/
  | number (literal : String)
  /-- a string, or `none` for a literal with an unpaired surrogate -/
  | string (text : Option String)
  | array (items : List Json)
  /-- the members in the order in which they are written; keys may repeat -/
  | object (members : List (Option String × Json))
  deriving Repr

end KernelScope
