import KernelScope.Json
import KernelScope.Json.Token

/-!
# Reading JSON

The reader takes one token at a time and keeps the arrays and objects that are still open on a list,
the innermost first.  It needs no recursion, so values may be nested to any depth.
-/

set_option autoImplicit false

namespace KernelScope.Json

/-- An array or object that is not closed yet, with what it has so far in reverse. -/
inductive Frame where
  | items (done : List Json)
  | members (done : List (Option String × Json))
  /-- an object of which the value of `key` is being read -/
  | member (done : List (Option String × Json)) (key : Option String)

/-- What may come next. -/
inductive Phase where
  /-- a value -/
  | value
  /-- a first item, or the end of the array -/
  | firstItem
  /-- a key -/
  | key
  /-- a first key, or the end of the object -/
  | firstKey
  /-- the colon behind a key -/
  | colon
  /-- a comma, or the end of the array or object -/
  | separator
  /-- nothing: the value is complete -/
  | complete (value : Json)

/-- The open arrays and objects, the innermost first, and what may come next. -/
structure Reader where
  frames : List Frame
  phase : Phase

namespace Reader

/-- The state before a text. -/
def start : Reader := ⟨[], .value⟩

/-- The state behind a complete value inside the given frames. -/
def give (value : Json) : List Frame → Option Reader
  | [] => some ⟨[], .complete value⟩
  | .items done :: frames => some ⟨.items (value :: done) :: frames, .separator⟩
  | .member done key :: frames => some ⟨.members ((key, value) :: done) :: frames, .separator⟩
  | .members _ :: _ => none

/-- Reads a token where a value may stand. -/
def stepValue (frames : List Frame) : Token → Option Reader
  | .null => give .null frames
  | .bool value => give (.bool value) frames
  | .number literal => give (.number literal) frames
  | .string text => give (.string text) frames
  | .openArray => some ⟨.items [] :: frames, .firstItem⟩
  | .openObject => some ⟨.members [] :: frames, .firstKey⟩
  | _ => none

/-- Reads the token that closes the innermost array or object. -/
def stepClose : List Frame → Token → Option Reader
  | .items done :: frames, .closeArray => give (.array done.reverse) frames
  | .members done :: frames, .closeObject => give (.object done.reverse) frames
  | _, _ => none

/-- Reads a key. -/
def stepKey : List Frame → Token → Option Reader
  | .members done :: frames, .string key => some ⟨.member done key :: frames, .colon⟩
  | _, _ => none

/-- Reads a comma, or the end of the innermost array or object. -/
def stepSeparator : List Frame → Token → Option Reader
  | .items done :: frames, .comma => some ⟨.items done :: frames, .value⟩
  | .members done :: frames, .comma => some ⟨.members done :: frames, .key⟩
  | frames, token => stepClose frames token

/-- Reads a token. -/
def step (reader : Reader) (token : Token) : Option Reader :=
  match reader.phase, token with
  | .value, token => stepValue reader.frames token
  | .firstItem, .closeArray => stepClose reader.frames token
  | .firstItem, token => stepValue reader.frames token
  | .key, token => stepKey reader.frames token
  | .firstKey, .closeObject => stepClose reader.frames token
  | .firstKey, token => stepKey reader.frames token
  | .colon, .colon => some ⟨reader.frames, .value⟩
  | .colon, _ => none
  | .separator, token => stepSeparator reader.frames token
  | .complete _, _ => none

/-- The value at the end of a text. -/
def finish (reader : Reader) : Option Json :=
  match reader.phase with
  | .complete value => some value
  | _ => none

end Reader

/-- The value that the tokens spell. -/
def ofTokens? (tokens : List Token) : Option Json :=
  (tokens.foldlM Reader.step Reader.start).bind Reader.finish

/-- The value that a text spells. -/
def parse? (text : String) : Option Json :=
  (scan text.toList).bind ofTokens?

end KernelScope.Json
