import KernelScope.Json
import KernelScope.Text.Hex

/-!
# Writing JSON

Each item and each member stands on a line of its own, two spaces deeper than what holds it; an
empty array or object takes no line.  Only quotes, backslashes and control characters are escaped.
-/

set_option autoImplicit false

namespace KernelScope.Json

/-- What a character is written as inside a string. -/
def escapeChar (c : Char) : List Char :=
  if c = '"' then ['\\', '"']
  else if c = '\\' then ['\\', '\\']
  else if c = '\x08' then ['\\', 'b']
  else if c = '\x0c' then ['\\', 'f']
  else if c = '\n' then ['\\', 'n']
  else if c = '\r' then ['\\', 'r']
  else if c = '\t' then ['\\', 't']
  else if c.toNat < 0x20 then ['\\', 'u', '0', '0'] ++ Hex.byteDigits (UInt8.ofNat c.toNat)
  else [c]

/-- The literal of a string.  One without a text is written with an unpaired surrogate. -/
def quote : Option String → List Char
  | some text => '"' :: text.toList.flatMap escapeChar ++ ['"']
  | none => ['"', '\\', 'u', 'd', '8', '0', '0', '"']

/-- The start of a new line at the given depth. -/
def newLine (depth : Nat) : List Char := '\n' :: List.replicate (2 * depth) ' '

mutual

/-- A value written at the given depth. -/
def render (depth : Nat) : Json → List Char
  | .null => ['n', 'u', 'l', 'l']
  | .bool true => ['t', 'r', 'u', 'e']
  | .bool false => ['f', 'a', 'l', 's', 'e']
  | .number literal => literal.toList
  | .string text => quote text
  | .array [] => ['[', ']']
  | .array (item :: items) =>
    '[' :: newLine (depth + 1) ++ render (depth + 1) item ++ renderItems (depth + 1) items ++
      newLine depth ++ [']']
  | .object [] => ['{', '}']
  | .object ((key, value) :: members) =>
    '{' :: newLine (depth + 1) ++ quote key ++ [':', ' '] ++ render (depth + 1) value ++
      renderMembers (depth + 1) members ++ newLine depth ++ ['}']

/-- The items of an array behind the first. -/
def renderItems (depth : Nat) : List Json → List Char
  | [] => []
  | item :: items => ',' :: newLine depth ++ render depth item ++ renderItems depth items

/-- The members of an object behind the first. -/
def renderMembers (depth : Nat) : List (Option String × Json) → List Char
  | [] => []
  | (key, value) :: members =>
    ',' :: newLine depth ++ quote key ++ [':', ' '] ++ render depth value ++
      renderMembers depth members

end

/-- The text of a value. -/
def pretty (value : Json) : String := String.ofList (render 0 value)

end KernelScope.Json
