import KernelScope.Address
import KernelScope.Json
import KernelScope.OrderedMap

/-!
# Data in JSON

How the parts of a profile are laid down in JSON.  A record is an object, or an array of its fields
in a fixed order; a table is an object with any keys.  Whatever a record or table consists of has to
be readable text, fields that a record does not know are passed over, and a record may not give one
of its own fields twice.
-/

set_option autoImplicit false

namespace KernelScope.Json

/-! ## Reading -/

/-- The number that a row of decimal digits stands for. -/
def natural? (literal : List Char) : Option Nat :=
  if literal.all Char.isDigit then some (Nat.ofDigitChars 10 literal 0) else none

/-- A number that is a 64-bit word, written as digits only. -/
def word? : Json → Option UInt64
  | .number literal =>
    (natural? literal.toList).bind fun n =>
      if n < wordLimit then some (UInt64.ofNat n) else none
  | _ => none

/-- A string that denotes a text. -/
def text? : Json → Option String
  | .string text => text
  | _ => none

/-- A truth value. -/
def flag? : Json → Option Bool
  | .bool value => some value
  | _ => none

/-- The items of an array. -/
def items? : Json → Option (List Json)
  | .array items => some items
  | _ => none

/-- The members with their keys, if each key denotes a text. -/
def readableMembers? (members : List (Option String × Json)) : Option (List (String × Json)) :=
  members.mapM fun member => member.1.map fun key => (key, member.2)

/-- The one value that the members give a field, or none; a field may not have two. -/
def fieldValue? (members : List (String × Json)) (field : String) : Option (Option Json) :=
  match members.filter fun member => member.1 == field with
  | [] => some none
  | [member] => some (some member.2)
  | _ => none

/-- The values of the named fields of a record, where it gives them. -/
def record? (fields : List String) : Json → Option (List (Option Json))
  | .object members =>
    (readableMembers? members).bind fun members => fields.mapM (fieldValue? members)
  | .array items =>
    if items.length ≤ fields.length then
      some (items.map some ++ List.replicate (fields.length - items.length) none)
    else none
  | _ => none

/-- A field that may be left out, and then has the value `default`. -/
def optional {α : Type} (read : Json → Option α) (default : α) : Option Json → Option α
  | some value => read value
  | none => some default

/-- A table with values of one kind, of which the last with a key counts. -/
def table? {α : Type} (read : Json → Option α) : Json → Option (OrderedMap String α)
  | .object members =>
    (readableMembers? members).bind fun members =>
      (members.mapM fun member => (read member.2).map fun value => (member.1, value)).map
        OrderedMap.ofList
  | _ => none

/-! ## Writing -/

/-- A word as decimal digits. -/
def ofWord (word : UInt64) : Json := .number (String.ofList (Nat.toDigits 10 word.toNat))

/-- A text as a string. -/
def ofText (text : String) : Json := .string (some text)

/-- A record as an object with the fields in the given order. -/
def ofRecord (fields : List (String × Json)) : Json :=
  .object (fields.map fun field => (some field.1, field.2))

/-- A table as an object with its keys in order. -/
def ofTable {α : Type} (write : α → Json) (table : OrderedMap String α) : Json :=
  .object (table.toList.map fun pair => (some pair.1, write pair.2))

end KernelScope.Json
