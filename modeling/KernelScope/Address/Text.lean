import KernelScope.Address
import KernelScope.Text.Blank

/-!
# Addresses in commands

An address is typed with the mark `0x`, as more than four digits of base sixteen, or in decimal.
Backticks may stand anywhere in it; they are how a long address is cut into two words.
-/

set_option autoImplicit false

namespace KernelScope

/-- Why a text is not a 64-bit number. -/
inductive NumberError where
  | empty
  | invalidDigit
  | tooLarge
  deriving DecidableEq, Repr

/-- The text of the error. -/
def NumberError.message : NumberError → String
  | .empty => "cannot parse integer from empty string"
  | .invalidDigit => "invalid digit found in string"
  | .tooLarge => "number too large to fit in target type"

namespace Address

/-- The number after one more digit. -/
def addDigit (radix total : Nat) (c : Char) : Except NumberError Nat :=
  match Hex.digitValue? c with
  | none => .error .invalidDigit
  | some digit =>
    if radix ≤ digit then .error .invalidDigit
    else if wordLimit ≤ radix * total + digit then .error .tooLarge
    else .ok (radix * total + digit)

/-- The number that digits spell, from left to right; the first fault counts. -/
def ofDigits (radix : Nat) (digits : List Char) : Except NumberError Address :=
  (digits.foldlM (addDigit radix) 0).map UInt64.ofNat

/-- The number that digits spell behind an optional plus sign. -/
def ofSignedDigits (radix : Nat) : List Char → Except NumberError Address
  | [] => .error .empty
  | ['+'] => .error .invalidDigit
  | '+' :: digits => ofDigits radix digits
  | digits => ofDigits radix digits

/-- Whether the characters are more than four digits of base sixteen. -/
def isBareHex (cs : List Char) : Bool :=
  4 < cs.length && cs.all fun c => (Hex.digitValue? c).isSome

/-- Reads an address without blanks around it and without backticks. -/
def ofPlain : List Char → Except NumberError Address
  | '0' :: 'x' :: digits => ofSignedDigits 16 digits
  | '0' :: 'X' :: digits => ofSignedDigits 16 digits
  | cs => ofSignedDigits (if isBareHex cs then 16 else 10) cs

/-- Reads an address as it is typed. -/
def ofText (text : String) : Except NumberError Address :=
  ofPlain ((Text.trimBlanks text.toList).filter fun c => c != '\x60')

end Address

end KernelScope
