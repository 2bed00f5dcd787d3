/-!
# Hexadecimal text

Addresses are written without leading zeros, bytes as two digits each; both in lower case.  Reading
bytes takes digits of either case and says where the first fault stands.
-/

set_option autoImplicit false

namespace KernelScope.Hex

/-! ## Numbers -/

/-- The digits of `n` in base sixteen, without leading zeros. -/
def digits (n : Nat) : String := String.ofList (Nat.toDigits 16 n)

/-- The digits of `n` after `0x`. -/
def prefixed (n : Nat) : String := "0x" ++ digits n

/-- The digits of `n`, with zeros before them up to the given width. -/
def padded (width n : Nat) : String := String.ofList ((Nat.toDigits 16 n).leftpad width '0')

/-- The value of an ASCII digit of base sixteen, in either case. -/
def digitValue? (c : Char) : Option Nat :=
  let code := c.toNat
  if 0x30 ≤ code ∧ code ≤ 0x39 then some (code - 0x30)
  else if 0x61 ≤ code ∧ code ≤ 0x66 then some (code - 0x61 + 10)
  else if 0x41 ≤ code ∧ code ≤ 0x46 then some (code - 0x41 + 10)
  else none

/-! ## Bytes -/

/-- The two digits of a byte. -/
def byteDigits (byte : UInt8) : List Char :=
  [Nat.digitChar (byte.toNat / 16), Nat.digitChar (byte.toNat % 16)]

/-- The digits of all bytes, without anything between them. -/
def ofBytes (bytes : List UInt8) : String := String.ofList (bytes.flatMap byteDigits)

/-- Why a text is not a row of bytes. -/
inductive BytesError where
  /-- a digit is left without a second one -/
  | oddLength
  /-- the byte at `position` of the text's UTF-8 encoding is not a digit -/
  | invalidDigit (byte : UInt8) (position : Nat)
  deriving DecidableEq, Repr

/-- The number that a byte of text stands for as a digit. -/
def digitOfByte (byte : UInt8) (position : Nat) : Except BytesError Nat :=
  match digitValue? (Char.ofNat byte.toNat) with
  | some value => .ok value
  | none => .error (.invalidDigit byte position)

/-- Reads the digits two by two; `position` counts the digits before them. -/
def pairsToBytes (position : Nat) : List UInt8 → Except BytesError (List UInt8)
  | high :: low :: rest => do
    let h ← digitOfByte high position
    let l ← digitOfByte low (position + 1)
    let bytes ← pairsToBytes (position + 2) rest
    return UInt8.ofNat (16 * h + l) :: bytes
  | _ => .ok []

/-- Reads a text of digits as bytes.  An odd number of digits is reported before any fault among
them. -/
def toBytes (text : String) : Except BytesError (List UInt8) :=
  let encoded := text.toList.flatMap String.utf8EncodeChar
  if encoded.length % 2 = 1 then .error .oddLength else pairsToBytes 0 encoded

/-! ## Error texts -/

/-- Whether a code point below 256 is shown as it is between quotes. -/
def isShown (code : Nat) : Bool :=
  (0x20 ≤ code && code < 0x7F) || (0xA1 ≤ code && code ≠ 0xAD)

/-- A byte shown as the character of that code point, between quotes, escaped where it cannot be
seen. -/
def quotedByte (byte : UInt8) : String :=
  let code := byte.toNat
  let body :=
    if code = 0 then "\\0"
    else if code = 0x09 then "\\t"
    else if code = 0x0A then "\\n"
    else if code = 0x0D then "\\r"
    else if code = 0x27 then "\\'"
    else if code = 0x5C then "\\\\"
    else if isShown code then String.singleton (Char.ofNat code)
    else "\\u\x7b" ++ digits code ++ "\x7d"
  "'" ++ body ++ "'"

/-- The text of the error. -/
def BytesError.message : BytesError → String
  | .oddLength => "Odd number of digits"
  | .invalidDigit byte position =>
    "Invalid character " ++ quotedByte byte ++ " at position " ++ toString position

end KernelScope.Hex
