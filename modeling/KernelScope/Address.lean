import KernelScope.Text.Hex

/-!
# Addresses

An address is a 64-bit word.  Where a record's field is found by adding its offset, the sum has to
stay in the address space: `addWords` refuses a sum that would wrap.
-/

set_option autoImplicit false

namespace KernelScope

/-- A position in the target's virtual memory. -/
abbrev Address := UInt64

/-- The number of values of a 64-bit word. -/
def wordLimit : Nat := 0x10000000000000000

/-- The most bytes that one buffer may hold. -/
def bufferLimit : Nat := 0x7FFFFFFFFFFFFFFF

/-- A size or an address that cannot be formed.  Nothing is left to do then, and the operation stops
at once. -/
inductive Overflow where
  /-- a sum does not fit 64 bits -/
  | addition
  /-- a product does not fit 64 bits -/
  | multiplication
  /-- a buffer would be larger than any may be -/
  | capacity
  deriving DecidableEq, Repr

/-- The text of the fault. -/
def Overflow.message : Overflow → String
  | .addition => "attempt to add with overflow"
  | .multiplication => "attempt to multiply with overflow"
  | .capacity => "capacity overflow"

/-- The sum of two words, if it is a word. -/
def addWords (a b : UInt64) : Except Overflow UInt64 :=
  if a.toNat + b.toNat < wordLimit then .ok (a + b) else .error .addition

/-- The product of two words, if it is a word. -/
def multiplyWords (a b : UInt64) : Except Overflow UInt64 :=
  if a.toNat * b.toNat < wordLimit then .ok (a * b) else .error .multiplication

/-- The size of a buffer for `count` items of `width` bytes. -/
def bufferSize (count width : Nat) : Except Overflow Nat :=
  if wordLimit ≤ count * width then .error .multiplication
  else if bufferLimit < count * width then .error .capacity
  else .ok (count * width)

/-- The address in base sixteen, without prefix or leading zeros. -/
def Address.digits (address : Address) : String := Hex.digits address.toNat

end KernelScope
