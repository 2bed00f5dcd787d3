/-!
# Little-endian words

Memory is a row of bytes; a word in it has its low byte first.
-/

set_option autoImplicit false

namespace KernelScope.Bytes

/-- The number that a row of bytes stands for, the low byte first. -/
def littleEndian : List UInt8 → Nat
  | [] => 0
  | byte :: rest => byte.toNat + 256 * littleEndian rest

/-- The first `width` bytes of a number, the low byte first. -/
def ofNat : (width n : Nat) → List UInt8
  | 0, _ => []
  | width + 1, n => UInt8.ofNat n :: ofNat width (n / 256)

/-- Cuts `count` pieces of `width` elements from the front of a list. -/
def chunks {α : Type} (width : Nat) : Nat → List α → List (List α)
  | 0, _ => []
  | count + 1, items => items.take width :: chunks width count (items.drop width)

end KernelScope.Bytes
