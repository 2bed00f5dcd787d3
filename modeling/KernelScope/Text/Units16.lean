/-!
# Text in sixteen-bit units

The kernel stores names as UTF-16.  Decoding never fails: a surrogate without its partner becomes
the replacement character.
-/

set_option autoImplicit false

namespace KernelScope.Text

/-- Whether the unit is the first half of a pair. -/
def isHighSurrogate (unit : UInt16) : Bool := 0xD800 ≤ unit && unit < 0xDC00

/-- Whether the unit is the second half of a pair. -/
def isLowSurrogate (unit : UInt16) : Bool := 0xDC00 ≤ unit && unit < 0xE000

/-- The character that the two halves of a pair encode. -/
def pairedChar (high low : UInt16) : Char :=
  Char.ofNat (0x10000 + (high.toNat - 0xD800) * 0x400 + (low.toNat - 0xDC00))

/-- The character that stands for a surrogate without its partner. -/
def replacementChar : Char := '\uFFFD'

/-- Decodes the units from left to right. -/
def ofUnits16 : List UInt16 → List Char
  | [] => []
  | [unit] =>
    [if isHighSurrogate unit || isLowSurrogate unit then replacementChar
      else Char.ofNat unit.toNat]
  | unit :: next :: rest =>
    if isHighSurrogate unit then
      if isLowSurrogate next then pairedChar unit next :: ofUnits16 rest
      else replacementChar :: ofUnits16 (next :: rest)
    else if isLowSurrogate unit then replacementChar :: ofUnits16 (next :: rest)
    else Char.ofNat unit.toNat :: ofUnits16 (next :: rest)

end KernelScope.Text
