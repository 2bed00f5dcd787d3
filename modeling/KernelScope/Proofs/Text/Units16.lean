import KernelScope.Text.Units16

/-!
# Text encoded and decoded

The decoder takes any row of units.  On the units of a text, where each surrogate stands beside its
partner, it gives the text back (`ofUnits16_toUnits16`).  `Reads` says what any units are read as,
through the encoder only; the decoder finds the one reading that there is (`reads_iff`).
-/

set_option autoImplicit false

namespace KernelScope.Text

/-! ## Surrogates -/

theorem isHighSurrogate_iff (unit : UInt16) :
    isHighSurrogate unit = true ↔ 0xD800 ≤ unit.toNat ∧ unit.toNat < 0xDC00 := by
  simp [isHighSurrogate, UInt16.le_iff_toNat_le, UInt16.lt_iff_toNat_lt]

theorem isLowSurrogate_iff (unit : UInt16) :
    isLowSurrogate unit = true ↔ 0xDC00 ≤ unit.toNat ∧ unit.toNat < 0xE000 := by
  simp [isLowSurrogate, UInt16.le_iff_toNat_le, UInt16.lt_iff_toNat_lt]

theorem not_surrogate_of_lt {unit : UInt16} (h : unit.toNat < 0xD800) :
    isHighSurrogate unit = false ∧ isLowSurrogate unit = false := by
  rw [← Bool.not_eq_true, ← Bool.not_eq_true, isHighSurrogate_iff, isLowSurrogate_iff]
  omega

/-! ## Encoding -/

/-- The units of a character: one, or the two halves of a pair. -/
def charUnits (c : Char) : List UInt16 :=
  if c.toNat < 0x10000 then [UInt16.ofNat c.toNat]
  else
    [UInt16.ofNat (0xD800 + (c.toNat - 0x10000) / 0x400),
      UInt16.ofNat (0xDC00 + (c.toNat - 0x10000) % 0x400)]

/-- The units of a text. -/
def toUnits16 (cs : List Char) : List UInt16 := cs.flatMap charUnits

/-- A unit that is no surrogate is a character, whatever follows it. -/
theorem ofUnits16_cons {unit : UInt16} (hhigh : isHighSurrogate unit = false)
    (hlow : isLowSurrogate unit = false) (rest : List UInt16) :
    ofUnits16 (unit :: rest) = Char.ofNat unit.toNat :: ofUnits16 rest := by
  cases rest <;> simp [ofUnits16, hhigh, hlow]

theorem ofUnits16_charUnits (c : Char) (rest : List UInt16) :
    ofUnits16 (charUnits c ++ rest) = c :: ofUnits16 rest := by
  have hvalid : c.toNat < 0xD800 ∨ 0xDFFF < c.toNat ∧ c.toNat < 0x110000 := c.valid
  unfold charUnits
  split
  next hsmall =>
    have hunit : (UInt16.ofNat c.toNat).toNat = c.toNat := UInt16.toNat_ofNat_of_lt' hsmall
    have hhigh : isHighSurrogate (UInt16.ofNat c.toNat) = false := by
      rw [← Bool.not_eq_true, isHighSurrogate_iff, hunit]
      omega
    have hlow : isLowSurrogate (UInt16.ofNat c.toNat) = false := by
      rw [← Bool.not_eq_true, isLowSurrogate_iff, hunit]
      omega
    rw [List.singleton_append, ofUnits16_cons hhigh hlow, hunit, Char.ofNat_toNat]
  next hlarge =>
    have hhighNat : (UInt16.ofNat (0xD800 + (c.toNat - 0x10000) / 0x400)).toNat =
        0xD800 + (c.toNat - 0x10000) / 0x400 :=
      UInt16.toNat_ofNat_of_lt' (by simp only [UInt16.size]; omega)
    have hlowNat : (UInt16.ofNat (0xDC00 + (c.toNat - 0x10000) % 0x400)).toNat =
        0xDC00 + (c.toNat - 0x10000) % 0x400 :=
      UInt16.toNat_ofNat_of_lt' (by simp only [UInt16.size]; omega)
    have hhigh : isHighSurrogate (UInt16.ofNat (0xD800 + (c.toNat - 0x10000) / 0x400)) = true := by
      rw [isHighSurrogate_iff, hhighNat]
      omega
    have hlow : isLowSurrogate (UInt16.ofNat (0xDC00 + (c.toNat - 0x10000) % 0x400)) = true := by
      rw [isLowSurrogate_iff, hlowNat]
      omega
    have hcode : 0x10000 + (0xD800 + (c.toNat - 0x10000) / 0x400 - 0xD800) * 0x400 +
        (0xDC00 + (c.toNat - 0x10000) % 0x400 - 0xDC00) = c.toNat := by omega
    rw [List.cons_append, List.singleton_append, ofUnits16, if_pos hhigh, if_pos hlow, pairedChar,
      hhighNat, hlowNat, hcode, Char.ofNat_toNat]

/-- The units of a text are decoded as the text. -/
theorem ofUnits16_toUnits16 (cs : List Char) : ofUnits16 (toUnits16 cs) = cs := by
  induction cs with
  | nil => rfl
  | cons c cs ih => rw [toUnits16, List.flatMap_cons, ofUnits16_charUnits, ← toUnits16, ih]

/-! ## Readings -/

/-- The first unit is a surrogate that misses its partner: the first half of a pair that no second
half follows, or a second half. -/
def IsUnpaired (unit : UInt16) (rest : List UInt16) : Prop :=
  isHighSurrogate unit = true ∧ (∀ next ∈ rest.head?, isLowSurrogate next = false) ∨
    isLowSurrogate unit = true

/-- How units are read from left to right: the units of a character as this character, and each
surrogate that misses its partner as the replacement character. -/
inductive Reads : List UInt16 → List Char → Prop where
  | nil : Reads [] []
  | char (c : Char) {units : List UInt16} {cs : List Char} (rest : Reads units cs) :
    Reads (charUnits c ++ units) (c :: cs)
  | unpaired {unit : UInt16} {units : List UInt16} {cs : List Char}
    (alone : IsUnpaired unit units) (rest : Reads units cs) :
    Reads (unit :: units) (replacementChar :: cs)

theorem toNat_ofNat_of_isValidChar {n : Nat} (h : n.isValidChar) : (Char.ofNat n).toNat = n := by
  rw [Char.ofNat, dif_pos h]
  rfl

/-- A unit that is no surrogate is the whole of a character. -/
theorem charUnits_ofNat {unit : UInt16} (hhigh : isHighSurrogate unit = false)
    (hlow : isLowSurrogate unit = false) : charUnits (Char.ofNat unit.toNat) = [unit] := by
  have hsmall : unit.toNat < 0x10000 := unit.toNat_lt
  have hvalid : unit.toNat.isValidChar := by
    rw [← Bool.not_eq_true, isHighSurrogate_iff] at hhigh
    rw [← Bool.not_eq_true, isLowSurrogate_iff] at hlow
    unfold Nat.isValidChar
    omega
  rw [charUnits, toNat_ofNat_of_isValidChar hvalid, if_pos hsmall, UInt16.ofNat_toNat]

/-- The halves of a pair are the units of their character. -/
theorem charUnits_pairedChar {high low : UInt16} (hhigh : isHighSurrogate high = true)
    (hlow : isLowSurrogate low = true) : charUnits (pairedChar high low) = [high, low] := by
  rw [isHighSurrogate_iff] at hhigh
  rw [isLowSurrogate_iff] at hlow
  have hvalid : (0x10000 + (high.toNat - 0xD800) * 0x400 + (low.toNat - 0xDC00)).isValidChar := by
    unfold Nat.isValidChar
    omega
  have hlarge :
      ¬ 0x10000 + (high.toNat - 0xD800) * 0x400 + (low.toNat - 0xDC00) < 0x10000 := by omega
  have hfirst : 0xD800 + (0x10000 + (high.toNat - 0xD800) * 0x400 + (low.toNat - 0xDC00) -
      0x10000) / 0x400 = high.toNat := by omega
  have hsecond : 0xDC00 + (0x10000 + (high.toNat - 0xD800) * 0x400 + (low.toNat - 0xDC00) -
      0x10000) % 0x400 = low.toNat := by omega
  rw [charUnits, pairedChar, toNat_ofNat_of_isValidChar hvalid, if_neg hlarge, hfirst, hsecond,
    UInt16.ofNat_toNat, UInt16.ofNat_toNat]

theorem ofUnits16_of_isUnpaired {unit : UInt16} {rest : List UInt16} (h : IsUnpaired unit rest) :
    ofUnits16 (unit :: rest) = replacementChar :: ofUnits16 rest := by
  cases rest with
  | nil =>
    rcases h with ⟨hhigh, -⟩ | hlow
    · simp [ofUnits16, hhigh]
    · simp [ofUnits16, hlow]
  | cons next rest =>
    rw [ofUnits16]
    rcases h with ⟨hhigh, hnext⟩ | hlow
    · simp [hhigh, hnext next rfl]
    · have hhigh : isHighSurrogate unit = false := by
        rw [← Bool.not_eq_true, isHighSurrogate_iff]
        rw [isLowSurrogate_iff] at hlow
        omega
      simp [hhigh, hlow]

theorem reads_of_plain {unit : UInt16} {rest : List UInt16} (hhigh : isHighSurrogate unit = false)
    (hlow : isLowSurrogate unit = false) (hrest : Reads rest (ofUnits16 rest)) :
    Reads (unit :: rest) (ofUnits16 (unit :: rest)) := by
  have hread := Reads.char (Char.ofNat unit.toNat) hrest
  rwa [charUnits_ofNat hhigh hlow, ← ofUnits16_cons hhigh hlow] at hread

theorem reads_of_isUnpaired {unit : UInt16} {rest : List UInt16} (halone : IsUnpaired unit rest)
    (hrest : Reads rest (ofUnits16 rest)) : Reads (unit :: rest) (ofUnits16 (unit :: rest)) := by
  rw [ofUnits16_of_isUnpaired halone]
  exact .unpaired halone hrest

/-- What the decoder gives is a reading. -/
theorem reads_ofUnits16 (units : List UInt16) : Reads units (ofUnits16 units) := by
  induction units using ofUnits16.induct with
  | case1 => exact .nil
  | case2 unit =>
    by_cases hhigh : isHighSurrogate unit = true
    · exact reads_of_isUnpaired (.inl ⟨hhigh, by simp⟩) .nil
    · by_cases hlow : isLowSurrogate unit = true
      · exact reads_of_isUnpaired (.inr hlow) .nil
      · exact reads_of_plain (by simpa using hhigh) (by simpa using hlow) .nil
  | case3 unit next rest hhigh hlow ih =>
    have hread := Reads.char (pairedChar unit next) ih
    rw [charUnits_pairedChar hhigh hlow] at hread
    rw [ofUnits16, if_pos hhigh, if_pos hlow]
    exact hread
  | case4 unit next rest hhigh hlow ih =>
    exact reads_of_isUnpaired (.inl ⟨hhigh, by simpa using hlow⟩) ih
  | case5 unit next rest hhigh hlow ih => exact reads_of_isUnpaired (.inr hlow) ih
  | case6 unit next rest hhigh hlow ih =>
    exact reads_of_plain (by simpa using hhigh) (by simpa using hlow) ih

/-- Units have one reading, and the decoder gives it. -/
theorem reads_iff (units : List UInt16) (cs : List Char) :
    Reads units cs ↔ cs = ofUnits16 units := by
  constructor
  · intro hreads
    induction hreads with
    | nil => rfl
    | char c rest ih => rw [ofUnits16_charUnits, ← ih]
    | unpaired alone rest ih => rw [ofUnits16_of_isUnpaired alone, ← ih]
  · rintro rfl
    exact reads_ofUnits16 units

end KernelScope.Text
