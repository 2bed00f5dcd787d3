import KernelScope.Text.Hex

/-!
# Bytes written and read back

A byte is written as two digits of base sixteen, and both are ASCII characters, so the reader, which
looks at the bytes of the text, meets the digits themselves.
-/

set_option autoImplicit false

namespace KernelScope.Hex

/-! ## Digits -/

theorem digitValue?_digitChar {n : Nat} (h : n < 16) : digitValue? (Nat.digitChar n) = some n := by
  revert n
  decide

theorem utf8EncodeChar_digitChar {n : Nat} (h : n < 16) :
    String.utf8EncodeChar (Nat.digitChar n) = [UInt8.ofNat (Nat.digitChar n).toNat] := by
  revert n
  decide

theorem toNat_ofNat_digitChar {n : Nat} (h : n < 16) :
    (UInt8.ofNat (Nat.digitChar n).toNat).toNat = (Nat.digitChar n).toNat := by
  revert n
  decide

theorem digitOfByte_digitChar {n : Nat} (h : n < 16) (position : Nat) :
    digitOfByte (UInt8.ofNat (Nat.digitChar n).toNat) position = .ok n := by
  unfold digitOfByte
  rw [toNat_ofNat_digitChar h, Char.ofNat_toNat, digitValue?_digitChar h]

/-! ## Bytes -/

theorem div_16_lt (byte : UInt8) : byte.toNat / 16 < 16 := by
  have hbyte := byte.toNat_lt
  omega

theorem mod_16_lt (byte : UInt8) : byte.toNat % 16 < 16 :=
  Nat.mod_lt _ (by decide)

/-- The bytes of the two digits of a byte. -/
theorem encoded_byteDigits (byte : UInt8) :
    (byteDigits byte).flatMap String.utf8EncodeChar =
      [UInt8.ofNat (Nat.digitChar (byte.toNat / 16)).toNat,
        UInt8.ofNat (Nat.digitChar (byte.toNat % 16)).toNat] := by
  simp [byteDigits, utf8EncodeChar_digitChar (div_16_lt byte),
    utf8EncodeChar_digitChar (mod_16_lt byte)]

theorem length_encoded_digits (bytes : List UInt8) :
    ((bytes.flatMap byteDigits).flatMap String.utf8EncodeChar).length = 2 * bytes.length := by
  induction bytes with
  | nil => rfl
  | cons byte bytes ih =>
    rw [List.flatMap_cons, List.flatMap_append, List.length_append, ih, encoded_byteDigits]
    simp only [List.length_cons, List.length_nil]
    omega

theorem pairsToBytes_encoded_digits (bytes : List UInt8) (position : Nat) :
    pairsToBytes position ((bytes.flatMap byteDigits).flatMap String.utf8EncodeChar) =
      .ok bytes := by
  induction bytes generalizing position with
  | nil => rfl
  | cons byte bytes ih =>
    have hbyte : 16 * (byte.toNat / 16) + byte.toNat % 16 = byte.toNat :=
      Nat.div_add_mod byte.toNat 16
    rw [List.flatMap_cons, List.flatMap_append, encoded_byteDigits]
    simp only [List.cons_append, List.nil_append]
    rw [pairsToBytes, digitOfByte_digitChar (div_16_lt byte),
      digitOfByte_digitChar (mod_16_lt byte), ih]
    simp only [bind, Except.bind, pure, Except.pure, hbyte, UInt8.ofNat_toNat]

/-- Bytes that are written as digits are read back. -/
theorem toBytes_ofBytes (bytes : List UInt8) : toBytes (ofBytes bytes) = .ok bytes := by
  have hlength := length_encoded_digits bytes
  unfold toBytes ofBytes
  rw [String.toList_ofList]
  simp only [hlength, Nat.mul_mod_right, Nat.zero_ne_one, if_false]
  exact pairsToBytes_encoded_digits bytes 0

end KernelScope.Hex
