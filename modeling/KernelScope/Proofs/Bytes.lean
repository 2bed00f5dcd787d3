import Mathlib.Algebra.Group.Nat.Defs
import KernelScope.Bytes

/-!
# Words taken apart and put together

A number is given back by its bytes as far as these hold it, and the units of a text by theirs.
-/

set_option autoImplicit false

namespace KernelScope.Bytes

/-- Taking a number apart into bytes and putting these together keeps its low bytes. -/
theorem littleEndian_ofNat (width n : Nat) : littleEndian (ofNat width n) = n % 256 ^ width := by
  induction width generalizing n with
  | zero => simp [ofNat, littleEndian, Nat.mod_one]
  | succ width ih =>
    rw [ofNat, littleEndian, ih, Nat.pow_succ, Nat.mul_comm (256 ^ width), Nat.mod_mul]
    simp

theorem length_ofNat (width n : Nat) : (ofNat width n).length = width := by
  induction width generalizing n with
  | zero => rfl
  | succ width ih => rw [ofNat, List.length_cons, ih]

/-- The first bytes of a row stand for the low part of its number. -/
theorem littleEndian_take (bytes : List UInt8) (count : Nat) :
    littleEndian (bytes.take count) = littleEndian bytes % 256 ^ count := by
  induction bytes generalizing count with
  | nil => simp [littleEndian]
  | cons byte rest ih =>
    cases count with
    | zero => simp [littleEndian, Nat.mod_one]
    | succ count =>
      have hlow : byte.toNat < 256 := byte.toNat_lt
      have hmod : (byte.toNat + 256 * littleEndian rest) % 256 = byte.toNat := by omega
      have hdiv : (byte.toNat + 256 * littleEndian rest) / 256 = littleEndian rest := by omega
      rw [List.take_succ_cons, littleEndian, littleEndian, ih, Nat.pow_succ,
        Nat.mul_comm (256 ^ count), Nat.mod_mul, hmod, hdiv]

/-! ## Rows of words -/

/-- The bytes of words that are `width` bytes wide. -/
def ofWords (width : Nat) (words : List Nat) : List UInt8 := words.flatMap (ofNat width)

theorem ofWords_cons (width word : Nat) (words : List Nat) :
    ofWords width (word :: words) = ofNat width word ++ ofWords width words := List.flatMap_cons

theorem length_ofWords (width : Nat) (words : List Nat) :
    (ofWords width words).length = words.length * width := by
  induction words with
  | nil => simp [ofWords]
  | cons word words ih =>
    rw [ofWords_cons, List.length_append, ih, length_ofNat, List.length_cons, Nat.succ_mul,
      Nat.add_comm]

/-- The bytes of words, cut where the words end, are the words. -/
theorem chunks_ofWords (width : Nat) (words : List Nat) :
    chunks width words.length (ofWords width words) = words.map (ofNat width) := by
  induction words with
  | nil => rfl
  | cons word words ih =>
    rw [List.length_cons, chunks, ofWords_cons, List.take_left' (length_ofNat width _),
      List.drop_left' (length_ofNat width _), List.map_cons, ih]

theorem length_chunks {α : Type} (width count : Nat) (items : List α) :
    (chunks width count items).length = count := by
  induction count generalizing items with
  | zero => rfl
  | succ count ih => rw [chunks, List.length_cons, ih]

/-- Each piece begins behind the pieces before it. -/
theorem getElem?_chunks {α : Type} (width : Nat) {count i : Nat} (hi : i < count)
    (items : List α) :
    (chunks width count items)[i]? = some ((items.drop (i * width)).take width) := by
  induction count generalizing items i with
  | zero => exact absurd hi (Nat.not_lt_zero i)
  | succ count ih =>
    cases i with
    | zero => simp [chunks]
    | succ i =>
      rw [chunks, List.getElem?_cons_succ, ih (Nat.lt_of_succ_lt_succ hi), List.drop_drop,
        Nat.succ_mul, Nat.add_comm]

/-- Put together again, the pieces are the elements that they were cut from. -/
theorem flatten_chunks {α : Type} (width count : Nat) (items : List α) :
    (chunks width count items).flatten = items.take (count * width) := by
  induction count generalizing items with
  | zero => simp [chunks]
  | succ count ih => rw [chunks, List.flatten_cons, ih, Nat.succ_mul, Nat.add_comm, List.take_add]

/-- The bytes of sixteen-bit units. -/
def ofUnits (units : List UInt16) : List UInt8 := units.flatMap fun unit => ofNat 2 unit.toNat

theorem ofUnits_eq_ofWords (units : List UInt16) :
    ofUnits units = ofWords 2 (units.map UInt16.toNat) := by
  rw [ofUnits, ofWords, List.flatMap_map]

theorem length_ofUnits (units : List UInt16) : (ofUnits units).length = 2 * units.length := by
  rw [ofUnits_eq_ofWords, length_ofWords, List.length_map, Nat.mul_comm]

/-- The bytes of units, cut in pairs, are the units. -/
theorem map_chunks_ofUnits (units : List UInt16) :
    (chunks 2 units.length (ofUnits units)).map (fun pair => UInt16.ofNat (littleEndian pair)) =
      units := by
  have hunit : ∀ unit : UInt16, UInt16.ofNat (littleEndian (ofNat 2 unit.toNat)) = unit := by
    intro unit
    have hlt : unit.toNat < 256 ^ 2 := unit.toNat_lt
    rw [littleEndian_ofNat, Nat.mod_eq_of_lt hlt, UInt16.ofNat_toNat]
  rw [ofUnits_eq_ofWords, ← List.length_map UInt16.toNat, chunks_ofWords, List.map_map,
    List.map_map]
  simp [Function.comp_def, hunit]

end KernelScope.Bytes
