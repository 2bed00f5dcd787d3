import Mathlib.Tactic.SplitIfs

/-!
# The order of texts

Texts are compared character by character, by code point.  It comes to the same as comparing their
UTF-8 bytes one by one (`utf8_lt_iff`): of two characters the one with the greater code point has the
greater bytes, whatever follows them, because the first byte tells how many there are and the others
hold six bits each, the highest first.
-/

set_option autoImplicit false

namespace KernelScope.Text

/-- The bytes of a text in UTF-8. -/
def utf8 (text : String) : List UInt8 := text.toList.flatMap String.utf8EncodeChar

/-! ## Characters -/

theorem cons_ofNat_lt_cons_ofNat {a b : Nat} (ha : a < 256) (hb : b < 256) {x y : List UInt8} :
    UInt8.ofNat a :: x < UInt8.ofNat b :: y ↔ a < b ∨ a = b ∧ x < y := by
  rw [List.cons_lt_cons_iff, UInt8.lt_iff_toNat_lt, ← UInt8.toNat_inj,
    UInt8.toNat_ofNat_of_lt' ha, UInt8.toNat_ofNat_of_lt' hb]

theorem codePoint_lt (c : Char) : c.val.toNat < 0x110000 := by
  have hvalid : c.val.toNat.isValidChar := c.valid
  rcases hvalid with hlow | ⟨-, hhigh⟩ <;> omega

/-- A code point has a number of three bits and three of six, the highest first. -/
theorem codePoint_digits {n : Nat} (h : n < 0x110000) :
    n / 64 / 64 = n / 4096 ∧ n / 4096 / 64 = n / 262144 ∧ n / 262144 / 8 = 0 := by
  refine ⟨?_, ?_, by omega⟩ <;> rw [Nat.div_div_eq_div_mul]

/-- The greater of two characters has the greater bytes, whatever follows. -/
theorem utf8EncodeChar_lt {c d : Char} (h : c < d) (x y : List UInt8) :
    String.utf8EncodeChar c ++ x < String.utf8EncodeChar d ++ y := by
  have hlt : c.val.toNat < d.val.toNat := UInt32.lt_iff_toNat_lt.1 h
  have hlow := codePoint_digits (codePoint_lt c)
  have hhigh := codePoint_digits (codePoint_lt d)
  unfold String.utf8EncodeChar
  generalize c.val.toNat = v at *
  generalize d.val.toNat = w at *
  dsimp only
  -- one case for each pair of lengths; in all of them the first bytes that differ decide
  split_ifs
  all_goals
    simp (disch := omega) only [List.cons_append, cons_ofNat_lt_cons_ofNat]
    omega

theorem nil_lt_utf8EncodeChar (c : Char) (y : List UInt8) :
    [] < String.utf8EncodeChar c ++ y := by
  obtain ⟨byte, rest, hbytes⟩ := List.exists_cons_of_ne_nil (String.utf8EncodeChar_ne_nil (c := c))
  rw [hbytes]
  exact List.nil_lt_cons _ _

/-! ## Texts -/

theorem flatMap_utf8_lt {cs ds : List Char} (h : cs < ds) :
    cs.flatMap String.utf8EncodeChar < ds.flatMap String.utf8EncodeChar := by
  induction cs generalizing ds with
  | nil =>
    cases ds with
    | nil => simp at h
    | cons d ds => exact nil_lt_utf8EncodeChar d _
  | cons c cs ih =>
    cases ds with
    | nil => simp at h
    | cons d ds =>
      rw [List.flatMap_cons, List.flatMap_cons]
      rcases List.cons_lt_cons_iff.1 h with hlt | ⟨rfl, hrest⟩
      · exact utf8EncodeChar_lt hlt _ _
      · exact List.append_left_lt (ih hrest)

/-- Texts stand in the order of their bytes. -/
theorem utf8_lt_iff (s t : String) : utf8 s < utf8 t ↔ s < t := by
  refine ⟨fun hbytes => Classical.byContradiction fun hnot => ?_, flatMap_utf8_lt⟩
  rcases Classical.em (s = t) with rfl | hne
  · exact List.lt_irrefl _ hbytes
  · have hafter : t < s := by
      refine Classical.byContradiction fun hnotAfter => hne ?_
      exact String.le_antisymm hnotAfter hnot
    exact List.lt_asymm hbytes (flatMap_utf8_lt hafter)

theorem utf8_le_iff (s t : String) : utf8 s ≤ utf8 t ↔ s ≤ t := not_congr (utf8_lt_iff t s)

end KernelScope.Text
