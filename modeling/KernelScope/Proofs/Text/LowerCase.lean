import KernelScope.Text.LowerCase
import Mathlib.Data.List.Forall2

/-!
# Lower case of ASCII letters

The lower case of a text is the same whichever case its ASCII letters are in (`lowerCase_toLower`).
This takes more than that a capital and its small letter have one lower case: the form of a sigma
depends on the characters around it, on which of them are letters and which are skipped, and there
too a capital counts as its small letter does.
-/

set_option autoImplicit false

namespace KernelScope.Text

/-! ## Characters that lower-casing does not tell apart -/

/-- Nothing that lower-casing asks about a character tells the two apart. -/
structure SameLower (c d : Char) : Prop where
  lowerChar : lowerChar c = lowerChar d
  isCased : isCased c = isCased d
  isCaseIgnorable : isCaseIgnorable c = isCaseIgnorable d
  sigma : c = 'Σ' ↔ d = 'Σ'

instance (c d : Char) : Decidable (SameLower c d) :=
  decidable_of_iff
    (lowerChar c = lowerChar d ∧ isCased c = isCased d ∧ isCaseIgnorable c = isCaseIgnorable d ∧
      (c = 'Σ' ↔ d = 'Σ'))
    ⟨fun ⟨hlower, hcased, hignorable, hsigma⟩ => ⟨hlower, hcased, hignorable, hsigma⟩,
      fun h => ⟨h.lowerChar, h.isCased, h.isCaseIgnorable, h.sigma⟩⟩

theorem SameLower.refl (c : Char) : SameLower c c := ⟨rfl, rfl, rfl, Iff.rfl⟩

theorem startsWithLetter_congr {cs ds : List Char} (h : List.Forall₂ SameLower cs ds) :
    startsWithLetter cs = startsWithLetter ds := by
  induction h with
  | nil => rfl
  | @cons c d cs ds hsame hrest ih =>
    unfold startsWithLetter at ih ⊢
    cases hskipped : isCaseIgnorable d with
    | true =>
      rw [List.dropWhile_cons_of_pos hskipped,
        List.dropWhile_cons_of_pos (hsame.isCaseIgnorable.trans hskipped)]
      exact ih
    | false =>
      have hkept : ¬ isCaseIgnorable d = true := by simp [hskipped]
      rw [List.dropWhile_cons_of_neg hkept,
        List.dropWhile_cons_of_neg (by rwa [hsame.isCaseIgnorable])]
      exact hsame.isCased

/-- Texts of the same length whose characters are not told apart have one lower case. -/
theorem lowerCaseAfter_congr {cs ds : List Char} (h : List.Forall₂ SameLower cs ds)
    (afterLetter : Bool) : lowerCaseAfter afterLetter cs = lowerCaseAfter afterLetter ds := by
  induction h generalizing afterLetter with
  | nil => rfl
  | @cons c d cs ds hsame hrest ih =>
    -- a sigma sees what stands before it through `afterLetter`, and all that stands behind it
    have hsigma : lowerSigma afterLetter cs = lowerSigma afterLetter ds := by
      rw [lowerSigma, startsWithLetter_congr hrest, lowerSigma]
    rw [lowerCaseAfter, lowerCaseAfter, ih, hsigma, hsame.lowerChar, hsame.isCased,
      hsame.isCaseIgnorable]
    simp only [hsame.sigma]

/-! ## Capitals -/

/-- An ASCII capital letter is the only character that `Char.toLower` changes. -/
theorem toLower_eq_or_capital (c : Char) :
    c.toLower = c ∨ ∃ n < 26, c = Char.ofNat (0x41 + n) := by
  by_cases hcapital : 0x41 ≤ c.toNat ∧ c.toNat ≤ 0x5A
  · refine .inr ⟨c.toNat - 0x41, by omega, ?_⟩
    rw [show 0x41 + (c.toNat - 0x41) = c.toNat from by omega, Char.ofNat_toNat]
  · exact .inl (dif_neg hcapital)

/-- What is the same for each capital and its small letter does not depend on case. -/
theorem apply_toLower {α : Type} {f : Char → α}
    (hcapital : ∀ n < 26, f (Char.ofNat (0x41 + n)).toLower = f (Char.ofNat (0x41 + n)))
    (c : Char) : f c.toLower = f c := by
  rcases toLower_eq_or_capital c with hsmall | ⟨n, hn, rfl⟩
  · rw [hsmall]
  · exact hcapital n hn

theorem sameLower_capital :
    ∀ n < 26, SameLower (Char.ofNat (0x41 + n)) (Char.ofNat (0x41 + n)).toLower := by
  decide

theorem sameLower_toLower (c : Char) : SameLower c c.toLower := by
  rcases toLower_eq_or_capital c with hsmall | ⟨n, hn, rfl⟩
  · rw [hsmall]
    exact .refl c
  · exact sameLower_capital n hn

theorem toList_toLower (text : String) : text.toLower.toList = text.toList.map Char.toLower :=
  String.toList_map

/-- The case of its ASCII letters makes no difference to the lower case of a text. -/
theorem lowerCase_toLower (text : String) : lowerCase text.toLower = lowerCase text := by
  have hsame : List.Forall₂ SameLower text.toList text.toLower.toList := by
    rw [toList_toLower, List.forall₂_map_right_iff, List.forall₂_same]
    exact fun c _ => sameLower_toLower c
  rw [lowerCase, lowerCase, lowerCaseAfter_congr hsame]

/-! ## Empty texts -/

theorem lowerChar_ne_nil (c : Char) : lowerChar c ≠ [] := by
  unfold lowerChar
  split <;> simp

/-- Only the empty text has an empty lower case. -/
theorem lowerCase_eq_empty_iff (text : String) : lowerCase text = "" ↔ text = "" := by
  rw [← String.toList_eq_nil_iff, ← String.toList_eq_nil_iff, lowerCase, String.toList_ofList]
  cases text.toList with
  | nil => simp [lowerCaseAfter]
  | cons c rest =>
    have hfirst : (if c = 'Σ' then [lowerSigma false rest] else lowerChar c) ≠ [] := by
      split
      · simp
      · exact lowerChar_ne_nil c
    simp [lowerCaseAfter, hfirst]

end KernelScope.Text
