import KernelScope.Proofs.Text.Hex
import KernelScope.Proofs.Text.LowerCase
import KernelScope.Text.Blank
import Mathlib.Data.List.Induction

/-!
# Numerals

A row of digits and the number that it spells in a radix, the first digit being the highest.  Digits
are ASCII, and those above nine are letters of either case.  The digits in which numbers are written
(`Nat.toDigits`) spell them, and go on doing so with zeros in front and in another case.
-/

set_option autoImplicit false

namespace KernelScope.Text

/-! ## Digits -/

/-- The character is the digit for `value`, in either case. -/
def IsDigit (c : Char) (value : Nat) : Prop := value < 16 ∧ c.toLower = Nat.digitChar value

instance (c : Char) (value : Nat) : Decidable (IsDigit c value) :=
  inferInstanceAs (Decidable (_ ∧ _))

theorem digitValue?_toLower (c : Char) : Hex.digitValue? c.toLower = Hex.digitValue? c :=
  apply_toLower (by decide) c

theorem isDigit_decimal : ∀ n < 10, IsDigit (Char.ofNat (0x30 + n)) n := by decide

theorem isDigit_small : ∀ n < 6, IsDigit (Char.ofNat (0x61 + n)) (10 + n) := by decide

theorem isDigit_capital : ∀ n < 6, IsDigit (Char.ofNat (0x41 + n)) (10 + n) := by decide

/-- The reader of digits knows just the digits. -/
theorem digitValue?_eq_some_iff (c : Char) (value : Nat) :
    Hex.digitValue? c = some value ↔ IsDigit c value := by
  constructor
  · intro hvalue
    simp only [Hex.digitValue?] at hvalue
    split at hvalue
    next hrange =>
      obtain rfl := Option.some.inj hvalue
      have hdigit := isDigit_decimal (c.toNat - 0x30) (by omega)
      rwa [show 0x30 + (c.toNat - 0x30) = c.toNat by omega, Char.ofNat_toNat] at hdigit
    · split at hvalue
      next hrange =>
        obtain rfl := Option.some.inj hvalue
        have hdigit := isDigit_small (c.toNat - 0x61) (by omega)
        rwa [show 0x61 + (c.toNat - 0x61) = c.toNat by omega, Char.ofNat_toNat,
          Nat.add_comm] at hdigit
      · split at hvalue
        next hrange =>
          obtain rfl := Option.some.inj hvalue
          have hdigit := isDigit_capital (c.toNat - 0x41) (by omega)
          rwa [show 0x41 + (c.toNat - 0x41) = c.toNat by omega, Char.ofNat_toNat,
            Nat.add_comm] at hdigit
        · cases hvalue
  · rintro ⟨hlt, hlower⟩
    rw [← digitValue?_toLower, hlower, Hex.digitValue?_digitChar hlt]

theorem toLower_toLower (c : Char) : c.toLower.toLower = c.toLower :=
  apply_toLower (by decide) c

theorem isDigit_toLower_iff (c : Char) (value : Nat) :
    IsDigit c.toLower value ↔ IsDigit c value := by
  rw [IsDigit, IsDigit, toLower_toLower]

theorem toLower_digitChar :
    ∀ value < 16, (Nat.digitChar value).toLower = Nat.digitChar value := by decide

theorem isDigit_digitChar {value : Nat} (h : value < 16) :
    IsDigit (Nat.digitChar value) value := by
  rw [← digitValue?_eq_some_iff, Hex.digitValue?_digitChar h]

/-! ## Rows of digits -/

/-- One or more digits below the radix, and the number that they spell. -/
inductive Numeral (radix : Nat) : List Char → Nat → Prop where
  | digit {c : Char} {value : Nat} (hdigit : IsDigit c value) (hlt : value < radix) :
      Numeral radix [c] value
  | snoc {cs : List Char} {n : Nat} {c : Char} {value : Nat} (hcs : Numeral radix cs n)
      (hdigit : IsDigit c value) (hlt : value < radix) :
      Numeral radix (cs ++ [c]) (radix * n + value)

theorem Numeral.ne_nil {radix n : Nat} {cs : List Char} (h : Numeral radix cs n) : cs ≠ [] := by
  cases h <;> simp

/-- A numeral has digits only. -/
theorem Numeral.isDigit {radix n : Nat} {cs : List Char} (h : Numeral radix cs n) :
    ∀ c ∈ cs, ∃ value < radix, IsDigit c value := by
  induction h with
  | @digit c value hdigit hlt =>
    intro other hother
    rw [List.mem_singleton.1 hother]
    exact ⟨value, hlt, hdigit⟩
  | @snoc cs n c value hcs hdigit hlt ih =>
    intro other hother
    rcases List.mem_append.1 hother with hfront | hlast
    · exact ih other hfront
    · rw [List.mem_singleton.1 hlast]
      exact ⟨value, hlt, hdigit⟩

/-- A single digit spells its value. -/
theorem Numeral.isDigit_of_singleton {radix n : Nat} {c : Char} (h : Numeral radix [c] n) :
    IsDigit c n := by
  generalize hsingle : [c] = cs at h
  cases h with
  | digit hdigit hlt => exact List.singleton_inj.1 hsingle ▸ hdigit
  | @snoc front n last value hfront hdigit hlt =>
    have hlength : front.length = 0 := by simpa using (congrArg List.length hsingle).symm
    exact absurd (List.eq_nil_of_length_eq_zero hlength) hfront.ne_nil

/-- Of two digits, the first counts as often as the radix says. -/
theorem Numeral.exists_of_pair {radix n : Nat} {high low : Char}
    (h : Numeral radix [high, low] n) :
    ∃ first second, IsDigit high first ∧ IsDigit low second ∧ n = radix * first + second := by
  generalize hpair : [high, low] = cs at h
  cases h with
  | digit hdigit hlt => simp at hpair
  | @snoc front first c second hfront hsecond hlt =>
    obtain ⟨rfl, rfl⟩ : [high] = front ∧ low = c := List.append_singleton_inj.1 hpair
    exact ⟨first, second, hfront.isDigit_of_singleton, hsecond, rfl⟩

/-- Any row of digits spells a number. -/
theorem exists_numeral {radix : Nat} {cs : List Char} (hne : cs ≠ [])
    (hdigits : ∀ c ∈ cs, ∃ value < radix, IsDigit c value) : ∃ n, Numeral radix cs n := by
  induction cs using List.reverseRecOn with
  | nil => exact absurd rfl hne
  | append_singleton cs c ih =>
    obtain ⟨value, hlt, hdigit⟩ := hdigits c (by simp)
    cases cs with
    | nil => exact ⟨value, .digit hdigit hlt⟩
    | cons first rest =>
      obtain ⟨n, hn⟩ := ih (by simp) fun other hother =>
        hdigits other (List.mem_append_left [c] hother)
      exact ⟨_, hn.snoc hdigit hlt⟩

/-- The case of its digits makes no difference to a numeral. -/
theorem Numeral.of_map_toLower {radix n : Nat} {cs : List Char}
    (h : Numeral radix (cs.map Char.toLower) n) : Numeral radix cs n := by
  generalize hlower : cs.map Char.toLower = lower at h
  induction h generalizing cs with
  | digit hdigit hlt =>
    obtain ⟨c, rfl, rfl⟩ := List.map_eq_singleton_iff.1 hlower
    exact .digit ((isDigit_toLower_iff _ _).1 hdigit) hlt
  | snoc hcs hdigit hlt ih =>
    obtain ⟨front, last, rfl, hfront, hlast⟩ := List.map_eq_append_iff.1 hlower
    obtain ⟨c, rfl, rfl⟩ := List.map_eq_singleton_iff.1 hlast
    exact (ih hfront).snoc ((isDigit_toLower_iff _ _).1 hdigit) hlt

/-! ## Numbers as they are written -/

/-- A number is spelled by its digits. -/
theorem numeral_toDigits {radix : Nat} (hlow : 1 < radix) (hhigh : radix ≤ 16) (n : Nat) :
    Numeral radix (Nat.toDigits radix n) n := by
  induction n using Nat.strongRecOn with
  | ind n ih =>
    rw [Nat.toDigits_eq_if hlow]
    split
    next hlt => exact .digit (isDigit_digitChar (by omega)) hlt
    next hle =>
      have hmod : n % radix < radix := Nat.mod_lt _ (by omega)
      have hfront := ih (n / radix) (Nat.div_lt_self (by omega) hlow)
      have hsnoc := hfront.snoc (isDigit_digitChar (show n % radix < 16 by omega)) hmod
      rwa [Nat.div_add_mod] at hsnoc

/-- Numbers are written in lower case. -/
theorem map_toLower_toDigits (n : Nat) :
    (Nat.toDigits 16 n).map Char.toLower = Nat.toDigits 16 n := by
  induction n using Nat.strongRecOn with
  | ind n ih =>
    rw [Nat.toDigits_eq_if (by decide)]
    split
    next hlt => simp [toLower_digitChar n hlt]
    next hle =>
      have hmod : n % 16 < 16 := Nat.mod_lt _ (by decide)
      simp [ih (n / 16) (Nat.div_lt_self (by omega) (by decide)),
        toLower_digitChar _ hmod]

/-- A zero in front changes nothing. -/
theorem Numeral.zero_cons {radix n : Nat} {cs : List Char} (h : Numeral radix cs n)
    (hradix : 0 < radix) : Numeral radix ('0' :: cs) n := by
  have hzero : Numeral radix ['0'] 0 := .digit (by decide) hradix
  induction h with
  | digit hdigit hlt => simpa using hzero.snoc hdigit hlt
  | snoc hcs hdigit hlt ih => exact ih.snoc hdigit hlt

theorem Numeral.leftpad {radix n : Nat} {cs : List Char} (h : Numeral radix cs n)
    (hradix : 0 < radix) (width : Nat) : Numeral radix (cs.leftpad width '0') n := by
  rw [List.leftpad]
  generalize width - cs.length = zeros
  induction zeros with
  | zero => exact h
  | succ zeros ih => exact ih.zero_cons hradix

/-! ## Blanks -/

theorem isBlank_toLower (c : Char) : isBlank c.toLower = isBlank c := apply_toLower (by decide) c

theorem isBlank_digitChar : ∀ value < 16, isBlank (Nat.digitChar value) = false := by decide

/-- No digit is a blank. -/
theorem IsDigit.isBlank_eq_false {c : Char} {value : Nat} (h : IsDigit c value) :
    isBlank c = false := by
  rw [← isBlank_toLower, h.2]
  exact isBlank_digitChar value h.1

end KernelScope.Text
