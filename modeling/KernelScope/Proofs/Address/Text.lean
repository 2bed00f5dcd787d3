import KernelScope.Address.Text
import KernelScope.Proofs.Text.Numeral

/-!
# Spellings of addresses

An address may be spelled in base sixteen behind a mark, as five or more digits of base sixteen, or
in decimal (`Spelling`).  A text is read as an address exactly if, without the blanks around it and
without backticks, it is a spelling of it, and a spelling of a greater number than there are
addresses is refused (`ofText_spelling`).  So an address is read in whatever case and with whatever
backticks it has been written.
-/

set_option autoImplicit false

namespace KernelScope.Address

open Text

/-! ## The grammar -/

/-- A numeral, perhaps behind a plus sign. -/
def Signed (radix : Nat) (cs : List Char) (n : Nat) : Prop :=
  ∃ sign digits, cs = sign ++ digits ∧ (sign = [] ∨ sign = ['+']) ∧ Numeral radix digits n

/-- The characters are five or more digits of base sixteen, and spell the number. -/
def BareHex (cs : List Char) (n : Nat) : Prop := 5 ≤ cs.length ∧ Numeral 16 cs n

/-- The ways to spell a number as an address.  What could be read as five or more digits of base
sixteen is not read as decimal. -/
inductive Spelling : List Char → Nat → Prop where
  | marked {mark cs : List Char} {n : Nat} (hmark : mark = ['0', 'x'] ∨ mark = ['0', 'X'])
      (hsigned : Signed 16 cs n) : Spelling (mark ++ cs) n
  | bare {cs : List Char} {n : Nat} (hbare : BareHex cs n) : Spelling cs n
  | decimal {cs : List Char} {n : Nat} (hbare : ∀ m, ¬ BareHex cs m)
      (hsigned : Signed 10 cs n) : Spelling cs n

/-! ## Digits -/

/-- A number, if it is an address. -/
def bounded (n : Nat) : Except NumberError Nat :=
  if n < wordLimit then .ok n else .error .tooLarge

theorem isDigit_of_addDigit {radix total n : Nat} {c : Char} (h : addDigit radix total c = .ok n) :
    ∃ value < radix, IsDigit c value := by
  unfold addDigit at h
  split at h
  · cases h
  next value hvalue =>
    split at h
    · cases h
    next hlt => exact ⟨value, Nat.not_le.1 hlt, (digitValue?_eq_some_iff c value).1 hvalue⟩

theorem addDigit_of_isDigit {radix value : Nat} {c : Char} (hdigit : IsDigit c value)
    (hlt : value < radix) (total : Nat) :
    addDigit radix total c = bounded (radix * total + value) := by
  simp only [addDigit, (digitValue?_eq_some_iff c value).2 hdigit, if_neg (Nat.not_le.2 hlt)]
  by_cases hfits : radix * total + value < wordLimit
  · rw [bounded, if_pos hfits, if_neg (Nat.not_le.2 hfits)]
  · rw [bounded, if_neg hfits, if_pos (Nat.not_lt.1 hfits)]

/-- The digits of a numeral add up to its number, or to one that is too large. -/
theorem foldlM_of_numeral {radix n : Nat} {cs : List Char} (h : Numeral radix cs n) :
    cs.foldlM (addDigit radix) 0 = bounded n := by
  induction h with
  | @digit c value hdigit hlt => simp [addDigit_of_isDigit hdigit hlt]
  | @snoc cs n c value hcs hdigit hlt ih =>
    rw [List.foldlM_append, ih, bounded]
    split
    next hfits =>
      change [c].foldlM (addDigit radix) n = bounded (radix * n + value)
      rw [List.foldlM_cons, addDigit_of_isDigit hdigit hlt]
      exact bind_pure (bounded (radix * n + value))
    next hlarge =>
      -- the number only grows with further digits
      have hgrows : n ≤ radix * n := Nat.le_mul_of_pos_left n (by omega)
      rw [bounded, if_neg (by omega)]
      rfl

/-- Digits that add up to a number spell it. -/
theorem numeral_of_foldlM {radix n : Nat} {cs : List Char} (hne : cs ≠ [])
    (h : cs.foldlM (addDigit radix) 0 = .ok n) : Numeral radix cs n := by
  suffices hdigits : ∀ c ∈ cs, ∃ value < radix, IsDigit c value by
    obtain ⟨m, hm⟩ := exists_numeral hne hdigits
    rw [foldlM_of_numeral hm, bounded] at h
    split at h
    · rwa [← Except.ok.inj h]
    · cases h
  clear hne
  generalize 0 = total at h
  induction cs generalizing total with
  | nil => simp
  | cons c cs ih =>
    rw [List.foldlM_cons] at h
    cases hadd : addDigit radix total c with
    | error fault =>
      rw [hadd] at h
      cases h
    | ok sum =>
      rw [hadd] at h
      intro other hother
      rcases List.mem_cons.1 hother with rfl | hrest
      · exact isDigit_of_addDigit hadd
      · exact ih sum h other hrest

theorem ofDigits_of_numeral {radix n : Nat} {cs : List Char} (h : Numeral radix cs n) :
    ofDigits radix cs = (bounded n).map UInt64.ofNat := by
  rw [ofDigits, foldlM_of_numeral h]

theorem numeral_of_ofDigits {radix : Nat} {cs : List Char} (hne : cs ≠ []) {v : Address}
    (h : ofDigits radix cs = .ok v) : Numeral radix cs v.toNat := by
  cases htotal : cs.foldlM (addDigit radix) 0 with
  | error fault =>
    rw [ofDigits, htotal] at h
    cases h
  | ok n =>
    have hnumeral := numeral_of_foldlM hne htotal
    rw [foldlM_of_numeral hnumeral, bounded] at htotal
    split at htotal
    next hfits =>
      rw [ofDigits_of_numeral hnumeral, bounded, if_pos hfits] at h
      obtain rfl : UInt64.ofNat n = v := Except.ok.inj h
      rwa [UInt64.toNat_ofNat_of_lt' hfits]
    · cases htotal

/-! ## Signs -/

theorem not_isDigit_plus : ∀ value < 16, ¬ IsDigit '+' value := by decide

theorem not_isDigit_mark : ∀ value < 16, ¬ IsDigit 'x' value ∧ ¬ IsDigit 'X' value := by decide

/-- A numeral is no spelling with a sign. -/
theorem ofSignedDigits_of_numeral {radix n : Nat} {cs : List Char} (h : Numeral radix cs n) :
    ofSignedDigits radix cs = ofDigits radix cs := by
  have hplus : '+' ∉ cs := by
    intro hmem
    obtain ⟨value, -, hdigit⟩ := h.isDigit '+' hmem
    exact not_isDigit_plus value hdigit.1 hdigit
  unfold ofSignedDigits
  split
  · exact absurd rfl h.ne_nil
  · exact absurd (List.mem_singleton_self _) hplus
  · exact absurd List.mem_cons_self hplus
  · rfl

theorem ofSignedDigits_of_signed {radix n : Nat} {cs : List Char} (h : Signed radix cs n) :
    ofSignedDigits radix cs = (bounded n).map UInt64.ofNat := by
  obtain ⟨sign, digits, rfl, hsign, hdigits⟩ := h
  rw [← ofDigits_of_numeral hdigits]
  rcases hsign with rfl | rfl
  · exact ofSignedDigits_of_numeral hdigits
  · cases digits with
    | nil => exact absurd rfl hdigits.ne_nil
    | cons c rest => rfl

theorem signed_of_ofSignedDigits {radix : Nat} {cs : List Char} {v : Address}
    (h : ofSignedDigits radix cs = .ok v) : Signed radix cs v.toNat := by
  unfold ofSignedDigits at h
  split at h
  · cases h
  · cases h
  next digits hmore =>
    exact ⟨['+'], digits, rfl, .inr rfl, numeral_of_ofDigits (fun hnil => hmore (by rw [hnil])) h⟩
  next hne _ _ => exact ⟨[], cs, rfl, .inl rfl, numeral_of_ofDigits hne h⟩

/-! ## Spellings -/

theorem isBareHex_iff (cs : List Char) : isBareHex cs = true ↔ ∃ n, BareHex cs n := by
  rw [isBareHex, Bool.and_eq_true, decide_eq_true_iff, List.all_eq_true]
  constructor
  · rintro ⟨hlong, hdigits⟩
    have hne : cs ≠ [] := List.length_pos_iff.1 (by omega)
    have hsixteen : ∀ c ∈ cs, ∃ value < 16, IsDigit c value := fun c hc => by
      obtain ⟨value, hvalue⟩ := Option.isSome_iff_exists.1 (hdigits c hc)
      have hdigit := (digitValue?_eq_some_iff c value).1 hvalue
      exact ⟨value, hdigit.1, hdigit⟩
    obtain ⟨n, hn⟩ := exists_numeral hne hsixteen
    exact ⟨n, hlong, hn⟩
  · rintro ⟨n, hlong, hn⟩
    refine ⟨hlong, fun c hc => ?_⟩
    obtain ⟨value, -, hdigit⟩ := hn.isDigit c hc
    rw [(digitValue?_eq_some_iff c value).2 hdigit]
    rfl

/-- A text without the mark is read as digits. -/
theorem ofPlain_of_unmarked {cs : List Char} (hsmall : 'x' ∉ cs) (hcapital : 'X' ∉ cs) :
    ofPlain cs = ofSignedDigits (if isBareHex cs then 16 else 10) cs := by
  unfold ofPlain
  split
  · simp at hsmall
  · simp at hcapital
  · rfl

/-- Neither form of the mark is a digit. -/
theorem unmarked_of_numeral {radix n : Nat} {cs : List Char} (h : Numeral radix cs n) :
    'x' ∉ cs ∧ 'X' ∉ cs := by
  constructor <;> intro hmem <;> obtain ⟨value, -, hdigit⟩ := h.isDigit _ hmem
  · exact (not_isDigit_mark value hdigit.1).1 hdigit
  · exact (not_isDigit_mark value hdigit.1).2 hdigit

theorem unmarked_of_signed {radix n : Nat} {cs : List Char} (h : Signed radix cs n) :
    'x' ∉ cs ∧ 'X' ∉ cs := by
  obtain ⟨sign, digits, rfl, hsign, hdigits⟩ := h
  obtain ⟨hsmall, hcapital⟩ := unmarked_of_numeral hdigits
  rcases hsign with rfl | rfl
  · exact ⟨hsmall, hcapital⟩
  · simp [hsmall, hcapital]

/-- A spelling is read as its number, or refused if that is too large. -/
theorem ofPlain_of_spelling {cs : List Char} {n : Nat} (h : Spelling cs n) :
    ofPlain cs = (bounded n).map UInt64.ofNat := by
  cases h with
  | marked hmark hsigned =>
    rw [← ofSignedDigits_of_signed hsigned]
    rcases hmark with rfl | rfl <;> rfl
  | bare hbare =>
    obtain ⟨hsmall, hcapital⟩ := unmarked_of_numeral hbare.2
    rw [ofPlain_of_unmarked hsmall hcapital, if_pos ((isBareHex_iff cs).2 ⟨n, hbare⟩),
      ofSignedDigits_of_numeral hbare.2, ofDigits_of_numeral hbare.2]
  | decimal hbare hsigned =>
    obtain ⟨hsmall, hcapital⟩ := unmarked_of_signed hsigned
    have hdecimal : ¬ isBareHex cs = true := by
      rw [isBareHex_iff]
      rintro ⟨m, hm⟩
      exact hbare m hm
    rw [ofPlain_of_unmarked hsmall hcapital, if_neg hdecimal, ofSignedDigits_of_signed hsigned]

/-- What is read as an address is a spelling of it. -/
theorem spelling_of_ofPlain {cs : List Char} {v : Address} (h : ofPlain cs = .ok v) :
    Spelling cs v.toNat := by
  unfold ofPlain at h
  split at h
  · exact .marked (.inl rfl) (signed_of_ofSignedDigits h)
  · exact .marked (.inr rfl) (signed_of_ofSignedDigits h)
  · split at h
    next hbare =>
      obtain ⟨m, hm⟩ := (isBareHex_iff cs).1 hbare
      rw [ofSignedDigits_of_numeral hm.2] at h
      exact .bare ⟨hm.1, numeral_of_ofDigits hm.2.ne_nil h⟩
    next hbare =>
      refine .decimal (fun m hm => hbare ?_) (signed_of_ofSignedDigits h)
      exact (isBareHex_iff cs).2 ⟨m, hm⟩

/-! ## Addresses as they are written -/

/-- The characters of a text without backticks. -/
def withoutBackticks (cs : List Char) : List Char := cs.filter fun c => c != '\x60'

/-- Nothing is trimmed where there are no blanks. -/
theorem trimBlanks_of_noBlank {cs : List Char} (h : ∀ c ∈ cs, isBlank c = false) :
    trimBlanks cs = cs := by
  have hkeeps : ∀ ds : List Char, (∀ c ∈ ds, isBlank c = false) → ds.dropWhile isBlank = ds := by
    intro ds hds
    cases ds with
    | nil => rfl
    | cons c rest => exact List.dropWhile_cons_of_neg (by simp [hds c List.mem_cons_self])
  rw [trimBlanks, hkeeps cs h, hkeeps cs.reverse fun c hc => h c (List.mem_reverse.1 hc),
    List.reverse_reverse]

/-- A spelling has no blank in it. -/
theorem noBlank_of_spelling {cs : List Char} {n : Nat} (h : Spelling cs n) :
    ∀ c ∈ cs, isBlank c = false := by
  have hnumeral {radix m : Nat} {digits : List Char} (hdigits : Numeral radix digits m) :
      ∀ c ∈ digits, isBlank c = false := by
    intro c hc
    obtain ⟨value, -, hdigit⟩ := hdigits.isDigit c hc
    exact hdigit.isBlank_eq_false
  have hsigned {radix m : Nat} {cs : List Char} (h : Signed radix cs m) :
      ∀ c ∈ cs, isBlank c = false := by
    obtain ⟨sign, digits, rfl, hsign, hdigits⟩ := h
    have hplus : isBlank '+' = false := by decide
    have hplain : ∀ c ∈ sign, isBlank c = false := by rcases hsign with rfl | rfl <;> simp [hplus]
    exact List.forall_mem_append.2 ⟨hplain, hnumeral hdigits⟩
  cases h with
  | @marked mark _ _ hmark hafter =>
    have hforms : isBlank '0' = false ∧ isBlank 'x' = false ∧ isBlank 'X' = false := by decide
    have hplain : ∀ c ∈ mark, isBlank c = false := by rcases hmark with rfl | rfl <;> simp [hforms]
    exact List.forall_mem_append.2 ⟨hplain, hsigned hafter⟩
  | bare hbare => exact hnumeral hbare.2
  | decimal _ hafter => exact hsigned hafter

/-- Backticks may stand anywhere, also around a spelling. -/
theorem trimBlanks_of_spelling {cs : List Char} {n : Nat}
    (h : Spelling (withoutBackticks cs) n) : trimBlanks cs = cs := by
  refine trimBlanks_of_noBlank fun c hc => ?_
  by_cases hbacktick : c = '\x60'
  · rw [hbacktick]
    rfl
  · exact noBlank_of_spelling h c (List.mem_filter.2 ⟨hc, by simpa using hbacktick⟩)

theorem toLower_mark : ∀ n < 26, ∀ c, (Char.ofNat (0x41 + n)).toLower = c →
    c ≠ '0' ∧ (c = 'x' → Char.ofNat (0x41 + n) = 'X') := by
  simp only [forall_eq']
  decide

/-- The mark in lower case is one of the two forms of the mark. -/
theorem mark_of_toLower {zero letter : Char} (hzero : zero.toLower = '0')
    (hletter : letter.toLower = 'x') :
    [zero, letter] = ['0', 'x'] ∨ [zero, letter] = ['0', 'X'] := by
  have hfirst : zero = '0' := by
    rcases toLower_eq_or_capital zero with hsmall | ⟨n, hn, rfl⟩
    · rw [← hsmall, hzero]
    · exact absurd hzero (toLower_mark n hn _ rfl).1
  rcases toLower_eq_or_capital letter with hsmall | ⟨n, hn, rfl⟩
  · exact .inl (by rw [hfirst, ← hsmall, hletter])
  · exact .inr (by rw [hfirst, (toLower_mark n hn _ rfl).2 hletter])

section Written

variable {cs : List Char} {n : Nat}

theorem spelling_of_prefixed (h : cs.map Char.toLower = (Hex.prefixed n).toList) :
    Spelling cs n := by
  have hdigits : (Hex.prefixed n).toList = '0' :: 'x' :: Nat.toDigits 16 n := by
    simp [Hex.prefixed, Hex.digits]
  rw [hdigits] at h
  obtain ⟨zero, afterZero, rfl, hzero, h⟩ := List.map_eq_cons_iff.1 h
  obtain ⟨letter, digits, rfl, hletter, h⟩ := List.map_eq_cons_iff.1 h
  have hnumeral : Numeral 16 digits n :=
    .of_map_toLower (h ▸ numeral_toDigits (by decide) (by decide) n)
  have hmark := mark_of_toLower hzero hletter
  change Spelling ([zero, letter] ++ digits) n
  exact .marked hmark ⟨[], digits, rfl, .inl rfl, hnumeral⟩

theorem spelling_of_padded (h : cs.map Char.toLower = (Hex.padded 16 n).toList) :
    Spelling cs n := by
  rw [Hex.padded, String.toList_ofList] at h
  have hlength : cs.length = max 16 (Nat.toDigits 16 n).length := by
    rw [← List.length_map (f := Char.toLower), h, List.length_leftpad]
  have hnumeral : Numeral 16 (Nat.toDigits 16 n) n := numeral_toDigits (by decide) (by decide) n
  exact .bare ⟨by omega, .of_map_toLower (h ▸ hnumeral.leftpad (by decide) 16)⟩

theorem spelling_of_digits (hlarge : 0x10000 ≤ n)
    (h : cs.map Char.toLower = (Hex.digits n).toList) : Spelling cs n := by
  rw [Hex.digits, String.toList_ofList] at h
  have hlength : ¬ (Nat.toDigits 16 n).length ≤ 4 := by
    rw [Nat.length_toDigits_le_iff (by decide) (by decide)]
    omega
  rw [← h, List.length_map] at hlength
  exact .bare ⟨by omega, .of_map_toLower (h ▸ numeral_toDigits (by decide) (by decide) n)⟩

end Written

/-- A text is read as an address exactly if it is a spelling of it, without the blanks around it and
without its backticks.  A spelling of a number that no address has is refused as too large.  So an
address that is written with the mark, in all its sixteen digits, or as five or more digits is read
again, in whatever case its digits are typed and wherever backticks stand among them. -/
theorem ofText_spelling (text : String) :
    (∀ v, ofText text = .ok v ↔
      Spelling (withoutBackticks (trimBlanks text.toList)) v.toNat) ∧
    (∀ n, Spelling (withoutBackticks (trimBlanks text.toList)) n → wordLimit ≤ n →
      ofText text = .error .tooLarge) ∧
    ∀ v : Address,
      (withoutBackticks text.toList).map Char.toLower = (Hex.prefixed v.toNat).toList ∨
      (withoutBackticks text.toList).map Char.toLower = (Hex.padded 16 v.toNat).toList ∨
      0x10000 ≤ v ∧
        (withoutBackticks text.toList).map Char.toLower = (Hex.digits v.toNat).toList →
      ofText text = .ok v := by
  have hreads {cs : List Char} {v : Address} (h : Spelling cs v.toNat) : ofPlain cs = .ok v := by
    rw [ofPlain_of_spelling h, bounded, if_pos (show v.toNat < wordLimit from v.toNat_lt)]
    exact congrArg Except.ok (UInt64.ofNat_toNat)
  refine ⟨fun v => ⟨spelling_of_ofPlain, hreads⟩, ?_, ?_⟩
  · intro n hspelling hlarge
    have hrefused := ofPlain_of_spelling hspelling
    rw [bounded, if_neg (Nat.not_lt.2 hlarge)] at hrefused
    exact hrefused
  · intro v hwritten
    have hspelling : Spelling (withoutBackticks text.toList) v.toNat := by
      rcases hwritten with hprefixed | hpadded | ⟨hlarge, hdigits⟩
      · exact spelling_of_prefixed hprefixed
      · exact spelling_of_padded hpadded
      · exact spelling_of_digits (UInt64.le_iff_toNat_le.1 hlarge) hdigits
    have htrim := trimBlanks_of_spelling hspelling
    have hread := hreads hspelling
    rw [← htrim] at hread
    exact hread

/-- An address in capitals with a backtick, a number behind the mark that is too large, and an address
in decimal with a sign. -/
theorem ofText_spelling_forms :
    ofText "FFFFF800\x6000001000" = .ok 0xFFFFF80000001000 ∧
    ofText "0x1\x600000000000000000" = .error .tooLarge ∧
    ofText "+65536" = .ok 65536 := by
  refine ⟨?_, ?_, ?_⟩
  · exact (ofText_spelling _).2.2 0xFFFFF80000001000 (.inr (.inl (by decide)))
  · exact (ofText_spelling _).2.1 wordLimit (spelling_of_prefixed (by decide)) (Nat.le_refl _)
  · refine ((ofText_spelling "+65536").1 65536).2 (.decimal ?_ ?_)
    · rw [← not_exists, ← isBareHex_iff]
      decide
    · exact ⟨['+'], Nat.toDigits 10 65536, by decide, .inr rfl,
        numeral_toDigits (by decide) (by decide) 65536⟩

end KernelScope.Address
