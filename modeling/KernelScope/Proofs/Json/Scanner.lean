import KernelScope.Json.Printer
import KernelScope.Json.Token
import KernelScope.Proofs.Text.Hex
import KernelScope.Proofs.Text.Units16

/-!
# Scanning what the printer writes

Each part of a text is scanned from a state between two tokens and before any further characters, so
that parts compose.  What follows a part matters in one place only: a bare word ends where a
character that cannot be part of one begins.
-/

set_option autoImplicit false

namespace KernelScope.Json

/-! ## Scanning on -/

/-- What the scanner makes of the characters that are left. -/
def scanFrom (scanner : Scanner) (cs : List Char) : Option (List Token) :=
  (cs.foldlM Scanner.step scanner).bind Scanner.finish

theorem scanFrom_nil (scanner : Scanner) : scanFrom scanner [] = scanner.finish := rfl

theorem scanFrom_cons (scanner : Scanner) (c : Char) (cs : List Char) :
    scanFrom scanner (c :: cs) = (scanner.step c).bind (scanFrom · cs) := by
  unfold scanFrom
  rw [List.foldlM_cons]
  cases scanner.step c <;> rfl

/-- No bare word goes on into the characters. -/
def EndsWord (cs : List Char) : Prop := ∀ c ∈ cs.head?, isBare c = false

/-- Between two tokens, the characters are scanned as the tokens. -/
def ScansAs (cs : List Char) (spelled : List Token) : Prop :=
  ∀ (done : List Token) (rest : List Char), EndsWord rest →
    scanFrom ⟨done, .between⟩ (cs ++ rest) = scanFrom ⟨spelled.reverse ++ done, .between⟩ rest

theorem endsWord_nil : EndsWord [] := by simp [EndsWord]

theorem endsWord_cons {c : Char} (h : isBare c = false) (cs : List Char) : EndsWord (c :: cs) := by
  simpa [EndsWord] using h

/-! ## Marks and blanks -/

/-- A mark between values is a token of its own. -/
theorem scan_mark {c : Char} {token : Token} {done : List Token}
    (h : Scanner.step ⟨done, .between⟩ c = some ⟨token :: done, .between⟩) (cs : List Char) :
    scanFrom ⟨done, .between⟩ (c :: cs) = scanFrom ⟨token :: done, .between⟩ cs := by
  rw [scanFrom_cons, h, Option.bind_some]

theorem scan_space (done : List Token) (cs : List Char) :
    scanFrom ⟨done, .between⟩ (' ' :: cs) = scanFrom ⟨done, .between⟩ cs :=
  scanFrom_cons _ _ _

theorem scan_spaces (done : List Token) (n : Nat) (cs : List Char) :
    scanFrom ⟨done, .between⟩ (List.replicate n ' ' ++ cs) = scanFrom ⟨done, .between⟩ cs := by
  induction n with
  | zero => rfl
  | succ n ih => rw [List.replicate_succ, List.cons_append, scan_space, ih]

theorem scan_newLine (done : List Token) (depth : Nat) (cs : List Char) :
    scanFrom ⟨done, .between⟩ (newLine depth ++ cs) = scanFrom ⟨done, .between⟩ cs := by
  unfold newLine
  rw [List.cons_append, scanFrom_cons]
  exact scan_spaces done (2 * depth) cs

/-! ## Bare words -/

theorem isBare_of_isDigit {c : Char} (h : c.isDigit = true) : isBare c = true := by
  simp [isBare, Char.isAlphanum, h]

theorem step_of_isBare {c : Char} (h : isBare c = true) (done : List Token) :
    Scanner.step ⟨done, .between⟩ c = some ⟨done, .bare [c]⟩ := by
  change Scanner.stepBetween ⟨done, .between⟩ c = _
  unfold Scanner.stepBetween
  -- no mark, quote or blank is a bare character
  split <;> first
    | exact absurd h (by decide)
    | rw [if_pos h]

theorem scan_bare (done : List Token) (word cs rest : List Char)
    (h : ∀ c ∈ cs, isBare c = true) :
    scanFrom ⟨done, .bare word⟩ (cs ++ rest) =
      scanFrom ⟨done, .bare (cs.reverse ++ word)⟩ rest := by
  induction cs generalizing word with
  | nil => rfl
  | cons c cs ih =>
    have hc : isBare c = true := h c List.mem_cons_self
    rw [List.cons_append, scanFrom_cons]
    simp only [Scanner.step, hc, if_true, Option.bind_some]
    rw [ih (c :: word) (fun d hd => h d (List.mem_cons_of_mem c hd))]
    simp only [List.reverse_cons, List.append_assoc, List.singleton_append]

theorem scan_endsWord {word : List Char} {token : Token}
    (hword : bareToken? word.reverse = some token) {rest : List Char} (hrest : EndsWord rest)
    (done : List Token) :
    scanFrom ⟨done, .bare word⟩ rest = scanFrom ⟨token :: done, .between⟩ rest := by
  cases rest with
  | nil => simp [scanFrom_nil, Scanner.finish, hword]
  | cons c cs =>
    have hc : isBare c = false := hrest c (by simp)
    rw [scanFrom_cons, scanFrom_cons]
    simp [Scanner.step, hc, hword, Scanner.emit]

/-- A word of bare characters is scanned as its token. -/
theorem scansAs_bare {word : List Char} {token : Token} (hne : word ≠ [])
    (hbare : word.all isBare = true) (hword : bareToken? word = some token) :
    ScansAs word [token] := by
  intro done rest hrest
  obtain ⟨c, cs, rfl⟩ := List.exists_cons_of_ne_nil hne
  rw [List.all_eq_true] at hbare
  have hc : isBare c = true := hbare c List.mem_cons_self
  have hcs : ∀ d ∈ cs, isBare d = true := fun d hd => hbare d (List.mem_cons_of_mem c hd)
  rw [List.cons_append, scanFrom_cons, step_of_isBare hc, Option.bind_some,
    scan_bare done [c] cs rest hcs]
  exact scan_endsWord (by simpa using hword) hrest done

/-! ## Numbers -/

theorem isBare_of_isExponentPart {cs : List Char} (h : isExponentPart cs = true) :
    ∀ c ∈ cs, isBare c = true := by
  unfold isExponentPart at h
  split at h
  next => simp
  next mark rest =>
    simp only [Bool.and_eq_true, Bool.or_eq_true, beq_iff_eq, List.all_eq_true] at h
    obtain ⟨⟨hmark, -⟩, hdigits⟩ := h
    have hrest : ∀ c ∈ rest, isBare c = true := by
      split at hdigits
      next digits =>
        exact List.forall_mem_cons.2 ⟨by decide, fun c hc => isBare_of_isDigit (hdigits c hc)⟩
      next digits =>
        exact List.forall_mem_cons.2 ⟨by decide, fun c hc => isBare_of_isDigit (hdigits c hc)⟩
      next => exact fun c hc => isBare_of_isDigit (hdigits c hc)
    refine List.forall_mem_cons.2 ⟨?_, hrest⟩
    rcases hmark with rfl | rfl <;> decide

theorem isBare_of_dropDigits {cs : List Char}
    (h : ∀ c ∈ cs.dropWhile Char.isDigit, isBare c = true) : ∀ c ∈ cs, isBare c = true := by
  intro c hc
  rw [← List.takeWhile_append_dropWhile (p := Char.isDigit) (l := cs), List.mem_append] at hc
  rcases hc with hc | hc
  · have hdigit : (cs.takeWhile Char.isDigit).all Char.isDigit = true := List.all_takeWhile
    exact isBare_of_isDigit (List.all_eq_true.1 hdigit c hc)
  · exact h c hc

theorem isBare_of_isFractionPart {cs : List Char} (h : isFractionPart cs = true) :
    ∀ c ∈ cs, isBare c = true := by
  unfold isFractionPart at h
  split at h
  next rest =>
    simp only [Bool.and_eq_true] at h
    have hrest := isBare_of_dropDigits (isBare_of_isExponentPart h.2)
    exact List.forall_mem_cons.2 ⟨by decide, hrest⟩
  next => exact isBare_of_isExponentPart h

theorem isBare_of_isNumber {cs : List Char} (h : isNumber cs = true) :
    ∀ c ∈ cs, isBare c = true := by
  unfold isNumber at h
  simp only [Bool.and_eq_true] at h
  have hbody := isBare_of_dropDigits (isBare_of_isFractionPart h.2)
  split at hbody
  next => exact List.forall_mem_cons.2 ⟨by decide, hbody⟩
  next => exact hbody

/-- No name is a number. -/
theorem bareToken?_of_isNumber {cs : List Char} (h : isNumber cs = true) :
    bareToken? cs = some (.number (String.ofList cs)) := by
  have hname : ∀ word : List Char, isNumber word = false → cs ≠ word := by
    rintro word hword rfl
    rw [hword] at h
    exact Bool.noConfusion h
  unfold bareToken?
  rw [if_neg (hname _ (by decide)), if_neg (hname _ (by decide)), if_neg (hname _ (by decide)),
    if_pos h]

theorem scansAs_number {literal : String} (h : isNumber literal.toList = true) :
    ScansAs literal.toList [.number literal] := by
  have hne : literal.toList ≠ [] := by
    intro hnil
    rw [hnil] at h
    exact Bool.noConfusion h
  have hword := bareToken?_of_isNumber h
  rw [String.ofList_toList] at hword
  exact scansAs_bare hne (List.all_eq_true.2 (isBare_of_isNumber h)) hword

/-! ## Strings -/

/-- Whether the character is escaped by its number. -/
def isNumbered (c : Char) : Bool :=
  c.toNat < 0x20 && !(['\x08', '\x0c', '\n', '\r', '\t'].contains c)

/-- The part of a literal that the printer writes for a character. -/
def pieceOf (c : Char) : Piece :=
  if isNumbered c then .unit (UInt16.ofNat c.toNat) else .char c

theorem toNat_ofNat_of_isNumbered {c : Char} (h : isNumbered c = true) :
    (UInt16.ofNat c.toNat).toNat = c.toNat ∧ c.toNat < 0x20 := by
  simp only [isNumbered, Bool.and_eq_true, decide_eq_true_eq] at h
  rw [UInt16.toNat_ofNat']
  omega

theorem pieceText_unit {value : UInt16} (hhigh : Text.isHighSurrogate value = false)
    (hlow : Text.isLowSurrogate value = false) (done : List Char) (rest : List Piece) :
    pieceText done (.unit value :: rest) =
      pieceText (Char.ofNat value.toNat :: done) rest := by
  cases rest with
  | nil => simp [pieceText, hhigh, hlow]
  | cons piece rest => cases piece <;> simp [pieceText, hhigh, hlow]

theorem pieceText_pieceOf (c : Char) (done : List Char) (rest : List Piece) :
    pieceText done (pieceOf c :: rest) = pieceText (c :: done) rest := by
  unfold pieceOf
  split
  next hnumbered =>
    obtain ⟨hvalue, hlt⟩ := toNat_ofNat_of_isNumbered hnumbered
    have hsmall : (UInt16.ofNat c.toNat).toNat < 0xD800 := by omega
    obtain ⟨hhigh, hlow⟩ := Text.not_surrogate_of_lt hsmall
    rw [pieceText_unit hhigh hlow, hvalue, Char.ofNat_toNat]
  next => rw [pieceText]

theorem pieceText_map_pieceOf (cs done : List Char) :
    pieceText done (cs.map pieceOf) = some (String.ofList (done.reverse ++ cs)) := by
  induction cs generalizing done with
  | nil => simp [pieceText]
  | cons c cs ih =>
    rw [List.map_cons, pieceText_pieceOf, ih]
    simp only [List.reverse_cons, List.append_assoc, List.singleton_append]

theorem scan_numberedEscape {c : Char} (h : c.toNat < 0x20) (done : List Token)
    (pieces : List Piece) (cs : List Char) :
    scanFrom ⟨done, .string pieces⟩
        (['\\', 'u', '0', '0'] ++ Hex.byteDigits (UInt8.ofNat c.toNat) ++ cs) =
      scanFrom ⟨done, .string (.unit (UInt16.ofNat c.toNat) :: pieces)⟩ cs := by
  have hbyte : (UInt8.ofNat c.toNat).toNat = c.toNat := by
    rw [UInt8.toNat_ofNat']
    omega
  have hhigh := Hex.digitValue?_digitChar (n := c.toNat / 16) (by omega)
  have hlow := Hex.digitValue?_digitChar (n := c.toNat % 16) (by omega)
  have hvalue : 16 * (c.toNat / 16) + c.toNat % 16 = c.toNat := Nat.div_add_mod c.toNat 16
  have hzero : Hex.digitValue? '0' = some 0 := by decide
  have hunit : 16 * UInt16.ofNat (c.toNat / 16) + UInt16.ofNat (c.toNat % 16) =
      UInt16.ofNat c.toNat := by
    rw [← hvalue, UInt16.ofNat_add, UInt16.ofNat_mul]
    simp only [hvalue]
    rfl
  simp [Hex.byteDigits, hbyte, scanFrom_cons, Scanner.step, Scanner.stepString, hhigh, hlow, hzero,
    hunit]

theorem scan_escapeChar (c : Char) (done : List Token) (pieces : List Piece) (cs : List Char) :
    scanFrom ⟨done, .string pieces⟩ (escapeChar c ++ cs) =
      scanFrom ⟨done, .string (pieceOf c :: pieces)⟩ cs := by
  -- the eight ways to write a character, in the order of the printer
  unfold escapeChar
  split
  next h => subst h; rfl
  split
  next h => subst h; rfl
  split
  next h => subst h; rfl
  split
  next h => subst h; rfl
  split
  next h => subst h; rfl
  split
  next h => subst h; rfl
  split
  next h => subst h; rfl
  next hquote hslash hb hf hn hr ht =>
    split
    next hlt =>
      have hpiece : pieceOf c = .unit (UInt16.ofNat c.toNat) := by
        simp [pieceOf, isNumbered, hlt, hb, hf, hn, hr, ht]
      rw [hpiece, scan_numberedEscape hlt]
    next hlt =>
      have hpiece : pieceOf c = .char c := by simp [pieceOf, isNumbered, hlt]
      rw [hpiece, List.singleton_append, scanFrom_cons]
      simp [Scanner.step, Scanner.stepString, hquote, hslash, hlt]

theorem scan_escapedText (text : List Char) (done : List Token) (pieces : List Piece)
    (cs : List Char) :
    scanFrom ⟨done, .string pieces⟩ (text.flatMap escapeChar ++ cs) =
      scanFrom ⟨done, .string ((text.map pieceOf).reverse ++ pieces)⟩ cs := by
  induction text generalizing pieces with
  | nil => rfl
  | cons c text ih =>
    rw [List.flatMap_cons, List.append_assoc, scan_escapeChar, ih]
    simp only [List.map_cons, List.reverse_cons, List.append_assoc, List.singleton_append]

theorem scan_quote (text : Option String) (done : List Token) (cs : List Char) :
    scanFrom ⟨done, .between⟩ (quote text ++ cs) =
      scanFrom ⟨.string text :: done, .between⟩ cs := by
  cases text with
  | none => rfl
  | some text =>
    have htext : pieceText [] (text.toList.map pieceOf) = some text := by
      rw [pieceText_map_pieceOf, List.reverse_nil, List.nil_append, String.ofList_toList]
    unfold quote
    rw [List.append_assoc, List.cons_append, scanFrom_cons]
    change scanFrom ⟨done, .string []⟩ _ = _
    rw [scan_escapedText, List.append_nil, List.singleton_append, scanFrom_cons]
    simp [Scanner.step, Scanner.stepString, Scanner.emit, htext]

end KernelScope.Json
