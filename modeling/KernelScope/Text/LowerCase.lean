import KernelScope.Text.CaseTable

/-!
# Lower case of a text

Names of kernel objects are compared without regard to case.  `lowerCase` is the full mapping of the
Unicode standard: every character has a lower case of its own, but for two.  The dotted capital I
becomes two characters, and a capital sigma becomes a final sigma at the end of a word.
-/

set_option autoImplicit false

namespace KernelScope.Text

/-- The lower case of one character, whatever stands around it. -/
def lowerChar (c : Char) : List Char :=
  if c = 'İ' then ['i', '\u0307'] else [Char.ofNat (lowerCode c.toNat)]

/-- Whether a letter is the first character of `rest` that is not skipped. -/
def startsWithLetter (rest : List Char) : Bool :=
  match rest.dropWhile isCaseIgnorable with
  | c :: _ => isCased c
  | [] => false

/-- A capital sigma is final when a letter stands before it and none after it. -/
def lowerSigma (afterLetter : Bool) (rest : List Char) : Char :=
  if afterLetter && !startsWithLetter rest then 'ς' else 'σ'

/-- The lower case of a text that follows a letter, or does not, as `afterLetter` says. -/
def lowerCaseAfter (afterLetter : Bool) : List Char → List Char
  | [] => []
  | c :: rest =>
    (if c = 'Σ' then [lowerSigma afterLetter rest] else lowerChar c) ++
      lowerCaseAfter (if isCaseIgnorable c then afterLetter else isCased c) rest

/-- The lower case of a text. -/
def lowerCase (text : String) : String :=
  String.ofList (lowerCaseAfter false text.toList)

end KernelScope.Text
