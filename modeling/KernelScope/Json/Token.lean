import KernelScope.Text.Hex
import KernelScope.Text.Units16

/-!
# Tokens of a JSON text

The scanner reads a text one character at a time.  Between tokens it skips blanks; inside a string it
collects characters and escapes; letters, digits and signs in a row make one bare word, which has to
be a number or one of the three names.
-/

set_option autoImplicit false

namespace KernelScope.Json

/-! ## Tokens -/

/-- The smallest parts of a JSON text. -/
inductive Token where
  | openArray
  | closeArray
  | openObject
  | closeObject
  | colon
  | comma
  | null
  | bool (value : Bool)
  | number (literal : String)
  | string (text : Option String)
  deriving DecidableEq, Repr

/-! ## Strings -/

/-- A part of a string literal: a character, or a sixteen-bit unit from an escape with four
digits. -/
inductive Piece where
  | char (c : Char)
  | unit (value : UInt16)
  deriving DecidableEq, Repr

/-- The text that the pieces denote after the characters `done`, which are in reverse.  Two escaped
units next to each other may be the halves of one character; half a pair alone denotes nothing. -/
def pieceText (done : List Char) : List Piece → Option String
  | [] => some (String.ofList done.reverse)
  | .char c :: rest => pieceText (c :: done) rest
  | .unit high :: .unit low :: rest =>
    if Text.isHighSurrogate high then
      if Text.isLowSurrogate low then pieceText (Text.pairedChar high low :: done) rest else none
    else if Text.isLowSurrogate high then none
    else pieceText (Char.ofNat high.toNat :: done) (.unit low :: rest)
  | .unit value :: rest =>
    if Text.isHighSurrogate value || Text.isLowSurrogate value then none
    else pieceText (Char.ofNat value.toNat :: done) rest

/-- What a backslash and one character stand for. -/
def shortEscape? : Char → Option Char
  | '"' => some '"'
  | '\\' => some '\\'
  | '/' => some '/'
  | 'b' => some '\x08'
  | 'f' => some '\x0c'
  | 'n' => some '\n'
  | 'r' => some '\r'
  | 't' => some '\t'
  | _ => none

/-! ## Bare words -/

/-- Whether the character can be part of a number or a name. -/
def isBare (c : Char) : Bool := c.isAlphanum || c == '+' || c == '-' || c == '.'

/-- The digits before a point: one, or several of which the first is no zero. -/
def isWholePart (digits : List Char) : Bool :=
  match digits with
  | [] => false
  | '0' :: rest => rest.isEmpty
  | _ => digits.all Char.isDigit

/-- Nothing, or an exponent. -/
def isExponentPart : List Char → Bool
  | [] => true
  | mark :: rest =>
    let digits := match rest with
      | '+' :: digits => digits
      | '-' :: digits => digits
      | digits => digits
    (mark == 'e' || mark == 'E') && !digits.isEmpty && digits.all Char.isDigit

/-- Nothing, or a fraction, an exponent or both. -/
def isFractionPart : List Char → Bool
  | '.' :: rest =>
    !(rest.takeWhile Char.isDigit).isEmpty && isExponentPart (rest.dropWhile Char.isDigit)
  | rest => isExponentPart rest

/-- Whether the characters are a JSON number. -/
def isNumber (cs : List Char) : Bool :=
  let body := match cs with
    | '-' :: body => body
    | body => body
  isWholePart (body.takeWhile Char.isDigit) && isFractionPart (body.dropWhile Char.isDigit)

/-- The token that a bare word is. -/
def bareToken? (word : List Char) : Option Token :=
  if word = ['n', 'u', 'l', 'l'] then some .null
  else if word = ['t', 'r', 'u', 'e'] then some (.bool true)
  else if word = ['f', 'a', 'l', 's', 'e'] then some (.bool false)
  else if isNumber word then some (.number (String.ofList word))
  else none

/-! ## Scanner -/

/-- Where in a token the scanner stands.  What a token has so far is kept in reverse. -/
inductive Mode where
  /-- between two tokens -/
  | between
  /-- inside a bare word -/
  | bare (word : List Char)
  /-- inside a string -/
  | string (pieces : List Piece)
  /-- behind a backslash in a string -/
  | escape (pieces : List Piece)
  /-- inside an escape with four digits, of which `count` with the given value are read -/
  | unit (pieces : List Piece) (count value : Nat)
  deriving DecidableEq, Repr

/-- The tokens read so far, in reverse, and the state inside the next one. -/
structure Scanner where
  tokens : List Token
  mode : Mode
  deriving Repr

namespace Scanner

/-- The state before a text. -/
def start : Scanner := ⟨[], .between⟩

/-- The state behind a finished token. -/
def emit (scanner : Scanner) (token : Token) : Scanner := ⟨token :: scanner.tokens, .between⟩

/-- Reads a character between tokens. -/
def stepBetween (scanner : Scanner) (c : Char) : Option Scanner :=
  match c with
  | '[' => some (scanner.emit .openArray)
  | ']' => some (scanner.emit .closeArray)
  | '{' => some (scanner.emit .openObject)
  | '}' => some (scanner.emit .closeObject)
  | ':' => some (scanner.emit .colon)
  | ',' => some (scanner.emit .comma)
  | '"' => some { scanner with mode := .string [] }
  | ' ' | '\t' | '\n' | '\r' => some { scanner with mode := .between }
  | c => if isBare c then some { scanner with mode := .bare [c] } else none

/-- Reads a character inside a string. -/
def stepString (scanner : Scanner) (pieces : List Piece) (c : Char) : Option Scanner :=
  if c = '"' then some (scanner.emit (.string (pieceText [] pieces.reverse)))
  else if c = '\\' then some { scanner with mode := .escape pieces }
  else if c.toNat < 0x20 then none
  else some { scanner with mode := .string (.char c :: pieces) }

/-- Reads a character. -/
def step (scanner : Scanner) (c : Char) : Option Scanner :=
  match scanner.mode with
  | .between => scanner.stepBetween c
  | .bare word =>
    if isBare c then some { scanner with mode := .bare (c :: word) }
    else (bareToken? word.reverse).bind fun token => (scanner.emit token).stepBetween c
  | .string pieces => scanner.stepString pieces c
  | .escape pieces =>
    if c = 'u' then some { scanner with mode := .unit pieces 0 0 }
    else (shortEscape? c).map fun e => { scanner with mode := .string (.char e :: pieces) }
  | .unit pieces count value =>
    (Hex.digitValue? c).map fun digit =>
      let value := 16 * value + digit
      if count = 3 then { scanner with mode := .string (.unit (UInt16.ofNat value) :: pieces) }
      else { scanner with mode := .unit pieces (count + 1) value }

/-- The tokens at the end of a text, in order. -/
def finish (scanner : Scanner) : Option (List Token) :=
  match scanner.mode with
  | .between => some scanner.tokens.reverse
  | .bare word => (bareToken? word.reverse).map fun token => (token :: scanner.tokens).reverse
  | _ => none

end Scanner

/-- The tokens of a text, if it consists of tokens. -/
def scan (cs : List Char) : Option (List Token) :=
  (cs.foldlM Scanner.step Scanner.start).bind Scanner.finish

end KernelScope.Json
