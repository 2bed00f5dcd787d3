/-!
# Coloured text

Terminal colours are escape codes around a text.  They are written only when colour is wanted.
-/

set_option autoImplicit false

namespace KernelScope.Text

/-- The looks that headings, commands and warnings are given. -/
inductive Style where
  | bold
  | red
  | green
  | cyan
  | boldCyan
  | boldYellow
  deriving DecidableEq, Repr

/-- The parameters of the escape code that turns the style on. -/
def Style.code : Style → String
  | .bold => "1"
  | .red => "31"
  | .green => "32"
  | .cyan => "36"
  | .boldCyan => "1;36"
  | .boldYellow => "1;33"

/-- The text in the given style when `coloured`, else the text alone. -/
def Style.paint (style : Style) (coloured : Bool) (text : String) : String :=
  if coloured then "\x1b[" ++ style.code ++ "m" ++ text ++ "\x1b[0m" else text

end KernelScope.Text
