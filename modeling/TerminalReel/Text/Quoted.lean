import TerminalReel.Text.Basic
import TerminalReel.Text.Hex
import TerminalReel.Text.Printable
/-!
# TerminalReel.Text.Quoted

A text **between quotes**, as a message shows it.

Single quotes are used, unless the text holds a single quote and no double one.
The quote in use and the backslash are escaped, three controls have a letter,
and every other code point without a visible shape is shown by its number.
-/

namespace TerminalReel

/-- The quote put around a text. -/
def quoteFor (text : Text) : Char :=
  if .char '\'' ∈ text.points ∧ .char '"' ∉ text.points then '"' else '\''

/-- The number of a code point, in the shortest of the three forms that holds it. -/
def numberEscape (number : Nat) : List Char :=
  if number ≤ 0xFF then '\\' :: 'x' :: hexPadded 2 number
  else if number ≤ 0xFFFF then '\\' :: 'u' :: hexPadded 4 number
  else '\\' :: 'U' :: hexPadded 8 number

/-- One character of a text between these quotes. -/
def quotedChar (quote c : Char) : List Char :=
  if c = quote ∨ c = '\\' then ['\\', c]
  else if c = '\n' then ['\\', 'n']
  else if c = '\r' then ['\\', 'r']
  else if c = '\t' then ['\\', 't']
  else if isPrintable c then [c]
  else numberEscape c.toNat

/-- One code point of a text between these quotes; a surrogate has no shape. -/
def quotedPoint (quote : Char) : CodePoint → List Char
  | .char c => quotedChar quote c
  | .surrogate offset => numberEscape (CodePoint.surrogate offset).number

/-- The text between quotes. -/
def quoted (text : Text) : String :=
  let quote := quoteFor text
  String.ofList (quote :: text.points.flatMap (quotedPoint quote) ++ [quote])

end TerminalReel
