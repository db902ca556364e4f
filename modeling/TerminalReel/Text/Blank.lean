import TerminalReel.Text.Boundaries
/-!
# TerminalReel.Text.Blank

The characters that **only separate**: line ends and blanks.

Two sets are in use. The strict form of a configuration separates by space, tab,
line feed and carriage return alone. The relaxed form also admits the vertical
tab, the form feed, the byte order mark, the two Unicode line ends and every
space separator.
-/

namespace TerminalReel

/-- The space separators of Unicode. -/
def spaceSeparators : Boundaries :=
  [0x20, 0x21, 0xA0, 0xA1, 0x1680, 0x1681, 0x2000, 0x200B, 0x202F, 0x2030, 0x205F, 0x2060, 0x3000,
   0x3001]

/-- The character ends a line. -/
def isLineEnd (c : Char) : Bool :=
  c == '\n' || c == '\r' || c == '\u2028' || c == '\u2029'

/-- The character separates in the strict form. -/
def isStrictBlank (c : Char) : Bool := c == ' ' || c == '\t' || c == '\n' || c == '\r'

/-- The character separates in the relaxed form. -/
def isRelaxedBlank (c : Char) : Bool :=
  isLineEnd c || c == '\t' || c == '\x0b' || c == '\x0c' || c == '\ufeff'
    || spaceSeparators.contains c.toNat

end TerminalReel
