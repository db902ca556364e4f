/-!
# TerminalReel.Text.LineEnds

Text files from any system: every **end of line becomes a line feed**.
-/

namespace TerminalReel

/-- The text with one line feed for every carriage return, alone or before a
line feed. -/
def unifyLineEnds : List Char → List Char
  | '\r' :: '\n' :: rest => '\n' :: unifyLineEnds rest
  | '\r' :: rest => '\n' :: unifyLineEnds rest
  | c :: rest => c :: unifyLineEnds rest
  | [] => []

end TerminalReel
