/-!
# TerminalReel.Text.Pieces

A text cut **at every occurrence of one separator**, whatever it is made of.

The pieces are one more than its occurrences. A text without separators is one
piece, and so is the empty text.
-/

namespace TerminalReel

variable {α : Type} [DecidableEq α]

/-- The pieces of a text between the occurrences of a separator. -/
def pieces (separator : α) : List α → List (List α)
  | [] => [[]]
  | c :: rest =>
    if c = separator then [] :: pieces separator rest
    else
      match pieces separator rest with
      | piece :: others => (c :: piece) :: others
      | [] => [[c]]

end TerminalReel
