/-!
# TerminalReel.Text.CharacterTable

**Sets of characters in numbered rows**, as the standards of East Asia arrange them.

A row is written as a string with a blank in every empty place, and ends with its
last character. The places of a row are counted from zero.
-/

namespace TerminalReel

/-- Characters in numbered rows. -/
structure CharacterTable where
  rows : List (Nat × String)

namespace CharacterTable

/-- The character in a place, if there is one. -/
def char? (table : CharacterTable) (row place : Nat) : Option Char :=
  ((table.rows.lookup row).bind fun chars => chars.toList[place]?).filter (· ≠ ' ')

/-- All characters, row by row. -/
def chars (table : CharacterTable) : List Char :=
  table.rows.flatMap fun (_, chars) => chars.toList.filter (· ≠ ' ')

end CharacterTable

/-! ### Characters that no table needs -/

/-- The number that comes when, from a first one on, numbers are counted that are
not among those taken. These are given in increasing order. -/
def countFree (taken : List Nat) (first : Nat) : Nat :=
  taken.foldl (fun number used => if used ≤ number then number + 1 else number) first

end TerminalReel
