/-!
# TerminalReel.Text.Boundaries

Sets of characters as the **places where membership changes**.

The sets that Unicode defines are unions of a few hundred intervals. Such a set
is written here as the increasing list of the code points at which it begins or
stops: the first number begins it, the second stops it, and so on.
-/

namespace TerminalReel

/-- The code points at which a set begins and stops, in turn and increasing. -/
abbrev Boundaries := List Nat

namespace Boundaries

/-- A code point belongs to the set if it has passed more beginnings than ends. -/
def contains : Boundaries → Nat → Bool
  | [], _ => false
  | first :: rest, n => if n < first then false else !(contains rest n)

end Boundaries

end TerminalReel
