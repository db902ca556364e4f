import TerminalReel.Text.Basic
import TerminalReel.Text.Pieces
/-!
# TerminalReel.Storage.Path

File paths: **names in order**, from the root or from the working directory.

Reading a path drops what does not matter to it, empty names and single dots,
and keeps a double dot, since what that leads to is known only to the disk. Two
paths that print alike are the same path.
-/

namespace TerminalReel

/-- A path to a file or a directory. -/
structure Path where
  /-- The number of slashes that begin the path: none for a path from the
  working directory; one or two, which systems may tell apart, from a root. -/
  slashes : Nat := 0
  names : List Text
  deriving DecidableEq

namespace Path

/-- A name that leads somewhere: not empty and not a single dot. -/
def leads (name : Text) : Bool := !name.isEmpty && name ≠ "."

/-- The path that a text writes. -/
def ofText (text : Text) : Path :=
  let slash : CodePoint := .char '/'
  let slashes := (text.points.takeWhile (· == slash)).length
  { slashes := if slashes ≤ 2 then slashes else 1
    names := ((pieces slash text.points).map Text.mk).filter leads }

/-- The path begins at a root. -/
def isAbsolute (path : Path) : Bool := path.slashes != 0

/-- The path as text; a path without names is the directory it begins in. -/
def text (path : Path) : Text :=
  let names := Text.intercalate "/" path.names
  if path.slashes = 0 ∧ path.names = [] then "."
  else Text.ofChars (List.replicate path.slashes '/') ++ names

/-- The path of a file in the directory of this path. -/
def child (path : Path) (name : Text) : Path := { path with names := path.names ++ [name] }

/-- The path of the directory that holds this one; a path without names has no
other. -/
def parent (path : Path) : Path := { path with names := path.names.dropLast }

/-- The last name. -/
def fileName (path : Path) : Text := path.names.getLast?.getD ""

/-- The end of a file's name from its last point on. A point that begins or ends
the name begins no suffix. -/
def suffixOf (name : List CodePoint) : List CodePoint :=
  let point : CodePoint := .char '.'
  let afterPoint := (name.reverse.takeWhile (· != point)).reverse
  let stemLength := name.length - afterPoint.length - 1
  if afterPoint.length < name.length ∧ afterPoint ≠ [] ∧ 0 < stemLength then point :: afterPoint
  else []

/-- The suffix of the last name. -/
def suffix (path : Path) : Text := ⟨suffixOf path.fileName.points⟩

@[simp] theorem fileName_child (path : Path) (name : Text) :
    (path.child name).fileName = name := by
  simp [fileName, child]

end Path

end TerminalReel
