import TerminalReel.Document.Markup
import TerminalReel.Numeric.Decimal
import TerminalReel.Text.Hex
/-!
# TerminalReel.Proofs.Document.Entities

**Entities read again**: what a reader of a document makes of the references that
stand in for characters.

The reader here knows all that a document may hold, not only what is printed: the
five characters with a name and any character by its number. What is no reference
stands for itself. Escaping and reading again gives back every text
(`decode_escape`), so nothing that a user writes is lost or changed in a document.
-/

namespace TerminalReel

namespace Markup

/-- The characters that have a name. -/
def namedCharacters : List (String × Char) :=
  [("amp", '&'), ("lt", '<'), ("gt", '>'), ("quot", '"'), ("apos", '\'')]

/-- The code point that a reference stands for: one with a name, or one by its number
in hexadecimal or in decimal. -/
def referenced? : List Char → Option CodePoint
  | '#' :: 'x' :: digits =>
    if digits = [] then none else (hexNumber? digits).map CodePoint.ofNumber
  | '#' :: digits =>
    if digits ≠ [] ∧ digits.all Char.isDigit then some (.ofNumber (digitsValue digits)) else none
  | name => (namedCharacters.lookup (String.ofList name)).map .char

/-- What stands between `&` and `;` as it is read: the code point that it refers to,
or itself. -/
def readReference (seen : List CodePoint) : List CodePoint :=
  match (Text.mk seen).chars?.bind referenced? with
  | some point => [point]
  | none => .char '&' :: seen ++ [.char ';']

/-- Code points as they are read, behind `&` and what has been seen since. -/
def decodeFrom : Option (List CodePoint) → List CodePoint → List CodePoint
  | none, [] => []
  | some seen, [] => .char '&' :: seen
  | none, point :: rest =>
    if point = .char '&' then decodeFrom (some []) rest else point :: decodeFrom none rest
  | some seen, point :: rest =>
    if point = .char ';' then readReference seen ++ decodeFrom none rest
    else decodeFrom (some (seen ++ [point])) rest

/-- A text of a document as it is read. -/
def decode (text : Text) : Text := ⟨decodeFrom none text.points⟩

/-- An escaped character is read as the character. -/
theorem decodeFrom_escapeChar (c : Char) (rest : List CodePoint) :
    decodeFrom none ((escapeChar c).map .char ++ rest) = .char c :: decodeFrom none rest := by
  unfold escapeChar
  split
  · rfl
  · rfl
  · rfl
  · rfl
  · rfl
  · rename_i plain _ _ _ _
    have other : CodePoint.char c ≠ .char '&' := fun same => plain (CodePoint.char.inj same)
    exact if_neg other

/-- An escaped code point is read as the code point. -/
theorem decodeFrom_expand (points rest : List CodePoint) :
    decodeFrom none ((escape ⟨points⟩).points ++ rest) = points ++ decodeFrom none rest := by
  induction points with
  | nil => rfl
  | cons point others ih =>
      have split : (escape ⟨point :: others⟩).points
          = (escape ⟨[point]⟩).points ++ (escape ⟨others⟩).points :=
        congrArg Text.points (escape_append ⟨[point]⟩ ⟨others⟩)
      rw [split, List.append_assoc]
      cases point with
      | char c =>
          have one : (escape ⟨[.char c]⟩).points = (escapeChar c).map .char := by
            simp [escape, Text.expand]
          rw [one, decodeFrom_escapeChar, ih]
          rfl
      | surrogate offset =>
          have one : (escape ⟨[.surrogate offset]⟩).points = [.surrogate offset] := rfl
          rw [one]
          exact congrArg (CodePoint.surrogate offset :: ·) ih

/-- What is escaped is read as it was. -/
@[simp] theorem decode_escape (text : Text) : decode (escape text) = text := by
  have read := decodeFrom_expand text.points []
  rw [List.append_nil] at read
  ext1
  exact read.trans (List.append_nil _)

/-- References by number are read in both notations, and what is none stands for itself. -/
example : decode "&#x41;&#66; &amp;lt; &nothing; &" = "AB &lt; &nothing; &" := by
  decide +kernel

end Markup

end TerminalReel
