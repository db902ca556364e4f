/-!
# TerminalReel.Text.Basic

The texts that a document holds: sequences of **code points**.

A document may write half of a surrogate pair by its number, so a text is more
than a `String`, which holds characters only. A text of characters and the
string of them are the same thing, and every string may stand where a text is
expected. A text with a surrogate can be counted, compared and shown by number,
and has no bytes.
-/

namespace TerminalReel

/-- A code point: a character or a surrogate, which is half of a pair of 16-bit
units and no character by itself. -/
inductive CodePoint
  | char (c : Char)
  /-- The surrogate that many places after the first one. -/
  | surrogate (offset : Fin 0x800)
  deriving DecidableEq

namespace CodePoint

/-- The number of the first surrogate. -/
def firstSurrogate : Nat := 0xD800

/-- The number of a code point. -/
def number : CodePoint → Nat
  | char c => c.toNat
  | surrogate offset => firstSurrogate + offset

/-- The code point of a number. -/
def ofNumber (n : Nat) : CodePoint :=
  if h : firstSurrogate ≤ n ∧ n < firstSurrogate + 0x800 then
    surrogate ⟨n - firstSurrogate, by omega⟩
  else char (Char.ofNat n)

/-- The character, where a code point is one. -/
def char? : CodePoint → Option Char
  | char c => some c
  | surrogate _ => none

end CodePoint

/-- A text: code points in order. -/
@[ext]
structure Text where
  points : List CodePoint
  deriving DecidableEq

namespace Text

/-- The text of some characters. -/
def ofChars (cs : List Char) : Text := ⟨cs.map .char⟩

/-- The text of a string's characters. -/
def ofString (s : String) : Text := ofChars s.toList

instance : Coe String Text := ⟨ofString⟩

instance : Inhabited Text := ⟨⟨[]⟩⟩

/-- The text of one code point. -/
def ofPoint (point : CodePoint) : Text := ⟨[point]⟩

/-- The number of code points. -/
def length (text : Text) : Nat := text.points.length

/-- The text holds nothing. -/
def isEmpty (text : Text) : Bool := text.points.isEmpty

/-- One text and then the other. -/
def append (first second : Text) : Text := ⟨first.points ++ second.points⟩

instance : Append Text := ⟨append⟩

/-- Texts one after another. -/
def join (texts : List Text) : Text := ⟨texts.flatMap points⟩

/-- Texts one after another with a separator between them. -/
def intercalate (separator : Text) (texts : List Text) : Text :=
  ⟨List.intercalate separator.points (texts.map points)⟩

/-- The text with characters put in the place of each character; surrogates stay. -/
def expand (f : Char → List Char) (text : Text) : Text :=
  ⟨text.points.flatMap fun
    | .char c => (f c).map .char
    | point => [point]⟩

/-- The text's characters, if it has no surrogate. -/
def chars? (text : Text) : Option (List Char) := text.points.mapM CodePoint.char?

/-- The text as a string, if it has no surrogate. -/
def toString? (text : Text) : Option String := text.chars?.map String.ofList

/-- The text's bytes, if it has no surrogate. -/
def toUTF8? (text : Text) : Option ByteArray := text.toString?.map String.toUTF8

@[simp] theorem points_append (a b : Text) : (a ++ b).points = a.points ++ b.points := rfl

@[simp] theorem points_ofChars (cs : List Char) : (ofChars cs).points = cs.map .char := rfl

@[simp] theorem points_ofString (s : String) : (ofString s).points = s.toList.map .char := rfl

theorem ofString_append (a b : String) : ofString (a ++ b) = ofString a ++ ofString b := by
  ext1
  simp

theorem expand_append (f : Char → List Char) (a b : Text) :
    (a ++ b).expand f = a.expand f ++ b.expand f := by
  ext1
  simp [expand]

@[simp] theorem chars?_ofChars (cs : List Char) : (ofChars cs).chars? = some cs := by
  induction cs with
  | nil => rfl
  | cons c rest ih =>
    simp only [chars?, ofChars, List.map_cons, List.mapM_cons] at ih ⊢
    rw [ih]
    rfl

/-- A string is the string of its text. -/
@[simp] theorem toString?_ofString (s : String) : (ofString s).toString? = some s := by
  simp [toString?, ofString]

/-- Two strings are alike where their texts are. -/
@[simp] theorem ofString_inj {a b : String} : ofString a = ofString b ↔ a = b := by
  constructor
  · intro h
    have := congrArg toString? h
    simpa using this
  · exact congrArg ofString

end Text

end TerminalReel
