import TerminalReel.Text.CharacterTable
/-!
# TerminalReel.Text.Encoding.ByteReader

**Encodings without a memory**: what a byte begins depends only on the bytes behind
it.

Bytes are numbers here. The encodings of East Asia write ASCII in single bytes, and
the characters of a table in pairs of bytes, of which the second can have one of
several shapes.
-/

namespace TerminalReel

/-- What a byte begins, given the bytes behind it: some characters, and how many of
those bytes belong to them. -/
abbrev ByteReader := Nat → List Nat → Option (List Char × Nat)

namespace ByteReader

/-- The text of bytes. -/
def readAll? (reader : ByteReader) : List Nat → Option (List Char)
  | [] => some []
  | byte :: rest => do
    let (chars, used) ← reader byte rest
    return chars ++ (← reader.readAll? (rest.drop used))
termination_by bytes => bytes.length
decreasing_by
  simp only [List.length_drop, List.length_cons]
  omega

/-- A byte that stands for itself. -/
def single (byte : Nat) : Option (List Char × Nat) := some ([Char.ofNat byte], 0)

/-- A character that was found with the help of more bytes. -/
def found (used : Nat) (char : Option Char) : Option (List Char × Nat) :=
  char.map fun char => ([char], used)

/-- A reader that reads ASCII in single bytes, and all else by pairs. -/
def paired (pair : Nat → Nat → Option Char) : ByteReader := fun first rest =>
  if first < 0x80 then single first
  else
    match rest with
    | second :: _ => found 1 (pair first second)
    | [] => none

end ByteReader

/-! ### Pairs of bytes -/

/-- The place of a byte in a range of bytes. -/
def placeIn? (first last byte : Nat) : Option Nat :=
  if first ≤ byte ∧ byte ≤ last then some (byte - first) else none

/-- The place of a byte in ranges that follow one another. -/
def placeInAll? : List (Nat × Nat) → Nat → Option Nat
  | [], _ => none
  | (first, last) :: ranges, byte =>
    match placeIn? first last byte with
    | some place => some place
    | none => (placeInAll? ranges byte).map (· + (last + 1 - first))

namespace CharacterTable

/-- The character of a pair of bytes, both of the lower half. -/
def lower? (table : CharacterTable) (first second : Nat) : Option Char :=
  (placeIn? 0x21 0x7E second).bind (table.char? first)

/-- The character of a pair of bytes, both of the upper half. -/
def upper? (table : CharacterTable) (first second : Nat) : Option Char :=
  (placeIn? 0xA1 0xFE second).bind (table.char? (first - 0x80))

/-- The character of a pair of bytes, in a table whose rows are those of the first
byte and whose places are those of the second in some ranges. -/
def inRanges? (table : CharacterTable) (ranges : List (Nat × Nat)) (first second : Nat) :
    Option Char :=
  (placeInAll? ranges second).bind (table.char? first)

end CharacterTable

/-- The row and the place of a pair of bytes in the shifted form, which packs two
rows of 94 into one first byte and leaves bytes free for half-width kana. -/
def shifted? (first second : Nat) : Option (Nat × Nat) := do
  let lead ← placeInAll? [(0x81, 0x9F), (0xE0, 0xFC)] first
  let place ← placeInAll? [(0x40, 0x7E), (0x80, 0xFC)] second
  return (2 * lead + place / 94, place % 94)

/-- Half-width kana stand in single bytes of the upper half. -/
def halfKana? (byte : Nat) : Option Char :=
  (placeIn? 0xA1 0xDF byte).map fun place => Char.ofNat (0xFF61 + place)

end TerminalReel
