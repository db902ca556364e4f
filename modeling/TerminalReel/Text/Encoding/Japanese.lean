import TerminalReel.Text.Charset.CodePage932
import TerminalReel.Text.Charset.JisX0208
import TerminalReel.Text.Charset.JisX0212
import TerminalReel.Text.Charset.JisX0213
import TerminalReel.Text.Encoding.ByteReader
/-!
# TerminalReel.Text.Encoding.Japanese

**Japanese encodings**: the extended Unix code and the shifted code, each for the
older tables and for the two editions of JIS X 0213.
-/

namespace TerminalReel

open ByteReader

/-! ### The planes of JIS X 0213 -/

/-- The editions of JIS X 0213. -/
inductive JisEdition
  | first
  | second
  deriving DecidableEq

/-- The characters in a place of the first plane, which has those of JIS X 0208. -/
def JisEdition.firstPlane? (edition : JisEdition) (row place : Nat) : Option (List Char) :=
  if edition = .first ∧ (row, place) ∈ jisX0213Added then none
  else
    match jisX0208.char? row place, jisX0213First.char? row place with
    | some char, _ | none, some char => some [char]
    | none, none => jisX0213Pairs.lookup (row, place)

/-- The character in a place of the second plane. The second edition took a simpler
form of one of them. -/
def JisEdition.secondPlane? (edition : JisEdition) (row place : Nat) : Option Char :=
  if edition = .first ∧ (row, place) = (0x7D, 26) then some '\u9b1d'
  else jisX0213Second.char? row place

/-- The rows of the second plane, in the order of the shifted code. -/
def secondPlaneRows : List Nat :=
  [0x21, 0x28, 0x23, 0x24, 0x25, 0x2C, 0x2D, 0x2E, 0x2F] ++ List.range' 0x6E 17

/-! ### The extended Unix code -/

/-- The extended Unix code: JIS X 0208 in two bytes, half-width kana behind one
mark, and JIS X 0212 behind another. -/
def eucJp : ByteReader := fun first rest =>
  match first, rest with
  | 0x8E, second :: _ => found 1 (halfKana? second)
  | 0x8F, second :: third :: _ => found 2 (jisX0212.upper? second third)
  | first, rest => paired jisX0208.upper? first rest

/-- The extended Unix code for the two planes of JIS X 0213. What the second plane
leaves empty is looked for in JIS X 0212, and the tilde is a wide one. -/
def eucJis (edition : JisEdition) : ByteReader := fun first rest =>
  match first, rest with
  | 0x8E, second :: _ => found 1 (halfKana? second)
  | 0x8F, second :: third :: _ => do
    let place ← placeIn? 0xA1 0xFE third
    found 2 (edition.secondPlane? (second - 0x80) place <|> jisX0212.upper? second third)
  | first, rest =>
    if first < 0x80 then single first
    else do
      let place ← rest.head?.bind (placeIn? 0xA1 0xFE)
      if first = 0xA2 ∧ place = 17 then return (['～'], 1)
      return (← edition.firstPlane? (first - 0x80) place, 1)

/-! ### The shifted code -/

/-- The shifted code: half-width kana in one byte, JIS X 0208 in two. -/
def shiftJis : ByteReader := fun first rest =>
  match halfKana? first with
  | some kana => some ([kana], 0)
  | none => paired (fun first second => do
      let (row, place) ← shifted? first second
      jisX0208.char? (row + 0x21) place) first rest

/-- The single bytes in which the Japanese form of ASCII differs from it. -/
def romanChar (byte : Nat) : Char :=
  if byte = 0x5C then '¥' else if byte = 0x7E then '‾' else Char.ofNat byte

/-- The shifted code for the two planes of JIS X 0213. In the place of the wide
backslash it has the plain one. -/
def shiftJisX0213 (edition : JisEdition) : ByteReader := fun first rest =>
  match halfKana? first with
  | some kana => some ([kana], 0)
  | none =>
    if first < 0x80 then some ([romanChar first], 0)
    else do
      let (row, place) ← rest.head?.bind (shifted? first)
      if (row, place) = (0, 31) then return (['\\'], 1)
      match secondPlaneRows[row - 94]? with
      | some secondRow =>
        if row < 94 then return (← edition.firstPlane? (row + 0x21) place, 1)
        else found 1 (edition.secondPlane? secondRow place)
      | none => none

/-- The ranges of the second byte in the shifted code. -/
def shiftedRanges : List (Nat × Nat) := [(0x40, 0x7E), (0x80, 0xFC)]

/-- A pair of bytes in code page 932: its own characters, those of JIS X 0208, and
places for private use. -/
def codePage932Pair? (first second : Nat) : Option Char :=
  match codePage932.inRanges? shiftedRanges first second with
  | some char => some char
  | none => do
    let place ← placeInAll? shiftedRanges second
    match placeIn? 0xF0 0xF9 first with
    | some row => return Char.ofNat (0xE000 + 188 * row + place)
    | none =>
      let (row, place) ← shifted? first second
      jisX0208.char? (row + 0x21) place

/-- Code page 932: the shifted code with more characters. Bytes that stand for
nothing there are read as such. -/
def codePage932Reader : ByteReader := fun first rest =>
  match halfKana? first with
  | some kana => some ([kana], 0)
  | none =>
    match first with
    | 0x80 => single 0x80
    | 0xA0 => single 0xF8F0
    | 0xFD => single 0xF8F1
    | 0xFE => single 0xF8F2
    | 0xFF => single 0xF8F3
    | first => paired codePage932Pair? first rest

end TerminalReel
