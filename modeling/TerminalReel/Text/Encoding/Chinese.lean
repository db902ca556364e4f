import TerminalReel.Text.Charset.Big5
import TerminalReel.Text.Charset.Big5Extensions
import TerminalReel.Text.Charset.Gb18030
import TerminalReel.Text.Charset.Gb2312
import TerminalReel.Text.Encoding.ByteReader
/-!
# TerminalReel.Text.Encoding.Chinese

**Chinese encodings**: GB 2312 with the larger sets that contain it, of which the
largest has all characters, and Big5 with its extensions.
-/

namespace TerminalReel

open ByteReader

/-! ### GB 2312 and GBK -/

/-- GB 2312 in two bytes. -/
def gb2312Reader : ByteReader := paired gb2312.upper?

/-- The ranges of the second byte in GBK. -/
def gbkRanges : List (Nat × Nat) := [(0x40, 0x7E), (0x80, 0xFE)]

/-- The ends of the unified ideographs. -/
def firstIdeograph : Nat := 0x4E00
@[inherit_doc firstIdeograph] def lastIdeograph : Nat := 0x9FA5

/-- The ideographs of GB 2312 in increasing order. -/
def simplifiedIdeographs : List Nat :=
  ((gb2312.chars.map Char.toNat).filter fun n =>
    firstIdeograph ≤ n ∧ n ≤ lastIdeograph).mergeSort

/-- How many ideographs GB 2312 lacks. -/
def missingIdeographs : Nat := 14139

/-- The place of a pair of bytes among the pairs of GBK that are for the ideographs
that GB 2312 lacks. -/
def ideographPlace? (first second : Nat) : Option Nat := do
  let place ← placeInAll? gbkRanges second
  match placeIn? 0x81 0xA0 first with
  | some row => return 190 * row + place
  | none => if place < 96 then return 190 * 32 + 96 * (← placeIn? 0xAA 0xFE first) + place else none

/-- The ideograph in a place among those that GB 2312 lacks: they fill the pairs in
order, and those for compatibility follow. -/
def missingIdeograph? (place : Nat) : Option Char :=
  if place < missingIdeographs then
    some (Char.ofNat (countFree simplifiedIdeographs (firstIdeograph + place)))
  else gbkCompatibility[place - missingIdeographs]?

/-- A pair of bytes in GBK. It takes two signs of punctuation for other characters
than GB 2312 does. -/
def gbkPair? (first second : Nat) : Option Char :=
  match first, second with
  | 0xA1, 0xA4 => some '·'
  | 0xA1, 0xAA => some '—'
  | first, second =>
    gb2312.upper? first second
      <|> gbkSymbols.inRanges? gbkRanges first second
      <|> (ideographPlace? first second).bind missingIdeograph?

/-- GBK. -/
def gbk : ByteReader := paired gbkPair?

/-! ### GB 18030 -/

/-- A pair of bytes that is for private use: whole rows behind those of GB 2312 and
behind its last, and the rows of symbols before the places of GB 2312. -/
def privatePair? (first second : Nat) : Option Char :=
  match placeIn? 0xA1 0xFE second with
  | some place =>
    (placeInAll? [(0xAA, 0xAF), (0xF8, 0xFE)] first).map fun row =>
      Char.ofNat (0xE000 + 94 * row + place)
  | none => do
    let row ← placeIn? 0xA1 0xA7 first
    let place ← placeInAll? gbkRanges second
    return Char.ofNat (0xE4C6 + 96 * row + place)

/-- A pair of bytes in GB 18030. -/
def gb18030Pair? (first second : Nat) : Option Char :=
  gbkPair? first second
    <|> gb18030Symbols.inRanges? gbkRanges first second
    <|> privatePair? first second

/-- The characters of two bytes that stand in a table, or in the place of others of
GB 2312. The middle dot of GB 2312 is none of them. -/
def tabledChars : List Char :=
  let tables := gb2312.chars ++ gbkSymbols.chars ++ gbkCompatibility ++ gb18030Symbols.chars
  '·' :: '—' :: tables.filter (· ≠ '・')

/-- The numbers beyond ASCII that need no four bytes, and the surrogates, in
increasing order. -/
def twoByteNumbers : List Nat :=
  (tabledChars.map Char.toNat
    ++ List.range' firstIdeograph (lastIdeograph + 1 - firstIdeograph)
    ++ List.range' 0xE000 0x766 ++ List.range' 0xD800 0x800).mergeSort.eraseReps

/-- How many characters of the basic plane have four bytes. -/
def fourByteCount : Nat := 39420

/-- The character of four bytes, by their number: the characters of the basic plane
that need four bytes in order, and from a round number on those of the others. -/
def fourByteChar? (number : Nat) : Option Char :=
  if number < fourByteCount then some (Char.ofNat (countFree twoByteNumbers (0x80 + number)))
  else if 189000 ≤ number ∧ number < 189000 + 0x100000 then
    some (Char.ofNat (0x10000 + (number - 189000)))
  else none

/-- GB 18030: a second byte that is a digit tells four bytes from two. -/
def gb18030 : ByteReader := fun first rest =>
  match placeIn? 0x81 0xFE first, rest with
  | some a, second :: rest =>
    match placeIn? 0x30 0x39 second, rest with
    | some b, third :: fourth :: _ => do
      let c ← placeIn? 0x81 0xFE third
      let d ← placeIn? 0x30 0x39 fourth
      found 3 (fourByteChar? (((a * 10 + b) * 126 + c) * 10 + d))
    | some _, _ => none
    | none, _ => found 1 (gb18030Pair? first second)
  | _, rest => paired gb18030Pair? first rest

/-! ### Big5 -/

/-- The ranges of the second byte in Big5. -/
def big5Ranges : List (Nat × Nat) := [(0x40, 0x7E), (0xA1, 0xFE)]

/-- Big5. -/
def big5Reader : ByteReader := paired (big5.inRanges? big5Ranges)

/-- Code page 950. -/
def codePage950Reader : ByteReader := paired fun first second =>
  codePage950.inRanges? big5Ranges first second <|> big5.inRanges? big5Ranges first second

/-- A place that the supplementary set of Hong Kong keeps for itself. -/
def isSupplementary (first place : Nat) : Bool :=
  (first == 0xC6 && 63 ≤ place) || first == 0xC7 || first == 0xC8

/-- The character in a place of Big5 or of the supplementary set. -/
def hongKongChar? (first place : Nat) : Option Char :=
  match hongKongSupplement.char? first place with
  | some char => some char
  | none => if isSupplementary first place then none else big5.char? first place

/-- Big5 with the supplementary set of Hong Kong. -/
def big5HongKong : ByteReader := fun first rest =>
  match rest.head?.bind (placeInAll? big5Ranges) with
  | some place =>
    match hongKongPairs.lookup (first, place) with
    | some chars => some (chars, 1)
    | none =>
      paired (fun first _ => hongKongChar? first place) first rest
  | none => paired (fun _ _ => none) first rest

end TerminalReel
