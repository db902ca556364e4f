import TerminalReel.Text.Charset.KsX1001
import TerminalReel.Text.Encoding.ByteReader
/-!
# TerminalReel.Text.Encoding.Korean

**Korean encodings**: the extended Unix code, which composes rare syllables of their
letters, the unified code, which has a pair of bytes for each of them, and the
combining code, whose pairs are made of the numbers of the letters.
-/

namespace TerminalReel

open ByteReader

/-! ### Syllables -/

/-- The letters that begin a syllable, in order. -/
def initialLetters : List Char := "ㄱㄲㄴㄷㄸㄹㅁㅂㅃㅅㅆㅇㅈㅉㅊㅋㅌㅍㅎ".toList

/-- The vowels, in order. -/
def vowelLetters : List Char := (List.range' 0x314F 21).map Char.ofNat

/-- The letters that end a syllable, in order. -/
def finalLetters : List Char := "ㄱㄲㄳㄴㄵㄶㄷㄹㄺㄻㄼㄽㄾㄿㅀㅁㅂㅄㅅㅆㅇㅈㅊㅋㅌㅍㅎ".toList

/-- The number of the first syllable. -/
def firstSyllable : Nat := 0xAC00

/-- The syllable of an initial letter, a vowel and a final letter, by their
numbers; of the final letters, zero is none. -/
def syllable (initial vowel final : Nat) : Char :=
  Char.ofNat (firstSyllable + (initial * 21 + vowel) * 28 + final)

/-- The syllables of KS X 1001, which has them in order. -/
def commonSyllables : List Nat :=
  (ksX1001.chars.map Char.toNat).filter fun n => firstSyllable ≤ n ∧ n ≤ 0xD7A3

/-! ### The extended Unix code -/

/-- The letter of a byte in the row of letters. -/
def letterOf (byte : Nat) : Char := Char.ofNat (0x3131 + (byte - 0xA1))

/-- The byte that stands for a letter that is not there. -/
def filler : Nat := 0xD4

/-- The syllable of the bytes of its letters. -/
def composed? (initial vowel final : Nat) : Option Char := do
  let initial ← initialLetters.idxOf? (letterOf initial)
  let vowel ← vowelLetters.idxOf? (letterOf vowel)
  if final = filler then return syllable initial vowel 0
  return syllable initial vowel ((← finalLetters.idxOf? (letterOf final)) + 1)

/-- The extended Unix code: KS X 1001 in two bytes, and syllables of a filler and
three letters. -/
def eucKr : ByteReader := fun first rest =>
  match first, rest with
  | 0xA4, 0xD4 :: 0xA4 :: initial :: 0xA4 :: vowel :: 0xA4 :: final :: _ =>
    found 7 (composed? initial vowel final)
  | 0xA4, 0xD4 :: _ => none
  | first, rest => paired ksX1001.upper? first rest

/-! ### The unified code -/

/-- The place of a pair of bytes among the pairs of the unified code that the
extended Unix code leaves free. -/
def unifiedPlace? (first second : Nat) : Option Nat := do
  let place ← placeInAll? [(0x41, 0x5A), (0x61, 0x7A), (0x81, 0xFE)] second
  match placeIn? 0x81 0xA0 first with
  | some row => return 178 * row + place
  | none =>
    if place < 84 then return 178 * 32 + 84 * (← placeIn? 0xA1 0xC6 first) + place
    else none

/-- A pair of bytes in the unified code: a character of KS X 1001, or one of the
syllables that it lacks, which fill the free pairs in order. -/
def unifiedPair? (first second : Nat) : Option Char :=
  match ksX1001.upper? first second with
  | some char => some char
  | none => do
    let number := countFree commonSyllables (firstSyllable + (← unifiedPlace? first second))
    if number ≤ 0xD7A3 then return Char.ofNat number else none

/-- The unified code. -/
def unifiedHangul : ByteReader := paired unifiedPair?

/-! ### The combining code -/

/-- What five bits say about one letter of a syllable. -/
inductive Component
  /-- There is no such letter. -/
  | absent
  /-- The letter of a number. -/
  | letter (number : Nat)

/-- The initial letter of five bits. -/
def initialOf? (bits : Nat) : Option Component :=
  if bits = 1 then some .absent else (placeIn? 2 20 bits).map .letter

/-- The vowel of five bits. -/
def vowelOf? (bits : Nat) : Option Component :=
  if bits = 2 then some .absent
  else (placeInAll? [(3, 7), (10, 15), (18, 23), (26, 29)] bits).map .letter

/-- The final letter of five bits. -/
def finalOf? (bits : Nat) : Option Component :=
  if bits = 1 then some .absent else (placeInAll? [(2, 17), (19, 29)] bits).map .letter

/-- The syllable of fifteen bits, or the letter where there is only one. -/
def combined? (bits : Nat) : Option Char := do
  match ← initialOf? (bits / 1024 % 32), ← vowelOf? (bits / 32 % 32), ← finalOf? (bits % 32) with
  | .letter initial, .letter vowel, .letter final => return syllable initial vowel (final + 1)
  | .letter initial, .letter vowel, .absent => return syllable initial vowel 0
  | .letter initial, .absent, .absent => initialLetters[initial]?
  | .absent, .letter vowel, .absent => vowelLetters[vowel]?
  | .absent, .absent, .letter final => finalLetters[final]?
  | .absent, .absent, .absent => return '\u3000'
  | _, _, _ => none

/-- The character of KS X 1001 that is no syllable and no letter, in the combining
code: two of its rows to each first byte. -/
def combiningSymbol? (first second : Nat) : Option Char := do
  let place ← placeInAll? [(0x31, 0x7E), (0x91, 0xFE)] second
  let row :=
    match placeIn? 0xD9 0xDE first with
    | some lead => some (2 * lead)
    | none => (placeIn? 0xE0 0xF9 first).map (2 * · + 0x29)
  if first = 0xDA ∧ 0xA1 ≤ second ∧ second ≤ 0xD3 then none
  else ksX1001.char? ((← row) + place / 94 + 0x21) (place % 94)

/-- The combining code. -/
def johab : ByteReader := paired fun first second =>
  if first < 0xD8 then combined? (256 * first + second) else combiningSymbol? first second

end TerminalReel
