import TerminalReel.Text.Lowercase
import TerminalReel.Text.Pieces
import TerminalReel.Text.Printable
/-!
# TerminalReel.Text.Encoding.Idna

The encoding of **domain names**: ASCII, in which a label between points may stand
for characters beyond it.

Such a label begins with a mark of its own. Behind that stand its ASCII characters,
and behind the last dash the others, each as a number of varying base that says how
many positions further it is to be inserted.
-/

namespace TerminalReel

namespace Punycode

/-- The value of a digit: letters of either case, and then the digits. -/
def digit? (c : Char) : Option Nat :=
  if 'a' ≤ c ∧ c ≤ 'z' then some (c.toNat - 'a'.toNat)
  else if 'A' ≤ c ∧ c ≤ 'Z' then some (c.toNat - 'A'.toNat)
  else if c.isDigit then some (c.toNat - '0'.toNat + 26)
  else none

/-- The least value of a digit behind which a number goes on, in the place whose
weight is the `k`-th. -/
def threshold (k bias : Nat) : Nat := if k ≤ bias then 1 else min (k - bias) 26

/-- Divides a difference until it is small; the result, and how often. -/
def reduce (delta : Nat) : Nat × Nat :=
  if 455 < delta then
    let (rest, times) := reduce (delta / 35)
    (rest, times + 1)
  else (delta, 0)
termination_by delta
decreasing_by exact Nat.div_lt_self (by omega) (by omega)

/-- The bias for the next number, after one among so many characters. -/
def adapt (delta : Nat) (isFirst : Bool) (count : Nat) : Nat :=
  let delta := if isFirst then delta / 700 else delta / 2
  let (rest, times) := reduce (delta + delta / count)
  36 * times + 36 * rest / (rest + 38)

/-- The number at the front of a text, and the text behind it. -/
def number? (bias : Nat) : List Char → Nat → Nat → Nat → Option (Nat × List Char)
  | [], _, _, _ => none
  | c :: rest, k, weight, sum => do
    let digit ← digit? c
    let limit := threshold k bias
    let sum := sum + digit * weight
    if digit < limit then return (sum, rest)
    number? bias rest (k + 36) (weight * (36 - limit)) sum

/-- Reads insertions into the characters so far: the last number was `code`, and the
next position is `place`. Each takes a character of the text at least, of which there
are at most `fuel`. -/
def insertAll? (isFirst : Bool) (code place bias : Nat) (chars : List Char) :
    Nat → List Char → Option (List Char)
  | _, [] => some chars
  | 0, _ :: _ => none
  | fuel + 1, text => do
    let (delta, rest) ← number? bias text 36 1 0
    let count := chars.length + 1
    let code := code + (place + delta) / count
    let place := (place + delta) % count
    if ¬code.isValidChar then none
    insertAll? false code (place + 1) (adapt delta isFirst count)
      (chars.insertIdx place (Char.ofNat code)) fuel rest

/-- The text that some ASCII characters write. -/
def decode? (cs : List Char) : Option (List Char) :=
  let inserted := (cs.reverse.takeWhile (· ≠ '-')).reverse
  let plain := cs.take (cs.length - inserted.length - 1)
  insertAll? true 128 0 72 plain inserted.length inserted

end Punycode

/-- The mark of a label that stands for other characters. -/
def labelMark : List Char := "xn--".toList

/-- A character beyond ASCII may stand in a label: it can be shown, and neither is a
capital nor has another spelling in small letters. -/
def isLabelChar (c : Char) : Bool :=
  c.toNat < 0x80 || (isPrintable c && lowerChar c == c && c != 'ß' && c != 'ς')

/-- The text of a label. A marked one is not long, and what it stands for is not all
ASCII, for otherwise it would have no mark. -/
def readLabel? (label : List Char) : Option (List Char) :=
  if labelMark.isPrefixOf label then do
    let chars ← Punycode.decode? (label.drop labelMark.length)
    let isForeign := chars.any fun c => 0x80 ≤ c.toNat
    if label.length < 64 ∧ isForeign ∧ chars.all isLabelChar then return chars else none
  else some label

/-- The text of domain names. -/
def readDomains? (cs : List Char) : Option (List Char) :=
  if cs.any fun c => 0x80 ≤ c.toNat then none
  else do return ['.'].intercalate (← (pieces '.' cs).mapM readLabel?)

end TerminalReel
