import TerminalReel.Text.Basic
import TerminalReel.Text.Hex
/-!
# TerminalReel.Text.Encoding.Escaped

Text in which **a backslash writes other code points** by their numbers, or by
letters.

Strings of definitions are written so, and there is an encoding of Latin text of the
same kind. In its raw form only the numbers of four and of eight hexadecimal digits
count.
-/

namespace TerminalReel

/-- The code point of a number, if it has one. -/
def pointOfNumber? (n : Nat) : Option CodePoint :=
  if n < 0x110000 then some (.ofNumber n) else none

/-- The code point of some hexadecimal digits at the front of a text. -/
def numbered? (digits : Nat) (cs : List Char) : Option CodePoint :=
  if cs.length < digits then none else (hexNumber? (cs.take digits)).bind pointOfNumber?

/-- The character that a letter after a backslash stands for. -/
def letterEscape? : Char → Option Char
  | '\\' => some '\\'
  | '\'' => some '\''
  | '"' => some '"'
  | 'a' => some '\x07'
  | 'b' => some '\x08'
  | 't' => some '\t'
  | 'n' => some '\n'
  | 'v' => some '\x0b'
  | 'f' => some '\x0c'
  | 'r' => some '\r'
  | _ => none

/-- The character is an octal digit. -/
def isOctalDigit (c : Char) : Bool := '0' ≤ c && c ≤ '7'

/-- The value of octal digits. -/
def octalValue (cs : List Char) : Nat :=
  cs.foldl (fun n c => 8 * n + (c.toNat - '0'.toNat)) 0

/-- What the text behind a backslash begins: code points, and how many of its
characters belong to them. Code points have no names here. -/
def escape? (c : Char) (rest : List Char) : Option (List CodePoint × Nat) :=
  match letterEscape? c with
  | some char => some ([.char char], 1)
  | none =>
    match c with
    | '\n' => some ([], 1)
    | 'x' => (numbered? 2 rest).map fun point => ([point], 3)
    | 'u' => (numbered? 4 rest).map fun point => ([point], 5)
    | 'U' => (numbered? 8 rest).map fun point => ([point], 9)
    | 'N' => none
    | c =>
      if isOctalDigit c then
        let digits := ((c :: rest).take 3).takeWhile isOctalDigit
        some ([.ofNumber (octalValue digits)], digits.length)
      else some ([.char '\\', .char c], 1)

/-- What the text behind a backslash begins in the raw form. -/
def rawEscape? (c : Char) (rest : List Char) : Option (List CodePoint × Nat) :=
  match c with
  | 'u' => (numbered? 4 rest).map fun point => ([point], 5)
  | 'U' => (numbered? 8 rest).map fun point => ([point], 9)
  | c => some ([.char '\\', .char c], 1)

/-- The text of characters in which backslashes have a meaning. A backslash at the
end is itself where `isRaw`, and otherwise an error; a surrogate is one in both. -/
def readEscaped? (isRaw : Bool) : List Char → Option (List Char)
  | [] => some []
  | '\\' :: rest =>
    match rest with
    | [] => if isRaw then some ['\\'] else none
    | c :: others => do
      let (points, used) ← if isRaw then rawEscape? c others else escape? c others
      return (← points.mapM CodePoint.char?) ++ (← readEscaped? isRaw ((c :: others).drop used))
  | c :: rest => (readEscaped? isRaw rest).map (c :: ·)
termination_by cs => cs.length
decreasing_by
  all_goals simp only [List.length_drop, List.length_cons]
  all_goals omega

end TerminalReel
