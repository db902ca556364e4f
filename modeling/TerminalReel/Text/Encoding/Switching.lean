import TerminalReel.Text.Encoding.Chinese
import TerminalReel.Text.Encoding.Japanese
import TerminalReel.Text.Encoding.Korean
/-!
# TerminalReel.Text.Encoding.Switching

Encodings in seven bits that **switch between sets of characters**.

The encodings of ISO 2022 bring a set into use by an escape sequence, which ends with
the mark of the set. Other escape sequences, such as terminals understand, are part
of the text. The encoding HZ has two marks of its own.
-/

namespace TerminalReel

open ByteReader

/-! ### Sets of characters -/

/-- What the bytes from a blank on stand for while a set is in use. -/
inductive SwitchedSet
  | ascii
  /-- The Japanese form of ASCII. -/
  | roman
  /-- Half-width kana. -/
  | kana
  /-- The upper half of Latin text. -/
  | latin
  /-- The upper half of Greek text. -/
  | greek
  | jisX0208
  | jisX0212
  | jisX0213First (edition : JisEdition)
  | jisX0213Second (edition : JisEdition)
  | ksX1001
  | gb2312
  deriving DecidableEq

/-- The Greek letters and signs from the first of the upper half on. -/
def greekUpper : String :=
  "\u00a0‘’£€₯¦§¨©ͺ«¬\u00ad ―°±²³΄΅Ά·ΈΉΊ»Ό½ΎΏΐΑΒΓΔΕΖΗΘΙΚΛΜΝΞΟΠΡ ΣΤΥΦΧΨΩΪΫ" ++
    "άέήίΰαβγδεζηθικλμνξοπρςστυφχψωϊϋόύώ"

/-- A character from the upper half of a set, by the byte of the lower half. -/
def upperChar? (set : SwitchedSet) (byte : Nat) : Option Char :=
  if 0x80 ≤ byte then none
  else
    match set with
    | .ascii => some (Char.ofNat byte)
    | .latin => some (Char.ofNat (byte + 0x80))
    | .greek =>
      if byte < 0x20 then some (Char.ofNat (byte + 0x80))
      else (greekUpper.toList[byte - 0x20]?).filter (· ≠ ' ')
    | _ => none

/-- What a byte begins while a set is in use. The upper halves are never in use for
more than one character. -/
def SwitchedSet.read (set : SwitchedSet) (first : Nat) (rest : List Nat) :
    Option (List Char × Nat) :=
  let second (f : Nat → Option (List Char)) : Option (List Char × Nat) := do
    return (← f (← rest.head?), 1)
  let one (f : Nat → Option Char) := second fun byte => (f byte).map fun char => [char]
  match set with
  | .ascii => single first
  | .roman => some ([romanChar first], 0)
  | .kana => found 0 (halfKana? (first + 0x80))
  | .latin | .greek => none
  | .jisX0208 => one (TerminalReel.jisX0208.lower? first)
  | .jisX0212 => one (TerminalReel.jisX0212.lower? first)
  | .jisX0213First edition => second fun byte =>
    (placeIn? 0x21 0x7E byte).bind (edition.firstPlane? first)
  | .jisX0213Second edition => one fun byte =>
    (placeIn? 0x21 0x7E byte).bind (edition.secondPlane? first)
  | .ksX1001 => one (TerminalReel.ksX1001.lower? first)
  | .gb2312 => one (TerminalReel.gb2312.lower? first)

/-! ### Escape sequences -/

/-- An encoding that switches by escape sequences. -/
structure SwitchingCode where
  /-- The marks of its sets of single bytes, ASCII apart. -/
  singles : List (Char × SwitchedSet) := []
  /-- The marks of its sets of pairs. -/
  pairs : List (Char × SwitchedSet) := []
  /-- It has a second set for the text between two control characters. -/
  hasShift : Bool := false
  /-- It has a third set for single characters. -/
  hasThird : Bool := false
  /-- An announcement may stand before a newer edition of a set. -/
  hasAnnouncement : Bool := true

/-- The sets that are in use. -/
structure Switches where
  main : SwitchedSet := .ascii
  second : SwitchedSet := .ascii
  third : SwitchedSet := .ascii
  /-- The second set is in use, not the main one. -/
  isShifted : Bool := false
  /-- A foreign escape sequence has begun and not ended. -/
  isForeign : Bool := false

/-- The escape character. -/
def escapeByte : Nat := 0x1B

/-- A byte ends an escape sequence. -/
def endsEscape (byte : Nat) : Bool := 0x40 ≤ byte && byte ≤ 0x5A

/-- The set of single bytes that a mark stands for. -/
def SwitchingCode.single? (code : SwitchingCode) (mark : Nat) : Option SwitchedSet :=
  if Char.ofNat mark = 'B' then some .ascii else code.singles.lookup (Char.ofNat mark)

/-- The set of pairs that a mark stands for. -/
def SwitchingCode.pair? (code : SwitchingCode) (mark : Nat) : Option SwitchedSet :=
  code.pairs.lookup (Char.ofNat mark)

/-- The bytes of characters. -/
def bytesOf (text : String) : List Nat := text.toList.map Char.toNat

/-- What an escape sequence of the encoding does, and the number of its bytes behind
the escape character; none where it is no such sequence. -/
def SwitchingCode.escape? (code : SwitchingCode) (switches : Switches) (bytes : List Nat) :
    Option (Switches × Nat) :=
  let main (used : Nat) (set : Option SwitchedSet) :=
    set.map fun set => ({ switches with main := set }, used)
  let second (used : Nat) (set : Option SwitchedSet) :=
    set.map fun set => ({ switches with second := set }, used)
  if code.hasAnnouncement ∧ (bytesOf "&@\x1b$B").isPrefixOf bytes then main 5 (code.pair? 0x42)
  else
    match bytes with
    | 0x28 :: mark :: _ => main 2 (code.single? mark)
    | 0x29 :: mark :: _ => second 2 (code.single? mark)
    | 0x2E :: mark :: _ =>
      if code.hasThird then
        (code.single? mark).map fun set => ({ switches with third := set }, 2)
      else none
    | 0x24 :: 0x28 :: mark :: _ => main 3 (code.pair? mark)
    | 0x24 :: 0x29 :: mark :: _ => second 3 (code.pair? mark)
    | 0x24 :: mark :: _ => main 2 (code.pair? mark)
    | _ => none

/-- The bytes that begin the escape sequences of ISO 2022. -/
def beginsDesignation (byte : Nat) : Bool := (bytesOf "()$.&").contains byte

/-- What the escape character begins. -/
def SwitchingCode.afterEscape? (code : SwitchingCode) (switches : Switches) (bytes : List Nat) :
    Option (List Char × Switches × Nat) :=
  match bytes with
  | [] => none
  | byte :: rest =>
    if beginsDesignation byte then
      (code.escape? switches bytes).map fun (switches, used) => ([], switches, used)
    else if code.hasThird ∧ byte = 0x4E then do
      return ([← upperChar? switches.third (← rest.head?)], switches, 2)
    else some ([Char.ofNat escapeByte], { switches with isForeign := true }, 0)

/-- What a byte begins: characters, the sets in use behind them, and how many more
bytes belong to them. -/
def SwitchingCode.step? (code : SwitchingCode) (switches : Switches) (byte : Nat)
    (rest : List Nat) : Option (List Char × Switches × Nat) :=
  let itself (switches : Switches) := some ([Char.ofNat byte], switches, 0)
  if switches.isForeign then itself { switches with isForeign := !endsEscape byte }
  else if byte = escapeByte then code.afterEscape? switches rest
  else if code.hasShift ∧ byte = 0x0F then some ([], { switches with isShifted := false }, 0)
  else if code.hasShift ∧ byte = 0x0E then some ([], { switches with isShifted := true }, 0)
  else if byte = 0x0A then itself { switches with isShifted := false }
  else if byte < 0x20 then itself switches
  else if 0x80 ≤ byte then none
  else do
    let set := if switches.isShifted then switches.second else switches.main
    let (chars, used) ← set.read byte rest
    return (chars, switches, used)

/-- The text of bytes while some sets are in use. -/
def SwitchingCode.readFrom? (code : SwitchingCode) (switches : Switches) :
    List Nat → Option (List Char)
  | [] => some []
  | byte :: rest => do
    let (chars, switches, used) ← code.step? switches byte rest
    return chars ++ (← code.readFrom? switches (rest.drop used))
termination_by bytes => bytes.length
decreasing_by
  simp only [List.length_drop, List.length_cons]
  omega

/-- The text of bytes. -/
def SwitchingCode.read? (code : SwitchingCode) (bytes : List Nat) : Option (List Char) :=
  code.readFrom? {} bytes

/-! ### The encodings of ISO 2022 -/

/-- The Korean encoding. -/
def iso2022Kr : SwitchingCode where
  pairs := [('C', .ksX1001)]
  hasShift := true
  hasAnnouncement := false

/-- The Japanese encoding. -/
def iso2022Jp : SwitchingCode where
  singles := [('J', .roman)]
  pairs := [('B', .jisX0208), ('@', .jisX0208)]

/-- The Japanese encoding with the supplement. -/
def iso2022Jp1 : SwitchingCode where
  singles := [('J', .roman)]
  pairs := [('B', .jisX0208), ('D', .jisX0212), ('@', .jisX0208)]

/-- The Japanese encoding with sets of other languages. -/
def iso2022Jp2 : SwitchingCode where
  singles := [('J', .roman), ('A', .latin), ('F', .greek)]
  pairs := [('B', .jisX0208), ('D', .jisX0212), ('C', .ksX1001), ('A', .gb2312), ('@', .jisX0208)]
  hasThird := true

/-- The Japanese encoding with the first edition of JIS X 0213. -/
def iso2022Jp3 : SwitchingCode where
  pairs := [('B', .jisX0208), ('O', .jisX0213First .first), ('P', .jisX0213Second .first)]

/-- The Japanese encoding with the second edition of JIS X 0213. -/
def iso2022Jp2004 : SwitchingCode where
  pairs := [('B', .jisX0208), ('Q', .jisX0213First .second), ('P', .jisX0213Second .second)]

/-- The Japanese encoding with the supplement and half-width kana. -/
def iso2022JpKana : SwitchingCode where
  singles := [('J', .roman), ('I', .kana)]
  pairs := [('B', .jisX0208), ('D', .jisX0212), ('@', .jisX0208)]

/-! ### HZ -/

/-- The text of bytes in HZ: between its marks, GB 2312 in the lower half; outside
them ASCII, where a doubled tilde is one, and one before a line feed is none. -/
def readHz? (isMarked : Bool) : List Nat → Option (List Char)
  | [] => some []
  | 0x7E :: 0x7E :: rest =>
    if isMarked then none else (readHz? isMarked rest).map ('~' :: ·)
  | 0x7E :: 0x7B :: rest => if isMarked then none else readHz? true rest
  | 0x7E :: 0x7D :: rest => if isMarked then readHz? false rest else none
  | 0x7E :: 0x0A :: rest => if isMarked then none else readHz? isMarked rest
  | [0x7E] | 0x7E :: _ => none
  | byte :: rest =>
    if 0x80 ≤ byte then none
    else if isMarked then
      match rest with
      | second :: rest => do
        let char ← gb2312.lower? byte second
        return char :: (← readHz? isMarked rest)
      | [] => none
    else (readHz? isMarked rest).map (Char.ofNat byte :: ·)

end TerminalReel
