import TerminalReel.Json.Basic
import TerminalReel.Text.Blank
/-!
# TerminalReel.Json.Reader

Reading a document in its **strict** form.

A reader takes a value off the front of a text and leaves the rest. When it
meets something else it stops with the flaw and with the text from there on, so
the place of a flaw is read off what is left and no reader counts characters.
The names `NaN`, `Infinity` and `-Infinity` are numbers, and of two fields with
one key the later value stands.
-/

namespace TerminalReel

namespace Json

/-! ### Flaws and their places -/

/-- What can be wrong with a document. -/
inductive Flaw
  /-- No value begins here. -/
  | value
  /-- No quoted name begins here. -/
  | name
  /-- A name is not followed by a colon. -/
  | colon
  /-- A value is followed neither by a comma nor by the end of its container. -/
  | comma
  /-- Something follows the document. -/
  | extra
  /-- A control character stands in a string. -/
  | control
  /-- A string does not end. -/
  | unterminated
  /-- A backslash is followed by no known letter. -/
  | escape
  /-- A character number does not have four hexadecimal digits. -/
  | unitEscape
  /-- The text begins with a byte order mark. -/
  | byteOrderMark
  deriving DecidableEq

/-- The wording of each flaw. -/
def Flaw.message : Flaw → String
  | value => "Expecting value"
  | name => "Expecting property name enclosed in double quotes"
  | colon => "Expecting ':' delimiter"
  | comma => "Expecting ',' delimiter"
  | extra => "Extra data"
  | control => "Invalid control character at"
  | unterminated => "Unterminated string starting at"
  | escape => "Invalid \\escape"
  | unitEscape => "Invalid \\uXXXX escape"
  | byteOrderMark => "Unexpected UTF-8 BOM (decode using utf-8-sig)"

/-- Why reading stopped. -/
inductive Stop
  /-- A flaw, and the text from its place on. -/
  | flaw (flaw : Flaw) (rest : List Char)
  /-- A whole number with more digits than are read. -/
  | longNumeral
  /-- Containers inside one another, more than are read. -/
  | tooDeep

/-- The characters of a text before its last `rest.length` ones. -/
def before (text rest : List Char) : List Char := text.take (text.length - rest.length)

/-- A place in a text, for a reader of the message: line, column and offset. -/
def placeText (before : List Char) : String :=
  let line := before.count '\n' + 1
  let column := (before.reverse.takeWhile (· != '\n')).length + 1
  s!"line {line} column {column} (char {before.length})"

/-- The message about a flaw in a text. -/
def Flaw.report (flaw : Flaw) (text rest : List Char) : String :=
  flaw.message ++ ": " ++ placeText (before text rest)

/-! ### Strings -/

/-- A UTF-16 unit that begins a pair. -/
def isHighUnit (n : Nat) : Bool := 0xD800 ≤ n && n < 0xDC00

/-- A UTF-16 unit that ends a pair. -/
def isLowUnit (n : Nat) : Bool := 0xDC00 ≤ n && n < 0xE000

/-- Characters and numbered units as code points, a high unit and the low unit
after it as one. -/
def joinUnits : List Nat → List CodePoint
  | high :: low :: rest =>
    if isHighUnit high && isLowUnit low then
      .char (Char.ofNat (0x10000 + (high - 0xD800) * 0x400 + (low - 0xDC00))) :: joinUnits rest
    else .ofNumber high :: joinUnits (low :: rest)
  | [unit] => [.ofNumber unit]
  | [] => []

/-- The character that a letter after a backslash stands for. -/
def escaped? : Char → Option Char
  | '"' => some '"'
  | '\\' => some '\\'
  | '/' => some '/'
  | 'b' => some '\x08'
  | 'f' => some '\x0c'
  | 'n' => some '\n'
  | 'r' => some '\r'
  | 't' => some '\t'
  | _ => none

/-- The units of a string whose opening quote stands at `start`, up to the
closing quote. -/
def readUnits (start : List Char) : List Char → Except Stop (List Nat × List Char)
  | [] | ['\\'] => .error (.flaw .unterminated start)
  | '"' :: rest => .ok ([], rest)
  | '\\' :: 'u' :: a :: b :: c :: d :: rest =>
    -- Four digits at the very end of the text are refused like missing ones.
    match hexNumber? [a, b, c, d], rest with
    | some unit, _ :: _ => do
      let (units, rest) ← readUnits start rest
      return (unit :: units, rest)
    | _, _ => .error (.flaw .unitEscape ('u' :: a :: b :: c :: d :: rest))
  | '\\' :: 'u' :: rest => .error (.flaw .unitEscape ('u' :: rest))
  | '\\' :: letter :: rest =>
    match escaped? letter with
    | some c => do
      let (units, rest) ← readUnits start rest
      return (c.toNat :: units, rest)
    | none => .error (.flaw .escape ('\\' :: letter :: rest))
  | c :: rest =>
    if c.toNat ≤ 0x1F then .error (.flaw .control (c :: rest))
    else do
      let (units, rest) ← readUnits start rest
      return (c.toNat :: units, rest)

/-- A string whose opening quote has been taken off `start`. -/
def readString (start rest : List Char) : Except Stop (Text × List Char) := do
  let (units, rest) ← readUnits start rest
  return (⟨joinUnits units⟩, rest)

/-! ### Numbers -/

/-- A whole number of these digits. -/
def wholeNumber (negative : Bool) (digits : List Char) : Except Stop Json :=
  if digitLimit < digits.length then .error .longNumeral
  else
    let n : Int := digitsValue digits
    .ok (.number (.int (if negative then -n else n)))

/-- The digits before the point: one zero, or a run that begins with another digit. -/
def wholeDigits? : List Char → Option (List Char × List Char)
  | '0' :: rest => some (['0'], rest)
  | c :: rest => if c.isDigit then some (spanDigits (c :: rest)) else none
  | [] => none

/-- A point and at least one digit; nothing is taken if they do not follow. -/
def fractionDigits (cs : List Char) : List Char × List Char :=
  match cs with
  | '.' :: rest =>
    match spanDigits rest with
    | ([], _) => ([], cs)
    | found => found
  | _ => ([], cs)

/-- An exponent mark and a power of ten; nothing is taken if they do not follow. -/
def exponentPart (cs : List Char) : Option Int × List Char :=
  match cs with
  | 'e' :: rest | 'E' :: rest =>
    match exponent? rest with
    | some (exponent, rest) => (some exponent, rest)
    | none => (none, cs)
  | _ => (none, cs)

/-- A number written with digits; with a fraction or an exponent it is binary64. -/
def readNumber (start : List Char) : Except Stop (Json × List Char) :=
  let (negative, cs) :=
    match start with
    | '-' :: rest => (true, rest)
    | _ => (false, start)
  match wholeDigits? cs with
  | none => .error (.flaw .value start)
  | some (whole, cs) =>
    let (fraction, cs) := fractionDigits cs
    let (exponent, cs) := exponentPart cs
    if fraction = [] ∧ exponent = none then do
      return (← wholeNumber negative whole, cs)
    else
      let d := Decimal.ofParts whole fraction (exponent.getD 0)
      .ok (.number (.float (d.toBinary64 negative)), cs)

/-! ### Values -/

/-- The text after its leading blanks. -/
def skipBlanks (cs : List Char) : List Char := cs.dropWhile isStrictBlank

/-- The names that are values of their own. -/
def names : List (String × Json) :=
  [("null", .null), ("true", .bool true), ("false", .bool false), ("NaN", .number (.float .nan)),
   ("Infinity", .number (.float (.infinite false))),
   ("-Infinity", .number (.float (.infinite true)))]

/-- A value that is a name, and the text after it. -/
def readName? (cs : List Char) : Option (Json × List Char) :=
  names.findSome? fun (name, value) =>
    if name.toList.isPrefixOf cs then some (value, cs.drop name.length) else none

mutual

/-- The value at the front of a text that begins with no blank, where this many
containers may still be opened. -/
def readValue : Nat → Nat → List Char → Except Stop (Json × List Char)
  | 0, _, cs => .error (.flaw .value cs)
  | fuel + 1, room, cs =>
    match cs, room with
    | '"' :: rest, _ => do
      let (s, rest) ← readString cs rest
      return (.string s, rest)
    | '\x7b' :: _, 0 | '[' :: _, 0 => .error .tooDeep
    | '\x7b' :: rest, room + 1 =>
      match skipBlanks rest with
      | '\x7d' :: rest => .ok (.object [], rest)
      | rest => do
        let (fields, rest) ← readFields fuel room [] rest
        return (.object fields, rest)
    | '[' :: rest, room + 1 =>
      match skipBlanks rest with
      | ']' :: rest => .ok (.array [], rest)
      | rest => do
        let (items, rest) ← readItems fuel room rest
        return (.array items, rest)
    | _, _ =>
      match readName? cs with
      | some found => .ok found
      | none => readNumber cs

/-- The items of an array, up to its closing bracket. -/
def readItems : Nat → Nat → List Char → Except Stop (List Json × List Char)
  | 0, _, cs => .error (.flaw .value cs)
  | fuel + 1, room, cs => do
    let (item, rest) ← readValue fuel room cs
    match skipBlanks rest with
    | ']' :: rest => return ([item], rest)
    | ',' :: rest => do
      let (items, rest) ← readItems fuel room (skipBlanks rest)
      return (item :: items, rest)
    | rest => .error (.flaw .comma rest)

/-- The fields of an object after those already read, up to its closing brace. -/
def readFields : Nat → Nat → Fields → List Char → Except Stop (Fields × List Char)
  | 0, _, _, cs => .error (.flaw .name cs)
  | fuel + 1, room, fields, cs =>
    match cs with
    | '"' :: rest => do
      let (key, rest) ← readString cs rest
      match skipBlanks rest with
      | ':' :: rest => do
        let (value, rest) ← readValue fuel room (skipBlanks rest)
        let fields := Fields.set fields key value
        match skipBlanks rest with
        | '\x7d' :: rest => return (fields, rest)
        | ',' :: rest => readFields fuel room fields (skipBlanks rest)
        | rest => .error (.flaw .comma rest)
      | rest => .error (.flaw .colon rest)
    | _ => .error (.flaw .name cs)

end

/-- Reading never nests deeper than twice the number of characters. -/
def readingFuel (cs : List Char) : Nat := 2 * cs.length + 2

/-- The document that a text holds, where this many containers may stand inside one
another, the outermost counted. -/
def read (room : Nat) (text : List Char) : Except Stop Json :=
  if text.head? = some '\ufeff' then .error (.flaw .byteOrderMark text)
  else do
    let (value, rest) ← readValue (readingFuel text) room (skipBlanks text)
    match skipBlanks rest with
    | [] => return value
    | rest => .error (.flaw .extra rest)

end Json

end TerminalReel
