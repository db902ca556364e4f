import TerminalReel.Json.Basic
/-!
# TerminalReel.Json.Printer

Documents as **text of plain ASCII**, on one line or indented.

Code points outside the visible ASCII range are written by their UTF-16 units,
so a character beyond the basic plane becomes a surrogate pair. Numbers are
written in full, and the three numbers that the format has no digits for by name.
-/

namespace TerminalReel

namespace Json

/-! ### Strings -/

/-- A UTF-16 unit by its number. -/
def unitEscape (unit : Nat) : List Char := '\\' :: 'u' :: hexPadded 4 unit

/-- One character of a written string. -/
def encodeChar (c : Char) : List Char :=
  if c = '"' then ['\\', '"']
  else if c = '\\' then ['\\', '\\']
  else if c = '\n' then ['\\', 'n']
  else if c = '\r' then ['\\', 'r']
  else if c = '\t' then ['\\', 't']
  else if c = '\x08' then ['\\', 'b']
  else if c = '\x0c' then ['\\', 'f']
  else if ' ' ≤ c ∧ c ≤ '~' then [c]
  else if c.toNat < 0x10000 then unitEscape c.toNat
  else
    unitEscape (0xD800 + (c.toNat - 0x10000) / 0x400)
      ++ unitEscape (0xDC00 + (c.toNat - 0x10000) % 0x400)

/-- One code point of a written string. -/
def encodePoint : CodePoint → List Char
  | .char c => encodeChar c
  | .surrogate offset => unitEscape (CodePoint.surrogate offset).number

/-- A string between double quotes. -/
def encodeString (text : Text) : String :=
  String.ofList ('"' :: text.points.flatMap encodePoint ++ ['"'])

/-! ### Numbers -/

/-- The plain style with the names that documents give to what has no digits. -/
def documentStyle : PlainStyle := { plainStyle with infinity := "Infinity", nan := "NaN" }

/-- A written number. -/
def encodeNumber : Number → String
  | .int n => toString n
  | .float x => documentStyle.binary64 x

/-! ### On one line -/

mutual

/-- The document on one line. -/
def compact : Json → String
  | .null => "null"
  | .bool b => if b then "true" else "false"
  | .number n => encodeNumber n
  | .string s => encodeString s
  | .array items => "[" ++ compactItems items ++ "]"
  | .object fields => "\x7b" ++ compactFields fields ++ "\x7d"

/-- The items of an array on one line. -/
def compactItems : List Json → String
  | [] => ""
  | [item] => item.compact
  | item :: rest => item.compact ++ ", " ++ compactItems rest

/-- The fields of an object on one line. -/
def compactFields : List (Text × Json) → String
  | [] => ""
  | [(key, value)] => encodeString key ++ ": " ++ value.compact
  | (key, value) :: rest =>
    encodeString key ++ ": " ++ value.compact ++ ", " ++ compactFields rest

end

/-! ### Indented -/

/-- The line break before something at this depth. -/
def lineBreak (depth : Nat) : String := "\n" ++ String.ofList (List.replicate (2 * depth) ' ')

mutual

/-- The document with one value per line, `depth` levels deep. -/
def indented (depth : Nat) : Json → String
  | .null => "null"
  | .bool b => if b then "true" else "false"
  | .number n => encodeNumber n
  | .string s => encodeString s
  | .array [] => "[]"
  | .array (item :: rest) =>
    "[" ++ indentedItems (depth + 1) (item :: rest) ++ lineBreak depth ++ "]"
  | .object [] => "\x7b\x7d"
  | .object (field :: rest) =>
    "\x7b" ++ indentedFields (depth + 1) (field :: rest) ++ lineBreak depth ++ "\x7d"

/-- The items of an array, each on lines of its own. -/
def indentedItems (depth : Nat) : List Json → String
  | [] => ""
  | [item] => lineBreak depth ++ item.indented depth
  | item :: rest => lineBreak depth ++ item.indented depth ++ "," ++ indentedItems depth rest

/-- The fields of an object, each on lines of its own. -/
def indentedFields (depth : Nat) : List (Text × Json) → String
  | [] => ""
  | [(key, value)] => lineBreak depth ++ encodeString key ++ ": " ++ value.indented depth
  | (key, value) :: rest =>
    lineBreak depth ++ encodeString key ++ ": " ++ value.indented depth ++ ","
      ++ indentedFields depth rest

end

end Json

end TerminalReel
