import TerminalReel.Json.Reader
import TerminalReel.Text.Encoding.Escaped
/-!
# TerminalReel.Config.Literal

The **literals** that give documents in definition files.

They are written nearly like documents in the strict form, on one line. Strings may
stand in quotes of either kind and hold control characters, their backslashes write
more than there, a comma may stand after the last item, and the three values that
are names are spelled in their own way. The names of the strict form are known, and
stand for nothing.
-/

namespace TerminalReel

namespace Literal

/-- A blank within a line. -/
def isBlank (c : Char) : Bool := c == ' ' || c == '\t' || c == '\x0c'

/-- The text after its leading blanks. -/
def skipBlanks (cs : List Char) : List Char := cs.dropWhile isBlank

/-! ### Strings -/

/-- The code points of a string up to its closing quote, and the text behind it. -/
def readPoints? (quote : Char) : List Char → Option (List CodePoint × List Char)
  | [] | ['\\'] => none
  | '\\' :: c :: rest => do
    let (points, used) ← escape? c rest
    let (others, rest) ← readPoints? quote ((c :: rest).drop used)
    return (points ++ others, rest)
  | c :: rest =>
    if c = quote then some ([], rest)
    else do
      let (points, rest) ← readPoints? quote rest
      return (.char c :: points, rest)
termination_by cs => cs.length
decreasing_by
  all_goals simp only [List.length_drop, List.length_cons]
  all_goals omega

/-- A string at the front of a text. -/
def readString? : List Char → Option (Text × List Char)
  | '"' :: rest => (readPoints? '"' rest).map fun (points, rest) => (⟨points⟩, rest)
  | '\'' :: rest => (readPoints? '\'' rest).map fun (points, rest) => (⟨points⟩, rest)
  | _ => none

/-! ### Values -/

/-- The names that are values. -/
def names : List (String × Json) :=
  [("None", .null), ("True", .bool true), ("False", .bool false)]

/-- What a literal stands for, as far as all of its names stand for something. -/
structure Value where
  document : Json
  isBound : Bool := true

/-- A name at the front of a text, and the text behind it. -/
def readName? (cs : List Char) : Option (Value × List Char) :=
  match names.find? fun (name, _) => name.toList.isPrefixOf cs with
  | some (name, document) => some ({ document }, cs.drop name.length)
  | none =>
    (Json.readName? cs).map fun (document, rest) => ({ document, isBound := false }, rest)

/-- A value that is no container. -/
def readScalar? (cs : List Char) : Option (Value × List Char) :=
  match readString? cs with
  | some (text, rest) => some ({ document := .string text }, rest)
  | none =>
    match readName? cs with
    | some found => some found
    | none =>
      (Json.readNumber cs).toOption.map fun (number, rest) => ({ document := number }, rest)

mutual

/-- The value at the front of a text that begins with no blank, where this many
containers may still be opened. -/
def readValue? : Nat → Nat → List Char → Option (Value × List Char)
  | 0, _, _ => none
  | fuel + 1, room, cs =>
    match cs, room with
    | '\x7b' :: _, 0 | '[' :: _, 0 => none
    | '\x7b' :: rest, room + 1 => do
      let (fields, isBound, rest) ← readFields? fuel room [] true (skipBlanks rest)
      return ({ document := .object fields, isBound }, rest)
    | '[' :: rest, room + 1 => do
      let (items, isBound, rest) ← readItems? fuel room (skipBlanks rest)
      return ({ document := .array items, isBound }, rest)
    | cs, _ => readScalar? cs

/-- The items of an array, up to its closing bracket, and whether all names in them
stand for something. -/
def readItems? : Nat → Nat → List Char → Option (List Json × Bool × List Char)
  | 0, _, _ => none
  | fuel + 1, room, cs =>
    match cs with
    | ']' :: rest => some ([], true, rest)
    | cs => do
      let (item, rest) ← readValue? fuel room cs
      match skipBlanks rest with
      | ']' :: rest => return ([item.document], item.isBound, rest)
      | ',' :: rest => do
        let (items, isBound, rest) ← readItems? fuel room (skipBlanks rest)
        return (item.document :: items, item.isBound && isBound, rest)
      | _ => none

/-- The fields of an object after those already read, up to its closing brace, and
whether all names in them stand for something. -/
def readFields? : Nat → Nat → Fields → Bool → List Char →
    Option (Fields × Bool × List Char)
  | 0, _, _, _, _ => none
  | fuel + 1, room, fields, isBound, cs =>
    match cs with
    | '\x7d' :: rest => some (fields, isBound, rest)
    | cs => do
      let (key, rest) ← readString? cs
      match skipBlanks rest with
      | ':' :: rest => do
        let (value, rest) ← readValue? fuel room (skipBlanks rest)
        let fields := Fields.set fields key value.document
        let isBound := isBound && value.isBound
        match skipBlanks rest with
        | '\x7d' :: rest => return (fields, isBound, rest)
        | ',' :: rest => readFields? fuel room fields isBound (skipBlanks rest)
        | _ => none
      | _ => none

end

/-- How many containers may stand inside one another, the outermost counted. -/
def depthLimit : Nat := 200

/-- The literal at the front of a text, and the text behind it. -/
def read? (cs : List Char) : Option (Value × List Char) :=
  readValue? (Json.readingFuel cs) depthLimit (skipBlanks cs)

end Literal

end TerminalReel
