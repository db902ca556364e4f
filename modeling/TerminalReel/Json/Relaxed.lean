import TerminalReel.Host
import TerminalReel.Json.Reader
import TerminalReel.Text.Identifier
/-!
# TerminalReel.Json.Relaxed

Reading a document in its **relaxed** form, the one that people write by hand. The
program takes any reader of it from its host; this is one for hosts that have none.

Beside the strict form it admits comments, a comma after the last item, names
without quotes, single quotes, escaped line ends, hexadecimal numbers, a plus
sign, and numbers that begin or end with the point. A text either holds a
document or does not; no place is reported.
-/

namespace TerminalReel

namespace Json.Relaxed

/-! ### Between the tokens -/

/-- What the reader is inside of between two tokens. -/
inductive Gap
  /-- Blanks only. -/
  | blank
  /-- A comment that ends with its line. -/
  | line
  /-- A comment that ends with its own mark. -/
  | block

/-- The text after blanks and comments; a comment without an end leaves none. -/
def skipFrom : Gap → List Char → Option (List Char)
  | .blank, '/' :: '/' :: rest => skipFrom .line rest
  | .blank, '/' :: '*' :: rest => skipFrom .block rest
  | .blank, c :: rest => if isRelaxedBlank c then skipFrom .blank rest else some (c :: rest)
  | .line, c :: rest => skipFrom (if isLineEnd c then .blank else .line) rest
  | .block, '*' :: '/' :: rest => skipFrom .blank rest
  | .block, _ :: rest => skipFrom .block rest
  | .block, [] => none
  | _, [] => some []

/-- The text after blanks and comments. -/
def skip (cs : List Char) : Option (List Char) := skipFrom .blank cs

/-! ### Strings -/

/-- The character that a letter after a backslash stands for, where the letter
neither is a digit nor begins a number or ends a line. -/
def escaped : Char → Char
  | 'b' => '\x08'
  | 'f' => '\x0c'
  | 'n' => '\n'
  | 'r' => '\r'
  | 't' => '\t'
  | 'v' => '\x0b'
  | c => c

/-- The code points of a string up to its closing quote. Each numbered unit stands
by itself, also where two of them would make a pair. -/
def readPoints (quote : Char) : List Char → Option (List CodePoint × List Char)
  | [] | ['\\'] => none
  | '\\' :: 'u' :: a :: b :: c :: d :: rest => do
    let unit ← hexNumber? [a, b, c, d]
    let (points, rest) ← readPoints quote rest
    return (.ofNumber unit :: points, rest)
  | '\\' :: 'x' :: a :: b :: rest => do
    let unit ← hexNumber? [a, b]
    let (points, rest) ← readPoints quote rest
    return (.ofNumber unit :: points, rest)
  | '\\' :: '\r' :: '\n' :: rest => readPoints quote rest
  | '\\' :: '0' :: c :: rest => do
    if c.isDigit then none
    let (points, rest) ← readPoints quote (c :: rest)
    return (.char '\x00' :: points, rest)
  | '\\' :: c :: rest => do
    if isLineEnd c then return ← readPoints quote rest
    if c.isDigit || c == 'x' || c == 'u' then none
    let (points, rest) ← readPoints quote rest
    return (.char (escaped c) :: points, rest)
  | c :: rest => do
    if c = quote then return ([], rest)
    if c = '\n' then none
    let (points, rest) ← readPoints quote rest
    return (.char c :: points, rest)

/-- A string between quotes of either kind. -/
def readString? : List Char → Option (Text × List Char)
  | c :: rest =>
    if c = '"' ∨ c = '\'' then do
      let (points, rest) ← readPoints c rest
      return (⟨points⟩, rest)
    else none
  | [] => none

/-! ### Names -/

/-- The code points of an unquoted name after its beginning; a numbered one may
be any. -/
def readNameRest : List Char → List CodePoint × List Char
  | '\\' :: 'u' :: a :: b :: c :: d :: rest =>
    match hexNumber? [a, b, c, d] with
    | some unit =>
      let (points, rest) := readNameRest rest
      (.ofNumber unit :: points, rest)
    | none => ([], '\\' :: 'u' :: a :: b :: c :: d :: rest)
  | c :: rest =>
    if isNamePart c then
      let (points, rest) := readNameRest rest
      (.char c :: points, rest)
    else ([], c :: rest)
  | [] => ([], [])

/-- A name without quotes. -/
def readBareName? (cs : List Char) : Option (Text × List Char) :=
  let begins :=
    match cs with
    | '\\' :: _ => true
    | c :: _ => isNameStart c
    | [] => false
  match begins, readNameRest cs with
  | true, (point :: points, rest) => some (⟨point :: points⟩, rest)
  | _, _ => none

/-! ### Numbers -/

/-- A whole number of hexadecimal digits. -/
def readHex? : List Char → Option (Int × List Char)
  | '0' :: 'x' :: rest | '0' :: 'X' :: rest => do
    let digits := rest.takeWhile isHexDigit
    if digits = [] then none
    return ((← hexNumber? digits : Nat), rest.dropWhile isHexDigit)
  | _ => none

/-- The digits before the point; a zero is followed by no other digit. -/
def wholeDigits? (cs : List Char) : Option (List Char × List Char) :=
  match spanDigits cs with
  | ('0' :: _ :: _, _) => none
  | found => some found

/-- A decimal number; it may lack the digits on one side of its point. -/
def readDecimal? (negative : Bool) (cs : List Char) : Option (Json × List Char) := do
  let (whole, rest) ← wholeDigits? cs
  let (pointed, fraction, rest) :=
    match rest with
    | '.' :: rest => (true, spanDigits rest)
    | rest => (false, [], rest)
  if whole ++ fraction = [] then none
  let (exponent, rest) := exponentPart rest
  if pointed ∨ exponent ≠ none then
    let d := Decimal.ofParts whole fraction (exponent.getD 0)
    return (.number (.float (d.toBinary64 negative)), rest)
  else
    let n ← (wholeNumber negative whole).toOption
    return (n, rest)

/-- A number, with an optional sign. -/
def readNumber? (cs : List Char) : Option (Json × List Char) :=
  let (negative, cs) := splitSign cs
  if "Infinity".toList.isPrefixOf cs then
    some (.number (.float (.infinite negative)), cs.drop "Infinity".length)
  else if "NaN".toList.isPrefixOf cs then
    some (.number (.float .nan), cs.drop "NaN".length)
  else
    match readHex? cs with
    | some (n, rest) => some (.number (.int (if negative then -n else n)), rest)
    | none => readDecimal? negative cs

/-! ### Values -/

/-- Why a text is not read. -/
inductive Refusal
  /-- The text is not in the relaxed form. -/
  | malformed
  /-- More calls would be open than may be. -/
  | tooDeep

/-- What is not there is malformed. -/
def expect {α : Type} (found : Option α) : Except Refusal α :=
  match found with
  | some a => .ok a
  | none => .error .malformed

/-- The text after blanks and comments, as a step of reading. -/
def skipped (cs : List Char) : Except Refusal (List Char) := expect (skip cs)

/-- The calls that reading keeps open while it reads what is inside a container. Where
they are not counted nothing is too deep. -/
structure Calls where
  /-- How many may be open when the innermost value is read. -/
  limit : Nat := 0
  /-- Those of an array for its first item. -/
  item : Nat := 0
  /-- Those of an object for the value of its first field. -/
  field : Nat := 0
  /-- Those that are open besides for everything after the first. -/
  later : Nat := 0

/-- The calls that are left when some more are open. -/
def roomAfter (room calls : Nat) : Except Refusal Nat :=
  if room < calls then .error .tooDeep else .ok (room - calls)

/-- A value that is no container. -/
def readScalar? (cs : List Char) : Option (Json × List Char) :=
  match readString? cs with
  | some (s, rest) => some (.string s, rest)
  | none =>
    if "null".toList.isPrefixOf cs then some (.null, cs.drop "null".length)
    else if "true".toList.isPrefixOf cs then some (.bool true, cs.drop "true".length)
    else if "false".toList.isPrefixOf cs then some (.bool false, cs.drop "false".length)
    else readNumber? cs

mutual

/-- The value at the front of a text that begins with no blank, where this many
calls may still be opened. -/
def readValue (calls : Calls) : Nat → Nat → List Char → Except Refusal (Json × List Char)
  | 0, _, _ => .error .malformed
  | fuel + 1, room, cs =>
    match cs with
    | '\x7b' :: rest => do
      match ← skipped rest with
      | '\x7d' :: rest => return (.object [], rest)
      | rest => do
        let (fields, rest) ← readFields calls fuel (← roomAfter room calls.field) [] rest
        return (.object fields, rest)
    | '[' :: rest => do
      let room ← roomAfter room calls.item
      match ← skipped rest with
      | ']' :: rest => return (.array [], rest)
      | rest => do
        let (item, rest) ← readValue calls fuel room rest
        let (items, rest) ← readLaterItems calls fuel room rest
        return (.array (item :: items), rest)
    | cs => expect (readScalar? cs)

/-- The items of an array after the first, up to its closing bracket. -/
def readLaterItems (calls : Calls) :
    Nat → Nat → List Char → Except Refusal (List Json × List Char)
  | 0, _, _ => .error .malformed
  | fuel + 1, room, cs => do
    match ← skipped cs with
    | ']' :: rest => return ([], rest)
    | ',' :: rest =>
      match ← skipped rest with
      | ']' :: rest => return ([], rest)
      | rest => do
        let (item, rest) ← readValue calls fuel (← roomAfter room calls.later) rest
        let (items, rest) ← readLaterItems calls fuel room rest
        return (item :: items, rest)
    | _ => .error .malformed

/-- The fields of an object after those already read, up to its closing brace. -/
def readFields (calls : Calls) :
    Nat → Nat → Fields → List Char → Except Refusal (Fields × List Char)
  | 0, _, _, _ => .error .malformed
  | fuel + 1, room, fields, cs => do
    let (key, rest) ← expect (readString? cs <|> readBareName? cs)
    match ← skipped rest with
    | ':' :: rest => do
      let more := if fields.isEmpty then 0 else calls.later
      let (value, rest) ← readValue calls fuel (← roomAfter room more) (← skipped rest)
      let fields := Fields.set fields key value
      match ← skipped rest with
      | '\x7d' :: rest => return (fields, rest)
      | ',' :: rest =>
        match ← skipped rest with
        | '\x7d' :: rest => return (fields, rest)
        | rest => readFields calls fuel room fields rest
      | _ => .error .malformed
    | _ => .error .malformed

end

/-- The document that a text holds. -/
def read (calls : Calls) (text : List Char) : Except Refusal Json := do
  let (value, rest) ← readValue calls (readingFuel text) calls.limit (← skipped text)
  match ← skipped rest with
  | [] => return value
  | _ => .error .malformed

/-- What is said of a refusal; no place is told. -/
def Refusal.stop : Refusal → RelaxedStop
  | malformed => .malformed "the text is not in the relaxed form"
  | tooDeep => .tooDeep

/-- The reader as a host supplies it. -/
def reader (calls : Calls) (text : List Char) : Except RelaxedStop Json :=
  (read calls text).mapError Refusal.stop

end Json.Relaxed

/-- A host with this reader and with room for a thousand open calls, of which copying
keeps two open for each container. -/
def Host.standard : Host :=
  .ofLimits
    { reading := 1000, copying := 500, showing := 1000, printing := 1000
      own := by decide, least := by decide }
    (Json.Relaxed.reader {})

end TerminalReel
