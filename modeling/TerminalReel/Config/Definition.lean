import TerminalReel.Config.Literal
import TerminalReel.Text.Encoding
import TerminalReel.Text.LineEnds
import TerminalReel.Text.Pieces
/-!
# TerminalReel.Config.Definition

The document in a **definition file**.

A definition file consists of comments and blank lines, and of lines that give
the name `config` to a document on the same line; the last of them counts. Its
text is UTF-8, unless a comment in one of the first two lines declares another
encoding. Comments are not read, so without a declaration they may hold any
bytes.
-/

namespace TerminalReel

namespace Definition

open Literal (skipBlanks)

/-- Why a file defines nothing. -/
inductive Refusal
  /-- The file is not written as a definition file. -/
  | malformed
  /-- The file holds a null character, which ends texts. -/
  | nullCharacter
  /-- A document uses a name that stands for nothing. -/
  | unboundName
  deriving DecidableEq

/-! ### Bytes and lines

Until its encoding is known, a file is read as the characters of the numbers of
its bytes. Line ends and declarations are the same in every encoding. -/

/-- The bytes of which these are the numbers' characters. -/
def bytesOfChars (cs : List Char) : List Nat := cs.map Char.toNat

/-- The text with a line feed at its end, as all lines have one. -/
def endLine (cs : List Char) : List Char := if cs.getLast? = some '\n' then cs else cs ++ ['\n']

/-- A line that says nothing: a blank one, or a comment. -/
def isSilent (line : List Char) : Bool :=
  match skipBlanks line with
  | [] => true
  | c :: _ => c == '#'

/-- The mark of UTF-8 at the beginning of a file. -/
def byteMark : List Char := ['\u00ef', '\u00bb', '\u00bf']

/-! ### Declared encodings -/

/-- The word that declares an encoding. -/
def declarationWord : List Char := "coding".toList

/-- A character of an encoding's name. -/
def isNameChar (c : Char) : Bool := c.isAlphanum || c == '-' || c == '_' || c == '.'

/-- The first name in a comment that follows the word and a colon or an equals
sign. -/
def nameIn? : List Char → Option (List Char)
  | [] => none
  | c :: rest =>
    let cs := c :: rest
    match declarationWord.isPrefixOf cs, cs.drop declarationWord.length with
    | true, mark :: after =>
      let name :=
        (after.dropWhile fun c => c == ' ' || c == '\t').takeWhile isNameChar
      if (mark == ':' || mark == '=') && name ≠ [] then some name else nameIn? rest
    | _, _ => nameIn? rest

/-- The name of the encoding that a line declares: only a comment declares one. -/
def declaredOn? (line : List Char) : Option (List Char) :=
  match skipBlanks line with
  | '#' :: comment => nameIn? comment
  | _ => none

/-- The name of the encoding that the first two lines declare; the second counts
only behind one that says nothing. -/
def declared? : List (List Char) → Option (List Char)
  | first :: rest =>
    match declaredOn? first with
    | some name => some name
    | none => if isSilent first then rest.head?.bind declaredOn? else none
  | [] => none

/-- The beginning of an encoding's name as far as it tells the two encodings
that have spellings of their own here. -/
def shortName (name : List Char) : List Char :=
  (name.take 12).map fun c => if c == '_' then '-' else c.toLower

/-- The name is this one, or begins with it and a dash. -/
def isNamed (name : List Char) (spelling : String) : Bool :=
  let short := shortName name
  short == spelling.toList || (spelling ++ "-").toList.isPrefixOf short

/-- The name of the encoding that needs no declaration. -/
def isDefaultName (name : List Char) : Bool := isNamed name "utf-8"

/-- The first part of Latin text, under spellings of its own. -/
def isLatin (name : List Char) : Bool :=
  ["latin-1", "iso-8859-1", "iso-latin-1"].any (isNamed name)

/-- The encoding of a declared name. -/
def encoding? (name : List Char) : Option Encoding :=
  Encoding.ofName? (if isLatin name then "latin-1".toList else name)

/-! ### Lines that define -/

/-- The name that a line gives to a document. -/
def definedName : List Char := "config".toList

/-- The literal that a line defines. -/
def definedOn? (line : List Char) : Option Literal.Value := do
  let line := line.dropWhile (· == '\x0c')
  match definedName.isPrefixOf line, skipBlanks (line.drop definedName.length) with
  | true, '=' :: rest =>
    let (value, rest) ← Literal.read? rest
    if isSilent rest then return value else none
  | _, _ => none

/-- The part of a line before its comment, where a string in some quotes may have
begun: a number sign in a string begins no comment. -/
def beforeComment : Option Char → List Char → List Char
  | _, [] => []
  | none, c :: rest =>
    if c = '#' then []
    else c :: beforeComment (if c = '"' ∨ c = '\'' then some c else none) rest
  | some quote, '\\' :: c :: rest => '\\' :: c :: beforeComment (some quote) rest
  | some quote, c :: rest => c :: beforeComment (if c = quote then none else some quote) rest

/-- The characters of a line in UTF-8 before its comment. -/
def plainText? (line : List Char) : Option (List Char) :=
  Encoding.readUtf8? (bytesOfChars (beforeComment none line))

/-- The literals that the lines define, each line first read by `text?`. -/
def definitions? (text? : List Char → Option (List Char)) (lines : List (List Char)) :
    Option (List Literal.Value) :=
  (lines.filter fun line => !isSilent line).mapM fun line => (text? line).bind definedOn?

/-- The document that the lines define last. All of them have to be definitions, and
to use no name that stands for nothing. -/
def lastDefined (text? : List Char → Option (List Char)) (lines : List (List Char)) :
    Except Refusal (Option Json) :=
  match definitions? text? lines with
  | none => .error .malformed
  | some values =>
    if values.all (·.isBound) then .ok (values.getLast?.map (·.document)) else .error .unboundName

/-! ### Whole files -/

/-- The document that a text in its own encoding defines. A null character ends it,
and a line that defines something has its line feed. -/
def ofDecoded (text : List Char) : Except Refusal (Option Json) :=
  let lines := pieces '\n' (text.takeWhile (· ≠ '\x00'))
  if lines.getLast?.all isSilent then lastDefined some lines else .error .malformed

/-- The document that a file's characters define in the encoding of a name. -/
def ofEncoded (name : List Char) (text : List Char) : Except Refusal (Option Json) :=
  match (encoding? name).bind (·.read? (bytesOfChars text)) with
  | some text => ofDecoded text
  | none => .error .malformed

/-- The document that a file's characters define, line ends unified and the byte
mark taken off. -/
def ofText (marked : Bool) (text : List Char) : Except Refusal (Option Json) :=
  let lines := pieces '\n' text
  match declared? lines with
  | none => lastDefined plainText? lines
  | some name =>
    if isDefaultName name then lastDefined plainText? lines
    else if marked then .error .malformed
    else ofEncoded name text

/-- The document that a file defines, if it defines one. -/
def read (content : ByteArray) : Except Refusal (Option Json) :=
  let text := endLine (unifyLineEnds (Encoding.charsOf (content.toList.map UInt8.toNat)))
  if text.contains '\x00' then .error .nullCharacter
  else if byteMark.isPrefixOf text then ofText true (text.drop byteMark.length)
  else ofText false text

end Definition

end TerminalReel
