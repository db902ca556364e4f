import TerminalReel.Config.Basic
import TerminalReel.Host
import TerminalReel.Log
/-!
# TerminalReel.Config.Error

What can be **wrong with a configuration**, and where.

A fault of a field carries the path that leads to it from the document's root.
Faults of the document as a whole, found before its fields are read, have none.
-/

namespace TerminalReel

/-- A text behind the place that it is about; an empty place is not written. -/
def located (place : Option String) (text : String) : String :=
  match place with
  | some place => if place = "" then text else place ++ ": " ++ text
  | none => text

/-! ### Paths -/

/-- One step from a value to a value inside it. -/
inductive Segment
  /-- To the field of this name. -/
  | key (name : String)
  /-- To the item at this index. -/
  | index (i : Nat)
  deriving DecidableEq

/-- The steps from the document's root to a value. -/
abbrev FieldPath := List Segment

namespace FieldPath

/-- The written steps that follow a path that has begun. -/
def tail : FieldPath → String
  | [] => ""
  | .key name :: rest => "." ++ name ++ tail rest
  | .index i :: rest => s!"[{i}]" ++ tail rest

/-- A path as messages write it; the root is called after what it holds. -/
def text : FieldPath → String
  | [] => "config"
  | .key name :: rest => name ++ tail rest
  | .index i :: rest => s!"[{i}]" ++ tail rest

/-- The value that a path leads to. -/
def follow? : FieldPath → Json → Option Json
  | [], value => some value
  | .key name :: rest, .object fields => do follow? rest (← Fields.get? fields name)
  | .index i :: rest, .array items => do follow? rest (← items[i]?)
  | _, _ => none

end FieldPath

/-! ### Faults -/

/-- What can be wrong with one field. -/
inductive FieldFault
  /-- An object was needed. -/
  | notObject (found : Json.Kind)
  /-- An array was needed. -/
  | notArray (found : Json.Kind)
  /-- A number was needed. -/
  | notNumber (found : Json)
  /-- A string was needed. -/
  | notString (found : Json)
  /-- A truth value was needed. -/
  | notBoolean (found : Json)
  /-- There is no array of steps. -/
  | noSteps
  /-- Files of this kind are not produced. -/
  | unknownOutput (kind : Text)
  /-- The text names no file in one directory. -/
  | notStem (found : Text)
  /-- A size must be greater than zero. -/
  | notPositive (found : Number)

/-- The wording of each fault of a field. -/
def FieldFault.message : FieldFault → String
  | notObject found => s!"expected an object, got {found.name}"
  | notArray found => s!"expected an array, got {found.name}"
  | notNumber found => s!"expected a number, got {found.shown}"
  | notString found => s!"expected a string, got {found.shown}"
  | notBoolean found => s!"expected true or false, got {found.shown}"
  | noSteps => "missing or invalid \"steps\" array"
  | unknownOutput kind =>
    s!"unsupported output type {quoted kind} (expected one of " ++
      String.intercalate ", " (OutputKind.all.map OutputKind.name) ++ ")"
  | notStem found =>
    s!"must be a plain file stem without path separators, got {quoted found}"
  | notPositive found => s!"must be positive, got {found}"

/-- The numbers that the wording shows may be written. -/
def FieldFault.isWritable : FieldFault → Bool
  | notNumber found | notString found | notBoolean found => found.isWritable
  | notPositive found => found.isWritable
  | _ => true

/-- The host can show the values that the wording shows. -/
def FieldFault.isShowable (host : Host) : FieldFault → Bool
  | notNumber found | notString found | notBoolean found => host.shows.covers found
  | _ => true

/-- What can be wrong with a document before its fields are read. -/
inductive DocumentFault
  /-- A configuration is an object. -/
  | unsupportedValue (found : Json.Kind)
  /-- The file's suffix names no known form; an absent one is empty. -/
  | unsupportedSuffix (suffix : Text)
  /-- There is no such file. -/
  | notFound (path : Text)
  /-- A file with this suffix is no definition file. -/
  | notDefinitionFile (path : Text)
  /-- The definition file defines no configuration. -/
  | noDefinition (fileName : Text)
  /-- The file does not hold a strict document. -/
  | malformed (path : Text) (report : String)
  /-- The file does not hold a relaxed document. -/
  | malformedRelaxed (path report : Text)
  /-- Containers stand inside one another, more than can be followed. -/
  | tooDeep

/-- The wording of each fault of a document. -/
def DocumentFault.message : DocumentFault → Text
  | unsupportedValue found => s!"unsupported configuration object {found.name}"
  | unsupportedSuffix suffix =>
    let shown : Text := if suffix.isEmpty then "(none)" else suffix
    s!"unsupported config file type {quoted shown}; use .json, .jsonc or .py"
  | notFound path => "config file not found: " ++ path
  | notDefinitionFile path => "cannot import " ++ path
  | noDefinition fileName => fileName ++ " must define a module-level 'config'"
  | malformed path report => "invalid JSON in " ++ path ++ Text.ofString s!": {report}"
  | malformedRelaxed path report => "invalid JSONC in " ++ path ++ ": " ++ report
  | tooDeep => "the document is nested too deeply"

/-- Why there is no configuration. -/
inductive ConfigError
  /-- A fault of the value at this path. -/
  | field (path : FieldPath) (fault : FieldFault)
  /-- A fault of the whole document. -/
  | document (fault : DocumentFault)

namespace ConfigError

/-- The written path of the faulty field, where there is one. -/
def place? : ConfigError → Option String
  | field path _ => some path.text
  | document _ => none

/-- The numbers that the message shows may be written. -/
def isWritable : ConfigError → Bool
  | field _ fault => fault.isWritable
  | document _ => true

/-- The host can show the values that the message shows. -/
def isShowable (host : Host) : ConfigError → Bool
  | field _ fault => fault.isShowable host
  | document _ => true

/-- The message: the path, then the fault. -/
def message : ConfigError → Text
  | field path fault => located path.text fault.message
  | document fault => fault.message

end ConfigError

end TerminalReel
