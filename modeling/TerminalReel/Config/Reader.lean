import TerminalReel.Config.Defaults
import TerminalReel.Config.Error
/-!
# TerminalReel.Config.Reader

Reading a **configuration from a document**.

The reader moves through the document with a `Located` value in hand, which
knows the path it was reached by. Going into a field extends the path and the
value together, so the path of an error always leads to the value that is at
fault. An absent field and a null field are the same and mean the default.
-/

namespace TerminalReel

/-! ### Values in their places -/

/-- A value and the path that leads to it. -/
structure Located where
  path : FieldPath
  value : Json

/-- An object in its place. -/
structure Section where
  path : FieldPath
  fields : Fields

namespace Located

/-- The value is at fault. -/
def refuse {α : Type} (l : Located) (fault : FieldFault) : Except ConfigError α :=
  .error (.field l.path fault)

/-- The value as an object. -/
def section? (l : Located) : Except ConfigError Section :=
  match l.value with
  | .object fields => .ok ⟨l.path, fields⟩
  | value => l.refuse (.notObject value.kind)

/-- The value as a number. -/
def number (l : Located) : Except ConfigError Number :=
  match l.value with
  | .number n => .ok n
  | value => l.refuse (.notNumber value)

/-- The value as a string. -/
def string (l : Located) : Except ConfigError Text :=
  match l.value with
  | .string s => .ok s
  | value => l.refuse (.notString value)

/-- The value as a truth value. -/
def boolean (l : Located) : Except ConfigError Bool :=
  match l.value with
  | .bool b => .ok b
  | value => l.refuse (.notBoolean value)

/-- The items of an array, each in its place, from this index on. -/
def itemsFrom (path : FieldPath) : Nat → List Json → List Located
  | _, [] => []
  | i, item :: rest => ⟨path ++ [.index i], item⟩ :: itemsFrom path (i + 1) rest

/-- The value as an array of strings. -/
def strings (l : Located) : Except ConfigError (List Text) :=
  match l.value with
  | .array items => (itemsFrom l.path 0 items).mapM string
  | value => l.refuse (.notArray value.kind)

/-- The value, unless it is null. -/
def given? (l : Located) : Option Located :=
  match l.value with
  | .null => none
  | _ => some l

/-- The value as a string; null is none. -/
def string? (l : Located) : Except ConfigError (Option Text) :=
  match l.given? with
  | some l => some <$> l.string
  | none => .ok none

/-- The value as a number; null is none. -/
def number? (l : Located) : Except ConfigError (Option Number) :=
  match l.given? with
  | some l => some <$> l.number
  | none => .ok none

/-- The value as an object; a blank value is an object without fields. -/
def sectionOrEmpty (l : Located) : Except ConfigError Section :=
  if l.value.isBlank then .ok ⟨l.path, []⟩ else l.section?

end Located

/-- The value of a field; an absent or null one has the default. -/
def Section.get (s : Section) (key : String) (defaults : Fields := []) : Located :=
  ⟨s.path ++ [.key key], s.fields.getOr defaults key⟩

/-! ### Steps -/

/-- Reads a prompt. -/
def Prompt.ofSection (s : Section) : Except ConfigError Prompt := do
  return {
    user := ← (s.get "user" Prompt.defaults).string
    host := ← (s.get "host" Prompt.defaults).string
    symbol := ← (s.get "symbol" Prompt.defaults).string
    path := ← (s.get "path").string? }

/-- Reads a timing. -/
def Timing.ofSection (s : Section) : Except ConfigError Timing := do
  return {
    start := ← (s.get "start" Timing.defaults).number
    perChar := ← (s.get "perChar" Timing.defaults).number
    hold := ← (s.get "hold" Timing.defaults).number }

/-- Reads a position. -/
def Position.ofSection (s : Section) : Except ConfigError Position := do
  return {
    promptX := ← (s.get "promptX").number?
    commandX := ← (s.get "commandX").number? }

/-- Reads a position where one is given. -/
def Position.ofLocated? (l : Located) : Except ConfigError (Option Position) :=
  match l.given? with
  | some l => do return some (← Position.ofSection (← l.section?))
  | none => .ok none

/-- Reads a step. -/
def Step.ofLocated (l : Located) : Except ConfigError Step := do
  let s ← l.section?
  let prompt ← Prompt.ofSection (← (s.get "shellPrompt" Step.defaults).section?)
  let timing ← Timing.ofSection (← (s.get "timing").sectionOrEmpty)
  let position ← Position.ofLocated? (s.get "position")
  let lines ← (s.get "terminalLines" Step.defaults).strings
  let command ← (s.get "command" Step.defaults).string
  return { lines, prompt, command, timing, position }

/-! ### The whole configuration -/

/-- Reads the colours. -/
def Colors.ofSection (s : Section) : Except ConfigError Colors := do
  return {
    background := ← (s.get "bg" Colors.defaults).string
    lines := ← (s.get "terminalLines" Colors.defaults).string
    user := ← (s.get "user" Colors.defaults).string
    host := ← (s.get "host" Colors.defaults).string
    symbol := ← (s.get "symbol" Colors.defaults).string
    command := ← (s.get "command" Colors.defaults).string
    path := ← (s.get "path").string? }

/-- A kind of file that may be asked for and is never produced. -/
def skippedOutput : String := "gif"

/-- What is reported for a kind that is skipped. -/
def skippedOutputReport : String :=
  s!"Output type {quoted skippedOutput} is not produced by termanim; skipping it"

/-- The kinds of files that are asked for, from this index on, without those
that are skipped. -/
def readOutputs (path : FieldPath) : Nat → List Text → Attempt ConfigError (List OutputKind)
  | _, [] => pure []
  | i, name :: rest =>
    if name = skippedOutput then do
      Attempt.log .warning .config skippedOutputReport
      readOutputs path (i + 1) rest
    else
      match OutputKind.ofName? name with
      | some kind => do return kind :: (← readOutputs path (i + 1) rest)
      | none => throw (.field (path ++ [.index i]) (.unknownOutput name))

/-- A name is a file stem: not empty, and without path separators. -/
def isFileStem (name : Text) : Bool :=
  !name.isEmpty && !(name.points.contains (.char '/')) && !(name.points.contains (.char '\\'))

/-- Reads the name of the files. -/
def readName (l : Located) : Except ConfigError Text := do
  let name ← l.string
  if isFileStem name then return name else l.refuse (.notStem name)

/-- A size that is zero or less is at fault. -/
def checkPositive (path : FieldPath) (n : Number) : Except ConfigError Unit :=
  if n.le 0 then .error (.field path (.notPositive n)) else .ok ()

/-- The steps of a configuration, each in its place. -/
def Section.steps (s : Section) : Except ConfigError (List Located) :=
  let l := s.get "steps"
  match l.value with
  | .array items => .ok (Located.itemsFrom l.path 0 items)
  | _ => l.refuse .noSteps

/-- Reads a configuration. -/
def Config.ofJson (document : Json) : Attempt ConfigError Config := do
  let s ← Attempt.ofExcept (Located.section? ⟨[], document⟩)
  let steps ← Attempt.ofExcept s.steps
  let field (key : String) : Located := s.get key Config.defaults
  let requested ← Attempt.ofExcept (field "outputTypes").strings
  let outputs ← readOutputs (field "outputTypes").path 0 requested
  Attempt.ofExcept do
    -- The order of these lines is the order in which faults are reported.
    let name ← readName (field "name")
    let width ← (field "width").number
    let height ← (field "height").number
    let charWidth ← (field "charWidth").number
    checkPositive (field "width").path width
    checkPositive (field "height").path height
    checkPositive (field "charWidth").path charWidth
    let fontFamily ← (field "fontFamily").string
    let fontSize ← (field "fontSize").number
    let loop ← (field "loop").boolean
    let embed ← (field "embed").boolean
    let outputDirectory ← (s.get "outputDirectory").string?
    let colors ← Colors.ofSection (← (s.get "colors").sectionOrEmpty)
    let steps ← steps.mapM Step.ofLocated
    return {
      width, height, fontFamily, fontSize, charWidth, loop, embed, name, outputDirectory,
      outputs, colors, steps }

end TerminalReel
