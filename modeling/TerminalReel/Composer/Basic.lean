import TerminalReel.Config.Reader
import TerminalReel.Json.Printer
/-!
# TerminalReel.Composer.Basic

Configurations **put together piece by piece**.

A composer holds a document and starts from the defaults. A step is drafted by a
sketch of its own, from the default step, and handed over as often as wanted:
what is handed over is the sketch's document at that moment, and later changes
to the sketch do not reach it.
-/

namespace TerminalReel

/-- A configuration in the making. -/
structure Composer where
  /-- The document so far. -/
  fields : Fields

/-- A step in the making. -/
structure StepSketch where
  /-- The step's document so far. -/
  fields : Fields := Step.defaults

namespace Composer

/-- Settings that have a second spelling, and the key that both mean. -/
def settingKeys : List (Text × Text) :=
  [("font_family", "fontFamily"), ("font_size", "fontSize"), ("char_width", "charWidth"),
   ("output_directory", "outputDirectory"), ("output_types", "outputTypes")]

/-- Colours that have a second spelling, and the key that both mean. -/
def colorKeys : List (Text × Text) := [("terminal_lines", "terminalLines")]

/-- The key that a spelling means; one without an entry means itself. -/
def keyOf (keys : List (Text × Text)) (spelling : Text) : Text :=
  (keys.lookup spelling).getD spelling

/-- The fields after settings, each under the key that its spelling means. -/
def applySettings (keys : List (Text × Text)) (fields : Fields)
    (settings : List (Text × Json)) : Fields :=
  settings.foldl (fun fields (spelling, value) => fields.set (keyOf keys spelling) value) fields

/-- A composer with settings and colours, and without steps. -/
def new (settings : List (Text × Json) := []) (colors : List (Text × Json) := []) :
    Composer :=
  let fields := applySettings settingKeys Config.defaults settings
  let colors := applySettings colorKeys Colors.defaults colors
  ⟨(fields.set "colors" (.object colors)).set "steps" (.array [])⟩

/-- The steps so far. -/
def steps (composer : Composer) : List Json :=
  match composer.fields.get? "steps" with
  | some (.array steps) => steps
  | _ => []

/-- The composer with a step's document at the end. -/
def addStep (composer : Composer) (step : Json) : Composer :=
  ⟨composer.fields.set "steps" (.array (composer.steps ++ [step]))⟩

/-- The composer with a copy of a step's document at the end, if the host can copy it. -/
def addStep? (host : Host) (composer : Composer) (step : Json) : Option Composer :=
  if host.copies.covers step then some (composer.addStep step) else none

/-- The document so far. -/
def toJson (composer : Composer) : Json := .object composer.fields

/-- A copy of the document so far, if the host can copy it. -/
def copy? (host : Host) (composer : Composer) : Option Json :=
  if host.copies.covers composer.toJson then some composer.toJson else none

/-- The configuration that a copy of the document describes. -/
def build (host : Host) (composer : Composer) : Attempt ConfigError Config :=
  match composer.copy? host with
  | some document => Config.ofJson document
  | none => throw (.document .tooDeep)

/-- The document as the text of a file. -/
def fileText (composer : Composer) : String := composer.toJson.indented 0 ++ "\n"

@[simp] theorem steps_addStep (composer : Composer) (step : Json) :
    (composer.addStep step).steps = composer.steps ++ [step] := by
  simp [addStep, steps]

/-- A step that is added stands at the end. -/
theorem steps_of_addStep? {host : Host} {composer after : Composer} {step : Json}
    (h : composer.addStep? host step = some after) : after.steps = composer.steps ++ [step] := by
  unfold addStep? at h
  split at h
  · obtain rfl : composer.addStep step = after := by simpa using h
    exact steps_addStep composer step
  · simp at h

end Composer

namespace StepSketch

/-- The field, where a value is given. -/
def given (key : Text) (value : Option Json) : Fields :=
  match value with
  | some value => [(key, value)]
  | none => []

/-- The lines that a value lists: the items of an array, the characters of a
string, the keys of an object. -/
def linesOf? : Json → Option (List Json)
  | .array items => some items
  | .string s => some (s.points.map fun point => .string (.ofPoint point))
  | .object fields => some (fields.map fun (key, _) => .string key)
  | _ => none

/-- Sets the lines. -/
def setLines (sketch : StepSketch) (lines : List Json) : StepSketch :=
  ⟨sketch.fields.set "terminalLines" (.array lines)⟩

/-- Sets the whole prompt. -/
def setPrompt (sketch : StepSketch) (user host symbol : Json) (path : Option Json) :
    StepSketch :=
  let fields : Fields := [("user", user), ("host", host), ("symbol", symbol)]
  ⟨sketch.fields.set "shellPrompt" (.object (fields ++ given "path" path))⟩

/-- Sets the command. -/
def setCommand (sketch : StepSketch) (text : Json) : StepSketch :=
  ⟨sketch.fields.set "command" text⟩

/-- The timing's document so far. -/
def timingFields (sketch : StepSketch) : Fields :=
  match sketch.fields.get? "timing" with
  | some (.object fields) => fields
  | _ => []

/-- Sets those timing values that are given. -/
def setTiming (sketch : StepSketch) (start perChar hold : Option Json) : StepSketch :=
  let settings := given "start" start ++ given "perChar" perChar ++ given "hold" hold
  let fields := settings.foldl (fun fields (key, value) => fields.set key value)
    sketch.timingFields
  ⟨sketch.fields.set "timing" (.object fields)⟩

/-- Sets the whole position. -/
def setPosition (sketch : StepSketch) (promptX commandX : Option Json) : StepSketch :=
  ⟨sketch.fields.set "position"
    (.object (given "promptX" promptX ++ given "commandX" commandX))⟩

/-- The step's document so far. -/
def toJson (sketch : StepSketch) : Json := .object sketch.fields

end StepSketch

/-- Hands a sketch's step to the composer, if the host can copy it. -/
def Composer.accept? (host : Host) (composer : Composer) (sketch : StepSketch) :
    Option Composer :=
  composer.addStep? host sketch.toJson

end TerminalReel
