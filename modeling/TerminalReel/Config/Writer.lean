import TerminalReel.Config.Basic
/-!
# TerminalReel.Config.Writer

A **configuration as a document**, every field written out.

Only what has no default form is left out when it is absent: the path of a
prompt, its colour, the overrides of a position, and the output directory.
-/

namespace TerminalReel

/-- The field, where it has a value. -/
def optionalField (key : String) (value : Option Json) : Fields :=
  match value with
  | some value => [(key, value)]
  | none => []

/-- The document of a prompt. -/
def Prompt.toJson (prompt : Prompt) : Json :=
  let fields : Fields :=
    [("user", .string prompt.user), ("host", .string prompt.host),
     ("symbol", .string prompt.symbol)]
  .object (fields ++ optionalField "path" (prompt.path.map .string))

/-- The document of a timing. -/
def Timing.toJson (timing : Timing) : Json :=
  .object [("start", timing.start), ("perChar", timing.perChar), ("hold", timing.hold)]

/-- The document of a position. -/
def Position.toJson (position : Position) : Json :=
  .object (optionalField "promptX" (position.promptX.map .number)
    ++ optionalField "commandX" (position.commandX.map .number))

/-- The document of a list of strings. -/
def stringsToJson (strings : List Text) : Json := .array (strings.map Json.string)

/-- The document of a step. -/
def Step.toJson (step : Step) : Json :=
  let fields : Fields :=
    [("terminalLines", stringsToJson step.lines), ("shellPrompt", step.prompt.toJson),
     ("command", .string step.command), ("timing", step.timing.toJson)]
  .object (fields ++ optionalField "position" (step.position.map Position.toJson))

/-- The document of the colours. -/
def Colors.toJson (colors : Colors) : Json :=
  let fields : Fields :=
    [("bg", .string colors.background), ("terminalLines", .string colors.lines),
     ("user", .string colors.user), ("host", .string colors.host),
     ("symbol", .string colors.symbol), ("command", .string colors.command)]
  .object (fields ++ optionalField "path" (colors.path.map .string))

/-- The document of a configuration. -/
def Config.toJson (config : Config) : Json :=
  let fields : Fields :=
    [("width", .number config.width), ("height", .number config.height),
     ("fontFamily", .string config.fontFamily), ("fontSize", .number config.fontSize),
     ("charWidth", .number config.charWidth), ("loop", .bool config.loop),
     ("embed", .bool config.embed), ("name", .string config.name),
     ("outputTypes", stringsToJson (config.outputs.map fun kind => kind.name)),
     ("colors", config.colors.toJson), ("steps", .array (config.steps.map Step.toJson))]
  .object (fields ++ optionalField "outputDirectory" (config.outputDirectory.map .string))

end TerminalReel
