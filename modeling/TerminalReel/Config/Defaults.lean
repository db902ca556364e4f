import TerminalReel.Config.Basic
/-!
# TerminalReel.Config.Defaults

The **default documents**: what a configuration and a step say where they say
nothing themselves.

They are kept in the form of documents, because the composer begins with them
and the tools show them as they are.
-/

namespace TerminalReel

/-- The kinds of files that are made when none are asked for. -/
def defaultOutputs : Json := .array (OutputKind.all.map fun kind => .string kind.name)

/-- The default colours. -/
def Colors.defaults : Fields :=
  [("bg", "black"), ("terminalLines", "#00FF00"), ("user", "#00ffff"), ("host", "#ffaa00"),
   ("symbol", "#fff"), ("command", "#fff")]

/-- The default configuration, apart from its steps. -/
def Config.defaults : Fields :=
  [("width", (800 : Number)), ("height", (200 : Number)), ("fontFamily", "Courier New"),
   ("fontSize", (18 : Number)), ("charWidth", (11 : Number)), ("loop", false), ("embed", false),
   ("name", "animation"), ("outputTypes", defaultOutputs), ("colors", .object Colors.defaults)]

/-- The default prompt. -/
def Prompt.defaults : Fields := [("user", "user"), ("host", "host"), ("symbol", ":~$")]

/-- The default timing. -/
def Timing.defaults : Fields :=
  [("start", (0 : Number)), ("perChar", Number.float (.ofFraction 1 5)), ("hold", (5 : Number))]

/-- The default step. -/
def Step.defaults : Fields :=
  [("terminalLines", .array []), ("command", ""), ("shellPrompt", .object Prompt.defaults),
   ("timing", .object Timing.defaults)]

end TerminalReel
