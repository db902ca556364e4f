import TerminalReel.Json.Basic
/-!
# TerminalReel.Config.Basic

What an animation shows: a **session** of steps, and how it is drawn.

A step prints lines and then has a command typed at a prompt. Its timing says
when typing asks to begin, how long each character takes, and how long the step
stays afterwards.
-/

namespace TerminalReel

/-- The prompt at which a command is typed. -/
structure Prompt where
  user : Text := "user"
  host : Text := "host"
  symbol : Text := ":~$"
  /-- The working directory, where one is shown. -/
  path : Option Text := none
  deriving DecidableEq

namespace Prompt

/-- The path that is shown; an empty one is not. -/
def shownPath? (prompt : Prompt) : Option Text := prompt.path.filter fun path => !path.isEmpty

/-- The prompt as it reads on the line. -/
def text (prompt : Prompt) : Text :=
  let path := (prompt.shownPath?.map ((":" : Text) ++ ·)).getD ""
  prompt.user ++ "@" ++ prompt.host ++ path ++ prompt.symbol

end Prompt

/-- The three numbers, in seconds, that place a step in time. -/
structure Timing where
  /-- When typing asks to begin, from the start of the cycle. -/
  start : Number := .float (.ofFraction 0 1)
  /-- How long each character takes. -/
  perChar : Number := .float (.ofFraction 1 5)
  /-- How long the step stays after typing. -/
  hold : Number := .float (.ofFraction 5 1)
  deriving DecidableEq

/-- Where prompt and command begin, in pixels, if not where they are laid out. -/
structure Position where
  promptX : Option Number := none
  commandX : Option Number := none
  deriving DecidableEq

/-- One step of a session. -/
structure Step where
  /-- The lines printed before the prompt. -/
  lines : List Text := []
  prompt : Prompt := {}
  /-- The command typed at the prompt. -/
  command : Text := ""
  timing : Timing := {}
  position : Option Position := none
  deriving DecidableEq

/-- How long typing the command takes. -/
def Step.typingDuration (step : Step) : Except ArithmeticError Number :=
  (Number.int step.command.length).mul step.timing.perChar

/-- The colours of the parts of a session. -/
structure Colors where
  background : Text := "black"
  lines : Text := "#00FF00"
  user : Text := "#00ffff"
  host : Text := "#ffaa00"
  symbol : Text := "#fff"
  command : Text := "#fff"
  /-- The colour of the prompt's path; without one, that of the host. -/
  path : Option Text := none
  deriving DecidableEq

/-- The kinds of files that are produced. -/
inductive OutputKind
  | html
  | svg
  deriving DecidableEq

namespace OutputKind

/-- The name of a kind, which is also its file suffix. -/
def name : OutputKind → String
  | html => "html"
  | svg => "svg"

/-- Every kind, in the order in which they are listed. -/
def all : List OutputKind := [html, svg]

/-- The kind of a name. -/
def ofName? (name : Text) : Option OutputKind :=
  all.find? fun kind => Text.ofString kind.name = name

@[simp] theorem ofName?_name (kind : OutputKind) : ofName? kind.name = some kind := by
  cases kind <;> decide

end OutputKind

/-- A configuration: the session and how it is drawn. -/
structure Config where
  width : Number := 800
  height : Number := 200
  fontFamily : Text := "Courier New"
  fontSize : Number := 18
  /-- The width of one character of the font, in pixels. -/
  charWidth : Number := 11
  /-- The animation starts over when it ends. -/
  loop : Bool := false
  /-- The page holds the drawing itself and no link to it. -/
  embed : Bool := false
  /-- The stem of the files that are written. -/
  name : Text := "animation"
  outputDirectory : Option Text := none
  outputs : List OutputKind := OutputKind.all
  colors : Colors := {}
  steps : List Step := []
  deriving DecidableEq

end TerminalReel
