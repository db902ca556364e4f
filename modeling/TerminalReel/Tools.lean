import TerminalReel.Config.Source
import TerminalReel.Document.Page
import TerminalReel.Fault
/-!
# TerminalReel.Tools

What the program **offers to other programs**: two tools on a configuration
document, and three documents about itself.

A tool answers a wrong configuration with a message, which is an answer like any
other. Faults that are no reports pass through.
-/

namespace TerminalReel

/-- A tool's answer: what was asked for, or a message to the user. -/
inductive Reply (α : Type)
  | answer (value : α)
  | rejected (message : Text)

namespace Tools

/-- Turns a report into a message; every other fault stays one. -/
def replying {α : Type} (x : Attempt Fault α) : Attempt Fault (Reply α) :=
  tryCatch (Reply.answer <$> x) fun fault =>
    if fault.isReport then pure (.rejected fault.message) else throw fault

/-- The configuration that a source stands for, as a step of a tool. -/
def resolveSource (host : Host) (source : ConfigSource) : Attempt Fault Config :=
  (source.resolve host).mapError (.ofConfig host)

/-! ### Compiling -/

/-- What is reported about a request to compile. -/
def compileReport (stem : Text) (forceLoop : Bool) : Text :=
  "compile_animation: basename=" ++ stem
    ++ Text.ofString s!", force_loop={(Json.bool forceLoop).shown}"

/-- Compiles a configuration document into its two files. -/
def compile (host : Host) (document : Json) (stem : Text := Document.defaultStem)
    (forceLoop : Bool := false) : Attempt Fault (Reply Document) := do
  Attempt.log .debug .program (compileReport stem forceLoop)
  let reply ← replying do
    let config ← resolveSource host (.document document)
    (Document.build config stem forceLoop).mapError (.ofCompile host)
  if let .rejected message := reply then
    Attempt.log .error .program ("Compile failed: " ++ message)
  return reply

/-! ### Describing -/

/-- The schedule of one step. -/
structure StepOverview where
  index : Nat
  requestedStart : Number
  start : Number
  finish : Number
  appearAt : Number
  fadeOutAt : Option Number
  /-- How many animated parts the step has. -/
  partCount : Nat
  deriving DecidableEq

/-- The schedule of an animation. -/
structure Overview where
  total : Number
  loop : Bool
  steps : List StepOverview
  deriving DecidableEq

/-- The schedule of one compiled step. -/
def StepOverview.ofScene (scene : Scene) : Except ArithmeticError StepOverview := do
  return {
    index := scene.placed.index
    requestedStart := scene.placed.requestedStart
    start := scene.placed.start
    finish := ← scene.placed.finish
    appearAt := scene.appearAt
    fadeOutAt := scene.fadeOutAt
    partCount := scene.parts.length }

/-- The schedule of a compiled animation. -/
def Overview.ofTimeline (timeline : Timeline) : Except ArithmeticError Overview := do
  return {
    total := timeline.total
    loop := timeline.loop
    steps := ← timeline.scenes.mapM StepOverview.ofScene }

/-- Shows when each step of a configuration document starts, ends and fades. -/
def describe (host : Host) (document : Json) (forceLoop : Bool := false) :
    Attempt Fault (Reply Overview) :=
  replying do
    let config ← resolveSource host (.document document)
    let timeline ← (Timeline.compile config forceLoop).mapError (.ofCompile host)
    Attempt.ofExcept ((Overview.ofTimeline timeline).mapError .ofArithmetic)

/-! ### About the program -/

/-- The program's name. -/
def programName : String := "termanim"

/-- The program's version. -/
def version : String := "0.1.0"

/-- The document about the program. -/
def info : Json :=
  .object [("name", programName), ("version", version), ("output_types", defaultOutputs)]

/-- The document about the fixed times. -/
def timings : Json := .object Schedule.constants

/-- The document about the defaults. -/
def defaults : Json :=
  .object [("config", .object Config.defaults), ("step", .object Step.defaults)]

end Tools

end TerminalReel
