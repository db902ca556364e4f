import TerminalReel.Animation.Keyframes
import TerminalReel.Animation.Layout
import TerminalReel.Schedule.Check
import TerminalReel.Schedule.Placement
/-!
# TerminalReel.Animation.Timeline

The **compiled animation**: every part of every step, its keyframes as
percentages of one cycle that all parts share.

A step's groups appear after the step before it and disappear after their own.
The last step of an animation that plays once keeps its lines on the screen and
shows no prompt. Each typed character appears at once, at a percentage of its
own if typing takes any time.
-/

namespace TerminalReel

/-- How a part plays its keyframes. -/
structure PlaybackRule where
  selector : String
  animationName : String
  durationMs : Number
  timingFunction : String := "linear"
  iterationCount : String := "infinite"
  delayMs : Number := .float .zero
  /-- What the part keeps after the last cycle, if it says. -/
  fillMode : Option String := none
  deriving DecidableEq

/-- An animated part with its keyframes and its rule. -/
structure AnimatedPart where
  part : Part
  track : Track
  rule : PlaybackRule
  deriving DecidableEq

/-- A typed character and when it appears. -/
structure TypedChar where
  animated : AnimatedPart
  /-- The code point that is typed. -/
  char : CodePoint
  /-- When it is typed, in seconds. -/
  revealAt : Number
  /-- When it appears, in percent of the cycle. -/
  revealPercent : Number
  deriving DecidableEq

/-- A prompt with the command typed at it. -/
structure TypedCommand where
  prompt : AnimatedPart
  /-- The group of prompt and characters. -/
  command : AnimatedPart
  characters : List TypedChar
  deriving DecidableEq

/-- One compiled step. -/
structure Scene where
  placed : PlacedStep
  layout : Layout
  appearAt : Number
  /-- When the scene begins to disappear, if it does. -/
  fadeOutAt : Option Number
  /-- The group of the printed lines, if there are any. -/
  lines : Option AnimatedPart
  /-- Prompt and command, unless the scene stays on the screen. -/
  typed : Option TypedCommand
  deriving DecidableEq

/-- A compiled animation. -/
structure Timeline where
  /-- The length of the cycle, in seconds. -/
  total : Number
  loop : Bool
  scenes : List Scene
  deriving DecidableEq

/-- The parts of a scene: lines, command, prompt, characters. -/
def Scene.parts (scene : Scene) : List AnimatedPart :=
  scene.lines.toList ++
    match scene.typed with
    | some typed => typed.command :: typed.prompt :: typed.characters.map (·.animated)
    | none => []

/-- The parts of all scenes. -/
def Timeline.parts (timeline : Timeline) : List AnimatedPart :=
  timeline.scenes.flatMap Scene.parts

/-- The length of the cycle in milliseconds. -/
def Timeline.cycleMs (timeline : Timeline) : Except ArithmeticError Number :=
  timeline.total.mul 1000

/-- Why an animation cannot be compiled. -/
inductive CompileError
  /-- The steps cannot be scheduled. -/
  | step (e : StepError)
  /-- The moments of a part cannot be told apart. -/
  | crowding (e : CrowdingError)
  /-- A number has no result. -/
  | arithmetic (e : ArithmeticError)

/-- A failed check as a failure to compile. -/
def CompileError.ofCheck : CheckError → CompileError
  | .step e => .step e
  | .arithmetic e => .arithmetic e

/-- The message of the underlying error. -/
def CompileError.message : CompileError → String
  | step e => e.message
  | crowding e => e.message
  | arithmetic e => e.message

namespace Timeline

/-! ### One part -/

/-- What the compiler knows about the cycle. -/
structure Cycle where
  total : Number
  loop : Bool

/-- Arithmetic as a step of compiling. -/
def calculate {α : Type} (x : Except ArithmeticError α) : Except CompileError α :=
  x.mapError .arithmetic

/-- Building a track as a step of compiling. -/
def arrange {α : Type} (x : Except CrowdingError α) : Except CompileError α :=
  x.mapError .crowding

/-- The rule of a part. -/
def ruleOf (cycle : Cycle) (part : Part) (timingFunction : String) :
    Except CompileError PlaybackRule := do
  return {
    selector := part.selector
    animationName := part.keyframesName
    durationMs := ← calculate (cycle.total.mul 1000)
    timingFunction
    iterationCount := if cycle.loop then "infinite" else "1"
    fillMode := if cycle.loop then none else some "forwards" }

/-- A part that changes its opacity steadily. -/
def animate (cycle : Cycle) (part : Part) (track : Track) :
    Except CompileError AnimatedPart := do
  return { part, track, rule := ← ruleOf cycle part "linear" }

/-- The events of a group: it fades in and, if it ever disappears, fades out. -/
def fadeEvents (cycle : Cycle) (appearAt : Number) (fadeOutAt : Option Number) :
    Except ArithmeticError (List Keyframe) := do
  let event (time : Number) (opacity : Int) : Except ArithmeticError Keyframe := do
    return ⟨← toPercent time cycle.total, opacity⟩
  let appear ← event appearAt Opacity.hidden
  let appeared ← event (← appearAt.add Schedule.fadeDuration) Opacity.visible
  match fadeOutAt with
  | none => return [appear, appeared]
  | some fadeOutAt =>
    let fade ← event fadeOutAt Opacity.visible
    let faded ← event (← fadeOutAt.add Schedule.fadeDuration) Opacity.hidden
    return [appear, appeared, fade, faded]

/-- A group that is seen between two times. -/
def animateFading (cycle : Cycle) (part : Part) (appearAt : Number)
    (fadeOutAt : Option Number) : Except CompileError AnimatedPart := do
  let events ← calculate (fadeEvents cycle appearAt fadeOutAt)
  animate cycle part (← arrange (Track.ofEvents part Opacity.hidden events))

/-! ### Typing -/

/-- The percentage of a character after one that appears at `previous`. -/
def separate (part : Part) (perChar : Number) (previous : Option Number)
    (percent : Number) : Except CrowdingError Number :=
  match previous with
  | some previous =>
    if Number.lt 0 perChar && percent.le previous then
      let pushed := nudge previous
      if Number.lt 100 pushed then .error ⟨part, .typing⟩ else .ok pushed
    else .ok percent
  | none => .ok percent

/-- The percentage of the keyframe at which a hidden part is first seen. -/
def revealPercent (track : Track) : Number :=
  match track.frames with
  | _ :: reveal :: _ => reveal.percent
  | _ => firstPercent

/-- The typed characters from an index on, after one that appears at `previous`. -/
def typeFrom (cycle : Cycle) (placed : PlacedStep) (index : Nat) (previous : Option Number) :
    List CodePoint → Except CompileError (List TypedChar)
  | [] => .ok []
  | char :: rest => do
    let part : Part := ⟨.char (some (index : Int)), placed.index⟩
    let revealAt ← calculate (placed.revealAt index)
    let percent ← calculate (toPercent revealAt cycle.total)
    let percent ← arrange (separate part placed.step.timing.perChar previous percent)
    let track ← arrange (Track.ofEvents part Opacity.hidden [⟨percent, Opacity.visible⟩])
    let revealed := revealPercent track
    let rule ← ruleOf cycle part "steps(1, end)"
    let typed : TypedChar :=
      { animated := { part, track, rule }, char, revealAt, revealPercent := revealed }
    return typed :: (← typeFrom cycle placed (index + 1) (some revealed) rest)

/-- The typed characters of a step's command. -/
def typedChars (cycle : Cycle) (placed : PlacedStep) : Except CompileError (List TypedChar) :=
  typeFrom cycle placed 0 none placed.step.command.points

/-! ### Steps -/

/-- When a step's groups begin to appear. -/
def appearAfter : Option PlacedStep → Except ArithmeticError Number
  | none => .ok firstPercent
  | some previous => previous.nextStart

/-- The step is the last of an animation that plays once, and stays. -/
def stays (cycle : Cycle) (placed : PlacedStep) : Bool := placed.isLast && !cycle.loop

/-- When a step's groups begin to disappear, if they do. -/
def fadeOutOf (cycle : Cycle) (placed : PlacedStep) : Except ArithmeticError (Option Number) :=
  if stays cycle placed then .ok none else some <$> placed.fadeOutAt cycle.loop

/-- Prompt and command of a step. -/
def typedCommand (cycle : Cycle) (placed : PlacedStep) (appearAt : Number)
    (fadeOutAt : Option Number) : Except CompileError TypedCommand := do
  let promptPart : Part := ⟨.prompt, placed.index⟩
  let promptTrack ← arrange (Track.ofEvents promptPart Opacity.visible [])
  let prompt ← animate cycle promptPart promptTrack
  let command ← animateFading cycle ⟨.command, placed.index⟩ appearAt fadeOutAt
  return { prompt, command, characters := ← typedChars cycle placed }

/-- Compiles one step, after the step before it. -/
def sceneOf (cycle : Cycle) (charWidth : Number) (previous : Option PlacedStep)
    (placed : PlacedStep) : Except CompileError Scene := do
  let layout ← calculate (Layout.ofStep placed.step charWidth)
  let appearAt ← calculate (appearAfter previous)
  let fadeOutAt ← calculate (fadeOutOf cycle placed)
  let lines ←
    if placed.step.lines.isEmpty then pure none
    else some <$> animateFading cycle ⟨.lines, placed.index⟩ appearAt fadeOutAt
  let typed ←
    if stays cycle placed then pure none
    else some <$> typedCommand cycle placed appearAt fadeOutAt
  return { placed, layout, appearAt, fadeOutAt, lines, typed }

/-- Compiles steps, after the step before them. -/
def scenesAfter (cycle : Cycle) (charWidth : Number) (previous : Option PlacedStep) :
    List PlacedStep → Except CompileError (List Scene)
  | [] => .ok []
  | placed :: rest => do
    let scene ← sceneOf cycle charWidth previous placed
    return scene :: (← scenesAfter cycle charWidth (some placed) rest)

/-! ### Whole animations -/

/-- What is reported about a cycle. -/
def cycleReport (total : Number) (count : Nat) (loop : Bool) : String :=
  s!"cycle: {total}s over {count} steps (loop={(Json.bool loop).shown})"

/-- Compiles a configuration, as one that starts over if that is forced. -/
def compile (config : Config) (forceLoop : Bool := false) : Attempt CompileError Timeline := do
  let loop := forceLoop || config.loop
  Attempt.ofExcept ((checkSteps config.steps).mapError .ofCheck)
  let placed ← (Schedule.place config.steps).mapError .arithmetic
  let total ← Attempt.ofExcept (calculate (Schedule.totalDuration placed loop))
  Attempt.log .debug .timeline (cycleReport total placed.length loop)
  let scenes ← Attempt.ofExcept (scenesAfter ⟨total, loop⟩ config.charWidth none placed)
  return { total, loop, scenes }

end Timeline

end TerminalReel
