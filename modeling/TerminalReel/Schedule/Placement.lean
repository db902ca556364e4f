import TerminalReel.Config.Basic
import TerminalReel.Log
import TerminalReel.Schedule.Constants
/-!
# TerminalReel.Schedule.Placement

**Placing steps in time.** A step starts when it asks to, but not before the
step before it has ended and the transition has passed. Starts only move
forward, and a step's end is where its own typing and holding take it from
there, so one pass over the steps places them all.

The cycle is the time by which every step has ended, and what trails it.
-/

namespace TerminalReel

/-- A step in its place in time. -/
structure PlacedStep where
  index : Nat
  /-- The step, its timing carrying the start it was given. -/
  step : Step
  /-- The start it asked for. -/
  requestedStart : Number
  isLast : Bool
  deriving DecidableEq

namespace PlacedStep

/-- When typing begins. -/
def start (placed : PlacedStep) : Number := placed.step.timing.start

/-- When the character at an index of the command is typed. -/
def revealAt (placed : PlacedStep) (index : Nat) : Except ArithmeticError Number := do
  placed.start.add (← (Number.int index).mul placed.step.timing.perChar)

/-- When typing ends. -/
def typingEnd (placed : PlacedStep) : Except ArithmeticError Number := do
  placed.start.add (← placed.step.typingDuration)

/-- When the step has been held for its time. -/
def finish (placed : PlacedStep) : Except ArithmeticError Number := do
  (← placed.typingEnd).add placed.step.timing.hold

/-- When the step begins to disappear; the last step of an animation that starts
over stays longer. -/
def fadeOutAt (placed : PlacedStep) (loop : Bool) : Except ArithmeticError Number := do
  let finish ← placed.finish
  if placed.isLast && loop then finish.add Schedule.lastStepExtra else return finish

/-- The earliest start of a step after this one. -/
def nextStart (placed : PlacedStep) : Except ArithmeticError Number := do
  (← placed.finish).add Schedule.stepTransition

end PlacedStep

namespace Schedule

/-- What is reported for a step that is moved. -/
def movedReport (index : Nat) (requested earliest : Number) : Except ArithmeticError String := do
  let requested ← requested.fullText
  let earliest ← earliest.fullText
  return s!"step {index}: start moved {requested}s -> {earliest}s"

/-- The start of a step after the one before it. -/
def startAfter (index : Nat) (previous : Option PlacedStep) (requested : Number) :
    Attempt ArithmeticError Number := do
  match previous with
  | none => return requested
  | some previous =>
    let earliest ← Attempt.ofExcept previous.nextStart
    if requested.lt earliest then
      let report ← Attempt.ofExcept (movedReport index requested earliest)
      Attempt.log .debug .timeline report
      return earliest
    else
      return requested

/-- Places steps from an index on. -/
def placeFrom (index : Nat) (previous : Option PlacedStep) :
    List Step → Attempt ArithmeticError (List PlacedStep)
  | [] => pure []
  | step :: rest => do
    let start ← startAfter index previous step.timing.start
    let placed : PlacedStep := {
      index
      step := { step with timing := { step.timing with start } }
      requestedStart := step.timing.start
      isLast := rest.isEmpty }
    return placed :: (← placeFrom (index + 1) (some placed) rest)

/-- Places steps in time. -/
def place (steps : List Step) : Attempt ArithmeticError (List PlacedStep) :=
  placeFrom 0 none steps

/-- The time by which every step has begun to disappear, and no earlier than
`reached`. -/
def lastFade (loop : Bool) (reached : Number) : List PlacedStep → Except ArithmeticError Number
  | [] => .ok reached
  | placed :: rest => do
    lastFade loop (reached.max (← placed.fadeOutAt loop)) rest

/-- The length of the cycle. -/
def totalDuration (placed : List PlacedStep) (loop : Bool) : Except ArithmeticError Number := do
  (← lastFade loop (.float .zero) placed).add (trailing loop)

end Schedule

end TerminalReel
