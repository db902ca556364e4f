import TerminalReel.Json.Basic
/-!
# TerminalReel.Schedule.Constants

The **fixed times** of every animation, in seconds, and the grid of its
percentages. No configuration changes them.
-/

namespace TerminalReel

namespace Schedule

/-- The gap between the end of a step and the start of the next. -/
def stepTransition : Number := .float (.ofFraction 1 2)

/-- How much longer the last step stays before the animation starts over. -/
def lastStepExtra : Number := .float (.ofFraction 1 1)

/-- What trails the last step of an animation that starts over. -/
def loopExtra : Number := .float (.ofFraction 1 1)

/-- What trails the last step of an animation that stops. -/
def singleExtra : Number := .float (.ofFraction 1 2)

/-- What trails the last step. -/
def trailing (loop : Bool) : Number := if loop then loopExtra else singleExtra

/-- How long a group takes to appear or to disappear. -/
def fadeDuration : Number := .float (.ofFraction 1 5)

/-- Percentages are rounded to this many places. -/
def percentPlaces : Nat := 4

/-- One unit of the last place of a percentage. -/
def percentEpsilon : Binary64 := .ofFraction 1 10000

/-- The constants by name, as the tools show them. -/
def constants : Fields :=
  [("step_transition", stepTransition), ("last_step_extra_time", lastStepExtra),
   ("loop_extra_time", loopExtra), ("non_loop_extra_time", singleExtra),
   ("fade_duration", fadeDuration), ("percent_precision", Number.int percentPlaces),
   ("percent_epsilon", Number.float percentEpsilon)]

end Schedule

end TerminalReel
