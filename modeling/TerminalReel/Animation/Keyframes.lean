import TerminalReel.Animation.Part
import TerminalReel.Config.Error
import TerminalReel.Schedule.Constants
/-!
# TerminalReel.Animation.Keyframes

Opacity over one cycle, as **keyframes at strictly increasing percentages** from
`0` to `100`.

A track is built from events, each a percentage and the opacity from there on.
An event that repeats the present opacity without moving forward says nothing
and is dropped; one that changes it without moving forward is pushed one grid
unit past its predecessor. Where the cycle has no room for that, the track
cannot be built.
-/

namespace TerminalReel

/-- The opacity of a part from one percentage of the cycle on. -/
structure Keyframe where
  percent : Number
  opacity : Int
  deriving DecidableEq

/-- The keyframes of one part, under a name. -/
structure Track where
  name : String
  frames : List Keyframe
  deriving DecidableEq

/-- Why two moments of a part cannot be told apart. -/
inductive CrowdingCause
  /-- There is no room after the event at this percentage. -/
  | event (percent : Number)
  /-- There is no room for another typed character. -/
  | typing
  deriving DecidableEq

/-- A part whose moments cannot be told apart. -/
structure CrowdingError where
  part : Part
  cause : CrowdingCause
  deriving DecidableEq

/-- The wording of each cause. -/
def CrowdingCause.message : CrowdingCause → String
  | event percent => s!"event at {percent}% cannot be separated from the one before it"
  | typing => "typing is too fast to distinguish characters at this cycle length"

/-- The message: the part, then the cause. -/
def CrowdingError.message (e : CrowdingError) : String :=
  located (some e.part.cssClass) e.cause.message

/-! ### Percentages -/

/-- The percentage of the beginning. -/
def firstPercent : Number := .float .zero

/-- The percentage of the end. -/
def lastPercent : Number := .float (.ofFraction 100 1)

/-- The nearest percentage of the cycle; a nan is the beginning. -/
def clampPercent (n : Number) : Number := lastPercent.min (firstPercent.max n)

/-- A time as a percentage of the cycle, on the grid. -/
def toPercent (seconds total : Number) : Except ArithmeticError Number := do
  let percent ← (← seconds.div total).mul 100
  return clampPercent (percent.roundPlaces Schedule.percentPlaces)

/-- The next percentage on the grid. -/
def nudge (percent : Number) : Number :=
  .float ((percent.toBinary64.add Schedule.percentEpsilon).roundPlaces Schedule.percentPlaces)

/-! ### Tracks -/

namespace Opacity

/-- The opacity of what is not seen. -/
def hidden : Int := 0

/-- The opacity of what is seen. -/
def visible : Int := 1

end Opacity

namespace Track

/-- What remains of the cycle after the last event: its end, unless reached. -/
def closing (last : Keyframe) : List Keyframe :=
  if last.percent.lt 100 then [⟨lastPercent, last.opacity⟩] else []

/-- The keyframes after `previous` that the events make. -/
def framesAfter (part : Part) (previous : Keyframe) :
    List Keyframe → Except CrowdingError (List Keyframe)
  | [] => .ok (closing previous)
  | event :: rest => do
    let percent := clampPercent event.percent
    if percent.le previous.percent then
      if event.opacity = previous.opacity then
        -- Nothing changes and no time passes.
        framesAfter part previous rest
      else
        -- A change that must be seen, although no time passes.
        let pushed := nudge previous.percent
        if Number.lt 100 pushed then
          throw ⟨part, .event previous.percent⟩
        else
          let frame : Keyframe := ⟨pushed, event.opacity⟩
          return frame :: (← framesAfter part frame rest)
    else
      let frame : Keyframe := ⟨percent, event.opacity⟩
      return frame :: (← framesAfter part frame rest)

/-- The track of a part that begins with an opacity and follows events. -/
def ofEvents (part : Part) (initial : Int) (events : List Keyframe) :
    Except CrowdingError Track := do
  let first : Keyframe := ⟨firstPercent, initial⟩
  return { name := part.keyframesName, frames := first :: (← framesAfter part first events) }

end Track

end TerminalReel
