import TerminalReel.Animation.Timeline
/-!
# TerminalReel.Document.StyleSheet

The **style sheet** of an animation: one block of keyframes and one rule for
every part, in the order of the parts. Numbers are written in their compact
form.
-/

namespace TerminalReel

/-- The declarations of a keyframe. -/
def Keyframe.declarations (frame : Keyframe) : String := s!"opacity: {frame.opacity};"

/-- A keyframe as a line of its block. -/
def Keyframe.line (frame : Keyframe) : Except ArithmeticError String := do
  return "  " ++ (← frame.percent.compact) ++ "% \x7b " ++ frame.declarations ++ " \x7d"

/-- The block of a part's keyframes. -/
def Track.css (track : Track) : Except ArithmeticError String := do
  let entries ← track.frames.mapM Keyframe.line
  return s!"@keyframes {track.name} \x7b\n" ++ String.intercalate "\n" entries ++ "\n\x7d"

/-- The rule that plays a part's keyframes. -/
def PlaybackRule.css (rule : PlaybackRule) : Except ArithmeticError String := do
  let words := [
    rule.animationName,
    (← rule.durationMs.compact) ++ "ms",
    rule.timingFunction,
    (← rule.delayMs.compact) ++ "ms",
    rule.iterationCount] ++ (rule.fillMode.filter (· ≠ "")).toList
  return s!"{rule.selector} \x7b animation: " ++ String.intercalate " " words ++ "; \x7d"

/-- The style sheet of an animation. -/
def Timeline.css (timeline : Timeline) : Except ArithmeticError String := do
  let keyframes ← timeline.parts.mapM fun animated => animated.track.css
  let rules ← timeline.parts.mapM fun animated => animated.rule.css
  return "/* Vector effect inheritance */\n"
    ++ "svg * \x7b vector-effect: inherit; \x7d\n\n"
    ++ "/* Keyframes */\n" ++ String.intercalate "\n" keyframes ++ "\n\n"
    ++ "/* Rules */\n" ++ String.intercalate "\n" rules ++ "\n"

end TerminalReel
