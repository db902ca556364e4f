import TerminalReel.Config.Basic
/-!
# TerminalReel.Animation.Layout

Where things stand: prompt, command and lines in a font of **one character
width**. A step may override where its prompt and its command begin.
-/

namespace TerminalReel

/-- Where the prompt and the command of a step begin, and how wide the prompt is. -/
structure Layout where
  promptX : Number
  promptWidth : Number
  commandX : Number
  deriving DecidableEq

namespace Layout

/-- Where a prompt begins. -/
def defaultPromptX : Number := 20

/-- The gap between prompt and command. -/
def commandGap : Number := 5

/-- How far left of the command's beginning its first character stands. -/
def commandInset : Number := .int (-5)

/-- Typed characters stand closer together than the glyphs of the prompt. -/
def typedWidthFactor : Number := .float (.ofFraction 4 5)

/-- Where every line begins. -/
def lineX : Int := 20

/-- The height of the first line. -/
def lineTop : Int := 40

/-- The distance from line to line. -/
def lineHeight : Int := 20

/-- How far above the lower edge the prompt stands. -/
def baselineOffset : Number := 5

/-- The width of a prompt. -/
def promptWidthOf (prompt : Prompt) (charWidth : Number) : Except ArithmeticError Number :=
  (Number.int prompt.text.length).mul charWidth

/-- The layout of a step. -/
def ofStep (step : Step) (charWidth : Number) : Except ArithmeticError Layout := do
  let promptX := (step.position.bind (·.promptX)).getD defaultPromptX
  let promptWidth ← promptWidthOf step.prompt charWidth
  let commandX ← (← promptX.add promptWidth).add commandGap
  return { promptX, promptWidth, commandX := (step.position.bind (·.commandX)).getD commandX }

/-- Where the typed character at an index stands. -/
def charX (layout : Layout) (index : Int) (charWidth : Number) :
    Except ArithmeticError Number := do
  let left ← layout.commandX.add commandInset
  left.add (← (← (Number.int index).mul charWidth).mul typedWidthFactor)

/-- The height of the line at an index. -/
def lineY (index : Int) : Int := lineTop + index * lineHeight

/-- The height of the prompt in a drawing of this height. -/
def baseline (height : Number) : Except ArithmeticError Number := height.sub baselineOffset

end Layout

end TerminalReel
