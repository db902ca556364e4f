/-!
# TerminalReel.Animation.Part

The **animated parts of a drawing** and the names they go by.

A part is known by its kind, the index of its step and, for a typed character,
the index of the character. Its class ties the drawing to the style sheet, and
its keyframes carry a name of their own.
-/

namespace TerminalReel

/-- The kinds of animated parts. -/
inductive PartKind
  /-- The printed lines of a step, as one group. -/
  | lines
  /-- The prompt. -/
  | prompt
  /-- Prompt and command, as one group. -/
  | command
  /-- One typed character; without an index, no particular one. -/
  | char (index : Option Int)
  deriving DecidableEq

/-- One animated part of a drawing. -/
structure Part where
  kind : PartKind
  /-- The index of the step that the part belongs to. -/
  step : Int
  deriving DecidableEq

namespace Part

/-- A character's index as names write it. -/
def indexText : Option Int → String
  | some index => toString index
  | none => "None"

/-- The class of the part in the drawing. -/
def cssClass (part : Part) : String :=
  match part.kind with
  | .lines => s!"line-{part.step}"
  | .prompt => s!"prompt-{part.step}"
  | .command => s!"cmd-group-{part.step}"
  | .char index => s!"cmd-{part.step}-{indexText index}"

/-- The name of the part's keyframes. -/
def keyframesName (part : Part) : String :=
  match part.kind with
  | .lines => s!"fade-{part.step}"
  | .prompt => s!"prompt-{part.step}"
  | .command => s!"fade-cmd-{part.step}"
  | .char index => s!"type-{part.step}-{indexText index}"

/-- The selector of the part's class. -/
def selector (part : Part) : String := "." ++ part.cssClass

end Part

end TerminalReel
