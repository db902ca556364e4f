import TerminalReel.Composer.Basic
/-!
# TerminalReel.Composer.Workbench

One composer and **any number of sketches by name**, changed by one call at a
time. A call changes the composer or one sketch and nothing else.
-/

namespace TerminalReel

/-- A composer and the sketches that were opened on it. -/
structure Workbench where
  composer : Composer := .new
  /-- The sketches by name, each name once. -/
  sketches : List (String × StepSketch) := []

/-- A change to a sketch. -/
inductive SketchChange
  | lines (lines : List Json)
  | prompt (user host symbol : Json) (path : Option Json)
  | command (text : Json)
  | timing (start perChar hold : Option Json)
  | position (promptX commandX : Option Json)

/-- A call on a workbench. -/
inductive WorkbenchCall
  /-- A new composer; the sketches are forgotten. -/
  | new (settings colors : List (Text × Json))
  /-- Adds a step's document. -/
  | addStep (step : Json)
  /-- Opens a sketch under a name. -/
  | openSketch (name : String)
  /-- Changes the sketch of this name. -/
  | change (name : String) (call : SketchChange)
  /-- Hands the step of the sketch of this name to the composer. -/
  | done (name : String)

/-- Why a call changes nothing. -/
inductive CallError
  /-- The sketch is not there. -/
  | noSketch
  /-- The step is nested too deeply to be copied. -/
  | tooDeep
  deriving DecidableEq

/-- The sketch after a change. -/
def StepSketch.apply (sketch : StepSketch) : SketchChange → StepSketch
  | .lines lines => sketch.setLines lines
  | .prompt user host symbol path => sketch.setPrompt user host symbol path
  | .command text => sketch.setCommand text
  | .timing start perChar hold => sketch.setTiming start perChar hold
  | .position promptX commandX => sketch.setPosition promptX commandX

namespace Workbench

/-- The sketch of a name. -/
def sketch? (bench : Workbench) (name : String) : Option StepSketch :=
  bench.sketches.lookup name

/-- Keeps a sketch under a name. -/
def keep (bench : Workbench) (name : String) (sketch : StepSketch) : Workbench :=
  { bench with sketches := (name, sketch) :: bench.sketches.filter (·.1 ≠ name) }

/-- The sketch of a name, which a call is about. -/
def sketch (bench : Workbench) (name : String) : Except CallError StepSketch :=
  match bench.sketch? name with
  | some sketch => .ok sketch
  | none => .error .noSketch

/-- The workbench with a composer that was found to be possible. -/
def withComposer (bench : Workbench) (composer : Option Composer) : Except CallError Workbench :=
  match composer with
  | some composer => .ok { bench with composer }
  | none => .error .tooDeep

/-- The workbench after a call. -/
def after (host : Host) (bench : Workbench) : WorkbenchCall → Except CallError Workbench
  | .new settings colors => .ok { composer := .new settings colors }
  | .addStep step => bench.withComposer (bench.composer.addStep? host step)
  | .openSketch name => .ok (bench.keep name {})
  | .change name change => do return bench.keep name ((← bench.sketch name).apply change)
  | .done name => do bench.withComposer (bench.composer.accept? host (← bench.sketch name))

@[simp] theorem sketch?_keep_self (bench : Workbench) (name : String) (sketch : StepSketch) :
    (bench.keep name sketch).sketch? name = some sketch := by
  simp [sketch?, keep]

@[simp] theorem composer_keep (bench : Workbench) (name : String) (sketch : StepSketch) :
    (bench.keep name sketch).composer = bench.composer := rfl

end Workbench

end TerminalReel
