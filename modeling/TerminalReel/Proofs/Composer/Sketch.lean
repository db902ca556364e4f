import Mathlib.Data.List.Basic
import TerminalReel.Composer.Workbench
import TerminalReel.Proofs.Config.Faults
import TerminalReel.Schedule.Check
/-!
# TerminalReel.Proofs.Composer.Sketch

Sketches as the **steps that they describe**.

A sketch is told one thing after another. Each of its fields holds what was last
set, a timing value by itself and prompt and position as a whole. The document of
the sketch holds nothing else at any time, so the step that is read from it is the
step that was told.
-/

namespace TerminalReel

/-- A change to a sketch by values of the kinds that a step holds. -/
inductive StepChange
  | lines (lines : List Text)
  | prompt (user host symbol : Text) (path : Option Text)
  | command (text : Text)
  | timing (start perChar hold : Option Number)
  | position (promptX commandX : Option Number)
  deriving DecidableEq

namespace StepChange

/-- The change to the sketch's document. -/
def toSketchChange : StepChange → SketchChange
  | .lines texts => .lines (texts.map .string)
  | .prompt user host symbol path => .prompt user host symbol (path.map .string)
  | .command text => .command text
  | .timing start perChar hold =>
    .timing (start.map .number) (perChar.map .number) (hold.map .number)
  | .position promptX commandX => .position (promptX.map .number) (commandX.map .number)

/-! ### What a change sets -/

/-- The lines that are set. -/
def lines? : StepChange → Option (List Text)
  | .lines texts => some texts
  | _ => none

/-- The prompt that is set, the whole of it. -/
def prompt? : StepChange → Option Prompt
  | .prompt user host symbol path => some { user, host, symbol, path }
  | _ => none

/-- The command that is set. -/
def command? : StepChange → Option Text
  | .command text => some text
  | _ => none

/-- The timing value that is set. -/
def timing? (field : TimingField) : StepChange → Option Number
  | .timing start perChar hold =>
    match field with
    | .start => start
    | .perChar => perChar
    | .hold => hold
  | _ => none

/-- The position that is set, the whole of it. -/
def position? : StepChange → Option Position
  | .position promptX commandX => some { promptX, commandX }
  | _ => none

end StepChange

/-! ### The step that changes describe -/

/-- The value that was set last, or the default of one that was never set. -/
def lastSet {α : Type} (set? : StepChange → Option α) (default : α)
    (changes : List StepChange) : α :=
  (changes.reverse.findSome? set?).getD default

/-- The last change decides, or leaves what was set before. -/
theorem lastSet_append_singleton {α : Type} (set? : StepChange → Option α) (default : α)
    (changes : List StepChange) (change : StepChange) :
    lastSet set? default (changes ++ [change])
      = (set? change).getD (lastSet set? default changes) := by
  rw [lastSet, List.reverse_append, List.reverse_singleton, List.singleton_append,
    List.findSome?_cons]
  cases set? change <;> rfl

/-- The timing of a step that is told nothing about it. -/
def Timing.unset : Timing := { start := 0, perChar := .float (.ofFraction 1 5), hold := 5 }

/-- The step that changes describe: in each field what was set last. -/
def Step.described (changes : List StepChange) : Step := {
  lines := lastSet StepChange.lines? [] changes
  prompt := lastSet StepChange.prompt? {} changes
  command := lastSet StepChange.command? "" changes
  timing := {
    start := lastSet (StepChange.timing? .start) Timing.unset.start changes
    perChar := lastSet (StepChange.timing? .perChar) Timing.unset.perChar changes
    hold := lastSet (StepChange.timing? .hold) Timing.unset.hold changes }
  position := lastSet (fun change => change.position?.map some) none changes }

/-- The step after a change. -/
def Step.changed (step : Step) : StepChange → Step
  | .lines lines => { step with lines }
  | .prompt user host symbol path => { step with prompt := { user, host, symbol, path } }
  | .command command => { step with command }
  | .timing start perChar hold =>
    { step with timing := {
        start := start.getD step.timing.start
        perChar := perChar.getD step.timing.perChar
        hold := hold.getD step.timing.hold } }
  | .position promptX commandX => { step with position := some { promptX, commandX } }

/-- What changes describe, they describe step by step. -/
theorem Step.described_append_singleton (changes : List StepChange) (change : StepChange) :
    Step.described (changes ++ [change]) = (Step.described changes).changed change := by
  simp only [Step.described, lastSet_append_singleton]
  cases change <;> rfl

namespace StepSketch

/-- The sketch whose document describes a step. -/
def describing (step : Step) : StepSketch :=
  let fields : Fields :=
    [("terminalLines", stringsToJson step.lines), ("command", .string step.command),
     ("shellPrompt", step.prompt.toJson), ("timing", step.timing.toJson)]
  ⟨fields ++ optionalField "position" (step.position.map Position.toJson)⟩

/-- A new sketch describes a step that is told nothing. -/
theorem describing_described_nil : describing (.described []) = {} := rfl

/-- A change to the sketch of a step makes it the sketch of the step with that change:
no other field is touched, and none is set twice. -/
theorem apply_describing (step : Step) (change : StepChange) :
    (describing step).apply change.toSketchChange = describing (step.changed change) := by
  cases change with
  | lines lines => rfl
  | prompt user host symbol path => cases path <;> rfl
  | command text => rfl
  | timing start perChar hold => cases start <;> cases perChar <;> cases hold <;> rfl
  | position promptX commandX =>
      obtain ⟨lines, prompt, command, timing, _ | _⟩ := step <;>
        cases promptX <;> cases commandX <;> rfl

/-! ### Reading the step -/

/-- A step is read from its fields, in whatever order they stand. -/
theorem ofLocated_congr {path : FieldPath} {fields others : Fields}
    (same : ∀ key, Fields.get? fields key = Fields.get? others key) :
    Step.ofLocated ⟨path, .object fields⟩ = Step.ofLocated ⟨path, .object others⟩ := by
  simp only [Step.ofLocated, Located.section?_object, ok_bind, Section.get, Fields.getOr, same]

/-- The step that a sketch describes is the one that is read from its document. -/
theorem ofLocated_describing (path : FieldPath) (step : Step) :
    Step.ofLocated ⟨path, (describing step).toJson⟩ = .ok step := by
  refine Eq.trans (ofLocated_congr fun key => ?_) (Step.ofLocated_toJson path step)
  -- The sketch has the command before the prompt, which the written step has after it.
  simp only [describing, Fields.get?_cons, List.cons_append, List.nil_append]
  have apart : ("command" : Text) ≠ ("shellPrompt" : Text) := by decide
  by_cases command : key = ("command" : Text)
  · subst command
    rw [if_neg apart]
    rfl
  · simp only [if_neg command]

end StepSketch

/-! ### Copying the step -/

namespace Json

theorem fieldsDepth_append (fields others : Fields) :
    fieldsDepth (fields ++ others) = max (fieldsDepth fields) (fieldsDepth others) := by
  induction fields with
  | nil => exact (Nat.zero_max _).symm
  | cons field rest ih => rw [List.cons_append, fieldsDepth, fieldsDepth, ih, Nat.max_assoc]

theorem fieldsDepth_optionalField_le {key : String} {value : Option Json} {d : ℕ}
    (h : ∀ v ∈ value, v.depth ≤ d) : fieldsDepth (optionalField key value) ≤ d := by
  cases value with
  | none => exact Nat.zero_le d
  | some v => exact Nat.max_le.2 ⟨h v rfl, Nat.zero_le d⟩

end Json

theorem Position.depth_toJson (position : Position) : position.toJson.depth ≤ 1 := by
  obtain ⟨promptX, commandX⟩ := position
  have x : Json.fieldsDepth (optionalField "promptX" (promptX.map .number)) ≤ 0 :=
    Json.fieldsDepth_optionalField_le (by simp [Json.depth])
  have y : Json.fieldsDepth (optionalField "commandX" (commandX.map .number)) ≤ 0 :=
    Json.fieldsDepth_optionalField_le (by simp [Json.depth])
  simp only [Position.toJson, Json.depth, Json.fieldsDepth_append]
  omega

/-- A step holds containers, and these hold none. -/
theorem StepSketch.depth_describing (step : Step) : (describing step).toJson.depth ≤ 2 := by
  obtain ⟨lines, ⟨user, host, symbol, path⟩, command, timing, position⟩ := step
  have texts : Json.itemsDepth (lines.map .string) ≤ 0 :=
    Json.itemsDepth_le (List.forall_mem_map.2 fun _ _ => Nat.le_refl 0)
  have path_depth : Json.fieldsDepth (optionalField "path" (path.map .string)) ≤ 0 :=
    Json.fieldsDepth_optionalField_le (by simp [Json.depth])
  have position_depth :
      Json.fieldsDepth (optionalField "position" (position.map Position.toJson)) ≤ 1 :=
    Json.fieldsDepth_optionalField_le (by simp [Position.depth_toJson])
  simp only [toJson, describing, stringsToJson, Prompt.toJson, Timing.toJson, Json.depth,
    Json.fieldsDepth, Json.fieldsDepth_append]
  omega

/-! ### The composer of steps -/

namespace Composer

/-- The documents of steps. -/
def stepDocuments (steps : List Step) : Json :=
  .array (steps.map fun step => (StepSketch.describing step).toJson)

/-- The default composer with steps. -/
def holding (steps : List Step) : Composer :=
  ⟨Fields.set new.fields "steps" (stepDocuments steps)⟩

theorem fields_holding (steps : List Step) :
    (holding steps).fields = Config.defaults ++ ([("steps", stepDocuments steps)] : Fields) := rfl

theorem steps_holding (steps : List Step) :
    (holding steps).steps = steps.map fun step => (StepSketch.describing step).toJson := rfl

/-- A composer of steps goes no deeper than the documents that the program puts together. -/
theorem depth_holding (steps : List Step) : (holding steps).toJson.depth ≤ Json.ownDepth := by
  have items : Json.itemsDepth (steps.map fun step => (StepSketch.describing step).toJson) ≤ 2 :=
    Json.itemsDepth_le (List.forall_mem_map.2 fun step _ => StepSketch.depth_describing step)
  have defaults : Json.fieldsDepth Config.defaults = 1 := by decide
  simp only [toJson, fields_holding, stepDocuments, Json.depth, Json.fieldsDepth,
    Json.fieldsDepth_append, Json.ownDepth]
  omega

/-- A sketch that describes a step hands over just that step. -/
theorem accept?_holding (host : Host) (steps : List Step) (step : Step) :
    (holding steps).accept? host (.describing step) = some (holding (steps ++ [step])) := by
  have copyable : host.copies.covers (StepSketch.describing step).toJson = true :=
    host.copies.own (Nat.le_trans (StepSketch.depth_describing step) (by decide))
  have added : steps.map (fun step => (StepSketch.describing step).toJson)
      ++ [(StepSketch.describing step).toJson]
        = (steps ++ [step]).map fun step => (StepSketch.describing step).toJson := by
    rw [List.map_append]
    rfl
  rw [accept?, addStep?, if_pos copyable, addStep, steps_holding, added]
  rfl

/-- What the default composer builds from steps has these steps and is the default
configuration otherwise. -/
theorem build_holding (host : Host) (steps : List Step) :
    (holding steps).build host = pure { steps } := by
  have copyable : host.copies.covers (holding steps).toJson = true :=
    host.copies.own (depth_holding steps)
  have steps_read : (Located.itemsFrom [.key "steps"] 0
      (steps.map fun step => (StepSketch.describing step).toJson)).mapM Step.ofLocated
        = .ok steps :=
    Located.mapM_itemsFrom StepSketch.ofLocated_describing 0 steps
  rw [build, copy?, if_pos copyable]
  have stem : isFileStem "animation" = true := by decide
  have wide : Number.le 800 0 = false := by decide +kernel
  have high : Number.le 200 0 = false := by decide +kernel
  have spaced : Number.le 11 0 = false := by decide +kernel
  obtain ⟨c, colors_found, colors_read⟩ := ({} : Colors).readsBack [.key "colors"]
  have colors : Json.object Colors.defaults = ({} : Colors).toJson := rfl
  have colors_given : ({} : Colors).toJson ≠ .null := by simp [Colors.toJson]
  have outputs : defaultOutputs = stringsToJson (OutputKind.all.map fun kind => kind.name) := rfl
  have outputs_given :
      stringsToJson (OutputKind.all.map fun kind => ↑kind.name) ≠ .null := by
    simp [stringsToJson]
  simp [toJson, fields_holding, stepDocuments, Config.defaults, Config.ofJson, Section.steps,
    outputs, outputs_given, colors, colors_given, colors_found, colors_read, ok_bind,
    pure_bind, Attempt.ofExcept_ok, readOutputs_names, readName_string stem,
    checkPositive_eq_ok wide, checkPositive_eq_ok high, checkPositive_eq_ok spaced, steps_read]

end Composer

end TerminalReel
