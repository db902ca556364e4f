import Mathlib.Control.Monad.Basic
import TerminalReel.Config.Reader
import TerminalReel.Config.Writer
import TerminalReel.Proofs.Ending
/-!
# TerminalReel.Proofs.Config.RoundTrip

Reading a configuration **back from the document it is written as**.

Each section of a document has a reader and a writer, and for each such pair there
is one law: the reader answers with what the writer was given. A field that is
written has a value other than null, so no default takes its place; a field that is
left out has no default but to be absent. What the reader refuses, a name that is no
file stem and a size that is not positive, no configuration has that was read itself.
-/

namespace TerminalReel

/-! ### Fields in their places -/

namespace Section

variable {path : FieldPath} {fields defaults : Fields} {key other : String} {value : Json}

/-- No default takes the place of a value that is not null. -/
@[simp] theorem get_cons_self (given : value ≠ .null) :
    Section.get ⟨path, (↑key, value) :: fields⟩ key defaults = ⟨path ++ [.key key], value⟩ := by
  rw [Section.get, Fields.getOr, Fields.get?_cons, if_pos rfl]
  cases value with
  | null => exact absurd rfl given
  | _ => rfl

/-- A field of another key does not matter. -/
@[simp] theorem get_cons_of_ne (ne : key ≠ other) :
    Section.get ⟨path, (↑other, value) :: fields⟩ key defaults
      = Section.get ⟨path, fields⟩ key defaults := by
  have apart : Text.ofString key ≠ Text.ofString other := fun same => ne (Text.ofString_inj.1 same)
  simp only [Section.get, Fields.getOr, Fields.get?_cons, if_neg apart]

@[simp] theorem get_nil :
    Section.get ⟨path, []⟩ key [] = ⟨path ++ [.key key], .null⟩ := rfl

end Section

namespace Located

variable {path : FieldPath}

@[simp] theorem section?_object (fields : Fields) :
    Located.section? ⟨path, .object fields⟩ = .ok ⟨path, fields⟩ := rfl

@[simp] theorem sectionOrEmpty_object (field : Text × Json) (fields : Fields) :
    Located.sectionOrEmpty ⟨path, .object (field :: fields)⟩ = .ok ⟨path, field :: fields⟩ := rfl

@[simp] theorem number_number (n : Number) : Located.number ⟨path, .number n⟩ = .ok n := rfl

@[simp] theorem string_string (s : Text) : Located.string ⟨path, .string s⟩ = .ok s := rfl

@[simp] theorem boolean_bool (b : Bool) : Located.boolean ⟨path, .bool b⟩ = .ok b := rfl

@[simp] theorem string?_null : Located.string? ⟨path, .null⟩ = .ok none := rfl

@[simp] theorem string?_string (s : Text) : Located.string? ⟨path, .string s⟩ = .ok (some s) := rfl

@[simp] theorem number?_null : Located.number? ⟨path, .null⟩ = .ok none := rfl

@[simp] theorem number?_number (n : Number) :
    Located.number? ⟨path, .number n⟩ = .ok (some n) := rfl

/-- Items that are each read as what they were written from are read so together. -/
theorem mapM_itemsFrom {α : Type} {read : Located → Except ConfigError α} {write : α → Json}
    (law : ∀ path a, read ⟨path, write a⟩ = .ok a) (i : Nat) (items : List α) :
    (itemsFrom path i (items.map write)).mapM read = .ok items := by
  induction items generalizing i with
  | nil => rfl
  | cons item rest ih =>
      rw [List.map_cons, itemsFrom, List.mapM_cons, law, ih]
      rfl

/-- Texts are read from the document of them. -/
@[simp] theorem strings_stringsToJson (strings : List Text) :
    Located.strings ⟨path, stringsToJson strings⟩ = .ok strings :=
  mapM_itemsFrom (fun _ _ => rfl) 0 strings

end Located

/-! ### Sections -/

variable {path : FieldPath}

/-- A section that is written is found, and read as what it was written from. -/
def ReadsBack {α : Type} (open? : Except ConfigError Section)
    (read : Section → Except ConfigError α) (a : α) : Prop :=
  ∃ s, open? = .ok s ∧ read s = .ok a

theorem Prompt.readsBack (prompt : Prompt) (path : FieldPath) :
    ReadsBack (Located.section? ⟨path, prompt.toJson⟩) Prompt.ofSection prompt := by
  obtain ⟨user, host, symbol, _ | shown⟩ := prompt
  · exact ⟨_, rfl, by simp [Prompt.ofSection, optionalField, ok_bind, pure, Except.pure]⟩
  · exact ⟨_, rfl, by simp [Prompt.ofSection, optionalField, ok_bind, pure, Except.pure]⟩

theorem Timing.readsBack (timing : Timing) (path : FieldPath) :
    ReadsBack (Located.sectionOrEmpty ⟨path, timing.toJson⟩) Timing.ofSection timing :=
  ⟨_, rfl, by simp [Timing.ofSection, ok_bind, pure, Except.pure]⟩

theorem Position.readsBack (position : Position) (path : FieldPath) :
    ReadsBack (Located.section? ⟨path, position.toJson⟩) Position.ofSection position := by
  obtain ⟨_ | promptX, _ | commandX⟩ := position
  · exact ⟨_, rfl, by simp [Position.ofSection, optionalField, ok_bind, pure, Except.pure]⟩
  · exact ⟨_, rfl, by simp [Position.ofSection, optionalField, ok_bind, pure, Except.pure]⟩
  · exact ⟨_, rfl, by simp [Position.ofSection, optionalField, ok_bind, pure, Except.pure]⟩
  · exact ⟨_, rfl, by simp [Position.ofSection, optionalField, ok_bind, pure, Except.pure]⟩

/-- A position without overrides is a position, and no missing one. -/
@[simp] theorem Position.ofLocated?_toJson (position : Position) :
    Position.ofLocated? ⟨path, position.toJson⟩ = .ok (some position) := by
  obtain ⟨s, found, read⟩ := position.readsBack path
  show (do return some (← Position.ofSection (← Located.section? ⟨path, position.toJson⟩))) = _
  rw [found, ok_bind, read]
  rfl

@[simp] theorem Position.ofLocated?_null : Position.ofLocated? ⟨path, .null⟩ = .ok none := rfl

theorem Colors.readsBack (colors : Colors) (path : FieldPath) :
    ReadsBack (Located.sectionOrEmpty ⟨path, colors.toJson⟩) Colors.ofSection colors := by
  obtain ⟨background, lines, user, host, symbol, command, _ | shown⟩ := colors
  · exact ⟨_, rfl, by simp [Colors.ofSection, optionalField, ok_bind, pure, Except.pure]⟩
  · exact ⟨_, rfl, by simp [Colors.ofSection, optionalField, ok_bind, pure, Except.pure]⟩

/-- A step is read from the document that is written of it. -/
theorem Step.ofLocated_toJson (path : FieldPath) (step : Step) :
    Step.ofLocated ⟨path, step.toJson⟩ = .ok step := by
  obtain ⟨lines, prompt, command, timing, position⟩ := step
  obtain ⟨p, prompt_found, prompt_read⟩ := prompt.readsBack (path ++ [.key "shellPrompt"])
  obtain ⟨t, timing_found, timing_read⟩ := timing.readsBack (path ++ [.key "timing"])
  have prompt_given : prompt.toJson ≠ .null := by simp [Prompt.toJson]
  have timing_given : timing.toJson ≠ .null := by simp [Timing.toJson]
  have lines_given : stringsToJson lines ≠ .null := by simp [stringsToJson]
  have position_given (position : Position) : position.toJson ≠ .null := by
    simp [Position.toJson]
  rcases position with _ | position
  all_goals
    simp [Step.toJson, Step.ofLocated, optionalField, ok_bind, pure, Except.pure, prompt_given,
      timing_given, lines_given, position_given, prompt_found, prompt_read, timing_found,
      timing_read]

/-! ### The whole configuration -/

/-- Kinds that are produced are read without a report. -/
theorem readOutputs_names (i : Nat) (outputs : List OutputKind) :
    readOutputs path i (outputs.map fun kind => ↑kind.name) = pure outputs := by
  induction outputs generalizing i with
  | nil => rfl
  | cons kind rest ih =>
      have produced : Text.ofString kind.name ≠ skippedOutput := by cases kind <;> decide
      rw [List.map_cons, readOutputs, if_neg produced, OutputKind.ofName?_name]
      exact congrArg (· >>= fun others => pure (kind :: others)) (ih (i + 1))

/-- The configuration is none that the reader refuses. -/
structure Config.IsReadable (config : Config) : Prop where
  stem : isFileStem config.name = true
  width : config.width.le 0 = false
  height : config.height.le 0 = false
  charWidth : config.charWidth.le 0 = false

/-- A name that is read is one for files. -/
theorem isFileStem_of_readName {l : Located} {name : Text} (h : readName l = .ok name) :
    isFileStem name = true := by
  obtain ⟨read, -, h⟩ := bind_eq_ok.1 h
  by_cases stem : isFileStem read = true
  · rw [if_pos stem, pure_eq_ok] at h
    exact h ▸ stem
  · rw [if_neg stem] at h
    cases h

theorem le_zero_of_checkPositive {n : Number} (h : checkPositive path n = .ok ()) :
    n.le 0 = false := by
  cases negative : n.le 0 with
  | false => rfl
  | true =>
      rw [checkPositive, negative] at h
      cases h

/-- What is read keeps to what the reader checks. -/
theorem Config.isReadable_of_ofJson {document : Json} {config : Config}
    (h : (Config.ofJson document).outcome = .ok config) : config.IsReadable := by
  simp only [Config.ofJson, Attempt.outcome_bind, Attempt.outcome_ofExcept, bind_eq_ok,
    pure_eq_ok] at h
  obtain ⟨s, -, steps, -, requested, -, outputs, -, name, named, width, -, height, -, charWidth, -,
    ⟨⟩, wide, ⟨⟩, high, ⟨⟩, spaced, _, -, _, -, _, -, _, -, _, -, _, -, _, -, _, -, rfl⟩ := h
  exact ⟨isFileStem_of_readName named, le_zero_of_checkPositive wide,
    le_zero_of_checkPositive high, le_zero_of_checkPositive spaced⟩

/-- What the reader takes as a name it takes again. -/
theorem readName_string {name : Text} (stem : isFileStem name = true) :
    readName ⟨path, .string name⟩ = .ok name := by
  rw [readName, Located.string_string, ok_bind, if_pos stem]
  rfl

theorem checkPositive_eq_ok {n : Number} (positive : n.le 0 = false) :
    checkPositive path n = .ok () := by
  rw [checkPositive, positive]
  rfl

/-- A configuration that keeps to these is read from its document, and nothing is reported.
-/
theorem Config.ofJson_toJson_of_isReadable {config : Config} (h : config.IsReadable) :
    Config.ofJson config.toJson = pure config := by
  obtain ⟨width, height, fontFamily, fontSize, charWidth, loop, embed, name, outputDirectory,
    outputs, colors, steps⟩ := config
  obtain ⟨stem, wide, high, spaced⟩ := h
  obtain ⟨c, colors_found, colors_read⟩ := colors.readsBack [.key "colors"]
  have colors_given : colors.toJson ≠ .null := by simp [Colors.toJson]
  have names_given : stringsToJson (outputs.map fun kind => kind.name) ≠ .null := by
    simp [stringsToJson]
  have steps_read : (Located.itemsFrom [.key "steps"] 0 (steps.map Step.toJson)).mapM
      Step.ofLocated = .ok steps :=
    Located.mapM_itemsFrom Step.ofLocated_toJson 0 steps
  rcases outputDirectory with _ | directory
  all_goals
    simp [Config.toJson, Config.ofJson, Section.steps, optionalField, ok_bind, pure_bind,
      Attempt.ofExcept_ok, readOutputs_names, readName_string stem, checkPositive_eq_ok wide,
      checkPositive_eq_ok high, checkPositive_eq_ok spaced, colors_given, names_given,
      colors_found, colors_read, steps_read]

namespace Config

/-- A document with every field written out, as the configuration that it holds. -/
def normalize (document : Json) : Except ConfigError Json :=
  Config.toJson <$> (Config.ofJson document).outcome

/-- A configuration that is read from any document is read again from the document it
is written as, with nothing to report; so writing out twice changes nothing more. -/
theorem ofJson_toJson {document : Json} {config : Config}
    (h : (Config.ofJson document).outcome = .ok config) :
    (Config.ofJson config.toJson).outcome = .ok config ∧
      (Config.ofJson config.toJson).entries = [] ∧
      normalize document = .ok config.toJson ∧ normalize config.toJson = .ok config.toJson := by
  have again := ofJson_toJson_of_isReadable (isReadable_of_ofJson h)
  refine ⟨by rw [again]; rfl, by rw [again]; rfl, ?_, ?_⟩
  · rw [normalize, h]
    rfl
  · rw [normalize, again]
    rfl

/-- A document that leaves most things out, asks for a kind that is skipped and for one
twice, and gives a position without overrides and an empty path. -/
def sparse : Json :=
  .object [("outputTypes", .array ["svg", "gif", "svg"]), ("colors", .null),
    ("width", Number.float (.ofFraction 640 1)),
    ("steps", .array [.object [("position", .object []), ("timing", .null),
      ("shellPrompt", .object [("path", ""), ("user", .null)])]])]

theorem ofJson_toJson_sparse : ∃ config, (Config.ofJson sparse).outcome = .ok config ∧
    config.outputs = [.svg, .svg] ∧ config.steps.map (·.position) = [some {}] ∧
    config.steps.map (·.prompt.path) = [some ("" : Text)] ∧
    (Config.ofJson config.toJson).outcome = .ok config ∧
    (Config.ofJson config.toJson).entries = [] ∧
    normalize config.toJson = .ok config.toJson := by
  have checked : (match (Config.ofJson sparse).outcome with
      | .ok config => decide (config.outputs = [.svg, .svg] ∧
          config.steps.map (·.position) = [some {}] ∧
          config.steps.map (·.prompt.path) = [some ("" : Text)])
      | .error _ => false) = true := by
    decide +kernel
  cases same : (Config.ofJson sparse).outcome with
  | error e =>
      rw [same] at checked
      cases checked
  | ok config =>
      rw [same] at checked
      obtain ⟨outputs, positions, paths⟩ := of_decide_eq_true checked
      obtain ⟨back, silent, -, normal⟩ := ofJson_toJson same
      exact ⟨config, rfl, outputs, positions, paths, back, silent, normal⟩

end Config

end TerminalReel
