import TerminalReel.Proofs.Config.Places
import TerminalReel.Proofs.Config.RoundTrip
/-!
# TerminalReel.Proofs.Config.Verdict

The reader's **verdict** on a document, compared with the format.

Each object of the format has one reader, which judges all of its fields, in the order
in which it reads them. A document that is accepted has no fault at any place, but for
two objects that are taken as absent when they are blank, whatever they are. A document
that is refused is refused for a fault that is there: the place that the error names is
one of the document, what stands in it breaks the rule of that place, and no step
before it would have been refused.
-/

namespace TerminalReel

open ObjectForm Located

/-- The reader of a prompt clears all of its fields, or it blames one. -/
theorem Prompt.judges_ofSection : ObjectForm.prompt.Judges Prompt.ofSection := by
  intro s
  have text (key : String) (mem : (key, .text) ∈ ObjectForm.prompt.fields) :=
    ends_get (s := s) judges_string key mem rfl Prompt.defaults
  refine (text "user" (by decide) fun _ => ⟨_, rfl⟩).bind fun _ user => ?_
  refine (text "host" (by decide) fun _ => ⟨_, rfl⟩).bind fun _ host => ?_
  refine (text "symbol" (by decide) fun _ => ⟨_, rfl⟩).bind fun _ symbol => ?_
  refine (ends_get judges_string? "path" (by decide) rfl [] fun _ => ⟨_, rfl⟩).bind
    fun _ path => .pure ?_
  simp only [ObjectForm.Clears, ObjectForm.fields, List.forall_mem_cons]
  exact ⟨user, host, symbol, path, List.forall_mem_nil _⟩

theorem Timing.judges_ofSection : ObjectForm.timing.Judges Timing.ofSection := by
  intro s
  have number (key : String) (mem : (key, .number) ∈ ObjectForm.timing.fields) :=
    ends_get (s := s) judges_number key mem rfl Timing.defaults
  refine (number "start" (by decide) fun _ => ⟨_, rfl⟩).bind fun _ start => ?_
  refine (number "perChar" (by decide) fun _ => ⟨_, rfl⟩).bind fun _ perChar => ?_
  refine (number "hold" (by decide) fun _ => ⟨_, rfl⟩).bind fun _ hold => .pure ?_
  simp only [ObjectForm.Clears, ObjectForm.fields, List.forall_mem_cons]
  exact ⟨start, perChar, hold, List.forall_mem_nil _⟩

theorem Position.judges_ofSection : ObjectForm.position.Judges Position.ofSection := by
  intro s
  have number (key : String) (mem : (key, .number) ∈ ObjectForm.position.fields) :=
    ends_get (s := s) judges_number? key mem rfl []
  refine (number "promptX" (by decide) fun _ => ⟨_, rfl⟩).bind fun _ promptX => ?_
  refine (number "commandX" (by decide) fun _ => ⟨_, rfl⟩).bind fun _ commandX => .pure ?_
  simp only [ObjectForm.Clears, ObjectForm.fields, List.forall_mem_cons]
  exact ⟨promptX, commandX, List.forall_mem_nil _⟩

theorem Position.judges_ofLocated? :
    FieldRule.Judges ⟨.object .position, true⟩ Position.ofLocated? := by
  refine judges_given Position.judges_ofSection.section? rfl (fun _ => rfl) ?_
  intro path value given
  cases value with
  | null => exact absurd rfl given
  | object fields =>
      show (Position.ofSection ⟨path, fields⟩ >>= fun position => pure (some position))
        = some <$> Position.ofSection ⟨path, fields⟩
      rw [map_eq_pure_bind]
  | _ => rfl

theorem Colors.judges_ofSection : ObjectForm.colors.Judges Colors.ofSection := by
  intro s
  have text (key : String) (mem : (key, .text) ∈ ObjectForm.colors.fields) :=
    ends_get (s := s) judges_string key mem rfl Colors.defaults
  refine (text "bg" (by decide) fun _ => ⟨_, rfl⟩).bind fun _ background => ?_
  refine (text "terminalLines" (by decide) fun _ => ⟨_, rfl⟩).bind fun _ lines => ?_
  refine (text "user" (by decide) fun _ => ⟨_, rfl⟩).bind fun _ user => ?_
  refine (text "host" (by decide) fun _ => ⟨_, rfl⟩).bind fun _ host => ?_
  refine (text "symbol" (by decide) fun _ => ⟨_, rfl⟩).bind fun _ symbol => ?_
  refine (text "command" (by decide) fun _ => ⟨_, rfl⟩).bind fun _ command => ?_
  refine (ends_get judges_string? "path" (by decide) rfl [] fun _ => ⟨_, rfl⟩).bind
    fun _ path => .pure ?_
  simp only [ObjectForm.Clears, ObjectForm.fields, List.forall_mem_cons]
  exact ⟨background, lines, user, host, symbol, command, path, List.forall_mem_nil _⟩

/-- The reader of a step clears all of its fields, down to those of its sections, or it
blames one. -/
theorem Step.judges_ofLocated : FieldRule.Judges ⟨.object .step, false⟩ Step.ofLocated := by
  refine Judges.section? (o := .step) fun s => ?_
  have prompts := Prompt.judges_ofSection.section?
  have timings := Timing.judges_ofSection.sectionOrEmpty rfl fun path => ⟨_, rfl⟩
  refine (ends_get prompts "shellPrompt" (by decide) rfl _ fun _ => ⟨_, rfl⟩).bind_bind
    fun _ prompt => ?_
  refine (ends_get timings "timing" (by decide) rfl [] fun _ => ⟨_, rfl⟩).bind_bind
    fun _ timing => ?_
  refine (ends_get Position.judges_ofLocated? "position" (by decide) rfl [] fun _ => ⟨_, rfl⟩).bind
    fun _ position => ?_
  refine (ends_get judges_strings "terminalLines" (by decide) rfl _ fun _ => ⟨_, rfl⟩).bind
    fun _ lines => ?_
  refine (ends_get judges_string "command" (by decide) rfl _ fun _ => ⟨_, rfl⟩).bind
    fun _ command => .pure ?_
  simp only [ObjectForm.Clears, ObjectForm.fields, List.forall_mem_cons]
  exact ⟨lines, command, prompt, timing, position, List.forall_mem_nil _⟩

/-! ### The whole configuration -/

namespace Config

open FieldRule

/-- Every step before the one that a path goes into is read. -/
def StepsBefore (document : Json) (path : FieldPath) : Prop :=
  ∀ i below, path = .key "steps" :: .index i :: below → ∀ j < i, ∃ item step,
    FieldPath.follow? [.key "steps", .index j] document = some item ∧
      Step.ofLocated ⟨[.key "steps", .index j], item⟩ = .ok step

/-- The error blames a place of the document, and every step before it is read. -/
def Blames (document : Json) (e : ConfigError) : Prop :=
  ∃ path rule fault, root.at? path = some rule ∧ rule.Violates (path.follow? document) fault ∧
    e = .field path fault ∧ StepsBefore document path

variable {s : Section} {fields : Fields} {e : ConfigError} {key : String} {form : FieldForm}

/-- A fault in the document is blamed, if the steps before it are cleared. -/
theorem blames_of_config (h : ObjectForm.config.Blames ⟨[], fields⟩ e)
    (before : ∀ path fault, e = .field path fault → StepsBefore (.object fields) path) :
    Blames (.object fields) e := by
  have at_root : root.Blames [] (some (.object fields)) e := h.object rfl
  obtain ⟨path, rule, fault, leads, wrong, rfl⟩ := at_root
  exact ⟨path, rule, fault, leads, wrong, rfl, before path fault rfl⟩

/-- A fault in a field other than the steps is blamed, whatever the steps are. -/
theorem blames_field (mem : (key, form) ∈ ObjectForm.config.fields) (other : key ≠ "steps")
    (h : (ofForm form).Blames ([] ++ [.key key]) (fields.get? key) e) :
    Blames (.object fields) e := by
  refine blames_of_config ⟨_, mem, h⟩ ?_
  rintro path fault rfl i inside rfl
  obtain ⟨_, _, _, _, _, same⟩ := h
  cases same
  exact absurd rfl other

/-- A field of the configuration is judged with its default, by the reader for its form. -/
theorem ends_get {α : Type} (fields : Fields) {rule : FieldRule}
    {read : Located → Except ConfigError α} (judges : rule.Judges read) (key : String)
    (mem : (key, rule.form) ∈ ObjectForm.config.fields) (other : key ≠ "steps")
    (holds : rule.form.holdsSteps = false) (defaults : Fields)
    (fine : ∀ path, ∃ a, read ⟨path, (defaults.get? key).getD .null⟩ = .ok a) :
    Ends (fun _ => (ofForm rule.form).Clears (fields.get? key)) (Blames (.object fields))
      (read (Section.get ⟨[], fields⟩ key defaults)) :=
  (judges.get holds ⟨[], fields⟩ key defaults fine).mono_error fun _ => blames_field mem other

/-! ### Sizes -/

section Sizes

variable (key : String) (mem : (key, .size) ∈ ObjectForm.config.fields) (other : key ≠ "steps")
  {fallback : Number}
  (fine : Config.defaults.get? key = some (.number fallback))

include mem other fine

/-- A size is a number, or is blamed for its kind. -/
theorem ends_size :
    Ends (fun n => (Section.get ⟨[], fields⟩ key Config.defaults).value = .number n)
      (Blames (.object fields)) (Section.get ⟨[], fields⟩ key Config.defaults).number := by
  refine Ends.mono_error ?_ fun _ => blames_field mem other
  refine Section.ends_of_get rfl (Located.ends_number .size rfl _) fun default => ?_
  rw [default, fine]
  exact ⟨fallback, rfl⟩

/-- A size that passes the check is cleared, and one that does not is blamed for its value.
-/
theorem ends_checkPositive (positive : fallback.le 0 = false) {n : Number}
    (value : (Section.get ⟨[], fields⟩ key Config.defaults).value = .number n) :
    Ends (fun _ => (ofForm .size).Clears (fields.get? key)) (Blames (.object fields))
      (checkPositive (Section.get ⟨[], fields⟩ key Config.defaults).path n) := by
  refine Ends.mono_error ?_ fun _ => blames_field mem other
  have judged : Ends
      (fun _ => Clears ⟨.size, false⟩ (some (Section.get ⟨[], fields⟩ key Config.defaults).value))
      (FieldRule.Blames ⟨.size, false⟩ (Section.get ⟨[], fields⟩ key Config.defaults).path
        (some (Section.get ⟨[], fields⟩ key Config.defaults).value))
      (checkPositive (Section.get ⟨[], fields⟩ key Config.defaults).path n) := by
    rw [value, checkPositive]
    split
    · rename_i small
      exact .error (blames_here (.of_required rfl (.size small)))
    · rename_i large
      refine .ok (clears_of_leaf rfl ?_)
      rintro fault (⟨unlike⟩ | - | - | ⟨small⟩)
      · cases n with
        | int i => exact unlike List.mem_cons_self
        | float x => exact unlike (List.mem_cons_of_mem _ List.mem_cons_self)
      · exact large small
  have judged := judged.mono fun _ => Section.clears_of_get rfl rfl
  refine Section.ends_of_get rfl judged fun default => ?_
  have same : Json.number fallback = .number n := by
    rw [← value, default, fine]
    rfl
  obtain rfl := Json.number.inj same
  exact ⟨(), checkPositive_eq_ok positive⟩

end Sizes

/-! ### Kinds of files -/

/-- Some name, counted from this index on, is at fault, and the error says so. -/
def BlamesName (path : FieldPath) (k : ℕ) (names : List Text) (e : ConfigError) : Prop :=
  ∃ i name fault, names[i]? = some name ∧ FieldForm.output.Violates (.string name) fault ∧
    e = .field (path ++ [.index (k + i)]) fault

theorem BlamesName.cons {path : FieldPath} {k : ℕ} {names : List Text} (name : Text)
    (h : BlamesName path (k + 1) names e) : BlamesName path k (name :: names) e := by
  obtain ⟨i, other, fault, at_i, wrong, rfl⟩ := h
  refine ⟨i + 1, other, fault, at_i, wrong, ?_⟩
  rw [Nat.add_right_comm k 1 i, Nat.add_assoc]

/-- Each name stands for an output, or the first that stands for none is blamed. -/
theorem ends_readOutputs (path : FieldPath) (k : ℕ) (names : List Text) :
    Ends (fun _ => ∀ name ∈ names, ∀ fault, ¬ FieldForm.output.Violates (.string name) fault)
      (BlamesName path k names) (readOutputs path k names).outcome := by
  induction names generalizing k with
  | nil => exact .ok (List.forall_mem_nil _)
  | cons name rest ih =>
      have later := (ih (k + 1)).mono_error fun _ => BlamesName.cons name
      rw [readOutputs]
      by_cases skipped : name = skippedOutput
      · rw [if_pos skipped]
        refine later.mono fun _ clean => List.forall_mem_cons.2 ⟨?_, clean⟩
        rintro fault (⟨other⟩ | - | ⟨-, unlike⟩)
        · exact other List.mem_cons_self
        · exact unlike skipped
      · rw [if_neg skipped]
        cases made : OutputKind.ofName? name with
        | none => exact .error ⟨0, name, _, rfl, .output made skipped, rfl⟩
        | some kind =>
            rw [Attempt.outcome_bind]
            refine later.bind fun _ clean => .ok (List.forall_mem_cons.2 ⟨?_, clean⟩)
            rintro fault (⟨other⟩ | - | ⟨unmade, -⟩)
            · exact other List.mem_cons_self
            · rw [made] at unmade
              cases unmade

theorem ends_requested :
    Ends (fun names => (Section.get ⟨[], fields⟩ "outputTypes" Config.defaults).value
        = .array (names.map .string))
      (Blames (.object fields))
      (Section.get ⟨[], fields⟩ "outputTypes" Config.defaults).strings := by
  have mem : ("outputTypes", FieldForm.outputs) ∈ ObjectForm.config.fields := by decide
  refine Ends.mono_error ?_ fun _ => blames_field mem (by decide)
  have judged := Located.ends_strings .outputs rfl rfl
    (Section.get ⟨[], fields⟩ "outputTypes" Config.defaults)
  refine Section.ends_of_get rfl judged fun default => ?_
  rw [default]
  exact ⟨_, rfl⟩

/-- The kinds of files that are asked for are judged when their names are known. -/
theorem ends_outputs {names : List Text}
    (value : (Section.get ⟨[], fields⟩ "outputTypes" Config.defaults).value
      = .array (names.map .string)) :
    Ends (fun _ => (ofForm .outputs).Clears (fields.get? "outputTypes")) (Blames (.object fields))
      (readOutputs (Section.get ⟨[], fields⟩ "outputTypes" Config.defaults).path 0
        names).outcome := by
  have judged : Ends (fun _ => Clears ⟨.outputs, false⟩
        (some (Section.get ⟨[], fields⟩ "outputTypes" Config.defaults).value))
      (FieldRule.Blames ⟨.outputs, false⟩ [.key "outputTypes"]
        (some (Section.get ⟨[], fields⟩ "outputTypes" Config.defaults).value))
      (readOutputs [.key "outputTypes"] 0 names).outcome := by
    rw [value]
    refine ((ends_readOutputs _ 0 names).mono fun _ clean => ?_).mono_error ?_
    · refine Located.clears_array rfl rfl ?_ fun item mem => ?_
      · rintro fault ⟨other⟩
        exact other List.mem_cons_self
      · obtain ⟨name, listed, rfl⟩ := List.mem_map.1 mem
        exact clears_of_leaf rfl (clean name listed)
    · rintro e ⟨i, name, fault, at_i, wrong, rfl⟩
      rw [Nat.zero_add]
      refine Located.blames_item rfl ?_ (blames_here (.of_required rfl wrong))
      rw [List.getElem?_map, at_i]
      rfl
  have mem : ("outputTypes", FieldForm.outputs) ∈ ObjectForm.config.fields := by decide
  refine Ends.mono_error ?_ fun _ => blames_field mem (by decide)
  have judged := judged.mono fun _ => Section.clears_of_get rfl rfl
  refine Section.ends_of_get rfl judged fun default => ?_
  have same : (OutputKind.all.map fun kind => Text.ofString kind.name).map Json.string
      = names.map Json.string := by
    refine Json.array.inj ?_
    rw [← value, default]
    rfl
  have injective : Function.Injective Json.string := fun _ _ h => Json.string.inj h
  obtain rfl := List.map_injective_iff.2 injective same
  exact ⟨_, congrArg Attempt.outcome (readOutputs_names 0 OutputKind.all)⟩

/-! ### The steps -/

/-- The steps are looked for before anything else is read. -/
theorem ends_steps : Ends
    (fun steps => ∃ items, fields.get? "steps" = some (.array items) ∧
      steps = Located.itemsFrom [.key "steps"] 0 items)
    (Blames (.object fields)) (Section.steps ⟨[], fields⟩) := by
  have blames (wrong : (ofForm .steps).Violates (fields.get? "steps") .noSteps) :
      Blames (.object fields) (.field [.key "steps"] .noSteps) := by
    have mem : ("steps", FieldForm.steps) ∈ ObjectForm.config.fields := by decide
    refine blames_of_config ⟨_, mem, blames_here wrong⟩ ?_
    rintro path fault same i inside rfl
    cases same
  rw [Section.steps, Section.get, Fields.getOr]
  cases found : fields.get? "steps" with
  | none => exact .error (blames (found ▸ .noSteps rfl))
  | some value =>
      have wrong (other : value.kind ∉ [Json.Kind.array]) :
          (ofForm .steps).Violates (fields.get? "steps") .noSteps := by
        rw [found]
        exact .of_required rfl (.kind other)
      cases value with
      | array items => exact .ok ⟨items, rfl, rfl⟩
      | number n => exact .error (blames (wrong (Json.kind_number_ne (by decide) (by decide))))
      | _ => exact .error (blames (wrong (by simp [Json.kind])))

/-- Each step is cleared, or the first that is not is blamed. By induction on the steps
before it. -/
theorem ends_mapM_steps {items : List Json} (found : fields.get? "steps" = some (.array items)) :
    Ends (fun _ => (ofForm .steps).Clears (fields.get? "steps")) (Blames (.object fields))
      ((Located.itemsFrom [.key "steps"] 0 items).mapM Step.ofLocated) := by
  have judged := Located.ends_items (fun item => Clears ⟨.object .step, false⟩ (some item))
    Step.judges_ofLocated [.key "steps"] items
  refine (judged.mono ?_).mono_error ?_
  · intro _ each
    rw [found]
    refine Located.clears_array rfl rfl ?_ each
    rintro fault ⟨other⟩
    exact other List.mem_cons_self
  · rintro e ⟨i, item, at_i, wrong, before⟩
    have mem : ("steps", FieldForm.steps) ∈ ObjectForm.config.fields := by decide
    have in_steps : (ofForm .steps).Blames [.key "steps"] (fields.get? "steps") e :=
      found ▸ Located.blames_item rfl at_i wrong
    refine blames_of_config ⟨_, mem, in_steps⟩ ?_
    rintro path fault rfl _ inside rfl j less
    obtain ⟨_, _, _, _, _, same⟩ := wrong
    cases same
    have short : i < items.length := (List.getElem?_eq_some_iff.1 at_i).1
    have at_j : items[j]? = some items[j] := List.getElem?_eq_getElem (less.trans short)
    obtain ⟨step, read⟩ := before j less _ at_j
    refine ⟨items[j], step, ?_, read⟩
    rw [FieldPath.follow?_cons, Segment.enter?, found, Option.bind_some, FieldPath.follow?_cons,
      Segment.enter?, at_j]
    rfl

theorem blames_root {document : Json} (other : document.kind ∉ [Json.Kind.object]) :
    Blames document (.field [] (.notObject document.kind)) :=
  ⟨[], root, _, rfl, .of_required rfl (.kind other), rfl, nofun⟩

/-- An object is read field by field: all of them are cleared, or one is blamed. -/
theorem ends_ofJson_object (fields : Fields) : Ends (fun _ => ObjectForm.config.Clears fields)
    (Blames (.object fields)) (Config.ofJson (.object fields)).outcome := by
  simp only [Config.ofJson, Attempt.outcome_bind, Attempt.outcome_ofExcept,
    Located.section?_object, ok_bind]
  have text (key : String) (mem : (key, .text) ∈ ObjectForm.config.fields)
      (other : key ≠ "steps") :=
    ends_get fields Located.judges_string key mem other rfl Config.defaults
  have boolean (key : String) (mem : (key, .boolean) ∈ ObjectForm.config.fields)
      (other : key ≠ "steps") :=
    ends_get fields Located.judges_boolean key mem other rfl Config.defaults
  refine ends_steps.bind ?_
  rintro _ ⟨items, found, rfl⟩
  refine ends_requested.bind fun requested asked => ?_
  refine (ends_outputs asked).bind fun _ outputTypes => ?_
  refine (ends_get fields Located.judges_readName "name" (by decide) (by decide) rfl _
    fun _ => ⟨_, rfl⟩).bind fun _ name => ?_
  refine (ends_size "width" (by decide) (by decide) rfl).bind fun _ width => ?_
  refine (ends_size "height" (by decide) (by decide) rfl).bind fun _ height => ?_
  refine (ends_size "charWidth" (by decide) (by decide) rfl).bind fun _ charWidth => ?_
  refine (ends_checkPositive "width" (by decide) (by decide) rfl (by decide +kernel) width).bind
    fun _ width => ?_
  refine (ends_checkPositive "height" (by decide) (by decide) rfl (by decide +kernel) height).bind
    fun _ height => ?_
  refine (ends_checkPositive "charWidth" (by decide) (by decide) rfl (by decide +kernel)
    charWidth).bind fun _ charWidth => ?_
  refine (text "fontFamily" (by decide) (by decide) fun _ => ⟨_, rfl⟩).bind fun _ fontFamily => ?_
  refine (ends_get fields Located.judges_number "fontSize" (by decide) (by decide) rfl _
    fun _ => ⟨_, rfl⟩).bind fun _ fontSize => ?_
  refine (boolean "loop" (by decide) (by decide) fun _ => ⟨_, rfl⟩).bind fun _ loop => ?_
  refine (boolean "embed" (by decide) (by decide) fun _ => ⟨_, rfl⟩).bind fun _ embed => ?_
  refine (ends_get fields Located.judges_string? "outputDirectory" (by decide) (by decide) rfl []
    fun _ => ⟨_, rfl⟩).bind fun _ outputDirectory => ?_
  have colors_judged := Colors.judges_ofSection.sectionOrEmpty rfl fun _ => ⟨_, rfl⟩
  refine (ends_get fields colors_judged "colors" (by decide) (by decide) rfl []
    fun _ => ⟨_, rfl⟩).bind_bind fun _ colors => ?_
  refine (ends_mapM_steps found).bind fun _ steps => .pure ?_
  simp only [ObjectForm.Clears, ObjectForm.fields, List.forall_mem_cons]
  exact ⟨width, height, charWidth, fontFamily, fontSize, loop, embed, name, outputDirectory,
    outputTypes, colors, steps, List.forall_mem_nil _⟩

/-- The verdict on a document: where it is accepted all is let pass, and where it is
refused a fault of it is blamed. -/
theorem ends_ofJson (document : Json) : Ends (fun _ => root.Clears (some document))
    (Blames document) (Config.ofJson document).outcome := by
  cases document with
  | object fields => exact (ends_ofJson_object fields).mono fun _ clears => clears.object rfl
  | number n => exact .error (blames_root (Json.kind_number_ne (by decide) (by decide)))
  | _ => exact .error (blames_root (by simp [Json.kind]))

/-! ### Accepted documents -/

/-- Every value in an accepted document is of a kind that its place asks for, or it is
blank in the place of the colours or of a timing. -/
theorem wellTyped_of_ofJson {document value : Json} {config : Config} {path : FieldPath}
    {rule : FieldRule} (accepted : (Config.ofJson document).outcome = .ok config)
    (leads : root.at? path = some rule) (found : path.follow? document = some value)
    (given : rule.optional = true → value ≠ .null) :
    value.kind ∈ rule.form.kinds ∨ rule.form.mayBeBlank = true ∧ value.isBlank = true := by
  have clears := (ends_ofJson document).of_ok accepted path rule leads
  rw [Option.bind_some, found] at clears
  rcases clears with clean | ⟨lenient, _, same, blank⟩
  · refine .inl (by_contra fun other => ?_)
    exact clean _ (.given given (.kind other))
  · obtain rfl := Option.some.inj same
    exact .inr ⟨lenient, blank⟩

/-- A document whose colours are an empty string and whose first step has no timing but
`false`. -/
def blankSections : Json :=
  .object [("colors", ""), ("steps", .array [.object [("command", "ls"), ("timing", false)]])]

theorem wellTyped_of_ofJson_blankSections : ∃ config,
    (Config.ofJson blankSections).outcome = .ok config ∧
    FieldPath.follow? [.key "steps", .index 0, .key "command"] blankSections = some "ls" ∧
    (Json.string "ls").kind ∈ FieldForm.text.kinds := by
  obtain ⟨config, accepted⟩ : ∃ config, (Config.ofJson blankSections).outcome = .ok config :=
    exists_of_isOk (by decide +kernel)
  have leads : root.at? [.key "steps", .index 0, .key "command"] = some (ofForm .text) := rfl
  have found : FieldPath.follow? [.key "steps", .index 0, .key "command"] blankSections
      = some "ls" := rfl
  refine ⟨config, accepted, found, ?_⟩
  rcases wellTyped_of_ofJson accepted leads found (fun _ => nofun) with kind | ⟨lenient, -⟩
  · exact kind
  · cases lenient

/-- An empty string is taken as colours, and `false` as a timing. -/
theorem not_wellTyped_blankSections : ∃ config,
    (Config.ofJson blankSections).outcome = .ok config ∧
    (root.at? [.key "colors"] = some (ofForm (.object .colors)) ∧
      FieldPath.follow? [.key "colors"] blankSections = some "" ∧
      (Json.string "").kind ∉ (FieldForm.object .colors).kinds) ∧
    root.at? [.key "steps", .index 0, .key "timing"] = some (ofForm (.object .timing)) ∧
      FieldPath.follow? [.key "steps", .index 0, .key "timing"] blankSections
        = some (.bool false) ∧
      (Json.bool false).kind ∉ (FieldForm.object .timing).kinds := by
  obtain ⟨config, accepted⟩ : ∃ config, (Config.ofJson blankSections).outcome = .ok config :=
    exists_of_isOk (by decide +kernel)
  exact ⟨config, accepted, ⟨rfl, rfl, by decide⟩, rfl, rfl, by decide⟩

end Config

/-! ### Refused documents -/

/-- The error names a place of the document by its path, what is found there has the
fault that the message tells, and every step before the place is read. -/
structure ConfigError.Pinpoints (e : ConfigError) (document : Json) (place : String)
    (rule : FieldRule) (fault : FieldFault) : Prop where
  named : e.place? = some place
  message : e.message = Text.ofString (place ++ ": " ++ fault.message)
  leads : FieldRule.root.at? (FieldPath.read place) = some rule
  violates : rule.Violates ((FieldPath.read place).follow? document) fault
  before : Config.StepsBefore document (FieldPath.read place)

namespace Config

/-- A refusal is for a fault that is there, and points at it. -/
theorem pinpoints_of_ofJson {document : Json} {e : ConfigError}
    (refused : (Config.ofJson document).outcome = .error e) :
    ∃ place rule fault, e.Pinpoints document place rule fault := by
  obtain ⟨path, rule, fault, leads, wrong, rfl, before⟩ := (ends_ofJson document).of_error refused
  have back := FieldRule.read_text leads
  refine ⟨path.text, rule, fault, rfl, ?_, ?_, ?_, ?_⟩
  · rw [ConfigError.message, located, if_neg (FieldRule.text_ne_empty leads)]
  · rwa [back]
  · rwa [back]
  · rwa [back]

/-- A document whose second step gives its hold as a truth value, after a kind of file
that is skipped. -/
def falseHold : Json :=
  .object [("outputTypes", .array ["gif", "svg"]),
    ("steps", .array [.object [("command", "ls")],
      .object [("timing", .object [("hold", true)])]])]

theorem pinpoints_of_ofJson_falseHold : ∃ e rule fault,
    (Config.ofJson falseHold).outcome = .error e ∧
    e.Pinpoints falseHold "steps[1].timing.hold" rule fault := by
  have refused : (match (Config.ofJson falseHold).outcome with
      | .ok _ => false
      | .error e => decide (e.place? = some "steps[1].timing.hold")) = true := by
    decide +kernel
  cases outcome : (Config.ofJson falseHold).outcome with
  | ok config =>
      rw [outcome] at refused
      cases refused
  | error e =>
      rw [outcome] at refused
      obtain ⟨place, rule, fault, pinpoints⟩ := pinpoints_of_ofJson outcome
      obtain rfl : place = "steps[1].timing.hold" :=
        Option.some.inj (pinpoints.named.symm.trans (of_decide_eq_true refused))
      exact ⟨e, rule, fault, rfl, pinpoints⟩

end Config

end TerminalReel
