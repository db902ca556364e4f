import Mathlib.Data.List.Forall2
import Mathlib.Logic.Relation
import TerminalReel.Proofs.Association
import TerminalReel.Proofs.Config.Format
import TerminalReel.Proofs.Config.RoundTrip
/-!
# TerminalReel.Proofs.Config.Edits

Edits of a document that its **reader does not notice**.

In any object of the format a field that is absent, a field that is null and a field that
holds its default say the same, and a key that the format does not know says nothing. So
an object may be changed in these ways, in any number of places and at any depth, and is
read as before: with the same configuration or the same error, and the same reports.

What an edit leaves alike is what its reader makes of the value. For the readers of
objects this follows from their fields: an object is read alike if all of its fields are,
each with its default. An edit touches one field and leaves that one alike as well.
-/

namespace TerminalReel

/-! ### Edits -/

/-- The fields differ at most in what stands under this key, and in their order. -/
def Fields.AgreeBut (key : Text) (fields fields' : Fields) : Prop :=
  ∀ other, other ≠ key → fields'.get? other = fields.get? other

/-- One edit of the fields of an object. -/
inductive ObjectForm.Edits (o : ObjectForm) (fields fields' : Fields) : Prop
  /-- A null goes. -/
  | dropNull {key : String} {form : FieldForm} (known : o.field? key = some form)
      (null : fields.get? key = some .null) (dropped : fields'.get? key = none)
      (rest : Fields.AgreeBut key fields fields')
  /-- A null comes. -/
  | setNull {key : String} {form : FieldForm} (known : o.field? key = some form)
      (absent : fields.get? key = none) (null : fields'.get? key = some .null)
      (rest : Fields.AgreeBut key fields fields')
  /-- What was absent or null is written out. -/
  | fill {key : String} {form : FieldForm} {value : Json} (known : o.field? key = some form)
      (empty : fields.get? key = none ∨ fields.get? key = some .null)
      (default : o.defaults.get? key = some value) (filled : fields'.get? key = some value)
      (rest : Fields.AgreeBut key fields fields')
  /-- A key that the format does not know comes, goes or changes. -/
  | unknown {key : Text} (unknown : ∀ field ∈ o.fields, Text.ofString field.1 ≠ key)
      (rest : Fields.AgreeBut key fields fields')

/-- One edit of an object somewhere in a value of this form. -/
inductive FieldForm.Edited : FieldForm → Json → Json → Prop
  | here {o : ObjectForm} {fields fields' : Fields} (edit : o.Edits fields fields') :
      Edited (.object o) (.object fields) (.object fields')
  | field {o : ObjectForm} {fields fields' : Fields} {key : String} {form : FieldForm}
      {value value' : Json} (known : o.field? key = some form)
      (found : fields.get? key = some value) (edit : Edited form value value')
      (replaced : fields'.get? key = some value') (rest : Fields.AgreeBut key fields fields') :
      Edited (.object o) (.object fields) (.object fields')
  | step {items : List Json} {i : ℕ} {value value' : Json} (found : items[i]? = some value)
      (edit : Edited (.object .step) value value') :
      Edited .steps (.array items) (.array (items.set i value'))

/-! ### Values that are read alike -/

/-- The reader of these objects does not tell the two values apart. -/
def ObjectForm.Alike (value value' : Json) : ObjectForm → Prop
  | .config => Config.ofJson value' = Config.ofJson value
  | .colors => ∀ path, (Located.sectionOrEmpty ⟨path, value'⟩ >>= Colors.ofSection)
      = (Located.sectionOrEmpty ⟨path, value⟩ >>= Colors.ofSection)
  | .step => ∀ path, Step.ofLocated ⟨path, value'⟩ = Step.ofLocated ⟨path, value⟩
  | .prompt => ∀ path, (Located.section? ⟨path, value'⟩ >>= Prompt.ofSection)
      = (Located.section? ⟨path, value⟩ >>= Prompt.ofSection)
  | .timing => ∀ path, (Located.sectionOrEmpty ⟨path, value'⟩ >>= Timing.ofSection)
      = (Located.sectionOrEmpty ⟨path, value⟩ >>= Timing.ofSection)
  | .position => ∀ path, Position.ofLocated? ⟨path, value'⟩ = Position.ofLocated? ⟨path, value⟩

/-- The two values are read alike in a place of this form. -/
def FieldForm.Alike (value value' : Json) : FieldForm → Prop
  | .object o => o.Alike value value'
  | .steps => value' = value ∨ ∃ items items', value = .array items ∧ value' = .array items' ∧
      List.Forall₂ (fun item item' => ObjectForm.step.Alike item item') items items'
  | _ => value' = value

theorem ObjectForm.alike_rfl (o : ObjectForm) (value : Json) : o.Alike value value := by
  cases o with
  | config => rfl
  | _ => exact fun _ => rfl

theorem FieldForm.alike_rfl (form : FieldForm) (value : Json) : form.Alike value value := by
  cases form with
  | object o => exact o.alike_rfl value
  | steps => exact .inl rfl
  | _ => rfl

/-! ### Fields that are read alike -/

namespace Fields

variable {fields fields' defaults : Fields} {key : Text}

theorem getOr_congr (same : fields'.get? key = fields.get? key) :
    fields'.getOr defaults key = fields.getOr defaults key := by
  rw [getOr, getOr, same]

/-- A field without a default is read as it stands. -/
theorem getOr_nil (none : defaults.get? key = none) :
    fields.getOr [] key = fields.getOr defaults key := by
  rw [getOr, getOr, none]
  rfl

/-- A field that is absent or null has its default, whichever of these it is. -/
theorem getOr_of_empty (empty : fields.get? key = none ∨ fields.get? key = some .null) :
    fields.getOr defaults key = (defaults.get? key).getD .null := by
  refine getOr_of_absent ?_
  rcases empty with empty | empty <;> rw [empty] <;> rfl

/-- A default that is written out is read as the one that is not. -/
theorem getOr_of_default {value : Json} (default : defaults.get? key = some value)
    (filled : fields.get? key = some value) : fields.getOr defaults key = value := by
  by_cases null : value = .null
  · subst null
    rw [getOr_of_empty (.inr filled), default]
    rfl
  · exact getOr_of_given defaults filled null

end Fields

namespace ObjectForm

variable {o : ObjectForm} {fields fields' : Fields}

/-- An edit leaves the value of every field that is known. -/
theorem Edits.getOr_eq (edit : o.Edits fields fields') {key : String} {form : FieldForm}
    (known : o.field? key = some form) :
    fields'.getOr o.defaults key = fields.getOr o.defaults key := by
  cases edit with
  | @dropNull other _ _ null dropped rest =>
      by_cases same : Text.ofString key = other
      · rw [same, Fields.getOr_of_empty (.inl dropped), Fields.getOr_of_empty (.inr null)]
      · exact Fields.getOr_congr (rest key same)
  | @setNull other _ _ absent null rest =>
      by_cases same : Text.ofString key = other
      · rw [same, Fields.getOr_of_empty (.inr null), Fields.getOr_of_empty (.inl absent)]
      · exact Fields.getOr_congr (rest key same)
  | @fill other _ value _ empty default filled rest =>
      by_cases same : Text.ofString key = other
      · rw [same, Fields.getOr_of_default default filled, Fields.getOr_of_empty empty, default]
        rfl
      · exact Fields.getOr_congr (rest key same)
  | unknown unknown rest =>
      exact Fields.getOr_congr (rest key (unknown _ (mem_of_field? known)))

end ObjectForm

/-! ### Readers of objects -/

section Readers

variable {ε α β γ : Type} {fields fields' : Fields}

/-- Two steps that go alike together go alike whatever follows. -/
theorem bind_bind_congr {x x' : Except ε α} {f : α → Except ε β} (same : (x' >>= f) = (x >>= f))
    (g : β → Except ε γ) : (x' >>= fun a => f a >>= g) = (x >>= fun a => f a >>= g) := by
  rw [← bind_assoc, ← bind_assoc, same]

/-- A section is read through the values of its fields only. -/
theorem Section.get_congr (path : FieldPath) {key : String} {defaults : Fields}
    (same : fields'.getOr defaults key = fields.getOr defaults key) :
    Section.get ⟨path, fields'⟩ key defaults = Section.get ⟨path, fields⟩ key defaults := by
  rw [Section.get, Section.get, same]

/-- A field without a default is the same for a reader that does not ask for defaults. -/
theorem Section.get_congr_nil (path : FieldPath) {key : String} {defaults : Fields}
    (same : fields'.getOr defaults key = fields.getOr defaults key)
    (none : defaults.get? key = none) :
    Section.get ⟨path, fields'⟩ key = Section.get ⟨path, fields⟩ key :=
  get_congr path (by rw [Fields.getOr_nil none, Fields.getOr_nil none, same])

/-- The fields are read alike, each with its default. -/
def ObjectForm.FieldsAlike (o : ObjectForm) (fields fields' : Fields) : Prop :=
  ∀ field ∈ o.fields, field.2.Alike (fields.getOr o.defaults field.1)
    (fields'.getOr o.defaults field.1)

theorem Prompt.alike (h : ObjectForm.prompt.FieldsAlike fields fields') :
    ObjectForm.prompt.Alike (.object fields) (.object fields') := by
  simp only [ObjectForm.FieldsAlike, ObjectForm.fields, List.forall_mem_cons] at h
  obtain ⟨user, host, symbol, shown, -⟩ := h
  intro path
  have field (key : String)
      (same : fields'.getOr Prompt.defaults key = fields.getOr Prompt.defaults key) :=
    Section.get_congr path same
  simp only [Located.section?_object, ok_bind, Prompt.ofSection, field "user" user,
    field "host" host, field "symbol" symbol, Section.get_congr_nil path shown rfl]

theorem Located.sectionOrEmpty_fields (path : FieldPath) (fields : Fields) :
    sectionOrEmpty ⟨path, .object fields⟩ = .ok ⟨path, fields⟩ := by
  cases fields <;> rfl

theorem Timing.alike (h : ObjectForm.timing.FieldsAlike fields fields') :
    ObjectForm.timing.Alike (.object fields) (.object fields') := by
  simp only [ObjectForm.FieldsAlike, ObjectForm.fields, List.forall_mem_cons] at h
  obtain ⟨start, perChar, hold, -⟩ := h
  intro path
  have field (key : String)
      (same : fields'.getOr Timing.defaults key = fields.getOr Timing.defaults key) :=
    Section.get_congr path same
  simp only [Located.sectionOrEmpty_fields, ok_bind, Timing.ofSection, field "start" start,
    field "perChar" perChar, field "hold" hold]

theorem Position.alike (h : ObjectForm.position.FieldsAlike fields fields') :
    ObjectForm.position.Alike (.object fields) (.object fields') := by
  simp only [ObjectForm.FieldsAlike, ObjectForm.fields, List.forall_mem_cons] at h
  obtain ⟨promptX, commandX, -⟩ := h
  intro path
  have field (key : String) (same : fields'.getOr [] key = fields.getOr [] key) :=
    Section.get_congr path same
  simp only [Position.ofLocated?, Located.given?, Located.section?_object, ok_bind,
    Position.ofSection, field "promptX" promptX, field "commandX" commandX]

theorem Colors.alike (h : ObjectForm.colors.FieldsAlike fields fields') :
    ObjectForm.colors.Alike (.object fields) (.object fields') := by
  simp only [ObjectForm.FieldsAlike, ObjectForm.fields, List.forall_mem_cons] at h
  obtain ⟨background, lines, user, host, symbol, command, shown, -⟩ := h
  intro path
  have field (key : String)
      (same : fields'.getOr Colors.defaults key = fields.getOr Colors.defaults key) :=
    Section.get_congr path same
  simp only [Located.sectionOrEmpty_fields, ok_bind, Colors.ofSection, field "bg" background,
    field "terminalLines" lines, field "user" user, field "host" host, field "symbol" symbol,
    field "command" command, Section.get_congr_nil path shown rfl]

/-- Where nothing is read as the default object, it does not matter that the reader does not
ask for the default. -/
theorem Section.sectionOrEmpty_congr {read : Section → Except ConfigError α} {key : String}
    {defaults default : Fields} (same : ∀ path, read ⟨path, default⟩ = read ⟨path, []⟩)
    (given : defaults.get? key = some (.object default))
    (alike : ∀ path, (Located.sectionOrEmpty ⟨path, fields'.getOr defaults key⟩ >>= read)
      = (Located.sectionOrEmpty ⟨path, fields.getOr defaults key⟩ >>= read)) {path : FieldPath} :
    ((Section.get ⟨path, fields'⟩ key).sectionOrEmpty >>= read)
      = ((Section.get ⟨path, fields⟩ key).sectionOrEmpty >>= read) := by
  have filled (fields : Fields) : ((Section.get ⟨path, fields⟩ key).sectionOrEmpty >>= read)
      = ((Section.get ⟨path, fields⟩ key defaults).sectionOrEmpty >>= read) := by
    by_cases absent : (fields.get? key).getD .null = .null
    · rw [Section.get, Section.get, Fields.getOr_of_absent absent, Fields.getOr_of_absent absent,
        given]
      show read ⟨_, []⟩ = (Located.sectionOrEmpty ⟨_, .object default⟩ >>= read)
      rw [Located.sectionOrEmpty_fields, ok_bind, same]
    · cases found : fields.get? key with
      | none => exact absurd (by rw [found]; rfl) absent
      | some value =>
          rw [found] at absent
          rw [Section.get, Section.get, Fields.getOr_of_given _ found absent,
            Fields.getOr_of_given _ found absent]
  rw [filled fields', filled fields]
  exact alike _

/-- A timing in which nothing is given is the default one. -/
theorem Timing.ofSection_defaults (path : FieldPath) :
    Timing.ofSection ⟨path, Timing.defaults⟩ = Timing.ofSection ⟨path, []⟩ := rfl

theorem Colors.ofSection_defaults (path : FieldPath) :
    Colors.ofSection ⟨path, Colors.defaults⟩ = Colors.ofSection ⟨path, []⟩ := rfl

/-- Steps with fields alike are read alike. -/
theorem Step.alike (h : ObjectForm.step.FieldsAlike fields fields') :
    ObjectForm.step.Alike (.object fields) (.object fields') := by
  simp only [ObjectForm.FieldsAlike, ObjectForm.fields, List.forall_mem_cons] at h
  obtain ⟨lines, command, prompt, timing, position, -⟩ := h
  intro path
  have field (key : String)
      (same : fields'.getOr Step.defaults key = fields.getOr Step.defaults key) :=
    Section.get_congr path same
  have prompts (g : Prompt → Except ConfigError Step) :
      ((Section.get ⟨path, fields'⟩ "shellPrompt" Step.defaults).section?
          >>= fun s => Prompt.ofSection s >>= g)
        = ((Section.get ⟨path, fields⟩ "shellPrompt" Step.defaults).section?
          >>= fun s => Prompt.ofSection s >>= g) :=
    bind_bind_congr (prompt _) g
  have timings (g : Timing → Except ConfigError Step) :
      ((Section.get ⟨path, fields'⟩ "timing").sectionOrEmpty >>= fun s => Timing.ofSection s >>= g)
        = ((Section.get ⟨path, fields⟩ "timing").sectionOrEmpty
          >>= fun s => Timing.ofSection s >>= g) :=
    bind_bind_congr (Section.sectionOrEmpty_congr Timing.ofSection_defaults rfl timing) g
  have positions : Position.ofLocated? (Section.get ⟨path, fields'⟩ "position")
      = Position.ofLocated? (Section.get ⟨path, fields⟩ "position") := by
    have none : Step.defaults.get? "position" = none := rfl
    rw [Section.get, Section.get, Fields.getOr_nil none, Fields.getOr_nil none]
    exact position _
  simp only [Step.ofLocated, Located.section?_object, ok_bind, field "terminalLines" lines,
    field "command" command, prompts, timings, positions]

/-! ### The whole configuration -/

/-- Lists of steps that are alike one by one are read alike. -/
theorem Located.mapM_itemsFrom_congr {items items' : List Json} (path : FieldPath) (k : ℕ)
    (alike : List.Forall₂ (fun item item' => ObjectForm.step.Alike item item') items items') :
    (itemsFrom path k items').mapM Step.ofLocated
      = (itemsFrom path k items).mapM Step.ofLocated := by
  induction alike generalizing k with
  | nil => rfl
  | cons first _ ih => rw [itemsFrom, itemsFrom, List.mapM_cons, List.mapM_cons, first, ih]

theorem Section.steps_of_array {items : List Json}
    (found : fields.getOr Config.defaults "steps" = .array items) :
    Section.steps ⟨[], fields⟩ = .ok (Located.itemsFrom [.key "steps"] 0 items) := by
  have none : Config.defaults.get? "steps" = none := rfl
  have value : (Section.get ⟨[], fields⟩ "steps").value = .array items := by
    rw [Section.get, Fields.getOr_nil none, found]
  rw [Section.steps, value]
  rfl

/-- Documents with fields alike are read alike, with the same reports. -/
theorem Config.alike (h : ObjectForm.config.FieldsAlike fields fields') :
    ObjectForm.config.Alike (.object fields) (.object fields') := by
  simp only [ObjectForm.FieldsAlike, ObjectForm.fields, List.forall_mem_cons] at h
  obtain ⟨width, height, charWidth, fontFamily, fontSize, loop, embed, name, outputDirectory,
    outputTypes, colors, steps, -⟩ := h
  have field (key : String)
      (same : fields'.getOr Config.defaults key = fields.getOr Config.defaults key) :=
    Section.get_congr [] same
  have colors_read (g : Colors → Except ConfigError Config) :
      ((Section.get ⟨[], fields'⟩ "colors").sectionOrEmpty >>= fun s => Colors.ofSection s >>= g)
        = ((Section.get ⟨[], fields⟩ "colors").sectionOrEmpty
          >>= fun s => Colors.ofSection s >>= g) :=
    bind_bind_congr (Section.sectionOrEmpty_congr Colors.ofSection_defaults rfl colors) g
  show Config.ofJson (.object fields') = Config.ofJson (.object fields)
  simp only [Config.ofJson, Located.section?_object, Attempt.ofExcept_ok, pure_bind,
    field "width" width, field "height" height, field "charWidth" charWidth,
    field "fontFamily" fontFamily, field "fontSize" fontSize, field "loop" loop,
    field "embed" embed, field "name" name, Section.get_congr_nil [] outputDirectory rfl,
    field "outputTypes" outputTypes, colors_read]
  rcases steps with same | ⟨items, items', found, found', alike⟩
  · rw [Section.steps, Section.steps, Section.get_congr_nil [] same rfl]
  · rw [Section.steps_of_array found, Section.steps_of_array found']
    simp only [Attempt.ofExcept_ok, pure_bind,
      Located.mapM_itemsFrom_congr [.key "steps"] 0 alike]

/-- An object is read alike if all of its fields are. -/
theorem ObjectForm.alike_object {o : ObjectForm} (h : o.FieldsAlike fields fields') :
    o.Alike (.object fields) (.object fields') := by
  cases o with
  | config => exact Config.alike h
  | colors => exact Colors.alike h
  | step => exact Step.alike h
  | prompt => exact Prompt.alike h
  | timing => exact Timing.alike h
  | position => exact Position.alike h

end Readers

/-! ### Edits are not noticed -/

/-- A list is like itself with one item put in place of one that is like it. -/
theorem forall₂_set {R : Json → Json → Prop} (rfl_R : ∀ item, R item item) {items : List Json}
    {i : ℕ} {value value' : Json} (found : items[i]? = some value) (related : R value value') :
    List.Forall₂ R items (items.set i value') := by
  induction items generalizing i with
  | nil => exact .nil
  | cons item rest ih =>
      cases i with
      | zero =>
          obtain rfl : item = value := Option.some.inj found
          exact .cons related (List.forall₂_same.2 fun item _ => rfl_R item)
      | succ i => exact .cons (rfl_R item) (ih found)

namespace FieldForm

variable {form : FieldForm} {value value' : Json}

theorem Edited.ne_null (h : form.Edited value value') : value ≠ .null ∧ value' ≠ .null := by
  cases h <;> exact ⟨nofun, nofun⟩

/-- By induction on where the edit is: what is around it is read alike, too. -/
theorem Edited.alike (h : form.Edited value value') : form.Alike value value' := by
  induction h with
  | here edit =>
      refine ObjectForm.alike_object fun field mem => ?_
      rw [edit.getOr_eq (ObjectForm.field?_of_mem mem)]
      exact alike_rfl _ _
  | @field o fields fields' key form value value' known found edit replaced rest ih =>
      refine ObjectForm.alike_object fun field mem => ?_
      by_cases same : field.1 = key
      · obtain ⟨given, given'⟩ := edit.ne_null
        have form_eq : field.2 = form := by
          have field_known := ObjectForm.field?_of_mem mem
          rw [same, known] at field_known
          exact (Option.some.inj field_known).symm
        rw [same, form_eq, Fields.getOr_of_given _ found given,
          Fields.getOr_of_given _ replaced given']
        exact ih
      · have apart : Text.ofString field.1 ≠ Text.ofString key :=
          fun h => same (Text.ofString_inj.1 h)
        rw [Fields.getOr_congr (rest field.1 apart)]
        exact alike_rfl _ _
  | step found _ ih =>
      exact .inr ⟨_, _, rfl, rfl, forall₂_set ObjectForm.step.alike_rfl found ih⟩

end FieldForm

namespace Config

/-- A document is read as before, with the same result or the same error and with the same
reports, however often and wherever nulls and defaults are put in or left out and unknown
keys come and go. -/
theorem ofJson_of_edited {document document' : Json}
    (edits : Relation.ReflTransGen (FieldForm.object .config).Edited document document') :
    Config.ofJson document' = Config.ofJson document := by
  induction edits with
  | refl => rfl
  | tail _ last ih =>
      have same := last.alike
      exact Eq.trans same ih

/-- A document with a misspelt key, a step whose timing is null, and no width. -/
def terse : Json :=
  .object [("nmae", "x"), ("steps", .array [.object [("command", "ls"), ("timing", .null)]])]

/-- The same without the misspelt key and the timing, and with the width. -/
def spelled : Json :=
  .object [("width", (800 : Number)), ("steps", .array [.object [("command", "ls")]])]

theorem ofJson_of_edited_terse : ∃ config, (Config.ofJson terse).outcome = .ok config ∧
    (Config.ofJson spelled).outcome = .ok config := by
  obtain ⟨config, read⟩ : ∃ config, (Config.ofJson terse).outcome = .ok config :=
    exists_of_isOk (by decide +kernel)
  have no_timing : ObjectForm.step.Edits [("command", "ls"), ("timing", .null)]
      [("command", "ls")] := by
    have rest : Fields.AgreeBut "timing" [("command", "ls"), ("timing", .null)]
        [("command", "ls")] := fun other ne => by simp [Fields.get?_cons, ne]
    exact .dropNull rfl rfl rfl rest
  have no_misspelt (steps : Json) :
      ObjectForm.config.Edits [("nmae", "x"), ("steps", steps)] [("steps", steps)] := by
    have rest : Fields.AgreeBut "nmae" [("nmae", "x"), ("steps", steps)] [("steps", steps)] :=
      fun other ne => by simp [Fields.get?_cons, ne]
    exact .unknown (by decide) rest
  have width (steps : Json) : ObjectForm.config.Edits [("steps", steps)]
      [("width", (800 : Number)), ("steps", steps)] := by
    have rest : Fields.AgreeBut "width" [("steps", steps)]
        [("width", (800 : Number)), ("steps", steps)] :=
      fun other ne => by simp [Fields.get?_cons, ne]
    exact .fill rfl (.inl rfl) rfl rfl rest
  have in_steps (width steps steps' : Json) (edit : FieldForm.steps.Edited steps steps') :
      (FieldForm.object .config).Edited (.object [("width", width), ("steps", steps)])
        (.object [("width", width), ("steps", steps')]) := by
    have rest : Fields.AgreeBut "steps" [("width", width), ("steps", steps)]
        [("width", width), ("steps", steps')] := fun other ne => by simp [Fields.get?_cons, ne]
    exact .field rfl rfl edit rfl rest
  have edits : Relation.ReflTransGen (FieldForm.object .config).Edited terse spelled :=
    .head (.here (no_misspelt _)) <| .head (.here (width _)) <|
      .single (in_steps _ _ _ (.step (i := 0) rfl (.here no_timing)))
  exact ⟨config, read, by rw [ofJson_of_edited edits, read]⟩

end Config

end TerminalReel
