import TerminalReel.Fault
import TerminalReel.Proofs.Association
import TerminalReel.Proofs.Config.RoundTrip
/-!
# TerminalReel.Proofs.Config.Faults

What a configuration is refused for: always **a field, and a fault that can be told**.

The values in a configuration and in a message are those of the document and of the
defaults. So a condition that goes from a document over to the values inside it, and
that the defaults meet, holds of all that the reader answers with. Where it lets
numbers be written, so may every message be, and the refusal is a report to the user
whatever is wrong with the document. The lemmas carry along a proposition `P` under
which the document meets the condition: one pass over the reader says both what holds
of every document and what holds of those that meet it.
-/

namespace TerminalReel

/-! ### Conditions on documents -/

namespace Json

theorem fieldsAreWritable_iff {fields : Fields} :
    fieldsAreWritable fields = true ↔ ∀ field ∈ fields, field.2.isWritable = true := by
  induction fields with
  | nil => simp [fieldsAreWritable]
  | cons field rest ih => simp [fieldsAreWritable, ih]

theorem areWritable_iff {items : List Json} :
    areWritable items = true ↔ ∀ item ∈ items, item.isWritable = true := by
  induction items with
  | nil => simp [areWritable]
  | cons item rest ih => simp [areWritable, ih]

/-- A condition that goes over to the values inside a value, and that the defaults meet. -/
structure Inherited (meets : Json → Prop) : Prop where
  item {items : List Json} : meets (.array items) → ∀ item ∈ items, meets item
  field {fields : Fields} : meets (.object fields) → ∀ field ∈ fields, meets field.2
  null : meets .null
  empty : meets (.object [])
  stepDefaults : meets (.object Step.defaults)
  configDefaults : meets (.object Config.defaults)

namespace Inherited

variable {meets meets' : Json → Prop} (inherited : Inherited meets)

include inherited

/-- Two conditions at once go over to the values inside if each of them does. -/
theorem and (inherited' : Inherited meets') :
    Inherited fun value => meets value ∧ meets' value where
  item h item mem := ⟨inherited.item h.1 item mem, inherited'.item h.2 item mem⟩
  field h field mem := ⟨inherited.field h.1 field mem, inherited'.field h.2 field mem⟩
  null := ⟨inherited.null, inherited'.null⟩
  empty := ⟨inherited.empty, inherited'.empty⟩
  stepDefaults := ⟨inherited.stepDefaults, inherited'.stepDefaults⟩
  configDefaults := ⟨inherited.configDefaults, inherited'.configDefaults⟩

theorem promptDefaults : meets (.object Prompt.defaults) :=
  inherited.field inherited.stepDefaults ("shellPrompt", .object Prompt.defaults)
    (by simp [Step.defaults])

theorem timingDefaults : meets (.object Timing.defaults) :=
  inherited.field inherited.stepDefaults ("timing", .object Timing.defaults)
    (by simp [Step.defaults])

theorem colorsDefaults : meets (.object Colors.defaults) :=
  inherited.field inherited.configDefaults ("colors", .object Colors.defaults)
    (by simp [Config.defaults])

theorem getD_get? {fields : Fields} (key : Text) (h : meets (.object fields)) :
    meets ((fields.get? key).getD .null) := by
  cases found : fields.get? key with
  | none => exact inherited.null
  | some value => exact inherited.field h _ (mem_of_lookup found)

/-- The value of a field, or its default, meets what the fields and the defaults meet. -/
theorem getOr {fields defaults : Fields} (key : Text) (h : meets (.object fields))
    (hd : meets (.object defaults)) : meets (fields.getOr defaults key) := by
  rw [Fields.getOr]
  split
  · exact inherited.getD_get? key hd
  · exact inherited.getD_get? key hd
  · rename_i value found
    exact inherited.field h _ (mem_of_lookup found)

end Inherited

theorem inherited_isWritable : Inherited (·.isWritable = true) where
  item h := areWritable_iff.1 h
  field h := fieldsAreWritable_iff.1 h
  null := rfl
  empty := rfl
  stepDefaults := by decide +kernel
  configDefaults := by decide +kernel

theorem itemsDepth_le {items : List Json} {d : ℕ} (h : ∀ item ∈ items, item.depth ≤ d) :
    itemsDepth items ≤ d := by
  induction items with
  | nil => exact Nat.zero_le d
  | cons item rest ih =>
      obtain ⟨here, there⟩ := List.forall_mem_cons.1 h
      exact Nat.max_le.2 ⟨here, ih there⟩

theorem fieldsDepth_le {fields : Fields} {d : ℕ} (h : ∀ field ∈ fields, field.2.depth ≤ d) :
    fieldsDepth fields ≤ d := by
  induction fields with
  | nil => exact Nat.zero_le _
  | cons field rest ih =>
      obtain ⟨first, later⟩ := List.forall_mem_cons.1 h
      exact Nat.max_le.2 ⟨first, ih later⟩

/-- A walk goes over to what is inside a value, and there is room for the defaults. -/
theorem inherited_covers (reach : Reach) : Inherited (reach.covers · = true) where
  item h := reach.item h
  field h := reach.field h
  null := reach.own (by decide)
  empty := reach.own (by decide)
  stepDefaults := reach.own (by decide)
  configDefaults := reach.own (by decide)

/-- An inherited condition under which messages may be written, and shown by a host. -/
structure Tellable (host : Host) (meets : Json → Prop) : Prop extends Inherited meets where
  writable {value : Json} : meets value → value.isWritable = true
  showable {value : Json} : meets value → host.shows.covers value = true

theorem tellable (host : Host) :
    Tellable host fun value => value.isWritable = true ∧ host.shows.covers value = true where
  toInherited := inherited_isWritable.and (inherited_covers host.shows)
  writable h := h.1
  showable h := h.2

end Json

/-! ### Conditions on configurations -/

section Meets

variable (meets : Json → Prop)

/-- The texts of a prompt meet the condition. -/
structure Prompt.Meets (prompt : Prompt) : Prop where
  user : meets (.string prompt.user)
  host : meets (.string prompt.host)
  symbol : meets (.string prompt.symbol)
  path : ∀ path ∈ prompt.path, meets (.string path)

/-- The timing values meet the condition. -/
structure Timing.Meets (timing : Timing) : Prop where
  start : meets (.number timing.start)
  perChar : meets (.number timing.perChar)
  hold : meets (.number timing.hold)

/-- The places that are given meet the condition. -/
structure Position.Meets (position : Position) : Prop where
  promptX : ∀ x ∈ position.promptX, meets (.number x)
  commandX : ∀ x ∈ position.commandX, meets (.number x)

/-- What a step is computed from meets the condition. -/
structure Step.Meets (step : Step) : Prop where
  prompt : step.prompt.Meets meets
  command : meets (.string step.command)
  timing : step.timing.Meets meets
  position : ∀ position ∈ step.position, position.Meets meets

/-- What an animation is computed from meets the condition. -/
structure Config.Meets (config : Config) : Prop where
  width : meets (.number config.width)
  height : meets (.number config.height)
  fontSize : meets (.number config.fontSize)
  charWidth : meets (.number config.charWidth)
  steps : ∀ step ∈ config.steps, step.Meets meets

end Meets

/-! ### Values in their places -/

namespace ConfigError

/-- The error is a fault of a field, and the host can tell it if `P` holds. -/
def IsReport (host : Host) (P : Prop) : ConfigError → Prop
  | field _ fault => P → fault.isWritable = true ∧ fault.isShowable host = true
  | document _ => False

variable {host : Host} {P : Prop} {e : ConfigError}

/-- A report is told as far as its message can be shown and written. -/
theorem IsReport.ofConfig_eq_told (h : e.IsReport host P) :
    Fault.ofConfig host e = .told (e.isShowable host) e.isWritable (.config e) := by
  cases e with
  | field path fault => exact Fault.ofConfig.eq_2 _ _ nofun
  | document fault => exact h.elim

/-- Where the document meets the condition, every message about it can be told. -/
theorem IsReport.canBeTold (h : e.IsReport host P) (holds : P) :
    e.isWritable = true ∧ e.isShowable host = true := by
  cases e with
  | field path fault => exact h holds
  | document fault => exact h.elim

/-- A fault that can be told is told. -/
theorem IsReport.ofConfig_eq (h : e.IsReport host P) (holds : P) :
    Fault.ofConfig host e = .config e := by
  obtain ⟨writable, showable⟩ := h.canBeTold holds
  rw [h.ofConfig_eq_told, writable, showable]
  rfl

end ConfigError

/-- A step of reading that gives a `good` value, or is refused with a report. -/
abbrev Reports {α : Type} (host : Host) (P : Prop) (good : α → Prop)
    (x : Except ConfigError α) : Prop :=
  Ends good (ConfigError.IsReport host P) x

variable {host : Host} {meets : Json → Prop} (tellable : Json.Tellable host meets) {P : Prop}

include tellable

namespace Located

variable {l : Located} (h : P → meets l.value)

include h

theorem reports_number : Reports host P (fun n => P → meets (.number n)) l.number := by
  obtain ⟨path, value⟩ := l
  cases value with
  | number n => exact .ok h
  | _ => exact .error fun holds => ⟨tellable.writable (h holds), tellable.showable (h holds)⟩

theorem reports_string : Reports host P (fun s => P → meets (.string s)) l.string := by
  obtain ⟨path, value⟩ := l
  cases value with
  | string s => exact .ok h
  | _ => exact .error fun holds => ⟨tellable.writable (h holds), tellable.showable (h holds)⟩

theorem reports_boolean : Reports host P (fun _ => True) l.boolean := by
  obtain ⟨path, value⟩ := l
  cases value with
  | bool b => exact .ok trivial
  | _ => exact .error fun holds => ⟨tellable.writable (h holds), tellable.showable (h holds)⟩

omit tellable in
theorem reports_section : Reports host P (fun s => P → meets (.object s.fields)) l.section? := by
  obtain ⟨path, value⟩ := l
  cases value with
  | object fields => exact .ok h
  | _ => exact .error fun _ => ⟨rfl, rfl⟩

theorem reports_sectionOrEmpty :
    Reports host P (fun s => P → meets (.object s.fields)) l.sectionOrEmpty := by
  rw [sectionOrEmpty]
  split
  · exact .ok fun _ => tellable.empty
  · exact reports_section h

omit tellable in
theorem meets_of_given? {given : Located} (found : l.given? = some given) :
    P → meets given.value := by
  rw [given?] at found
  split at found
  · cases found
  · obtain rfl := Option.some.inj found
    exact h

theorem reports_string? :
    Reports host P (fun o => P → ∀ s ∈ o, meets (.string s)) l.string? := by
  rw [string?]
  split
  · rename_i given found
    exact (reports_string tellable (meets_of_given? h found)).map fun s hs holds =>
      forall_mem_some (hs holds)
  · exact .ok fun _ => forall_mem_none

theorem reports_number? :
    Reports host P (fun o => P → ∀ n ∈ o, meets (.number n)) l.number? := by
  rw [number?]
  split
  · rename_i given found
    exact (reports_number tellable (meets_of_given? h found)).map fun n hn holds =>
      forall_mem_some (hn holds)
  · exact .ok fun _ => forall_mem_none

omit h tellable in
theorem meets_of_mem_itemsFrom {path : FieldPath} {i : ℕ} {items : List Json}
    (h : P → ∀ item ∈ items, meets item) :
    ∀ l ∈ itemsFrom path i items, P → meets l.value := by
  induction items generalizing i with
  | nil => exact List.forall_mem_nil _
  | cons item rest ih =>
      refine List.forall_mem_cons.2 ⟨fun holds => ?_, ih fun holds => ?_⟩
      · exact (List.forall_mem_cons.1 (h holds)).1
      · exact (List.forall_mem_cons.1 (h holds)).2

/-- A list of texts is refused for one of its items or as a whole. -/
theorem reports_strings : Reports host P (fun _ => True) l.strings := by
  obtain ⟨path, value⟩ := l
  cases value with
  | array items =>
      have each : ∀ l ∈ itemsFrom path 0 items, P → meets l.value :=
        meets_of_mem_itemsFrom fun holds => tellable.item (h holds)
      exact (Ends.mapM fun l mem => reports_string tellable (each l mem)).mono
        fun _ _ => trivial
  | _ => exact .error fun _ => ⟨rfl, rfl⟩

end Located

/-! ### Sections -/

section Sections

variable {s : Section} (h : P → meets (.object s.fields))

include h

/-- A field of a section meets the condition, given or by default. -/
theorem Section.meets_get (key : String) {defaults : Fields} (hd : meets (.object defaults)) :
    P → meets (s.get key defaults).value :=
  fun holds => tellable.getOr key (h holds) hd

theorem Prompt.reports_ofSection :
    Reports host P (fun prompt => P → prompt.Meets meets) (Prompt.ofSection s) := by
  have field (key : String) : P → meets (s.get key Prompt.defaults).value :=
    Section.meets_get tellable h key tellable.promptDefaults
  have given : P → meets (s.get "path").value :=
    Section.meets_get tellable h "path" tellable.empty
  refine (Located.reports_string tellable (field "user")).bind fun user hu => ?_
  refine (Located.reports_string tellable (field "host")).bind fun host hh => ?_
  refine (Located.reports_string tellable (field "symbol")).bind fun symbol hs => ?_
  refine (Located.reports_string? tellable given).bind fun path hp => ?_
  exact .pure fun holds => ⟨hu holds, hh holds, hs holds, hp holds⟩

theorem Timing.reports_ofSection :
    Reports host P (fun timing => P → timing.Meets meets) (Timing.ofSection s) := by
  have field (key : String) : P → meets (s.get key Timing.defaults).value :=
    Section.meets_get tellable h key tellable.timingDefaults
  refine (Located.reports_number tellable (field "start")).bind fun start hs => ?_
  refine (Located.reports_number tellable (field "perChar")).bind fun perChar hp => ?_
  refine (Located.reports_number tellable (field "hold")).bind fun hold hh => ?_
  exact .pure fun holds => ⟨hs holds, hp holds, hh holds⟩

theorem Position.reports_ofSection :
    Reports host P (fun position => P → position.Meets meets) (Position.ofSection s) := by
  have field (key : String) : P → meets (s.get key).value :=
    Section.meets_get tellable h key tellable.empty
  refine (Located.reports_number? tellable (field "promptX")).bind fun promptX hp => ?_
  refine (Located.reports_number? tellable (field "commandX")).bind fun commandX hc => ?_
  exact .pure fun holds => ⟨hp holds, hc holds⟩

theorem Colors.reports_ofSection : Reports host P (fun _ => True) (Colors.ofSection s) := by
  have field (key : String) : P → meets (s.get key Colors.defaults).value :=
    Section.meets_get tellable h key tellable.colorsDefaults
  have given : P → meets (s.get "path").value :=
    Section.meets_get tellable h "path" tellable.empty
  refine (Located.reports_string tellable (field "bg")).bind fun background _ => ?_
  refine (Located.reports_string tellable (field "terminalLines")).bind fun lines _ => ?_
  refine (Located.reports_string tellable (field "user")).bind fun user _ => ?_
  refine (Located.reports_string tellable (field "host")).bind fun host _ => ?_
  refine (Located.reports_string tellable (field "symbol")).bind fun symbol _ => ?_
  refine (Located.reports_string tellable (field "command")).bind fun command _ => ?_
  refine (Located.reports_string? tellable given).bind fun path _ => ?_
  exact .pure trivial

theorem Section.reports_steps :
    Reports host P (fun steps => ∀ l ∈ steps, P → meets l.value) s.steps := by
  have given : P → meets (s.get "steps").value :=
    Section.meets_get tellable h "steps" tellable.empty
  rw [Section.steps]
  split
  · rename_i items found
    rw [found] at given
    exact .ok (Located.meets_of_mem_itemsFrom fun holds => tellable.item (given holds))
  · exact .error fun _ => ⟨rfl, rfl⟩

end Sections

section Places

variable {l : Located} (h : P → meets l.value)

include h

theorem Position.reports_ofLocated? :
    Reports host P (fun o => P → ∀ position ∈ o, position.Meets meets)
      (Position.ofLocated? l) := by
  rw [Position.ofLocated?]
  split
  · rename_i given found
    refine (Located.reports_section (Located.meets_of_given? h found)).bind fun s hs => ?_
    exact (Position.reports_ofSection tellable hs).bind fun position hp =>
      .pure fun holds => forall_mem_some (hp holds)
  · exact .ok fun _ => forall_mem_none

/-- A step that is read meets what its document meets, and one that is refused gives a
report. -/
theorem Step.reports_ofLocated :
    Reports host P (fun step => P → step.Meets meets) (Step.ofLocated l) := by
  refine (Located.reports_section h).bind fun s hs => ?_
  have field (key : String) : P → meets (s.get key Step.defaults).value :=
    Section.meets_get tellable hs key tellable.stepDefaults
  have optional (key : String) : P → meets (s.get key).value :=
    Section.meets_get tellable hs key tellable.empty
  refine (Located.reports_section (field "shellPrompt")).bind fun prompt hp => ?_
  refine (Prompt.reports_ofSection tellable hp).bind fun prompt hp => ?_
  refine (Located.reports_sectionOrEmpty tellable (optional "timing")).bind fun timing ht => ?_
  refine (Timing.reports_ofSection tellable ht).bind fun timing ht => ?_
  refine (Position.reports_ofLocated? tellable (optional "position")).bind
    fun position placed => ?_
  refine (Located.reports_strings tellable (field "terminalLines")).bind fun lines _ => ?_
  refine (Located.reports_string tellable (field "command")).bind fun command hc => ?_
  exact .pure fun holds => ⟨hp holds, hc holds, ht holds, placed holds⟩

theorem reports_readName : Reports host P (fun _ => True) (readName l) := by
  refine (Located.reports_string tellable h).bind fun name _ => ?_
  split
  · exact .pure trivial
  · exact .error fun _ => ⟨rfl, rfl⟩

end Places

/-! ### The whole configuration -/

theorem reports_checkPositive {path : FieldPath} {n : Number} (h : P → meets (.number n)) :
    Reports host P (fun _ => True) (checkPositive path n) := by
  rw [checkPositive]
  split
  · exact .error fun holds => ⟨tellable.writable (h holds), rfl⟩
  · exact .ok trivial

omit tellable in
theorem reports_readOutputs (path : FieldPath) (i : ℕ) (names : List Text) :
    Reports host P (fun _ => True) (readOutputs path i names).outcome := by
  induction names generalizing i with
  | nil => exact .ok trivial
  | cons name rest ih =>
      rw [readOutputs]
      split
      · exact ih (i + 1)
      · split
        · rw [Attempt.outcome_bind]
          exact (ih (i + 1)).bind fun _ _ => .ok trivial
        · exact .error fun _ => ⟨rfl, rfl⟩

/-- A document is read, or it is refused with a report, if its numbers may be written. -/
theorem Config.reports_ofJson (document : Json) :
    Reports host (meets document) (fun config => meets document → config.Meets meets)
      (Config.ofJson document).outcome := by
  simp only [Config.ofJson, Attempt.outcome_bind, Attempt.outcome_ofExcept]
  refine (Located.reports_section (l := ⟨[], document⟩) id).bind fun s hs => ?_
  have field (key : String) : meets document → meets (s.get key Config.defaults).value :=
    Section.meets_get tellable hs key tellable.configDefaults
  have optional (key : String) : meets document → meets (s.get key).value :=
    Section.meets_get tellable hs key tellable.empty
  refine (Section.reports_steps tellable hs).bind fun steps each => ?_
  refine (Located.reports_strings tellable (field "outputTypes")).bind fun requested _ => ?_
  refine (reports_readOutputs _ 0 requested).bind fun outputs _ => ?_
  refine (reports_readName tellable (field "name")).bind fun name _ => ?_
  refine (Located.reports_number tellable (field "width")).bind fun width wide => ?_
  refine (Located.reports_number tellable (field "height")).bind fun height high => ?_
  refine (Located.reports_number tellable (field "charWidth")).bind fun charWidth spaced => ?_
  refine (reports_checkPositive tellable wide).bind fun _ _ => ?_
  refine (reports_checkPositive tellable high).bind fun _ _ => ?_
  refine (reports_checkPositive tellable spaced).bind fun _ _ => ?_
  refine (Located.reports_string tellable (field "fontFamily")).bind fun fontFamily _ => ?_
  refine (Located.reports_number tellable (field "fontSize")).bind fun fontSize sized => ?_
  refine (Located.reports_boolean tellable (field "loop")).bind fun loop _ => ?_
  refine (Located.reports_boolean tellable (field "embed")).bind fun embed _ => ?_
  refine (Located.reports_string? tellable (optional "outputDirectory")).bind
    fun outputDirectory _ => ?_
  refine (Located.reports_sectionOrEmpty tellable (optional "colors")).bind fun colors hc => ?_
  refine (Colors.reports_ofSection tellable hc).bind fun colors _ => ?_
  refine (Ends.mapM fun l mem => Step.reports_ofLocated tellable (each l mem)).bind
    fun steps hsteps => ?_
  exact .pure fun holds =>
    ⟨wide holds, high holds, sized holds, spaced holds, fun step mem => hsteps step mem holds⟩

end TerminalReel
