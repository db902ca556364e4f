import TerminalReel.Proofs.Config.Format
import TerminalReel.Proofs.Ending
/-!
# TerminalReel.Proofs.Config.Places

Where a refusal **points**, and what an accepted document may hold.

The reader goes through a document field by field. Each step of it either lets pass
what stands in a place, with all that is inside, or blames a place at or inside it. Both
are said against the format, which knows nothing of the reader: a rule and what is found.
One walk over the reader then carries both endings up to the whole document.

A default never is at fault, so what is blamed stands in the document itself.
-/

namespace TerminalReel

/-! ### Going into values -/

/-- What is one step inside a value. -/
def Segment.enter? : Segment → Json → Option Json
  | .key name, .object fields => Fields.get? fields name
  | .index i, .array items => items[i]?
  | _, _ => none

theorem FieldPath.follow?_cons (segment : Segment) (path : FieldPath) (value : Json) :
    follow? (segment :: path) value = (segment.enter? value).bind (follow? path) := by
  cases segment <;> cases value <;> rfl

theorem FieldPath.bind_follow?_cons (segment : Segment) (path : FieldPath) (found : Option Json) :
    found.bind (follow? (segment :: path)) = (found.bind segment.enter?).bind (follow? path) := by
  cases found with
  | none => rfl
  | some value => exact follow?_cons segment path value

/-- A value of this place that is blank counts as absent, whatever its kind. -/
def FieldForm.mayBeBlank : FieldForm → Bool
  | .object .colors | .object .timing => true
  | _ => false

/-- Nothing is inside a value of this place. -/
def FieldForm.isLeaf : FieldForm → Bool
  | .text | .stem | .output | .number | .size | .boolean => true
  | _ => false

/-- The place is the steps or has them inside. -/
def FieldForm.holdsSteps : FieldForm → Bool
  | .steps | .object .config => true
  | _ => false

namespace FieldRule

variable {rule inner : FieldRule} {segment : Segment} {path : FieldPath} {found : Option Json}
  {fault : FieldFault} {e : ConfigError}

/-- A place at or inside this one is at fault, and the error says so. -/
def Blames (rule : FieldRule) (path : FieldPath) (found : Option Json) (e : ConfigError) : Prop :=
  ∃ below inner fault, rule.at? below = some inner ∧
    inner.Violates (found.bind (FieldPath.follow? below)) fault ∧ e = .field (path ++ below) fault

/-- What is found here is without a fault, or blank where that counts as absent. -/
def LetsPass (rule : FieldRule) (found : Option Json) : Prop :=
  (∀ fault, ¬ rule.Violates found fault) ∨
    rule.form.mayBeBlank = true ∧ ∃ value, found = some value ∧ value.isBlank = true

/-- What is found here is let pass, with all that is inside. -/
def Clears (rule : FieldRule) (found : Option Json) : Prop :=
  ∀ below inner, rule.at? below = some inner →
    inner.LetsPass (found.bind (FieldPath.follow? below))

/-- A value that violates its rule is blamed at its own path. -/
theorem blames_here (h : rule.Violates found fault) :
    rule.Blames path found (.field path fault) := by
  refine ⟨[], rule, fault, rfl, ?_, by rw [List.append_nil]⟩
  cases found <;> exact h

/-- What is blamed inside a value is blamed of the value, at a longer path. -/
theorem blames_inside (into : rule.inside? segment = some inner)
    (h : inner.Blames (path ++ [segment]) (found.bind segment.enter?) e) :
    rule.Blames path found e := by
  obtain ⟨below, place, fault, leads, wrong, rfl⟩ := h
  refine ⟨segment :: below, place, fault, ?_, ?_, ?_⟩
  · rw [at?_cons, into]
    exact leads
  · rwa [FieldPath.bind_follow?_cons]
  · rw [List.append_assoc, List.singleton_append]

/-- A value is cleared if its rule lets it pass and what is inside of it is cleared. -/
theorem clears_iff : rule.Clears found ↔ rule.LetsPass found ∧
    ∀ segment inner, rule.inside? segment = some inner →
      inner.Clears (found.bind segment.enter?) := by
  constructor
  · intro h
    constructor
    · have here := h [] rule rfl
      cases found <;> exact here
    · intro segment inner into below place leads
      rw [← FieldPath.bind_follow?_cons]
      exact h (segment :: below) place (by rw [at?_cons, into]; exact leads)
  · rintro ⟨here, inside⟩ below place leads
    cases below with
    | nil =>
        obtain rfl : rule = place := Option.some.inj leads
        cases found <;> exact here
    | cons segment below =>
        obtain ⟨inner, into, leads⟩ := Option.bind_eq_some_iff.1 (at?_cons ▸ leads)
        rw [FieldPath.bind_follow?_cons]
        exact inside segment inner into below place leads

/-! ### What is not there -/

theorem holdsSteps_of_inside? (h : rule.form.holdsSteps = false)
    (into : rule.inside? segment = some inner) : inner.form.holdsSteps = false := by
  obtain ⟨form, optional⟩ := rule
  cases segment with
  | index i => cases form <;> cases into <;> rfl
  | key key =>
      cases form with
      | object o =>
          obtain ⟨form, field, rfl⟩ := Option.map_eq_some_iff.1 into
          have each : o ≠ .config → ∀ field ∈ o.fields, field.2.holdsSteps = false := by
            cases o <;> decide
          refine each ?_ _ (ObjectForm.mem_of_field? field)
          rintro rfl
          cases h
      | _ => cases into

theorem clears_none (h : rule.form.holdsSteps = false) : rule.Clears none := by
  intro below inner leads
  refine .inl fun fault wrong => ?_
  cases wrong with
  | noSteps steps =>
      induction below generalizing rule with
      | nil =>
          obtain rfl : rule = inner := Option.some.inj leads
          rw [steps] at h
          cases h
      | cons segment below ih =>
          obtain ⟨next, into, leads⟩ := Option.bind_eq_some_iff.1 (at?_cons ▸ leads)
          exact ih (holdsSteps_of_inside? h into) leads

/-- A value in which nothing is found is let pass if it is let pass itself. -/
theorem clears_of_empty (h : rule.form.holdsSteps = false) (here : rule.LetsPass found)
    (empty : ∀ segment inner, rule.inside? segment = some inner →
      found.bind segment.enter? = none) : rule.Clears found := by
  refine clears_iff.2 ⟨here, fun segment inner into => ?_⟩
  rw [empty segment inner into]
  exact clears_none (holdsSteps_of_inside? h into)

theorem clears_null (h : rule.form.holdsSteps = false) (optional : rule.optional = true) :
    rule.Clears (some .null) := by
  refine clears_of_empty h (.inl ?_) fun segment _ _ => by cases segment <;> rfl
  rintro fault (⟨required, -⟩ | -)
  exact required optional rfl

/-! ### Values that are given -/

theorem inside?_of_form_eq {rule' : FieldRule} (same : rule'.form = rule.form)
    (segment : Segment) : rule'.inside? segment = rule.inside? segment := by
  unfold inside?
  rw [same]

/-- Whether a place may be left out does not matter where it is not. -/
theorem violates_of_form_eq {rule' : FieldRule} (same : rule'.form = rule.form)
    (given : found ≠ some .null) (h : rule.Violates found fault) : rule'.Violates found fault := by
  cases h with
  | given _ wrong => exact .given (fun _ null => given (null ▸ rfl)) (same ▸ wrong)
  | noSteps steps => exact .noSteps (same.trans steps)

/-- Rules of one form blame a value that is given alike. -/
theorem blames_of_form_eq {rule' : FieldRule} (same : rule'.form = rule.form)
    (given : found ≠ some .null) (h : rule.Blames path found e) : rule'.Blames path found e := by
  obtain ⟨below, place, fault, leads, wrong, rfl⟩ := h
  cases below with
  | nil =>
      obtain rfl : rule = place := Option.some.inj leads
      rw [List.append_nil]
      refine blames_here (violates_of_form_eq same given ?_)
      cases found <;> exact wrong
  | cons segment below =>
      refine ⟨segment :: below, place, fault, ?_, wrong, rfl⟩
      rwa [at?_cons, inside?_of_form_eq same, ← at?_cons]

/-- Rules of one form clear a value that is given alike. -/
theorem clears_of_form_eq {rule' : FieldRule} (same : rule'.form = rule.form)
    (given : found ≠ some .null) (h : rule.Clears found) : rule'.Clears found := by
  obtain ⟨here, inside⟩ := clears_iff.1 h
  refine clears_iff.2 ⟨?_, fun segment inner into => ?_⟩
  · rcases here with clean | blank
    · exact .inl fun fault wrong => clean fault (violates_of_form_eq same.symm given wrong)
    · exact .inr (same ▸ blank)
  · exact inside segment inner (inside?_of_form_eq same segment ▸ into)

end FieldRule

namespace Section

open FieldRule

variable {s : Section} {key : String} {defaults : Fields} {form : FieldForm} {rule : FieldRule}
  {e : ConfigError}

/-- A field that is absent, or null, has its default. -/
theorem get_of_absent (absent : (s.fields.get? key).getD .null = .null) :
    s.get key defaults = ⟨s.path ++ [.key key], (defaults.get? key).getD .null⟩ := by
  rw [get, Fields.getOr_of_absent absent]

theorem get_of_given (defaults : Fields) (given : (s.fields.get? key).getD .null ≠ .null) :
    s.fields.get? key = some (s.get key defaults).value := by
  cases found : s.fields.get? key with
  | none => exact absurd (by rw [found]; rfl) given
  | some value =>
      rw [found] at given
      rw [get, Fields.getOr_of_given defaults found given]

/-- What is blamed in a field is no default but stands in the document. -/
theorem blames_of_get (same : rule.form = form) (given : (s.fields.get? key).getD .null ≠ .null)
    (h : rule.Blames (s.get key defaults).path (some (s.get key defaults).value) e) :
    (ofForm form).Blames (s.path ++ [.key key]) (s.fields.get? key) e := by
  have found := get_of_given defaults given
  refine blames_of_form_eq same.symm (fun null => given (null ▸ rfl)) ?_
  rw [found]
  exact h

/-- A field is read as its rule says, given or by default, and a fault in it is a fault of
its section. -/
theorem ends_of_get {α : Type} {good : α → Prop} {x : Except ConfigError α}
    (same : rule.form = form)
    (h : Ends good (rule.Blames (s.get key defaults).path (some (s.get key defaults).value)) x)
    (fine : s.get key defaults = ⟨s.path ++ [.key key], (defaults.get? key).getD .null⟩ →
      ∃ a, x = .ok a) :
    Ends good ((ofForm form).Blames (s.path ++ [.key key]) (s.fields.get? key)) x := by
  by_cases absent : (s.fields.get? key).getD .null = .null
  · obtain ⟨a, ends⟩ := fine (get_of_absent absent)
    rw [ends] at h ⊢
    exact .ok (h.of_ok rfl)
  · exact h.mono_error fun _ => blames_of_get same absent

/-- Where a default is let pass, nothing is missing. -/
theorem clears_of_get (same : rule.form = form) (holds : form.holdsSteps = false)
    (h : rule.Clears (some (s.get key defaults).value)) :
    (ofForm form).Clears (s.fields.get? key) := by
  by_cases absent : (s.fields.get? key).getD .null = .null
  · have optional : (ofForm form).optional = true := by cases form <;> first | rfl | cases holds
    cases found : s.fields.get? key with
    | none => exact clears_none holds
    | some value =>
        rw [found] at absent
        obtain rfl : value = .null := absent
        exact clears_null holds optional
  · refine clears_of_form_eq same.symm (fun null => absent (null ▸ rfl)) ?_
    rwa [get_of_given defaults absent]

end Section

/-! ### Readers of one place -/

/-- The reader ends with a value where all is let pass, and else with an error that blames
what is at fault. -/
def FieldRule.Judges {α : Type} (rule : FieldRule) (read : Located → Except ConfigError α) : Prop :=
  ∀ l, Ends (fun _ => rule.Clears (some l.value)) (rule.Blames l.path (some l.value)) (read l)

namespace FieldRule

variable {α : Type} {read : Located → Except ConfigError α} {rule : FieldRule}
  {form : FieldForm} {value : Json} {path : FieldPath}

/-- Where nothing is inside, the value alone counts. -/
theorem clears_of_leaf (leaf : rule.form.isLeaf = true)
    (clean : ∀ fault, ¬ rule.form.Violates value fault) : rule.Clears (some value) := by
  refine clears_iff.2 ⟨.inl ?_, fun segment inner into => ?_⟩
  · rintro fault ⟨-, wrong⟩
    exact clean fault wrong
  · obtain ⟨form, optional⟩ := rule
    cases segment <;> cases form <;> cases leaf <;> cases into

/-- A field is judged as its reader judges it with its default. -/
theorem Judges.get (judges : rule.Judges read) (holds : rule.form.holdsSteps = false)
    (s : Section) (key : String) (defaults : Fields)
    (fine : ∀ path, ∃ a, read ⟨path, (defaults.get? key).getD .null⟩ = .ok a) :
    Ends (fun _ => (ofForm rule.form).Clears (s.fields.get? key))
      ((ofForm rule.form).Blames (s.path ++ [.key key]) (s.fields.get? key))
      (read (s.get key defaults)) := by
  have judged := (judges (s.get key defaults)).mono fun _ => Section.clears_of_get rfl holds
  refine Section.ends_of_get rfl judged fun default => ?_
  rw [default]
  exact fine _

/-- A value of a kind that its form does not have is blamed for that. -/
theorem blames_kind (required : rule.optional = false) (other : value.kind ∉ rule.form.kinds) :
    rule.Blames path (some value) (.field path (rule.form.mistyped value)) :=
  blames_here (.of_required required (.kind other))

end FieldRule

theorem Json.kind_number_ne {n : Number} {kinds : List Kind} (int : .int ∉ kinds)
    (float : .float ∉ kinds) : (Json.number n).kind ∉ kinds := by
  cases n with
  | int i => exact int
  | float x => exact float

namespace Located

open FieldRule

variable {α : Type} {form inner : FieldForm}

/-! ### Readers of one value -/

/-- A reader of texts takes a text, and blames all else for its kind. -/
theorem ends_string (form : FieldForm) (texts : form.kinds = [.string]) (l : Located) :
    Ends (fun s => l.value = .string s) (Blames ⟨form, false⟩ l.path (some l.value)) l.string := by
  obtain ⟨path, value⟩ := l
  have mistyped (found : Json) : form.mistyped found = .notString found := by
    cases form <;> first | rfl | cases texts
  have refused (found : Json) (other : found.kind ∉ [Json.Kind.string]) :
      Blames ⟨form, false⟩ path (some found) (.field path (.notString found)) := by
    rw [← mistyped]
    exact blames_kind rfl (texts ▸ other)
  cases value with
  | string s => exact .ok rfl
  | number n => exact .error (refused _ (Json.kind_number_ne (by decide) (by decide)))
  | _ => exact .error (refused _ (by simp [Json.kind]))

/-- A reader of numbers takes a number, and blames all else for its kind. -/
theorem ends_number (form : FieldForm) (numbers : form.kinds = [.int, .float]) (l : Located) :
    Ends (fun n => l.value = .number n) (Blames ⟨form, false⟩ l.path (some l.value)) l.number := by
  obtain ⟨path, value⟩ := l
  have mistyped (found : Json) : form.mistyped found = .notNumber found := by
    cases form <;> first | rfl | cases numbers
  have refused (found : Json) (other : found.kind ∉ [Json.Kind.int, .float]) :
      Blames ⟨form, false⟩ path (some found) (.field path (.notNumber found)) := by
    rw [← mistyped]
    exact blames_kind rfl (numbers ▸ other)
  cases value with
  | number n => exact .ok rfl
  | _ => exact .error (refused _ (by simp [Json.kind]))

theorem judges_string : Judges ⟨.text, false⟩ string := by
  intro l
  refine (ends_string _ rfl l).mono fun s value => ?_
  rw [value]
  refine clears_of_leaf rfl ?_
  rintro fault ⟨other⟩
  exact other List.mem_cons_self

theorem judges_number : Judges ⟨.number, false⟩ number := by
  intro l
  refine (ends_number _ rfl l).mono fun n value => ?_
  rw [value]
  refine clears_of_leaf rfl ?_
  rintro fault ⟨other⟩
  cases n with
  | int i => exact other List.mem_cons_self
  | float x => exact other (List.mem_cons_of_mem _ List.mem_cons_self)

theorem judges_boolean : Judges ⟨.boolean, false⟩ boolean := by
  rintro ⟨path, value⟩
  cases value with
  | bool b =>
      refine .ok (clears_of_leaf rfl ?_)
      rintro fault ⟨other⟩
      exact other List.mem_cons_self
  | number n => exact .error (blames_kind rfl (Json.kind_number_ne (by decide) (by decide)))
  | _ => exact .error (blames_kind rfl (by simp [Json.kind, FieldForm.kinds]))

theorem judges_readName : Judges ⟨.stem, false⟩ readName := by
  intro l
  refine (ends_string _ rfl l).bind fun name value => ?_
  rw [value]
  by_cases stem : isFileStem name = true
  · rw [if_pos stem]
    refine .pure (clears_of_leaf rfl ?_)
    rintro fault (⟨other⟩ | ⟨bad⟩)
    · exact other List.mem_cons_self
    · rw [stem] at bad
      cases bad
  · rw [if_neg stem]
    exact .error (blames_here (.of_required rfl (.stem (Bool.eq_false_iff.2 stem))))

/-- A reader that asks for a value only where one is given. -/
theorem judges_given {read : Located → Except ConfigError α}
    {read? : Located → Except ConfigError (Option α)} (judges : Judges ⟨form, false⟩ read)
    (holds : form.holdsSteps = false) (null : ∀ path, read? ⟨path, .null⟩ = .ok none)
    (given : ∀ path value, value ≠ .null → read? ⟨path, value⟩ = some <$> read ⟨path, value⟩) :
    Judges ⟨form, true⟩ read? := by
  rintro ⟨path, value⟩
  by_cases is_null : value = .null
  · subst is_null
    rw [null]
    exact .ok (clears_null holds rfl)
  · have same : (⟨form, true⟩ : FieldRule).form = (⟨form, false⟩ : FieldRule).form := rfl
    have other : some value ≠ some Json.null := fun h => is_null (Option.some.inj h)
    rw [given path value is_null]
    refine Ends.map ?_ fun _ clears => clears
    exact ((judges ⟨path, value⟩).mono fun _ => clears_of_form_eq same other).mono_error
      fun _ => blames_of_form_eq same other

theorem judges_string? : Judges ⟨.text, true⟩ string? := by
  refine judges_given judges_string rfl (fun _ => rfl) fun path value given => ?_
  cases value <;> first | rfl | exact absurd rfl given

theorem judges_number? : Judges ⟨.number, true⟩ number? := by
  refine judges_given judges_number rfl (fun _ => rfl) fun path value given => ?_
  cases value <;> first | rfl | exact absurd rfl given

/-! ### Readers of arrays -/

/-- Each item stands at the path with its index. -/
theorem getElem?_itemsFrom (path : FieldPath) (k : ℕ) (items : List Json) (i : ℕ) :
    (itemsFrom path k items)[i]? = items[i]?.map fun item => ⟨path ++ [.index (k + i)], item⟩ := by
  induction items generalizing k i with
  | nil => rfl
  | cons item rest ih =>
      cases i with
      | zero => rfl
      | succ i =>
          rw [itemsFrom, List.getElem?_cons_succ, List.getElem?_cons_succ, ih,
            Nat.add_right_comm k 1 i, Nat.add_assoc]

/-- The items of an array are read one after another, up to the first one at fault. -/
theorem ends_items {read : Located → Except ConfigError α} {rule : FieldRule} (good : Json → Prop)
    (each : ∀ l : Located,
      Ends (fun _ => good l.value) (rule.Blames l.path (some l.value)) (read l))
    (path : FieldPath) (items : List Json) :
    Ends (fun _ => ∀ item ∈ items, good item)
      (fun e => ∃ i item, items[i]? = some item ∧
        rule.Blames (path ++ [.index i]) (some item) e ∧
        ∀ j < i, ∀ item, items[j]? = some item → ∃ a, read ⟨path ++ [.index j], item⟩ = .ok a)
      ((itemsFrom path 0 items).mapM read) := by
  have place (i : ℕ) : (itemsFrom path 0 items)[i]?
      = items[i]?.map fun item => ⟨path ++ [.index i], item⟩ := by
    rw [getElem?_itemsFrom, Nat.zero_add]
  refine ((Ends.mapM_first fun l _ => each l).mono ?_).mono_error ?_
  · intro _ all item mem
    obtain ⟨i, at_i⟩ := List.mem_iff_getElem?.1 mem
    refine all ⟨path ++ [.index i], item⟩ (List.mem_iff_getElem?.2 ⟨i, ?_⟩)
    rw [place, at_i]
    rfl
  · rintro e ⟨i, l, at_i, wrong, before⟩
    obtain ⟨item, item_i, rfl⟩ := Option.map_eq_some_iff.1 (place i ▸ at_i)
    refine ⟨i, item, item_i, wrong, fun j less other at_j => ?_⟩
    exact before j less _ (by rw [place, at_j]; rfl)

theorem value_of_mapM_string {path : FieldPath} {k : ℕ} {items : List Json} {names : List Text}
    (h : (itemsFrom path k items).mapM string = .ok names) : items = names.map .string := by
  induction items generalizing k names with
  | nil =>
      obtain rfl := Except.ok.inj h
      rfl
  | cons item rest ih =>
      obtain ⟨name, others, first, later, rfl⟩ := mapM_cons_eq_ok.1 h
      have here : item = .string name := (ends_string .text rfl _).of_ok first
      rw [List.map_cons, ← ih later, ← here]

/-- An array is let pass if all of its items are. -/
theorem clears_array {rule : FieldRule} {items : List Json} (array : rule.form.item? = some inner)
    (holds : inner.holdsSteps = false)
    (clean : ∀ fault, ¬ rule.form.Violates (.array items) fault)
    (each : ∀ item ∈ items, Clears ⟨inner, false⟩ (some item)) :
    rule.Clears (some (.array items)) := by
  refine clears_iff.2 ⟨.inl ?_, fun segment place leads => ?_⟩
  · rintro fault ⟨-, wrong⟩
    exact clean fault wrong
  · obtain ⟨form, optional⟩ := rule
    cases segment with
    | key key => cases form <;> cases array <;> cases leads
    | index i =>
        obtain ⟨_, same, rfl⟩ := Option.map_eq_some_iff.1 leads
        obtain rfl := Option.some.inj (array.symm.trans same)
        cases found : items[i]? with
        | none =>
            have nothing : (some (Json.array items)).bind (Segment.enter? (.index i)) = none :=
              found
            rw [nothing]
            exact clears_none holds
        | some item =>
            have here : (some (Json.array items)).bind (Segment.enter? (.index i)) = some item :=
              found
            rw [here]
            exact each item (List.mem_of_getElem? found)

/-- An item of an array is at fault. -/
theorem blames_item {rule : FieldRule} {path : FieldPath} {items : List Json} {i : ℕ} {item : Json}
    {e : ConfigError} (array : rule.form.item? = some inner) (at_i : items[i]? = some item)
    (h : Blames ⟨inner, false⟩ (path ++ [.index i]) (some item) e) :
    rule.Blames path (some (.array items)) e := by
  have into : rule.inside? (.index i) = some ⟨inner, false⟩ := by
    rw [inside?, array]
    rfl
  have here : (some (Json.array items)).bind (Segment.enter? (.index i)) = some item := at_i
  exact blames_inside into (here ▸ h)

/-- A reader of lists takes a list of texts, and blames the first item that is none. -/
theorem ends_strings (form : FieldForm) (array : form.item? = some inner)
    (texts : inner.kinds = [.string]) (l : Located) :
    Ends (fun names => l.value = .array (names.map .string))
      (Blames ⟨form, false⟩ l.path (some l.value)) l.strings := by
  obtain ⟨path, value⟩ := l
  have mistyped (found : Json) :
      form.mistyped found = .notArray found.kind ∧ form.kinds = [.array] := by
    cases form <;> cases array <;> first | exact ⟨rfl, rfl⟩ | cases texts
  have refused (found : Json) (other : found.kind ∉ [Json.Kind.array]) :
      Blames ⟨form, false⟩ path (some found) (.field path (.notArray found.kind)) := by
    rw [← (mistyped found).1]
    exact blames_kind rfl ((mistyped found).2 ▸ other)
  cases value with
  | array items =>
      have each (l : Located) : Ends (fun _ => True) (Blames ⟨inner, false⟩ l.path (some l.value))
          l.string := (ends_string _ texts l).mono fun _ _ => trivial
      refine ((ends_items (fun _ => True) each path items).and_eq.mono ?_).mono_error ?_
      · rintro names ⟨-, read⟩
        exact congrArg Json.array (value_of_mapM_string read)
      · rintro e ⟨i, item, at_i, wrong, -⟩
        exact blames_item array at_i wrong
  | number n => exact .error (refused _ (Json.kind_number_ne (by decide) (by decide)))
  | _ => exact .error (refused _ (by simp [Json.kind]))

theorem judges_strings : Judges ⟨.texts, false⟩ strings := by
  intro l
  refine (ends_strings _ rfl rfl l).mono fun names value => ?_
  rw [value]
  refine clears_array rfl rfl ?_ fun item mem => ?_
  · rintro fault ⟨other⟩
    exact other List.mem_cons_self
  · obtain ⟨name, -, rfl⟩ := List.mem_map.1 mem
    exact (judges_string ⟨[], .string name⟩).of_ok rfl

end Located

/-! ### Readers of objects -/

namespace ObjectForm

open FieldRule

variable {α : Type} {o : ObjectForm} {s : Section} {fields : Fields}

/-- The fields of an object are let pass, with all that is inside. -/
def Clears (o : ObjectForm) (fields : Fields) : Prop :=
  ∀ field ∈ o.fields, (ofForm field.2).Clears (fields.get? field.1)

/-- A field of an object is at fault, and the error says so. -/
def Blames (o : ObjectForm) (s : Section) (e : ConfigError) : Prop :=
  ∃ field ∈ o.fields,
    (ofForm field.2).Blames (s.path ++ [.key field.1]) (s.fields.get? field.1) e

/-- The reader of an object judges all of its fields. -/
def Judges (o : ObjectForm) (read : Section → Except ConfigError α) : Prop :=
  ∀ s, Ends (fun _ => o.Clears s.fields) (o.Blames s) (read s)

/-- An object is let pass if its fields are. -/
theorem Clears.object {rule : FieldRule} (same : rule.form = .object o) (h : o.Clears fields) :
    rule.Clears (some (.object fields)) := by
  obtain ⟨form, optional⟩ := rule
  obtain rfl : form = .object o := same
  refine clears_iff.2 ⟨.inl ?_, fun segment place leads => ?_⟩
  · rintro fault ⟨-, ⟨other⟩⟩
    exact other List.mem_cons_self
  · cases segment with
    | key key =>
        obtain ⟨form, field, rfl⟩ := Option.map_eq_some_iff.1 leads
        exact h (key, form) (mem_of_field? field)
    | index i => cases leads

theorem Blames.object {rule : FieldRule} {path : FieldPath} {e : ConfigError}
    (same : rule.form = .object o) (h : o.Blames ⟨path, fields⟩ e) :
    rule.Blames path (some (.object fields)) e := by
  obtain ⟨form, optional⟩ := rule
  obtain rfl : form = .object o := same
  obtain ⟨field, mem, wrong⟩ := h
  have into : (⟨.object o, optional⟩ : FieldRule).inside? (.key field.1) = some (ofForm field.2) :=
    congrArg (Option.map ofForm) (field?_of_mem mem)
  exact blames_inside into wrong

/-- A section is judged by its fields. -/
theorem Judges.section? {read : Section → Except ConfigError α} (h : o.Judges read) :
    FieldRule.Judges ⟨.object o, false⟩ fun l => l.section? >>= read := by
  rintro ⟨path, value⟩
  cases value with
  | object fields =>
      exact ((h ⟨path, fields⟩).mono fun _ clears => clears.object rfl).mono_error
        fun _ blames => blames.object rfl
  | number n => cases n <;> exact .error (blames_kind rfl (by simp [Json.kind, FieldForm.kinds]))
  | _ => exact .error (blames_kind rfl (by simp [Json.kind, FieldForm.kinds]))

/-- Nothing is inside a blank value. -/
theorem enter?_of_isBlank {value : Json} (blank : value.isBlank = true) (segment : Segment) :
    segment.enter? value = none := by
  cases segment <;> cases value <;> first | rfl | skip
  · cases List.isEmpty_iff.1 blank
    rfl
  · cases List.isEmpty_iff.1 blank
    rfl

/-- A section that may be blank is judged by its fields, of which all may be absent. -/
theorem Judges.sectionOrEmpty {read : Section → Except ConfigError α} (h : o.Judges read)
    (blank : (FieldForm.object o).mayBeBlank = true) (fine : ∀ path, ∃ a, read ⟨path, []⟩ = .ok a) :
    FieldRule.Judges ⟨.object o, false⟩ fun l => l.sectionOrEmpty >>= read := by
  rintro ⟨path, value⟩
  simp only [Located.sectionOrEmpty]
  split
  · rename_i is_blank
    obtain ⟨a, ends⟩ := fine path
    rw [ok_bind, ends]
    refine .ok (clears_of_empty ?_ (.inr ⟨blank, value, rfl, is_blank⟩) fun segment _ _ => ?_)
    · cases o <;> first | rfl | cases blank
    · exact enter?_of_isBlank is_blank segment
  · exact h.section? ⟨path, value⟩

/-- A field is judged with its default, by the reader for its form. -/
theorem ends_get {rule : FieldRule} {read : Located → Except ConfigError α}
    (judges : rule.Judges read) (key : String) (mem : (key, rule.form) ∈ o.fields)
    (holds : rule.form.holdsSteps = false) (defaults : Fields)
    (fine : ∀ path, ∃ a, read ⟨path, (defaults.get? key).getD .null⟩ = .ok a) :
    Ends (fun _ => (ofForm rule.form).Clears (s.fields.get? key)) (o.Blames s)
      (read (s.get key defaults)) :=
  (judges.get holds s key defaults fine).mono_error fun _ blames => ⟨_, mem, blames⟩

end ObjectForm

end TerminalReel
