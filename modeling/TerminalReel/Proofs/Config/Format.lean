import TerminalReel.Config.Reader
import TerminalReel.Proofs.Association
import TerminalReel.Proofs.Numeric.Numeral
/-!
# TerminalReel.Proofs.Config.Format

The **format of configuration documents**, as its users are told it: which fields an
object has, what each of them holds, and when what is found there is at fault.

The format is a table. It does not say in which order fields are read, where defaults
come from, or what else is let pass; the reader is compared with it elsewhere. A field
that is absent or null is no fault, except for the steps. The items of an array are no
fields: each of them must be there and be what it is said to be.
-/

namespace TerminalReel

/-! ### Fields -/

/-- The objects of a document. -/
inductive ObjectForm
  | config
  | colors
  | step
  | prompt
  | timing
  | position
  deriving DecidableEq

/-- What a place of a document holds. -/
inductive FieldForm
  /-- Any string. -/
  | text
  /-- The stem of a file's name. -/
  | stem
  /-- The name of a kind of file. -/
  | output
  | number
  /-- A number that is greater than zero. -/
  | size
  | boolean
  /-- An array of strings. -/
  | texts
  /-- An array of names of kinds of files. -/
  | outputs
  /-- An array of steps. -/
  | steps
  /-- An object of this form. -/
  | object (o : ObjectForm)
  deriving DecidableEq

namespace ObjectForm

/-- The fields that an object may have; others are not looked at. -/
def fields : ObjectForm → List (String × FieldForm)
  | config =>
    [("width", .size), ("height", .size), ("charWidth", .size), ("fontFamily", .text),
     ("fontSize", .number), ("loop", .boolean), ("embed", .boolean), ("name", .stem),
     ("outputDirectory", .text), ("outputTypes", .outputs), ("colors", .object .colors),
     ("steps", .steps)]
  | colors =>
    [("bg", .text), ("terminalLines", .text), ("user", .text), ("host", .text),
     ("symbol", .text), ("command", .text), ("path", .text)]
  | step =>
    [("terminalLines", .texts), ("command", .text), ("shellPrompt", .object .prompt),
     ("timing", .object .timing), ("position", .object .position)]
  | prompt => [("user", .text), ("host", .text), ("symbol", .text), ("path", .text)]
  | timing => [("start", .number), ("perChar", .number), ("hold", .number)]
  | position => [("promptX", .number), ("commandX", .number)]

/-- What the fields of an object hold where they say nothing themselves. -/
def defaults : ObjectForm → Fields
  | config => Config.defaults
  | colors => Colors.defaults
  | step => Step.defaults
  | prompt => Prompt.defaults
  | timing => Timing.defaults
  | position => []

/-- What the field of this name holds. -/
def field? (o : ObjectForm) (key : String) : Option FieldForm := o.fields.lookup key

end ObjectForm

namespace FieldForm

/-- The kinds of values that a place may hold. -/
def kinds : FieldForm → List Json.Kind
  | text | stem | output => [.string]
  | number | size => [.int, .float]
  | boolean => [.bool]
  | texts | outputs | steps => [.array]
  | object _ => [.object]

/-- What the items of an array hold. -/
def item? : FieldForm → Option FieldForm
  | texts => some text
  | outputs => some output
  | steps => some (object .step)
  | _ => none

/-- What is said of a value that is of no such kind. -/
def mistyped (found : Json) : FieldForm → FieldFault
  | text | stem | output => .notString found
  | number | size => .notNumber found
  | boolean => .notBoolean found
  | texts | outputs => .notArray found.kind
  | steps => .noSteps
  | object _ => .notObject found.kind

/-- A value that is given in this place is at fault. -/
inductive Violates : FieldForm → Json → FieldFault → Prop
  | kind {form : FieldForm} {found : Json} (other : found.kind ∉ form.kinds) :
      Violates form found (form.mistyped found)
  | stem {name : Text} (bad : isFileStem name = false) :
      Violates .stem (.string name) (.notStem name)
  | output {name : Text} (made : OutputKind.ofName? name = none)
      (skipped : name ≠ skippedOutput) : Violates .output (.string name) (.unknownOutput name)
  | size {n : Number} (small : n.le 0 = true) : Violates .size (.number n) (.notPositive n)

end FieldForm

/-! ### Places -/

/-- What the format asks of a place of a document. -/
structure FieldRule where
  form : FieldForm
  /-- Absent and null are no faults. -/
  optional : Bool

namespace FieldRule

/-- The rule of the whole document. -/
def root : FieldRule := ⟨.object .config, false⟩

/-- The rule of a field. -/
def ofForm (form : FieldForm) : FieldRule := ⟨form, form ≠ .steps⟩

/-- The rule of the place that is one step inside. -/
def inside? (rule : FieldRule) : Segment → Option FieldRule
  | .key key =>
    match rule.form with
    | .object o => (o.field? key).map ofForm
    | _ => none
  | .index _ => rule.form.item?.map fun form => ⟨form, false⟩

/-- The rule of the place that a path leads to. -/
def at? (rule : FieldRule) : FieldPath → Option FieldRule
  | [] => some rule
  | segment :: path => do at? (← rule.inside? segment) path

/-- What is found in a place of this rule is at fault. -/
inductive Violates (rule : FieldRule) : Option Json → FieldFault → Prop
  | given {found : Json} {fault : FieldFault} (required : rule.optional = true → found ≠ .null)
      (wrong : rule.form.Violates found fault) : Violates rule (some found) fault
  | noSteps (steps : rule.form = .steps) : Violates rule none .noSteps

theorem Violates.of_required {rule : FieldRule} {found : Json} {fault : FieldFault}
    (required : rule.optional = false) (wrong : rule.form.Violates found fault) :
    rule.Violates (some found) fault :=
  .given (fun optional => absurd (required.symm.trans optional) Bool.false_ne_true) wrong

end FieldRule

/-! ### Written paths -/

/-- The character begins a further step of a written path. -/
def beginsSegment (c : Char) : Bool := c == '.' || c == '['

namespace Segment

/-- A step as it is written, without the character that begins it. -/
def word : Segment → List Char
  | key name => name.toList
  | index i => Nat.toDigits 10 i ++ [']']

/-- The step that is written so. -/
def ofWord (word : List Char) : Segment :=
  if word.getLast? = some ']' then index (digitsValue word.dropLast)
  else key (String.ofList word)

/-- The step is an index, or a name in which no other step begins or ends. -/
def isPlain : Segment → Bool
  | key name => name.toList.all fun c => !beginsSegment c && c != ']'
  | index _ => true

theorem beginsSegment_of_mem_word {segment : Segment} (plain : segment.isPlain = true) {c : Char}
    (mem : c ∈ segment.word) : beginsSegment c = false := by
  cases segment with
  | key name =>
      have each := List.all_eq_true.1 plain c mem
      simp only [Bool.and_eq_true, Bool.not_eq_true'] at each
      exact each.1
  | index i =>
      rcases List.mem_append.1 mem with digit | closing
      · have digit := isDigit_of_mem_toDigits digit
        rw [beginsSegment, Bool.or_eq_false_iff]
        constructor
        · exact beq_eq_false_iff_ne.2 fun same => by subst same; cases digit
        · exact beq_eq_false_iff_ne.2 fun same => by subst same; cases digit
      · obtain rfl := List.mem_singleton.1 closing
        rfl

/-- A segment is told from its word. -/
theorem ofWord_word {segment : Segment} (plain : segment.isPlain = true) :
    ofWord segment.word = segment := by
  cases segment with
  | key name =>
      have other : name.toList.getLast? ≠ some ']' := by
        intro last
        have closing := List.all_eq_true.1 plain ']' (List.mem_of_getLast? last)
        cases closing
      rw [ofWord, word, if_neg other, String.ofList_toList]
  | index i =>
      rw [ofWord, word, if_pos List.getLast?_concat, List.dropLast_concat, digitsValue_toDigits]

end Segment

namespace FieldPath

/-- The path that is written so: `config` is the root, a dot or the path's beginning
leads to a field, and brackets lead to an item. -/
def read (text : String) : FieldPath :=
  if text = "config" then []
  else (text.toList.splitOnP beginsSegment).map Segment.ofWord

/-- What follows in a path begins with a mark that stands in no word. -/
theorem toList_tail_cons (segment : Segment) (rest : FieldPath) : ∃ c, beginsSegment c = true ∧
    (tail (segment :: rest)).toList = c :: (segment.word ++ (tail rest).toList) := by
  cases segment with
  | key name => exact ⟨'.', rfl, by simp [tail, Segment.word]⟩
  | index i => exact ⟨'[', rfl, by simp [tail, Segment.word, toString, Nat.repr]⟩

/-- The words of a written path are those of its steps. -/
theorem splitOnP_word_append {segment : Segment} {rest : FieldPath}
    (plain : ∀ s ∈ segment :: rest, s.isPlain = true) :
    (segment.word ++ (tail rest).toList).splitOnP beginsSegment
      = (segment :: rest).map Segment.word := by
  induction rest generalizing segment with
  | nil =>
      have here := List.forall_mem_singleton.1 plain
      rw [tail, String.toList_empty, List.append_nil]
      exact List.splitOnP_eq_singleton fun c mem => Segment.beginsSegment_of_mem_word here mem
  | cons next rest ih =>
      obtain ⟨here, there⟩ := List.forall_mem_cons.1 plain
      obtain ⟨c, separates, written⟩ := toList_tail_cons next rest
      rw [written, List.splitOnP_append_cons_of_forall_mem
        (fun c mem => Segment.beginsSegment_of_mem_word here mem) c separates, ih there,
        List.map_cons, List.map_cons, List.map_cons]

/-- The segments of a path are told apart in its text, at the marks that begin them. -/
theorem read_text_cons {name : String} {rest : FieldPath} (other : name ≠ "config")
    (plain : ∀ s ∈ Segment.key name :: rest, s.isPlain = true) :
    read (text (.key name :: rest)) = .key name :: rest := by
  have words : (text (.key name :: rest)).toList.splitOnP beginsSegment
      = (Segment.key name :: rest).map Segment.word := by
    rw [text, String.toList_append]
    exact splitOnP_word_append plain
  have not_root : text (.key name :: rest) ≠ "config" := by
    intro same
    have plain_root : (Segment.key "config").isPlain = true := rfl
    have root_word : "config".toList.splitOnP beginsSegment = ["config".toList] :=
      List.splitOnP_eq_singleton fun _ => Segment.beginsSegment_of_mem_word plain_root
    rw [same, root_word, List.map_cons] at words
    exact other (String.toList_inj.1 (List.cons.inj words).1).symm
  rw [read, if_neg not_root, words, List.map_map]
  calc (Segment.key name :: rest).map (Segment.ofWord ∘ Segment.word)
      = (Segment.key name :: rest).map id :=
        List.map_congr_left fun s mem => Segment.ofWord_word (plain s mem)
    _ = Segment.key name :: rest := List.map_id _

end FieldPath

/-! ### The paths of the format -/

theorem ObjectForm.mem_of_field? {o : ObjectForm} {key : String} {form : FieldForm}
    (found : o.field? key = some form) : (key, form) ∈ o.fields := mem_of_lookup found

/-- No field is listed twice. -/
theorem ObjectForm.field?_of_mem {o : ObjectForm} {field : String × FieldForm}
    (mem : field ∈ o.fields) : o.field? field.1 = some field.2 := by
  cases o <;> revert field <;> decide

/-- No name of a field reads as something else in a written path. -/
theorem ObjectForm.isPlain_of_field? {o : ObjectForm} {key : String} {form : FieldForm}
    (found : o.field? key = some form) :
    (Segment.key key).isPlain = true ∧ key ≠ "config" ∧ key ≠ "" := by
  have each : ∀ field ∈ o.fields,
      (Segment.key field.1).isPlain = true ∧ field.1 ≠ "config" ∧ field.1 ≠ "" := by
    cases o <;> decide
  exact each _ (mem_of_field? found)

namespace FieldRule

variable {rule inner found : FieldRule} {segment : Segment} {path : FieldPath}

theorem at?_cons : rule.at? (segment :: path) = (rule.inside? segment).bind (·.at? path) := rfl

theorem isPlain_of_inside? (h : rule.inside? segment = some inner) : segment.isPlain = true := by
  cases segment with
  | index i => rfl
  | key key =>
      rw [inside?] at h
      split at h
      · obtain ⟨form, h, -⟩ := Option.map_eq_some_iff.1 h
        exact (ObjectForm.isPlain_of_field? h).1
      · cases h

/-- Only plain segments lead into a document of the format. -/
theorem isPlain_of_at? (h : rule.at? path = some found) : ∀ s ∈ path, s.isPlain = true := by
  induction path generalizing rule with
  | nil => exact List.forall_mem_nil _
  | cons segment path ih =>
      obtain ⟨inner, here, there⟩ := Option.bind_eq_some_iff.1 (at?_cons ▸ h)
      exact List.forall_mem_cons.2 ⟨isPlain_of_inside? here, ih there⟩

/-- Only the root's rule has a path that does not begin with a field. -/
theorem path_cases (h : root.at? path = some found) :
    path = [] ∨ ∃ key form rest, ObjectForm.config.field? key = some form ∧
      path = .key key :: rest := by
  cases path with
  | nil => exact .inl rfl
  | cons segment rest =>
      obtain ⟨inner, here, -⟩ := Option.bind_eq_some_iff.1 (at?_cons ▸ h)
      cases segment with
      | index i => cases here
      | key key =>
          obtain ⟨form, field, -⟩ := Option.map_eq_some_iff.1 here
          exact .inr ⟨key, form, rest, field, rfl⟩

/-- A path of the format is read off the text it is written as. -/
theorem read_text (h : root.at? path = some found) : FieldPath.read path.text = path := by
  rcases path_cases h with rfl | ⟨key, form, rest, field, rfl⟩
  · rfl
  · exact FieldPath.read_text_cons (ObjectForm.isPlain_of_field? field).2.1 (isPlain_of_at? h)

theorem text_ne_empty (h : root.at? path = some found) : path.text ≠ "" := by
  rcases path_cases h with rfl | ⟨key, form, rest, field, rfl⟩
  · decide
  · intro empty
    exact (ObjectForm.isPlain_of_field? field).2.2 (String.append_eq_empty_iff.1 empty).1

end FieldRule

end TerminalReel
