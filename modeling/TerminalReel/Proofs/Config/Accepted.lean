import TerminalReel.Proofs.Config.Verdict
/-!
# TerminalReel.Proofs.Config.Accepted

What an **accepted configuration** is, beside being well typed.

Its name is a file stem, and the kinds of files are those of the document without the
skipped ones, each of which is reported. Its sizes are positive as far as a comparison
can tell: the reader refuses a size that is zero or less, and a nan is not zero or less.
-/

namespace TerminalReel

namespace Number

/-- Every number has a place but the one that is none. -/
theorem place?_eq_none_iff {n : Number} : n.place? = none ↔ n = .float .nan := by
  cases n with
  | int n => exact iff_of_false (Option.some_ne_none _) (by simp)
  | float x =>
      cases x with
      | nan => exact iff_of_true rfl rfl
      | infinite negative =>
          cases negative <;> exact iff_of_false (Option.some_ne_none _) (by simp)
      | finite negative m => exact iff_of_false (Option.some_ne_none _) (by simp)

/-- Of two numbers that lie on the line, one lies left of the other unless the other
lies left of it or in the same place. -/
theorem lt_of_le_eq_false {a b : Number} (left : a ≠ .float .nan) (right : b ≠ .float .nan)
    (h : a.le b = false) : b.lt a = true := by
  rw [Ne, ← place?_eq_none_iff, ← Ne, Option.ne_none_iff_exists'] at left right
  obtain ⟨p, at_p⟩ := left
  obtain ⟨q, at_q⟩ := right
  rw [le, compares, at_p, at_q] at h
  rw [lt, compares, at_p, at_q]
  simpa [Place.le] using h

theorem lt_nan (n : Number) : n.lt (.float .nan) = false := by
  rw [lt, compares, place?_eq_none_iff.2 rfl]
  cases n.place? <;> rfl

/-- A number that is not zero or less is positive or nan. -/
theorem pos_iff_ne_nan {n : Number} (h : n.le 0 = false) :
    (0 : Number).lt n = true ↔ n ≠ .float .nan := by
  constructor
  · intro positive nan
    rw [nan, lt_nan] at positive
    cases positive
  · intro on_line
    exact lt_of_le_eq_false on_line (by decide) h

end Number

/-! ### Kinds of files -/

/-- An output is the one that is named. -/
theorem OutputKind.name_of_ofName? {name : Text} {kind : OutputKind}
    (h : OutputKind.ofName? name = some kind) : name = Text.ofString kind.name := by
  have named := List.find?_some h
  exact (of_decide_eq_true named).symm

namespace Attempt

variable {ε α β : Type} {a : α}

/-- What a part reports stands before what is reported after it. -/
theorem entries_bind {x : Attempt ε α} (h : x.outcome = .ok a) (f : α → Attempt ε β) :
    (x >>= f).entries = x.entries ++ (f a).entries := by
  obtain ⟨entries, value⟩ := x
  obtain rfl : value = .ok a := h
  rfl

theorem entries_ofExcept_bind {x : Except ε α} (h : x = .ok a) (f : α → Attempt ε β) :
    (ofExcept x >>= f).entries = (f a).entries := by
  subst h
  rfl

end Attempt

/-- What is reported for each name that is skipped. -/
def skippedEntry : LogEntry := ⟨.warning, .config, skippedOutputReport⟩

/-- The kinds that are read are those of the names, in their order and as often as they
are named, without the skipped ones; these are reported, one by one. -/
theorem readOutputs_eq_ok {path : FieldPath} {k : Nat} {names : List Text}
    {outputs : List OutputKind} (h : (readOutputs path k names).outcome = .ok outputs) :
    outputs.map (fun kind => Text.ofString kind.name)
        = names.filter (· ≠ Text.ofString skippedOutput) ∧
      (readOutputs path k names).entries
        = List.replicate (names.count (Text.ofString skippedOutput)) skippedEntry := by
  induction names generalizing k outputs with
  | nil =>
      obtain rfl := Except.ok.inj h
      exact ⟨rfl, rfl⟩
  | cons name rest ih =>
      rw [readOutputs] at h ⊢
      by_cases skipped : name = skippedOutput
      · rw [if_pos skipped] at h ⊢
        rw [Attempt.outcome_bind, Attempt.outcome_log, ok_bind] at h
        obtain ⟨kept, reported⟩ := ih h
        refine ⟨?_, ?_⟩
        · rw [kept, List.filter_cons_of_neg (by simp [skipped])]
        · rw [Attempt.entries_bind (Attempt.outcome_log ..), reported, skipped,
            List.count_cons_self, List.replicate_succ]
          rfl
      · rw [if_neg skipped] at h ⊢
        cases made : OutputKind.ofName? name with
        | none =>
            rw [made] at h
            cases h
        | some kind =>
            rw [made] at h
            simp only [Attempt.outcome_bind, Attempt.outcome_pure, bind_eq_ok] at h
            obtain ⟨others, read, last⟩ := h
            obtain rfl := Except.ok.inj last
            obtain ⟨kept, reported⟩ := ih read
            refine ⟨?_, ?_⟩
            · rw [List.map_cons, kept, List.filter_cons_of_pos (by simpa using skipped),
                ← OutputKind.name_of_ofName? made]
            · simp only
              rw [Attempt.entries_bind read, reported, List.count_cons_of_ne skipped]
              simp [Attempt.entries]

/-! ### The whole configuration -/

namespace Config

/-- The sizes, in the order in which they are checked. -/
def sizes (config : Config) : List Number := [config.width, config.height, config.charWidth]

/-- The document asks for these kinds of files by their names, or leaves that to the
default. -/
def Requests (document : Json) (names : List Text) : Prop :=
  ∃ fields : Fields, document = .object fields ∧
    fields.getOr Config.defaults "outputTypes" = .array (names.map .string)

/-- The kinds of files are read from what the document asks for, and nothing but them is
reported. -/
theorem exists_requests {document : Json} {config : Config}
    (h : (Config.ofJson document).outcome = .ok config) : ∃ names, Requests document names ∧
      (readOutputs [.key "outputTypes"] 0 names).outcome = .ok config.outputs ∧
      (Config.ofJson document).entries = (readOutputs [.key "outputTypes"] 0 names).entries := by
  cases document with
  | object fields =>
      have read := h
      simp only [Config.ofJson, Attempt.outcome_bind, Attempt.outcome_ofExcept, bind_eq_ok,
        pure_eq_ok] at read
      obtain ⟨s, opened, steps, stepped, names, asked, outputs, read, _, -, _, -, _, -, _, -,
        ⟨⟩, -, ⟨⟩, -, ⟨⟩, -, _, -, _, -, _, -, _, -, _, -, _, -, _, -, _, -, rfl⟩ := read
      obtain rfl := Except.ok.inj opened
      refine ⟨names, ⟨fields, rfl, ends_requested.of_ok asked⟩, read, ?_⟩
      rw [Config.ofJson, Attempt.entries_ofExcept_bind opened,
        Attempt.entries_ofExcept_bind stepped, Attempt.entries_ofExcept_bind asked,
        Attempt.entries_bind read, Attempt.entries_ofExcept, List.append_nil]
      rfl
  | _ => cases h

/-- An accepted configuration is in range. Its sizes are positive unless they are nan, its
name is a file stem, and it has the kinds of files that the document asks for without the
skipped ones, with one warning for each of these and no other report. -/
theorem isInRange_of_ofJson {document : Json} {config : Config}
    (h : (Config.ofJson document).outcome = .ok config) :
    (∀ size ∈ config.sizes, (0 : Number).lt size = true ↔ size ≠ .float .nan) ∧
      (config.name.points ≠ [] ∧ .char '/' ∉ config.name.points ∧
        .char '\\' ∉ config.name.points) ∧
      ∃ names, Requests document names ∧
        config.outputs.map (fun kind => Text.ofString kind.name)
          = names.filter (· ≠ Text.ofString skippedOutput) ∧
        (Config.ofJson document).entries
          = List.replicate (names.count (Text.ofString skippedOutput)) skippedEntry := by
  obtain ⟨stem, wide, high, spaced⟩ := isReadable_of_ofJson h
  obtain ⟨names, requested, read, reported⟩ := exists_requests h
  obtain ⟨kept, warned⟩ := readOutputs_eq_ok read
  refine ⟨?_, ?_, names, requested, kept, reported.trans warned⟩
  · simp only [sizes, List.forall_mem_cons]
    exact ⟨Number.pos_iff_ne_nan wide, Number.pos_iff_ne_nan high, Number.pos_iff_ne_nan spaced,
      List.forall_mem_nil _⟩
  · simpa [isFileStem, Text.isEmpty, and_assoc] using stem

/-- A document that asks for a skipped kind between two others, and whose width is nan. -/
def unsized : Json :=
  .object [("steps", .array []), ("outputTypes", .array ["svg", "gif", "svg"]),
    ("width", Number.float .nan), ("height", Number.float (.infinite false))]

theorem isInRange_of_ofJson_unsized : ∃ config, (Config.ofJson unsized).outcome = .ok config ∧
    (0 : Number).lt config.height = true ∧
    config.outputs.map (fun kind => Text.ofString kind.name) = ["svg", "svg"] ∧
    (Config.ofJson unsized).entries = [skippedEntry] := by
  have accepted : (Config.ofJson unsized).outcome.toOption.any
      (fun config => decide (config.height = .float (.infinite false))) = true := by
    decide +kernel
  obtain ⟨config, read, tall⟩ := exists_of_any accepted
  obtain ⟨sizes, -, names, ⟨fields, object, asked⟩, kept, warned⟩ := isInRange_of_ofJson read
  obtain rfl := Json.object.inj object
  have listed : Json.array (["svg", "gif", "svg"].map .string) = .array (names.map .string) := asked
  obtain rfl := List.map_injective_iff.2 (fun _ _ => Json.string.inj) (Json.array.inj listed)
  refine ⟨config, read, (sizes config.height (by simp [Config.sizes])).2 ?_, kept, warned⟩
  rw [of_decide_eq_true tall]
  decide

/-- A width of nan is accepted, and it is not positive. -/
theorem not_isInRange_unsized : ∃ config, (Config.ofJson unsized).outcome = .ok config ∧
    config.width = .float .nan ∧ (0 : Number).lt config.width = false := by
  have accepted : (Config.ofJson unsized).outcome.toOption.any
      (fun config => decide (config.width = .float .nan)) = true := by
    decide +kernel
  obtain ⟨config, read, nan⟩ := exists_of_any accepted
  have nan := of_decide_eq_true nan
  exact ⟨config, read, nan, by rw [nan, Number.lt_nan]⟩

end Config

end TerminalReel
