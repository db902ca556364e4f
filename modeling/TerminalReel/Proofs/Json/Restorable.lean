import TerminalReel.Proofs.Association
import TerminalReel.Proofs.Json.Strings
/-!
# TerminalReel.Proofs.Json.Restorable

Documents that **come back from their text**.

What has no text, or not one that is read, is a whole number with too many digits, a
surrogate by itself and a key that stands twice. Putting fields together from parts
without these makes no document with them.
-/

namespace TerminalReel

namespace Json

mutual

/-- The document comes back from its text: its whole numbers may be written, its
strings have no surrogate by itself, and no object has a key twice. -/
def isRestorable : Json → Bool
  | .number n => n.isWritable
  | .string s => s.isScalar
  | .array items => areRestorable items
  | .object fields => decide (fields.map Prod.fst).Nodup && fieldsAreRestorable fields
  | _ => true

/-- Each of the items comes back. -/
def areRestorable : List Json → Bool
  | [] => true
  | item :: rest => item.isRestorable && areRestorable rest

/-- Each of the fields comes back. -/
def fieldsAreRestorable : List (Text × Json) → Bool
  | [] => true
  | (key, value) :: rest => key.isScalar && value.isRestorable && fieldsAreRestorable rest

end

theorem areRestorable_append {items more : List Json} :
    areRestorable (items ++ more) = (areRestorable items && areRestorable more) := by
  induction items with
  | nil => exact (Bool.true_and _).symm
  | cons item rest ih => rw [List.cons_append, areRestorable, areRestorable, ih, Bool.and_assoc]

theorem fieldsAreRestorable_iff {fields : Fields} :
    fieldsAreRestorable fields = true ↔
      ∀ field ∈ fields, field.1.isScalar = true ∧ field.2.isRestorable = true := by
  induction fields with
  | nil => simp [fieldsAreRestorable]
  | cons field rest ih => simp [fieldsAreRestorable, ih]

/-- An object comes back if no key stands in it twice and every field comes back. -/
theorem isRestorable_object_iff {fields : Fields} :
    (Json.object fields).isRestorable = true ↔ (fields.map Prod.fst).Nodup ∧
      ∀ field ∈ fields, field.1.isScalar = true ∧ field.2.isRestorable = true := by
  rw [isRestorable, Bool.and_eq_true, decide_eq_true_iff, fieldsAreRestorable_iff]

mutual

/-- What comes back has no number with too many digits. -/
theorem isWritable_of_isRestorable : ∀ {value : Json}, value.isRestorable = true →
    value.isWritable = true
  | .null, _ | .bool _, _ | .string _, _ => rfl
  | .number _, h => h
  | .array _, h => areWritable_of_areRestorable h
  | .object _, h => fieldsAreWritable_of_fieldsAreRestorable (Bool.and_eq_true_iff.1 h).2

theorem areWritable_of_areRestorable : ∀ {items : List Json}, areRestorable items = true →
    areWritable items = true
  | [], _ => rfl
  | _ :: _, h =>
    have each := Bool.and_eq_true_iff.1 h
    Bool.and_eq_true_iff.2
      ⟨isWritable_of_isRestorable each.1, areWritable_of_areRestorable each.2⟩

theorem fieldsAreWritable_of_fieldsAreRestorable : ∀ {fields : List (Text × Json)},
    fieldsAreRestorable fields = true → fieldsAreWritable fields = true
  | [], _ => rfl
  | (_, _) :: _, h =>
    have each := Bool.and_eq_true_iff.1 h
    Bool.and_eq_true_iff.2 ⟨isWritable_of_isRestorable (Bool.and_eq_true_iff.1 each.1).2,
      fieldsAreWritable_of_fieldsAreRestorable each.2⟩

end

end Json

/-! ### Fields that are set and found -/

namespace Fields

variable {fields : Fields} {key : Text} {value : Json}

/-- A field of an object that comes back comes back. -/
theorem isRestorable_of_get? (h : (Json.object fields).isRestorable = true)
    (found : fields.get? key = some value) : value.isRestorable = true :=
  ((Json.isRestorable_object_iff.1 h).2 _ (mem_of_lookup found)).2

/-- An object that comes back does so with one more value that comes back. -/
theorem isRestorable_set (h : (Json.object fields).isRestorable = true)
    (scalar : key.isScalar = true) (restorable : value.isRestorable = true) :
    (Json.object (fields.set key value)).isRestorable = true := by
  obtain ⟨apart, each⟩ := Json.isRestorable_object_iff.1 h
  exact Json.isRestorable_object_iff.2
    ⟨nodup_set value apart, forall_mem_set each ⟨scalar, restorable⟩⟩

/-- Settings are put one after another, each under the key that its spelling means. -/
theorem isRestorable_foldl_set {keyOf : Text → Text} {settings : List (Text × Json)}
    (scalar : ∀ key, key.isScalar = true → (keyOf key).isScalar = true)
    (h : (Json.object fields).isRestorable = true)
    (each : ∀ setting ∈ settings, setting.1.isScalar = true ∧ setting.2.isRestorable = true) :
    (Json.object (settings.foldl (fun fields (key, value) => set fields (keyOf key) value)
      fields)).isRestorable = true := by
  induction settings generalizing fields with
  | nil => exact h
  | cons setting rest ih =>
      obtain ⟨here, there⟩ := List.forall_mem_cons.1 each
      exact ih (isRestorable_set h (scalar _ here.1) here.2) there

end Fields

end TerminalReel
