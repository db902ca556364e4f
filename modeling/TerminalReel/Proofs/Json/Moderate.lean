import TerminalReel.Proofs.Config.Faults
import TerminalReel.Proofs.Numeric.Range
/-!
# TerminalReel.Proofs.Json.Moderate

Documents that hold **nothing too large**: no whole number and no text whose length goes
beyond what a schedule and a layout can be computed from in binary64 numbers, and no
value that goes deeper than a message can show.

A product of a number and a length must still be an operand, and so must a sum of a few
of these. The bounds leave whole numbers nearly all of the binary64 range.
-/

namespace TerminalReel

/-- The bits of a moderate whole number. -/
def numberBits : ℕ := 900

/-- The bits of the length of a moderate text. -/
def lengthBits : ℕ := 100

/-- A whole number with few bits, or a binary64 number. -/
def Number.isBounded : Number → Bool
  | .int n => n.natAbs < Nat.pow 2 numberBits
  | .float _ => true

theorem Number.isBounded_iff {n : Number} : n.isBounded = true ↔ n.IsWithin numberBits := by
  cases n with
  | int i => rw [isBounded, decide_eq_true_iff, isWithin_int]
  | float x => exact ⟨fun _ => trivial, fun _ => rfl⟩

namespace Json

mutual

/-- Every whole number in the value has few bits, and so has the length of every text. -/
def isBounded : Json → Bool
  | .number n => n.isBounded
  | .string s => s.length < Nat.pow 2 lengthBits
  | .array items => areBounded items
  | .object fields => fieldsAreBounded fields
  | _ => true

/-- Each of the items is bounded. -/
def areBounded : List Json → Bool
  | [] => true
  | item :: rest => item.isBounded && areBounded rest

/-- Each of the fields is bounded. -/
def fieldsAreBounded : List (Text × Json) → Bool
  | [] => true
  | (_, value) :: rest => value.isBounded && fieldsAreBounded rest

end

example : (number (.int (10 ^ 270))).isBounded = true ∧
    (number (.int (10 ^ 271))).isBounded = false := by
  decide +kernel

/-- Nothing in the value is too large, and nothing is too deep for the host to show. -/
def IsModerate (host : Host) (value : Json) : Prop :=
  value.isBounded = true ∧ host.shows.covers value = true

instance (host : Host) (value : Json) : Decidable (value.IsModerate host) :=
  inferInstanceAs (Decidable (_ ∧ _))

theorem areBounded_iff {items : List Json} :
    areBounded items = true ↔ ∀ item ∈ items, item.isBounded = true := by
  induction items with
  | nil => simp [areBounded]
  | cons item rest ih => simp [areBounded, ih]

theorem fieldsAreBounded_iff {fields : Fields} :
    fieldsAreBounded fields = true ↔ ∀ field ∈ fields, field.2.isBounded = true := by
  induction fields with
  | nil => simp [fieldsAreBounded]
  | cons field rest ih => simp [fieldsAreBounded, ih]

/-- The values inside a bounded value are bounded, and so are the defaults. -/
theorem inherited_isBounded : Inherited (·.isBounded = true) where
  item h := areBounded_iff.1 h
  field h := fieldsAreBounded_iff.1 h
  null := rfl
  empty := rfl
  stepDefaults := by decide +kernel
  configDefaults := by decide +kernel

mutual

/-- Numbers within bounds have few enough digits to be written. -/
theorem isWritable_of_isBounded : ∀ {value : Json}, value.isBounded = true →
    value.isWritable = true
  | .null, _ | .bool _, _ | .string _, _ => rfl
  | .number _, h => (Number.isBounded_iff.1 h).isWritable (by decide)
  | .array _, h => areWritable_of_areBounded h
  | .object _, h => fieldsAreWritable_of_fieldsAreBounded h

theorem areWritable_of_areBounded : ∀ {items : List Json}, areBounded items = true →
    areWritable items = true
  | [], _ => rfl
  | _ :: _, h =>
    have each := Bool.and_eq_true_iff.1 h
    Bool.and_eq_true_iff.2 ⟨isWritable_of_isBounded each.1, areWritable_of_areBounded each.2⟩

theorem fieldsAreWritable_of_fieldsAreBounded : ∀ {fields : List (Text × Json)},
    fieldsAreBounded fields = true → fieldsAreWritable fields = true
  | [], _ => rfl
  | (_, _) :: _, h =>
    have each := Bool.and_eq_true_iff.1 h
    Bool.and_eq_true_iff.2
      ⟨isWritable_of_isBounded each.1, fieldsAreWritable_of_fieldsAreBounded each.2⟩

end

/-- Whatever is wrong with a moderate document can be told. -/
theorem tellable_isModerate (host : Host) : Tellable host (IsModerate host) where
  toInherited := inherited_isBounded.and (inherited_covers host.shows)
  writable h := isWritable_of_isBounded h.1
  showable h := h.2

variable {host : Host}

theorem isModerate_number_iff {n : Number} :
    (number n).IsModerate host ↔ n.IsWithin numberBits :=
  ⟨fun h => Number.isBounded_iff.1 h.1,
    fun h => ⟨Number.isBounded_iff.2 h, host.shows.own (Nat.zero_le _)⟩⟩

theorem IsModerate.isWithin {n : Number} (h : (number n).IsModerate host) :
    n.IsWithin numberBits :=
  isModerate_number_iff.1 h

theorem IsModerate.length_lt {s : Text} (h : (string s).IsModerate host) :
    s.length < 2 ^ lengthBits :=
  of_decide_eq_true h.1

end Json

/-- What a step is computed from is moderate. -/
abbrev Step.IsModerate (host : Host) (step : Step) : Prop :=
  step.Meets (Json.IsModerate host)

/-- What an animation is computed from is moderate. -/
abbrev Config.IsModerate (host : Host) (config : Config) : Prop :=
  config.Meets (Json.IsModerate host)

end TerminalReel
