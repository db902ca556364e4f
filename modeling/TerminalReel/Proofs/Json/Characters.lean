import TerminalReel.Proofs.Json.Numbers
import TerminalReel.Proofs.Json.Strings
import TerminalReel.Proofs.Numeric.Plain
/-!
# TerminalReel.Proofs.Json.Characters

Of which **characters** a written document consists: those that are visible in ASCII,
the space and the line feed. So it is the same text in every encoding that agrees with
ASCII, and no line end in it is changed when it is read.
-/

namespace TerminalReel

namespace Json

/-- A visible character of ASCII, a space or a line feed. -/
def isPrinted (c : Char) : Bool := c == '\n' || (0x20 ≤ c.toNat && c.toNat ≤ 0x7E)

/-- A string of printed characters. -/
abbrev Printed (s : String) : Prop := Consists isPrinted s

/-! ### Digits -/

theorem isPrinted_of_bounds {c : Char} (least : 0x20 ≤ c.toNat) (greatest : c.toNat ≤ 0x7E) :
    isPrinted c = true := by
  rw [isPrinted, decide_eq_true least, decide_eq_true greatest]
  exact Bool.or_true _

theorem isPrinted_of_isDigit {c : Char} (digit : c.isDigit = true) : isPrinted c = true := by
  rw [Char.isDigit, Bool.and_eq_true, decide_eq_true_iff, decide_eq_true_iff] at digit
  have least : 48 ≤ c.toNat := UInt32.le_iff_toNat_le.1 digit.1
  have greatest : c.toNat ≤ 57 := UInt32.le_iff_toNat_le.1 digit.2
  exact isPrinted_of_bounds (by omega) (by omega)

theorem isPrinted_of_mem_hexDigits {n : ℕ} {c : Char} (mem : c ∈ Nat.toDigits 16 n) :
    isPrinted c = true := by
  have digit : ∀ d < 16, isPrinted d.digitChar = true := by decide
  induction n using Nat.strongRecOn with
  | ind n ih =>
      rw [Nat.toDigits_eq_if (by decide)] at mem
      split at mem
      · rename_i less
        rw [List.mem_singleton.1 mem]
        exact digit n less
      · rcases List.mem_append.1 mem with mem | mem
        · exact ih (n / 16) (by omega) mem
        · rw [List.mem_singleton.1 mem]
          exact digit (n % 16) (Nat.mod_lt n (by decide))

/-! ### Strings and numbers -/

theorem isPrinted_of_mem_unitEscape {unit : ℕ} {c : Char} (mem : c ∈ unitEscape unit) :
    isPrinted c = true := by
  simp only [unitEscape, hexPadded, List.mem_cons, List.mem_append, List.mem_replicate] at mem
  rcases mem with rfl | rfl | ⟨-, rfl⟩ | mem
  · rfl
  · rfl
  · rfl
  · exact isPrinted_of_mem_hexDigits mem

/-- Each point is written in printed characters, by an escape if it is none itself. -/
theorem isPrinted_of_mem_encodePoint {point : CodePoint} :
    ∀ c ∈ encodePoint point, isPrinted c = true := by
  cases point with
  | surrogate offset => exact fun c => isPrinted_of_mem_unitEscape
  | char d =>
      rw [encodePoint, encodeChar]
      iterate 7
        split
        · exact List.forall_mem_cons.2 ⟨rfl, List.forall_mem_singleton.2 rfl⟩
      split
      · rename_i visible
        intro c mem
        rw [List.mem_singleton.1 mem]
        exact isPrinted_of_bounds (UInt32.le_iff_toNat_le.1 visible.1)
          (UInt32.le_iff_toNat_le.1 visible.2)
      split
      · exact fun c => isPrinted_of_mem_unitEscape
      · exact List.forall_mem_append.2
          ⟨fun c => isPrinted_of_mem_unitEscape, fun c => isPrinted_of_mem_unitEscape⟩

theorem printed_encodeString (s : Text) : Printed (encodeString s) := by
  intro c mem
  rw [encodeString, String.toList_ofList] at mem
  simp only [List.mem_append, List.mem_cons, List.mem_flatMap, List.not_mem_nil, or_false] at mem
  rcases mem with (rfl | ⟨point, -, mem⟩) | rfl
  · rfl
  · exact isPrinted_of_mem_encodePoint c mem
  · rfl

section Numbers

variable {test : Char → Bool} (digit : ∀ c, c.isDigit = true → test c = true)
  (marks : Consists test ".e+-")

include digit marks

/-- What holds of digits and of a few marks holds of every character of a numeral. -/
theorem forall_of_spells {v : ℚ} {text : List Char} (h : Spells v text) :
    ∀ c ∈ text, test c = true := by
  obtain @⟨whole, fraction, exponent, h, digits, -, -⟩ := h
  have fraction_text : ∀ c ∈ fractionText fraction, test c = true := by
    rw [fractionText]
    split
    · exact List.forall_mem_nil _
    · exact List.forall_mem_cons.2
        ⟨marks '.' (by decide), fun c mem => digit c (digits c mem)⟩
  have exponent_text : ∀ c ∈ exponentText exponent, test c = true := by
    cases exponent with
    | none => exact List.forall_mem_nil _
    | some n =>
        have sign : test (if n < 0 then '-' else '+') = true := by
          split <;> exact marks _ (by decide)
        exact List.forall_mem_cons.2 ⟨marks 'e' (by decide), List.forall_mem_cons.2 ⟨sign,
          fun c mem => digit c (isDigit_of_mem_paddedDigits mem)⟩⟩
  refine List.forall_mem_append.2 ⟨fun c mem => digit c (h.digits c mem), ?_⟩
  exact List.forall_mem_append.2 ⟨fraction_text, exponent_text⟩

omit digit in
theorem consists_signText (negative : Bool) : Consists test (signText negative) := by
  cases negative with
  | false => exact fun c mem => absurd mem (by simp [signText])
  | true => exact List.forall_mem_singleton.2 (marks '-' (by decide))

theorem consists_int (n : ℤ) : Consists test (encodeNumber (.int n)) := by
  intro c mem
  rw [encodeNumber, toList_toString_int] at mem
  rcases List.mem_append.1 mem with mem | mem
  · exact consists_signText marks _ c mem
  · exact digit c (isDigit_of_mem_toDigits mem)

theorem consists_finite (negative : Bool) (m : Magnitude) :
    Consists test (encodeNumber (.float (.finite negative m))) := by
  obtain ⟨d, text, written, spells, -⟩ := exists_spells negative m
  intro c mem
  rw [written] at mem
  rcases List.mem_append.1 mem with mem | mem
  · exact consists_signText marks _ c mem
  · exact forall_of_spells digit marks spells c mem

/-- What holds of the names of what is not finite as well holds of every character of a
number in full. -/
theorem consists_text (names : Consists test (plainStyle.nan ++ plainStyle.infinity))
    (n : Number) : Consists test n.text := by
  have nan : Consists test plainStyle.nan := fun c mem => names c (by simp [mem])
  have infinity : Consists test plainStyle.infinity := fun c mem => names c (by simp [mem])
  cases n with
  | int n => exact consists_int digit marks n
  | float x =>
      cases x with
      | nan => exact nan
      | infinite negative => exact (consists_signText marks negative).append infinity
      | finite negative m => exact consists_finite digit marks negative m

end Numbers

/-- A number in full is written without any other character. -/
theorem text_lacks {c : Char} (no_digit : c.isDigit = false) (no_mark : Consists (· != c) ".e+-")
    (no_name : Consists (· != c) (plainStyle.nan ++ plainStyle.infinity)) (n : Number) :
    Consists (· != c) n.text := by
  refine consists_text (fun d digit => ?_) no_mark no_name n
  rw [bne_iff_ne]
  rintro rfl
  rw [no_digit] at digit
  cases digit

/-- A number is written in printed characters. -/
theorem printed_encodeNumber (n : Number) : Printed (encodeNumber n) := by
  have marks : Printed ".e+-" := by decide
  cases n with
  | int n => exact consists_int (fun _ => isPrinted_of_isDigit) marks n
  | float x =>
      cases x with
      | nan => exact show Printed documentStyle.nan by decide
      | infinite negative =>
          exact (consists_signText marks negative).append
            (show Printed documentStyle.infinity by decide)
      | finite negative m =>
          exact consists_finite (fun _ => isPrinted_of_isDigit) marks negative m

/-! ### Documents -/

theorem printed_lineBreak (depth : ℕ) : Printed (lineBreak depth) := by
  refine Consists.append (by decide) fun c mem => ?_
  rw [String.toList_ofList] at mem
  rw [List.eq_of_mem_replicate mem]
  rfl

mutual

/-- A document consists of printed characters at any depth. -/
theorem printed_indented (depth : ℕ) : ∀ value : Json, Printed (value.indented depth)
  | .null => show Printed "null" by decide
  | .bool true => show Printed "true" by decide
  | .bool false => show Printed "false" by decide
  | .number n => printed_encodeNumber n
  | .string s => printed_encodeString s
  | .array [] => show Printed "[]" by decide
  | .array (item :: items) =>
    have opening : Printed "[" := by decide
    have closing : Printed "]" := by decide
    ((opening.append (printed_indentedItems (depth + 1) (item :: items))).append
      (printed_lineBreak depth)).append closing
  | .object [] => show Printed "\x7b\x7d" by decide
  | .object (field :: fields) =>
    have opening : Printed "\x7b" := by decide
    have closing : Printed "\x7d" := by decide
    ((opening.append (printed_indentedFields (depth + 1) (field :: fields))).append
      (printed_lineBreak depth)).append closing

/-- The lines of items hold printed characters and line ends. -/
theorem printed_indentedItems (depth : ℕ) :
    ∀ items : List Json, Printed (indentedItems depth items)
  | [] => show Printed "" by decide
  | [item] => (printed_lineBreak depth).append (printed_indented depth item)
  | item :: second :: items =>
    have comma : Printed "," := by decide
    (((printed_lineBreak depth).append (printed_indented depth item)).append comma).append
      (printed_indentedItems depth (second :: items))

/-- The lines of fields hold printed characters and line ends. -/
theorem printed_indentedFields (depth : ℕ) :
    ∀ fields : Fields, Printed (indentedFields depth fields)
  | [] => show Printed "" by decide
  | [(key, value)] =>
    have colon : Printed ": " := by decide
    (((printed_lineBreak depth).append (printed_encodeString key)).append colon).append
      (printed_indented depth value)
  | (key, value) :: second :: fields =>
    have colon : Printed ": " := by decide
    have comma : Printed "," := by decide
    (((((printed_lineBreak depth).append (printed_encodeString key)).append colon).append
      (printed_indented depth value)).append comma).append
        (printed_indentedFields depth (second :: fields))

end

end Json

end TerminalReel
