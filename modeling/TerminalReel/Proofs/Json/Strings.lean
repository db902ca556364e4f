import Mathlib.Data.List.Basic
import Mathlib.Data.List.Induction
import TerminalReel.Json.Printer
import TerminalReel.Json.Reader
import TerminalReel.Proofs.Numeric.Numeral
/-!
# TerminalReel.Proofs.Json.Strings

Strings in a document, **written and read again**.

A string is read in two passes. The first finds a 16-bit unit, or a whole character
where one stands unescaped, for everything that was written; the second joins the two
units of a pair. So a code point is followed through both as the units that it is
written by, and only a surrogate that belongs to no pair is in danger of being joined.
-/

namespace TerminalReel

/-! ### Hexadecimal numbers -/

theorem hexValue?_digitChar {d : ℕ} (less : d < 16) : hexValue? d.digitChar = some d := by
  revert d
  decide

theorem hexNumber?_append_singleton (cs : List Char) (c : Char) :
    hexNumber? (cs ++ [c]) = (hexNumber? cs).bind fun n => (hexValue? c).map (16 * n + ·) := by
  simp [hexNumber?, List.foldlM_append]

/-- A number is read from its hexadecimal digits. -/
@[simp] theorem hexNumber?_toDigits (n : ℕ) : hexNumber? (Nat.toDigits 16 n) = some n := by
  induction n using Nat.strongRecOn with
  | ind n ih =>
      rw [Nat.toDigits_eq_if (by decide)]
      split
      · rename_i less
        simp [hexNumber?, hexValue?_digitChar less]
      · rw [hexNumber?_append_singleton, ih (n / 16) (by omega), Option.bind_some,
          hexValue?_digitChar (Nat.mod_lt n (by decide)), Option.map_some, Nat.div_add_mod]

/-- A hexadecimal numeral has hexadecimal digits only. -/
theorem isHexDigit_of_hexNumber? {cs : List Char} {n : ℕ} (h : hexNumber? cs = some n) :
    ∀ c ∈ cs, isHexDigit c = true := by
  induction cs using List.reverseRecOn generalizing n with
  | nil => exact List.forall_mem_nil _
  | append_singleton cs c ih =>
      rw [hexNumber?_append_singleton, Option.bind_eq_some_iff] at h
      obtain ⟨first, number, last⟩ := h
      obtain ⟨d, digit, -⟩ := Option.map_eq_some_iff.1 last
      refine List.forall_mem_append.2 ⟨ih number, List.forall_mem_singleton.2 ?_⟩
      rw [isHexDigit, digit]
      rfl

theorem hexNumber?_zeros_append (count : ℕ) (cs : List Char) :
    hexNumber? (List.replicate count '0' ++ cs) = hexNumber? cs := by
  induction count with
  | zero => rfl
  | succ count ih =>
      rw [List.replicate_succ, List.cons_append, ← ih]
      rfl

/-- A 16-bit unit is written by four digits, and read from them. -/
theorem exists_hexPadded {unit : ℕ} (less : unit < 0x10000) :
    ∃ a b c d, hexPadded 4 unit = [a, b, c, d] ∧ hexNumber? [a, b, c, d] = some unit := by
  have length : (hexPadded 4 unit).length = 4 := by
    have := (Nat.length_toDigits_le_iff (b := 16) (k := 4) (by decide) (by decide)).2 less
    rw [hexPadded, List.length_append, List.length_replicate]
    omega
  have value : hexNumber? (hexPadded 4 unit) = some unit := by
    rw [hexPadded, hexNumber?_zeros_append, hexNumber?_toDigits]
  obtain ⟨a, b, c, d, digits⟩ := List.length_eq_four.1 length
  exact ⟨a, b, c, d, digits, digits ▸ value⟩

/-! ### Code points as units -/

namespace CodePoint

/-- The units that a code point is written by, which is itself unless it lies beyond
the basic plane. -/
def units (point : CodePoint) : List ℕ :=
  if point.number < 0x10000 then [point.number]
  else [0xD800 + (point.number - 0x10000) / 0x400, 0xDC00 + (point.number - 0x10000) % 0x400]

end CodePoint

namespace Json

variable {start rest : List Char} {next : Char}

/-- The units before those that are read from the rest. -/
def prepend (units : List ℕ) (found : List ℕ × List Char) : List ℕ × List Char :=
  (units ++ found.1, found.2)

theorem toNat_lt (c : Char) : c.toNat < 0x110000 := by
  rcases c.valid with small | ⟨-, large⟩
  · exact Nat.lt_trans small (by decide)
  · exact large

/-- An escape with a number is read as the unit of that number. -/
theorem readUnits_unitEscape {unit : ℕ} (less : unit < 0x10000) :
    readUnits start (unitEscape unit ++ next :: rest)
      = prepend [unit] <$> readUnits start (next :: rest) := by
  obtain ⟨a, b, c, d, digits, value⟩ := exists_hexPadded less
  rw [unitEscape, digits]
  simp only [List.cons_append, List.nil_append]
  rw [readUnits.eq_4 start a b c d unit next rest value]
  cases readUnits start (next :: rest) <;> rfl

/-- A visible character that is neither a quote nor a backslash is read as it is. -/
theorem readUnits_plain {c : Char} (quote : c ≠ '"') (backslash : c ≠ '\\')
    (visible : 0x1F < c.toNat) :
    readUnits start (c :: rest) = prepend [c.toNat] <$> readUnits start rest := by
  rw [readUnits]
  · rw [if_neg (Nat.not_le.2 visible)]
    cases readUnits start rest <;> rfl
  all_goals
    intros
    simp_all

/-- An escape with a letter is read as what the letter stands for. -/
theorem readUnits_escaped {letter c : Char} (other : letter ≠ 'u')
    (stands : escaped? letter = some c) :
    readUnits start ('\\' :: letter :: rest) = prepend [c.toNat] <$> readUnits start rest := by
  rw [readUnits, stands]
  · cases readUnits start rest <;> rfl
  all_goals
    intros
    simp_all

/-- Whatever a code point is written as, its units are read from it. -/
theorem readUnits_encodePoint (point : CodePoint) :
    readUnits start (encodePoint point ++ next :: rest)
      = prepend point.units <$> readUnits start (next :: rest) := by
  cases point with
  | surrogate offset =>
      have less : (CodePoint.surrogate offset).number < 0x10000 := by
        rw [CodePoint.number, CodePoint.firstSurrogate]
        omega
      rw [encodePoint, CodePoint.units, if_pos less, readUnits_unitEscape less]
  | char c =>
      have letters (letter : Char) (other : letter ≠ 'u') (stands : escaped? letter = some c)
          (less : c.toNat < 0x10000) : readUnits start (['\\', letter] ++ next :: rest)
            = prepend (CodePoint.char c).units <$> readUnits start (next :: rest) := by
        rw [CodePoint.units, CodePoint.number, if_pos less]
        exact readUnits_escaped other stands
      rw [encodePoint, encodeChar]
      -- The seven characters that have a letter of their own.
      iterate 7
        split
        · rename_i e
          subst e
          exact letters _ (by decide) rfl (by decide)
      rename_i quote backslash _ _ _ _ _
      split
      · rename_i visible
        have least : 0x20 ≤ c.toNat := UInt32.le_iff_toNat_le.1 visible.1
        have greatest : c.toNat ≤ 0x7E := UInt32.le_iff_toNat_le.1 visible.2
        have less : (CodePoint.char c).number < 0x10000 := by
          rw [CodePoint.number]
          omega
        rw [CodePoint.units, if_pos less]
        exact readUnits_plain quote backslash least
      split
      · rename_i less
        rw [CodePoint.units, CodePoint.number, if_pos less, readUnits_unitEscape less]
      · rename_i beyond
        have bound := toNat_lt c
        have high : 0xD800 + (c.toNat - 0x10000) / 0x400 < 0x10000 := by omega
        have low : 0xDC00 + (c.toNat - 0x10000) % 0x400 < 0x10000 := by omega
        obtain ⟨second, others, escape⟩ :
            ∃ second others, unitEscape (0xDC00 + (c.toNat - 0x10000) % 0x400) = second :: others :=
          ⟨_, _, rfl⟩
        have lows := @readUnits_unitEscape start rest next _ low
        rw [CodePoint.units, CodePoint.number, if_neg beyond, List.append_assoc]
        rw [escape] at lows ⊢
        rw [List.cons_append] at lows ⊢
        rw [readUnits_unitEscape high, lows]
        cases readUnits start (next :: rest) <;> rfl

/-- The units of a string are read up to its closing quote. -/
theorem readUnits_flatMap (points : List CodePoint) :
    readUnits start (points.flatMap encodePoint ++ '"' :: rest)
      = .ok (points.flatMap CodePoint.units, rest) := by
  induction points with
  | nil => rfl
  | cons point others ih =>
      obtain ⟨second, tail, following⟩ : ∃ second tail,
          others.flatMap encodePoint ++ '"' :: rest = second :: tail :=
        List.exists_cons_of_ne_nil (by simp)
      rw [following] at ih
      rw [List.flatMap_cons, List.append_assoc, following, readUnits_encodePoint, ih,
        List.flatMap_cons]
      rfl

/-! ### Joining the units -/

theorem joinUnits_cons_of_not_high {unit : ℕ} (alone : isHighUnit unit = false) (units : List ℕ) :
    joinUnits (unit :: units) = .ofNumber unit :: joinUnits units := by
  cases units with
  | nil => rfl
  | cons second others => rw [joinUnits, alone, Bool.false_and, if_neg Bool.false_ne_true]

/-- The units of a character are joined to the character again. -/
theorem joinUnits_char (c : Char) (units : List ℕ) :
    joinUnits ((CodePoint.char c).units ++ units) = .char c :: joinUnits units := by
  -- No character has the number of a surrogate.
  have valid : c.toNat < 0xD800 ∨ 0xDFFF < c.toNat ∧ c.toNat < 0x110000 := c.valid
  rw [CodePoint.units, CodePoint.number]
  split
  · rename_i less
    have alone : isHighUnit c.toNat = false := by
      rw [isHighUnit, Bool.and_eq_false_iff, decide_eq_false_iff_not, decide_eq_false_iff_not]
      omega
    have number : CodePoint.ofNumber c.toNat = .char c := by
      have outside : ¬ (CodePoint.firstSurrogate ≤ c.toNat ∧
          c.toNat < CodePoint.firstSurrogate + 0x800) := by
        rw [CodePoint.firstSurrogate]
        omega
      rw [CodePoint.ofNumber, dif_neg outside, Char.ofNat_toNat]
    rw [List.singleton_append, joinUnits_cons_of_not_high alone, number]
  · rename_i beyond
    have high : isHighUnit (0xD800 + (c.toNat - 0x10000) / 0x400) = true := by
      rw [isHighUnit, Bool.and_eq_true, decide_eq_true_iff, decide_eq_true_iff]
      omega
    have low : isLowUnit (0xDC00 + (c.toNat - 0x10000) % 0x400) = true := by
      rw [isLowUnit, Bool.and_eq_true, decide_eq_true_iff, decide_eq_true_iff]
      omega
    have number : 0x10000 + (0xD800 + (c.toNat - 0x10000) / 0x400 - 0xD800) * 0x400
        + (0xDC00 + (c.toNat - 0x10000) % 0x400 - 0xDC00) = c.toNat := by
      omega
    rw [List.cons_append, List.singleton_append, joinUnits, high, low, Bool.and_self, if_pos rfl,
      number, Char.ofNat_toNat]

/-- Units are joined to the code points that they write, where none of these is a
surrogate by itself. -/
theorem joinUnits_units {points : List CodePoint}
    (scalar : ∀ point ∈ points, point.char?.isSome = true) :
    joinUnits (points.flatMap CodePoint.units) = points := by
  induction points with
  | nil => rfl
  | cons point others ih =>
      obtain ⟨here, there⟩ := List.forall_mem_cons.1 scalar
      cases point with
      | surrogate offset => cases here
      | char c => rw [List.flatMap_cons, joinUnits_char, ih there]

end Json

/-- The text has no surrogate by itself. -/
def Text.isScalar (text : Text) : Bool := text.points.all fun point => point.char?.isSome

/-- A string that is written is read as itself. -/
theorem Json.readString_encodeString {text : Text} (scalar : text.isScalar = true)
    (start rest : List Char) :
    readString start (text.points.flatMap encodePoint ++ '"' :: rest) = .ok (text, rest) := by
  rw [readString, readUnits_flatMap, ok_bind]
  dsimp only
  rw [joinUnits_units (List.all_eq_true.1 scalar)]
  rfl

end TerminalReel
