import Mathlib.Computability.RegularExpressions
import Mathlib.Tactic.IntervalCases
import TerminalReel.Proofs.Json.Numbers
import TerminalReel.Proofs.Numeric.Arithmetic
/-!
# TerminalReel.Proofs.Numeric.Compact

The compact form of a number is the **canonical decimal of the nearest ten thousandth**.

A canonical decimal has no zero before its whole digits and none after its places, no point
without places, and no sign on a zero. Its grammar is a regular expression
(`Grammar.numeral`), put together here part by part as the text is. Every number that
binary64 numbers hold exactly is written in that form, and what is written says which
multiple of a ten thousandth is nearest to the number (`PrintsAs`). Since rounding keeps the
order and the text depends on the multiple alone, numbers are written alike just where they
are rounded alike, and in their own order (`compact_canonical`).
-/

namespace TerminalReel

/-! ### The grammar of canonical decimals -/

namespace Grammar

open RegularExpression (char)

/-- One of the characters. -/
def oneOf (cs : List Char) : RegularExpression Char := (cs.map char).sum

/-- A digit other than zero. -/
def nonzeroDigit : RegularExpression Char :=
  oneOf ['1', '2', '3', '4', '5', '6', '7', '8', '9']

/-- A digit. -/
def digit : RegularExpression Char := char '0' + nonzeroDigit

/-- A zero alone, or digits that do not begin with one. -/
def whole : RegularExpression Char := char '0' + nonzeroDigit * digit.star

/-- A point and up to four digits, of which the last is not a zero. -/
def places : RegularExpression Char := char '.' * (1 + digit) ^ 3 * nonzeroDigit

/-- A decimal with a minus sign or none, and with places or none. -/
def numeral : RegularExpression Char := (1 + char '-') * whole * (1 + places)

variable {c : Char} {cs : List Char}

theorem mem_oneOf (mem : c ∈ cs) : [c] ∈ (oneOf cs).matches' := by
  induction cs with
  | nil => cases mem
  | cons first rest ih =>
      rcases List.mem_cons.1 mem with rfl | later
      · exact .inl rfl
      · exact .inr (ih later)

theorem mem_nonzeroDigit (digit : c.isDigit = true) (nonzero : c ≠ '0') :
    [c] ∈ nonzeroDigit.matches' := by
  have bounds : 48 ≤ c.toNat ∧ c.toNat ≤ 57 := by
    simpa [Char.isDigit, UInt32.le_iff_toNat_le] using digit
  obtain ⟨least, greatest⟩ := bounds
  have same : Char.ofNat c.toNat = c := Char.ofNat_toNat c
  apply mem_oneOf
  -- The codes of the digits are gone through one by one.
  rw [← same] at nonzero ⊢
  generalize c.toNat = code at *
  interval_cases code <;> simp at nonzero ⊢

theorem mem_digit (h : c.isDigit = true) : [c] ∈ digit.matches' := by
  by_cases zero : c = '0'
  · rw [zero]
    exact .inl rfl
  · exact .inr (mem_nonzeroDigit h zero)

theorem flatten_singletons (cs : List Char) : (cs.map fun c => [c]).flatten = cs := by
  rw [← List.flatMap_def, List.flatMap_singleton']

/-- Any number of digits. -/
theorem mem_digits (h : ∀ c ∈ cs, c.isDigit = true) : cs ∈ digit.star.matches' := by
  refine Language.mem_kstar.2 ⟨cs.map fun c => [c], (flatten_singletons cs).symm, ?_⟩
  intro part mem
  obtain ⟨c, inside, rfl⟩ := List.mem_map.1 mem
  exact mem_digit (h c inside)

/-- At most so many digits: the ones that are missing are empty. -/
theorem mem_fewDigits {count : ℕ} (few : cs.length ≤ count) (h : ∀ c ∈ cs, c.isDigit = true) :
    cs ∈ ((1 + digit) ^ count).matches' := by
  rw [RegularExpression.matches'_pow, Language.mem_pow]
  refine ⟨cs.map (fun c => [c]) ++ List.replicate (count - cs.length) [], ?_, ?_, ?_⟩
  · simp [flatten_singletons]
  · simp [few]
  · intro part mem
    rcases List.mem_append.1 mem with single | empty
    · obtain ⟨c, inside, rfl⟩ := List.mem_map.1 single
      exact .inr (mem_digit (h c inside))
    · rw [List.eq_of_mem_replicate empty]
      exact .inl rfl

theorem mem_whole (h : Json.IsWhole cs) : cs ∈ whole.matches' := by
  obtain ⟨first, rest, rfl⟩ := List.exists_cons_of_ne_nil h.nonempty
  by_cases zero : first = '0'
  · rw [h.zero_alone (congrArg some zero)]
    exact .inl rfl
  · obtain ⟨begins, digits⟩ := List.forall_mem_cons.1 h.digits
    exact .inr (Language.append_mem_mul (mem_nonzeroDigit begins zero) (mem_digits digits))

theorem mem_places (nonempty : cs ≠ []) (few : cs.length ≤ 4) (h : ∀ c ∈ cs, c.isDigit = true)
    (nonzero : cs.getLast? ≠ some '0') : '.' :: cs ∈ places.matches' := by
  obtain ⟨before, last, rfl⟩ := (List.eq_nil_or_concat' cs).resolve_left nonempty
  obtain ⟨digits, digit⟩ := List.forall_mem_append.1 h
  have point : ['.'] ∈ (char '.').matches' := rfl
  have few_before : before.length ≤ 3 := by
    rw [List.length_append, List.length_singleton] at few
    omega
  have ends : [last] ∈ nonzeroDigit.matches' := by
    refine mem_nonzeroDigit (digit last (List.mem_singleton_self last)) ?_
    simpa using nonzero
  exact Language.append_mem_mul (Language.append_mem_mul point (mem_fewDigits few_before digits))
    ends

/-- Ten thousandths are written without a zero too many. -/
theorem mem_unitsText (units : ℕ) : unitsText units ∈ (whole * (1 + places)).matches' := by
  rw [unitsText_eq]
  refine Language.append_mem_mul (mem_whole (Json.isWhole_toDigits _)) ?_
  by_cases none : writtenPlaces units = []
  · rw [if_pos none]
    exact .inl rfl
  · rw [if_neg none]
    obtain ⟨count, -, length⟩ := exists_writtenPlaces_append units
    have few : (writtenPlaces units).length ≤ 4 := by omega
    exact .inr (mem_places none few (fun _ => isDigit_of_mem_writtenPlaces)
      (getLast?_writtenPlaces_ne units))

/-- Ten thousandths with their sign are written in the canonical form. -/
theorem mem_decimalText (units : ℤ) : decimalText units ∈ numeral.matches' := by
  have sign : (signText (decide (units < 0))).toList ∈ (1 + char '-').matches' := by
    cases decide (units < 0) with
    | false => exact .inl rfl
    | true => exact .inr rfl
  have text := Language.append_mem_mul sign (mem_unitsText units.natAbs)
  rw [decimalText]
  rwa [RegularExpression.matches'_mul, ← mul_assoc] at text

example : "-12.05".toList ∈ numeral.matches' := by decide +kernel

example : "1.50".toList ∉ numeral.matches' := by decide +kernel

end Grammar

/-! ### Whole numbers among the binary64 numbers -/

theorem signed_natAbs_mul (i : ℤ) (k : ℕ) : signed (decide (i < 0)) (i.natAbs * k) = i * k := by
  rcases lt_or_ge i 0 with negative | nonneg
  · rw [decide_eq_true negative, signed_true, Nat.cast_mul,
      Int.ofNat_natAbs_of_nonpos negative.le, neg_mul, neg_neg]
  · rw [decide_eq_false (not_lt.2 nonneg), signed_false, Nat.cast_mul,
      Int.natAbs_of_nonneg nonneg]

/-- Whole numbers that 53 bits hold fit. -/
theorem fits_whole {k : ℕ} (h : k ≤ 2 ^ 53) : Fits (k * quantaPerOne) := by
  rw [quantaPerOne_eq]
  refine ⟨?_, spacing_dvd_mul_two_pow h quantumExponent⟩
  rw [quantaLimit, twoPower_eq]
  calc k * 2 ^ quantumExponent ≤ 2 ^ 53 * 2 ^ quantumExponent := Nat.mul_le_mul_right _ h
    _ = 2 ^ (53 + quantumExponent) := (pow_add 2 53 quantumExponent).symm
    _ < 2 ^ (quantumExponent + limitExponent) := Nat.pow_lt_pow_right (by decide) (by decide)

/-- The size of a whole number that 53 bits hold. -/
def Magnitude.ofWhole (k : ℕ) (h : k ≤ 2 ^ 53) : Magnitude := ⟨k * quantaPerOne, fits_whole h⟩

theorem Binary64.ofInt_eq_finite {i : ℤ} (h : i.natAbs ≤ 2 ^ 53) :
    ofInt i = .finite (decide (i < 0)) (.ofWhole i.natAbs h) :=
  ofRatio_quanta _ (.ofWhole i.natAbs h)

/-! ### Printed numbers -/

/-- `x` is a multiple of a ten thousandth as near to `v` as any; of two as near, the even one. -/
def IsNearestTenThousandth (x v : ℚ) : Prop :=
  ∃ units : ℤ, x = units / 10 ^ 4 ∧ IsNearestInt units (v * 10 ^ 4)

namespace Number

/-- A finite binary64 number, or a whole number in the range in which each of them is a
binary64 number. -/
def IsExact : Number → Prop
  | .int i => |i| ≤ 2 ^ 53
  | .float x => x.isFinite = true

/-- The number is printed as the text, and the text is canonical and stands for `x`, the one
multiple of a ten thousandth that is nearest to the number. -/
structure PrintsAs (n : Number) (text : String) (x : ℚ) : Prop where
  printed : n.compact = .ok text
  form : text.toList ∈ Grammar.numeral.matches'
  unsigned_zero : text ≠ "-0"
  denotes : readSigned? text.toList = some x
  nearest : ∃ v, n.LiesAt v ∧ ∀ z, IsNearestTenThousandth z v ↔ z = x

variable {a b n : Number} {v : ℚ}

theorem liesAt_finite (negative : Bool) (m : Magnitude) :
    (float (.finite negative m)).LiesAt (signed negative m.quanta / quantaPerOne) :=
  ⟨_, rfl, (div_mul_cancel₀ _ quantaPerOne_cast_pos.ne').symm⟩

/-- The ten thousandths that are printed are the nearest ones on both sides of zero. -/
theorem isNearestInt_units (negative : Bool) (m : Magnitude) :
    IsNearestInt (signed negative m.units)
      (signed negative m.quanta / quantaPerOne * 10 ^ 4) := by
  have near := m.isNearestWhole_units.isNearestInt
  cases negative with
  | false =>
      rw [signed_false, signed_false, Int.cast_natCast]
      exact near
  | true =>
      rw [signed_true, signed_true, Int.cast_neg, Int.cast_natCast, neg_div, neg_mul]
      exact near.neg

/-- The operand that such a number makes lies where the number does. -/
theorem IsExact.exists_operand (h : n.IsExact) : ∃ negative m,
    n.operand = .ok (.finite negative m) ∧
      n.LiesAt (signed negative m.quanta / quantaPerOne) := by
  cases n with
  | float x =>
      cases x with
      | finite negative m => exact ⟨negative, m, rfl, liesAt_finite negative m⟩
      | infinite negative => cases h
      | nan => cases h
  | int i =>
      have small : |i| ≤ 2 ^ 53 := h
      have few : i.natAbs ≤ 2 ^ 53 := by
        rw [Int.abs_eq_natAbs] at small
        exact_mod_cast small
      have converted := Binary64.ofInt_eq_finite few
      have value : (signed (decide (i < 0)) (i.natAbs * quantaPerOne) : ℚ) / quantaPerOne = i := by
        rw [signed_natAbs_mul, Int.cast_mul, Int.cast_natCast,
          mul_div_cancel_right₀ _ quantaPerOne_cast_pos.ne']
      have lies : (int i).LiesAt i := ⟨_, rfl, by push_cast; ring⟩
      refine ⟨_, _, operand_int_eq_ok.2 ⟨?_, converted⟩, value.symm ▸ lies⟩
      rw [converted]
      rfl

/-- An operand is printed as the number that makes it. -/
theorem compact_of_operand {x : Binary64} (h : n.operand = .ok x) :
    n.compact = (float x).compact := by
  rw [compact, compact, h, operand_float]

theorem IsExact.exists_units (h : n.IsExact) : ∃ (units : ℤ) (v : ℚ),
    n.compact = .ok (String.ofList (decimalText units)) ∧ n.LiesAt v ∧
      IsNearestInt units (v * 10 ^ 4) := by
  obtain ⟨negative, m, operand, lies⟩ := h.exists_operand
  refine ⟨_, _, ?_, lies, isNearestInt_units negative m⟩
  rw [compact_of_operand operand, compact_finite]

theorem printsAs_of_units {units : ℤ}
    (printed : n.compact = .ok (String.ofList (decimalText units))) (lies : n.LiesAt v)
    (near : IsNearestInt units (v * 10 ^ 4)) :
    n.PrintsAs (String.ofList (decimalText units)) (units / 10 ^ 4) where
  printed := printed
  form := by
    rw [String.toList_ofList]
    exact Grammar.mem_decimalText units
  unsigned_zero := by
    intro zero
    have text := congrArg String.toList zero
    rw [String.toList_ofList] at text
    exact decimalText_ne_negativeZero units text
  denotes := by rw [String.toList_ofList, readSigned?_decimalText]
  nearest := by
    refine ⟨v, lies, fun z => ⟨?_, ?_⟩⟩
    · rintro ⟨others, rfl, as_near⟩
      rw [as_near.unique near]
    · rintro rfl
      exact ⟨units, rfl, near⟩

/-- Any two numbers that are held exactly are printed as canonical decimals of the nearest
ten thousandths: alike if and only if these are the same, and in their own order. -/
theorem compact_canonical (ha : a.IsExact) (hb : b.IsExact) : ∃ s t x y,
    a.PrintsAs s x ∧ b.PrintsAs t y ∧ (s = t ↔ x = y) ∧ (a.le b = true → x ≤ y) := by
  obtain ⟨j, v, printed_a, at_v, near_v⟩ := ha.exists_units
  obtain ⟨k, w, printed_b, at_w, near_w⟩ := hb.exists_units
  refine ⟨_, _, _, _, printsAs_of_units printed_a at_v near_v,
    printsAs_of_units printed_b at_w near_w, ?_, ?_⟩
  · rw [String.ofList_inj, decimalText_injective.eq_iff, div_left_inj' (by norm_num),
      Int.cast_inj]
  · intro le
    have ordered : v * 10 ^ 4 ≤ w * 10 ^ 4 :=
      mul_le_mul_of_nonneg_right ((at_v.le_iff at_w).1 le) (by norm_num)
    exact div_le_div_of_nonneg_right (Int.cast_le.2 (near_v.le near_w ordered)) (by norm_num)

/-- The number `-1 / 32` lies halfway between two ten thousandths. -/
def halfway : Number := .float (.finite true ⟨2 ^ 1069, by decide +kernel⟩)

theorem compact_canonical_halfway : halfway.IsExact ∧ (int 10).IsExact ∧ ∃ x y,
    halfway.PrintsAs "-0.0312" x ∧ (int 10).PrintsAs "10" y ∧ x ≤ y := by
  have exact_halfway : halfway.IsExact := rfl
  have exact_ten : (int 10).IsExact := by
    show |(10 : ℤ)| ≤ 2 ^ 53
    decide
  have text_halfway : halfway.compact = .ok "-0.0312" := by decide +kernel
  have text_ten : (int 10).compact = .ok "10" := by decide +kernel
  have less : halfway.le (int 10) = true := by decide +kernel
  obtain ⟨s, t, x, y, prints_x, prints_y, -, ordered⟩ := compact_canonical exact_halfway exact_ten
  obtain rfl := Except.ok.inj (prints_x.printed.symm.trans text_halfway)
  obtain rfl := Except.ok.inj (prints_y.printed.symm.trans text_ten)
  exact ⟨exact_halfway, exact_ten, x, y, prints_x, prints_y, ordered less⟩

end Number

end TerminalReel
