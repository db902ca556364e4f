import TerminalReel.Proofs.Json.Numbers
import TerminalReel.Proofs.Numeric.Extended
import TerminalReel.Proofs.Numeric.Fewest
import TerminalReel.Proofs.Numeric.Grains
/-!
# TerminalReel.Proofs.Numeric.ReadBack

A number that was written, **read back**.

A text is read as a decimal, which is exact, and the decimal is rounded once. That some
decimals are not multiplied out makes no difference: they lie where everything is rounded
to zero, or beyond the finite range (`Decimal.isRounded_toBinary64`). So the text of a
number in the plain style is read as that number, whatever number it is
(`ofText?_binary64`), and what it says is the shortest decimal that is rounded to it
(`isSpelledBy_plain`).
-/

namespace TerminalReel

/-! ### Decimals are rounded -/

theorem nearest_of_tiny {v : ℚ} (nonneg : 0 ≤ v) (tiny : v < 10 ^ (-Decimal.reach)) :
    nearest v = 0 := by
  have half : (10 : ℚ) ^ (-Decimal.reach) * quantaPerOne < 1 / 2 := by
    have reach : Decimal.reach = (400 : ℕ) := rfl
    have many : ((quantaPerOne * 2 : ℕ) : ℚ) < (10 ^ 400 : ℕ) := Nat.cast_lt.2 (by decide +kernel)
    rw [Nat.cast_mul, Nat.cast_pow, Nat.cast_ofNat, Nat.cast_ofNat] at many
    rw [reach, zpow_neg, zpow_natCast, inv_mul_lt_iff₀ (by positivity), mul_one_div,
      lt_div_iff₀ two_pos]
    exact many
  have quanta : v * quantaPerOne < 1 / 2 :=
    (mul_lt_mul_of_pos_right tiny quantaPerOne_cast_pos).trans half
  have quanta_nonneg := mul_nonneg nonneg quantaPerOne_cast_pos.le
  have floor : ⌊v * quantaPerOne⌋₊ = 0 := Nat.floor_eq_zero.2 (by linarith)
  have rounded : roundRat (v * quantaPerOne / (spacing 0 : ℕ)) = 0 := by
    apply roundRat_eq_of_abs_lt
    have one : spacing 0 = 1 := rfl
    rw [one, Nat.cast_one, div_one, Nat.cast_zero, sub_zero, abs_of_nonneg quanta_nonneg]
    exact quanta
  rw [nearest, nearestQuanta, floor, rounded, Nat.zero_mul, Nat.cast_zero, zero_div]

namespace Decimal

variable {d : Decimal} {text : List Char} {v : ℚ}

theorem value_nonneg (d : Decimal) : 0 ≤ d.value :=
  mul_nonneg (Nat.cast_nonneg _) (by positivity)

/-- A decimal is read as what its value is rounded to. -/
theorem isRounded_toBinary64 (d : Decimal) :
    (Number.float (d.toBinary64 false)).IsRounded d.value := by
  have zero : (Number.float (.finite false .zero)).Measures 0 := by
    refine Number.measures_float_iff.2 ⟨false, .zero, rfl, ?_, fun _ => rfl⟩
    rw [Magnitude.quanta_zero, Nat.cast_zero, zero_div]
  rw [toBinary64]
  split
  · rename_i least
    left
    have vanishes : nearest d.value = 0 := by
      rcases least with none | below
      · rw [value_eq_zero_iff.2 none, nearest_zero]
      · refine nearest_of_tiny d.value_nonneg (d.value_lt.trans_le ?_)
        exact zpow_le_zpow_right₀ (by norm_num) below.le
    rwa [vanishes]
  · rename_i some_digits
    split
    · rename_i beyond
      right
      refine ⟨rfl, ?_⟩
      have pos : 0 < d.digits := by omega
      have limit : 2 ^ limitExponent ≤ d.value := by
        have far : ((2 ^ limitExponent : ℕ) : ℚ) ≤ (10 ^ 400 : ℕ) :=
          Nat.cast_le.2 (by decide +kernel)
        rw [Nat.cast_pow, Nat.cast_pow, Nat.cast_ofNat, Nat.cast_ofNat] at far
        calc (2 : ℚ) ^ limitExponent ≤ 10 ^ 400 := far
          _ = 10 ^ reach := (zpow_natCast 10 400).symm
          _ ≤ 10 ^ (d.point - 1) := zpow_le_zpow_right₀ (by norm_num) (by omega)
          _ ≤ d.value := le_value pos
      rw [← nearest_limit]
      exact nearest_mono limit
    · have value : ((d.digits * (tenPower d.exponent).1 * quantaPerOne : ℕ) : ℚ)
          / (tenPower d.exponent).2 / quantaPerOne = d.value := by
        rw [quanta_eq, mul_div_cancel_right₀ _ quantaPerOne_cast_pos.ne']
      rw [← value]
      exact Number.isRounded_ofRatio (tenPower_snd_pos _) (by simp)

/-! ### Texts are read as decimals -/

/-- The decimal that a text writes: digits, some of them after a point, and a power of
ten. -/
def ofText? (cs : List Char) : Option Decimal :=
  let (whole, cs) := spanDigits cs
  let (fraction, cs) :=
    match cs with
    | '.' :: cs => spanDigits cs
    | cs => ([], cs)
  if whole ++ fraction = [] then none
  else
    match cs with
    | [] => some (ofParts whole fraction 0)
    | 'e' :: cs =>
      match exponent? cs with
      | some (exponent, []) => some (ofParts whole fraction exponent)
      | _ => none
    | _ => none

section Parts

variable {whole fraction : List Char} {exponent : Option ℤ}

/-- A numeral is read by its parts. -/
theorem ofText?_parts (h : Json.IsWhole whole) (digits : ∀ c ∈ fraction, c.isDigit = true) :
    ofText? (whole ++ (Json.fractionText fraction ++ Json.exponentText exponent))
      = some (ofParts whole fraction (exponent.getD 0)) := by
  have ends : Json.EndsNumber [] := by simp [Json.EndsNumber]
  have after_whole : ∀ c ∈ (Json.fractionText fraction ++ (Json.exponentText exponent ++ [])).head?,
      c.isDigit = false := Json.fractionText_begins ends
  have after_fraction : ∀ c ∈ (Json.exponentText exponent ++ []).head?, c.isDigit = false :=
    fun c mem => (Json.exponentText_begins ends c mem).1
  rw [List.append_nil] at after_whole after_fraction
  have span := spanDigits_append digits after_fraction
  rw [ofText?, spanDigits_append h.digits after_whole]
  cases exponent with
  | none =>
      by_cases none : fraction = []
      · simp [none, Json.fractionText, Json.exponentText, h.nonempty]
      · simp only [Json.fractionText, if_neg none, List.cons_append, span]
        simp [Json.exponentText, h.nonempty]
  | some n =>
      have stop : ∀ c ∈ ([] : List Char).head?, c.isDigit = false := by simp
      have power := Json.exponent?_append n stop
      rw [List.append_nil] at power
      by_cases none : fraction = []
      · simp [none, Json.fractionText, Json.exponentText, h.nonempty, power]
      · simp only [Json.fractionText, if_neg none, List.cons_append, span]
        simp [Json.exponentText, h.nonempty, power]

end Parts

/-- A numeral is read as a decimal that is worth the same. -/
theorem exists_ofText? (h : Json.Spells v text) : ∃ d, ofText? text = some d ∧ d.value = v := by
  obtain ⟨whole, digits, -, value⟩ := h
  exact ⟨_, ofText?_parts whole digits, value⟩

end Decimal

namespace Binary64

variable {cs : List Char} {d : Decimal} {negative : Bool} {v : ℚ}

/-- What is a decimal behind its sign is read as that decimal, rounded. -/
theorem ofText?_of_decimal {text : String} (sign : splitSign text.toList = (negative, cs))
    (h : Decimal.ofText? cs = some d) : ofText? text = some (d.toBinary64 negative) := by
  have not_nan : cs ≠ plainStyle.nan.toList := by
    rintro rfl
    cases h
  have not_infinity : cs ≠ plainStyle.infinity.toList := by
    rintro rfl
    cases h
  rw [ofText?, sign]
  dsimp only
  rw [if_neg not_nan, if_neg not_infinity]
  -- Both readers take the text apart in the same way.
  unfold Decimal.ofText? at h
  grind

theorem splitSign_of_spells (h : Json.Spells v cs) :
    splitSign ((signText negative).toList ++ cs) = (negative, cs) := by
  obtain ⟨whole, -, -, -⟩ := h
  obtain ⟨first, others, rfl⟩ := List.exists_cons_of_ne_nil whole.nonempty
  have digit : first.isDigit = true := whole.digits first List.mem_cons_self
  cases negative with
  | true => simp [signText, splitSign]
  | false =>
      rw [signText, if_neg Bool.false_ne_true, String.toList_empty, List.nil_append, splitSign]
      · rintro rest ⟨⟩
        cases digit
      · rintro rest ⟨⟩
        cases digit

/-- What is written of a number in the plain style is read as that number. -/
theorem ofText?_binary64 (x : Binary64) : ofText? (plainStyle.binary64 x) = some x := by
  cases x with
  | nan => decide +kernel
  | infinite negative => cases negative <;> decide +kernel
  | finite negative m =>
      obtain ⟨d, numeral, written, spells, rounded⟩ := Json.exists_spells negative m
      obtain ⟨d', read, same⟩ := Decimal.exists_ofText? spells
      have text : (plainStyle.binary64 (.finite negative m)).toList
          = (signText negative).toList ++ numeral := written
      rw [ofText?_of_decimal (text ▸ splitSign_of_spells spells) read,
        Decimal.toBinary64_congr same, rounded]

/-! ### The shortest decimal -/

/-- The text is a decimal which is rounded to the number, as the library's reader does it,
and no decimal of fewer digits is rounded to the number. -/
structure IsSpelledBy (x : Binary64) (text : String) : Prop where
  read : ofText? text = some x
  shortest : ∃ d, Decimal.ofText? text.toList = some d ∧
    (Number.float x).Measures (nearest d.value) ∧
    ∀ count v, HasNumeral count v → nearest v = nearest d.value → HasNumeral count d.value

/-- The decimal that is written of a number, and that it is as short as any. -/
theorem exists_decimal (m : Magnitude) : ∃ d : Decimal,
    Json.Spells d.value (plainStyle.binary64 (.finite false m)).toList ∧
      d.toBinary64 false = .finite false m ∧
      ∀ count v, HasNumeral count v → nearestQuanta (v * quantaPerOne) = m.quanta →
        HasNumeral count d.value := by
  rcases Nat.eq_zero_or_pos m.quanta with zero | pos
  · obtain rfl : m = .zero := Magnitude.eq_of_quanta_eq zero
    exact ⟨⟨0, 0⟩, Json.spells_zero, rfl, fun count _ _ _ => ⟨⟨0, 0⟩, by positivity, rfl⟩⟩
  · have text : (plainStyle.binary64 (.finite false m)).toList
        = Json.documentStyle.decimal m.shortest := by
      rw [PlainStyle.binary64, if_neg pos.ne', signText, if_neg Bool.false_ne_true,
        String.empty_append, String.toList_ofList]
      rfl
    exact ⟨m.shortest, text ▸ Json.spells_decimal (Json.digits_shortest_pos pos),
      Magnitude.isWrittenBy_shortest pos, fun _ _ => Magnitude.hasNumeral_shortest pos⟩

/-- In the plain style a number that is not negative is spelled by the shortest decimal. -/
theorem isSpelledBy_plain (m : Magnitude) :
    (finite false m).IsSpelledBy (plainStyle.binary64 (.finite false m)) := by
  obtain ⟨d, spells, rounded, shortest⟩ := exists_decimal m
  obtain ⟨d', read, same⟩ := Decimal.exists_ofText? spells
  have measures : (Number.float (finite false m)).Measures (m.quanta / quantaPerOne) :=
    Number.measures_float_iff.2 ⟨false, m, rfl, rfl, by simp⟩
  have nearest_eq : (m.quanta : ℚ) / quantaPerOne = nearest d.value := by
    have isRounded := d.isRounded_toBinary64
    rw [rounded] at isRounded
    exact isRounded.eq_nearest measures
  refine ⟨ofText?_binary64 _, d', read, ?_, ?_⟩
  · rwa [same, ← nearest_eq]
  · intro count v few alike
    rw [same, ← nearest_eq, nearest, div_left_inj' quantaPerOne_cast_pos.ne'] at alike
    rw [same]
    exact shortest count v few (Nat.cast_injective alike)

end Binary64

/-! ### In the compact form -/

/-- What is written of a positive number in the compact form is the multiple of a ten
thousandth nearest to it. -/
theorem Number.exists_compact {x : Binary64} {y : ℚ} (measures : (Number.float x).Measures y)
    (pos : 0 < y) : ∃ (text : String) (units : ℕ), (Number.float x).compact = .ok text ∧
      readDecimal? text.toList = some ((units : ℚ) / 10 ^ 4) ∧
      IsNearestWhole units (y * 10 ^ 4) := by
  obtain ⟨m, rfl, -⟩ := measures.exists_positive pos
  obtain ⟨_, _, same, rfl, -⟩ := Number.measures_float_iff.1 measures
  obtain ⟨-, rfl⟩ := Binary64.finite.inj same
  refine ⟨_, _, compact_finite false m, ?_, m.isNearestWhole_units⟩
  rw [String.toList_ofList, signed_false, decimalText_natCast, readDecimal?_unitsText]

end TerminalReel
