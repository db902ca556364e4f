import TerminalReel.Proofs.Numeric.Shortest
/-!
# TerminalReel.Proofs.Numeric.Fewest

The shortest numeral of a number has the **fewest digits** that any has.

The search looks at two numerals for each count of digits, the neighbours of the number
among those that end in the same place. It overlooks nothing: another numeral of no more
digits is not nearer to the number than both of them. One that begins where the number
does, or further left, ends in that place or before it, and one that begins further right
is below a power of ten that lies between it and the number. So what is rounded to the
number has one of the two between itself and the number, and that one is rounded to the
number as well.
-/

namespace TerminalReel

/-- The value has a numeral of no more than so many digits. -/
def HasNumeral (count : ℕ) (v : ℚ) : Prop := ∃ d : Decimal, d.digits < 10 ^ count ∧ d.value = v

theorem HasNumeral.mono {count more : ℕ} {v : ℚ} (h : HasNumeral count v) (le : count ≤ more) :
    HasNumeral more v := by
  obtain ⟨d, few, value⟩ := h
  exact ⟨d, few.trans_le (Nat.pow_le_pow_right (by decide) le), value⟩

namespace Magnitude

variable {m : Magnitude} {count : ℕ} {d : Decimal} {v : ℚ}

/-- A numeral of no more digits that begins where the number does, or further left, counts
units of the last place of these. -/
theorem exists_units (few : d.digits < 10 ^ count) (left : m.point ≤ d.point) :
    ∃ units : ℕ, d.value = units * 10 ^ m.lastPlace count := by
  have digits := digitCount_le_of_lt few
  obtain ⟨shift, exponent⟩ : ∃ shift : ℕ, d.exponent = shift + m.lastPlace count := by
    refine ⟨(d.exponent - m.lastPlace count).toNat, ?_⟩
    rw [Decimal.point] at left
    rw [lastPlace]
    omega
  refine ⟨d.digits * 10 ^ shift, ?_⟩
  rw [Decimal.value, exponent, zpow_add₀ (by norm_num), zpow_natCast]
  push_cast
  ring

theorem quanta_eq_inPlaces (m : Magnitude) (count : ℕ) :
    (m.quanta : ℚ) = m.inPlaces count * 10 ^ m.lastPlace count * quantaPerOne := by
  have scaled := div_mul_cancel₀ (m.quanta : ℚ) (m.place_pos count).ne'
  rw [← inPlaces] at scaled
  linarith

/-- What is not above the number is not above the numeral below it. -/
theorem value_le_below (pos : 0 < m.quanta) (some_digits : 0 < count)
    (few : d.digits < 10 ^ count) (le : d.value * quantaPerOne ≤ m.quanta) :
    d.value ≤ (m.below count).value := by
  have place : (0 : ℚ) < 10 ^ m.lastPlace count := by positivity
  rcases le_or_gt m.point d.point with left | right
  · obtain ⟨units, value⟩ := exists_units few left
    rw [value, m.quanta_eq_inPlaces count] at le
    have under : (units : ℚ) ≤ m.inPlaces count :=
      le_of_mul_le_mul_right (le_of_mul_le_mul_right le quantaPerOne_cast_pos) place
    rw [value, below, Decimal.value]
    exact mul_le_mul_of_nonneg_right (Nat.cast_le.2 (Nat.le_floor under)) place.le
  · obtain ⟨least, -⟩ := digits_bounds pos some_digits
    have exponent : m.point - 1 = (count - 1 : ℕ) + m.lastPlace count := by
      rw [lastPlace]
      omega
    calc d.value ≤ 10 ^ d.point := d.value_lt.le
      _ ≤ 10 ^ (m.point - 1) := zpow_le_zpow_right₀ (by norm_num) (by omega)
      _ = ((10 ^ (count - 1) : ℕ) : ℚ) * 10 ^ m.lastPlace count := by
        rw [exponent, zpow_add₀ (by norm_num), zpow_natCast]
        push_cast
        rfl
      _ ≤ (m.below count).value := mul_le_mul_of_nonneg_right (Nat.cast_le.2 least) place.le

/-- What is above the number is not below the numeral above it. -/
theorem above_le_value (pos : 0 < m.quanta) (few : d.digits < 10 ^ count)
    (less : m.quanta < d.value * quantaPerOne) : (m.above count).value ≤ d.value := by
  have place : (0 : ℚ) < 10 ^ m.lastPlace count := by positivity
  have left : m.point ≤ d.point := by
    have begins := (le_quanta pos).trans_lt less
    have beyond := (mul_lt_mul_iff_of_pos_right quantaPerOne_cast_pos).1 begins
    have := (zpow_lt_zpow_iff_right₀ (by norm_num)).1 (beyond.trans d.value_lt)
    omega
  obtain ⟨units, value⟩ := exists_units few left
  rw [value, m.quanta_eq_inPlaces count] at less
  have next : m.inPlaces count < units :=
    lt_of_mul_lt_mul_right (lt_of_mul_lt_mul_right less quantaPerOne_cast_pos.le) place.le
  rw [value, above, Decimal.value]
  exact mul_le_mul_of_nonneg_right (Nat.cast_le.2 ((Nat.floor_lt (m.inPlaces_nonneg count)).2 next))
    place.le

theorem below_le (m : Magnitude) (count : ℕ) :
    (m.below count).value * quantaPerOne ≤ m.quanta := by
  have floor := Nat.floor_le (m.inPlaces_nonneg count)
  rw [m.quanta_eq_inPlaces count]
  exact mul_le_mul_of_nonneg_right (mul_le_mul_of_nonneg_right floor (by positivity))
    quantaPerOne_cast_pos.le

theorem le_above (m : Magnitude) (count : ℕ) :
    m.quanta ≤ (m.above count).value * quantaPerOne := by
  have next : m.inPlaces count ≤ (⌊m.inPlaces count⌋₊ + 1 : ℕ) := by
    push_cast
    exact (Nat.lt_floor_add_one _).le
  rw [m.quanta_eq_inPlaces count]
  exact mul_le_mul_of_nonneg_right (mul_le_mul_of_nonneg_right next (by positivity))
    quantaPerOne_cast_pos.le

/-- If a numeral of so many digits is rounded to the number, one is found. -/
theorem isSome_of_hasNumeral (pos : 0 < m.quanta) (some_digits : 0 < count)
    (written : HasNumeral count v) (rounded : nearestQuanta (v * quantaPerOne) = m.quanta) :
    (m.numeralOfLength? count).isSome = true := by
  obtain ⟨d, few, rfl⟩ := written
  obtain ⟨least, greatest⟩ := digits_bounds pos some_digits
  have kept : nearestQuanta m.quanta = m.quanta := nearestQuanta_of_dvd m.fits.2
  have unit := quantaPerOne_cast_pos.le
  refine isSome_numeralOfLength? ?_
  rcases le_or_gt (d.value * quantaPerOne) m.quanta with le | less
  · left
    refine isWrittenBy_of_units some_digits least (Nat.le_of_succ_le greatest) (le_antisymm ?_ ?_)
    · exact (nearestQuanta_mono (m.below_le count)).trans kept.le
    · have between := mul_le_mul_of_nonneg_right (value_le_below pos some_digits few le) unit
      exact rounded.ge.trans (nearestQuanta_mono between)
  · right
    refine isWrittenBy_of_units some_digits (Nat.le_succ_of_le least) greatest (le_antisymm ?_ ?_)
    · have between := mul_le_mul_of_nonneg_right (above_le_value pos few less) unit
      exact (nearestQuanta_mono between).trans rounded.le
    · exact kept.ge.trans (nearestQuanta_mono (m.le_above count))

/-- A numeral that is found has so many digits at most. Where the last of them would be
carried beyond the first, one is enough. -/
theorem hasNumeral_of_numeralOfLength? (pos : 0 < m.quanta) (some_digits : 0 < count)
    (h : m.numeralOfLength? count = some d) : HasNumeral count d.value := by
  obtain ⟨-, greatest⟩ := digits_bounds pos some_digits
  have one : 1 < 10 ^ count := Nat.one_lt_pow some_digits.ne' (by decide)
  rcases (numeralOfLength?_eq_some h).2 with rfl | rfl
  · exact ⟨m.below count, Nat.lt_of_succ_le greatest, rfl⟩
  · rcases greatest.lt_or_eq with less | carried
    · exact ⟨_, less, rfl⟩
    · refine ⟨⟨1, count + m.lastPlace count⟩, one, ?_⟩
      rw [Decimal.value, Decimal.value, carried, zpow_add₀ (by norm_num), zpow_natCast]
      push_cast
      exact one_mul _

/-- No numeral that is rounded to the number has fewer digits than the shortest one. -/
theorem hasNumeral_shortest (pos : 0 < m.quanta) (written : HasNumeral count v)
    (rounded : nearestQuanta (v * quantaPerOne) = m.quanta) :
    HasNumeral count m.shortest.value := by
  obtain ⟨found, some_digits, -, least, fewest⟩ := exists_shortest pos
  have shortest := hasNumeral_of_numeralOfLength? pos some_digits least
  refine shortest.mono (Nat.le_of_not_lt fun fewer => ?_)
  rcases Nat.eq_zero_or_pos count with rfl | some_count
  · -- Without a digit there is zero alone.
    obtain ⟨d, none, rfl⟩ := written
    have zero : d.value = 0 := Decimal.value_eq_zero_iff.2 (Nat.lt_one_iff.1 none)
    rw [zero, zero_mul] at rounded
    have := nearestQuanta_of_dvd (m := 0) (dvd_zero _)
    rw [Nat.cast_zero, rounded] at this
    omega
  · have missed := fewest count some_count fewer
    have := isSome_of_hasNumeral pos some_count written rounded
    rw [missed] at this
    cases this

end Magnitude

end TerminalReel
