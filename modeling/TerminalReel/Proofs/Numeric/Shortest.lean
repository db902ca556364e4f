import Mathlib.Algebra.Order.Field.Power
import TerminalReel.Numeric.Decimal
import TerminalReel.Proofs.Numeric.Nearest
import TerminalReel.Proofs.Numeric.Numeral
/-!
# TerminalReel.Proofs.Numeric.Shortest

**Seventeen digits are enough** to write any binary64 number.

A numeral is read as the number nearest to its value, so it matters only how far
that value is from the number. Between neighbours on the grid of seventeen digits
lies less than a 10¹⁶th part of the number, and half of that is less than a 2⁵⁴th
part, from within which everything is rounded to the number. A numeral of fewer digits
is sought first, and there too among the two neighbours of the number
(`numeralOfLength?_eq`); so the shortest one is the first that is found
(`exists_shortest`).
-/

namespace TerminalReel

/-! ### Powers of ten -/

theorem tenPower_ratio (exponent : ℤ) :
    ((tenPower exponent).1 : ℚ) / (tenPower exponent).2 = 10 ^ exponent := by
  have ten : (10 : ℚ) ≠ 0 := by norm_num
  have parts : ((exponent.toNat : ℤ) - ((-exponent).toNat : ℤ)) = exponent := by omega
  rw [tenPower, Nat.pow_eq, Nat.pow_eq, Nat.cast_pow, Nat.cast_pow, ← zpow_natCast,
    ← zpow_natCast, Nat.cast_ofNat, ← zpow_sub₀ ten, parts]

theorem digitCount_pos {n : ℕ} (pos : 0 < n) : 0 < digitCount n := by
  rw [digitCount, if_neg pos.ne']
  exact List.length_pos_iff.2 Nat.toDigits_ne_nil

theorem lt_pow_digitCount (n : ℕ) : n < 10 ^ digitCount n := by
  rcases Nat.eq_zero_or_pos n with rfl | pos
  · norm_num
  · have positive := digitCount_pos pos
    rw [digitCount, if_neg pos.ne'] at positive ⊢
    exact (Nat.length_toDigits_le_iff (by decide) positive).1 le_rfl

theorem pow_digitCount_le {n : ℕ} (pos : 0 < n) : 10 ^ (digitCount n - 1) ≤ n := by
  rw [digitCount, if_neg pos.ne']
  by_contra! less
  rcases Nat.eq_zero_or_pos ((Nat.toDigits 10 n).length - 1) with zero | positive
  · rw [zero] at less
    omega
  · have := (Nat.length_toDigits_le_iff (by decide) positive).2 less
    omega

/-- A power of ten above a number has as many zeros as the number has digits. -/
theorem digitCount_le_of_lt {n count : ℕ} (h : n < 10 ^ count) : digitCount n ≤ count := by
  rcases Nat.eq_zero_or_pos n with rfl | pos
  · exact Nat.zero_le _
  · have := Nat.pow_lt_pow_iff_right (show 1 < 10 by decide) |>.1
      ((pow_digitCount_le pos).trans_lt h)
    omega

/-! ### What a numeral is worth -/

namespace Decimal

variable {d d' : Decimal} {negative : Bool}

/-- The number that a numeral writes, exactly. -/
def value (d : Decimal) : ℚ := d.digits * 10 ^ d.exponent

theorem value_eq_zero_iff : d.value = 0 ↔ d.digits = 0 := by
  rw [value, mul_eq_zero, Nat.cast_eq_zero, or_iff_left (zpow_ne_zero _ (by norm_num))]

theorem value_lt (d : Decimal) : d.value < 10 ^ d.point := by
  rw [value, point, zpow_add₀ (by norm_num), zpow_natCast]
  have less : (d.digits : ℚ) < 10 ^ digitCount d.digits := by
    exact_mod_cast lt_pow_digitCount d.digits
  exact mul_lt_mul_of_pos_right less (by positivity)

theorem le_value (pos : 0 < d.digits) : 10 ^ (d.point - 1) ≤ d.value := by
  have count := digitCount_pos pos
  have exponent : d.point - 1 = ((digitCount d.digits - 1 : ℕ) : ℤ) + d.exponent := by
    rw [point]
    omega
  rw [value, exponent, zpow_add₀ (by norm_num), zpow_natCast]
  have le : (10 : ℚ) ^ (digitCount d.digits - 1) ≤ d.digits := by
    exact_mod_cast pow_digitCount_le pos
  exact mul_le_mul_of_nonneg_right le (by positivity)

/-- Where the leading digit stands is a matter of the value. -/
theorem point_eq_of_value_eq (pos : 0 < d.digits) (pos' : 0 < d'.digits)
    (same : d.value = d'.value) : d.point = d'.point := by
  have ten : (1 : ℚ) < 10 := by norm_num
  have below := (zpow_lt_zpow_iff_right₀ ten).1 ((le_value pos).trans_lt (same ▸ d'.value_lt))
  have above := (zpow_lt_zpow_iff_right₀ ten).1 ((le_value pos').trans_lt (same ▸ d.value_lt))
  omega

theorem quanta_eq (d : Decimal) :
    ((d.digits * (tenPower d.exponent).1 * quantaPerOne : ℕ) : ℚ) / (tenPower d.exponent).2
      = d.value * quantaPerOne := by
  rw [value, ← tenPower_ratio]
  push_cast
  ring

/-- Numerals with the same value are read as the same number. -/
theorem toBinary64_congr (same : d.value = d'.value) :
    d.toBinary64 negative = d'.toBinary64 negative := by
  rcases Nat.eq_zero_or_pos d.digits with zero | pos
  · have zero' := value_eq_zero_iff.1 (same ▸ value_eq_zero_iff.2 zero)
    rw [toBinary64, toBinary64, if_pos (Or.inl zero), if_pos (Or.inl zero')]
  · have pos' : 0 < d'.digits := by
      rw [Nat.pos_iff_ne_zero, Ne, ← value_eq_zero_iff, ← same, value_eq_zero_iff]
      exact pos.ne'
    have ratio : Binary64.ofRatio negative _ _ (tenPower_snd_pos d.exponent)
        = Binary64.ofRatio negative _ _ (tenPower_snd_pos d'.exponent) :=
      ofRatio_congr _ _ (by rw [quanta_eq, quanta_eq, same])
    simp only [toBinary64, pos.ne', pos'.ne', false_or, point_eq_of_value_eq pos pos' same, ratio]

end Decimal

/-! ### What is rounded to a number -/

theorem add_le_of_dvd {s a b : ℕ} (ha : s ∣ a) (hb : s ∣ b) (less : a < b) : a + s ≤ b := by
  have := Nat.le_of_dvd (Nat.sub_pos_of_lt less) (Nat.dvd_sub hb ha)
  omega

variable {x : ℚ} {quanta : ℕ}

/-- So near to a representable number a value has no more bits than the number. -/
theorem log2_floor_le_of_near (fits : spacing quanta ∣ quanta)
    (near : |x - quanta| < quanta / 2 ^ 54) : ⌊x⌋₊.log2 ≤ quanta.log2 := by
  by_contra! more
  have floor_pos : ⌊x⌋₊ ≠ 0 := by
    intro zero
    simp [zero] at more
  have step : quanta + spacing quanta ≤ 2 ^ (quanta.log2 + 1) :=
    add_le_of_dvd fits (spacing_dvd_two_pow (Nat.le_succ _)) Nat.lt_log2_self
  have above : 2 ^ (quanta.log2 + 1) ≤ ⌊x⌋₊ :=
    (Nat.pow_le_pow_right (by decide) more).trans (Nat.log2_self_le floor_pos)
  have floor_le : (⌊x⌋₊ : ℚ) ≤ x :=
    Nat.floor_le (Nat.pos_of_floor_pos (Nat.pos_of_ne_zero floor_pos)).le
  have far : (quanta : ℚ) + spacing quanta ≤ x :=
    le_trans (by exact_mod_cast step.trans above) floor_le
  have width : (quanta : ℚ) < 2 ^ 53 * spacing quanta := by
    exact_mod_cast lt_two_pow_mul_spacing quanta
  have := (abs_lt.1 near).2
  norm_num at this width
  linarith [spacing_cast_pos quanta]

/-- Nor is the spacing at the value so fine that the number has more than 53 bits. -/
theorem le_two_pow_mul_spacing_of_near (pos : 0 < quanta) (fits : spacing quanta ∣ quanta)
    (near : |x - quanta| < quanta / 2 ^ 54) : quanta ≤ 2 ^ 53 * spacing ⌊x⌋₊ := by
  by_contra! more
  have bits : 53 + (⌊x⌋₊.log2 - 52) ≤ quanta.log2 := by
    rw [Nat.le_log2 pos.ne', pow_add]
    exact more.le
  have coarse : 2 * spacing ⌊x⌋₊ ∣ spacing quanta := by
    rw [spacing_eq, spacing_eq, ← pow_succ']
    exact Nat.pow_dvd_pow 2 (by omega)
  have step := add_le_of_dvd (Nat.mul_dvd_mul_right (show 2 ∣ 2 ^ 53 by decide) (spacing ⌊x⌋₊))
    (coarse.trans fits) more
  have below : x < 2 ^ 53 * spacing ⌊x⌋₊ := by
    have next : ⌊x⌋₊ + 1 ≤ 2 ^ 53 * spacing ⌊x⌋₊ := lt_two_pow_mul_spacing _
    calc x < ⌊x⌋₊ + 1 := Nat.lt_floor_add_one x
      _ ≤ 2 ^ 53 * spacing ⌊x⌋₊ := by exact_mod_cast next
  have far : (2 : ℚ) ^ 53 * spacing ⌊x⌋₊ + 2 * spacing ⌊x⌋₊ ≤ quanta := by exact_mod_cast step
  have := (abs_lt.1 near).1
  norm_num at this below far
  linarith [spacing_cast_pos ⌊x⌋₊]

/-- Less than a 2⁵⁴th part away from a representable number, everything is rounded to it. -/
theorem nearestQuanta_of_near (pos : 0 < quanta) (fits : spacing quanta ∣ quanta)
    (near : |x - quanta| < quanta / 2 ^ 54) : nearestQuanta x = quanta := by
  have unit := spacing_cast_pos ⌊x⌋₊
  have few := le_two_pow_mul_spacing_of_near pos fits near
  have finer : spacing ⌊x⌋₊ ∣ spacing quanta := by
    have := log2_floor_le_of_near fits near
    exact Nat.pow_dvd_pow 2 (by omega)
  obtain ⟨count, rfl⟩ := finer.trans fits
  have rounded : roundRat (x / spacing ⌊x⌋₊) = count := by
    apply roundRat_eq_of_abs_lt
    have scaled : x / spacing ⌊x⌋₊ - count = (x - (spacing ⌊x⌋₊ * count : ℕ)) / spacing ⌊x⌋₊ := by
      push_cast
      field_simp
    have bound : ((spacing ⌊x⌋₊ * count : ℕ) : ℚ) ≤ 2 ^ 53 * spacing ⌊x⌋₊ := by exact_mod_cast few
    rw [scaled, abs_div, abs_of_pos unit, div_lt_iff₀ unit]
    refine near.trans_le ?_
    norm_num at bound ⊢
    linarith
  rw [nearestQuanta, rounded, Nat.mul_comm]

namespace Magnitude

variable {m : Magnitude}

/-! ### Where the digits of a number begin -/

theorem le_quanta (pos : 0 < m.quanta) :
    (10 : ℚ) ^ (m.point - 1) * quantaPerOne ≤ m.quanta := by
  rw [point]
  split
  · rename_i whole
    have some_digits := Nat.div_pos whole quantaPerOne_pos
    have count := digitCount_pos some_digits
    have exponent : (digitCount (m.quanta / quantaPerOne) : ℤ) - 1
        = (digitCount (m.quanta / quantaPerOne) - 1 : ℕ) := by omega
    rw [exponent, zpow_natCast]
    exact_mod_cast (Nat.le_div_iff_mul_le quantaPerOne_pos).1 (pow_digitCount_le some_digits)
  · have above := (Nat.div_lt_iff_lt_mul pos).1 (lt_pow_digitCount ((quantaPerOne - 1) / m.quanta))
    have reached : quantaPerOne ≤ 10 ^ digitCount ((quantaPerOne - 1) / m.quanta) * m.quanta := by
      omega
    have exponent (count : ℤ) : 1 - count - 1 = -count := by omega
    rw [exponent, zpow_neg, zpow_natCast, inv_mul_le_iff₀ (by positivity)]
    exact_mod_cast reached

theorem quanta_lt (pos : 0 < m.quanta) : (m.quanta : ℚ) < 10 ^ m.point * quantaPerOne := by
  rw [point]
  split
  · rw [zpow_natCast]
    exact_mod_cast (Nat.div_lt_iff_lt_mul quantaPerOne_pos).1 (lt_pow_digitCount _)
  · rename_i part
    have some_digits : 0 < (quantaPerOne - 1) / m.quanta := Nat.div_pos (by omega) pos
    have count := digitCount_pos some_digits
    have below := (Nat.le_div_iff_mul_le pos).1 (pow_digitCount_le some_digits)
    have one_pos := quantaPerOne_pos
    have left :
        10 ^ (digitCount ((quantaPerOne - 1) / m.quanta) - 1) * m.quanta < quantaPerOne := by
      omega
    have exponent : 1 - (digitCount ((quantaPerOne - 1) / m.quanta) : ℤ)
        = -(digitCount ((quantaPerOne - 1) / m.quanta) - 1 : ℕ) := by omega
    rw [exponent, zpow_neg, zpow_natCast, lt_inv_mul_iff₀ (by positivity)]
    exact_mod_cast left

/-- The leading digit of every number stands within reach of the point. -/
theorem abs_point_le (m : Magnitude) : |m.point| < Decimal.reach := by
  have limit : quantaLimit ≤ quantaPerOne * 10 ^ 309 := by
    rw [quantaLimit, quantaPerOne, twoPower_eq, twoPower_eq, pow_add]
    exact Nat.mul_le_mul_left _ (by decide +kernel)
  have one : quantaPerOne ≤ 10 ^ 324 := by decide +kernel
  rw [abs_lt, Decimal.reach, point]
  split
  · have := digitCount_le_of_lt (Nat.div_lt_of_lt_mul (m.fits.1.trans_le limit))
    omega
  · have less : (quantaPerOne - 1) / m.quanta < 10 ^ 324 := by
      have := Nat.div_le_self (quantaPerOne - 1) m.quanta
      have := quantaPerOne_pos
      omega
    have := digitCount_le_of_lt less
    omega

/-! ### Numerals of so many digits -/

section Numerals

variable {count : ℕ} {d : Decimal}

/-- The power of ten that the last of so many digits counts. -/
def lastPlace (m : Magnitude) (count : ℕ) : ℤ := m.point - count

/-- The number, counted in units of the last of so many digits. -/
def inPlaces (m : Magnitude) (count : ℕ) : ℚ := m.quanta / (quantaPerOne * 10 ^ m.lastPlace count)

theorem place_pos (m : Magnitude) (count : ℕ) : (0 : ℚ) < quantaPerOne * 10 ^ m.lastPlace count :=
  mul_pos quantaPerOne_cast_pos (by positivity)

theorem inPlaces_bounds (pos : 0 < m.quanta) (some_digits : 0 < count) :
    10 ^ (count - 1) ≤ m.inPlaces count ∧ m.inPlaces count < 10 ^ count := by
  have ten : (10 : ℚ) ≠ 0 := by norm_num
  have first : m.point - 1 = (count - 1 : ℕ) + m.lastPlace count := by
    rw [lastPlace]
    omega
  have next : m.point = (count : ℕ) + m.lastPlace count := by
    rw [lastPlace]
    omega
  have le := le_quanta pos
  have lt := quanta_lt pos
  rw [first, zpow_add₀ ten, zpow_natCast] at le
  rw [next, zpow_add₀ ten, zpow_natCast] at lt
  rw [inPlaces, le_div_iff₀ (m.place_pos count), div_lt_iff₀ (m.place_pos count)]
  constructor <;> linarith

theorem inPlaces_nonneg (m : Magnitude) (count : ℕ) : 0 ≤ m.inPlaces count :=
  div_nonneg (Nat.cast_nonneg _) (m.place_pos count).le

/-- The numeral of so many digits that is not above the number. -/
def below (m : Magnitude) (count : ℕ) : Decimal := ⟨⌊m.inPlaces count⌋₊, m.lastPlace count⟩

/-- The next numeral of so many digits, above the number. -/
def above (m : Magnitude) (count : ℕ) : Decimal := ⟨⌊m.inPlaces count⌋₊ + 1, m.lastPlace count⟩

theorem digits_bounds (pos : 0 < m.quanta) (some_digits : 0 < count) :
    10 ^ (count - 1) ≤ (m.below count).digits ∧ (m.above count).digits ≤ 10 ^ count := by
  obtain ⟨many, few⟩ := inPlaces_bounds pos some_digits
  exact ⟨Nat.le_floor (by exact_mod_cast many),
    (Nat.floor_lt (m.inPlaces_nonneg count)).2 (by exact_mod_cast few)⟩

/-- A numeral is sought among these two. -/
theorem numeralOfLength?_eq (m : Magnitude) (count : ℕ) :
    ∃ nearer, (nearer = m.below count ∨ nearer = m.above count) ∧ m.numeralOfLength? count =
      if m.IsWrittenBy (m.below count) then
        if m.IsWrittenBy (m.above count) then some nearer else some (m.below count)
      else if m.IsWrittenBy (m.above count) then some (m.above count) else none := by
  have floor : m.quanta * (tenPower (m.lastPlace count)).2
      / (quantaPerOne * (tenPower (m.lastPlace count)).1) = ⌊m.inPlaces count⌋₊ := by
    rw [inPlaces, ← tenPower_ratio, ← mul_div_assoc, div_div_eq_mul_div, ← Nat.cast_mul,
      ← Nat.cast_mul, Nat.floor_div_eq_div]
  have place : m.point - count = m.lastPlace count := rfl
  simp only [numeralOfLength?, place, below, above, ← floor]
  refine ⟨_, ?_, rfl⟩
  rcases roundDiv_eq_or (m.quanta * (tenPower (m.lastPlace count)).2)
    (quantaPerOne * (tenPower (m.lastPlace count)).1) with e | e
  · rw [e]
    exact Or.inl rfl
  · rw [e]
    exact Or.inr rfl

/-- A numeral that is found for a number writes it and is one of these two. -/
theorem numeralOfLength?_eq_some (h : m.numeralOfLength? count = some d) :
    m.IsWrittenBy d ∧ (d = m.below count ∨ d = m.above count) := by
  obtain ⟨nearer, choice, found⟩ := m.numeralOfLength?_eq count
  rw [found] at h
  split at h
  · rename_i low
    split at h
    · rename_i high
      obtain rfl := Option.some.inj h
      rcases choice with rfl | rfl
      · exact ⟨low, Or.inl rfl⟩
      · exact ⟨high, Or.inr rfl⟩
    · obtain rfl := Option.some.inj h
      exact ⟨low, Or.inl rfl⟩
  · split at h
    · rename_i high
      obtain rfl := Option.some.inj h
      exact ⟨high, Or.inr rfl⟩
    · cases h

/-- Where one of the two writes the number, a numeral is found. -/
theorem isSome_numeralOfLength?
    (h : m.IsWrittenBy (m.below count) ∨ m.IsWrittenBy (m.above count)) :
    (m.numeralOfLength? count).isSome = true := by
  obtain ⟨nearer, -, found⟩ := m.numeralOfLength?_eq count
  rw [found]
  rcases h with low | high
  · rw [if_pos low]
    split <;> rfl
  · rw [if_pos high, if_pos high]
    split <;> rfl

/-- A numeral within reach whose value is rounded to a number writes the number. -/
theorem isWrittenBy_of_nearestQuanta (digits : 0 < d.digits) (within : |d.point| ≤ Decimal.reach)
    (rounded : nearestQuanta (d.value * quantaPerOne) = m.quanta) : m.IsWrittenBy d := by
  obtain ⟨left, right⟩ := abs_le.1 within
  have fit : nearestFit (d.digits * (tenPower d.exponent).1 * quantaPerOne)
      (tenPower d.exponent).2 = m.quanta := by
    rw [nearestFit_eq_nearestQuanta _ (tenPower_snd_pos _), Decimal.quanta_eq, rounded]
  rw [IsWrittenBy, Decimal.toBinary64, if_neg (by omega), if_neg (by omega), Binary64.ofRatio,
    dif_pos (by rw [fit]; exact m.fits.1)]
  exact congrArg (Binary64.finite false) (eq_of_quanta_eq fit)

/-- The numerals about a number are within reach, so that it is enough that they are
rounded to it. -/
theorem isWrittenBy_of_units (some_digits : 0 < count) {units : ℕ}
    (least : 10 ^ (count - 1) ≤ units) (greatest : units ≤ 10 ^ count)
    (rounded : nearestQuanta ((⟨units, m.lastPlace count⟩ : Decimal).value * quantaPerOne)
      = m.quanta) : m.IsWrittenBy ⟨units, m.lastPlace count⟩ := by
  have within := abs_lt.1 m.abs_point_le
  have more : count - 1 < digitCount units :=
    (Nat.pow_lt_pow_iff_right (by decide)).1 (least.trans_lt (lt_pow_digitCount units))
  have less : digitCount units ≤ count + 1 :=
    digitCount_le_of_lt (greatest.trans_lt (Nat.pow_lt_pow_right (by decide) (by omega)))
  refine isWrittenBy_of_nearestQuanta (lt_of_lt_of_le (by positivity) least) ?_ rounded
  rw [abs_le, Decimal.point, lastPlace]
  dsimp only
  omega

end Numerals

/-! ### Seventeen digits -/

/-- The whole number of units that is no farther than half of one writes the number. -/
theorem isWrittenBy_units (pos : 0 < m.quanta) {units : ℕ}
    (near : |(units : ℚ) - m.inPlaces 17| ≤ 1 / 2) (least : 10 ^ 16 ≤ units)
    (greatest : units ≤ 10 ^ 17) : m.IsWrittenBy ⟨units, m.lastPlace 17⟩ := by
  have unit := m.place_pos 17
  have many := (inPlaces_bounds pos (show 0 < 17 by decide)).1
  have quanta : (m.quanta : ℚ) = m.inPlaces 17 * (quantaPerOne * 10 ^ m.lastPlace 17) :=
    (div_mul_cancel₀ _ unit.ne').symm
  refine isWrittenBy_of_units (by decide) least greatest
    (nearestQuanta_of_near pos m.fits.2 ?_)
  have scaled : (⟨units, m.lastPlace 17⟩ : Decimal).value * quantaPerOne - m.quanta
      = (units - m.inPlaces 17) * (quantaPerOne * 10 ^ m.lastPlace 17) := by
    rw [Decimal.value, quanta]
    ring
  rw [scaled, abs_mul, abs_of_pos unit, quanta]
  calc |(units : ℚ) - m.inPlaces 17| * (quantaPerOne * 10 ^ m.lastPlace 17)
      ≤ 1 / 2 * (quantaPerOne * 10 ^ m.lastPlace 17) := mul_le_mul_of_nonneg_right near unit.le
    _ < m.inPlaces 17 / 2 ^ 54 * (quantaPerOne * 10 ^ m.lastPlace 17) := by
      apply mul_lt_mul_of_pos_right _ unit
      norm_num at many ⊢
      linarith
    _ = m.inPlaces 17 * (quantaPerOne * 10 ^ m.lastPlace 17) / 2 ^ 54 := by ring

/-- Of two neighbouring whole numbers one is no farther than half a unit. -/
theorem near_floor_or {y : ℚ} (nonneg : 0 ≤ y) :
    |(⌊y⌋₊ : ℚ) - y| ≤ 1 / 2 ∨ |((⌊y⌋₊ + 1 : ℕ) : ℚ) - y| ≤ 1 / 2 := by
  have below := Nat.floor_le nonneg
  have above := Nat.lt_floor_add_one y
  push_cast
  rcases le_total (y - ⌊y⌋₊) (1 / 2) with near | far
  · left
    rw [abs_le]
    constructor <;> linarith
  · right
    rw [abs_le]
    constructor <;> linarith

theorem numeralOfLength?_seventeen (pos : 0 < m.quanta) :
    (m.numeralOfLength? 17).isSome = true := by
  obtain ⟨least, greatest⟩ := digits_bounds pos (show 0 < 17 by decide)
  refine isSome_numeralOfLength? ?_
  rcases near_floor_or (m.inPlaces_nonneg 17) with near | near
  · exact Or.inl (isWrittenBy_units pos near least (Nat.le_of_succ_le greatest))
  · exact Or.inr (isWrittenBy_units pos near (Nat.le_succ_of_le least) greatest)

/-- The shortest numeral of a number is the first that is found. -/
theorem exists_shortest (pos : 0 < m.quanta) : ∃ count, 0 < count ∧ count ≤ 17 ∧
    m.numeralOfLength? count = some m.shortest ∧
    ∀ fewer, 0 < fewer → fewer < count → m.numeralOfLength? fewer = none := by
  have found : ((List.range 17).findSome? fun count => m.numeralOfLength? (count + 1)).isSome := by
    rw [List.findSome?_isSome_iff]
    exact ⟨16, by decide, numeralOfLength?_seventeen pos⟩
  obtain ⟨d, found⟩ := Option.isSome_iff_exists.1 found
  have shortest : m.shortest = d := by
    rw [Magnitude.shortest, found]
    rfl
  obtain ⟨before, index, after, split, written, none⟩ := List.findSome?_eq_some_iff.1 found
  have sorted := split ▸ List.pairwise_lt_range (n := 17)
  have bound : index ∈ List.range 17 := by
    rw [split]
    exact List.mem_append_right _ List.mem_cons_self
  refine ⟨index + 1, Nat.succ_pos _, List.mem_range.1 bound, shortest ▸ written, ?_⟩
  intro fewer some_digits less
  have member : fewer - 1 ∈ before ++ index :: after := by
    rw [← split, List.mem_range]
    have := List.mem_range.1 bound
    omega
  obtain ⟨-, later, -⟩ := List.pairwise_append.1 sorted
  rcases List.mem_append.1 member with earlier | rest
  · have nothing := none _ earlier
    rwa [Nat.sub_add_cancel some_digits] at nothing
  · rcases List.mem_cons.1 rest with same | beyond
    · omega
    · have := List.rel_of_pairwise_cons later beyond
      omega

/-- The shortest numeral of a number writes it. -/
theorem isWrittenBy_shortest (pos : 0 < m.quanta) : m.IsWrittenBy m.shortest := by
  obtain ⟨count, -, -, found, -⟩ := exists_shortest pos
  exact (numeralOfLength?_eq_some found).1

end Magnitude

end TerminalReel
