import Mathlib.Algebra.Order.Floor.Semifield
import TerminalReel.Numeric.Binary64
import TerminalReel.Proofs.Numeric.Rounding
/-!
# TerminalReel.Proofs.Numeric.Nearest

Binary rounding as a function of **one rational number**.

`nearestFit` answers in quanta and `ofRatio` in numbers. Both are read here
through `nearest`, which takes a value to the value of the number nearest to it
and knows no upper limit. All that the order of times and percentages needs of
binary64 arithmetic are four facts about it: `nearest` is monotone, keeps what 53
bits hold, moves a value by a 2⁵³rd part at most, and is what every operation
rounds by.
-/

namespace TerminalReel

/-! ### The spacing of the representable numbers -/

theorem twoPower_eq (exponent : ℕ) : twoPower exponent = 2 ^ exponent := rfl

theorem spacing_eq (n : ℕ) : spacing n = 2 ^ (n.log2 - 52) := twoPower_eq _

theorem quantaPerOne_eq : quantaPerOne = 2 ^ quantumExponent := twoPower_eq _

theorem spacing_mono : Monotone spacing := by
  intro m n h
  rcases Nat.eq_zero_or_pos m with rfl | pos
  · exact Nat.pow_le_pow_right (by decide) (by simp)
  · have hn : n ≠ 0 := by omega
    have : m.log2 ≤ n.log2 := (Nat.le_log2 hn).2 ((Nat.log2_self_le pos.ne').trans h)
    exact Nat.pow_le_pow_right (by decide) (by omega)

/-- Powers of two from the leading bit on are multiples of the spacing. -/
theorem spacing_dvd_two_pow {n e : ℕ} (h : n.log2 ≤ e) : spacing n ∣ 2 ^ e :=
  Nat.pow_dvd_pow 2 (by omega)

/-- Above the finest spacing, the spacing is a 2⁵²nd part of the leading bit. -/
theorem spacing_mul_le (n : ℕ) : spacing n * 2 ^ 52 ≤ n + 2 ^ 52 := by
  rcases Nat.lt_or_ge n.log2 53 with small | large
  · have : spacing n = 1 := by
      rw [spacing_eq, Nat.sub_eq_zero_of_le (by omega), pow_zero]
    omega
  · have hn : n ≠ 0 := by
      rintro rfl
      simp at large
    have : spacing n * 2 ^ 52 = 2 ^ n.log2 := by
      rw [spacing_eq, ← pow_add, Nat.sub_add_cancel (by omega)]
    have := Nat.log2_self_le hn
    omega

/-- What 53 bits and a shift hold is a multiple of the spacing at its size. -/
theorem spacing_dvd_mul_two_pow {n : ℕ} (h : n ≤ 2 ^ 53) (shift : ℕ) :
    spacing (n * 2 ^ shift) ∣ n * 2 ^ shift := by
  rcases Nat.eq_zero_or_pos n with rfl | pos
  · simp
  · rcases Nat.lt_or_eq_of_le h with less | rfl
    · have : (n * 2 ^ shift).log2 < 53 + shift := by
        rw [Nat.log2_lt (by positivity), pow_add]
        exact Nat.mul_lt_mul_of_pos_right less (by positivity)
      exact (Nat.pow_dvd_pow 2 (by omega)).trans (Nat.dvd_mul_left _ n)
    · rw [← pow_add]
      exact spacing_dvd_two_pow (by rw [Nat.log2_two_pow])

/-! ### The nearest number of quanta -/

/-- The representable number of quanta nearest to a rational one. -/
def nearestQuanta (x : ℚ) : ℕ := roundRat (x / spacing ⌊x⌋₊) * spacing ⌊x⌋₊

theorem nearestFit_eq_nearestQuanta (num : ℕ) {den : ℕ} (pos : 0 < den) :
    nearestFit num den = nearestQuanta (num / den) := by
  rw [nearestFit, nearestQuanta, Nat.floor_div_eq_div,
    roundDiv_eq_roundRat _ (Nat.mul_pos pos (spacing_pos _)), Nat.cast_mul, div_mul_eq_div_div]

/-- A rounded quotient depends on the exact quotient only. -/
theorem ofRatio_congr {negative : Bool} {num den num' den' : ℕ} (pos : 0 < den) (pos' : 0 < den')
    (h : (num : ℚ) / den = num' / den') :
    Binary64.ofRatio negative num den pos = .ofRatio negative num' den' pos' := by
  have same : nearestFit num den = nearestFit num' den' := by
    rw [nearestFit_eq_nearestQuanta num pos, nearestFit_eq_nearestQuanta num' pos', h]
  rw [Binary64.ofRatio, Binary64.ofRatio]
  by_cases inRange : nearestFit num den < quantaLimit
  · rw [dif_pos inRange, dif_pos (same ▸ inRange)]
    exact congrArg (Binary64.finite negative) (Magnitude.eq_of_quanta_eq same)
  · rw [dif_neg inRange, dif_neg (same ▸ inRange)]

theorem spacing_cast_pos (n : ℕ) : (0 : ℚ) < spacing n := by exact_mod_cast spacing_pos n

/-- A value is not rounded past a multiple of its spacing above it. -/
theorem nearestQuanta_le {x : ℚ} {m : ℕ} (dvd : spacing ⌊x⌋₊ ∣ m) (h : x ≤ m) :
    nearestQuanta x ≤ m := by
  obtain ⟨k, rfl⟩ := dvd
  rw [nearestQuanta, Nat.mul_comm]
  apply Nat.mul_le_mul_left
  have : x / spacing ⌊x⌋₊ ≤ (k : ℚ) := by
    rw [div_le_iff₀ (spacing_cast_pos _)]
    push_cast at h
    linarith
  calc roundRat (x / spacing ⌊x⌋₊) ≤ roundRat k := roundRat_mono this
    _ = k := roundRat_natCast k

/-- A value is not rounded past a multiple of its spacing below it. -/
theorem le_nearestQuanta {x : ℚ} {m : ℕ} (dvd : spacing ⌊x⌋₊ ∣ m) (h : m ≤ x) :
    m ≤ nearestQuanta x := by
  obtain ⟨k, rfl⟩ := dvd
  rw [nearestQuanta, Nat.mul_comm]
  apply Nat.mul_le_mul_right
  have : (k : ℚ) ≤ x / spacing ⌊x⌋₊ := by
    rw [le_div_iff₀ (spacing_cast_pos _)]
    push_cast at h
    linarith
  calc k = roundRat k := (roundRat_natCast k).symm
    _ ≤ roundRat (x / spacing ⌊x⌋₊) := roundRat_mono this

theorem nearestQuanta_mono : Monotone nearestQuanta := by
  intro x y h
  have floors : ⌊x⌋₊ ≤ ⌊y⌋₊ := Nat.floor_mono h
  rcases Nat.lt_or_ge ⌊x⌋₊.log2 ⌊y⌋₊.log2 with below | same
  · -- A power of two lies between them, and neither is rounded past it.
    have between : x ≤ (2 ^ ⌊y⌋₊.log2 : ℕ) := by
      have : ⌊x⌋₊ + 1 ≤ 2 ^ ⌊y⌋₊.log2 :=
        Nat.lt_log2_self.trans_le (Nat.pow_le_pow_right (by decide) below)
      calc x ≤ (⌊x⌋₊ + 1 : ℕ) := by
            push_cast
            exact (Nat.lt_floor_add_one x).le
        _ ≤ (2 ^ ⌊y⌋₊.log2 : ℕ) := by exact_mod_cast this
    have positive : ⌊y⌋₊ ≠ 0 := by
      intro zero
      simp [zero] at below
    have above : ((2 ^ ⌊y⌋₊.log2 : ℕ) : ℚ) ≤ y :=
      (Nat.cast_le.2 (Nat.log2_self_le positive)).trans
        (Nat.floor_le (Nat.pos_of_floor_pos (Nat.pos_of_ne_zero positive)).le)
    exact (nearestQuanta_le (spacing_dvd_two_pow below.le) between).trans
      (le_nearestQuanta (spacing_dvd_two_pow le_rfl) above)
  · have : spacing ⌊x⌋₊ = spacing ⌊y⌋₊ :=
      Nat.le_antisymm (spacing_mono floors) (Nat.pow_le_pow_right (by decide) (by omega))
    rw [nearestQuanta, nearestQuanta, this]
    apply Nat.mul_le_mul_right
    apply roundRat_mono
    exact div_le_div_of_nonneg_right h (spacing_cast_pos _).le

/-- A multiple of the spacing at its own size is kept. -/
theorem nearestQuanta_of_dvd {m : ℕ} (h : spacing m ∣ m) : nearestQuanta m = m :=
  Nat.le_antisymm (nearestQuanta_le (by rwa [Nat.floor_natCast]) le_rfl)
    (le_nearestQuanta (by rwa [Nat.floor_natCast]) le_rfl)

theorem abs_nearestQuanta_sub_le {x : ℚ} (h : 0 ≤ x) :
    |(nearestQuanta x : ℚ) - x| ≤ x / 2 ^ 53 + 1 / 2 := by
  have pos := spacing_cast_pos ⌊x⌋₊
  have half := abs_roundRat_sub_le (x := x / spacing ⌊x⌋₊) (by positivity)
  have width : (spacing ⌊x⌋₊ : ℚ) * 2 ^ 52 ≤ x + 2 ^ 52 := by
    calc (spacing ⌊x⌋₊ : ℚ) * 2 ^ 52 ≤ (⌊x⌋₊ : ℚ) + 2 ^ 52 := by
          exact_mod_cast spacing_mul_le ⌊x⌋₊
      _ ≤ x + 2 ^ 52 := by linarith [Nat.floor_le h]
  have scaled : (nearestQuanta x : ℚ) - x
      = ((roundRat (x / spacing ⌊x⌋₊) : ℚ) - x / spacing ⌊x⌋₊) * spacing ⌊x⌋₊ := by
    rw [nearestQuanta, sub_mul, div_mul_cancel₀ x pos.ne', Nat.cast_mul]
  rw [scaled, abs_mul, abs_of_pos pos]
  calc |(roundRat (x / spacing ⌊x⌋₊) : ℚ) - x / spacing ⌊x⌋₊| * spacing ⌊x⌋₊
      ≤ 1 / 2 * spacing ⌊x⌋₊ := mul_le_mul_of_nonneg_right half pos.le
    _ ≤ x / 2 ^ 53 + 1 / 2 := by
      norm_num at width ⊢
      linarith

/-! ### The nearest value -/

theorem quantaPerOne_cast_pos : (0 : ℚ) < quantaPerOne := by exact_mod_cast quantaPerOne_pos

/-- The value of the binary64 number nearest to a value, were there no greatest
one; below zero, zero. -/
def nearest (v : ℚ) : ℚ := nearestQuanta (v * quantaPerOne) / quantaPerOne

theorem nearest_mono : Monotone nearest := by
  intro v w h
  have quanta := nearestQuanta_mono (mul_le_mul_of_nonneg_right h quantaPerOne_cast_pos.le)
  exact div_le_div_of_nonneg_right (Nat.cast_le.2 quanta) quantaPerOne_cast_pos.le

theorem nearest_nonneg (v : ℚ) : 0 ≤ nearest v :=
  div_nonneg (Nat.cast_nonneg _) quantaPerOne_cast_pos.le

/-- The value of a representable number of quanta is kept. -/
theorem nearest_of_dvd {m : ℕ} (h : spacing m ∣ m) :
    nearest (m / quantaPerOne) = m / quantaPerOne := by
  rw [nearest, div_mul_cancel₀ _ quantaPerOne_cast_pos.ne', nearestQuanta_of_dvd h]

/-- A whole number of binary places that 53 bits hold is kept. -/
theorem nearest_dyadic {n : ℕ} (h : n ≤ 2 ^ 53) {places : ℕ} (fine : places ≤ quantumExponent) :
    nearest (n / 2 ^ places) = n / 2 ^ places := by
  have quanta : (n : ℚ) / 2 ^ places
      = (n * 2 ^ (quantumExponent - places) : ℕ) / quantaPerOne := by
    have : (quantaPerOne : ℚ) = 2 ^ places * 2 ^ (quantumExponent - places) := by
      rw [quantaPerOne_eq, ← pow_add, Nat.add_sub_cancel' fine]
      push_cast
      rfl
    rw [this]
    push_cast
    rw [mul_div_mul_right _ _ (by positivity)]
  rw [quanta]
  exact nearest_of_dvd (spacing_dvd_mul_two_pow h _)

theorem nearest_natCast {n : ℕ} (h : n ≤ 2 ^ 53) : nearest n = n := by
  simpa using nearest_dyadic h (Nat.zero_le quantumExponent)

@[simp] theorem nearest_zero : nearest 0 = 0 := by
  simpa using nearest_natCast (n := 0) (by norm_num)

theorem nearest_two_pow : nearest (2 ^ 53) = 2 ^ 53 := by
  have h := nearest_natCast (n := 2 ^ 53) le_rfl
  push_cast at h
  exact h

theorem nearest_le_two_pow {v : ℚ} (h : v ≤ 2 ^ 53) : nearest v ≤ 2 ^ 53 := by
  rw [← nearest_two_pow]
  exact nearest_mono h

theorem two_pow_le_nearest {v : ℚ} (h : 2 ^ 53 ≤ v) : 2 ^ 53 ≤ nearest v := by
  rw [← nearest_two_pow]
  exact nearest_mono h

theorem lt_of_nearest_lt {v : ℚ} (h : nearest v < 2 ^ 53) : v < 2 ^ 53 := by
  by_contra! large
  exact absurd (two_pow_le_nearest large) (not_le.2 h)

/-- Below `2 ^ 52` half a unit more is not rounded away: a multiple of one half lies
above the value and is kept. -/
theorem lt_nearest_add_half {v : ℚ} (nonneg : 0 ≤ v) (small : v < 2 ^ 52) :
    v < nearest (v + 1 / 2) := by
  have above : 2 * v < (⌊2 * v⌋₊ + 1 : ℕ) := by
    push_cast
    exact Nat.lt_floor_add_one _
  have below : (⌊2 * v⌋₊ : ℚ) ≤ 2 * v := Nat.floor_le (by linarith)
  have few : ⌊2 * v⌋₊ + 1 ≤ 2 ^ 53 := by
    have : (⌊2 * v⌋₊ : ℚ) < (2 ^ 53 : ℕ) := by
      push_cast
      linarith
    exact_mod_cast this
  have kept := nearest_dyadic few (show 1 ≤ quantumExponent by decide)
  calc v < (⌊2 * v⌋₊ + 1 : ℕ) / 2 ^ 1 := by
        rw [lt_div_iff₀ (by norm_num)]
        linarith
    _ = nearest ((⌊2 * v⌋₊ + 1 : ℕ) / 2 ^ 1) := kept.symm
    _ ≤ nearest (v + 1 / 2) := by
      apply nearest_mono
      rw [div_le_iff₀ (by norm_num)]
      push_cast
      linarith

/-- Rounding moves a value by a 2⁵³rd part of it, or of one. -/
theorem abs_nearest_sub_le {v : ℚ} (h : 0 ≤ v) : |nearest v - v| ≤ (v + 1) / 2 ^ 53 := by
  have pos := quantaPerOne_cast_pos
  have quanta := abs_nearestQuanta_sub_le (x := v * quantaPerOne) (by positivity)
  have fine : 1 / 2 ≤ (quantaPerOne : ℚ) / 2 ^ 53 := by
    have : 2 ^ 53 ≤ quantaPerOne := by
      rw [quantaPerOne_eq]
      exact Nat.pow_le_pow_right (by decide) (by decide)
    rw [div_le_div_iff₀ (by norm_num) (by norm_num)]
    have : (2 ^ 53 : ℚ) ≤ quantaPerOne := by exact_mod_cast this
    linarith
  have scaled : nearest v - v
      = ((nearestQuanta (v * quantaPerOne) : ℚ) - v * quantaPerOne) / quantaPerOne := by
    rw [nearest, sub_div, mul_div_cancel_right₀ v pos.ne']
  rw [scaled, abs_div, abs_of_pos pos, div_le_iff₀ pos]
  calc |(nearestQuanta (v * quantaPerOne) : ℚ) - v * quantaPerOne|
      ≤ v * quantaPerOne / 2 ^ 53 + 1 / 2 := quanta
    _ ≤ v * quantaPerOne / 2 ^ 53 + quantaPerOne / 2 ^ 53 := by linarith
    _ = (v + 1) / 2 ^ 53 * quantaPerOne := by ring

end TerminalReel
