import TerminalReel.Numeric.Number
import TerminalReel.Proofs.Numeric.Nearest
/-!
# TerminalReel.Proofs.Numeric.Measure

What the numbers of a configuration **measure**, and what arithmetic makes of
that.

A finite number lies at a rational (`LiesAt`), and numbers compare as what they lie at.
Times and percentages are never negative, so a number counts here as the
nonnegative rational that it measures, or as endless. A zero of either sign
measures zero. As long as results stay below `2 ^ 53` the two kinds of numbers
cannot be told apart by what they measure: a whole number is then its own
nearest binary64 number, and every sum measures the exact sum, rounded once.
-/

namespace TerminalReel

namespace Number

/-- The number is finite and lies at `v`. -/
def LiesAt (n : Number) (v : ℚ) : Prop :=
  ∃ count : ℤ, n.place? = some (.quanta count) ∧ (count : ℚ) = v * quantaPerOne

/-- The number is finite and measures `v`, which is not negative. -/
def Measures (n : Number) (v : ℚ) : Prop :=
  0 ≤ v ∧ ∃ count : ℤ, n.place? = some (.quanta count) ∧ (count : ℚ) = v * quantaPerOne

/-- The greatest number of all. -/
def endless : Number := .float (.infinite false)

/-- The number measures something, or is endless. -/
def Nonneg (n : Number) : Prop := (∃ v, n.Measures v) ∨ n = endless

/-- The number is what `v` is rounded to: it measures the value nearest to `v`,
or is endless where that is beyond the finite range. -/
def IsRounded (n : Number) (v : ℚ) : Prop :=
  n.Measures (nearest v) ∨ n = endless ∧ 2 ^ limitExponent ≤ nearest v

variable {a b c n : Number} {x y : Binary64} {v w z : ℚ}

/-! ### Where a number lies -/

theorem LiesAt.unique (hv : n.LiesAt v) (hw : n.LiesAt w) : v = w := by
  obtain ⟨p, hp, ev⟩ := hv
  obtain ⟨q, hq, ew⟩ := hw
  rw [hp, Option.some.injEq, Place.quanta.injEq] at hq
  rw [hq, ew] at ev
  exact (mul_right_cancel₀ quantaPerOne_cast_pos.ne' ev).symm

theorem LiesAt.lt_iff (ha : a.LiesAt v) (hb : b.LiesAt w) : a.lt b = true ↔ v < w := by
  obtain ⟨p, hp, ev⟩ := ha
  obtain ⟨q, hq, ew⟩ := hb
  rw [lt, compares, hp, hq]
  dsimp only
  rw [Place.lt_quanta, decide_eq_true_eq, ← Int.cast_lt (R := ℚ), ev, ew]
  exact mul_lt_mul_iff_of_pos_right quantaPerOne_cast_pos

theorem LiesAt.le_iff (ha : a.LiesAt v) (hb : b.LiesAt w) : a.le b = true ↔ v ≤ w := by
  obtain ⟨p, hp, ev⟩ := ha
  obtain ⟨q, hq, ew⟩ := hb
  rw [le, compares, hp, hq]
  dsimp only
  rw [Place.le_quanta, decide_eq_true_eq, ← Int.cast_le (R := ℚ), ev, ew]
  exact mul_le_mul_iff_of_pos_right quantaPerOne_cast_pos

/-! ### What a number measures -/

theorem Measures.nonneg (h : n.Measures v) : 0 ≤ v := h.1

theorem Measures.liesAt (h : n.Measures v) : n.LiesAt v := h.2

theorem Measures.unique (hv : n.Measures v) (hw : n.Measures w) : v = w :=
  hv.liesAt.unique hw.liesAt

theorem measures_int_iff {i : ℤ} : (int i).Measures v ↔ 0 ≤ i ∧ v = i := by
  have pos := quantaPerOne_cast_pos
  constructor
  · rintro ⟨hv, count, place, e⟩
    obtain rfl : i * quantaPerOne = count := Place.quanta.inj (Option.some.inj place)
    have : v = i := by
      push_cast at e
      exact (mul_right_cancel₀ pos.ne' e).symm
    subst this
    exact ⟨by exact_mod_cast hv, rfl⟩
  · rintro ⟨hi, rfl⟩
    exact ⟨by exact_mod_cast hi, i * quantaPerOne, rfl, by push_cast; ring⟩

theorem measures_natCast (k : ℕ) : (int k).Measures k :=
  measures_int_iff.2 ⟨Int.natCast_nonneg k, by simp⟩

/-- A binary64 number that measures something is finite, and negative only as a
zero. -/
theorem measures_float_iff : (float x).Measures v ↔
    ∃ negative m, x = .finite negative m ∧ v = m.quanta / quantaPerOne
      ∧ (negative = true → m.quanta = 0) := by
  have pos := quantaPerOne_cast_pos
  constructor
  · rintro ⟨hv, count, place, e⟩
    cases x with
    | nan => simp [place?] at place
    | infinite negative => cases negative <;> simp [place?] at place
    | finite negative m =>
        obtain rfl : Binary64.signedQuanta negative m = count := by simpa [place?] using place
        have hcount : (0 : ℚ) ≤ (Binary64.signedQuanta negative m : ℤ) := by
          rw [e]
          positivity
        cases negative with
        | false =>
            refine ⟨false, m, rfl, ?_, by simp⟩
            rw [eq_div_iff pos.ne', ← e]
            simp [Binary64.signedQuanta]
        | true =>
            have zero : m.quanta = 0 := by
              have : (0 : ℤ) ≤ Binary64.signedQuanta true m := by exact_mod_cast hcount
              simp only [Binary64.signedQuanta, if_true] at this
              omega
            refine ⟨true, m, rfl, ?_, fun _ => zero⟩
            rw [eq_div_iff pos.ne', ← e]
            simp [Binary64.signedQuanta, zero]
  · rintro ⟨negative, m, rfl, rfl, sign⟩
    refine ⟨div_nonneg (Nat.cast_nonneg _) pos.le, m.quanta, ?_, ?_⟩
    · cases negative with
      | false => simp [place?, Binary64.signedQuanta]
      | true => simp [place?, Binary64.signedQuanta, sign rfl]
    · rw [div_mul_cancel₀ _ pos.ne', Int.cast_natCast]

theorem two_pow_limit_mul : (2 : ℚ) ^ limitExponent * quantaPerOne = quantaLimit := by
  rw [quantaLimit, quantaPerOne, twoPower_eq, twoPower_eq, pow_add]
  push_cast
  ring

/-- What a binary64 number measures is kept by rounding. -/
theorem Measures.nearest_float (h : (float x).Measures v) : nearest v = v := by
  obtain ⟨_, m, _, rfl, _⟩ := measures_float_iff.1 h
  exact nearest_of_dvd m.fits.2

/-- Below `2 ^ 53` what any number measures is kept by rounding. -/
theorem Measures.nearest_eq (h : n.Measures v) (small : v ≤ 2 ^ 53) : nearest v = v := by
  cases n with
  | float x => exact h.nearest_float
  | int i =>
      obtain ⟨hi, rfl⟩ := measures_int_iff.1 h
      obtain ⟨k, rfl⟩ := Int.eq_ofNat_of_zero_le hi
      have : k ≤ 2 ^ 53 := by exact_mod_cast small
      exact_mod_cast nearest_natCast this

/-- The binary64 numbers that measure something lie below `2 ^ 1024`. -/
theorem Measures.lt_limit (h : (float x).Measures v) : v < 2 ^ limitExponent := by
  obtain ⟨_, m, _, rfl, _⟩ := measures_float_iff.1 h
  rw [div_lt_iff₀ quantaPerOne_cast_pos, two_pow_limit_mul]
  exact_mod_cast m.fits.1

theorem not_measures_endless : ¬ endless.Measures v := by
  intro h
  obtain ⟨_, _, e, _⟩ := measures_float_iff.1 h
  cases e

theorem Nonneg.of_measures (h : n.Measures v) : n.Nonneg := Or.inl ⟨v, h⟩

/-! ### Order -/

theorem Measures.lt_iff (ha : a.Measures v) (hb : b.Measures w) : a.lt b = true ↔ v < w :=
  ha.liesAt.lt_iff hb.liesAt

theorem Measures.le_iff (ha : a.Measures v) (hb : b.Measures w) : a.le b = true ↔ v ≤ w :=
  ha.liesAt.le_iff hb.liesAt

@[simp] theorem place?_endless : endless.place? = some .rightEnd := rfl

theorem Measures.lt_endless (h : a.Measures v) : a.lt endless = true := by
  obtain ⟨_, p, hp, _⟩ := h
  rw [lt, compares, hp, place?_endless]
  rfl

theorem Measures.not_endless_lt (h : a.Measures v) : endless.lt a = false := by
  obtain ⟨_, p, hp, _⟩ := h
  rw [lt, compares, hp, place?_endless]
  rfl

theorem Measures.not_endless_le (h : a.Measures v) : endless.le a = false := by
  obtain ⟨_, p, hp, _⟩ := h
  rw [le, compares, hp, place?_endless]
  rfl

/-! ### Rounded results -/

theorem IsRounded.nonneg (h : n.IsRounded v) : n.Nonneg := by
  rcases h with h | ⟨h, -⟩
  · exact Or.inl ⟨_, h⟩
  · exact Or.inr h

theorem IsRounded.eq_nearest (h : n.IsRounded v) (hz : n.Measures z) : z = nearest v := by
  rcases h with h | ⟨rfl, -⟩
  · exact hz.unique h
  · exact absurd hz not_measures_endless

theorem IsRounded.measures (h : n.IsRounded v) (bound : nearest v < 2 ^ limitExponent) :
    n.Measures (nearest v) := by
  rcases h with h | ⟨-, beyond⟩
  · exact h
  · exact absurd beyond (not_le.2 bound)

/-- Below `2 ^ 53` no result is endless. -/
theorem IsRounded.measures_of_le (h : n.IsRounded v) (small : v ≤ 2 ^ 53) :
    n.Measures (nearest v) :=
  h.measures ((nearest_le_two_pow small).trans_lt (pow_lt_pow_right₀ (by norm_num) (by decide)))

/-- Every rounded quotient of quanta is what its value is rounded to. -/
theorem isRounded_ofRatio {negative : Bool} {num den : ℕ} (pos : 0 < den)
    (sign : negative = true → num = 0) :
    (float (.ofRatio negative num den pos)).IsRounded (num / den / quantaPerOne) := by
  have quanta : nearest (num / den / quantaPerOne) = nearestFit num den / quantaPerOne := by
    rw [nearest, div_mul_cancel₀ _ quantaPerOne_cast_pos.ne', nearestFit_eq_nearestQuanta num pos]
  rw [IsRounded, quanta]
  by_cases inRange : nearestFit num den < quantaLimit
  · left
    rw [Binary64.ofRatio, dif_pos inRange]
    refine measures_float_iff.2 ⟨negative, _, rfl, rfl, fun isNegative => ?_⟩
    dsimp only
    rw [sign isNegative, nearestFit_eq_nearestQuanta _ pos]
    simp [nearestQuanta]
  · right
    have positive : negative = false := by
      cases negative with
      | false => rfl
      | true =>
          rw [sign rfl, nearestFit_eq_nearestQuanta _ pos] at inRange
          simp [nearestQuanta, quantaLimit_pos] at inRange
    rw [Binary64.ofRatio, dif_neg inRange, positive]
    refine ⟨rfl, ?_⟩
    rw [le_div_iff₀ quantaPerOne_cast_pos, two_pow_limit_mul]
    exact_mod_cast Nat.not_lt.1 inRange

end Number

end TerminalReel
