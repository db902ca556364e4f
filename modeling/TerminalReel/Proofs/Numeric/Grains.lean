import Mathlib.Algebra.Order.Floor.Semifield
import TerminalReel.Proofs.Numeric.Range
/-!
# TerminalReel.Proofs.Numeric.Grains

Arithmetic that **stays in the finite range**, counted in grains.

A grain is the distance between the greatest binary64 numbers. Up to `2 ^ 53` every whole
number of grains is kept by rounding, so a lesser value is not rounded past it, however
often it is rounded. What stays within so many grains is therefore counted as whole numbers
are: the grains of a sum are those of its terms, no rounding adds one, and with fewer than
`2 ^ 53` of them a result is finite.
-/

namespace TerminalReel

variable {v w : ℚ} {j k : ℕ}

/-! ### Grains -/

/-- The distance between the greatest binary64 numbers. -/
def grain : ℚ := 2 ^ 971

theorem grain_pos : 0 < grain := by
  rw [grain]
  positivity

theorem one_le_grain : 1 ≤ grain := one_le_pow₀ one_le_two

theorem two_pow_mul_grain : 2 ^ 53 * grain = 2 ^ limitExponent := by
  rw [grain, ← pow_add]
  rfl

theorem nearest_grains (few : k ≤ 2 ^ 53) : nearest (k * grain) = k * grain := by
  have quanta : (k : ℚ) * grain = (k * 2 ^ (971 + quantumExponent) : ℕ) / quantaPerOne := by
    rw [eq_div_iff quantaPerOne_cast_pos.ne', quantaPerOne_eq, grain]
    push_cast
    rw [mul_assoc, ← pow_add]
  rw [quanta]
  exact nearest_of_dvd (spacing_dvd_mul_two_pow few _)

/-- What so many grains hold is not rounded past them. -/
theorem nearest_le_grains (few : k ≤ 2 ^ 53) (le : v ≤ k * grain) : nearest v ≤ k * grain := by
  rw [← nearest_grains few]
  exact nearest_mono le

theorem grains_lt_limit (few : k < 2 ^ 53) : (k : ℚ) * grain < 2 ^ limitExponent := by
  rw [← two_pow_mul_grain]
  exact mul_lt_mul_of_pos_right (by exact_mod_cast few) grain_pos

/-- The fewest grains that hold a value. -/
def grainsOf (v : ℚ) : ℕ := ⌈v / grain⌉₊

theorem le_grainsOf (v : ℚ) : v ≤ grainsOf v * grain := by
  rw [← div_le_iff₀ grain_pos]
  exact Nat.le_ceil _

theorem grainsOf_le (nonneg : 0 ≤ v) : (grainsOf v : ℚ) ≤ v / grain + 1 :=
  (Nat.ceil_lt_add_one (div_nonneg nonneg grain_pos.le)).le

theorem nearest_limit : nearest (2 ^ limitExponent) = 2 ^ limitExponent := by
  have kept := nearest_grains (k := 2 ^ 53) le_rfl
  rwa [Nat.cast_pow, Nat.cast_ofNat, two_pow_mul_grain] at kept

namespace Number

/-! ### Within so many grains -/

/-- The number measures what so many grains hold. -/
def StaysIn (k : ℕ) (n : Number) : Prop := ∃ v, n.Measures v ∧ v ≤ k * grain

variable {a b n : Number}

theorem Measures.staysIn (h : n.Measures v) : n.StaysIn (grainsOf v) := ⟨v, h, le_grainsOf v⟩

/-- One grain holds every constant. -/
theorem Measures.staysIn_one (h : n.Measures v) (le : v ≤ 1) : n.StaysIn 1 := by
  refine ⟨v, h, ?_⟩
  rw [Nat.cast_one, one_mul]
  exact le.trans one_le_grain

/-- What can be converted can be written. -/
theorem Measures.isWritable_of_operand {x : Binary64} (h : n.Measures v) (ok : n.operand = .ok x) :
    n.isWritable = true := by
  have below : v < 2 ^ limitExponent := by
    by_contra! large
    have beyond : 2 ^ limitExponent ≤ nearest v := by
      rw [← nearest_limit]
      exact nearest_mono large
    exact absurd (measures_operand h ok).lt_limit (not_lt.2 beyond)
  exact (h.isWithin below).isWritable (by decide)

theorem StaysIn.mono (h : n.StaysIn j) (le : j ≤ k) : n.StaysIn k := by
  obtain ⟨v, hv, v_le⟩ := h
  have grows : (j : ℚ) * grain ≤ k * grain :=
    mul_le_mul_of_nonneg_right (by exact_mod_cast le) grain_pos.le
  exact ⟨v, hv, v_le.trans grows⟩

/-- What a result is rounded from stays in the grains that the result stays in. -/
theorem IsRounded.staysIn (h : n.IsRounded v) (le : v ≤ k * grain) (few : k < 2 ^ 53) :
    n.StaysIn k := by
  have nearer := nearest_le_grains few.le le
  exact ⟨nearest v, h.measures (nearer.trans_lt (grains_lt_limit few)), nearer⟩

theorem StaysIn.operand (h : n.StaysIn k) (few : k < 2 ^ 53) :
    ∃ x, n.operand = .ok x ∧ (float x).StaysIn k := by
  obtain ⟨v, hv, le⟩ := h
  have nearer := nearest_le_grains few.le le
  obtain ⟨x, ok, hx⟩ := operand_of_finite hv (nearer.trans_lt (grains_lt_limit few))
  exact ⟨x, ok, nearest v, hx, nearer⟩

theorem StaysIn.add (ha : a.StaysIn j) (hb : b.StaysIn k) (few : j + k < 2 ^ 53) :
    ∃ c, a.add b = .ok c ∧ c.StaysIn (j + k) := by
  obtain ⟨x, hx, v, hv, v_le⟩ := ha.operand (by omega)
  obtain ⟨y, hy, w, hw, w_le⟩ := hb.operand (by omega)
  have held : v + w ≤ (j + k : ℕ) * grain := by
    push_cast
    linarith
  rcases combine_of_operands (· + ·) .add hx hy with ⟨i, i', rfl, rfl, ok⟩ | ok
  · -- Whole numbers are added as they are, not as their operands.
    obtain ⟨_, hi, i_le⟩ := ha
    obtain ⟨_, hi', i'_le⟩ := hb
    obtain ⟨i_nonneg, rfl⟩ := measures_int_iff.1 hi
    obtain ⟨i'_nonneg, rfl⟩ := measures_int_iff.1 hi'
    refine ⟨_, ok, _, measures_int_iff.2 ⟨by omega, rfl⟩, ?_⟩
    push_cast
    linarith
  · exact ⟨_, ok, (isRounded_add hv hw).staysIn held few⟩

/-- A multiple stays in the grains that hold it in exact arithmetic. -/
theorem exists_count_mul_staysIn {count : ℕ} (counts : count ≤ 2 ^ 53) (hb : b.Measures w)
    (few : grainsOf (count * w) < 2 ^ 53) :
    ∃ c, (int count).mul b = .ok c ∧ c.StaysIn (grainsOf (count * w)) := by
  cases b with
  | int i =>
      obtain ⟨i_nonneg, rfl⟩ := measures_int_iff.1 hb
      have product : (int (count * i)).Measures (count * i) :=
        measures_int_iff.2 ⟨by positivity, by push_cast; rfl⟩
      exact ⟨_, mul_int _ _, product.staysIn⟩
  | float y =>
      obtain ⟨x, hx, mx⟩ := exists_operand (measures_natCast count) (by exact_mod_cast counts)
      rcases combine_of_operands (· * ·) .mul hx (operand_float y) with ⟨_, _, _, e, _⟩ | ok
      · cases e
      · exact ⟨_, ok, (isRounded_mul mx hb).staysIn (le_grainsOf _) few⟩

/-- The greater of two numbers stays in the more of their grains. -/
theorem StaysIn.max (ha : a.StaysIn j) (hb : b.StaysIn k) : (a.max b).StaysIn (j ⊔ k) :=
  max_of_both (ha.mono (le_max_left j k)) (hb.mono (le_max_right j k))

end Number

end TerminalReel
