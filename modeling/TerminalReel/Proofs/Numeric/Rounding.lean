import Mathlib.Data.Rat.Floor
import Mathlib.Tactic.FieldSimp
import Mathlib.Tactic.Linarith
import Mathlib.Tactic.Positivity
import Mathlib.Tactic.Ring
import TerminalReel.Numeric.Rounding
/-!
# TerminalReel.Proofs.Numeric.Rounding

What rounding a quotient does to the **number that the quotient stands for**.

`roundDiv` takes a numerator and a denominator, but its answer depends on their
ratio alone (`roundDiv_eq_roundRat`). So it is studied as a function of one
rational number: it is monotone, at most half a unit away from its argument, and
the whole number closer than half a unit wherever there is one.

On both sides of zero the nearest integer is given by what it is (`IsNearestInt`), which
is enough for rounding to keep the order (`IsNearestInt.le`).
-/

namespace TerminalReel

/-! ### Two quotients -/

theorem div_le_div_of_mul_le {num den num' den' : ℕ} (pos : 0 < den) (pos' : 0 < den')
    (h : num * den' ≤ num' * den) : num / den ≤ num' / den' := by
  rw [Nat.le_div_iff_mul_le pos']
  apply Nat.le_of_mul_le_mul_right _ pos
  calc num / den * den' * den = num / den * den * den' := by ring
    _ ≤ num * den' := Nat.mul_le_mul_right _ (Nat.div_mul_le_self num den)
    _ ≤ num' * den := h

/-- Of two quotients the greater is not rounded to less. -/
theorem roundDiv_le_roundDiv {num den num' den' : ℕ} (pos : 0 < den) (pos' : 0 < den')
    (h : num * den' ≤ num' * den) : roundDiv num den ≤ roundDiv num' den' := by
  rcases Nat.lt_or_eq_of_le (div_le_div_of_mul_le pos pos' h) with below | same
  · calc roundDiv num den ≤ num / den + 1 := roundDiv_le_succ num den
      _ ≤ num' / den' := below
      _ ≤ roundDiv num' den' := div_le_roundDiv num' den'
  · -- The floors agree, so the remainders are in the order of the quotients.
    have rests : num % den * den' ≤ num' % den' * den := by
      have e := Nat.div_add_mod num den
      have e' := Nat.div_add_mod num' den'
      rw [← same] at e'
      nlinarith
    unfold roundDiv
    dsimp only
    rw [← same]
    by_cases up : 2 * (num' % den') < den' ∨ (2 * (num' % den') = den' ∧ num / den % 2 = 0)
    · have down : 2 * (num % den) < den ∨ (2 * (num % den) = den ∧ num / den % 2 = 0) := by
        rcases up with less | ⟨tie, even⟩
        · left
          by_contra! ge
          nlinarith
        · rcases Nat.lt_or_ge (2 * (num % den)) den with less | ge
          · exact Or.inl less
          · refine Or.inr ⟨Nat.le_antisymm ?_ ge, even⟩
            by_contra! gt
            nlinarith
      rw [if_pos up, if_pos down]
    · rw [if_neg up]
      split <;> omega

/-! ### The nearest whole number to a rational -/

/-- The whole number nearest to a rational, a half going to the even neighbour;
below zero, zero. -/
def roundRat (x : ℚ) : ℕ := roundDiv x.num.toNat x.den

theorem num_toNat_div_den {x : ℚ} (h : 0 ≤ x) : (x.num.toNat : ℚ) / x.den = x := by
  have : ((x.num.toNat : ℤ) : ℚ) = x.num := by
    rw [Int.toNat_of_nonneg (Rat.num_nonneg.2 h)]
  rw [← Int.cast_natCast, this, Rat.num_div_den]

/-- Rounding depends on the ratio alone. -/
theorem roundDiv_eq_roundRat (num : ℕ) {den : ℕ} (pos : 0 < den) :
    roundDiv num den = roundRat (num / den) := by
  have posDen : 0 < ((num : ℚ) / den).den := Rat.den_pos _
  have ratio : num * ((num : ℚ) / den).den = ((num : ℚ) / den).num.toNat * den := by
    have h := num_toNat_div_den (x := (num : ℚ) / den) (by positivity)
    have : (((num : ℚ) / den).den : ℚ) ≠ 0 := by positivity
    have : (den : ℚ) ≠ 0 := by positivity
    rw [div_eq_div_iff (by assumption) (by assumption)] at h
    exact_mod_cast h.symm
  exact Nat.le_antisymm (roundDiv_le_roundDiv pos posDen ratio.le)
    (roundDiv_le_roundDiv posDen pos ratio.ge)

@[simp] theorem roundRat_natCast (k : ℕ) : roundRat k = k := by
  have h := roundDiv_mul_self k Nat.one_pos
  rw [roundDiv_eq_roundRat _ (by decide)] at h
  simpa using h

@[simp] theorem roundRat_zero : roundRat 0 = 0 := by simpa using roundRat_natCast 0

theorem roundRat_of_nonpos {x : ℚ} (h : x ≤ 0) : roundRat x = 0 := by
  have : x.num.toNat = 0 := Int.toNat_of_nonpos (Rat.num_nonpos.2 h)
  rw [roundRat, this]
  simpa using roundDiv_mul_self 0 (Rat.den_pos x)

theorem roundRat_mono : Monotone roundRat := by
  intro x y h
  rcases le_or_gt x 0 with nonpos | pos
  · rw [roundRat_of_nonpos nonpos]
    exact Nat.zero_le _
  · apply roundDiv_le_roundDiv (Rat.den_pos x) (Rat.den_pos y)
    have hx := num_toNat_div_den pos.le
    have hy := num_toNat_div_den (pos.le.trans h)
    have dx : (0 : ℚ) < x.den := by exact_mod_cast Rat.den_pos x
    have dy : (0 : ℚ) < y.den := by exact_mod_cast Rat.den_pos y
    rw [← hx, ← hy, div_le_div_iff₀ dx dy] at h
    exact_mod_cast h

/-- The whole number is as near as any, and even if another one is as near. -/
def IsNearestWhole (k : ℕ) (x : ℚ) : Prop :=
  |(k : ℚ) - x| ≤ 1 / 2 ∧ (|(k : ℚ) - x| = 1 / 2 → Even k)

/-- A rational is a whole number and a rest, and rounding goes by the rest. -/
theorem roundRat_eq (x : ℚ) : roundRat x =
    if 2 * (x.num.toNat % x.den) < x.den ∨
        (2 * (x.num.toNat % x.den) = x.den ∧ x.num.toNat / x.den % 2 = 0) then
      x.num.toNat / x.den
    else x.num.toNat / x.den + 1 := rfl

theorem isNearestWhole_roundRat {x : ℚ} (h : 0 ≤ x) : IsNearestWhole (roundRat x) x := by
  have den : (0 : ℚ) < x.den := by exact_mod_cast Rat.den_pos x
  have split : x = (x.num.toNat / x.den : ℕ) + (x.num.toNat % x.den : ℕ) / (x.den : ℚ) := by
    have e : ((x.den * (x.num.toNat / x.den) + x.num.toNat % x.den : ℕ) : ℚ) = x.num.toNat := by
      rw [Nat.div_add_mod]
    have hx := num_toNat_div_den h
    rw [div_eq_iff den.ne'] at hx
    push_cast at e
    field_simp
    linarith
  have less : (x.num.toNat % x.den : ℕ) < x.den := Nat.mod_lt _ (Rat.den_pos x)
  rw [roundRat_eq]
  generalize x.num.toNat / x.den = whole at *
  generalize x.num.toNat % x.den = rest at *
  have part : 0 ≤ (rest : ℚ) / x.den ∧ (rest : ℚ) / x.den ≤ 1 :=
    ⟨by positivity, (div_le_one den).2 (by exact_mod_cast less.le)⟩
  have le_half : (rest : ℚ) / x.den ≤ 1 / 2 ↔ 2 * rest ≤ x.den := by
    rw [div_le_div_iff₀ den two_pos, one_mul, mul_comm]
    exact_mod_cast Iff.rfl
  have half_le : 1 / 2 ≤ (rest : ℚ) / x.den ↔ x.den ≤ 2 * rest := by
    rw [div_le_div_iff₀ two_pos den, one_mul, mul_comm]
    exact_mod_cast Iff.rfl
  split
  · rename_i down
    have near := le_half.2 (by omega)
    have gap : |(whole : ℚ) - x| = (rest : ℚ) / x.den := by
      rw [abs_sub_comm, abs_of_nonneg (by linarith)]
      linarith
    refine ⟨gap.trans_le near, fun tie => Nat.even_iff.2 ?_⟩
    have := half_le.1 (by linarith)
    omega
  · rename_i up
    have near := half_le.2 (by omega)
    have gap : |((whole + 1 : ℕ) : ℚ) - x| = 1 - (rest : ℚ) / x.den := by
      push_cast
      rw [abs_of_nonneg (by linarith)]
      linarith
    refine ⟨by linarith, fun tie => Nat.even_iff.2 ?_⟩
    have := le_half.1 (by linarith)
    omega

/-- Rounding moves by half a unit at most. -/
theorem abs_roundRat_sub_le {x : ℚ} (h : 0 ≤ x) : |(roundRat x : ℚ) - x| ≤ 1 / 2 :=
  (isNearestWhole_roundRat h).1

/-- A whole number closer than half a unit is the nearest one. -/
theorem roundRat_eq_of_abs_lt {x : ℚ} {k : ℕ} (h : |x - k| < 1 / 2) : roundRat x = k := by
  rcases le_or_gt x 0 with nonpos | pos
  · have : (k : ℚ) < 1 := by
      have := (abs_lt.1 h).1
      linarith
    have : k = 0 := by
      have : k < 1 := by exact_mod_cast this
      omega
    rw [roundRat_of_nonpos nonpos, this]
  · have near := abs_roundRat_sub_le pos.le
    have gap : |(roundRat x : ℚ) - k| < 1 := by
      calc |(roundRat x : ℚ) - k| = |((roundRat x : ℚ) - x) + (x - k)| := by ring_nf
        _ ≤ |(roundRat x : ℚ) - x| + |x - k| := abs_add_le _ _
        _ < 1 := by linarith
    have : |(roundRat x : ℤ) - k| < 1 := by exact_mod_cast gap
    have := Int.abs_lt_one_iff.1 this
    omega

/-! ### The nearest integer to a rational -/

/-- The integer is as near as any, and even if another one is as near. -/
def IsNearestInt (k : ℤ) (x : ℚ) : Prop :=
  |(k : ℚ) - x| ≤ 1 / 2 ∧ (|(k : ℚ) - x| = 1 / 2 → Even k)

theorem IsNearestWhole.isNearestInt {k : ℕ} {x : ℚ} (h : IsNearestWhole k x) :
    IsNearestInt k x := by
  rw [IsNearestInt, Int.cast_natCast, Int.even_coe_nat]
  exact h

namespace IsNearestInt

variable {j k : ℤ} {x y : ℚ}

/-- Rounding treats both sides of zero alike. -/
theorem neg (h : IsNearestInt k x) : IsNearestInt (-k) (-x) := by
  have mirrored : |((-k : ℤ) : ℚ) - -x| = |(k : ℚ) - x| := by
    rw [Int.cast_neg, neg_sub_neg, abs_sub_comm]
  rw [IsNearestInt, mirrored]
  exact ⟨h.1, fun tie => (h.2 tie).neg⟩

/-- Rounding keeps the order. -/
theorem le (hj : IsNearestInt j x) (hk : IsNearestInt k y) (h : x ≤ y) : j ≤ k := by
  by_contra! less
  have apart : (k : ℚ) + 1 ≤ j := by exact_mod_cast less
  have above := (abs_le.1 hj.1).2
  have below := (abs_le.1 hk.1).1
  -- Both are half a unit away and next to each other, so one of them is odd.
  have next : (j : ℚ) = (k + 1 : ℤ) := by
    push_cast
    linarith
  have even_j : Even j := hj.2 (by rw [abs_of_nonneg] <;> linarith)
  have even_k : Even k := hk.2 (by rw [abs_of_nonpos] <;> linarith)
  rw [Int.cast_injective next, Int.even_add_one] at even_j
  exact even_j even_k

/-- No two integers are nearest: of two that are as near, one is odd. -/
theorem unique (hj : IsNearestInt j x) (hk : IsNearestInt k x) : j = k :=
  le_antisymm (hj.le hk le_rfl) (hk.le hj le_rfl)

end IsNearestInt

end TerminalReel
