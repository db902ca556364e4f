/-!
# TerminalReel.Numeric.Rounding

Rounding a quotient of natural numbers to the **nearest** whole number, a half
going to the even neighbour.

Every inexact step of the library is one application of `roundDiv`: binary
rounding applies it to a quotient counted in spacings of the result, decimal
rounding to a quotient counted in the last printed place. So one set of facts
about `roundDiv` serves both.
-/

namespace TerminalReel

/-- The whole number nearest to `num / den`; of two equally near, the even one. -/
def roundDiv (num den : Nat) : Nat :=
  let below := num / den
  let rest := num % den
  if 2 * rest < den ∨ (2 * rest = den ∧ below % 2 = 0) then below else below + 1

/-- Rounding moves to one of the two neighbours. -/
theorem roundDiv_eq_or (num den : Nat) :
    roundDiv num den = num / den ∨ roundDiv num den = num / den + 1 := by
  unfold roundDiv
  dsimp only
  split
  · exact Or.inl rfl
  · exact Or.inr rfl

theorem div_le_roundDiv (num den : Nat) : num / den ≤ roundDiv num den := by
  rcases roundDiv_eq_or num den with h | h <;> omega

theorem roundDiv_le_succ (num den : Nat) : roundDiv num den ≤ num / den + 1 := by
  rcases roundDiv_eq_or num den with h | h <;> omega

/-- A whole quotient is its own rounding. -/
@[simp] theorem roundDiv_mul_self (k : Nat) {den : Nat} (pos : 0 < den) :
    roundDiv (k * den) den = k := by
  unfold roundDiv
  simp [Nat.mul_div_cancel _ pos, pos]

/-- A quotient below a whole number rounds to at most that number. -/
theorem roundDiv_le_of_lt {num den k : Nat} (h : num < k * den) : roundDiv num den ≤ k := by
  have pos : 0 < den := by
    rcases Nat.eq_zero_or_pos den with rfl | pos
    · simp at h
    · exact pos
  have := (Nat.div_lt_iff_lt_mul pos).2 h
  exact Nat.le_trans (roundDiv_le_succ num den) this

end TerminalReel
