import TerminalReel.Numeric.Numeral
import TerminalReel.Proofs.Numeric.Arithmetic
/-!
# TerminalReel.Proofs.Numeric.Range

Arithmetic that has no result **for one reason only**: a whole number is too large.

A whole number that meets a binary64 number is rounded to one, and one that is written
is written digit by digit. Both have a limit, and as long as nothing is divided by zero,
nothing else can go wrong. So the bits of whole numbers are followed through every
operation: a sum has one bit more than its terms, a product the bits of both factors,
and a result of binary64 arithmetic none. The lemmas carry along a proposition `P`
under which the operands have that few bits: one pass over a computation says both what
can go wrong for all numbers, and that nothing does for moderate ones.
-/

namespace TerminalReel

/-- A whole number was too large to be computed with, or to be written. -/
def ArithmeticError.IsOverflow (e : ArithmeticError) : Prop := e = .intTooLarge ∨ e = .tooManyDigits

/-- The computation ends in a `good` value, or in an overflow where `P` does not hold. -/
abbrev Computes {α : Type} (P : Prop) (good : α → Prop) (x : Except ArithmeticError α) : Prop :=
  Ends good (fun e => e.IsOverflow ∧ ¬P) x

/-- The computation ends well, or at a whole number that is too large to be converted. -/
abbrev Converts {α : Type} (x : Except ArithmeticError α) : Prop :=
  Ends (fun _ => True) (· = .intTooLarge) x

/-- Whole numbers with this many bits are binary64 operands. -/
def operandBits : ℕ := 1023

namespace Number

/-- A whole number with at most this many bits, or a binary64 number. -/
def IsWithin (bits : ℕ) : Number → Prop
  | .int n => n.natAbs < 2 ^ bits
  | .float _ => True

/-- A binary64 number. -/
def IsFloat (n : Number) : Prop := ∃ x, n = float x

variable {P : Prop} {a b n : Number} {j k : ℕ}

theorem isFloat_float (x : Binary64) : (float x).IsFloat := ⟨x, rfl⟩

theorem isWithin_int {bits : ℕ} {i : ℤ} : (int i).IsWithin bits ↔ i.natAbs < Nat.pow 2 bits :=
  Iff.rfl

theorem isWithin_float (bits : ℕ) (x : Binary64) : (float x).IsWithin bits := trivial

theorem Measures.isWithin {bits : ℕ} {v : ℚ} (h : n.Measures v) (below : v < 2 ^ bits) :
    n.IsWithin bits := by
  cases n with
  | float x => trivial
  | int i =>
      obtain ⟨nonneg, rfl⟩ := measures_int_iff.1 h
      obtain ⟨k, rfl⟩ := Int.eq_ofNat_of_zero_le nonneg
      have : k < 2 ^ bits := by exact_mod_cast below
      exact this

theorem IsWithin.mono (h : n.IsWithin j) (le : j ≤ k) : n.IsWithin k := by
  cases n with
  | int i => exact lt_of_lt_of_le h (Nat.pow_le_pow_right Nat.two_pos le)
  | float x => trivial

theorem IsFloat.isWithin (h : n.IsFloat) (bits : ℕ) : n.IsWithin bits := by
  obtain ⟨x, rfl⟩ := h
  exact isWithin_float bits x

/-! ### Operands -/

theorem nearestQuanta_two_pow (e : ℕ) : nearestQuanta ((2 ^ e : ℕ) : ℚ) = 2 ^ e :=
  nearestQuanta_of_dvd (spacing_dvd_two_pow Nat.log2_two_pow.le)

/-- A power of two is its own rounding, and rounding goes past none. -/
theorem isFinite_ofInt {i : ℤ} (h : i.natAbs < 2 ^ k) (inside : k < limitExponent) :
    (Binary64.ofInt i).isFinite = true := by
  have below : i.natAbs * quantaPerOne ≤ 2 ^ (k + quantumExponent) := by
    rw [quantaPerOne_eq, Nat.pow_add]
    exact Nat.mul_le_mul_right _ h.le
  have rounded : nearestFit (i.natAbs * quantaPerOne) 1
      = nearestQuanta ((i.natAbs * quantaPerOne : ℕ) : ℚ) := by
    rw [nearestFit_eq_nearestQuanta _ Nat.one_pos, Nat.cast_one, div_one]
  have inRange : nearestFit (i.natAbs * quantaPerOne) 1 < quantaLimit :=
    calc nearestFit (i.natAbs * quantaPerOne) 1
        = nearestQuanta ((i.natAbs * quantaPerOne : ℕ) : ℚ) := rounded
      _ ≤ nearestQuanta ((2 ^ (k + quantumExponent) : ℕ) : ℚ) :=
        nearestQuanta_mono (Nat.cast_le.2 below)
      _ = 2 ^ (k + quantumExponent) := nearestQuanta_two_pow _
      _ < 2 ^ (quantumExponent + limitExponent) :=
        Nat.pow_lt_pow_right Nat.one_lt_two (by omega)
      _ = quantaLimit := (twoPower_eq _).symm
  rw [Binary64.ofInt, Binary64.ofRatio, dif_pos inRange]
  rfl

theorem computes_operand (h : P → n.IsWithin operandBits) :
    Computes P (fun _ => True) n.operand := by
  cases n with
  | float x => exact .ok trivial
  | int i =>
      rw [operand]
      split
      · exact .ok trivial
      · rename_i beyond
        exact .error ⟨.inl rfl, fun holds => beyond (isFinite_ofInt (h holds) (by decide))⟩

theorem converts_operand (n : Number) : Converts n.operand := by
  cases n with
  | float x => exact .ok trivial
  | int i =>
      rw [operand]
      split
      · exact .ok trivial
      · exact .error rfl

/-! ### Sums and products -/

theorem converts_combine (exact : ℤ → ℤ → ℤ) (rounded : Binary64 → Binary64 → Binary64)
    (a b : Number) : Converts (combine exact rounded a b) := by
  rcases combine_cases exact rounded a b with ⟨i, j, -, -, whole⟩ | mixed
  · rw [whole]
    exact .ok trivial
  · rw [mixed]
    exact a.converts_operand.bind fun _ _ => b.converts_operand.bind fun _ _ => .pure trivial

/-- Two whole numbers are combined exactly, and all else gives a binary64 number. -/
theorem computes_combine {exact : ℤ → ℤ → ℤ} {rounded : Binary64 → Binary64 → Binary64}
    {bits : ℕ} (ha : P → a.IsWithin operandBits) (hb : P → b.IsWithin operandBits)
    (whole : ∀ i j, a = int i → b = int j → P → (exact i j).natAbs < 2 ^ bits) :
    Computes P (fun c => P → c.IsWithin bits) (combine exact rounded a b) := by
  rcases combine_cases exact rounded a b with ⟨i, j, hi, hj, e⟩ | e
  · rw [e]
    exact .ok (whole i j hi hj)
  · rw [e]
    exact (computes_operand ha).bind fun x _ => (computes_operand hb).bind fun y _ =>
      .pure fun _ => trivial

/-- What is no greater than both sizes together has one bit more. -/
theorem computes_combine_of_le {exact : ℤ → ℤ → ℤ} {rounded : Binary64 → Binary64 → Binary64}
    (ha : P → a.IsWithin k) (hb : P → b.IsWithin k) (small : k ≤ operandBits)
    (le : ∀ i j, (exact i j).natAbs ≤ i.natAbs + j.natAbs) :
    Computes P (fun c => P → c.IsWithin (k + 1)) (combine exact rounded a b) := by
  refine computes_combine (fun holds => (ha holds).mono small) (fun holds => (hb holds).mono small)
    fun i j hi hj holds => ?_
  subst hi hj
  have hi : i.natAbs < 2 ^ k := ha holds
  have hj : j.natAbs < 2 ^ k := hb holds
  have := le i j
  rw [pow_succ]
  omega

theorem computes_add (ha : P → a.IsWithin k) (hb : P → b.IsWithin k) (small : k ≤ operandBits) :
    Computes P (fun c => P → c.IsWithin (k + 1)) (a.add b) :=
  computes_combine_of_le ha hb small Int.natAbs_add_le

theorem computes_sub (ha : P → a.IsWithin k) (hb : P → b.IsWithin k) (small : k ≤ operandBits) :
    Computes P (fun c => P → c.IsWithin (k + 1)) (a.sub b) :=
  computes_combine_of_le ha hb small Int.natAbs_sub_le

theorem computes_mul (ha : P → a.IsWithin j) (hb : P → b.IsWithin k) (small : j + k ≤ operandBits) :
    Computes P (fun c => P → c.IsWithin (j + k)) (a.mul b) := by
  refine computes_combine (fun holds => (ha holds).mono (by omega))
    (fun holds => (hb holds).mono (by omega)) fun x y hx hy holds => ?_
  subst hx hy
  have hx : x.natAbs < 2 ^ j := ha holds
  have hy : y.natAbs < 2 ^ k := hb holds
  rw [Int.natAbs_mul, pow_add]
  exact Nat.mul_lt_mul'' hx hy

/-- Two numbers of which one is no whole number make a binary64 number. -/
theorem computes_combine_mixed {exact : ℤ → ℤ → ℤ} {rounded : Binary64 → Binary64 → Binary64}
    (ha : P → a.IsWithin operandBits) (hb : P → b.IsWithin operandBits)
    (mixed : ∀ i j, a = int i → b ≠ int j) :
    Computes P IsFloat (combine exact rounded a b) := by
  rcases combine_cases exact rounded a b with ⟨i, j, hi, hj, -⟩ | e
  · exact absurd hj (mixed i j hi)
  · rw [e]
    exact (computes_operand ha).bind fun x _ => (computes_operand hb).bind fun y _ =>
      .pure (isFloat_float _)

theorem computes_add_float (ha : P → a.IsWithin operandBits) (y : Binary64) :
    Computes P IsFloat (a.add (float y)) :=
  computes_combine_mixed ha (fun _ => isWithin_float _ y) fun _ _ _ => nofun

theorem computes_mul_float (ha : P → a.IsWithin operandBits) (y : Binary64) :
    Computes P IsFloat (a.mul (float y)) :=
  computes_combine_mixed ha (fun _ => isWithin_float _ y) fun _ _ _ => nofun

theorem computes_float_mul (x : Binary64) (hb : P → b.IsWithin operandBits) :
    Computes P IsFloat ((float x).mul b) :=
  computes_combine_mixed (fun _ => isWithin_float _ x) hb fun _ _ => nofun

/-- Dividing by a binary64 number other than zero gives one. -/
theorem computes_div {y : Binary64} (ha : P → a.IsWithin operandBits) (nonzero : y.isZero = false) :
    Computes P IsFloat (a.div (float y)) := by
  rcases div_cases a (float y) with ⟨_, _, _, e, -⟩ | e
  · cases e
  · rw [e]
    refine (computes_operand ha).bind fun x _ => ?_
    rw [operand_float, ok_bind, nonzero, if_neg Bool.false_ne_true]
    exact .pure (isFloat_float _)

/-! ### Choices -/

/-- What holds of two numbers holds of the greater one. -/
theorem max_of_both {motive : Number → Prop} (ha : motive a) (hb : motive b) :
    motive (a.max b) := by
  rw [Number.max]
  split
  · exact hb
  · exact ha

/-- What holds of two numbers holds of the lesser one. -/
theorem min_of_both {motive : Number → Prop} (ha : motive a) (hb : motive b) :
    motive (a.min b) := by
  rw [Number.min]
  split
  · exact hb
  · exact ha

/-! ### Numerals -/

theorem two_pow_le_ten_pow {limit : ℕ} (few : k ≤ limit) : 2 ^ k ≤ Nat.pow 10 limit :=
  (Nat.pow_le_pow_left (by decide) k).trans (Nat.pow_le_pow_right (by decide) few)

theorem IsWithin.isWritable (h : n.IsWithin k) (few : k ≤ digitLimit) : n.isWritable = true := by
  cases n with
  | int i =>
      rw [Number.isWritable, decide_eq_true_iff]
      exact lt_of_lt_of_le h (two_pow_le_ten_pow few)
  | float x => rfl

theorem computes_fullText (h : P → n.isWritable = true) :
    Computes P (fun _ => True) n.fullText := by
  rw [fullText]
  split
  · exact .ok trivial
  · rename_i long
    exact .error ⟨.inr rfl, fun holds => long (h holds)⟩

theorem computes_compact (h : P → n.IsWithin operandBits) :
    Computes P (fun _ => True) n.compact :=
  (computes_operand h).bind fun _ _ => .pure trivial

end Number

end TerminalReel
