import TerminalReel.Proofs.Ending
import TerminalReel.Proofs.Numeric.Measure
/-!
# TerminalReel.Proofs.Numeric.Arithmetic

Arithmetic on numbers that **measure** something.

Every binary64 operation answers with what the exact result is rounded to
(`isRounded_add`, `isRounded_mul`, `isRounded_div`). A sum or a product of two
whole numbers is exact instead, and a whole number that meets a binary64 number
is rounded first. Below `2 ^ 53` these are one rule: the result measures the
exact result, rounded once. It is used in both directions. Forward, small terms
have a sum (`exists_add`). Backward, whoever knows a sum to be small knows its
terms (`measures_of_add`).
-/

namespace TerminalReel

namespace Number

variable {a b c n : Number} {x y : Binary64} {v w z : ℚ}

/-! ### Binary64 operations -/

/-- A number that is negative only as a zero counts the quanta of its size. -/
theorem signedQuanta_eq {negative : Bool} {m : Magnitude} (sign : negative = true → m.quanta = 0) :
    Binary64.signedQuanta negative m = m.quanta := by
  cases negative with
  | false => rfl
  | true => simp [Binary64.signedQuanta, sign rfl]

theorem isRounded_add (hx : (float x).Measures v) (hy : (float y).Measures w) :
    (float (x.add y)).IsRounded (v + w) := by
  obtain ⟨p, k, rfl, rfl, hp⟩ := measures_float_iff.1 hx
  obtain ⟨q, m, rfl, rfl, hq⟩ := measures_float_iff.1 hy
  rw [Binary64.add, signedQuanta_eq hp, signedQuanta_eq hq]
  split
  · rename_i none
    have hk : k.quanta = 0 := by omega
    have hm : m.quanta = 0 := by omega
    left
    rw [hk, hm]
    refine measures_float_iff.2 ⟨_, _, rfl, ?_, fun _ => rfl⟩
    rw [Magnitude.quanta_zero, Nat.cast_zero, zero_div, add_zero, nearest_zero]
  · have value : (k.quanta : ℚ) / quantaPerOne + m.quanta / quantaPerOne
        = (((k.quanta : ℤ) + m.quanta).natAbs : ℚ) / (1 : ℕ) / quantaPerOne := by
      have : ((k.quanta : ℤ) + m.quanta).natAbs = k.quanta + m.quanta := by omega
      rw [this, Nat.cast_add, Nat.cast_one, div_one, add_div]
    rw [value]
    refine isRounded_ofRatio Nat.one_pos fun sign => ?_
    have := of_decide_eq_true sign
    omega

theorem isRounded_mul (hx : (float x).Measures v) (hy : (float y).Measures w) :
    (float (x.mul y)).IsRounded (v * w) := by
  obtain ⟨p, k, rfl, rfl, hp⟩ := measures_float_iff.1 hx
  obtain ⟨q, m, rfl, rfl, hq⟩ := measures_float_iff.1 hy
  rw [div_mul_div_comm, ← div_div, ← Nat.cast_mul]
  refine isRounded_ofRatio quantaPerOne_pos fun sign => ?_
  cases p with
  | true => rw [hp rfl, Nat.zero_mul]
  | false =>
      cases q with
      | true => rw [hq rfl, Nat.mul_zero]
      | false => simp at sign

theorem isRounded_div (hx : (float x).Measures v) (hy : (float y).Measures w) (pos : 0 < w) :
    (float (x.div y)).IsRounded (v / w) := by
  obtain ⟨p, k, rfl, rfl, hp⟩ := measures_float_iff.1 hx
  obtain ⟨q, m, rfl, rfl, hq⟩ := measures_float_iff.1 hy
  have one := quantaPerOne_cast_pos
  have positive : 0 < m.quanta := by
    have := (div_pos_iff_of_pos_right one).1 pos
    exact_mod_cast this
  have quotient : (k.quanta : ℚ) / quantaPerOne / (m.quanta / quantaPerOne)
      = (k.quanta * quantaPerOne : ℕ) / m.quanta / quantaPerOne := by
    have : (m.quanta : ℚ) ≠ 0 := by exact_mod_cast positive.ne'
    push_cast
    field_simp
  rw [Binary64.div, dif_pos positive, quotient]
  refine isRounded_ofRatio positive fun sign => ?_
  cases p with
  | true => rw [hp rfl, Nat.zero_mul]
  | false =>
      cases q with
      | true => exact absurd (hq rfl) positive.ne'
      | false => simp at sign

/-! ### Constants and operands -/

theorem measures_ofFraction (num : ℕ) {den : ℕ} (pos : 0 < den)
    (small : (num : ℚ) / den ≤ 2 ^ 53) :
    (float (.ofFraction num den)).Measures (nearest (num / den)) := by
  have value : ((num * quantaPerOne : ℕ) : ℚ) / den / quantaPerOne = num / den := by
    rw [Nat.cast_mul, div_right_comm, mul_div_cancel_right₀ _ quantaPerOne_cast_pos.ne']
  rw [← value] at small ⊢
  rw [Binary64.ofFraction_of_pos num pos]
  exact (isRounded_ofRatio pos (by simp)).measures_of_le small

/-- A constant with few binary places measures what it is written as. -/
theorem measures_dyadic (num places : ℕ) (few : num ≤ 2 ^ 53) (fine : places ≤ quantumExponent) :
    (float (.ofFraction num (2 ^ places))).Measures (num / 2 ^ places) := by
  have small : (num : ℚ) / (2 ^ places : ℕ) ≤ 2 ^ 53 := by
    push_cast
    have : (num : ℚ) ≤ 2 ^ 53 := by exact_mod_cast few
    exact (div_le_self (Nat.cast_nonneg _) (one_le_pow₀ (by norm_num))).trans this
  have h := measures_ofFraction num (Nat.two_pow_pos places) small
  rwa [Nat.cast_pow, Nat.cast_ofNat, nearest_dyadic few fine] at h

theorem isRounded_ofInt {i : ℤ} (h : 0 ≤ i) : (float (.ofInt i)).IsRounded i := by
  have value : (i : ℚ) = ((i.natAbs * quantaPerOne : ℕ) : ℚ) / (1 : ℕ) / quantaPerOne := by
    obtain ⟨k, rfl⟩ := Int.eq_ofNat_of_zero_le h
    rw [Nat.cast_mul, Nat.cast_one, div_one, mul_div_cancel_right₀ _ quantaPerOne_cast_pos.ne']
    simp
  rw [Binary64.ofInt, value]
  refine isRounded_ofRatio Nat.one_pos fun sign => ?_
  exact absurd h (not_le.2 (of_decide_eq_true sign))

theorem operand_int_eq_ok {i : ℤ} : (int i).operand = .ok x ↔
    (Binary64.ofInt i).isFinite = true ∧ Binary64.ofInt i = x := by
  have unfolded : (int i).operand
      = if (Binary64.ofInt i).isFinite then .ok (.ofInt i) else .error .intTooLarge := rfl
  rw [unfolded]
  generalize Binary64.ofInt i = y
  cases y.isFinite <;> simp

/-- The operand of a number measures what the number is rounded to. -/
theorem measures_operand (h : n.Measures v) (ok : n.operand = .ok x) :
    (float x).Measures (nearest v) := by
  cases n with
  | float y =>
      obtain rfl : y = x := by simpa using ok
      rwa [h.nearest_float]
  | int i =>
      obtain ⟨hi, rfl⟩ := measures_int_iff.1 h
      obtain ⟨finite, rfl⟩ := operand_int_eq_ok.1 ok
      rcases isRounded_ofInt hi with measures | ⟨beyond, -⟩
      · exact measures
      · rw [Number.float.inj beyond] at finite
        cases finite

theorem operand_of_finite (h : n.Measures v) (bound : nearest v < 2 ^ limitExponent) :
    ∃ x, n.operand = .ok x ∧ (float x).Measures (nearest v) := by
  cases n with
  | float y => exact ⟨y, rfl, measures_operand h rfl⟩
  | int i =>
      obtain ⟨hi, rfl⟩ := measures_int_iff.1 h
      have measures := (isRounded_ofInt hi).measures bound
      refine ⟨.ofInt i, operand_int_eq_ok.2 ⟨?_, rfl⟩, measures⟩
      obtain ⟨negative, m, e, -, -⟩ := measures_float_iff.1 measures
      rw [e]
      rfl

/-- Below `2 ^ 53` the operand of a number measures what the number does. -/
theorem exists_operand (h : n.Measures v) (small : v ≤ 2 ^ 53) :
    ∃ x, n.operand = .ok x ∧ (float x).Measures v := by
  obtain ⟨x, ok, measures⟩ := operand_of_finite h
    ((nearest_le_two_pow small).trans_lt (pow_lt_pow_right₀ (by norm_num) (by decide)))
  rw [h.nearest_eq small] at measures
  exact ⟨x, ok, measures⟩

/-- Combining two numbers is exact on two whole numbers and goes through their
operands otherwise. -/
theorem combine_cases (exact : ℤ → ℤ → ℤ) (rounded : Binary64 → Binary64 → Binary64)
    (a b : Number) :
    (∃ i j, a = int i ∧ b = int j ∧ combine exact rounded a b = .ok (int (exact i j)))
      ∨ combine exact rounded a b = do
          let x ← a.operand
          let y ← b.operand
          return float (rounded x y) := by
  cases a with
  | float x => exact Or.inr rfl
  | int i =>
      cases b with
      | float y => exact Or.inr rfl
      | int j => exact Or.inl ⟨i, j, rfl, rfl, rfl⟩

theorem combine_eq_ok {exact : ℤ → ℤ → ℤ} {rounded : Binary64 → Binary64 → Binary64}
    (h : combine exact rounded a b = .ok c) :
    (∃ i j, a = int i ∧ b = int j ∧ c = int (exact i j))
      ∨ ∃ x y, a.operand = .ok x ∧ b.operand = .ok y ∧ c = float (rounded x y) := by
  rcases combine_cases exact rounded a b with ⟨i, j, rfl, rfl, whole⟩ | mixed
  · exact Or.inl ⟨i, j, rfl, rfl, Except.ok.inj (h.symm.trans whole)⟩
  · rw [mixed] at h
    obtain ⟨x, hx, h⟩ := bind_eq_ok.1 h
    obtain ⟨y, hy, h⟩ := bind_eq_ok.1 h
    exact Or.inr ⟨x, y, hx, hy, (pure_eq_ok.1 h).symm⟩

theorem combine_of_operands (exact : ℤ → ℤ → ℤ) (rounded : Binary64 → Binary64 → Binary64)
    (hx : a.operand = .ok x) (hy : b.operand = .ok y) :
    (∃ i j, a = int i ∧ b = int j ∧ combine exact rounded a b = .ok (int (exact i j)))
      ∨ combine exact rounded a b = .ok (float (rounded x y)) := by
  rcases combine_cases exact rounded a b with whole | mixed
  · exact Or.inl whole
  · rw [mixed, hx, hy]
    exact Or.inr rfl

theorem Nonneg.exists_of_int {i : ℤ} (h : (int i).Nonneg) : ∃ v, (int i).Measures v := by
  rcases h with h | h
  · exact h
  · cases h

theorem Nonneg.operand (h : n.Nonneg) (ok : n.operand = .ok x) : (float x).Nonneg := by
  rcases h with ⟨v, h⟩ | rfl
  · exact .of_measures (measures_operand h ok)
  · exact Or.inr (congrArg float (by simpa [endless] using ok.symm))

theorem Nonneg.of_operand (h : n.Nonneg) (ok : n.operand = .ok x)
    (finite : ∃ v, (float x).Measures v) : ∃ v, n.Measures v := by
  rcases h with h | rfl
  · exact h
  · obtain rfl : Binary64.infinite false = x := by simpa [endless] using ok
    obtain ⟨v, hv⟩ := finite
    exact absurd hv not_measures_endless

/-! ### Sums -/

/-- The sum of two numbers is never negative and never nan. -/
theorem Nonneg.add (ha : a.Nonneg) (hb : b.Nonneg) (ok : a.add b = .ok c) : c.Nonneg := by
  rcases combine_eq_ok ok with ⟨i, j, rfl, rfl, rfl⟩ | ⟨x, y, hx, hy, rfl⟩
  · obtain ⟨v, hv⟩ := ha.exists_of_int
    obtain ⟨w, hw⟩ := hb.exists_of_int
    have hi := (measures_int_iff.1 hv).1
    have hj := (measures_int_iff.1 hw).1
    exact .of_measures (measures_int_iff.2 ⟨by omega, rfl⟩)
  · rcases ha.operand hx with ⟨v, hv⟩ | ex
    · rcases hb.operand hy with ⟨w, hw⟩ | ey
      · exact (isRounded_add hv hw).nonneg
      · obtain ⟨_, _, rfl, -, -⟩ := measures_float_iff.1 hv
        rw [Number.float.inj ey]
        exact Or.inr rfl
    · rw [Number.float.inj ex]
      rcases hb.operand hy with ⟨w, hw⟩ | ey
      · obtain ⟨_, _, rfl, -, -⟩ := measures_float_iff.1 hw
        exact Or.inr rfl
      · rw [Number.float.inj ey]
        exact Or.inr rfl

/-- Forward: small terms have a sum, which measures theirs, rounded once. -/
theorem exists_add (ha : a.Measures v) (hb : b.Measures w) (small : v + w ≤ 2 ^ 53) :
    ∃ c, a.add b = .ok c ∧ c.Measures (nearest (v + w)) := by
  have hv := ha.nonneg
  have hw := hb.nonneg
  obtain ⟨x, hx, mx⟩ := exists_operand ha (by linarith)
  obtain ⟨y, hy, my⟩ := exists_operand hb (by linarith)
  rcases combine_of_operands (· + ·) .add hx hy with ⟨i, j, rfl, rfl, ok⟩ | ok
  · obtain ⟨hi, rfl⟩ := measures_int_iff.1 ha
    obtain ⟨hj, rfl⟩ := measures_int_iff.1 hb
    have sum : (int (i + j)).Measures (i + j) :=
      measures_int_iff.2 ⟨by omega, by push_cast; rfl⟩
    refine ⟨_, ok, ?_⟩
    rwa [sum.nearest_eq small]
  · exact ⟨_, ok, (isRounded_add mx my).measures_of_le small⟩

/-- An endless term makes an endless sum. -/
theorem finite_of_add (hx : (float x).Nonneg) (hy : (float y).Nonneg)
    (hc : (float (x.add y)).Measures z) :
    (∃ v, (float x).Measures v) ∧ ∃ w, (float y).Measures w := by
  rcases hx with hx | ex
  · refine ⟨hx, ?_⟩
    rcases hy with hy | ey
    · exact hy
    · obtain ⟨v, hv⟩ := hx
      obtain ⟨_, _, rfl, -, -⟩ := measures_float_iff.1 hv
      rw [Number.float.inj ey] at hc
      exact absurd hc not_measures_endless
  · rw [Number.float.inj ex] at hc
    rcases hy with ⟨w, hw⟩ | ey
    · obtain ⟨_, _, rfl, -, -⟩ := measures_float_iff.1 hw
      exact absurd hc not_measures_endless
    · rw [Number.float.inj ey] at hc
      exact absurd hc not_measures_endless

/-- Backward: a finite sum has finite terms. -/
theorem exists_measures_of_add (ha : a.Nonneg) (hb : b.Nonneg) (ok : a.add b = .ok c)
    (hc : c.Measures z) : (∃ v, a.Measures v) ∧ ∃ w, b.Measures w := by
  rcases combine_eq_ok ok with ⟨i, j, rfl, rfl, -⟩ | ⟨x, y, hx, hy, rfl⟩
  · exact ⟨ha.exists_of_int, hb.exists_of_int⟩
  · obtain ⟨left, right⟩ := finite_of_add (ha.operand hx) (hb.operand hy) hc
    exact ⟨ha.of_operand hx left, hb.of_operand hy right⟩

/-- Backward: a sum that is small has terms that are, and measures theirs,
rounded once. -/
theorem measures_of_add (ha : a.Nonneg) (hb : b.Nonneg) (ok : a.add b = .ok c)
    (hc : c.Measures z) (small : z < 2 ^ 53) :
    ∃ v w, a.Measures v ∧ b.Measures w ∧ v ≤ z ∧ w ≤ z ∧ z = nearest (v + w) := by
  obtain ⟨⟨v, hv⟩, w, hw⟩ := exists_measures_of_add ha hb ok hc
  rcases combine_eq_ok ok with ⟨i, j, rfl, rfl, rfl⟩ | ⟨x, y, hx, hy, rfl⟩
  · have sum : z = v + w := by
      rw [(measures_int_iff.1 hc).2, (measures_int_iff.1 hv).2, (measures_int_iff.1 hw).2]
      push_cast
      rfl
    have nv := hv.nonneg
    have nw := hw.nonneg
    refine ⟨v, w, hv, hw, by linarith, by linarith, ?_⟩
    rw [← sum, hc.nearest_eq small.le]
  · have mx := measures_operand hv hx
    have my := measures_operand hw hy
    have nx := mx.nonneg
    have ny := my.nonneg
    -- The sum bounds its terms only once they are rounded; but then they are exact.
    have rounded : z = nearest (nearest v + nearest w) := (isRounded_add mx my).eq_nearest hc
    have sum : nearest v + nearest w < 2 ^ 53 := lt_of_nearest_lt (rounded ▸ small)
    have ev : nearest v = v := hv.nearest_eq (lt_of_nearest_lt (by linarith)).le
    have ew : nearest w = w := hw.nearest_eq (lt_of_nearest_lt (by linarith)).le
    rw [ev] at rounded nx
    rw [ew] at rounded ny
    refine ⟨v, w, hv, hw, ?_, ?_, rounded⟩
    · calc v = nearest v := ev.symm
        _ ≤ nearest (v + w) := nearest_mono (by linarith)
        _ = z := rounded.symm
    · calc w = nearest w := ew.symm
        _ ≤ nearest (v + w) := nearest_mono (by linarith)
        _ = z := rounded.symm

theorem add_float_of_operand (hx : a.operand = .ok x) :
    a.add (float y) = .ok (float (x.add y)) := by
  rcases combine_of_operands (· + ·) .add hx (operand_float y) with ⟨_, _, _, e, _⟩ | ok
  · cases e
  · exact ok

/-- What is added to a positive binary64 number counts only by what it measures:
neither its kind nor the sign of a zero is seen in the sum. -/
theorem add_eq_add (ha : a.Measures v) (hb : b.Measures v) (small : v ≤ 2 ^ 53)
    (hy : (float y).Measures w) (pos : 0 < w) : a.add (float y) = b.add (float y) := by
  obtain ⟨x, hx, mx⟩ := exists_operand ha small
  obtain ⟨x', hx', mx'⟩ := exists_operand hb small
  obtain ⟨p, k, rfl, ek, hp⟩ := measures_float_iff.1 mx
  obtain ⟨p', k', rfl, ek', hp'⟩ := measures_float_iff.1 mx'
  obtain ⟨q, m, rfl, rfl, hq⟩ := measures_float_iff.1 hy
  have one := quantaPerOne_cast_pos
  have same : k.quanta = k'.quanta := by
    have := (div_left_inj' one.ne').1 (ek.symm.trans ek')
    exact_mod_cast this
  have positive : 0 < m.quanta := by
    have := (div_pos_iff_of_pos_right one).1 pos
    exact_mod_cast this
  rw [add_float_of_operand hx, add_float_of_operand hx', Binary64.add, Binary64.add,
    signedQuanta_eq hp, signedQuanta_eq hp', signedQuanta_eq hq, same]
  have nonzero : (k'.quanta : ℤ) + m.quanta ≠ 0 := by omega
  rw [if_neg nonzero, if_neg nonzero]

theorem mul_float_of_operand (hy : b.operand = .ok y) :
    (float x).mul b = .ok (float (x.mul y)) := by
  rcases combine_of_operands (· * ·) .mul (operand_float x) hy with ⟨_, _, e, _⟩ | ok
  · cases e
  · exact ok

/-! ### Multiples -/

/-- A small multiple of a whole number is exact. -/
theorem nearest_count_mul {k i : ℕ} (small : (k : ℚ) * i < 2 ^ 53) :
    nearest (nearest k * i) = k * i := by
  rcases Nat.eq_zero_or_pos i with rfl | pos
  · simp
  · have bound : k * i < 2 ^ 53 := by exact_mod_cast small
    have : k ≤ 2 ^ 53 := (Nat.le_mul_of_pos_right k pos).trans bound.le
    rw [nearest_natCast this]
    exact_mod_cast nearest_natCast bound.le

theorem Nonneg.count_mul {k : ℕ} (hb : b.Measures w) (ok : (int k).mul b = .ok c) :
    c.Nonneg := by
  rcases combine_eq_ok ok with ⟨i, j, ei, rfl, rfl⟩ | ⟨x, y, hx, hy, rfl⟩
  · obtain rfl : (k : ℤ) = i := Number.int.inj ei
    have hj := (measures_int_iff.1 hb).1
    exact .of_measures (measures_int_iff.2 ⟨by positivity, rfl⟩)
  · exact (isRounded_mul (measures_operand (measures_natCast k) hx) (measures_operand hb hy)).nonneg

/-- What so many of a duration measure, the count rounded first. -/
def multiple (k : ℕ) (w : ℚ) : ℚ := nearest (nearest k * w)

theorem multiple_mono {w : ℚ} (h : 0 ≤ w) : Monotone fun k => multiple k w := by
  intro j k le
  have counts : nearest j ≤ nearest k := nearest_mono (by exact_mod_cast le)
  exact nearest_mono (mul_le_mul_of_nonneg_right counts h)

theorem multiple_nonneg (k : ℕ) (w : ℚ) : 0 ≤ multiple k w := nearest_nonneg _

/-- Backward: a small multiple measures what so many do. -/
theorem measures_of_count_mul {k : ℕ} (hb : b.Measures w) (ok : (int k).mul b = .ok c)
    (hc : c.Measures z) (small : z < 2 ^ 53) : z = multiple k w := by
  cases b with
  | int i =>
      obtain ⟨hi, rfl⟩ := measures_int_iff.1 hb
      obtain ⟨m, rfl⟩ := Int.eq_ofNat_of_zero_le hi
      obtain rfl : int (k * m) = c := by simpa using ok
      obtain rfl := (measures_int_iff.1 hc).2
      push_cast at small ⊢
      exact (nearest_count_mul small).symm
  | float y =>
      rcases combine_eq_ok ok with ⟨_, _, _, e, _⟩ | ⟨x, y', hx, hy, rfl⟩
      · cases e
      · obtain rfl : y = y' := by simpa using hy
        exact (isRounded_mul (measures_operand (measures_natCast k) hx) hb).eq_nearest hc

/-- Forward: where a multiple is small, so are the lesser ones. -/
theorem exists_count_mul {j k : ℕ} (le : j ≤ k) (hb : b.Measures w)
    (ok : (int k).mul b = .ok c) (hc : c.Measures z) (small : z < 2 ^ 53) :
    ∃ d, (int j).mul b = .ok d ∧ d.Measures (multiple j w) := by
  have most := measures_of_count_mul hb ok hc small
  have less : multiple j w ≤ multiple k w := multiple_mono hb.nonneg le
  cases b with
  | int i =>
      obtain ⟨hi, rfl⟩ := measures_int_iff.1 hb
      obtain ⟨m, rfl⟩ := Int.eq_ofNat_of_zero_le hi
      obtain rfl : int (k * m) = c := by simpa using ok
      obtain rfl := (measures_int_iff.1 hc).2
      have exact : (j : ℚ) * m < 2 ^ 53 := by
        have : (j : ℚ) * m ≤ k * m :=
          mul_le_mul_of_nonneg_right (by exact_mod_cast le) (Nat.cast_nonneg m)
        push_cast at small
        linarith
      refine ⟨int (j * m), rfl, measures_int_iff.2 ⟨by positivity, ?_⟩⟩
      push_cast
      exact nearest_count_mul exact
  | float y =>
      rcases combine_eq_ok ok with ⟨_, _, _, e, _⟩ | ⟨x, _, hx, _, _⟩
      · cases e
      · have counts : nearest j ≤ nearest k := nearest_mono (by exact_mod_cast le)
        have bound := (measures_operand (measures_natCast k) hx).lt_limit
        obtain ⟨x', hx', mx'⟩ := operand_of_finite (measures_natCast j) (counts.trans_lt bound)
        rcases combine_of_operands (· * ·) .mul hx' (operand_float y) with ⟨_, _, _, e, _⟩ | ok'
        · cases e
        · refine ⟨_, ok', (isRounded_mul mx' hb).measures ?_⟩
          calc multiple j w ≤ z := most ▸ less
            _ < 2 ^ 53 := small
            _ < 2 ^ limitExponent := pow_lt_pow_right₀ (by norm_num) (by decide)

/-! ### Quotients -/

/-- Dividing goes through the operands, except for two whole numbers. -/
theorem div_cases (a b : Number) : (∃ i j, a = int i ∧ b = int j ∧ a.div b = divInt i j)
    ∨ a.div b = do
        let x ← a.operand
        let y ← b.operand
        if y.isZero then .error .floatDivisionByZero else return float (x.div y) := by
  cases a with
  | float x => exact Or.inr rfl
  | int i =>
      cases b with
      | float y => exact Or.inr rfl
      | int j => exact Or.inl ⟨i, j, rfl, rfl, rfl⟩

/-- A quotient is a binary64 number, of whole numbers as well. -/
theorem div_eq_ok (h : a.div b = .ok c) : ∃ x, c = float x := by
  rcases div_cases a b with ⟨i, j, rfl, rfl, whole⟩ | mixed
  · rw [whole, divInt] at h
    dsimp only at h
    split at h
    · split at h
      · exact ⟨_, (Except.ok.inj h).symm⟩
      · cases h
    · cases h
  · rw [mixed] at h
    obtain ⟨x, -, h⟩ := bind_eq_ok.1 h
    obtain ⟨y, -, h⟩ := bind_eq_ok.1 h
    split at h
    · cases h
    · exact ⟨_, (pure_eq_ok.1 h).symm⟩

theorem div_float_of_operand (hx : a.operand = .ok x) (nonzero : y.isZero = false) :
    a.div (float y) = .ok (float (x.div y)) := by
  rcases div_cases a (float y) with ⟨_, _, _, e, _⟩ | mixed
  · cases e
  · rw [mixed]
    refine bind_eq_ok.2 ⟨x, hx, bind_eq_ok.2 ⟨y, operand_float y, ?_⟩⟩
    rw [nonzero, if_neg Bool.false_ne_true]
    rfl

/-- A small number over a positive binary64 number is the quotient, rounded. -/
theorem exists_div (ha : a.Measures v) (small : v ≤ 2 ^ 53) (hb : (float y).Measures w)
    (pos : 0 < w) : ∃ x, a.div (float y) = .ok (float x) ∧ (float x).IsRounded (v / w) := by
  obtain ⟨x, hx, mx⟩ := exists_operand ha small
  have nonzero : y.isZero = false := by
    obtain ⟨_, m, rfl, rfl, -⟩ := measures_float_iff.1 hb
    have : m.quanta ≠ 0 := by
      rintro zero
      rw [zero, Nat.cast_zero, zero_div] at pos
      exact lt_irrefl 0 pos
    simpa [Binary64.isZero] using this
  exact ⟨_, div_float_of_operand hx nonzero, isRounded_div mx hb pos⟩

end Number

end TerminalReel
