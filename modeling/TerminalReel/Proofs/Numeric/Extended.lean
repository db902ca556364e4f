import Mathlib.Algebra.Order.Monoid.WithTop
import TerminalReel.Proofs.Numeric.Arithmetic
/-!
# TerminalReel.Proofs.Numeric.Extended

Numbers that are not negative as **values that may be endless**.

A number measures a rational or is endless, so it stands for an element of
`WithTop ℚ` (`Reads`). There rounding is one monotone function of the exact result
(`rounded`), overflow included, and that is why binary64 sums and products never fall
when their terms grow: whether a term is absorbed, or a sum overflows, makes no
difference to the order of the results.
-/

namespace TerminalReel

namespace Number

variable {a b n : Number} {x y : Binary64} {v w : ℚ} {e f : WithTop ℚ}

/-! ### Operands -/

/-- The number can meet a binary64 number. -/
def InRange (n : Number) : Prop := ∃ x, n.operand = .ok x

theorem inRange_float (x : Binary64) : (float x).InRange := ⟨x, rfl⟩

theorem inRange_natCast {j k : ℕ} (h : (int k).InRange) (le : j ≤ k) : (int j).InRange := by
  obtain ⟨x, operand⟩ := h
  have bound := (measures_operand (measures_natCast k) operand).lt_limit
  have rounded : nearest j ≤ nearest k := nearest_mono (by exact_mod_cast le)
  obtain ⟨y, ok, -⟩ := operand_of_finite (measures_natCast j) (rounded.trans_lt bound)
  exact ⟨y, ok⟩

/-- Two numbers that can meet binary64 numbers can be combined. -/
theorem exists_combine (exact : ℤ → ℤ → ℤ) (rounded : Binary64 → Binary64 → Binary64)
    (ha : a.InRange) (hb : b.InRange) : ∃ c, combine exact rounded a b = .ok c := by
  obtain ⟨x, hx⟩ := ha
  obtain ⟨y, hy⟩ := hb
  rcases combine_of_operands exact rounded hx hy with ⟨_, _, _, _, ok⟩ | ok
  · exact ⟨_, ok⟩
  · exact ⟨_, ok⟩

/-- If one of them is no whole number, they make a binary64 number. -/
theorem exists_combine_float (exact : ℤ → ℤ → ℤ) (rounded : Binary64 → Binary64 → Binary64)
    (ha : a.InRange) (hb : b.InRange) (mixed : ∀ i j, a = int i → b ≠ int j) :
    ∃ x, combine exact rounded a b = .ok (float x) := by
  obtain ⟨x, hx⟩ := ha
  obtain ⟨y, hy⟩ := hb
  rcases combine_of_operands exact rounded hx hy with ⟨i, j, hi, hj, -⟩ | ok
  · exact absurd hj (mixed i j hi)
  · exact ⟨_, ok⟩

theorem mul_float_eq (hx : a.operand = .ok x) : a.mul (float y) = .ok (float (x.mul y)) := by
  rcases combine_of_operands (· * ·) .mul hx (operand_float y) with ⟨_, _, _, e, _⟩ | ok
  · cases e
  · exact ok

theorem isFinite_ofRatio_iff {negative : Bool} {num den : ℕ} (pos : 0 < den) :
    (Binary64.ofRatio negative num den pos).isFinite = true ↔ nearestFit num den < quantaLimit := by
  rw [Binary64.ofRatio]
  by_cases inside : nearestFit num den < quantaLimit
  · rw [dif_pos inside]
    exact iff_of_true rfl inside
  · rw [dif_neg inside]
    exact iff_of_false Bool.false_ne_true inside

/-- Dividing by a positive whole number leads to no greater one. -/
theorem exists_divInt {i j : ℤ} (hi : (int i).InRange) (pos : 0 < j) :
    ∃ x, divInt i j = .ok (float x) := by
  obtain ⟨x, operand⟩ := hi
  have inside := (operand_int_eq_ok.1 operand).1
  rw [Binary64.ofInt, isFinite_ofRatio_iff] at inside
  have divisor : 0 < j.natAbs := Int.natAbs_pos.2 pos.ne'
  have less : nearestFit (i.natAbs * quantaPerOne) j.natAbs
      ≤ nearestFit (i.natAbs * quantaPerOne) 1 := by
    rw [nearestFit_eq_nearestQuanta _ divisor, nearestFit_eq_nearestQuanta _ Nat.one_pos]
    apply nearestQuanta_mono
    have one_le : ((1 : ℕ) : ℚ) ≤ j.natAbs := Nat.cast_le.2 divisor
    exact div_le_div_of_nonneg_left (Nat.cast_nonneg _) (by norm_num) one_le
  rw [divInt, dif_pos divisor]
  exact ⟨_, if_pos ((isFinite_ofRatio_iff divisor).2 (less.trans_lt inside))⟩

/-- What is positive is not rounded to zero: a binary64 number is converted to itself, and
a whole number is at least one. -/
theorem Measures.nearest_pos (h : n.Measures v) (pos : 0 < v) : 0 < nearest v := by
  cases n with
  | float z => rwa [h.nearest_float]
  | int j =>
      obtain ⟨-, rfl⟩ := measures_int_iff.1 h
      have one := nearest_natCast (n := 1) (by norm_num)
      have one_le : ((1 : ℕ) : ℚ) ≤ j := by exact_mod_cast pos
      calc (0 : ℚ) < nearest (1 : ℕ) := by rw [one]; norm_num
        _ ≤ nearest j := nearest_mono one_le

/-- A binary64 number that measures something positive is positive, and finite. -/
theorem Measures.exists_positive (h : (float y).Measures w) (pos : 0 < w) :
    ∃ m, y = .finite false m ∧ 0 < m.quanta := by
  obtain ⟨negative, m, rfl, rfl, sign⟩ := measures_float_iff.1 h
  have positive : 0 < m.quanta := by
    have := (div_pos_iff_of_pos_right quantaPerOne_cast_pos).1 pos
    exact_mod_cast this
  cases negative with
  | false => exact ⟨m, rfl, positive⟩
  | true => exact absurd (sign rfl) positive.ne'

theorem Measures.isZero_eq_false (h : (float y).Measures w) (pos : 0 < w) :
    y.isZero = false := by
  obtain ⟨m, rfl, positive⟩ := h.exists_positive pos
  simpa [Binary64.isZero] using positive.ne'

/-- Nothing positive brings what is endless back. -/
theorem Measures.infinite_mul (h : (float y).Measures w) (pos : 0 < w) :
    (Binary64.infinite false).mul y = .infinite false := by
  obtain ⟨m, rfl, positive⟩ := h.exists_positive pos
  exact if_neg positive.ne'

/-- A number can be divided by a positive one. -/
theorem exists_div_of_pos (ha : a.InRange) (hb : b.InRange) (measures : b.Measures v)
    (pos : 0 < v) : ∃ x, a.div b = .ok (float x) := by
  rcases div_cases a b with ⟨i, j, rfl, rfl, whole⟩ | mixed
  · rw [whole]
    obtain ⟨-, rfl⟩ := measures_int_iff.1 measures
    exact exists_divInt ha (by exact_mod_cast pos)
  · obtain ⟨x, hx⟩ := ha
    obtain ⟨y, hy⟩ := hb
    have nonzero := (measures_operand measures hy).isZero_eq_false (measures.nearest_pos pos)
    rw [mixed, hx, hy, ok_bind, ok_bind, nonzero]
    exact ⟨_, rfl⟩

/-- A count that can meet a binary64 number meets it as one that is not negative. -/
theorem exists_operand_natCast {k : ℕ} (h : (int k).InRange) :
    ∃ m, (int k).operand = .ok (.finite false m) := by
  obtain ⟨x, operand⟩ := h
  obtain ⟨finite, e⟩ := operand_int_eq_ok.1 operand
  rw [Binary64.ofInt] at finite e
  have inside := (isFinite_ofRatio_iff Nat.one_pos).1 finite
  have sign : decide ((k : ℤ) < 0) = false := decide_eq_false (not_lt.2 (Int.natCast_nonneg k))
  rw [Binary64.ofRatio, dif_pos inside, sign] at e
  rw [← e] at operand
  exact ⟨_, operand⟩

/-- So many times zero is zero, and with the same sign. -/
theorem count_mul_zero {j k : ℕ} (hj : (int j).InRange) (hk : (int k).InRange)
    (zero : a.Measures 0) : (int j).mul a = (int k).mul a := by
  cases a with
  | int i =>
      have : i = 0 := by exact_mod_cast (measures_int_iff.1 zero).2.symm
      rw [this, mul_int, mul_int, mul_zero, mul_zero]
  | float y =>
      obtain ⟨negative, m, rfl, value, -⟩ := measures_float_iff.1 zero
      have none : m.quanta = 0 := by
        have := (div_eq_zero_iff.1 value.symm).resolve_right quantaPerOne_cast_pos.ne'
        exact_mod_cast this
      have product {i : ℕ} (hi : (int i).InRange) : (int i).mul (float (.finite negative m))
          = .ok (float (.ofRatio (false != negative) 0 quantaPerOne quantaPerOne_pos)) := by
        obtain ⟨n, operand⟩ := exists_operand_natCast hi
        rw [mul_float_eq operand, Binary64.mul, none, Nat.mul_zero]
      rw [product hj, product hk]

/-! ### Extended values -/

/-- The number measures a value or is endless. -/
inductive Reads (n : Number) : WithTop ℚ → Prop
  | finite {v : ℚ} : n.Measures v → Reads n v
  | endless : n = Number.endless → Reads n ⊤

theorem endless_lt_endless : endless.lt endless = false := rfl

theorem endless_le_endless : endless.le endless = true := rfl

/-- Numbers compare as what they stand for. -/
theorem Reads.lt_iff (ha : a.Reads e) (hb : b.Reads f) : a.lt b = true ↔ e < f := by
  rcases ha with ha | rfl <;> rcases hb with hb | rfl
  · rw [ha.lt_iff hb, WithTop.coe_lt_coe]
  · simp [ha.lt_endless]
  · simp [hb.not_endless_lt]
  · simp [endless_lt_endless]

theorem Reads.le_iff (ha : a.Reads e) (hb : b.Reads f) : a.le b = true ↔ e ≤ f := by
  rcases ha with ha | rfl <;> rcases hb with hb | rfl
  · rw [ha.le_iff hb, WithTop.coe_le_coe]
  · obtain ⟨_, p, place, -⟩ := ha
    simp [le, compares, place, Place.le, Place.lt]
  · simp [hb.not_endless_le]
  · simp [endless_le_endless]

theorem Reads.unique (he : n.Reads e) (hf : n.Reads f) : e = f := by
  have here : n.le n = true := (he.le_iff he).2 le_rfl
  exact le_antisymm ((he.le_iff hf).1 here) ((hf.le_iff he).1 here)

/-- The greater of two numbers stands for the greater value. -/
theorem Reads.max (ha : a.Reads e) (hb : b.Reads f) : (a.max b).Reads (e ⊔ f) := by
  rw [Number.max]
  by_cases less : a.lt b = true
  · rw [if_pos less, sup_of_le_right ((ha.lt_iff hb).1 less).le]
    exact hb
  · rw [if_neg less, sup_of_le_left (not_lt.1 ((ha.lt_iff hb).not.1 less))]
    exact ha

/-- A number so many quanta from zero measures them. -/
theorem measures_of_place {count : ℤ} (place : n.place? = some (.quanta count))
    (nonneg : 0 ≤ count) : n.Measures (count / quantaPerOne) := by
  have pos := quantaPerOne_cast_pos
  refine ⟨div_nonneg (Int.cast_nonneg nonneg) pos.le, count, place, ?_⟩
  rw [div_mul_cancel₀ _ pos.ne']

theorem eq_endless_of_place (place : n.place? = some .rightEnd) : n = endless := by
  rcases n with i | (⟨negative, m⟩ | negative | _)
  · cases place
  · cases place
  · cases negative with
    | false => rfl
    | true => cases place
  · cases place

/-- What does not lie before a number that is not negative is not negative either. -/
theorem Reads.exists_of_le (ha : a.Reads e) (le : a.le b = true) : ∃ f, b.Reads f ∧ e ≤ f := by
  -- What is at least zero measures a value or is endless: the places left of it are out.
  have reads : ∃ f, b.Reads f := by
    obtain ⟨p, at_a, nonneg⟩ : ∃ p, a.place? = some p ∧ p.lt (.quanta 0) = false := by
      rcases ha with ⟨hv, count, place, value⟩ | rfl
      · refine ⟨_, place, ?_⟩
        have : (0 : ℚ) ≤ count := value ▸ mul_nonneg hv quantaPerOne_cast_pos.le
        rw [Place.lt_quanta, decide_eq_false_iff_not, not_lt]
        exact_mod_cast this
      · exact ⟨.rightEnd, rfl, rfl⟩
    rw [Number.le, compares, at_a] at le
    cases at_b : b.place? with
    | none => simp [at_b] at le
    | some q =>
        rw [at_b] at le
        cases q with
        | leftEnd => cases p <;> simp_all [Place.le, Place.lt]
        | rightEnd => exact ⟨⊤, .endless (eq_endless_of_place at_b)⟩
        | quanta count =>
            have count_nonneg : 0 ≤ count := by
              cases p <;> simp_all [Place.le, Place.lt]
              omega
            exact ⟨_, .finite (measures_of_place at_b count_nonneg)⟩
  obtain ⟨f, hb⟩ := reads
  exact ⟨f, hb, (ha.le_iff hb).1 le⟩

/-! ### Rounding -/

/-- What a value is rounded to; beyond the finite range it is endless. -/
def rounded (e : WithTop ℚ) : WithTop ℚ :=
  e.recTopCoe ⊤ fun v => if nearest v < 2 ^ limitExponent then (nearest v : WithTop ℚ) else ⊤

theorem rounded_coe (v : ℚ) : rounded v =
    if nearest v < 2 ^ limitExponent then (nearest v : WithTop ℚ) else ⊤ := rfl

theorem rounded_mono : Monotone rounded := by
  intro e f le
  induction f using WithTop.recTopCoe with
  | top => exact le_top
  | coe w =>
      induction e using WithTop.recTopCoe with
      | top => exact absurd (top_le_iff.1 le) WithTop.coe_ne_top
      | coe v =>
          -- If the greater one stays in range, the smaller one does.
          have nearer : nearest v ≤ nearest w := nearest_mono (WithTop.coe_le_coe.1 le)
          rw [rounded_coe, rounded_coe]
          by_cases inRange : nearest w < 2 ^ limitExponent
          · rw [if_pos inRange, if_pos (nearer.trans_lt inRange)]
            exact WithTop.coe_le_coe.2 nearer
          · rw [if_neg inRange]
            exact le_top

theorem IsRounded.reads (h : (float x).IsRounded v) : (float x).Reads (rounded v) := by
  rw [rounded_coe]
  rcases h with measured | ⟨beyond, limit_le⟩
  · rw [if_pos measured.lt_limit]
    exact .finite measured
  · rw [if_neg (not_lt.2 limit_le)]
    exact .endless beyond

/-- A sum of binary64 numbers stands for the exact sum, rounded. -/
theorem Reads.add (hx : (float x).Reads e) (hy : (float y).Reads f) :
    (float (x.add y)).Reads (rounded (e + f)) := by
  rcases hx with hx | ex <;> rcases hy with hy | ey
  · rw [← WithTop.coe_add]
    exact (isRounded_add hx hy).reads
  · obtain ⟨_, _, rfl, -, -⟩ := measures_float_iff.1 hx
    rw [Number.float.inj ey, WithTop.add_top]
    exact .endless rfl
  · obtain ⟨_, _, rfl, -, -⟩ := measures_float_iff.1 hy
    rw [Number.float.inj ex, WithTop.top_add]
    exact .endless rfl
  · rw [Number.float.inj ex, Number.float.inj ey, WithTop.top_add]
    exact .endless rfl

/-- A quotient by a positive binary64 number stands for the exact one, rounded. -/
theorem Reads.div (hx : (float x).Reads e) (hy : (float y).Measures w) (pos : 0 < w) :
    (float (x.div y)).Reads (rounded (e.map (· / w))) := by
  rcases hx with hx | ex
  · exact (isRounded_div hx hy pos).reads
  · obtain ⟨m, rfl, -⟩ := hy.exists_positive pos
    rw [Number.float.inj ex]
    exact .endless rfl

/-- A product with a positive binary64 number stands for the exact one, rounded. -/
theorem Reads.mul (hx : (float x).Reads e) (hy : (float y).Measures w) (pos : 0 < w) :
    (float (x.mul y)).Reads (rounded (e.map (· * w))) := by
  rcases hx with hx | ex
  · exact (isRounded_mul hx hy).reads
  · rw [Number.float.inj ex, hy.infinite_mul pos]
    exact .endless rfl

end Number

end TerminalReel
