import TerminalReel.Animation.Keyframes
import TerminalReel.Proofs.Ending
import TerminalReel.Proofs.Numeric.Arithmetic
/-!
# TerminalReel.Proofs.Animation.Grid

The **grid of percentages**: the binary64 numbers nearest to the multiples of a
ten thousandth, up to one hundred.

Every percentage that is computed from a time is on the grid, whatever the time
(`exists_cell_of_toPercent`), and so is the next one (`nudge_gridPercent`). On
the grid the comparison of percentages is that of whole numbers, so that a track
can be followed on cells alone.
-/

namespace TerminalReel

open Schedule (percentPlaces)

/-- A percentage of the grid: so many ten thousandths. -/
def gridPercent (cell : ℕ) : Number := .float (.ofFraction cell (10 ^ percentPlaces))

/-- The cell of the end of the cycle. -/
def lastCell : ℕ := 100 * 10 ^ percentPlaces

/-- What a percentage of the grid measures. -/
def gridValue (cell : ℕ) : ℚ := nearest (cell / 10 ^ percentPlaces)

theorem gridPercent_eq (cell : ℕ) : gridPercent cell =
    .float (.ofRatio false (cell * quantaPerOne) (10 ^ percentPlaces) (by decide)) := by
  rw [gridPercent, Binary64.ofFraction_of_pos cell (by decide)]

theorem percentPlaces_eq : percentPlaces = 4 := rfl

theorem lastCell_eq : lastCell = 1000000 := rfl

/-! ### What the cells measure -/

theorem isRounded_gridPercent (cell : ℕ) :
    (gridPercent cell).IsRounded (cell / 10 ^ percentPlaces) := by
  have h : (gridPercent cell).IsRounded
      ((cell * quantaPerOne : ℕ) / (10 ^ percentPlaces : ℕ) / quantaPerOne) := by
    rw [gridPercent_eq]
    exact Number.isRounded_ofRatio (by decide) (by simp)
  have value : ((cell * quantaPerOne : ℕ) : ℚ) / (10 ^ percentPlaces : ℕ) / quantaPerOne
      = cell / 10 ^ percentPlaces := by
    rw [Nat.cast_mul, div_right_comm, mul_div_cancel_right₀ _ quantaPerOne_cast_pos.ne']
    push_cast
    rfl
  rwa [value] at h

theorem cell_div_le {cell : ℕ} (le : cell ≤ lastCell + 1) :
    (cell : ℚ) / 10 ^ percentPlaces ≤ 101 := by
  have bound : (cell : ℚ) ≤ (1000001 : ℕ) := by exact_mod_cast le
  rw [percentPlaces_eq, div_le_iff₀ (by norm_num)]
  push_cast at bound
  linarith

/-- A percent of the grid measures the value of its cell. -/
theorem measures_gridPercent {cell : ℕ} (le : cell ≤ lastCell + 1) :
    (gridPercent cell).Measures (gridValue cell) :=
  (isRounded_gridPercent cell).measures_of_le ((cell_div_le le).trans (by norm_num))

theorem gridValue_mono : Monotone gridValue := by
  intro j k le
  apply nearest_mono
  have : (j : ℚ) ≤ k := by exact_mod_cast le
  exact div_le_div_of_nonneg_right this (by positivity)

/-- The value of a cell is the exact one up to the rounding of one division. -/
theorem abs_gridValue_sub_le {cell : ℕ} (le : cell ≤ lastCell + 1) :
    |gridValue cell - cell / 10 ^ percentPlaces| ≤ 102 / 2 ^ 53 := by
  have bound := cell_div_le le
  refine (abs_nearest_sub_le (by positivity)).trans ?_
  apply div_le_div_of_nonneg_right _ (by norm_num)
  linarith

/-- Neighbouring cells are not rounded together. -/
theorem gridValue_lt {j k : ℕ} (less : j < k) (le : k ≤ lastCell + 1) :
    gridValue j < gridValue k := by
  have low := abs_le.1 (abs_gridValue_sub_le (show j ≤ lastCell + 1 by omega))
  have high := abs_le.1 (abs_gridValue_sub_le le)
  have : (j : ℚ) + 1 ≤ k := by exact_mod_cast less
  rw [percentPlaces_eq] at low high
  norm_num at low high
  linarith

theorem gridValue_zero : gridValue 0 = 0 := by
  simp [gridValue]

theorem gridValue_lastCell : gridValue lastCell = 100 := by
  have kept := nearest_natCast (n := 100) (by norm_num)
  rw [gridValue, lastCell_eq, percentPlaces_eq]
  norm_num at kept ⊢
  exact kept

theorem firstPercent_eq : firstPercent = gridPercent 0 := by
  have zero := Binary64.ofRatio_quanta false .zero
  rw [firstPercent, Binary64.zero, ← zero, gridPercent_eq]
  exact congrArg Number.float (ofRatio_congr (by decide) (by decide) (by simp))

theorem lastPercent_eq : lastPercent = gridPercent lastCell := by
  rw [lastPercent, Binary64.ofFraction_of_pos 100 Nat.one_pos, gridPercent_eq]
  refine congrArg Number.float (ofRatio_congr (by decide) (by decide) ?_)
  rw [lastCell_eq, percentPlaces_eq]
  push_cast
  ring

/-! ### Order on the grid -/

section Order

variable {j k : ℕ} (hj : j ≤ lastCell + 1) (hk : k ≤ lastCell + 1)

include hj hk

/-- Percents of the grid are ordered as their cells are. -/
theorem gridPercent_lt : (gridPercent j).lt (gridPercent k) = true ↔ j < k := by
  rw [(measures_gridPercent hj).lt_iff (measures_gridPercent hk)]
  constructor
  · intro less
    by_contra! le
    exact absurd (gridValue_mono le) (not_le.2 less)
  · intro less
    exact gridValue_lt less hk

theorem gridPercent_le : (gridPercent j).le (gridPercent k) = true ↔ j ≤ k := by
  rw [(measures_gridPercent hj).le_iff (measures_gridPercent hk)]
  constructor
  · intro le
    by_contra! less
    exact absurd (gridValue_lt less hj) (not_lt.2 le)
  · intro le
    exact gridValue_mono le

theorem gridPercent_inj : gridPercent j = gridPercent k ↔ j = k := by
  refine ⟨fun same => ?_, congrArg gridPercent⟩
  have le : j ≤ k := (gridPercent_le hj hk).1 (by rw [same, gridPercent_le hk hk])
  have ge : k ≤ j := (gridPercent_le hk hj).1 (by rw [same, gridPercent_le hk hk])
  exact le.antisymm ge

end Order

theorem measures_hundred : (100 : Number).Measures 100 := Number.measures_natCast 100

theorem gridPercent_lt_hundred {k : ℕ} (hk : k ≤ lastCell + 1) :
    (gridPercent k).lt 100 = true ↔ k < lastCell := by
  rw [← gridPercent_lt hk (Nat.le_succ lastCell),
    (measures_gridPercent hk).lt_iff measures_hundred,
    (measures_gridPercent hk).lt_iff (measures_gridPercent (Nat.le_succ lastCell)),
    gridValue_lastCell]

theorem hundred_lt_gridPercent {k : ℕ} (hk : k ≤ lastCell + 1) :
    Number.lt 100 (gridPercent k) = true ↔ lastCell < k := by
  rw [← gridPercent_lt (Nat.le_succ lastCell) hk,
    measures_hundred.lt_iff (measures_gridPercent hk),
    (measures_gridPercent (Nat.le_succ lastCell)).lt_iff (measures_gridPercent hk),
    gridValue_lastCell]

/-! ### Every percentage is on the grid -/

theorem measures_firstPercent : firstPercent.Measures 0 := by
  rw [firstPercent_eq, ← gridValue_zero]
  exact measures_gridPercent (Nat.zero_le _)

theorem measures_lastPercent : lastPercent.Measures 100 := by
  rw [lastPercent_eq, ← gridValue_lastCell]
  exact measures_gridPercent (Nat.le_succ _)

/-- What does not lie after the beginning is the beginning. -/
theorem clampPercent_of_not_lt {n : Number} (h : firstPercent.lt n = false) :
    clampPercent n = gridPercent 0 := by
  rw [clampPercent, Number.max, h, if_neg Bool.false_ne_true, Number.min,
    if_pos ((measures_firstPercent.lt_iff measures_lastPercent).2 (by norm_num)), firstPercent_eq]

/-- What lies at the end or beyond is the end. -/
theorem clampPercent_of_lt {n : Number} (h : firstPercent.lt n = true)
    (beyond : n.lt lastPercent = false) : clampPercent n = gridPercent lastCell := by
  rw [clampPercent, Number.max, if_pos h, Number.min, beyond, if_neg Bool.false_ne_true,
    lastPercent_eq]

/-- Clamping a percent of the grid is clamping its cell. -/
theorem clampPercent_gridPercent (cell : ℕ) :
    clampPercent (gridPercent cell) = gridPercent (min cell lastCell) := by
  rcases Nat.lt_or_ge cell lastCell with inside | beyond
  · rw [min_eq_left inside.le]
    rcases Nat.eq_zero_or_pos cell with rfl | pos
    · apply clampPercent_of_not_lt
      rw [firstPercent_eq]
      exact Bool.eq_false_iff.2 ((gridPercent_lt (by omega) (by omega)).not.2 (lt_irrefl 0))
    · have after : firstPercent.lt (gridPercent cell) = true := by
        rw [firstPercent_eq]
        exact (gridPercent_lt (by omega) (by omega)).2 pos
      have before : (gridPercent cell).lt lastPercent = true := by
        rw [lastPercent_eq]
        exact (gridPercent_lt (by omega) (by omega)).2 inside
      rw [clampPercent, Number.max, if_pos after, Number.min, if_pos before]
  · rw [min_eq_right beyond]
    rcases isRounded_gridPercent cell with h | ⟨h, -⟩
    · have hundred : 100 ≤ nearest (cell / 10 ^ percentPlaces) :=
        gridValue_lastCell ▸ gridValue_mono beyond
      apply clampPercent_of_lt
      · exact (measures_firstPercent.lt_iff h).2 (by linarith)
      · exact Bool.eq_false_iff.2 ((h.lt_iff measures_lastPercent).not.2 (not_lt.2 hundred))
    · rw [h]
      exact clampPercent_of_lt measures_firstPercent.lt_endless measures_lastPercent.not_endless_lt

/-- Rounding a number that is not negative counts its cells. -/
theorem roundPlaces_finite (m : Magnitude) :
    (Number.float (.finite false m)).roundPlaces percentPlaces
      = gridPercent (roundDiv (m.quanta * 10 ^ percentPlaces) quantaPerOne) := by
  rw [gridPercent_eq]
  rfl

theorem not_firstPercent_lt_negative {num den : ℕ} (pos : 0 < den) :
    firstPercent.lt (.float (.ofRatio true num den pos)) = false := by
  have place : firstPercent.place? = some (.quanta 0) := rfl
  rw [Number.lt, Number.compares, place, Binary64.ofRatio]
  by_cases inRange : nearestFit num den < quantaLimit
  · rw [dif_pos inRange]
    simp [Number.place?, Binary64.signedQuanta]
  · rw [dif_neg inRange]
    rfl

/-- Rounded and clamped, every binary64 number is a percentage of the grid. -/
theorem exists_cell (x : Binary64) : ∃ cell ≤ lastCell,
    clampPercent ((Number.float x).roundPlaces percentPlaces) = gridPercent cell := by
  cases x with
  | nan => exact ⟨0, Nat.zero_le _, clampPercent_of_not_lt rfl⟩
  | infinite negative =>
      cases negative with
      | true => exact ⟨0, Nat.zero_le _, clampPercent_of_not_lt rfl⟩
      | false =>
          exact ⟨lastCell, le_rfl, clampPercent_of_lt measures_firstPercent.lt_endless
            measures_lastPercent.not_endless_lt⟩
  | finite negative m =>
      cases negative with
      | true => exact ⟨0, Nat.zero_le _, clampPercent_of_not_lt
            (not_firstPercent_lt_negative (show 0 < 10 ^ percentPlaces by decide))⟩
      | false =>
          rw [roundPlaces_finite, clampPercent_gridPercent]
          exact ⟨_, min_le_right _ _, rfl⟩

theorem mul_eq_ok {x : Binary64} {b c : Number} (h : (Number.float x).mul b = .ok c) :
    ∃ y, c = .float y := by
  rcases Number.combine_eq_ok h with ⟨_, _, e, _⟩ | ⟨_, y, _, _, rfl⟩
  · cases e
  · exact ⟨_, rfl⟩

/-- Whatever a time and a cycle are, the percentage of the time is on the grid. -/
theorem exists_cell_of_toPercent {seconds total percent : Number}
    (h : toPercent seconds total = .ok percent) :
    ∃ cell ≤ lastCell, percent = gridPercent cell := by
  rw [toPercent, bind_eq_ok] at h
  obtain ⟨q, quotient, h⟩ := h
  obtain ⟨x, rfl⟩ := Number.div_eq_ok quotient
  obtain ⟨p, product, h⟩ := bind_eq_ok.1 h
  obtain ⟨y, rfl⟩ := mul_eq_ok product
  obtain ⟨cell, le, e⟩ := exists_cell y
  exact ⟨cell, le, (pure_eq_ok.1 h).symm.trans e⟩

/-! ### The cell of a value -/

/-- A positive value is rounded to the cell nearest to it. -/
theorem roundPlaces_of_measures {x : Binary64} {v : ℚ} (h : (Number.float x).Measures v)
    (pos : 0 < v) : (Number.float x).roundPlaces percentPlaces
      = gridPercent (roundRat (v * 10 ^ percentPlaces)) := by
  obtain ⟨negative, m, rfl, rfl, sign⟩ := Number.measures_float_iff.1 h
  have positive : negative = false := by
    cases negative with
    | false => rfl
    | true =>
        rw [sign rfl, Nat.cast_zero, zero_div] at pos
        exact absurd pos (lt_irrefl 0)
  rw [positive, roundPlaces_finite, roundDiv_eq_roundRat _ quantaPerOne_pos]
  push_cast
  rw [div_mul_eq_mul_div]

/-- A percent that is rounded and clamped is one of the grid: that of the nearest cell. -/
theorem clampPercent_roundPlaces {x : Binary64} {v : ℚ} (h : (Number.float x).Measures v) :
    clampPercent ((Number.float x).roundPlaces percentPlaces)
      = gridPercent (min (roundRat (v * 10 ^ percentPlaces)) lastCell) := by
  rcases h.nonneg.lt_or_eq with pos | rfl
  · rw [roundPlaces_of_measures h pos, clampPercent_gridPercent]
  · obtain ⟨negative, m, rfl, zero, -⟩ := Number.measures_float_iff.1 h
    rw [zero_mul, roundRat_zero, Nat.zero_min]
    cases negative with
    | true =>
        exact clampPercent_of_not_lt
          (not_firstPercent_lt_negative (show 0 < 10 ^ percentPlaces by decide))
    | false =>
        have none : m.quanta = 0 := by
          have := (div_eq_zero_iff.1 zero.symm).resolve_right quantaPerOne_cast_pos.ne'
          exact_mod_cast this
        rw [roundPlaces_finite, clampPercent_gridPercent, none, Nat.zero_mul]
        simp [roundDiv, quantaPerOne_pos]

/-- The next percentage is the cell of a sum that is one unit more, but for what the
binary roundings make of it: far less than half a cell. -/
theorem nudge_of_measures {percent : Number} {v : ℚ} (h : percent.Measures v) (le : v ≤ 101) :
    ∃ s, |s - (v + 1 / 10 ^ percentPlaces)| ≤ 1 / 10 ^ 8 ∧
      nudge percent = gridPercent (roundRat (s * 10 ^ percentPlaces)) := by
  have nonneg := h.nonneg
  obtain ⟨x, operand, measured⟩ := Number.exists_operand h (le.trans (by norm_num))
  have converted : percent.toBinary64 = x := by
    cases percent with
    | float y => exact Except.ok.inj operand
    | int i => exact (Number.operand_int_eq_ok.1 operand).2
  have unit : (Number.float Schedule.percentEpsilon).Measures (gridValue 1) :=
    measures_gridPercent (show 1 ≤ lastCell + 1 by decide)
  have unit_near := abs_le.1 (abs_gridValue_sub_le (show 1 ≤ lastCell + 1 by decide))
  rw [percentPlaces_eq] at unit_near
  norm_num at unit_near
  have sum := (Number.isRounded_add measured unit).measures_of_le (by linarith)
  have error := abs_le.1 (abs_nearest_sub_le (add_nonneg nonneg unit.nonneg))
  norm_num at error
  refine ⟨nearest (v + gridValue 1), ?_, ?_⟩
  · rw [percentPlaces_eq, abs_le]
    constructor <;> linarith
  · rw [nudge, converted]
    exact roundPlaces_of_measures sum (by linarith)

/-- The next percentage of the grid. -/
theorem nudge_gridPercent {cell : ℕ} (le : cell ≤ lastCell) :
    nudge (gridPercent cell) = gridPercent (cell + 1) := by
  have within := le.trans (Nat.le_succ lastCell)
  have at_most : gridValue cell ≤ 100 := gridValue_lastCell ▸ gridValue_mono le
  obtain ⟨s, sum, nudged⟩ :=
    nudge_of_measures (measures_gridPercent within) (at_most.trans (by norm_num))
  have near := abs_le.1 (abs_gridValue_sub_le within)
  have sum := abs_le.1 sum
  rw [percentPlaces_eq] at near sum
  norm_num at near sum
  have round : roundRat (s * 10 ^ percentPlaces) = cell + 1 := by
    apply roundRat_eq_of_abs_lt
    rw [percentPlaces_eq, abs_lt]
    push_cast
    constructor <;> linarith
  rw [nudged, round]

/-! ### The cell of a time -/

/-- The cell of a time in a cycle of length `T`. -/
def cellAt (T t : ℚ) : ℕ :=
  min (roundRat (nearest (nearest (t / T) * 100) * 10 ^ percentPlaces)) lastCell

theorem cellAt_le (T t : ℚ) : cellAt T t ≤ lastCell := min_le_right _ _

theorem cellAt_mono {T : ℚ} (pos : 0 < T) : Monotone (cellAt T) := by
  intro t u le
  have quotients : nearest (t / T) ≤ nearest (u / T) :=
    nearest_mono (div_le_div_of_nonneg_right le pos.le)
  have products : nearest (nearest (t / T) * 100) ≤ nearest (nearest (u / T) * 100) :=
    nearest_mono (mul_le_mul_of_nonneg_right quotients (by norm_num))
  exact min_le_min_right _ (roundRat_mono (mul_le_mul_of_nonneg_right products (by positivity)))

/-- A time within a cycle has the percentage of its cell. -/
theorem toPercent_of_measures {seconds : Number} {total : Binary64} {t T : ℚ}
    (ht : seconds.Measures t) (hT : (Number.float total).Measures T) (pos : 0 < T) (le : t ≤ T)
    (small : T ≤ 2 ^ 53) : toPercent seconds (.float total) = .ok (gridPercent (cellAt T t)) := by
  have part : t / T ≤ 1 := (div_le_one pos).2 le
  obtain ⟨x, quotient, rounded⟩ := Number.exists_div ht (le.trans small) hT pos
  have hx := rounded.measures_of_le (part.trans (by norm_num))
  have one : nearest (t / T) ≤ 1 := by
    have kept := nearest_natCast (n := 1) (by norm_num)
    push_cast at kept
    exact (nearest_mono part).trans kept.le
  obtain ⟨y, hundred, hy⟩ := Number.exists_operand measures_hundred (by norm_num)
  have product : (Number.float x).mul 100 = .ok (.float (x.mul y)) :=
    Number.mul_float_of_operand hundred
  have hxy := (Number.isRounded_mul hx hy).measures_of_le (by linarith)
  rw [toPercent, quotient]
  refine bind_eq_ok.2 ⟨_, rfl, bind_eq_ok.2 ⟨_, product, ?_⟩⟩
  exact pure_eq_ok.2 (clampPercent_roundPlaces hxy)

/-- The cell of a time is half a cell away from the exact one, and a little for
the binary roundings. -/
theorem abs_cellAt_sub_le {T t : ℚ} (pos : 0 < T) (nonneg : 0 ≤ t) (le : t ≤ T) :
    |(cellAt T t : ℚ) - 10 ^ 6 * (t / T)| ≤ 1 / 2 + 1 / 10 ^ 8 := by
  have part : t / T ≤ 1 := (div_le_one pos).2 le
  have part_nonneg : 0 ≤ t / T := div_nonneg nonneg pos.le
  have first := abs_le.1 (abs_nearest_sub_le part_nonneg)
  have product_nonneg : 0 ≤ nearest (t / T) * 100 :=
    mul_nonneg (nearest_nonneg _) (by norm_num)
  have second := abs_le.1 (abs_nearest_sub_le product_nonneg)
  have third := abs_le.1 (abs_roundRat_sub_le
    (mul_nonneg (nearest_nonneg (nearest (t / T) * 100)) (show 0 ≤ (10 : ℚ) ^ 4 by norm_num)))
  have last : (lastCell : ℚ) = 10 ^ 6 := by
    rw [lastCell_eq]
    norm_num
  norm_num at first second third
  rw [cellAt, percentPlaces_eq, abs_le, Nat.cast_min, last]
  norm_num only
  rcases le_total (roundRat (nearest (nearest (t / T) * 100) * 10000) : ℚ) 1000000 with
    inside | beyond
  · rw [min_eq_left inside]
    constructor <;> linarith
  · rw [min_eq_right beyond]
    constructor <;> linarith

end TerminalReel
