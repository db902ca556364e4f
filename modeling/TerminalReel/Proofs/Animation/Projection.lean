import TerminalReel.Proofs.Animation.Grid
import TerminalReel.Proofs.Numeric.Extended
/-!
# TerminalReel.Proofs.Animation.Projection

Times **projected onto the grid** of percentages, wherever they lie on the line.

A negative time stays negative through the division and the product, and is clamped to the
beginning. Any other time stands for an element of `WithTop ℚ`, and there the quotient, the
product and the cell are monotone functions, so that the order of times survives what they
overflow to. Within the cycle nothing overflows, and the cell is that of `cellAt`.
-/

namespace TerminalReel

open Schedule (percentPlaces)

/-! ### Negative numbers -/

namespace Binary64

/-- The number has a sign, and that is the negative one. -/
def isNegative : Binary64 → Bool
  | finite negative _ => negative
  | infinite negative => negative
  | nan => false

variable {x : Binary64} {m : Magnitude}

@[simp] theorem isNegative_ofRatio (negative : Bool) (num : ℕ) {den : ℕ} (pos : 0 < den) :
    (ofRatio negative num den pos).isNegative = negative := by
  rw [ofRatio]
  split <;> rfl

theorem isNegative_div (h : x.isNegative = true) (pos : 0 < m.quanta) :
    (x.div (.finite false m)).isNegative = true := by
  cases x with
  | nan => cases h
  | infinite negative =>
      obtain rfl : negative = true := h
      rfl
  | finite negative n =>
      obtain rfl : negative = true := h
      rw [div, dif_pos pos, isNegative_ofRatio]
      rfl

theorem isNegative_mul (h : x.isNegative = true) (pos : 0 < m.quanta) :
    (x.mul (.finite false m)).isNegative = true := by
  cases x with
  | nan => cases h
  | infinite negative =>
      obtain rfl : negative = true := h
      rw [mul, if_neg pos.ne']
      rfl
  | finite negative n =>
      obtain rfl : negative = true := h
      rw [mul, isNegative_ofRatio]
      rfl

/-- A negative number is rounded to one that is negative, or a negative zero. -/
theorem isNegative_roundPlaces (h : x.isNegative = true) (places : ℕ) :
    (x.roundPlaces places).isNegative = true := by
  cases x with
  | nan => cases h
  | infinite negative => exact h
  | finite negative n =>
      obtain rfl : negative = true := h
      rw [roundPlaces, isNegative_ofRatio]

end Binary64

/-- What is negative is clamped to the first percent. -/
theorem clampPercent_of_isNegative {x : Binary64} (h : x.isNegative = true) :
    clampPercent (.float x) = gridPercent 0 := by
  apply clampPercent_of_not_lt
  have first : firstPercent.place? = some (.quanta 0) := rfl
  rw [Number.lt, Number.compares, first]
  cases x with
  | nan => rfl
  | infinite negative =>
      obtain rfl : negative = true := h
      rfl
  | finite negative m =>
      obtain rfl : negative = true := h
      simp [Number.place?, Binary64.signedQuanta]

/-! ### Cells of extended values -/

/-- The cell of a percentage; an endless one is at the end. -/
def extendedCell (e : WithTop ℚ) : ℕ :=
  e.recTopCoe lastCell fun v => min (roundRat (v * 10 ^ percentPlaces)) lastCell

theorem extendedCell_coe (v : ℚ) :
    extendedCell v = min (roundRat (v * 10 ^ percentPlaces)) lastCell := rfl

@[simp] theorem extendedCell_top : extendedCell ⊤ = lastCell := rfl

theorem extendedCell_le (e : WithTop ℚ) : extendedCell e ≤ lastCell := by
  induction e using WithTop.recTopCoe with
  | top => exact le_rfl
  | coe v => exact min_le_right _ _

theorem extendedCell_mono : Monotone extendedCell := by
  intro e f le
  induction f using WithTop.recTopCoe with
  | top => exact extendedCell_le e
  | coe w =>
      induction e using WithTop.recTopCoe with
      | top => exact absurd (top_le_iff.1 le) WithTop.coe_ne_top
      | coe v =>
          have scaled : v * 10 ^ percentPlaces ≤ w * 10 ^ percentPlaces :=
            mul_le_mul_of_nonneg_right (WithTop.coe_le_coe.1 le) (by positivity)
          exact min_le_min_right _ (roundRat_mono scaled)

/-- A percent, finite or not, is rounded and clamped to that of its cell. -/
theorem clampPercent_of_reads {x : Binary64} {e : WithTop ℚ} (h : (Number.float x).Reads e) :
    clampPercent ((Number.float x).roundPlaces percentPlaces) = gridPercent (extendedCell e) := by
  rcases h with measured | endless
  · exact clampPercent_roundPlaces measured
  · rw [Number.float.inj endless]
    exact clampPercent_of_lt measures_firstPercent.lt_endless measures_lastPercent.not_endless_lt

/-- The cell of a time that may be endless, in a cycle of length `T`. -/
def projectedCell (T : ℚ) (e : WithTop ℚ) : ℕ :=
  extendedCell (Number.rounded ((Number.rounded (e.map (· / T))).map (· * 100)))

theorem projectedCell_mono {T : ℚ} (pos : 0 < T) : Monotone (projectedCell T) := by
  have quotients : Monotone fun v : ℚ => v / T :=
    fun _ _ le => div_le_div_of_nonneg_right le pos.le
  have products : Monotone fun v : ℚ => v * 100 :=
    fun _ _ le => mul_le_mul_of_nonneg_right le (by norm_num)
  exact extendedCell_mono.comp (Number.rounded_mono.comp
    (products.withTop_map.comp (Number.rounded_mono.comp quotients.withTop_map)))

/-- Within the cycle nothing is endless. -/
theorem projectedCell_coe {T t : ℚ} (pos : 0 < T) (le : t ≤ T) :
    projectedCell T t = cellAt T t := by
  have finite {v : ℚ} (small : v ≤ 2 ^ 53) : Number.rounded v = nearest v := by
    rw [Number.rounded_coe, if_pos]
    exact (nearest_le_two_pow small).trans_lt (pow_lt_pow_right₀ (by norm_num) (by decide))
  have part : t / T ≤ 1 := (div_le_one pos).2 le
  have one : nearest (t / T) ≤ 1 := by
    have kept := nearest_natCast (n := 1) (by norm_num)
    rw [Nat.cast_one] at kept
    exact (nearest_mono part).trans kept.le
  rw [projectedCell, WithTop.map_coe, finite (by linarith), WithTop.map_coe,
    finite (by linarith), extendedCell_coe, cellAt]

/-! ### The percentage of a time -/

theorem operand_hundred : (100 : Number).operand = .ok (.ofInt 100) :=
  Number.operand_int_eq_ok.2 ⟨by decide +kernel, rfl⟩

theorem measures_ofInt_hundred : (Number.float (.ofInt 100)).Measures 100 := by
  have kept := nearest_natCast (n := 100) (by norm_num)
  rw [Nat.cast_ofNat] at kept
  have measured := Number.measures_operand measures_hundred operand_hundred
  rwa [kept] at measured

variable {total : Number} {T : Binary64} {V : ℚ}

/-- The percentage of a time, in a cycle that can be divided by. -/
theorem toPercent_float (convertible : total.operand = .ok T) (nonzero : T.isZero = false)
    (s : Binary64) : toPercent (.float s) total = .ok (clampPercent
      ((Number.float ((s.div T).mul (.ofInt 100))).roundPlaces percentPlaces)) := by
  have quotient : (Number.float s).div total = .ok (.float (s.div T)) := by
    rcases Number.div_cases (.float s) total with ⟨_, _, e, _⟩ | mixed
    · cases e
    · rw [mixed, convertible, Number.operand_float, ok_bind, ok_bind, nonzero,
        if_neg Bool.false_ne_true]
      rfl
  rw [toPercent, quotient, ok_bind, Number.mul_float_of_operand operand_hundred]
  rfl

section Cycle

variable (convertible : total.operand = .ok T) (measured : (Number.float T).Measures V)
  (pos : 0 < V)

include convertible measured pos

/-- A negative time falls on the first percent. -/
theorem toPercent_of_isNegative {s : Binary64} (h : s.isNegative = true) :
    toPercent (.float s) total = .ok (gridPercent 0) := by
  rw [toPercent_float convertible (measured.isZero_eq_false pos)]
  obtain ⟨m, rfl, positive⟩ := measured.exists_positive pos
  obtain ⟨n, hundred, positive'⟩ := measures_ofInt_hundred.exists_positive (by norm_num)
  rw [hundred]
  have negative := Binary64.isNegative_mul (Binary64.isNegative_div h positive) positive'
  exact congrArg _ (clampPercent_of_isNegative
    (Binary64.isNegative_roundPlaces negative percentPlaces))

/-- A time that is not negative, finite or not, falls on the percent of its cell. -/
theorem toPercent_of_reads {s : Binary64} {e : WithTop ℚ} (h : (Number.float s).Reads e) :
    toPercent (.float s) total = .ok (gridPercent (projectedCell V e)) := by
  rw [toPercent_float convertible (measured.isZero_eq_false pos)]
  have product := (h.div measured pos).mul measures_ofInt_hundred (by norm_num)
  exact congrArg _ (clampPercent_of_reads product)

/-- Every time has a percentage, and it is on the grid. -/
theorem exists_cell_toPercent (s : Binary64) :
    ∃ cell ≤ lastCell, toPercent (.float s) total = .ok (gridPercent cell) := by
  have defined := toPercent_float convertible (measured.isZero_eq_false pos) s
  obtain ⟨cell, le, same⟩ := exists_cell_of_toPercent defined
  exact ⟨cell, le, defined.trans (congrArg _ same)⟩

/-- Of two times the later one has no lesser percentage. -/
theorem toPercent_mono {s t : Binary64} (le : (Number.float s).le (.float t) = true) :
    ∃ j k, j ≤ k ∧ k ≤ lastCell ∧ toPercent (.float s) total = .ok (gridPercent j) ∧
      toPercent (.float t) total = .ok (gridPercent k) := by
  by_cases negative : s.isNegative = true
  · obtain ⟨k, k_le, later⟩ := exists_cell_toPercent convertible measured pos t
    exact ⟨0, k, Nat.zero_le k, k_le, toPercent_of_isNegative convertible measured pos negative,
      later⟩
  · -- What is not negative stands for something, and so does what is not before it.
    obtain ⟨e, here⟩ : ∃ e, (Number.float s).Reads e := by
      cases s with
      | nan => cases le
      | infinite sign =>
          obtain rfl : sign = false := Bool.eq_false_iff.2 negative
          exact ⟨⊤, .endless rfl⟩
      | finite sign m =>
          obtain rfl : sign = false := Bool.eq_false_iff.2 negative
          exact ⟨_, .finite (Number.measures_float_iff.2 ⟨false, m, rfl, rfl, nofun⟩)⟩
    obtain ⟨f, there, ordered⟩ := here.exists_of_le le
    exact ⟨_, _, projectedCell_mono pos ordered, extendedCell_le _,
      toPercent_of_reads convertible measured pos here,
      toPercent_of_reads convertible measured pos there⟩

end Cycle

/-! ### Accuracy -/

/-- A length that is positive and can be divided by measures something, before and after it
is rounded to a binary64 number. -/
theorem exists_length (convertible : total.operand = .ok T) (finite : T.isFinite = true)
    (positive : (0 : Number).lt total = true) :
    ∃ V, total.Measures V ∧ 0 < V ∧ (Number.float T).Measures (nearest V) ∧ 0 < nearest V := by
  obtain ⟨count, place⟩ : ∃ count, total.place? = some (.quanta count) := by
    cases total with
    | int i => exact ⟨_, rfl⟩
    | float x =>
        obtain rfl := Except.ok.inj convertible
        cases x with
        | finite negative m => exact ⟨_, rfl⟩
        | infinite negative => cases finite
        | nan => cases finite
  have origin : (0 : Number).place? = some (.quanta (0 * quantaPerOne)) := rfl
  have count_pos : 0 < count := by
    rw [Number.lt, Number.compares, origin, place, zero_mul] at positive
    exact of_decide_eq_true positive
  have measured := Number.measures_of_place place count_pos.le
  have pos : (0 : ℚ) < count / quantaPerOne :=
    div_pos (by exact_mod_cast count_pos) quantaPerOne_cast_pos
  exact ⟨_, measured, pos, Number.measures_operand measured convertible, measured.nearest_pos pos⟩

/-- What a number measures hardly changes where it is rounded to a binary64 number. -/
theorem abs_nearest_sub_le_of_measures (h : total.Measures V) : |nearest V - V| ≤ V / 2 ^ 52 := by
  cases total with
  | float x =>
      rw [h.nearest_float, sub_self, abs_zero]
      exact div_nonneg h.nonneg (by norm_num)
  | int i =>
      obtain ⟨nonneg, rfl⟩ := Number.measures_int_iff.1 h
      rcases nonneg.eq_or_lt with rfl | pos
      · simp
      · have one_le : (1 : ℚ) ≤ i := by exact_mod_cast pos
        refine (abs_nearest_sub_le (by linarith)).trans ?_
        rw [div_le_div_iff₀ (by norm_num) (by norm_num)]
        linarith

/-- Dividing by the rounded length instead of the length makes little difference. -/
theorem abs_div_nearest_sub_le {v : ℚ} (h : total.Measures V) (pos : 0 < V) (nonneg : 0 ≤ v)
    (le : v ≤ nearest V) : |v / nearest V - v / V| ≤ 1 / 2 ^ 52 := by
  have rounded : 0 < nearest V := h.nearest_pos pos
  have apart : v / nearest V - v / V = v / nearest V * ((V - nearest V) / V) := by
    field_simp
  have length : |(V - nearest V) / V| ≤ 1 / 2 ^ 52 := by
    rw [abs_div, abs_of_pos pos, abs_sub_comm, div_le_iff₀ pos]
    refine (abs_nearest_sub_le_of_measures h).trans (le_of_eq ?_)
    ring
  have part : |v / nearest V| ≤ 1 := by
    rw [abs_of_nonneg (div_nonneg nonneg rounded.le)]
    exact (div_le_one rounded).2 le
  rw [apart, abs_mul]
  calc |v / nearest V| * |(V - nearest V) / V| ≤ 1 * |(V - nearest V) / V| :=
        mul_le_mul_of_nonneg_right part (abs_nonneg _)
    _ ≤ 1 / 2 ^ 52 := by rwa [one_mul]

/-- The percentage of a time within the cycle is half a cell away from the exact one, and a
little for the binary roundings. -/
theorem abs_toPercent_sub_le (convertible : total.operand = .ok T) (measured : total.Measures V)
    (pos : 0 < V) {s : Binary64} {v : ℚ} (time : (Number.float s).Measures v) (le : v ≤ V) :
    ∃ p w, toPercent (.float s) total = .ok p ∧ p.Measures w ∧
      |w - 100 * v / V| ≤ 501 / 10 ^ 7 := by
  have rounded := measured.nearest_pos pos
  have inside : v ≤ nearest V := by
    rw [← time.nearest_float]
    exact nearest_mono le
  have percent := toPercent_of_reads convertible
    (Number.measures_operand measured convertible) rounded (.finite time)
  rw [projectedCell_coe rounded inside] at percent
  have on_grid : cellAt (nearest V) v ≤ lastCell + 1 := (cellAt_le _ _).trans (Nat.le_succ _)
  refine ⟨_, _, percent, measures_gridPercent on_grid, ?_⟩
  -- From the percentage to its cell, from there to the quotient, and to the exact one.
  have grid := abs_le.1 (abs_gridValue_sub_le on_grid)
  have cell := abs_le.1 (abs_cellAt_sub_le rounded time.nonneg inside)
  have quotient := abs_le.1 (abs_div_nearest_sub_le measured pos time.nonneg inside)
  rw [percentPlaces_eq] at grid
  rw [mul_div_assoc, abs_le]
  norm_num at grid cell quotient ⊢
  constructor <;> linarith

/-! ### The projection -/

/-- Times are projected onto the grid in order and to the nearest cell, all of them: a nan
quotient is the beginning, and what lies outside of the cycle is one of its ends. On the
grid the next percentage is that of the next cell. -/
theorem toPercent_projects (convertible : total.operand = .ok T) (finite : T.isFinite = true)
    (positive : (0 : Number).lt total = true) :
    (∀ s t : Binary64, (Number.float s).le (.float t) = true →
      ∃ p q, toPercent (.float s) total = .ok p ∧ toPercent (.float t) total = .ok q ∧
        Number.le 0 p = true ∧ p.le q = true ∧ q.le 100 = true) ∧
    (∀ s : Binary64, ∃ cell ≤ lastCell, toPercent (.float s) total = .ok (gridPercent cell)) ∧
    (∀ seconds length : Number, seconds.div length = .ok (.float .nan) →
      toPercent seconds length = .ok (.float .zero)) ∧
    (∀ s : Binary64, Number.le 0 (.float s) = true → (Number.float s).le total = true →
      ∃ p v V w, toPercent (.float s) total = .ok p ∧ (Number.float s).Measures v ∧
        total.Measures V ∧ p.Measures w ∧ |w - 100 * v / V| ≤ 501 / 10 ^ 7) ∧
    ∀ cell < lastCell, nudge (gridPercent cell) = gridPercent (cell + 1) := by
  obtain ⟨V, measured, pos, operand, rounded⟩ := exists_length convertible finite positive
  have zero : (0 : Number).Measures 0 := Number.measures_natCast 0
  refine ⟨?_, ?_, ?_, ?_, ?_⟩
  · intro s t le
    obtain ⟨j, k, j_le_k, k_le, here, there⟩ := toPercent_mono convertible operand rounded le
    have hj : j ≤ lastCell + 1 := by omega
    have hk : k ≤ lastCell + 1 := by omega
    refine ⟨_, _, here, there, ?_, (gridPercent_le hj hk).2 j_le_k, ?_⟩
    · exact (zero.le_iff (measures_gridPercent hj)).2 (nearest_nonneg _)
    · rw [(measures_gridPercent hk).le_iff measures_hundred, ← gridValue_lastCell]
      exact gridValue_mono k_le
  · intro s
    exact exists_cell_toPercent convertible operand rounded s
  · intro seconds length nan
    rw [toPercent, nan, ok_bind, Number.mul_float_of_operand operand_hundred]
    exact congrArg _ (clampPercent_of_not_lt rfl |>.trans firstPercent_eq.symm)
  · intro s after before
    obtain ⟨e, time, -⟩ := Number.Reads.exists_of_le (.finite zero) after
    have within := (time.le_iff (.finite measured)).1 before
    cases time with
    | finite time =>
        obtain ⟨p, w, percent, value, near⟩ :=
          abs_toPercent_sub_le convertible measured pos time (WithTop.coe_le_coe.1 within)
        exact ⟨p, _, V, w, percent, time, measured, value, near⟩
    | endless same => exact absurd (top_le_iff.1 within) WithTop.coe_ne_top
  · intro cell before
    exact nudge_gridPercent before.le

/-- The length of a cycle that is not a whole number of seconds. -/
def shortCycle : Binary64 := .ofFraction 7 2

theorem toPercent_projects_shortCycle : ∃ p q,
    toPercent (.float (.infinite true)) (.float shortCycle) = .ok p ∧
      toPercent (.float (.ofFraction 1 3)) (.float shortCycle) = .ok q ∧
      Number.le 0 p = true ∧ p.le q = true ∧ q.le 100 = true := by
  have projects := toPercent_projects (Number.operand_float shortCycle)
    (by decide +kernel) (by decide +kernel)
  exact projects.1 (.infinite true) (.ofFraction 1 3) (by decide +kernel)

end TerminalReel
