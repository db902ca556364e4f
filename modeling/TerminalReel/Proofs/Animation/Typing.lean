import Mathlib.Data.Finset.Lattice.Fold
import Mathlib.Order.Lattice.Nat
import TerminalReel.Proofs.Animation.Room
/-!
# TerminalReel.Proofs.Animation.Typing

**When a typed character is first seen**, as a law of whole numbers.

The nominal cell of a character is that of its time. Where typing takes time, the
character is first seen at its nominal cell or, if that is taken, one past the character
before it; and no character is seen in the cell `0`, where the cycle begins. So the cell
of a character is a recursion over the nominal ones (`revealCell`), which goes up at
every step and is the greatest of the nominal cells so far, each moved on by the
characters since (`revealCell_eq_sup`).

The two places that move a character, the typing and its track, come together in one
step: only the first character can be moved by its track (`typeFrom_cons`). There is no
room exactly for the first character whose cell lies beyond the last one.
-/

namespace TerminalReel

/-! ### The recursion of cells -/

/-- The cell of a character if it had no predecessor; none is seen at the beginning. -/
def nominalCell (cells : ℕ → ℕ) : ℕ → ℕ
  | 0 => max 1 (cells 0)
  | i + 1 => cells (i + 1)

/-- The cell at which a character is first seen, after the ones before it. -/
def revealCell (cells : ℕ → ℕ) : ℕ → ℕ
  | 0 => max 1 (cells 0)
  | i + 1 => max (cells (i + 1)) (revealCell cells i + 1)

variable {cells : ℕ → ℕ} {i j m : ℕ}

theorem le_revealCell (cells : ℕ → ℕ) (i : ℕ) : cells i ≤ revealCell cells i := by
  cases i with
  | zero => exact le_max_right _ _
  | succ i => exact le_max_left _ _

theorem revealCell_lt_succ (cells : ℕ → ℕ) (i : ℕ) :
    revealCell cells i < revealCell cells (i + 1) :=
  Nat.lt_of_succ_le (le_max_right (cells (i + 1)) _)

theorem revealCell_strictMono (cells : ℕ → ℕ) : StrictMono (revealCell cells) :=
  strictMono_nat_of_lt_succ (revealCell_lt_succ cells)

/-- A bound on the cell of a character is one on every nominal cell so far, moved on by
the characters since. -/
theorem revealCell_le_iff :
    revealCell cells i ≤ m ↔ ∀ j ≤ i, nominalCell cells j + (i - j) ≤ m := by
  induction i generalizing m with
  | zero =>
      constructor
      · intro bound j le
        obtain rfl := Nat.le_zero.1 le
        exact bound
      · intro each
        exact each 0 le_rfl
  | succ i ih =>
      rw [revealCell, max_le_iff]
      constructor
      · rintro ⟨here, before⟩ j le
        rcases Nat.lt_or_eq_of_le le with less | rfl
        · have earlier := ih.1 (Nat.le_sub_one_of_lt before) j (by omega)
          omega
        · rw [Nat.sub_self]
          exact here
      · intro each
        have here := each (i + 1) le_rfl
        rw [Nat.sub_self] at here
        refine ⟨here, ?_⟩
        -- The first nominal cell is at least one and is moved on, so `m - 1` is a bound, too.
        have positive : 1 ≤ m := by
          have := each 0 (Nat.zero_le _)
          omega
        have earlier : revealCell cells i ≤ m - 1 := by
          refine ih.2 fun j le => ?_
          have := each j (le.trans (Nat.le_succ i))
          omega
        omega

/-- Characters are moved only as far as they are forced to. -/
theorem revealCell_eq_sup (cells : ℕ → ℕ) (i : ℕ) : revealCell cells i
    = (Finset.range (i + 1)).sup fun j => nominalCell cells j + (i - j) := by
  apply eq_of_forall_ge_iff
  intro m
  rw [revealCell_le_iff, Finset.sup_le_iff]
  simp only [Finset.mem_range, Nat.lt_succ_iff]

/-! ### Times and their cells -/

namespace Number

/-- The number, if it is a whole one. -/
def whole : Number → ℤ
  | .int i => i
  | .float _ => 0

/-- A start and so many paces have a sum if its whole numbers stay in range. -/
theorem exists_add_count_mul {start pace : Number} {i : ℕ} (count : (int i).InRange)
    (sum : (int (start.whole + i * pace.whole)).InRange) :
    ∃ time, (do start.add (← (int i).mul pace)) = .ok time ∧ time.InRange := by
  cases pace with
  | int k =>
      rw [mul_int, ok_bind]
      cases start with
      | int n => exact ⟨_, add_int _ _, sum⟩
      | float x =>
          have product : (int (i * k)).InRange := by simpa [whole] using sum
          obtain ⟨y, ok⟩ := exists_combine_float (· + ·) .add (inRange_float x) product
            fun _ _ e => by cases e
          exact ⟨_, ok, inRange_float y⟩
  | float y =>
      obtain ⟨x, operand⟩ := count
      have start_inRange : start.InRange := by
        cases start with
        | int n => simpa [whole] using sum
        | float z => exact inRange_float z
      rw [mul_float_eq operand, ok_bind]
      obtain ⟨z, ok⟩ := exists_combine_float (· + ·) .add start_inRange
        (inRange_float (x.mul y)) fun _ _ _ e => by cases e
      exact ⟨_, ok, inRange_float z⟩

end Number

/-- A time in range has a cell in a cycle that takes some time. -/
theorem exists_cell_of_inRange {seconds total : Number} {T : ℚ} (hs : seconds.InRange)
    (ht : total.InRange) (measures : total.Measures T) (pos : 0 < T) :
    ∃ cell ≤ lastCell, toPercent seconds total = .ok (gridPercent cell) := by
  obtain ⟨x, quotient⟩ := Number.exists_div_of_pos hs ht measures pos
  obtain ⟨y, hundred, -⟩ := Number.exists_operand measures_hundred (by norm_num)
  have product : (Number.float x).mul 100 = .ok (.float (x.mul y)) :=
    Number.mul_float_of_operand hundred
  have ok : toPercent seconds total
      = .ok (clampPercent ((Number.float (x.mul y)).roundPlaces Schedule.percentPlaces)) := by
    rw [toPercent, quotient]
    exact bind_eq_ok.2 ⟨_, rfl, bind_eq_ok.2 ⟨_, product, rfl⟩⟩
  obtain ⟨cell, le, on_grid⟩ := exists_cell (x.mul y)
  exact ⟨cell, le, ok.trans (congrArg Except.ok on_grid)⟩

namespace Timeline

variable {total : Number} {loop : Bool} {p : PlacedStep}

/-- A character of a command as it is typed, first seen at a cell. -/
structure Reveals (p : PlacedStep) (index : ℕ) (point : CodePoint) (cell : ℕ) (char : TypedChar) :
    Prop where
  part_eq : char.animated.part = ⟨.char (some (index : Int)), p.index⟩
  char_eq : char.char = point
  revealAt_eq : p.revealAt index = .ok char.revealAt
  revealPercent_eq : char.revealPercent = gridPercent cell

/-- One character for each code point from an index on, in their order, each first seen
at the cell of its index. -/
def RevealsEach (p : PlacedStep) (reveal : ℕ → ℕ) (index : ℕ) (points : List CodePoint)
    (typed : List TypedChar) : Prop :=
  List.Forall₂ (fun (at_point : CodePoint × ℕ) char =>
    Reveals p at_point.2 at_point.1 (reveal at_point.2) char) (points.zipIdx index) typed

/-- Characters have percentages on the grid, those of the cells of their indices. -/
theorem RevealsEach.map_revealPercent {reveal : ℕ → ℕ} {index : ℕ} {points : List CodePoint}
    {typed : List TypedChar} (h : RevealsEach p reveal index points typed) :
    typed.map (·.revealPercent)
      = (List.range' index points.length).map fun i => gridPercent (reveal i) := by
  induction points generalizing index typed with
  | nil =>
      cases h
      rfl
  | cons point rest ih =>
      cases h with
      | cons first others =>
          rw [List.map_cons, List.length_cons, List.range'_succ, List.map_cons, ih others,
            first.revealPercent_eq]

/-- Characters whose cells go up within the cycle are seen one after the other. -/
theorem RevealsEach.pairwise {reveal : ℕ → ℕ} {index : ℕ} {points : List CodePoint}
    {typed : List TypedChar} (h : RevealsEach p reveal index points typed)
    (strict : StrictMono reveal) (inside : ∀ i < index + points.length, reveal i ≤ lastCell) :
    (typed.map (·.revealPercent)).Pairwise (fun a b => a.lt b = true) := by
  rw [h.map_revealPercent, List.pairwise_map]
  refine List.Pairwise.imp_of_mem ?_ (List.pairwise_lt_range' (s := index) (n := points.length))
  intro i j hi hj less
  rw [List.mem_range'_1] at hi hj
  have hi := inside i hi.2
  have hj := inside j hj.2
  exact (gridPercent_lt (by omega) (by omega)).2 (strict less)

/-- A character whose numbers are there is typed, and the typing goes on after it. -/
theorem typeFrom_cons_eq {index : ℕ} {last : Option Number} {time percent put : Number}
    {track : Track} {rule : PlaybackRule} (at_time : p.revealAt index = .ok time)
    (percents : toPercent time total = .ok percent)
    (separates : separate ⟨.char (some (index : Int)), p.index⟩ p.step.timing.perChar last percent
      = .ok put)
    (built : Track.ofEvents ⟨.char (some (index : Int)), p.index⟩ Opacity.hidden
      [⟨put, Opacity.visible⟩] = .ok track)
    (ruled : ruleOf ⟨total, loop⟩ ⟨.char (some (index : Int)), p.index⟩ "steps(1, end)"
      = .ok rule) (point : CodePoint) (rest : List CodePoint) :
    typeFrom ⟨total, loop⟩ p index last (point :: rest)
      = (TypedChar.mk ⟨⟨.char (some (index : Int)), p.index⟩, track, rule⟩ point time
            (revealPercent track) :: ·) <$>
          typeFrom ⟨total, loop⟩ p (index + 1) (some (revealPercent track)) rest := by
  rw [typeFrom]
  simp only [at_time, percents, separates, built, ruled, calculate, arrange, Except.mapError,
    ok_bind, bind_pure_comp]

/-- A character that is put at a cell is first seen there, or one cell after the
beginning. -/
theorem typeFrom_cons (loop : Bool) (finite : total.InRange) {index cell put : ℕ}
    {time : Number} {last : Option Number} (at_time : p.revealAt index = .ok time)
    (percents : toPercent time total = .ok (gridPercent cell))
    (separates : separate ⟨.char (some (index : Int)), p.index⟩ p.step.timing.perChar last
      (gridPercent cell) = .ok (gridPercent put)) (le : put ≤ lastCell) (point : CodePoint)
    (rest : List CodePoint) :
    ∃ char, Reveals p index point (max put 1) char ∧
      typeFrom ⟨total, loop⟩ p index last (point :: rest)
        = (char :: ·) <$> typeFrom ⟨total, loop⟩ p (index + 1)
            (some (gridPercent (max put 1))) rest := by
  obtain ⟨track, built, revealed⟩ := exists_reveal ⟨.char (some (index : Int)), p.index⟩ le
  obtain ⟨rule, ruled⟩ :=
    exists_ruleOf finite loop ⟨.char (some (index : Int)), p.index⟩ "steps(1, end)"
  rw [← revealed]
  exact ⟨_, ⟨rfl, rfl, at_time, revealed⟩,
    typeFrom_cons_eq at_time percents separates built ruled point rest⟩

/-- A character that cannot be separated from the one before it ends the typing. -/
theorem typeFrom_eq_error {index : ℕ} {last : Option Number} {time percent : Number}
    {crowding : CrowdingError} (at_time : p.revealAt index = .ok time)
    (percents : toPercent time total = .ok percent)
    (crowded : separate ⟨.char (some (index : Int)), p.index⟩ p.step.timing.perChar last percent
      = .error crowding) (point : CodePoint) (rest : List CodePoint) :
    typeFrom ⟨total, loop⟩ p index last (point :: rest) = .error (.crowding crowding) := by
  rw [typeFrom]
  simp only [at_time, percents, crowded, calculate, arrange, Except.mapError, ok_bind]
  rfl

/-! ### Typing that takes time -/

/-- Where the character before an index is first seen. -/
def revealedBefore (cells : ℕ → ℕ) : ℕ → Option Number
  | 0 => none
  | i + 1 => some (gridPercent (revealCell cells i))

/-- Where typing takes time, a character is put where the law says, if that is within
the cycle. -/
theorem separate_reveal (part : Part) {perChar : Number} (pace : Number.lt 0 perChar = true)
    {index : ℕ} (inside : cells index ≤ lastCell)
    (before : ∀ i < index, revealCell cells i ≤ lastCell) :
    (revealCell cells index ≤ lastCell ∧ ∃ put ≤ lastCell, max put 1 = revealCell cells index ∧
        separate part perChar (revealedBefore cells index) (gridPercent (cells index))
          = .ok (gridPercent put)) ∨
      (lastCell < revealCell cells index ∧
        separate part perChar (revealedBefore cells index) (gridPercent (cells index))
          = .error ⟨part, .typing⟩) := by
  cases index with
  | zero =>
      have one_le : 1 ≤ lastCell := by decide
      exact Or.inl ⟨max_le one_le inside, cells 0, inside, max_comm _ _, rfl⟩
  | succ i =>
      have last_le := before i (Nat.lt_succ_self i)
      have order := gridPercent_le (j := cells (i + 1)) (k := revealCell cells i)
        (by omega) (by omega)
      have full := hundred_lt_gridPercent (k := revealCell cells i + 1) (by omega)
      rw [revealedBefore, separate, revealCell]
      dsimp only
      rw [pace, Bool.true_and]
      -- A character is moved if its nominal cell is not past the one before it.
      by_cases behind : cells (i + 1) ≤ revealCell cells i
      · rw [if_pos (order.2 behind), nudge_gridPercent last_le, max_eq_right (by omega)]
        by_cases crowded : lastCell < revealCell cells i + 1
        · rw [if_pos (full.2 crowded)]
          exact Or.inr ⟨crowded, rfl⟩
        · rw [if_neg (full.not.2 crowded)]
          exact Or.inl ⟨by omega, _, by omega, max_eq_left (by omega), rfl⟩
      · rw [if_neg (order.not.2 behind), max_eq_left (by omega)]
        exact Or.inl ⟨inside, _, inside, max_eq_left (by omega), rfl⟩

/-- From any index on the characters are typed where the law says, up to the first one
for which that is beyond the cycle. -/
theorem typeFrom_paced (loop : Bool) (finite : total.InRange)
    (pace : Number.lt 0 p.step.timing.perChar = true) (points : List CodePoint) (index : ℕ)
    (reveals : ∀ i < index + points.length, cells i ≤ lastCell ∧ ∃ time,
      p.revealAt i = .ok time ∧ toPercent time total = .ok (gridPercent (cells i)))
    (before : ∀ i < index, revealCell cells i ≤ lastCell) :
    (∃ typed, typeFrom ⟨total, loop⟩ p index (revealedBefore cells index) points = .ok typed ∧
        (∀ i < index + points.length, revealCell cells i ≤ lastCell) ∧
        RevealsEach p (revealCell cells) index points typed) ∨
      ∃ i < index + points.length, (∀ j < i, revealCell cells j ≤ lastCell) ∧
        lastCell < revealCell cells i ∧
        typeFrom ⟨total, loop⟩ p index (revealedBefore cells index) points
          = .error (.crowding ⟨⟨.char (some (i : Int)), p.index⟩, .typing⟩) := by
  -- On the characters that are left; those before `index` have cells within the cycle,
  -- and the last of them was put where the law says.
  induction points generalizing index with
  | nil => exact Or.inl ⟨[], rfl, before, .nil⟩
  | cons point rest ih =>
      rw [List.length_cons] at reveals
      obtain ⟨inside, time, at_time, percents⟩ := reveals index (by omega)
      have length : index + (rest.length + 1) = index + 1 + rest.length := by omega
      rw [List.length_cons, length]
      rcases separate_reveal ⟨.char (some (index : Int)), p.index⟩ pace inside before with
        ⟨room, put, put_le, seen, separates⟩ | ⟨crowded, separates⟩
      · obtain ⟨char, revealed, typing⟩ :=
          typeFrom_cons loop finite at_time percents separates put_le point rest
        rw [seen] at revealed typing
        have still : ∀ i < index + 1, revealCell cells i ≤ lastCell := by
          intro i less
          rcases Nat.lt_succ_iff_lt_or_eq.1 less with earlier | rfl
          · exact before i earlier
          · exact room
        rw [typing]
        rcases ih (index + 1) (fun i less => reveals i (by omega)) still with
          ⟨typed, types, inside, others⟩ | ⟨i, less, earlier, crowded, error⟩
        · refine Or.inl ⟨char :: typed, map_eq_ok.2 ⟨typed, types, rfl⟩, inside, ?_⟩
          exact .cons revealed others
        · refine Or.inr ⟨i, less, earlier, crowded, ?_⟩
          rw [revealedBefore] at error
          rw [error]
          rfl
      · refine Or.inr ⟨index, by omega, before, crowded, ?_⟩
        exact typeFrom_eq_error at_time percents separates point rest

/-! ### Typing that takes none -/

/-- Where typing takes no time, every character keeps its percentage. -/
theorem separate_unpaced (part : Part) {perChar : Number} (zero : perChar.Measures 0)
    (last : Option Number) (percent : Number) :
    separate part perChar last percent = .ok percent := by
  have pace : Number.lt 0 perChar = false := by
    rw [Bool.eq_false_iff]
    intro forward
    have less : ((0 : ℕ) : ℚ) < 0 := ((Number.measures_natCast 0).lt_iff zero).1 forward
    simp at less
  cases last with
  | none => rfl
  | some previous =>
      rw [separate]
      dsimp only
      rw [pace, Bool.false_and, if_neg Bool.false_ne_true]

theorem typeFrom_unpaced (finite : total.InRange) (zero : p.step.timing.perChar.Measures 0)
    {cell : ℕ} (inside : cell ≤ lastCell) {points : List CodePoint} (index : ℕ)
    (reveals : ∀ i < index + points.length, ∃ time,
      p.revealAt i = .ok time ∧ toPercent time total = .ok (gridPercent cell))
    (last : Option Number) :
    ∃ typed, typeFrom ⟨total, loop⟩ p index last points = .ok typed ∧
      RevealsEach p (fun _ => max 1 cell) index points typed := by
  induction points generalizing index last with
  | nil => exact ⟨[], rfl, .nil⟩
  | cons point rest ih =>
      rw [List.length_cons] at reveals
      obtain ⟨time, at_time, percents⟩ := reveals index (by omega)
      have separates := separate_unpaced ⟨.char (some (index : Int)), p.index⟩ zero last
        (gridPercent cell)
      obtain ⟨char, revealed, typing⟩ :=
        typeFrom_cons loop finite at_time percents separates inside point rest
      rw [max_comm] at revealed
      obtain ⟨typed, types, others⟩ := ih (index + 1) (fun i less => reveals i (by omega))
        (some (gridPercent (max cell 1)))
      refine ⟨char :: typed, ?_, .cons revealed others⟩
      rw [typing]
      exact map_eq_ok.2 ⟨typed, types, rfl⟩

/-! ### Commands -/

/-- The law of typing, for a step with any timing values whose whole numbers stay in
range, in a cycle of any positive length. The nominal cells of the characters exist.
Where typing takes time, the characters are first seen one after the other, none before
its nominal cell and each moved only as far as the nominal cells so far force it, and
that fails, for the first character whose cell lies beyond the last one, only if there is
such a character. Where typing takes no time, all characters are seen at once. -/
theorem typedChars_reveals {T : ℚ} (loop : Bool) (measures : total.Measures T) (pos : 0 < T)
    (finite : total.InRange)
    (sums : ∀ i < p.step.command.length, (Number.int i).InRange ∧
      (Number.int (p.start.whole + i * p.step.timing.perChar.whole)).InRange) :
    ∃ cells : ℕ → ℕ,
      (∀ i < p.step.command.length, cells i ≤ lastCell ∧ ∃ time, p.revealAt i = .ok time ∧
        toPercent time total = .ok (gridPercent (cells i))) ∧
      (∀ i, cells i ≤ revealCell cells i ∧ revealCell cells i < revealCell cells (i + 1) ∧
        revealCell cells i
          = (Finset.range (i + 1)).sup fun j => nominalCell cells j + (i - j)) ∧
      (Number.lt 0 p.step.timing.perChar = true →
        (∃ typed, typedChars ⟨total, loop⟩ p = .ok typed ∧
            (∀ i < p.step.command.length, revealCell cells i ≤ lastCell) ∧
            RevealsEach p (revealCell cells) 0 p.step.command.points typed ∧
            (typed.map (·.revealPercent)).Pairwise (fun a b => a.lt b = true)) ∨
          ∃ i < p.step.command.length, (∀ j < i, revealCell cells j ≤ lastCell) ∧
            lastCell < revealCell cells i ∧ ∃ part : Part,
              part = ⟨.char (some (i : Int)), p.index⟩ ∧ part.cssClass = s!"cmd-{p.index}-{i}" ∧
              typedChars ⟨total, loop⟩ p = .error (.crowding ⟨part, .typing⟩)) ∧
      (p.step.timing.perChar.Measures 0 → ∃ typed, typedChars ⟨total, loop⟩ p = .ok typed ∧
        RevealsEach p (fun _ => max 1 (cells 0)) 0 p.step.command.points typed) := by
  -- The nominal cells are those of the times, and there are times for every character.
  have exists_cell (i : ℕ) : ∃ cell, i < p.step.command.length → cell ≤ lastCell ∧ ∃ time,
      p.revealAt i = .ok time ∧ toPercent time total = .ok (gridPercent cell) := by
    by_cases less : i < p.step.command.length
    · obtain ⟨count, sum⟩ := sums i less
      obtain ⟨time, at_time, inRange⟩ := Number.exists_add_count_mul count sum
      obtain ⟨cell, le, percents⟩ := exists_cell_of_inRange inRange finite measures pos
      exact ⟨cell, fun _ => ⟨le, time, at_time, percents⟩⟩
    · exact ⟨0, fun less' => absurd less' less⟩
  choose cells each using exists_cell
  have length : 0 + p.step.command.points.length = p.step.command.length := Nat.zero_add _
  refine ⟨cells, each, fun i => ⟨le_revealCell cells i, revealCell_lt_succ cells i,
    revealCell_eq_sup cells i⟩, fun pace => ?_, fun zero => ?_⟩
  · have paced := typeFrom_paced loop finite pace p.step.command.points 0 (by rwa [length])
      (by omega)
    rw [length] at paced
    rcases paced with ⟨typed, types, inside, reveals⟩ | ⟨i, less, earlier, crowded, error⟩
    · exact Or.inl ⟨typed, types, inside, reveals,
        reveals.pairwise (revealCell_strictMono cells) (by rwa [length])⟩
    · exact Or.inr ⟨i, less, earlier, crowded, _, rfl, rfl, error⟩
  · by_cases empty : p.step.command.length = 0
    · have none : p.step.command.points = [] := List.length_eq_zero_iff.1 empty
      rw [typedChars, none]
      exact ⟨[], rfl, .nil⟩
    · obtain ⟨inside, time, at_time, percents⟩ := each 0 (Nat.pos_of_ne_zero empty)
      refine typeFrom_unpaced finite zero inside 0 (fun i less => ?_) none
      rw [length] at less
      -- A multiple of zero is the same for every character, so their times are.
      have same : p.revealAt i = p.revealAt 0 := by
        have counts := (sums i less).1
        have first := (sums 0 (Nat.pos_of_ne_zero empty)).1
        rw [PlacedStep.revealAt, PlacedStep.revealAt, Number.count_mul_zero counts first zero]
      exact ⟨time, same.trans at_time, percents⟩

/-- A step whose characters are typed too fast to have cells of their own. -/
def hurried : PlacedStep where
  index := 2
  step := { command := "abc", timing :=
    { start := .float .zero, perChar := .float (.ofFraction 1 (2 ^ 40)) } }
  requestedStart := .float .zero
  isLast := false

theorem typedChars_reveals_hurried : (Number.float (.ofFraction 8 1)).InRange ∧
    (∀ i < hurried.step.command.length, (Number.int i).InRange ∧
      (Number.int (hurried.start.whole + i * hurried.step.timing.perChar.whole)).InRange) ∧
    ∃ cells typed, typedChars ⟨.float (.ofFraction 8 1), true⟩ hurried = .ok typed ∧
      RevealsEach hurried (revealCell cells) 0 hurried.step.command.points typed := by
  have measures : (Number.float (.ofFraction 8 1)).Measures (8 / 2 ^ 0) :=
    Number.measures_dyadic 8 0 (by norm_num) (by decide)
  have length : hurried.step.command.length = 3 := by decide
  have inRange : ∀ i < 3, (Number.int (i : ℕ)).operand.isOk = true ∧
      (Number.int (hurried.start.whole + i * hurried.step.timing.perChar.whole)).operand.isOk
        = true := by
    decide +kernel
  have sums : ∀ i < hurried.step.command.length, (Number.int i).InRange ∧
      (Number.int (hurried.start.whole + i * hurried.step.timing.perChar.whole)).InRange := by
    intro i less
    obtain ⟨count, sum⟩ := inRange i (length ▸ less)
    exact ⟨exists_of_isOk count, exists_of_isOk sum⟩
  have types : (typedChars ⟨.float (.ofFraction 8 1), true⟩ hurried).isOk = true := by
    decide +kernel
  obtain ⟨cells, -, -, paced, -⟩ := typedChars_reveals true measures (by norm_num)
    (Number.inRange_float _) sums
  refine ⟨Number.inRange_float _, sums, cells, ?_⟩
  rcases paced (by decide +kernel) with ⟨typed, ok, -, reveals, -⟩ | ⟨_, _, _, _, _, _, _, error⟩
  · exact ⟨typed, ok, reveals⟩
  · rw [error] at types
    cases types

end Timeline

end TerminalReel
