import TerminalReel.Document.StyleSheet
import TerminalReel.Proofs.Animation.Names
import TerminalReel.Proofs.Animation.Parts
/-!
# TerminalReel.Proofs.Document.Percentages

The percentages that a style sheet **prints**, read again as decimals.

Printing rounds a percentage once more, to as many places as the grid has. A
percentage of the grid is so close to its cell that it is printed as the cell
(`compact_gridPercent`), and a printed cell is read as what it is. A block of
keyframes therefore prints its cells, and these run from the beginning of the
cycle to its end.
-/

namespace TerminalReel

open Schedule (percentPlaces)

/-! ### Reading a block of keyframes -/

/-- The percentage that a line of a block prints: a decimal behind two blanks,
before the percent sign. -/
def linePercent? : List Char → Option ℚ
  | ' ' :: ' ' :: rest => if '%' ∈ rest then readDecimal? (rest.takeWhile (· ≠ '%')) else none
  | _ => none

/-- The percentages that a block prints: one on each line but the first and the last. -/
def printedPercents? (css : String) : Option (List ℚ) :=
  (css.toList.splitOn '\n').tail.dropLast.mapM linePercent?

/-- Keyframe and printed percentage are at the same cell: the keyframe at the binary64
number nearest to it, the printed percentage at the cell itself. -/
def PrintedFrom (frame : Keyframe) (printed : ℚ) : Prop :=
  ∃ cell ≤ lastCell, frame.percent = gridPercent cell ∧ printed = cell / 10 ^ percentPlaces

/-! ### Printing on the grid -/

/-- The cell nearest to what a percentage of the grid measures is its own. -/
theorem roundRat_gridValue {cell : ℕ} (le : cell ≤ lastCell) :
    roundRat (gridValue cell * 10 ^ percentPlaces) = cell := by
  have near := abs_le.1 (abs_gridValue_sub_le (le.trans (Nat.le_succ lastCell)))
  apply roundRat_eq_of_abs_lt
  rw [percentPlaces_eq] at near ⊢
  norm_num at near
  rw [abs_lt]
  constructor <;> linarith

/-- A percentage of the grid is not negative, a zero included. -/
theorem gridPercent_eq_finite {cell : ℕ} {negative : Bool} {m : Magnitude}
    (h : gridPercent cell = .float (.finite negative m)) : negative = false := by
  rw [gridPercent_eq, Binary64.ofRatio, Number.float.injEq] at h
  split at h
  · exact (Binary64.finite.inj h).1.symm
  · cases h

/-- A percentage of the grid is printed as its cell. -/
theorem compact_gridPercent {cell : ℕ} (le : cell ≤ lastCell) :
    (gridPercent cell).compact = .ok (String.ofList (unitsText cell)) := by
  have measured := measures_gridPercent (le.trans (Nat.le_succ lastCell))
  -- The number is named so that its fraction is never computed.
  generalize same : gridPercent cell = n at measured
  obtain ⟨x, rfl⟩ : ∃ x, n = .float x := ⟨_, same.symm⟩
  obtain ⟨negative, m, rfl, value, -⟩ := Number.measures_float_iff.1 measured
  obtain rfl := gridPercent_eq_finite same
  have units : m.units = cell := by
    rw [m.units_eq, ← roundRat_gridValue le, value, percentPlaces_eq]
  rw [compact_finite, units, signed_false, decimalText_natCast]

namespace Mark

/-- What stands behind the percent sign on the line of a keyframe. -/
def lineTail (mark : Mark) : List Char :=
  (" \x7b " ++ mark.keyframe.declarations ++ " \x7d").toList

/-- The line of the keyframe at a mark. -/
def line (mark : Mark) : List Char :=
  ' ' :: ' ' :: (unitsText mark.cell ++ '%' :: mark.lineTail)

/-- The percentage at a mark. -/
def percent (mark : Mark) : ℚ := mark.cell / 10 ^ percentPlaces

variable {mark : Mark}

theorem keyframe_line (le : mark.cell ≤ lastCell) :
    mark.keyframe.line = .ok (String.ofList mark.line) := by
  refine bind_eq_ok.2 ⟨_, compact_gridPercent le, pure_eq_ok.2 ?_⟩
  apply String.toList_injective
  simp [line, lineTail, String.toList_append]

theorem newline_not_mem_line (mark : Mark) : '\n' ∉ mark.line := by
  have numeral := not_mem_unitsText (c := '\n') rfl (by decide) mark.cell
  have declarations : '\n' ∉ mark.keyframe.declarations.toList := by
    have opacity := (plain_intRepr mark.opacity).not_mem (c := '\n') rfl
    show '\n' ∉ ("opacity: " ++ mark.opacity.repr ++ ";").toList
    simp [opacity]
  simp [line, lineTail, numeral, declarations]

/-- The percentage on the line of a mark is that of the mark. -/
theorem linePercent?_line (mark : Mark) : linePercent? mark.line = some mark.percent := by
  have numeral : ∀ c ∈ unitsText mark.cell, decide (c ≠ '%') = true := by
    intro c mem
    rw [decide_eq_true_iff]
    rintro rfl
    exact not_mem_unitsText rfl (by decide) mark.cell mem
  have before : (unitsText mark.cell ++ '%' :: mark.lineTail).takeWhile (· ≠ '%')
      = unitsText mark.cell := by
    rw [List.takeWhile_append_of_pos numeral, List.takeWhile_cons_of_neg (by simp), List.append_nil]
  show (if '%' ∈ unitsText mark.cell ++ '%' :: mark.lineTail then
    readDecimal? ((unitsText mark.cell ++ '%' :: mark.lineTail).takeWhile (· ≠ '%')) else none) = _
  rw [if_pos (List.mem_append_right _ List.mem_cons_self), before]
  exact readDecimal?_unitsText mark.cell

end Mark

/-! ### Blocks of keyframes -/

theorem mapM_eq_pure {m : Type → Type} [Monad m] [LawfulMonad m] {α β : Type} {f : α → m β}
    {g : α → β} {xs : List α} (h : ∀ x ∈ xs, f x = pure (g x)) : xs.mapM f = pure (xs.map g) := by
  induction xs with
  | nil => rfl
  | cons x rest ih =>
      obtain ⟨first, later⟩ := List.forall_mem_cons.1 h
      rw [List.mapM_cons, first, ih later]
      simp

/-- The lines of a block: its name, one for each keyframe, and the end. -/
def Track.cssLines (name : String) (marks : List Mark) : List String :=
  ("@keyframes " ++ name ++ " \x7b") ::
    (marks.map (fun mark => String.ofList mark.line) ++ ["\x7d"])

theorem Track.css_eq {track : Track} {marks : List Mark} (nonempty : marks ≠ [])
    (frames : track.frames = marks.map Mark.keyframe)
    (inside : ∀ mark ∈ marks, mark.cell ≤ lastCell) :
    track.css = .ok (String.intercalate "\n" (cssLines track.name marks)) := by
  have entries : track.frames.mapM Keyframe.line
      = .ok (marks.map fun mark => String.ofList mark.line) := by
    rw [frames, List.mapM_map]
    exact mapM_eq_pure fun mark mem => Mark.keyframe_line (inside mark mem)
  refine bind_eq_ok.2 ⟨_, entries, pure_eq_ok.2 ?_⟩
  have some_line : marks.map (fun mark => String.ofList mark.line) ≠ [] := by simpa using nonempty
  rw [cssLines, String.intercalate_cons_of_ne_nil (by simp),
    String.intercalate_append_of_ne_nil some_line (by simp), String.intercalate_singleton]
  -- Header and end are text between the entries and the line ends around them.
  generalize String.intercalate "\n" _ = body
  show "@keyframes " ++ track.name ++ " \x7b\n" ++ body ++ "\n\x7d" = _
  apply String.toList_injective
  simp

theorem Track.newline_not_mem_cssLines {name : String} (one_line : '\n' ∉ name.toList)
    (marks : List Mark) : ∀ text ∈ cssLines name marks, '\n' ∉ text.toList := by
  intro text mem
  rcases List.mem_cons.1 mem with rfl | mem
  · simp [one_line]
  · rcases List.mem_append.1 mem with in_marks | in_end
    · obtain ⟨mark, -, rfl⟩ := List.mem_map.1 in_marks
      rw [String.toList_ofList]
      exact mark.newline_not_mem_line
    · obtain rfl := List.mem_singleton.1 in_end
      simp

/-- A block of keyframes on the grid prints the percentages of its marks. -/
theorem printedPercents?_cssLines {name : String} {marks : List Mark}
    (one_line : '\n' ∉ name.toList) :
    printedPercents? (String.intercalate "\n" (Track.cssLines name marks))
      = some (marks.map Mark.percent) := by
  have apart := Track.newline_not_mem_cssLines one_line marks
  have lines : (String.intercalate "\n" (Track.cssLines name marks)).toList.splitOn '\n'
      = (Track.cssLines name marks).map String.toList := by
    rw [String.toList_intercalate]
    exact List.splitOn_intercalate '\n' (List.forall_mem_map.2 apart) (by simp [Track.cssLines])
  have entries : ((Track.cssLines name marks).map String.toList).tail.dropLast
      = marks.map Mark.line := by
    simp [Track.cssLines]
  rw [printedPercents?, lines, entries, List.mapM_map]
  exact mapM_eq_pure fun mark _ => mark.linePercent?_line

/-! ### Every block of an animation -/

namespace Timeline

/-- Whatever the steps and the length of the cycle are, every block of keyframes
prints percentages that increase strictly from `0` to `100`, each the cell of
the keyframe that it is printed from. -/
theorem compile_printed_percents {config : Config} {forceLoop : Bool} {timeline : Timeline}
    {part : AnimatedPart} (h : (compile config forceLoop).outcome = .ok timeline)
    (mem : part ∈ timeline.parts) : ∃ css percents,
      part.track.css = .ok css ∧ printedPercents? css = some percents ∧
      percents.Pairwise (· < ·) ∧ percents.head? = some 0 ∧ percents.getLast? = some 100 ∧
      List.Forall₂ PrintedFrom part.track.frames percents := by
  have from_grid := fromGrid_of_compile h part mem
  obtain ⟨initial, marks, frames, run⟩ := from_grid.exists_marks
  obtain ⟨named, name⟩ := from_grid.exists_name
  have one_line : '\n' ∉ part.track.name.toList := name ▸ named.plain_keyframesName.not_mem rfl
  refine ⟨_, _, Track.css_eq (List.cons_ne_nil _ _) frames run.le,
    printedPercents?_cssLines one_line, ?_, ?_, ?_, ?_⟩
  · refine List.pairwise_map.2 (run.pairwise.imp fun {j k} less => ?_)
    have : (j.cell : ℚ) < k.cell := by exact_mod_cast less
    exact div_lt_div_of_pos_right this (by positivity)
  · simp [Mark.percent]
  · obtain ⟨now, last⟩ := run.exists_getLast?
    rw [List.getLast?_map, last]
    norm_num [Mark.percent, lastCell_eq, percentPlaces_eq]
  · rw [frames, List.forall₂_map_left_iff, List.forall₂_map_right_iff, List.forall₂_same]
    exact fun mark mem => ⟨mark.cell, run.le mark mem, rfl, rfl⟩

theorem compile_printed_percents_twoSteps : ∃ timeline,
    (compile twoSteps).outcome = .ok timeline ∧ timeline.parts ≠ [] ∧
      ∀ part ∈ timeline.parts, ∃ css percents,
        part.track.css = .ok css ∧ printedPercents? css = some percents ∧
        percents.Pairwise (· < ·) ∧ percents.head? = some 0 ∧ percents.getLast? = some 100 ∧
        List.Forall₂ PrintedFrom part.track.frames percents := by
  have checked : (match (compile twoSteps).outcome with
      | .ok timeline => !timeline.parts.isEmpty
      | .error _ => false) = true := by
    decide +kernel
  cases same : (compile twoSteps).outcome with
  | error e =>
      rw [same] at checked
      cases checked
  | ok timeline =>
      rw [same] at checked
      refine ⟨timeline, rfl, by simpa using checked, fun part mem => ?_⟩
      exact compile_printed_percents same mem

end Timeline

end TerminalReel
