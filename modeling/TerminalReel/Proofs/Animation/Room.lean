import TerminalReel.Proofs.Animation.Exclusive
import TerminalReel.Proofs.Numeric.Extended
/-!
# TerminalReel.Proofs.Animation.Room

There is **room for every part** of an animation whose cycle is not too long.

An event that has to be pushed goes one cell past its predecessor, so events that
lie in the first `b` cells end, whatever they are, in the first `b` and as many cells
as there are events (`exists_marksAfter`). A group has four events. A character has
one, and may have to make way for all the characters before it. The schedule leaves
three tenths of a second between the last of these events and the end of the cycle,
and the bound on the length of the cycle says that this is as many cells as the
longest command has characters, and four.
-/

namespace TerminalReel

/-! ### Pushing on the grid -/

namespace Track

/-- Events in the first cells leave their marks if as many cells as there are events
remain. -/
theorem exists_marksAfter {b : ℕ} {previous : Mark} {events : List Mark}
    (previous_le : previous.cell ≤ b) (events_le : ∀ event ∈ events, event.cell ≤ b)
    (room : b + events.length ≤ lastCell) : ∃ marks, marksAfter previous events = some marks := by
  induction events generalizing b previous with
  | nil => exact ⟨_, rfl⟩
  | cons event rest ih =>
      obtain ⟨event_le, rest_le⟩ := List.forall_mem_cons.1 events_le
      rw [List.length_cons] at room
      -- Whatever becomes of this event, it uses up one of the remaining cells at most.
      have later_le : ∀ later ∈ rest, later.cell ≤ b + 1 := fun later mem =>
        (rest_le later mem).trans (Nat.le_succ b)
      rw [marksAfter]
      by_cases behind : event.cell ≤ previous.cell
      · rw [if_pos behind]
        by_cases same : event.opacity = previous.opacity
        · rw [if_pos same]
          exact ih (previous_le.trans (Nat.le_succ b)) later_le (by omega)
        · have inside : ¬ lastCell ≤ previous.cell := by omega
          rw [if_neg same, if_neg inside]
          have pushed_le : (event.pushedPast previous).cell ≤ b + 1 := Nat.succ_le_succ previous_le
          obtain ⟨marks, after⟩ := ih pushed_le later_le (by omega)
          exact ⟨_, by rw [after]; rfl⟩
      · rw [if_neg behind]
        obtain ⟨marks, after⟩ := ih (event_le.trans (Nat.le_succ b)) later_le (by omega)
        exact ⟨_, by rw [after]; rfl⟩

/-- Events on the grid whose marks are there make keyframes. -/
theorem framesAfter_of_marksAfter (part : Part) {previous : Mark} {events marks : List Mark}
    (le : previous.cell ≤ lastCell) (inside : ∀ event ∈ events, event.cell ≤ lastCell)
    (h : marksAfter previous events = some marks) :
    framesAfter part previous.keyframe (events.map Mark.keyframe)
      = .ok (marks.map Mark.keyframe) := by
  induction events generalizing previous marks with
  | nil =>
      obtain rfl := Option.some.inj h
      exact congrArg Except.ok (closing_keyframe le)
  | cons event rest ih =>
      obtain ⟨event_le, rest_le⟩ := List.forall_mem_cons.1 inside
      rw [List.map_cons, framesAfter_keyframe_cons le event_le]
      rw [marksAfter] at h
      by_cases behind : event.cell ≤ previous.cell
      · rw [if_pos behind] at h ⊢
        by_cases same : event.opacity = previous.opacity
        · rw [if_pos same] at h ⊢
          exact ih le rest_le h
        · rw [if_neg same] at h ⊢
          by_cases crowded : lastCell ≤ previous.cell
          · rw [if_pos crowded] at h
            cases h
          · rw [if_neg crowded] at h ⊢
            obtain ⟨later, after, rfl⟩ := Option.map_eq_some_iff.1 h
            have room : (event.pushedPast previous).cell ≤ lastCell := Nat.lt_of_not_le crowded
            rw [ih room rest_le after]
            rfl
      · rw [if_neg behind] at h ⊢
        obtain ⟨later, after, rfl⟩ := Option.map_eq_some_iff.1 h
        rw [ih event_le rest_le after]
        rfl

/-- A part whose events on the grid have marks has a track of them. -/
theorem ofEvents_of_marksAfter (part : Part) {initial : Int} {events marks : List Mark}
    (inside : ∀ event ∈ events, event.cell ≤ lastCell)
    (h : marksAfter ⟨0, initial⟩ events = some marks) :
    ofEvents part initial (events.map Mark.keyframe)
      = .ok ⟨part.keyframesName, (Mark.mk 0 initial :: marks).map Mark.keyframe⟩ := by
  have first : (⟨firstPercent, initial⟩ : Keyframe) = (Mark.mk 0 initial).keyframe := by
    rw [Mark.keyframe, firstPercent_eq]
  have frames := framesAfter_of_marksAfter part (Nat.zero_le lastCell) inside h
  rw [ofEvents, first]
  exact bind_eq_ok.2 ⟨_, frames, rfl⟩

/-- A part whose events have room has a track of their marks. -/
theorem exists_ofEvents (part : Part) (initial : Int) {events : List Mark} {b : ℕ}
    (events_le : ∀ event ∈ events, event.cell ≤ b) (room : b + events.length ≤ lastCell) :
    ∃ track, ofEvents part initial (events.map Mark.keyframe) = .ok track := by
  obtain ⟨marks, after⟩ : ∃ marks, marksAfter ⟨0, initial⟩ events = some marks :=
    exists_marksAfter (Nat.zero_le b) events_le room
  have inside : ∀ event ∈ events, event.cell ≤ lastCell := fun event mem =>
    (events_le event mem).trans (by omega)
  exact ⟨_, ofEvents_of_marksAfter part inside after⟩

end Track

/-! ### The cells that remain -/

/-- Three tenths of a second before its end, a cycle that is short enough for `length`
characters has so many cells left, and four. -/
theorem cellAt_faded_add_le {T f : ℚ} {length : ℕ} (nonneg : 0 ≤ f)
    (half_le : nearest (f + 1 / 2) ≤ T) (short : ((length : ℚ) + 4) * T ≤ 300000) :
    cellAt T (nearest (f + PlacedStep.fadeLength)) + (length + 4) ≤ lastCell := by
  have fade_le := PlacedStep.fadeLength_le
  have fade_nonneg : 0 ≤ PlacedStep.fadeLength := nearest_nonneg _
  have kept := nearest_dyadic (show 1 ≤ 2 ^ 53 by norm_num) (show 1 ≤ quantumExponent by decide)
  have half : 1 / 2 ≤ T := by
    norm_num at kept
    calc (1 / 2 : ℚ) = nearest (1 / 2) := kept.symm
      _ ≤ nearest (f + 1 / 2) := nearest_mono (by linarith)
      _ ≤ T := half_le
  have pos : 0 < T := by linarith
  have length_nonneg : (0 : ℚ) ≤ length := Nat.cast_nonneg length
  have T_le : T ≤ 75000 := by nlinarith
  have f_lt : f < T := Schedule.Timed.lt_of_nearest_le nonneg half_le (by linarith)
  have ended := abs_le.1 (abs_nearest_sub_le (show 0 ≤ f + 1 / 2 by linarith))
  have fifth := abs_le.1 (abs_nearest_sub_le (show (0 : ℚ) ≤ 1 / 5 by norm_num))
  have faded := abs_le.1 (abs_nearest_sub_le (add_nonneg nonneg fade_nonneg))
  have faded_le : nearest (f + PlacedStep.fadeLength) ≤ T :=
    (nearest_mono (by linarith)).trans half_le
  have cell := abs_le.1 (abs_cellAt_sub_le pos (nearest_nonneg _) faded_le)
  generalize nearest (f + 1 / 2) = w at *
  rw [PlacedStep.fadeLength] at *
  generalize nearest (1 / 5) = l at *
  generalize nearest (f + l) = u at *
  -- Three tenths of a second remain, but for the binary roundings.
  have gap : 3 / 10 - 1 / 10 ^ 9 ≤ T - u := by
    norm_num at ended fifth faded
    linarith
  have remain : (length : ℚ) + 4 - 1 / 100 ≤ 10 ^ 6 - 10 ^ 6 * (u / T) := by
    have whole : (10 : ℚ) ^ 6 - 10 ^ 6 * (u / T) = 10 ^ 6 * (T - u) / T := by
      field_simp
    rw [whole, le_div_iff₀ pos]
    nlinarith
  have last : (lastCell : ℚ) = 10 ^ 6 := by
    rw [lastCell_eq]
    norm_num
  have less : ((cellAt T u + (length + 4) : ℕ) : ℚ) < (lastCell + 1 : ℕ) := by
    push_cast
    rw [last]
    norm_num at cell remain ⊢
    linarith
  exact Nat.lt_succ_iff.1 (by exact_mod_cast less)

namespace Schedule

/-- The length of the longest command. -/
def longestCommand (steps : List Step) : ℕ :=
  (steps.map fun step => step.command.length).foldr max 0

theorem length_le_longestCommand {steps : List Step} {step : Step} (mem : step ∈ steps) :
    step.command.length ≤ longestCommand steps := by
  induction steps with
  | nil => cases mem
  | cons first rest ih =>
      rcases List.mem_cons.1 mem with rfl | mem
      · exact le_max_left _ _
      · exact (ih mem).trans (le_max_right _ _)

end Schedule

namespace Timeline

open Schedule (stepBefore Timed)

variable {total : Binary64} {loop : Bool} {part : Part} {p : PlacedStep} {T f t : ℚ} {b : ℕ}

/-! ### Single parts -/

/-- The rule of a part can be written. -/
theorem exists_ruleOf {total : Number} (h : total.InRange) (loop : Bool) (part : Part)
    (timingFunction : String) : ∃ rule, ruleOf ⟨total, loop⟩ part timingFunction = .ok rule := by
  obtain ⟨y, thousand, -⟩ := Number.exists_operand (Number.measures_natCast 1000) (by norm_num)
  obtain ⟨product, ok⟩ := Number.exists_combine (· * ·) .mul h ⟨y, thousand⟩
  exact ⟨_, bind_eq_ok.2 ⟨_, mapError_eq_ok.2 ok, rfl⟩⟩

/-- The events of a group lie no later than the end of a fade from `f` on. -/
theorem exists_fadeEvents (loop : Bool) {appearAt : Number} {fadeOutAt : Option Number}
    (hT : (Number.float total).Measures T) (small : T < 2 ^ 52)
    (half_le : nearest (f + 1 / 2) ≤ T) (appears : appearAt.Measures t)
    (fades : ∀ n ∈ fadeOutAt, n.Measures f) (kept : nearest f = f) (t_le : t ≤ f) :
    ∃ events : List Mark,
      fadeEvents ⟨.float total, loop⟩ appearAt fadeOutAt = .ok (events.map Mark.keyframe) ∧
      events.length ≤ 4 ∧
      ∀ event ∈ events, event.cell ≤ cellAt T (nearest (f + PlacedStep.fadeLength)) := by
  have f_lt := Timed.lt_of_nearest_le (appears.nonneg.trans t_le) half_le small
  have pos : 0 < T := (appears.nonneg.trans t_le).trans_lt f_lt
  have wide : T ≤ 2 ^ 53 := small.le.trans (by norm_num)
  have length_nonneg : 0 ≤ PlacedStep.fadeLength := nearest_nonneg _
  have length_le := PlacedStep.fadeLength_le
  have f_le : f ≤ nearest (f + PlacedStep.fadeLength) := by
    calc f = nearest f := kept.symm
      _ ≤ nearest (f + PlacedStep.fadeLength) := nearest_mono (by linarith)
  have appeared_le : nearest (t + PlacedStep.fadeLength) ≤ nearest (f + PlacedStep.fadeLength) :=
    nearest_mono (by linarith)
  have faded_le : nearest (f + PlacedStep.fadeLength) ≤ T :=
    (nearest_mono (by linarith)).trans half_le
  have percent {n : Number} {u : ℚ} (hn : n.Measures u) (le : u ≤ T) :
      toPercent n (.float total) = .ok (gridPercent (cellAt T u)) :=
    toPercent_of_measures hn hT pos le wide
  obtain ⟨appeared, sum, measured⟩ := PlacedStep.fadeDuration_after appears.yields (by linarith)
  have first := percent appears (t_le.trans f_lt.le)
  have second := percent measured (appeared_le.trans faded_le)
  have first_cell := cellAt_mono pos (t_le.trans f_le)
  have second_cell := cellAt_mono pos appeared_le
  cases fadeOutAt with
  | none =>
      refine ⟨[⟨cellAt T t, Opacity.hidden⟩,
        ⟨cellAt T (nearest (t + PlacedStep.fadeLength)), Opacity.visible⟩], ?_, by simp, ?_⟩
      · simp only [fadeEvents, bind_eq_ok, pure_eq_ok]
        exact ⟨_, ⟨_, first, rfl⟩, _, sum, _, ⟨_, second, rfl⟩, rfl⟩
      · simp [first_cell, second_cell]
  | some fadeAt =>
      have fade := fades fadeAt rfl
      obtain ⟨faded, sum', measured'⟩ := PlacedStep.fadeDuration_after fade.yields (by linarith)
      have third := percent fade f_lt.le
      have fourth := percent measured' faded_le
      refine ⟨[⟨cellAt T t, Opacity.hidden⟩,
        ⟨cellAt T (nearest (t + PlacedStep.fadeLength)), Opacity.visible⟩,
        ⟨cellAt T f, Opacity.visible⟩,
        ⟨cellAt T (nearest (f + PlacedStep.fadeLength)), Opacity.hidden⟩], ?_, by simp, ?_⟩
      · simp only [fadeEvents, bind_eq_ok, pure_eq_ok]
        exact ⟨_, ⟨_, first, rfl⟩, _, sum, _, ⟨_, second, rfl⟩, _, ⟨_, third, rfl⟩, _, sum', _,
          ⟨_, fourth, rfl⟩, rfl⟩
      · simp [first_cell, second_cell, cellAt_mono pos f_le]

/-- A group whose four events have room is placed. -/
theorem exists_animateFading {appearAt : Number} {fadeOutAt : Option Number}
    {events : List Mark}
    (fades : fadeEvents ⟨.float total, loop⟩ appearAt fadeOutAt = .ok (events.map Mark.keyframe))
    (events_le : ∀ event ∈ events, event.cell ≤ b) (room : b + events.length ≤ lastCell) :
    ∃ group, animateFading ⟨.float total, loop⟩ part appearAt fadeOutAt = .ok group := by
  obtain ⟨track, built⟩ := Track.exists_ofEvents part Opacity.hidden events_le room
  obtain ⟨rule, ruled⟩ := exists_ruleOf (Number.inRange_float total) loop part "linear"
  refine ⟨⟨part, track, rule⟩, ?_⟩
  simp only [animateFading, animate, bind_eq_ok, calculate, arrange, mapError_eq_ok, pure_eq_ok]
  exact ⟨_, fades, track, built, rule, ruled, rfl⟩

/-! ### Typing -/

/-- A character is put at its own cell or one past the character before it. -/
theorem exists_separate (part : Part) (perChar : Number) {last : Option Number} {cell : ℕ}
    (on_last : ∀ previous ∈ last, ∃ cell ≤ b, previous = gridPercent cell) (le : cell ≤ b)
    (room : b + 1 ≤ lastCell) :
    ∃ c ≤ b + 1, separate part perChar last (gridPercent cell) = .ok (gridPercent c) := by
  cases last with
  | none => exact ⟨cell, le.trans (Nat.le_succ b), rfl⟩
  | some previous =>
      obtain ⟨before, before_le, rfl⟩ := on_last previous rfl
      rw [separate]
      dsimp only
      split
      · rw [nudge_gridPercent (by omega), if_neg]
        · exact ⟨before + 1, by omega, rfl⟩
        · rw [hundred_lt_gridPercent (by omega)]
          omega
      · exact ⟨cell, le.trans (Nat.le_succ b), rfl⟩

/-- A character is first seen at its cell, or at the first one after the beginning. -/
theorem exists_reveal (part : Part) {cell : ℕ} (le : cell ≤ lastCell) : ∃ track,
    Track.ofEvents part Opacity.hidden [⟨gridPercent cell, Opacity.visible⟩] = .ok track ∧
      revealPercent track = gridPercent (max cell 1) := by
  have inside : ∀ event ∈ [Mark.mk cell Opacity.visible], event.cell ≤ lastCell := by
    simpa using le
  obtain ⟨marks, after⟩ : ∃ marks,
      Track.marksAfter ⟨0, Opacity.hidden⟩ [⟨cell, Opacity.visible⟩] = some marks := by
    rw [Track.marksAfter]
    by_cases behind : cell ≤ 0
    · have change : Opacity.visible ≠ Opacity.hidden := by decide
      have room : ¬ lastCell ≤ 0 := by decide
      rw [if_pos behind, if_neg change, if_neg room]
      exact ⟨_, rfl⟩
    · rw [if_neg behind]
      exact ⟨_, rfl⟩
  have built := Track.ofEvents_of_marksAfter part inside after
  obtain ⟨later, -, rfl⟩ := Track.marksAfter_change after (by decide)
  exact ⟨_, built, rfl⟩

/-- Characters that are revealed in the first cells are placed if there are as
many cells left as characters, and one. -/
theorem exists_typeFrom {points : List CodePoint} {index : ℕ} {last : Option Number}
    (reveals : ∀ i < index + points.length, ∃ time cell, p.revealAt i = .ok time ∧ cell ≤ b ∧
      toPercent time (.float total) = .ok (gridPercent cell))
    (on_last : ∀ previous ∈ last, ∃ cell ≤ b + index, previous = gridPercent cell)
    (room : b + (index + points.length) < lastCell) :
    ∃ typed, typeFrom ⟨.float total, loop⟩ p index last points = .ok typed := by
  -- Every character so far has moved the next one by a cell at most.
  induction points generalizing index last with
  | nil => exact ⟨[], rfl⟩
  | cons point rest ih =>
      rw [List.length_cons] at reveals room
      obtain ⟨time, cell, at_time, cell_le, percent⟩ := reveals index (by omega)
      let part : Part := ⟨.char (some (index : Int)), p.index⟩
      obtain ⟨c, c_le, separates⟩ := exists_separate part p.step.timing.perChar on_last
        (cell_le.trans (Nat.le_add_right b index)) (by omega)
      have c_room : c ≤ lastCell := by omega
      obtain ⟨track, built, revealed⟩ := exists_reveal part c_room
      obtain ⟨rule, ruled⟩ := exists_ruleOf (Number.inRange_float total) loop part "steps(1, end)"
      have on_next : ∀ previous ∈ some (revealPercent track),
          ∃ cell ≤ b + (index + 1), previous = gridPercent cell := by
        rintro _ ⟨⟩
        exact ⟨max c 1, by omega, revealed⟩
      obtain ⟨others, types⟩ : ∃ others,
          typeFrom ⟨.float total, loop⟩ p (index + 1) (some (revealPercent track)) rest
            = .ok others :=
        ih (fun i less => reveals i (by omega)) on_next (by omega)
      refine ⟨⟨⟨part, track, rule⟩, point, time, revealPercent track⟩ :: others, ?_⟩
      simp only [typeFrom, bind_eq_ok, calculate, arrange, mapError_eq_ok, pure_eq_ok]
      exact ⟨time, at_time, _, percent, _, separates, track, built, rule, ruled, others, types, rfl⟩

/-! ### Scenes -/

variable {steps : List Step} {placed : List PlacedStep} {cycle : Cycle} {charWidth : Number}
  {previous : Option PlacedStep} {k : ℕ}

/-- A command whose group and characters are placed is placed. -/
theorem exists_typedCommand {appearAt : Number} {fadeOutAt : Option Number}
    (group : ∃ group, animateFading ⟨.float total, loop⟩ ⟨.command, p.index⟩ appearAt fadeOutAt
      = .ok group)
    (characters : ∃ typed, typedChars ⟨.float total, loop⟩ p = .ok typed) :
    ∃ typed, typedCommand ⟨.float total, loop⟩ p appearAt fadeOutAt = .ok typed := by
  obtain ⟨group, fading⟩ := group
  obtain ⟨characters, types⟩ := characters
  let part : Part := ⟨.prompt, p.index⟩
  -- The prompt has no events, so any room will do.
  have inside : ∀ event ∈ ([] : List Mark), event.cell ≤ 0 := by simp
  obtain ⟨track, built⟩ := Track.exists_ofEvents part Opacity.visible inside (Nat.zero_le lastCell)
  obtain ⟨rule, ruled⟩ := exists_ruleOf (Number.inRange_float total) loop part "linear"
  refine ⟨⟨⟨part, track, rule⟩, group, characters⟩, ?_⟩
  simp only [typedCommand, animate, bind_eq_ok, arrange, mapError_eq_ok, pure_eq_ok]
  exact ⟨track, built, _, ⟨rule, ruled, rfl⟩, group, fading, characters, types, rfl⟩

/-- In a cycle that is short enough for its longest command, every step that has a
layout is compiled. -/
theorem exists_sceneOf (h : Timed steps loop placed (.float total) T)
    (short : ((Schedule.longestCommand steps : ℚ) + 4) * T ≤ 300000) (at_k : placed[k]? = some p)
    {layout : Layout} (laid : Layout.ofStep p.step charWidth = .ok layout) :
    ∃ scene, sceneOf ⟨.float total, loop⟩ charWidth (stepBefore none placed k) p = .ok scene := by
  obtain ⟨s, r, e, f, course, half_le⟩ := h.exists_course (List.mem_of_getElem? at_k)
  obtain ⟨t, t_le, ⟨appearAt, appears, appear⟩, -⟩ := h.exists_appear at_k course
  obtain ⟨fadeAt, fadeOut, fade⟩ := course.fadeOutAt
  have f_lt := h.fade_lt course half_le
  have small := h.small
  have wide : T ≤ 2 ^ 53 := small.le.trans (by norm_num)
  have pos : 0 < T := fade.nonneg.trans_lt f_lt
  have kept : nearest f = f := fade.nearest_eq (by linarith)
  have room := cellAt_faded_add_le fade.nonneg half_le short
  obtain ⟨fadeOutAt, fades, some_fade⟩ : ∃ fadeOutAt,
      fadeOutOf ⟨.float total, loop⟩ p = .ok fadeOutAt ∧ ∀ n ∈ fadeOutAt, n.Measures f := by
    rw [fadeOutOf]
    split
    · exact ⟨none, rfl, by simp⟩
    · exact ⟨some fadeAt, map_eq_ok.2 ⟨fadeAt, fadeOut, rfl⟩, by simpa using fade⟩
  have t_le_f : t ≤ f := t_le.trans (course.started_le_ended.trans course.ended_le)
  obtain ⟨events, eventful, few, events_le⟩ :=
    exists_fadeEvents loop h.measures small half_le appear some_fade kept t_le_f
  have group (part : Part) :
      ∃ group, animateFading ⟨.float total, loop⟩ part appearAt fadeOutAt = .ok group :=
    exists_animateFading eventful events_le (by omega)
  have length_le : p.step.command.length ≤ Schedule.longestCommand steps := by
    obtain ⟨step, at_step, follows⟩ := Schedule.place_follows h.places at_k
    have same : p.step.command = step.command := congrArg (·.step.command) follows.placed
    rw [same]
    exact Schedule.length_le_longestCommand (List.mem_of_getElem? at_step)
  have characters : ∃ typed, typedChars ⟨.float total, loop⟩ p = .ok typed := by
    have length_eq : p.step.command.points.length = p.step.command.length := rfl
    refine exists_typeFrom (fun i less => ?_) (by simp) ?_
      (b := cellAt T (nearest (f + PlacedStep.fadeLength)))
    · rw [Nat.zero_add, length_eq] at less
      obtain ⟨time, revealed, measured⟩ := course.revealAt i less.le
      have le : r i ≤ f :=
        (course.reveal_mono less.le).trans (course.reveal_le.trans course.ended_le)
      have le_faded : r i ≤ nearest (f + PlacedStep.fadeLength) := by
        have length_nonneg : 0 ≤ PlacedStep.fadeLength := nearest_nonneg _
        calc r i ≤ f := le
          _ = nearest f := kept.symm
          _ ≤ nearest (f + PlacedStep.fadeLength) := nearest_mono (by linarith)
      exact ⟨time, _, revealed, cellAt_mono pos le_faded,
        toPercent_of_measures measured h.measures pos (le.trans f_lt.le) wide⟩
    · omega
  obtain ⟨lines, prints⟩ := group ⟨.lines, p.index⟩
  obtain ⟨typed, types⟩ := exists_typedCommand (group _) characters
  refine ⟨⟨p, layout, appearAt, fadeOutAt, if p.step.lines.isEmpty then none else some lines,
    if stays ⟨.float total, loop⟩ p then none else some typed⟩, sceneOf_eq_ok_iff.2 ?_⟩
  refine ⟨rfl, laid, appears, fades, ?_, ?_⟩
  · split
    · rfl
    · exact ⟨lines, rfl, prints⟩
  · split
    · rfl
    · exact ⟨typed, rfl, types⟩

/-! ### Whole animations -/

/-- Steps that are compiled wherever they have a layout fail only by a layout. -/
theorem scenesAfter_cases (cycle : Cycle) (previous : Option PlacedStep)
    (each : ∀ k p, placed[k]? = some p → ∀ layout,
      Layout.ofStep p.step charWidth = .ok layout →
      ∃ scene, sceneOf cycle charWidth (stepBefore previous placed k) p = .ok scene) :
    (∃ scenes, scenesAfter cycle charWidth previous placed = .ok scenes) ∨
      ∃ p ∈ placed, ∃ e, Layout.ofStep p.step charWidth = .error e ∧
        scenesAfter cycle charWidth previous placed = .error (.arithmetic e) := by
  induction placed generalizing previous with
  | nil => exact Or.inl ⟨[], rfl⟩
  | cons p rest ih =>
      cases laid : Layout.ofStep p.step charWidth with
      | error e =>
          refine Or.inr ⟨p, List.mem_cons_self, e, laid, ?_⟩
          rw [scenesAfter, sceneOf, laid]
          rfl
      | ok layout =>
          obtain ⟨scene, compiled⟩ := each 0 p rfl layout laid
          change sceneOf cycle charWidth previous p = .ok scene at compiled
          have later := ih (some p) fun k q at_k layout laid => by
            rw [← Schedule.stepBefore_cons previous p rest k]
            exact each (k + 1) q at_k layout laid
          rw [scenesAfter, compiled]
          rcases later with ⟨scenes, ok⟩ | ⟨q, mem, e, failed, error⟩
          · exact Or.inl ⟨scene :: scenes, bind_eq_ok.2 ⟨_, rfl, bind_eq_ok.2 ⟨_, ok, rfl⟩⟩⟩
          · refine Or.inr ⟨q, List.mem_cons_of_mem p mem, e, failed, ?_⟩
            change (scenesAfter cycle charWidth (some p) rest >>= fun others =>
              pure (scene :: others)) = _
            rw [error]
            rfl

/-- Checked steps that are placed and have a total compile to their scenes. -/
theorem outcome_compile {config : Config} {forceLoop : Bool} {total : Number}
    (checked : checkSteps config.steps = .ok ())
    (places : (Schedule.place config.steps).outcome = .ok placed)
    (totals : Schedule.totalDuration placed (forceLoop || config.loop) = .ok total) :
    (compile config forceLoop).outcome = do
      let loop := forceLoop || config.loop
      return ⟨total, loop, ← scenesAfter ⟨total, loop⟩ config.charWidth none placed⟩ := by
  simp only [compile, Attempt.outcome_bind, Attempt.outcome_ofExcept, Attempt.outcome_mapError,
    Attempt.outcome_log, Attempt.outcome_pure, checked, places, calculate]
  change (Except.mapError CompileError.arithmetic
    (Schedule.totalDuration placed (forceLoop || config.loop)) >>= _) = _
  rw [totals]
  rfl

/-- Checked steps that are placed in a cycle short enough for the longest of their
commands compile, unless a layout fails: in a cycle of `T` seconds no part is
crowded as long as `T` times four more than the length of that command is at most
three hundred thousand. -/
theorem compile_never_crowded {config : Config} {forceLoop : Bool} {total : Number}
    (checked : checkSteps config.steps = .ok ())
    (places : (Schedule.place config.steps).outcome = .ok placed)
    (totals : Schedule.totalDuration placed (forceLoop || config.loop) = .ok total)
    (measures : total.Measures T)
    (short : ((Schedule.longestCommand config.steps : ℚ) + 4) * T ≤ 300000) :
    (∀ crowding, (compile config forceLoop).outcome ≠ .error (.crowding crowding)) ∧
      ((∃ timeline, (compile config forceLoop).outcome = .ok timeline) ∨
        ∃ p ∈ placed, ∃ e, Layout.ofStep p.step config.charWidth = .error e ∧
          (compile config forceLoop).outcome = .error (.arithmetic e)) := by
  have longest_nonneg : (0 : ℚ) ≤ Schedule.longestCommand config.steps := Nat.cast_nonneg _
  have T_nonneg := measures.nonneg
  have small : T < 2 ^ 52 := by nlinarith
  obtain ⟨x, rfl⟩ := total_eq_float totals
  have timed : Timed config.steps (forceLoop || config.loop) placed (.float x) T :=
    ⟨checked, places, totals, measures, small⟩
  rw [outcome_compile checked places totals]
  dsimp only
  rcases scenesAfter_cases ⟨.float x, forceLoop || config.loop⟩ none
    (fun k p at_k layout laid => exists_sceneOf timed short at_k laid) with
    ⟨scenes, compiled⟩ | ⟨p, mem, e, failed, error⟩
  · rw [compiled]
    refine ⟨fun _ same => ?_, Or.inl ⟨_, rfl⟩⟩
    cases same
  · rw [error]
    refine ⟨fun _ same => ?_, Or.inr ⟨p, mem, e, failed, rfl⟩⟩
    cases same

/-- A step that is typed at once and a step that asks to start during it, in an
animation that starts over. -/
def typedAtOnce : Config where
  steps := [{ command := "ls -la", timing := { perChar := 0, hold := 1 } },
    { lines := ["bye"], command := "ls", timing := { perChar := 0 } }]
  loop := true

theorem compile_never_crowded_typedAtOnce : ∃ placed total T,
    checkSteps typedAtOnce.steps = .ok () ∧
      (Schedule.place typedAtOnce.steps).outcome = .ok placed ∧
      Schedule.totalDuration placed (false || typedAtOnce.loop) = .ok total ∧ total.Measures T ∧
      ((Schedule.longestCommand typedAtOnce.steps : ℚ) + 4) * T ≤ 300000 ∧
      ∀ crowding, (compile typedAtOnce).outcome ≠ .error (.crowding crowding) := by
  have passed : (checkSteps typedAtOnce.steps).isOk = true := by decide +kernel
  have scheduled : (match (Schedule.place typedAtOnce.steps).outcome with
      | .ok placed => match Schedule.totalDuration placed (false || typedAtOnce.loop) with
        | .ok total => total.le (.int 100)
        | .error _ => false
      | .error _ => false) = true := by
    decide +kernel
  have longest : Schedule.longestCommand typedAtOnce.steps = 6 := by decide +kernel
  obtain ⟨⟨⟩, checked⟩ := exists_of_isOk passed
  split at scheduled
  · rename_i placed places
    split at scheduled
    · rename_i total totals
      obtain ⟨T, T_le, timed⟩ := Timed.exists_of_le checked places totals scheduled (by norm_num)
      have short : ((Schedule.longestCommand typedAtOnce.steps : ℚ) + 4) * T ≤ 300000 := by
        rw [longest]
        push_cast at T_le ⊢
        linarith
      exact ⟨placed, total, T, checked, places, totals, timed.measures, short,
        (compile_never_crowded checked places totals timed.measures short).1⟩
    · cases scheduled
  · cases scheduled

end Timeline

end TerminalReel
