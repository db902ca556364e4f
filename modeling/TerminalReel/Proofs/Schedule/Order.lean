import TerminalReel.Proofs.Schedule.Course
/-!
# TerminalReel.Proofs.Schedule.Order

The **order of a schedule**, as the numbers that the program computes compare.

Every step runs from its appearance over its start, its reveals and its end to
its fade, and the fade comes before the end of the cycle. Between two steps lies
the time that the first takes to disappear. The comparisons are those of the
program, on whole numbers and binary64 numbers mixed; that each of them holds is
read off the courses of the steps.
-/

namespace TerminalReel

/-- Both computations answer, the first with no more than the second. -/
def AtMost (x y : Except ArithmeticError Number) : Prop :=
  ∃ a b, x = .ok a ∧ y = .ok b ∧ a.le b = true

/-- Both computations answer, the first with less than the second. -/
def Below (x y : Except ArithmeticError Number) : Prop :=
  ∃ a b, x = .ok a ∧ y = .ok b ∧ a.lt b = true

theorem Yields.atMost {x y : Except ArithmeticError Number} {v w : ℚ} (hx : Yields x v)
    (hy : Yields y w) (le : v ≤ w) : AtMost x y := by
  obtain ⟨a, ea, ha⟩ := hx
  obtain ⟨b, eb, hb⟩ := hy
  exact ⟨a, b, ea, eb, (ha.le_iff hb).2 le⟩

theorem Yields.below {x y : Except ArithmeticError Number} {v w : ℚ} (hx : Yields x v)
    (hy : Yields y w) (less : v < w) : Below x y := by
  obtain ⟨a, ea, ha⟩ := hx
  obtain ⟨b, eb, hb⟩ := hy
  exact ⟨a, b, ea, eb, (ha.lt_iff hb).2 less⟩

namespace Schedule

/-- The times of a step that comes after `previous` pass in order, and the step
begins to disappear before the cycle ends. -/
structure InOrder (loop : Bool) (total : Number) (previous : Option PlacedStep) (p : PlacedStep) :
    Prop where
  requested_le_start : AtMost (.ok p.requestedStart) (.ok p.start)
  appear_le_start : AtMost (Timeline.appearAfter previous) (.ok p.start)
  start_le_reveal : ∀ i < p.step.command.length, AtMost (.ok p.start) (p.revealAt i)
  reveal_le_reveal : ∀ i j, i ≤ j → j < p.step.command.length →
    AtMost (p.revealAt i) (p.revealAt j)
  reveal_le_typingEnd : ∀ i < p.step.command.length, AtMost (p.revealAt i) p.typingEnd
  start_le_typingEnd : AtMost (.ok p.start) p.typingEnd
  typingEnd_le_finish : AtMost p.typingEnd p.finish
  finish_le_fadeOut : AtMost p.finish (p.fadeOutAt loop)
  fadeOut_lt_total : Below (p.fadeOutAt loop) (.ok total)

/-- A step has disappeared when the next one appears, and the next one starts and
ends no earlier. -/
structure MakesWay (p q : PlacedStep) : Prop where
  faded_le_appear : AtMost (do (← p.finish).add fadeDuration) (Timeline.appearAfter (some p))
  appear_eq : Timeline.appearAfter (some p) = do (← p.finish).add stepTransition
  appear_le_start : AtMost (Timeline.appearAfter (some p)) (.ok q.start)
  start_le_start : AtMost (.ok p.start) (.ok q.start)
  finish_le_finish : AtMost p.finish q.finish

namespace Timed

variable {steps : List Step} {loop : Bool} {placed : List PlacedStep} {total : Number} {T : ℚ}
  {k : ℕ} {p q : PlacedStep} (h : Timed steps loop placed total T)

include h

/-- A step starts no earlier than it asks to, and the first one when it asks to. -/
theorem requested_le_start (at_k : placed[k]? = some p) :
    AtMost (.ok p.requestedStart) (.ok p.start) := by
  obtain ⟨s, r, e, f, course, -⟩ := h.exists_course (List.mem_of_getElem? at_k)
  cases k with
  | zero =>
      obtain ⟨step, -, follows⟩ := place_follows h.places at_k
      have start : p.start = p.requestedStart :=
        (startAfter_none follows.start).trans follows.requestedStart_eq.symm
      rw [← start]
      exact course.start.yields.atMost course.start.yields le_rfl
  | succ k =>
      have within := (List.getElem?_eq_some_iff.1 at_k).1
      have at_previous : placed[k]? = some placed[k] := List.getElem?_eq_getElem (by omega)
      obtain ⟨_, _, _, _, before, half_le⟩ := h.exists_course (List.mem_of_getElem? at_previous)
      obtain ⟨-, v, requested, s_eq⟩ := h.nextStart_eq at_previous at_k before half_le course
      exact requested.yields.atMost course.start.yields (s_eq ▸ le_max_left v _)

theorem inOrder (at_k : placed[k]? = some p) :
    InOrder loop total (stepBefore none placed k) p := by
  obtain ⟨s, r, e, f, course, half_le⟩ := h.exists_course (List.mem_of_getElem? at_k)
  obtain ⟨a, a_le, appear, -⟩ := h.exists_appear at_k course
  have start := course.start.yields
  -- Typing ends where a character after the last one would be typed.
  have typing : Yields p.typingEnd (r p.step.command.length) := course.revealAt _ le_rfl
  have start_le : ∀ i, s ≤ r i := fun i =>
    course.started_le.trans (course.reveal_mono (Nat.zero_le i))
  exact {
    requested_le_start := h.requested_le_start at_k
    appear_le_start := appear.atMost start a_le
    start_le_reveal := fun i less => start.atMost (course.revealAt i less.le) (start_le i)
    reveal_le_reveal := fun i j le less =>
      (course.revealAt i (le.trans less.le)).atMost (course.revealAt j less.le)
        (course.reveal_mono le)
    reveal_le_typingEnd := fun i less =>
      (course.revealAt i less.le).atMost typing (course.reveal_mono less.le)
    start_le_typingEnd := start.atMost typing (start_le _)
    typingEnd_le_finish := typing.atMost course.finish course.reveal_le
    finish_le_fadeOut := course.finish.atMost course.fadeOutAt course.ended_le
    fadeOut_lt_total :=
      course.fadeOutAt.below h.measures.yields (h.fade_lt course half_le) }

theorem makesWay (at_k : placed[k]? = some p) (at_next : placed[k + 1]? = some q) :
    MakesWay p q := by
  obtain ⟨s, r, e, f, course, half_le⟩ := h.exists_course (List.mem_of_getElem? at_k)
  obtain ⟨s', r', e', f', next, -⟩ := h.exists_course (List.mem_of_getElem? at_next)
  obtain ⟨appear, v, -, s_eq⟩ := h.nextStart_eq at_k at_next course half_le next
  have faded := PlacedStep.fadeDuration_after course.finish (h.ended_lt course half_le)
  have short := PlacedStep.fadeLength_le
  have s'_ge : nearest (e + 1 / 2) ≤ s' := s_eq ▸ le_max_right _ _
  have e_le : e ≤ nearest (e + 1 / 2) :=
    (lt_nearest_add_half course.finish.nonneg (h.ended_lt course half_le)).le
  have start' := next.start.yields
  exact {
    faded_le_appear := faded.atMost appear (nearest_mono (by linarith))
    appear_eq := rfl
    appear_le_start := appear.atMost start' s'_ge
    start_le_start := course.start.yields.atMost start'
      (course.started_le_ended.trans (e_le.trans s'_ge))
    finish_le_finish := course.finish.atMost next.finish
      (e_le.trans (s'_ge.trans next.started_le_ended)) }

end Timed

/-- The times of checked steps pass in order, from step to step and up to the end
of the cycle, which is what trails the fade of the last step. -/
theorem place_ordered {steps : List Step} {loop : Bool} {placed : List PlacedStep}
    {total : Number} (checked : checkSteps steps = .ok ())
    (places : (place steps).outcome = .ok placed)
    (totals : totalDuration placed loop = .ok total) (small : total.lt (.int (2 ^ 52)) = true) :
    placed.length = steps.length ∧
      (∀ k step, steps[k]? = some step → ∃ p, placed[k]? = some p ∧
        p.step = { step with timing := { step.timing with start := p.start } } ∧
        p.requestedStart = step.timing.start ∧ (k = 0 → p.start = step.timing.start) ∧
        InOrder loop total (stepBefore none placed k) p) ∧
      (∀ k p q, placed[k]? = some p → placed[k + 1]? = some q → MakesWay p q) ∧
      ∃ last, placed.getLast? = some last ∧
        (do (← last.fadeOutAt loop).add (trailing loop)) = .ok total := by
  obtain ⟨T, h⟩ := Timed.exists_of_lt checked places totals small le_rfl
  obtain ⟨length, follows⟩ := placeFrom_follows places
  refine ⟨length, fun k step at_k => ?_, fun k p q => h.makesWay, ?_⟩
  · obtain ⟨p, at_p, follows⟩ := follows k step at_k
    refine ⟨p, at_p, follows.step_eq, follows.requestedStart_eq, ?_, h.inOrder at_p⟩
    rintro rfl
    exact startAfter_none follows.start
  · have nonempty : placed ≠ [] := by
      rw [← List.length_pos_iff, length, List.length_pos_iff]
      exact ne_nil_of_checkSteps checked
    have positive := List.length_pos_iff.2 nonempty
    refine ⟨placed.getLast nonempty, List.getLast?_eq_some_getLast nonempty, ?_⟩
    apply h.total_eq (k := placed.length - 1)
    · rw [← List.getLast?_eq_getElem?, List.getLast?_eq_some_getLast nonempty]
    · omega

/-- Two steps, the second of which asks to start before the first has ended. -/
def overlapping : List Step :=
  [{ command := "ls", timing := { start := 1, perChar := 1, hold := 2 } },
    { timing := { start := 2, hold := .float (.ofFraction 5 2) } }]

/-- The two steps, the second one moved to half a second after the first. -/
def separated : List PlacedStep :=
  [⟨0, { command := "ls", timing := { start := 1, perChar := 1, hold := 2 } }, 1, false⟩,
    ⟨1, { timing := { start := .float (.ofFraction 11 2), hold := .float (.ofFraction 5 2) } }, 2,
      true⟩]

theorem place_ordered_overlapping : separated.length = overlapping.length ∧
    (∀ k step, overlapping[k]? = some step → ∃ p, separated[k]? = some p ∧
      p.step = { step with timing := { step.timing with start := p.start } } ∧
      p.requestedStart = step.timing.start ∧ (k = 0 → p.start = step.timing.start) ∧
      InOrder true (.float (.ofFraction 10 1)) (stepBefore none separated k) p) ∧
    (∀ k p q, separated[k]? = some p → separated[k + 1]? = some q → MakesWay p q) ∧
    ∃ last, separated.getLast? = some last ∧
      (do (← last.fadeOutAt true).add (trailing true)) = .ok (.float (.ofFraction 10 1)) := by
  have checked : checkSteps overlapping = .ok () := by
    obtain ⟨⟨⟩, ok⟩ := exists_of_isOk (x := checkSteps overlapping) (by decide +kernel)
    exact ok
  exact place_ordered checked (by decide +kernel) (by decide +kernel) (by decide +kernel)

end Schedule

end TerminalReel
