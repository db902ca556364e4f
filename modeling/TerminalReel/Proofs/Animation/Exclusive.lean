import TerminalReel.Proofs.Animation.Compile
import TerminalReel.Proofs.Animation.Opacity
import TerminalReel.Proofs.Schedule.Course
/-!
# TerminalReel.Proofs.Animation.Exclusive

**One scene at a time**: no two steps of an animation are ever seen together.

The schedule leaves three tenths of a second between the end of one step's fade
and the appearance of the next. The percentages are rounded, and keyframes may be
pushed by up to two cells, so that this is not enough in a cycle of any length. In
a cycle of a hundred thousand seconds it is three cells; rounding takes one of
them at most, and the two that remain are those by which keyframes are pushed.
-/

namespace TerminalReel

/-! ### From seconds to cells -/

/-- In a cycle that is not too long, what appears half a second after a step's end
is two cells behind what has disappeared after it. -/
theorem cellAt_add_two_le {T e : ℚ} (nonneg : 0 ≤ e) (short : T ≤ 10 ^ 5)
    (le : nearest (e + 1 / 2) ≤ T) :
    cellAt T (nearest (e + PlacedStep.fadeLength)) + 2 ≤ cellAt T (nearest (e + 1 / 2)) := by
  have fade_le := PlacedStep.fadeLength_le
  have fade_nonneg : 0 ≤ PlacedStep.fadeLength := nearest_nonneg _
  have half := abs_le.1 (abs_nearest_sub_le (show 0 ≤ e + 1 / 2 by linarith))
  have fifth := abs_le.1 (abs_nearest_sub_le (show (0 : ℚ) ≤ 1 / 5 by norm_num))
  have faded := abs_le.1 (abs_nearest_sub_le (add_nonneg nonneg fade_nonneg))
  have e_lt : e < T := Schedule.Timed.lt_of_nearest_le nonneg le (short.trans_lt (by norm_num))
  have pos : 0 < T := nonneg.trans_lt e_lt
  have faded_le : nearest (e + PlacedStep.fadeLength) ≤ T :=
    (nearest_mono (by linarith)).trans le
  have cell := abs_le.1 (abs_cellAt_sub_le pos (nearest_nonneg _) le)
  have cell' := abs_le.1 (abs_cellAt_sub_le pos (nearest_nonneg _) faded_le)
  generalize nearest (e + 1 / 2) = w at *
  rw [PlacedStep.fadeLength] at *
  generalize nearest (1 / 5) = l at *
  generalize nearest (e + l) = u at *
  -- Three tenths of a second are three cells, but for the binary roundings.
  have gap : 3 / 10 - 1 / 10 ^ 9 ≤ w - u := by
    norm_num at half fifth faded
    linarith
  have apart : 3 - 1 / 10 ^ 7 ≤ 10 ^ 6 * (w / T) - 10 ^ 6 * (u / T) := by
    calc 3 - 1 / 10 ^ 7 ≤ 10 ^ 6 * (w - u) / 10 ^ 5 := by linarith
      _ ≤ 10 ^ 6 * (w - u) / T := div_le_div_of_nonneg_left (by linarith) pos short
      _ = 10 ^ 6 * (w / T) - 10 ^ 6 * (u / T) := by ring
  have more : (cellAt T u : ℚ) + 1 < cellAt T w := by
    norm_num at cell cell' apart
    linarith
  exact_mod_cast more

/-- A group of the scene is seen at `x`. -/
def Scene.SeenAt (scene : Scene) (x : ℝ) : Prop :=
  ∃ group ∈ scene.groups, 0 < group.track.opacityAt x

namespace Timeline

open Schedule (stepBefore Timed)

/-- In a cycle whose length measures something, a time falls on its own cell. -/
theorem FallsOn.eq_cellAt {total : Binary64} {time : Except ArithmeticError Number} {cell : ℕ}
    {t T : ℚ} (h : FallsOn (.float total) time cell) (ht : Yields time t)
    (hT : (Number.float total).Measures T) (pos : 0 < T) (le : t ≤ T) (small : T ≤ 2 ^ 53) :
    cell = cellAt T t := by
  obtain ⟨inside, n, ok, percent⟩ := h
  obtain ⟨m, ok', hm⟩ := ht
  obtain rfl : n = m := Except.ok.inj (ok.symm.trans ok')
  rw [toPercent_of_measures hm hT pos le small] at percent
  have wide := Nat.le_succ lastCell
  exact ((gridPercent_inj ((cellAt_le T t).trans wide) (inside.trans wide)).1
    (Except.ok.inj percent)).symm

variable {cycle : Cycle} {part : Part} {appearAt : Number} {group : AnimatedPart}

theorem hiddenUntil_of_animateFading {fadeOutAt : Option Number}
    (h : animateFading cycle part appearAt fadeOutAt = .ok group) :
    ∃ a, FallsOn cycle.total (.ok appearAt) a ∧ group.track.HiddenUntil a := by
  cases fadeOutAt with
  | none =>
      obtain ⟨a, _, marks, on_a, -, frames, -, emerges⟩ := marks_of_animateFading_none h
      refine ⟨a, on_a, on_a.1, ⟨0, Opacity.hidden⟩ :: marks, [], emerges, ?_⟩
      rw [frames, List.append_nil]
  | some fadeAt =>
      obtain ⟨a, _, _, _, marks, on_a, -, -, -, frames, -, seen, rest, eq, emerges, -⟩ :=
        marks_of_animateFading_some h
      rw [eq] at frames
      exact ⟨a, on_a, on_a.1, seen, _, emerges, frames⟩

/-- A group is gone two cells after its last event at the latest. -/
theorem hiddenFrom_of_animateFading {fadeAt : Number}
    (h : animateFading cycle part appearAt (some fadeAt) = .ok group) :
    ∃ a b c d, FallsOn cycle.total (.ok appearAt) a ∧
      FallsOn cycle.total (appearAt.add Schedule.fadeDuration) b ∧
      FallsOn cycle.total (.ok fadeAt) c ∧
      FallsOn cycle.total (fadeAt.add Schedule.fadeDuration) d ∧
      group.track.HiddenFrom (Track.goneCell a b c d) := by
  obtain ⟨a, b, c, d, marks, on_a, on_b, on_c, on_d, frames, run, passes⟩ :=
    marks_of_animateFading_some h
  exact ⟨a, b, c, d, on_a, on_b, on_c, on_d, a, _, marks, passes, run, frames⟩

/-- The events of a group that has appeared before it fades fall no later than the
last of them, which is a fade after the beginning of the fade. -/
theorem cells_le_faded {total : Binary64} {appearAt fadeAt : Number} {t f T : ℚ} {a b c d : ℕ}
    (hT : (Number.float total).Measures T) (small : T < 2 ^ 52) (half_le : nearest (f + 1 / 2) ≤ T)
    (appears : Yields (.ok appearAt) t) (fade : Yields (.ok fadeAt) f) (t_le : t ≤ f)
    (on_a : FallsOn (.float total) (.ok appearAt) a)
    (on_b : FallsOn (.float total) (appearAt.add Schedule.fadeDuration) b)
    (on_c : FallsOn (.float total) (.ok fadeAt) c)
    (on_d : FallsOn (.float total) (fadeAt.add Schedule.fadeDuration) d) :
    d = cellAt T (nearest (f + PlacedStep.fadeLength)) ∧ a ≤ d ∧ b ≤ d ∧ c ≤ d := by
  have f_lt := Timed.lt_of_nearest_le fade.nonneg half_le small
  have pos : 0 < T := fade.nonneg.trans_lt f_lt
  have wide : T ≤ 2 ^ 53 := small.le.trans (by norm_num)
  have length_nonneg : 0 ≤ PlacedStep.fadeLength := nearest_nonneg _
  have length_le := PlacedStep.fadeLength_le
  have appeared : Yields (appearAt.add Schedule.fadeDuration)
      (nearest (t + PlacedStep.fadeLength)) :=
    PlacedStep.fadeDuration_after appears (by linarith)
  have faded : Yields (fadeAt.add Schedule.fadeDuration) (nearest (f + PlacedStep.fadeLength)) :=
    PlacedStep.fadeDuration_after fade (by linarith)
  have f_le : f ≤ nearest (f + PlacedStep.fadeLength) := by
    obtain ⟨n, -, hn⟩ := fade
    calc f = nearest f := (hn.nearest_eq (by linarith)).symm
      _ ≤ nearest (f + PlacedStep.fadeLength) := nearest_mono (by linarith)
  have appeared_le : nearest (t + PlacedStep.fadeLength) ≤ nearest (f + PlacedStep.fadeLength) :=
    nearest_mono (by linarith)
  have faded_le : nearest (f + PlacedStep.fadeLength) ≤ T :=
    (nearest_mono (by linarith)).trans half_le
  rw [on_a.eq_cellAt appears hT pos (by linarith) wide,
    on_b.eq_cellAt appeared hT pos (by linarith) wide,
    on_c.eq_cellAt fade hT pos (by linarith) wide, on_d.eq_cellAt faded hT pos faded_le wide]
  exact ⟨rfl, cellAt_mono pos (t_le.trans f_le), cellAt_mono pos appeared_le, cellAt_mono pos f_le⟩

/-! ### One scene after another -/

variable {steps : List Step} {loop : Bool} {placed : List PlacedStep} {total : Number} {T : ℚ}
  {charWidth : Number} {scene : Scene} {k : ℕ} {p : PlacedStep} {s e f : ℚ} {r : ℕ → ℚ}

/-- A group appears no earlier than half a second after the end of every step
before its own. -/
theorem exists_hiddenUntil (h : Timed steps loop placed total T) (at_k : placed[k]? = some p)
    (compiled : sceneOf ⟨total, loop⟩ charWidth (stepBefore none placed k) p = .ok scene)
    (mem : group ∈ scene.groups) : ∃ appear, group.track.HiddenUntil appear ∧
      ∀ j < k, ∀ q, placed[j]? = some q → ∀ s r e f, q.Course loop s r e f →
        cellAt T (nearest (e + 1 / 2)) ≤ appear := by
  obtain ⟨s, r, e, f, course, half_le⟩ := h.exists_course (List.mem_of_getElem? at_k)
  obtain ⟨t, t_le, appears, earlier⟩ := h.exists_appear at_k course
  rw [(sceneOf_eq_ok compiled).2.1] at appears
  obtain ⟨appear, on_appear, hidden⟩ :=
    hiddenUntil_of_animateFading (animateFading_of_mem_groups compiled mem)
  have f_lt := h.fade_lt course half_le
  have t_le_T : t ≤ T := by linarith [course.started_le_ended, course.ended_le]
  have pos : 0 < T := course.fadeOutAt.nonneg.trans_lt f_lt
  have hT := h.measures
  obtain ⟨x, rfl⟩ := total_eq_float h.totals
  have cell := on_appear.eq_cellAt appears hT pos t_le_T (by linarith [h.small])
  refine ⟨appear, hidden, fun j less q at_j s r e f before => ?_⟩
  rw [cell]
  exact cellAt_mono pos (earlier j less q at_j s r e f before)

/-- A group that disappears is gone by half a second after the end of its step. -/
theorem exists_hiddenFrom (h : Timed steps loop placed total T) (short : T ≤ 10 ^ 5)
    (at_k : placed[k]? = some p) (course : p.Course loop s r e f)
    (half_le : nearest (f + 1 / 2) ≤ T) (notLast : p.isLast = false)
    (compiled : sceneOf ⟨total, loop⟩ charWidth (stepBefore none placed k) p = .ok scene)
    (mem : group ∈ scene.groups) : ∃ gone, group.track.HiddenFrom gone ∧
      gone ≤ cellAt T (nearest (e + 1 / 2)) := by
  obtain ⟨t, t_le, appears, -⟩ := h.exists_appear at_k course
  obtain ⟨-, appear_ok, fades, -⟩ := sceneOf_eq_ok compiled
  rw [appear_ok] at appears
  -- Only the last step of an animation stays.
  replace fades := fadeOutOf_eq_ok fades
  rw [stays, notLast, Bool.false_and, if_neg Bool.false_ne_true] at fades
  obtain ⟨fadeAt, fade_ok, some_fade⟩ := fades
  have fading := animateFading_of_mem_groups compiled mem
  rw [some_fade] at fading
  obtain ⟨a, b, c, d, on_a, on_b, on_c, on_d, hidden⟩ := hiddenFrom_of_animateFading fading
  have fade_eq : f = e := course.fade_eq notLast
  subst fade_eq
  have fade := course.fadeOutAt
  rw [fade_ok] at fade
  have hT := h.measures
  obtain ⟨x, rfl⟩ := total_eq_float h.totals
  obtain ⟨faded_eq, a_le, b_le, c_le⟩ := cells_le_faded hT h.small half_le appears fade
    (t_le.trans course.started_le_ended) on_a on_b on_c on_d
  have apart := cellAt_add_two_le fade.nonneg short half_le
  rw [← faded_eq] at apart
  refine ⟨_, hidden, ?_⟩
  rw [Track.goneCell]
  omega

/-- No group of a scene is seen any more when a group of a later scene appears. -/
theorem exists_hiddenFrom_le_hiddenUntil (h : Timed steps loop placed total T)
    (short : T ≤ 10 ^ 5) {j : ℕ} (less : j < k) {scene' : Scene} {group' : AnimatedPart}
    {scenes : List Scene} (compiled : scenesAfter ⟨total, loop⟩ charWidth none placed = .ok scenes)
    (at_j : scenes[j]? = some scene) (at_k : scenes[k]? = some scene')
    (mem : group ∈ scene.groups) (mem' : group' ∈ scene'.groups) :
    ∃ gone appear, group.track.HiddenFrom gone ∧ group'.track.HiddenUntil appear ∧
      gone ≤ appear := by
  obtain ⟨length, each⟩ := scenesAfter_eq_ok compiled
  obtain ⟨p, at_p, scene_ok⟩ := each j scene at_j
  obtain ⟨q, at_q, scene_ok'⟩ := each k scene' at_k
  have within := (List.getElem?_eq_some_iff.1 at_q).1
  have notLast : p.isLast = false := by
    rw [h.isLast_eq at_p]
    exact decide_eq_false (by omega)
  obtain ⟨s, r, e, f, course, half_le⟩ := h.exists_course (List.mem_of_getElem? at_p)
  have fade_eq := course.fade_eq notLast
  obtain ⟨gone, hidden, gone_le⟩ :=
    exists_hiddenFrom h short at_p course half_le notLast scene_ok mem
  obtain ⟨appear, hidden', later⟩ := exists_hiddenUntil h at_q scene_ok' mem'
  exact ⟨gone, appear, hidden, hidden', gone_le.trans (later j less p at_p s r e f course)⟩

/-- Where a scene is seen, no later one is. -/
theorem not_seenAt_of_seenAt (h : Timed steps loop placed total T) (short : T ≤ 10 ^ 5) {j : ℕ}
    (less : j < k) {scene' : Scene} {scenes : List Scene}
    (compiled : scenesAfter ⟨total, loop⟩ charWidth none placed = .ok scenes)
    (at_j : scenes[j]? = some scene) (at_k : scenes[k]? = some scene') {x : ℝ}
    (seen : scene.SeenAt x) : ¬ scene'.SeenAt x := by
  rintro ⟨group', mem', positive'⟩
  obtain ⟨group, mem, positive⟩ := seen
  obtain ⟨gone, appear, hidden, hidden', le⟩ :=
    exists_hiddenFrom_le_hiddenUntil h short less compiled at_j at_k mem mem'
  have before : x < gridValue gone := by
    by_contra! ge
    exact positive.ne' (hidden.opacityAt_eq_zero ge)
  have values : (gridValue gone : ℝ) ≤ gridValue appear := by exact_mod_cast gridValue_mono le
  exact positive'.ne' (hidden'.opacityAt_eq_zero (before.le.trans values))

/-- In an animation of a hundred thousand seconds at most, no two scenes are seen
at once, and the groups of each scene are gone where those of the next appear. -/
theorem compile_scenes_exclusive {config : Config} {forceLoop : Bool} {timeline : Timeline}
    (h : (compile config forceLoop).outcome = .ok timeline)
    (short : timeline.total.le (.int 100000) = true) :
    (∀ (x : ℝ) (j k : ℕ) (scene scene' : Scene), timeline.scenes[j]? = some scene →
      timeline.scenes[k]? = some scene' → scene.SeenAt x → scene'.SeenAt x → j = k) ∧
    ∀ (k : ℕ) (scene scene' : Scene), timeline.scenes[k]? = some scene →
      timeline.scenes[k + 1]? = some scene' → ∀ group ∈ scene.groups, ∀ group' ∈ scene'.groups,
      ∃ gone appear, group.track.firstGone? = some gone ∧
        group'.track.lastHidden? = some appear ∧ gone.percent.le appear.percent = true := by
  obtain ⟨placed, -, checked, places, totals, compiled⟩ := compile_eq_ok h
  obtain ⟨T, T_le, timed⟩ :=
    Schedule.Timed.exists_of_le checked places totals short (by norm_num)
  have T_short : T ≤ 10 ^ 5 := T_le.trans (by norm_num)
  constructor
  · intro x j k scene scene' at_j at_k seen seen'
    rcases Nat.lt_trichotomy j k with less | same | more
    · exact absurd seen' (not_seenAt_of_seenAt timed T_short less compiled at_j at_k seen)
    · exact same
    · exact absurd seen (not_seenAt_of_seenAt timed T_short more compiled at_k at_j seen')
  · intro k scene scene' at_k at_next group mem group' mem'
    obtain ⟨gone, appear, hidden, hidden', le⟩ := exists_hiddenFrom_le_hiddenUntil timed T_short
      (Nat.lt_succ_self k) compiled at_k at_next mem mem'
    have appear_le := hidden'.1.trans (Nat.le_succ lastCell)
    exact ⟨_, _, hidden.firstGone?_eq, hidden'.lastHidden?_eq,
      (gridPercent_le (le.trans appear_le) appear_le).2 le⟩

theorem compile_scenes_exclusive_twoSteps : ∃ timeline first last,
    (compile twoSteps).outcome = .ok timeline ∧ timeline.scenes = [first, last] ∧
      ∀ x : ℝ, ¬ (first.SeenAt x ∧ last.SeenAt x) := by
  obtain ⟨timeline, first, last, ok, scenes, -, short⟩ := twoSteps_compiles
  have at_first : timeline.scenes[0]? = some first := by rw [scenes]; rfl
  have at_last : timeline.scenes[1]? = some last := by rw [scenes]; rfl
  refine ⟨timeline, first, last, ok, scenes, fun x => ?_⟩
  rintro ⟨seen, seen'⟩
  have same := (compile_scenes_exclusive ok short).1 x 0 1 first last at_first at_last seen seen'
  exact absurd same (by decide)

end Timeline

end TerminalReel
