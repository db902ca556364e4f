import TerminalReel.Animation.Timeline
import TerminalReel.Proofs.Schedule.Placement
/-!
# TerminalReel.Proofs.Schedule.Course

The **course of a step** as rational numbers: when it appears, starts, reveals
its characters, ends and begins to disappear.

The times of a step are computed forward, one from the other, and each of these
computations could fail or end beyond the finite range. What is known of a
schedule is its total. So a course is found backward: a total that measures
something bounds every fade (`measures_of_lastFade`), a fade bounds the end of its
step, and the end bounds typing and start. Only then the computations that the
total does not need, the reveals and the earliest start of the next step, are
known to succeed.
-/

namespace TerminalReel

/-- The computation answers with a number that measures `v`. -/
def Yields (x : Except ArithmeticError Number) (v : ℚ) : Prop := ∃ n, x = .ok n ∧ n.Measures v

theorem Yields.unique {x : Except ArithmeticError Number} {v w : ℚ} (hv : Yields x v)
    (hw : Yields x w) : v = w := by
  obtain ⟨m, em, hm⟩ := hv
  obtain ⟨n, en, hn⟩ := hw
  obtain rfl : m = n := Except.ok.inj (em.symm.trans en)
  exact hm.unique hn

theorem Yields.nonneg {x : Except ArithmeticError Number} {v : ℚ} (h : Yields x v) : 0 ≤ v := by
  obtain ⟨_, _, hn⟩ := h
  exact hn.nonneg

theorem Number.Measures.yields {n : Number} {v : ℚ} (h : n.Measures v) : Yields (.ok n) v :=
  ⟨n, rfl, h⟩

namespace PlacedStep

/-- What the times of a step measure, in the order in which they pass. -/
structure Course (loop : Bool) (p : PlacedStep) (started : ℚ) (reveal : ℕ → ℚ) (ended fade : ℚ) :
    Prop where
  start : p.start.Measures started
  revealAt : ∀ i ≤ p.step.command.length, Yields (p.revealAt i) (reveal i)
  finish : Yields p.finish ended
  fadeOutAt : Yields (p.fadeOutAt loop) fade
  started_le : started ≤ reveal 0
  reveal_mono : Monotone reveal
  reveal_le : reveal p.step.command.length ≤ ended
  ended_le : ended ≤ fade
  fade_eq : p.isLast = false → fade = ended

variable {p : PlacedStep} {loop : Bool} {n : Number} {v w : ℚ}

theorem Course.started_le_ended {s e f : ℚ} {r : ℕ → ℚ} (h : p.Course loop s r e f) : s ≤ e :=
  (h.started_le.trans (h.reveal_mono (Nat.zero_le _))).trans h.reveal_le

/-! ### From the fade back to the start -/

theorem IsMeasured.finish_of_fadeOutAt (sound : p.IsMeasured) (fade : Yields (p.fadeOutAt loop) v)
    (small : v < 2 ^ 53) : ∃ w ≤ v, Yields p.finish w ∧ (p.isLast = false → v = w) := by
  obtain ⟨n, ok, hn⟩ := fade
  obtain ⟨m, finish, rest⟩ := bind_eq_ok.1 ok
  cases longer : p.isLast && loop with
  | false =>
      rw [longer, if_neg Bool.false_ne_true, pure_eq_ok] at rest
      exact ⟨v, le_rfl, ⟨m, finish, rest ▸ hn⟩, fun _ => rfl⟩
  | true =>
      rw [longer, if_pos rfl] at rest
      obtain ⟨w, _, hm, -, le, -, -⟩ := Number.measures_of_add (sound.finish finish)
        (.of_measures Schedule.measures_lastStepExtra) rest hn small
      refine ⟨w, le, ⟨m, finish, hm⟩, fun isLast => ?_⟩
      rw [isLast] at longer
      cases longer

theorem IsMeasured.typingEnd_of_finish (sound : p.IsMeasured) (finish : Yields p.finish v)
    (small : v < 2 ^ 53) : ∃ w ≤ v, Yields p.typingEnd w := by
  obtain ⟨n, ok, hn⟩ := finish
  obtain ⟨m, typing, sum⟩ := bind_eq_ok.1 ok
  obtain ⟨_, hold⟩ := sound.hold
  obtain ⟨w, _, hm, -, le, -, -⟩ :=
    Number.measures_of_add (sound.typingEnd typing) (.of_measures hold) sum hn small
  exact ⟨w, le, m, typing, hm⟩

/-- The reveals run from the start to the end of typing. -/
theorem IsMeasured.reveals_of_typingEnd (sound : p.IsMeasured) (typing : Yields p.typingEnd v)
    (small : v < 2 ^ 53) : ∃ s reveal, p.start.Measures s ∧ s ≤ reveal 0 ∧ Monotone reveal ∧
      reveal p.step.command.length = v ∧
      ∀ i ≤ p.step.command.length, Yields (p.revealAt i) (reveal i) := by
  obtain ⟨n, ok, hn⟩ := typing
  obtain ⟨d, duration, sum⟩ := bind_eq_ok.1 ok
  obtain ⟨c, perChar⟩ := sound.perChar
  obtain ⟨s, t, start, hd, s_le, t_le, total⟩ :=
    Number.measures_of_add sound.start (sound.typingDuration duration) sum hn small
  have typed : t = Number.multiple p.step.command.length c :=
    Number.measures_of_count_mul perChar duration hd (t_le.trans_lt small)
  have s_eq : nearest s = s := start.nearest_eq (s_le.trans small.le)
  refine ⟨s, fun i => nearest (s + Number.multiple i c), start, ?_, ?_, ?_, fun i le => ?_⟩
  · calc s = nearest s := s_eq.symm
      _ ≤ nearest (s + Number.multiple 0 c) :=
        nearest_mono (le_add_of_nonneg_right (Number.multiple_nonneg 0 c))
  · intro i j le
    exact nearest_mono (add_le_add_right (Number.multiple_mono perChar.nonneg le) s)
  · rw [total, typed]
  · obtain ⟨e, offset, he⟩ := Number.exists_count_mul le perChar duration hd (t_le.trans_lt small)
    have less : Number.multiple i c ≤ t := typed ▸ Number.multiple_mono perChar.nonneg le
    have whole : s + t < 2 ^ 53 := lt_of_nearest_lt (total ▸ small)
    obtain ⟨r, reveal, hr⟩ := Number.exists_add start he (by linarith)
    exact ⟨r, bind_eq_ok.2 ⟨e, offset, reveal⟩, hr⟩

/-! ### On to the next step -/

/-- What a fade lasts, in seconds. -/
def fadeLength : ℚ := nearest (1 / 5)

theorem measures_fadeDuration : Schedule.fadeDuration.Measures fadeLength := by
  have h := Number.measures_ofFraction 1 (show 0 < 5 by decide) (by norm_num)
  rw [Nat.cast_one, Nat.cast_ofNat] at h
  exact h

theorem fadeLength_le : fadeLength ≤ 1 / 2 := by
  have kept := nearest_dyadic (show 1 ≤ 2 ^ 53 by norm_num) (show 1 ≤ quantumExponent by decide)
  norm_num at kept
  calc fadeLength ≤ nearest (1 / 2) := nearest_mono (by norm_num)
    _ = 1 / 2 := kept

/-- What appears or disappears in good time has done so after a fade. -/
theorem fadeDuration_after {x : Except ArithmeticError Number} (hx : Yields x v)
    (small : v < 2 ^ 52) :
    Yields (do (← x).add Schedule.fadeDuration) (nearest (v + fadeLength)) := by
  obtain ⟨n, ok, hn⟩ := hx
  have short := fadeLength_le
  obtain ⟨m, sum, hm⟩ := Number.exists_add hn measures_fadeDuration (by linarith)
  exact ⟨m, bind_eq_ok.2 ⟨n, ok, sum⟩, hm⟩

/-- A step that ends in good time lets the next one start half a second later. -/
theorem nextStart_of_finish (finish : Yields p.finish v) (small : v < 2 ^ 52) :
    Yields p.nextStart (nearest (v + 1 / 2)) := by
  obtain ⟨n, ok, hn⟩ := finish
  obtain ⟨m, sum, hm⟩ := Number.exists_add hn Schedule.measures_stepTransition (by linarith)
  exact ⟨m, bind_eq_ok.2 ⟨n, ok, sum⟩, hm⟩

end PlacedStep

namespace Schedule

/-! ### From the total back to every fade -/

/-- The greater of two numbers measures the greater value. -/
theorem measures_of_max {a b : Number} {v : ℚ} (ha : a.Nonneg) (hb : b.Nonneg)
    (h : (a.max b).Measures v) : ∃ x y, a.Measures x ∧ b.Measures y ∧ v = max x y := by
  rw [Number.max] at h
  rcases ha with ⟨x, hx⟩ | rfl
  · rcases hb with ⟨y, hy⟩ | rfl
    · refine ⟨x, y, hx, hy, ?_⟩
      by_cases less : x < y
      · rw [if_pos ((hx.lt_iff hy).2 less)] at h
        rw [max_eq_right less.le]
        exact h.unique hy
      · rw [if_neg ((hx.lt_iff hy).not.2 less)] at h
        rw [max_eq_left (not_lt.1 less)]
        exact h.unique hx
    · rw [if_pos hx.lt_endless] at h
      exact absurd h Number.not_measures_endless
  · rcases hb with ⟨y, hy⟩ | rfl
    · rw [hy.not_endless_lt, if_neg Bool.false_ne_true] at h
      exact absurd h Number.not_measures_endless
    · rw [ite_self] at h
      exact absurd h Number.not_measures_endless

theorem nonneg_max {a b : Number} (ha : a.Nonneg) (hb : b.Nonneg) : (a.max b).Nonneg := by
  rcases Number.max_eq_or a b with e | e
  · rwa [e]
  · rwa [e]

theorem nonneg_of_lastFade {loop : Bool} {placed : List PlacedStep} {reached n : Number}
    (start : reached.Nonneg) (sound : ∀ p ∈ placed, p.IsMeasured)
    (ok : lastFade loop reached placed = .ok n) : n.Nonneg := by
  induction placed generalizing reached with
  | nil => exact Except.ok.inj ok ▸ start
  | cons p rest ih =>
      obtain ⟨fade, fades, ok⟩ := bind_eq_ok.1 ok
      have fade_nonneg := (sound p List.mem_cons_self).fadeOutAt fades
      exact ih (nonneg_max start fade_nonneg) (fun q hq => sound q (List.mem_cons_of_mem p hq)) ok

/-- The last fade lies before none of the fades, and is one of them unless it
was reached before. -/
theorem measures_of_lastFade {loop : Bool} {placed : List PlacedStep} {reached n : Number} {v : ℚ}
    (start : reached.Nonneg) (sound : ∀ p ∈ placed, p.IsMeasured)
    (ok : lastFade loop reached placed = .ok n) (hn : n.Measures v) :
    (∃ x ≤ v, reached.Measures x) ∧ (∀ p ∈ placed, ∃ f ≤ v, Yields (p.fadeOutAt loop) f) ∧
      (reached.Measures v ∨ ∃ p ∈ placed, Yields (p.fadeOutAt loop) v) := by
  -- What is reached before the steps may be the last fade itself, so it is followed too.
  induction placed generalizing reached with
  | nil =>
      obtain rfl : reached = n := Except.ok.inj ok
      exact ⟨⟨v, le_rfl, hn⟩, by simp, Or.inl hn⟩
  | cons p rest ih =>
      rw [lastFade, bind_eq_ok] at ok
      obtain ⟨fade, fades, ok⟩ := ok
      have fade_nonneg := (sound p List.mem_cons_self).fadeOutAt fades
      obtain ⟨⟨m, m_le, hm⟩, others, attained⟩ := ih (nonneg_max start fade_nonneg)
        (fun q hq => sound q (List.mem_cons_of_mem p hq)) ok
      obtain ⟨x, y, hx, hy, rfl⟩ := measures_of_max start fade_nonneg hm
      have here : ∃ f ≤ v, Yields (p.fadeOutAt loop) f :=
        ⟨y, (le_max_right x y).trans m_le, fade, fades, hy⟩
      refine ⟨⟨x, (le_max_left x y).trans m_le, hx⟩, List.forall_mem_cons.2 ⟨here, others⟩, ?_⟩
      rcases attained with reached_v | ⟨q, hq, fade_q⟩
      · obtain rfl : max x y = v := hm.unique reached_v
        rcases max_choice x y with e | e
        · rw [e]
          exact Or.inl hx
        · rw [e]
          exact Or.inr ⟨p, List.mem_cons_self, fade, fades, hy⟩
      · exact Or.inr ⟨q, List.mem_cons_of_mem p hq, fade_q⟩

theorem measures_zero : (Number.float .zero).Measures 0 := by
  refine Number.measures_float_iff.2 ⟨false, .zero, rfl, ?_, fun _ => rfl⟩
  rw [Magnitude.quanta_zero, Nat.cast_zero, zero_div]

/-- Fades that measure the same leave the same total. -/
theorem add_trailing_eq (loop : Bool) {a b : Number} {v : ℚ} (ha : a.Measures v)
    (hb : b.Measures v) (small : v ≤ 2 ^ 53) : a.add (trailing loop) = b.add (trailing loop) := by
  cases loop with
  | false => exact Number.add_eq_add ha hb small measures_half (by norm_num)
  | true => exact Number.add_eq_add ha hb small measures_one (by norm_num)

/-! ### Schedules of finite length -/

/-- Checked steps, as they are placed, with a total small enough for binary64
numbers to hold half a second. -/
structure Timed (steps : List Step) (loop : Bool) (placed : List PlacedStep) (total : Number)
    (T : ℚ) : Prop where
  checked : checkSteps steps = .ok ()
  places : (place steps).outcome = .ok placed
  totals : totalDuration placed loop = .ok total
  measures : total.Measures T
  small : T < 2 ^ 52

namespace Timed

variable {steps : List Step} {loop : Bool} {placed : List PlacedStep} {total : Number} {T : ℚ}
  {k : ℕ} {p : PlacedStep}

theorem isMeasured_of_mem (checked : checkSteps steps = .ok ())
    (ok : (place steps).outcome = .ok placed) : ∀ p ∈ placed, p.IsMeasured := by
  intro p hp
  obtain ⟨k, at_k⟩ := List.getElem?_of_mem hp
  exact isMeasured_of_place checked ok at_k

theorem nonneg_total (checked : checkSteps steps = .ok ())
    (ok : (place steps).outcome = .ok placed) (cycle : totalDuration placed loop = .ok total) :
    total.Nonneg := by
  obtain ⟨n, last, sum⟩ := bind_eq_ok.1 cycle
  obtain ⟨trail, trailing, -, -⟩ := measures_trailing loop
  have n_nonneg :=
    nonneg_of_lastFade (.of_measures measures_zero) (isMeasured_of_mem checked ok) last
  exact n_nonneg.add (.of_measures trailing) sum

/-- A total below a whole number measures something. -/
theorem exists_of_lt {bound : ℕ} (checked : checkSteps steps = .ok ())
    (ok : (place steps).outcome = .ok placed) (cycle : totalDuration placed loop = .ok total)
    (less : total.lt (.int bound) = true) (small : bound ≤ 2 ^ 52) :
    ∃ T, Timed steps loop placed total T := by
  have hb := Number.measures_natCast bound
  rcases nonneg_total checked ok cycle with ⟨T, hT⟩ | rfl
  · refine ⟨T, checked, ok, cycle, hT, ((hT.lt_iff hb).1 less).trans_le ?_⟩
    exact_mod_cast small
  · rw [hb.not_endless_lt] at less
    cases less

/-- A total that is a whole number at most measures no more than that. -/
theorem exists_of_le {bound : ℕ} (checked : checkSteps steps = .ok ())
    (ok : (place steps).outcome = .ok placed) (cycle : totalDuration placed loop = .ok total)
    (le : total.le (.int bound) = true) (small : bound < 2 ^ 52) :
    ∃ T ≤ (bound : ℚ), Timed steps loop placed total T := by
  have hb := Number.measures_natCast bound
  rcases nonneg_total checked ok cycle with ⟨T, hT⟩ | rfl
  · have T_le : T ≤ bound := (hT.le_iff hb).1 le
    refine ⟨T, T_le, checked, ok, cycle, hT, T_le.trans_lt ?_⟩
    exact_mod_cast small
  · rw [hb.not_endless_le] at le
    cases le

variable (h : Timed steps loop placed total T)

include h

theorem isMeasured : ∀ p ∈ placed, p.IsMeasured := isMeasured_of_mem h.checked h.places

/-- The total leaves half a second at least after the last fade. -/
theorem exists_lastFade : ∃ n v, lastFade loop (.float .zero) placed = .ok n ∧ n.Measures v ∧
    n.add (trailing loop) = .ok total ∧ nearest (v + 1 / 2) ≤ T := by
  obtain ⟨n, last, sum⟩ := bind_eq_ok.1 h.totals
  obtain ⟨trail, trailing, half_le, -⟩ := measures_trailing loop
  have n_nonneg := nonneg_of_lastFade (.of_measures measures_zero) h.isMeasured last
  obtain ⟨v, w, hv, hw, -, -, rounded⟩ := Number.measures_of_add n_nonneg (.of_measures trailing)
    sum h.measures (h.small.trans (by norm_num))
  obtain rfl : w = trail := hw.unique trailing
  refine ⟨n, v, last, hv, sum, ?_⟩
  rw [rounded]
  exact nearest_mono (by linarith)

/-- The total leaves half a second at least after every fade. -/
theorem exists_fade (hp : p ∈ placed) :
    ∃ f, Yields (p.fadeOutAt loop) f ∧ nearest (f + 1 / 2) ≤ T := by
  obtain ⟨n, v, last, hn, -, half_le⟩ := h.exists_lastFade
  obtain ⟨-, fades, -⟩ :=
    measures_of_lastFade (.of_measures measures_zero) h.isMeasured last hn
  obtain ⟨f, le, fade⟩ := fades p hp
  exact ⟨f, fade, (nearest_mono (by linarith)).trans half_le⟩

omit h in
/-- What a time and half a second after it are rounded to lies after the time. -/
theorem lt_of_nearest_le {v : ℚ} (nonneg : 0 ≤ v) (le : nearest (v + 1 / 2) ≤ T)
    (small : T < 2 ^ 52) : v < T := by
  apply (lt_nearest_add_half nonneg ?_).trans_le le
  by_contra! large
  have kept := nearest_natCast (n := 2 ^ 52) (by norm_num)
  push_cast at kept
  have := nearest_mono (show (2 ^ 52 : ℚ) ≤ v + 1 / 2 by linarith)
  linarith

/-- Every step has a course, and the total comes half a second after its end. -/
theorem exists_course (hp : p ∈ placed) : ∃ s r e f,
    p.Course loop s r e f ∧ nearest (f + 1 / 2) ≤ T := by
  obtain ⟨f, fade, half_le⟩ := h.exists_fade hp
  have f_nonneg : 0 ≤ f := fade.nonneg
  have f_lt : f < 2 ^ 53 := by
    have := lt_of_nearest_le f_nonneg half_le h.small
    have := h.small
    linarith
  have sound := h.isMeasured p hp
  obtain ⟨e, e_le, finish, fade_eq⟩ := sound.finish_of_fadeOutAt fade f_lt
  obtain ⟨t, t_le, typing⟩ := sound.typingEnd_of_finish finish (by linarith)
  obtain ⟨s, r, start, s_le, mono, r_last, reveals⟩ :=
    sound.reveals_of_typingEnd typing (by linarith)
  exact ⟨s, r, e, f, ⟨start, reveals, finish, fade, s_le, mono, r_last ▸ t_le, e_le, fade_eq⟩,
    half_le⟩

/-! ### From step to step -/

variable {q : PlacedStep} {s s' e e' f f' : ℚ} {r r' : ℕ → ℚ}

theorem fade_lt (course : p.Course loop s r e f) (half_le : nearest (f + 1 / 2) ≤ T) : f < T :=
  lt_of_nearest_le course.fadeOutAt.nonneg half_le h.small

theorem ended_lt (course : p.Course loop s r e f) (half_le : nearest (f + 1 / 2) ≤ T) :
    e < 2 ^ 52 :=
  (course.ended_le.trans_lt (h.fade_lt course half_le)).trans h.small

/-- The next step starts when it asks to, but not before half a second has passed
since the end of the one before it. -/
theorem nextStart_eq (at_k : placed[k]? = some p) (at_next : placed[k + 1]? = some q)
    (course : p.Course loop s r e f) (half_le : nearest (f + 1 / 2) ≤ T)
    (next : q.Course loop s' r' e' f') : Yields p.nextStart (nearest (e + 1 / 2)) ∧
      ∃ v, q.requestedStart.Measures v ∧ s' = max v (nearest (e + 1 / 2)) := by
  have yields := p.nextStart_of_finish course.finish (h.ended_lt course half_le)
  refine ⟨yields, ?_⟩
  obtain ⟨step, at_step, follows⟩ := place_follows h.places at_next
  have timing := isMeasured_of_checkSteps h.checked step (List.mem_of_getElem? at_step)
  have start := follows.start
  rw [stepBefore, at_k] at start
  obtain ⟨earliest, ok, start⟩ := startAfter_some start
  obtain ⟨n, ok', measures⟩ := yields
  obtain rfl : earliest = n := Except.ok.inj (ok.symm.trans ok')
  have s_measures := next.start
  rw [start] at s_measures
  obtain ⟨v, w, requested, hw, rfl⟩ :=
    measures_of_max (Or.inl (timing .start)) (.of_measures measures) s_measures
  rw [hw.unique measures]
  exact ⟨v, follows.requestedStart_eq ▸ requested, rfl⟩

/-- A step appears no later than it starts, and half a second after the end of
any step before it. -/
theorem exists_appear (at_k : placed[k]? = some q) (course : q.Course loop s' r' e' f') :
    ∃ a ≤ s', Yields (Timeline.appearAfter (stepBefore none placed k)) a ∧
      ∀ j < k, ∀ p, placed[j]? = some p → ∀ s r e f, p.Course loop s r e f →
        nearest (e + 1 / 2) ≤ a := by
  induction k generalizing q s' r' e' f' with
  | zero =>
      refine ⟨0, course.start.nonneg, ⟨_, rfl, measures_zero⟩, fun j less => ?_⟩
      exact absurd less (Nat.not_lt_zero j)
  | succ k ih =>
      have within := (List.getElem?_eq_some_iff.1 at_k).1
      have at_p : placed[k]? = some placed[k] := List.getElem?_eq_getElem (by omega)
      obtain ⟨s, r, e, f, before, half_le⟩ := h.exists_course (List.mem_of_getElem? at_p)
      obtain ⟨yields, v, -, start⟩ := h.nextStart_eq at_p at_k before half_le course
      refine ⟨nearest (e + 1 / 2), start ▸ le_max_right _ _, ?_, fun j less p' at_j => ?_⟩
      · rwa [stepBefore, at_p]
      · intro s₀ r₀ e₀ f₀ course₀
        rcases Nat.lt_or_eq_of_le (Nat.le_of_lt_succ less) with earlier | rfl
        -- An earlier step ends before the one in between appears.
        · obtain ⟨a, a_le, -, all⟩ := ih at_p before
          obtain ⟨n, -, ended⟩ := before.finish
          calc nearest (e₀ + 1 / 2) ≤ a := all j earlier p' at_j s₀ r₀ e₀ f₀ course₀
            _ ≤ s := a_le
            _ ≤ e := before.started_le_ended
            _ = nearest e := (ended.nearest_eq (by linarith [h.ended_lt before half_le])).symm
            _ ≤ nearest (e + 1 / 2) := nearest_mono (by linarith)
        · obtain rfl : placed[j] = p' := Option.some.inj (at_p.symm.trans at_j)
          rw [before.finish.unique course₀.finish]

/-- Only the last step is marked as such. -/
theorem isLast_eq (at_k : placed[k]? = some p) : p.isLast = decide (k + 1 = placed.length) := by
  obtain ⟨_, _, follows⟩ := place_follows h.places at_k
  exact follows.isLast_eq

theorem fade_le {j : ℕ} (less : j < k) (at_j : placed[j]? = some p) (at_k : placed[k]? = some q)
    (course : p.Course loop s r e f) (half_le : nearest (f + 1 / 2) ≤ T)
    (later : q.Course loop s' r' e' f') : f ≤ f' := by
  have within := (List.getElem?_eq_some_iff.1 at_k).1
  have notLast : p.isLast = false := by
    rw [h.isLast_eq at_j]
    exact decide_eq_false (by omega)
  obtain ⟨a, a_le, -, all⟩ := h.exists_appear at_k later
  obtain ⟨n, -, ended⟩ := course.finish
  calc f = e := course.fade_eq notLast
    _ = nearest e := (ended.nearest_eq (by linarith [h.ended_lt course half_le])).symm
    _ ≤ nearest (e + 1 / 2) := nearest_mono (by linarith)
    _ ≤ a := all j less p at_j s r e f course
    _ ≤ s' := a_le
    _ ≤ e' := later.started_le_ended
    _ ≤ f' := later.ended_le

/-- The total is what trails the fade of the last step. -/
theorem total_eq (at_k : placed[k]? = some p) (isLast : k + 1 = placed.length) :
    (do (← p.fadeOutAt loop).add (trailing loop)) = .ok total := by
  obtain ⟨s, r, e, f, course, half_le⟩ := h.exists_course (List.mem_of_getElem? at_k)
  obtain ⟨n, v, last, hn, sum, -⟩ := h.exists_lastFade
  obtain ⟨-, fades, attained⟩ :=
    measures_of_lastFade (.of_measures measures_zero) h.isMeasured last hn
  obtain ⟨g, le, fade⟩ := fades p (List.mem_of_getElem? at_k)
  obtain rfl : g = f := fade.unique course.fadeOutAt
  -- The greatest fade is that of some step, and no fade comes after that of the last.
  have ge : v ≤ g := by
    rcases attained with zero | ⟨q, hq, fade_q⟩
    · rw [zero.unique measures_zero]
      exact fade.nonneg
    · obtain ⟨j, at_j⟩ := List.getElem?_of_mem hq
      have within := (List.getElem?_eq_some_iff.1 at_j).1
      obtain ⟨s₀, r₀, e₀, f₀, course₀, half_le₀⟩ := h.exists_course hq
      rw [fade_q.unique course₀.fadeOutAt]
      rcases Nat.lt_or_eq_of_le (Nat.le_of_lt_succ (isLast ▸ within)) with less | rfl
      · exact h.fade_le less at_j at_k course₀ half_le₀ course
      · obtain rfl : p = q := Option.some.inj (at_k.symm.trans at_j)
        exact (course₀.fadeOutAt.unique course.fadeOutAt).le
  obtain rfl : v = g := ge.antisymm le
  obtain ⟨m, ok, hm⟩ := fade
  rw [ok]
  have small : v < 2 ^ 52 := (h.fade_lt course half_le).trans h.small
  calc m.add (trailing loop) = n.add (trailing loop) := add_trailing_eq loop hm hn (by linarith)
    _ = .ok total := sum

end Timed

end Schedule

end TerminalReel
