import TerminalReel.Proofs.Animation.Opacity
import TerminalReel.Proofs.Numeric.Grains
import TerminalReel.Proofs.Schedule.Order
import TerminalReel.Proofs.Schedule.Range
import TerminalReel.Proofs.Schedule.Settled
/-!
# TerminalReel.Proofs.Schedule.Finite

Which schedules are **finite**.

The check looks at one value at a time, and a schedule adds them up. So checked steps can
have a schedule without end, or one whose whole numbers are too large for its arithmetic,
and nothing else can happen to them: a total that is finite has finite times before it,
back to the first start. And the total is finite as long as there is room for the steps,
where every step takes its own time and, for what is rounded up, a few grains.
-/

namespace TerminalReel

/-! ### One way to fail -/

theorem Timing.Passes.isWritable {timing : Timing} (h : timing.Passes) (field : TimingField) :
    (field.value timing).isWritable = true := by
  obtain ⟨v, measured⟩ := h.isMeasured field
  obtain ⟨x, operand, -⟩ := bind_eq_ok.1 (h field)
  exact measured.isWritable_of_operand operand

namespace PlacedStep

variable (p : PlacedStep) (loop : Bool)

theorem converts_finish : Converts p.finish := by
  have typing : Converts p.typingEnd :=
    (Number.converts_combine _ _ _ _).bind fun _ _ => Number.converts_combine _ _ _ _
  exact typing.bind fun _ _ => Number.converts_combine _ _ _ _

theorem converts_nextStart : Converts p.nextStart :=
  p.converts_finish.bind fun _ _ => Number.converts_combine _ _ _ _

theorem converts_fadeOutAt : Converts (p.fadeOutAt loop) := by
  refine p.converts_finish.bind fun _ _ => ?_
  split
  · exact Number.converts_combine _ _ _ _
  · exact .pure trivial

end PlacedStep

namespace Schedule

theorem movedReport_eq_ok (index : ℕ) {requested earliest : Number}
    (hr : requested.isWritable = true) (he : earliest.isWritable = true) :
    ∃ report, movedReport index requested earliest = .ok report :=
  ⟨_, bind_eq_ok.2 ⟨_, if_pos hr, bind_eq_ok.2 ⟨_, if_pos he, rfl⟩⟩⟩

/-- A later step that asks for a start that can be written starts at the greater of the
two. -/
theorem outcome_startAfter_of_isWritable {index : ℕ} {previous : PlacedStep}
    {requested earliest : Number} (next : previous.nextStart = .ok earliest)
    (writable : requested.isWritable = true) :
    (startAfter index (some previous) requested).outcome = .ok (requested.max earliest) := by
  obtain ⟨x, rfl⟩ := PlacedStep.nextStart_eq_float next
  have earliest_writable : (Number.float x).isWritable = true := rfl
  obtain ⟨report, reports⟩ := movedReport_eq_ok index writable earliest_writable
  rw [startAfter, Number.max]
  simp only [Attempt.outcome_bind, Attempt.outcome_ofExcept, next, ok_bind]
  split
  · simp only [Attempt.outcome_bind, Attempt.outcome_ofExcept, reports, ok_bind,
      Attempt.outcome_log, Attempt.outcome_pure]
  · rfl

theorem converts_startAfter (index : ℕ) (previous : Option PlacedStep) {requested : Number}
    (writable : requested.isWritable = true) :
    Converts (startAfter index previous requested).outcome := by
  cases previous with
  | none => exact .ok trivial
  | some p =>
      rcases ended : p.nextStart with e | earliest
      · rw [startAfter, Attempt.outcome_bind, Attempt.outcome_ofExcept, ended]
        exact .error (p.converts_nextStart.of_error ended)
      · rw [outcome_startAfter_of_isWritable ended writable]
        exact .ok trivial

/-- Placing steps fails only where a number is too large for a float. By induction on the
steps. -/
theorem converts_placeFrom (index : ℕ) (previous : Option PlacedStep) {steps : List Step}
    (writable : ∀ step ∈ steps, step.timing.start.isWritable = true) :
    Converts (placeFrom index previous steps).outcome := by
  induction steps generalizing index previous with
  | nil => exact .ok trivial
  | cons step rest ih =>
      obtain ⟨here, there⟩ := List.forall_mem_cons.1 writable
      rw [placeFrom, Attempt.outcome_bind]
      refine (converts_startAfter index previous here).bind fun start _ => ?_
      dsimp only
      rw [Attempt.outcome_bind]
      exact (ih _ _ there).bind fun _ _ => .ok trivial

theorem converts_lastFade (loop : Bool) (reached : Number) (placed : List PlacedStep) :
    Converts (lastFade loop reached placed) := by
  induction placed generalizing reached with
  | nil => exact .ok trivial
  | cons p rest ih => exact (p.converts_fadeOutAt loop).bind fun _ _ => ih _

theorem converts_totalDuration (loop : Bool) (placed : List PlacedStep) :
    Converts (totalDuration placed loop) :=
  (converts_lastFade loop _ placed).bind fun _ _ => Number.converts_combine _ _ _ _

end Schedule

/-! ### From the total back to every time -/

namespace PlacedStep

/-- Every time of the step is finite. -/
structure IsFinite (loop : Bool) (p : PlacedStep) : Prop where
  start : ∃ v, p.start.Measures v
  typingEnd : ∃ v, Yields p.typingEnd v
  finish : ∃ v, Yields p.finish v
  fadeOutAt : ∃ v, Yields (p.fadeOutAt loop) v

/-- What begins to disappear at a finite time has done everything before in finite time. -/
theorem IsMeasured.isFinite {p : PlacedStep} {loop : Bool} {v : ℚ} (sound : p.IsMeasured)
    (fade : Yields (p.fadeOutAt loop) v) : p.IsFinite loop := by
  obtain ⟨n, fades, hn⟩ := fade
  obtain ⟨ended, finish, longer⟩ := bind_eq_ok.1 fades
  obtain ⟨typed, typing, holding⟩ := bind_eq_ok.1 finish
  obtain ⟨span, spans, starting⟩ := bind_eq_ok.1 typing
  obtain ⟨_, hold⟩ := sound.hold
  have at_ended : ∃ e, ended.Measures e := by
    split at longer
    · exact (Number.exists_measures_of_add (sound.finish finish)
        (.of_measures Schedule.measures_lastStepExtra) longer hn).1
    · exact ⟨v, pure_eq_ok.1 longer ▸ hn⟩
  obtain ⟨e, he⟩ := at_ended
  obtain ⟨⟨t, ht⟩, -⟩ :=
    Number.exists_measures_of_add (sound.typingEnd typing) (.of_measures hold) holding he
  obtain ⟨start, -⟩ :=
    Number.exists_measures_of_add sound.start (sound.typingDuration spans) starting ht
  exact ⟨start, ⟨t, typed, typing, ht⟩, ⟨e, ended, finish, he⟩, ⟨v, n, fades, hn⟩⟩

end PlacedStep

namespace Schedule

variable {steps : List Step} {loop : Bool} {placed : List PlacedStep} {total : Number} {T : ℚ}

/-- Every time of every step is finite, and so is the cycle, which takes some time. -/
structure IsFinite (loop : Bool) (placed : List PlacedStep) (total : Number) : Prop where
  total : ∃ T > 0, total.Measures T
  times : ∀ p ∈ placed, p.IsFinite loop

/-- The steps are placed and have a cycle, and all that takes finite times. -/
def Completes (loop : Bool) (steps : List Step) : Prop :=
  ∃ placed total, (place steps).outcome = .ok placed ∧ totalDuration placed loop = .ok total ∧
    IsFinite loop placed total

/-- A schedule whose length is finite has finite times throughout. -/
theorem isFinite_of_measures (checked : checkSteps steps = .ok ())
    (places : (place steps).outcome = .ok placed) (cycle : totalDuration placed loop = .ok total)
    (hT : total.Measures T) : IsFinite loop placed total := by
  have sound := Timed.isMeasured_of_mem checked places
  obtain ⟨n, last, sum⟩ := bind_eq_ok.1 cycle
  obtain ⟨trail, trailing, -, -⟩ := measures_trailing loop
  have n_nonneg := nonneg_of_lastFade (.of_measures measures_zero) sound last
  obtain ⟨⟨v, hv⟩, -⟩ := Number.exists_measures_of_add n_nonneg (.of_measures trailing) sum hT
  obtain ⟨-, fades, -⟩ := measures_of_lastFade (.of_measures measures_zero) sound last hv
  have positive : 0 < T := hT.nonneg.lt_of_ne fun zero =>
    not_measures_zero_of_totalDuration checked places cycle (zero ▸ hT)
  refine ⟨⟨T, positive, hT⟩, fun p mem => ?_⟩
  obtain ⟨f, -, fade⟩ := fades p mem
  exact (sound p mem).isFinite fade

end Schedule

/-! ### From the steps on to the total -/

namespace Timing.IsMeasured

variable {timing : Timing} (h : timing.IsMeasured)

include h

theorem measures_value (field : TimingField) :
    (field.value timing).Measures (field.value timing).value := by
  obtain ⟨v, measures⟩ := h field
  rwa [measures.value_eq]

theorem start : timing.start.Measures timing.start.value := h.measures_value .start

theorem perChar : timing.perChar.Measures timing.perChar.value := h.measures_value .perChar

theorem hold : timing.hold.Measures timing.hold.value := h.measures_value .hold

end Timing.IsMeasured

/-- How long the step lasts, in exact arithmetic: its command is typed, and it is held. -/
def Step.lasts (step : Step) : ℚ :=
  step.command.length * step.timing.perChar.value + step.timing.hold.value

/-- The grains that hold the parts of what the step lasts, and the transition after it. -/
def Step.grains (step : Step) : ℕ :=
  grainsOf (step.command.length * step.timing.perChar.value) + grainsOf step.timing.hold.value + 1

namespace Schedule

/-- When a step may start after all the steps, in exact arithmetic, if the first of them may
start at a time. -/
def exactEnd (earliest : ℚ) : List Step → ℚ
  | [] => earliest
  | step :: rest =>
    exactEnd (max step.timing.start.value earliest + step.lasts + 1 / 2) rest

/-- The grains that hold everything up to the start of a step after all the steps. -/
def grainsUntil (k : ℕ) : List Step → ℕ
  | [] => k
  | step :: rest => grainsUntil (max (grainsOf step.timing.start.value) k + step.grains) rest

/-- The steps leave room in the finite range: commands have lengths that binary64 numbers
tell apart, and the exact end of the schedule lies a few grains before the limit for each of
its steps. -/
structure HasRoom (steps : List Step) : Prop where
  lengths : ∀ step ∈ steps, step.command.length ≤ 2 ^ 53
  ends : exactEnd 0 steps + (4 * steps.length + 1) * grain < 2 ^ limitExponent

theorem le_grainsUntil (k : ℕ) (steps : List Step) : k ≤ grainsUntil k steps := by
  induction steps generalizing k with
  | nil => exact le_rfl
  | cons step rest ih => exact (by omega : k ≤ max _ k + step.grains).trans (ih _)

/-- A step takes its exact time and, for what is rounded up, four grains at most. -/
theorem grains_le {step : Step} (measured : step.timing.IsMeasured) {k slack : ℕ} {earliest : ℚ}
    (le : (k : ℚ) ≤ earliest / grain + slack) :
    (max (grainsOf step.timing.start.value) k + step.grains : ℕ)
      ≤ (max step.timing.start.value earliest + step.lasts + 1 / 2) / grain + (slack + 4 : ℕ) := by
  rw [Step.grains, Step.lasts]
  have asked := grainsOf_le measured.start.nonneg
  have spans := grainsOf_le (mul_nonneg (Nat.cast_nonneg step.command.length)
    measured.perChar.nonneg)
  have holds := grainsOf_le measured.hold.nonneg
  generalize step.timing.start.value = s at asked ⊢
  have later : s / grain ≤ max s earliest / grain :=
    div_le_div_of_nonneg_right (le_max_left s earliest) grain_pos.le
  have earlier : earliest / grain ≤ max s earliest / grain :=
    div_le_div_of_nonneg_right (le_max_right s earliest) grain_pos.le
  have starts : ((max (grainsOf s) k : ℕ) : ℚ) ≤ max s earliest / grain + slack + 1 := by
    rw [Nat.cast_max]
    have : (0 : ℚ) ≤ slack := Nat.cast_nonneg slack
    exact max_le (by linarith) (by linarith)
  have half : (0 : ℚ) ≤ 1 / 2 / grain := div_nonneg (by norm_num) grain_pos.le
  rw [add_div, add_div, add_div]
  push_cast at starts ⊢
  linarith

theorem grainsUntil_le {steps : List Step} (measured : ∀ step ∈ steps, step.timing.IsMeasured)
    {k slack : ℕ} {earliest : ℚ} (le : (k : ℚ) ≤ earliest / grain + slack) :
    (grainsUntil k steps : ℚ)
      ≤ exactEnd earliest steps / grain + (slack + 4 * steps.length : ℕ) := by
  induction steps generalizing k slack earliest with
  | nil => exact le
  | cons step rest ih =>
      obtain ⟨here, there⟩ := List.forall_mem_cons.1 measured
      have all := ih there (grains_le here le)
      rwa [show slack + 4 + 4 * rest.length = slack + 4 * (rest.length + 1) by ring] at all

/-- With room for the steps there are grains left for what trails the last one. -/
theorem HasRoom.grainsUntil_lt {steps : List Step} (room : HasRoom steps)
    (measured : ∀ step ∈ steps, step.timing.IsMeasured) : grainsUntil 0 steps + 1 < 2 ^ 53 := by
  have none : ((0 : ℕ) : ℚ) ≤ 0 / grain + (0 : ℕ) := by simp
  have all := grainsUntil_le measured none
  have ends := room.ends
  rw [← two_pow_mul_grain, ← div_lt_iff₀ grain_pos, add_div,
    mul_div_cancel_right₀ _ grain_pos.ne'] at ends
  push_cast at all
  have : (grainsUntil 0 steps : ℚ) + 1 < 2 ^ 53 := by linarith
  exact_mod_cast this

end Schedule

/-! ### Within the grains -/

namespace PlacedStep

/-- The step starts within so many grains, and there are grains for what it lasts. -/
structure FitsFrom (k : ℕ) (p : PlacedStep) : Prop where
  timing : p.step.timing.IsMeasured
  length_le : p.step.command.length ≤ 2 ^ 53
  start : p.start.StaysIn k
  few : k + p.step.grains < 2 ^ 53

namespace FitsFrom

variable {p : PlacedStep} {k : ℕ} (h : p.FitsFrom k)

include h

/-- Of the grains of the step one is left for what follows its end. -/
theorem finish : ∃ j n, j + 1 = k + p.step.grains ∧ p.finish = .ok n ∧ n.StaysIn j := by
  have few := h.few
  rw [Step.grains] at few ⊢
  obtain ⟨span, spans, within⟩ :=
    Number.exists_count_mul_staysIn h.length_le h.timing.perChar (by omega)
  obtain ⟨typed, typing, within⟩ := h.start.add within (by omega)
  obtain ⟨ended, holding, within⟩ := within.add h.timing.hold.staysIn (by omega)
  exact ⟨_, ended, by omega, bind_eq_ok.2 ⟨typed, bind_eq_ok.2 ⟨span, spans, typing⟩, holding⟩,
    within⟩

theorem nextStart : ∃ n, p.nextStart = .ok n ∧ n.StaysIn (k + p.step.grains) := by
  obtain ⟨j, ended, left, finish, within⟩ := h.finish
  have transition := Schedule.measures_stepTransition.staysIn_one (by norm_num)
  obtain ⟨n, sum, within⟩ := within.add transition (left ▸ h.few)
  exact ⟨n, bind_eq_ok.2 ⟨ended, finish, sum⟩, left ▸ within⟩

theorem fadeOutAt (loop : Bool) :
    ∃ n, p.fadeOutAt loop = .ok n ∧ n.StaysIn (k + p.step.grains) := by
  obtain ⟨j, ended, left, finish, within⟩ := h.finish
  cases longer : p.isLast && loop with
  | false =>
      refine ⟨ended, bind_eq_ok.2 ⟨ended, finish, ?_⟩, within.mono (by omega)⟩
      rw [longer, if_neg Bool.false_ne_true, pure_eq_ok]
  | true =>
      have extra := Schedule.measures_lastStepExtra.staysIn_one le_rfl
      obtain ⟨n, sum, within⟩ := within.add extra (left ▸ h.few)
      refine ⟨n, bind_eq_ok.2 ⟨ended, finish, ?_⟩, left ▸ within⟩
      rw [longer, if_pos rfl]
      exact sum

end FitsFrom

end PlacedStep

namespace Schedule

variable {steps : List Step} {k : ℕ}

/-- A start within so many grains, where the earliest one is. -/
theorem exists_startAfter (index : ℕ) {previous : Option PlacedStep} {requested : Number} {j : ℕ}
    (writable : requested.isWritable = true) (asked : requested.StaysIn j)
    (before : ∀ p ∈ previous, ∃ n, p.nextStart = .ok n ∧ n.StaysIn k) :
    ∃ n, (startAfter index previous requested).outcome = .ok n ∧ n.StaysIn (max j k) := by
  cases previous with
  | none => exact ⟨requested, rfl, asked.mono (le_max_left j k)⟩
  | some p =>
      obtain ⟨earliest, next, within⟩ := before p rfl
      exact ⟨_, outcome_startAfter_of_isWritable next writable, asked.max within⟩

/-- Steps for which there are grains are placed, and begin to disappear, within them. -/
theorem exists_placeFrom (loop : Bool) (index : ℕ) {previous : Option PlacedStep}
    (passes : ∀ step ∈ steps, step.timing.Passes)
    (counts : ∀ step ∈ steps, step.command.length ≤ 2 ^ 53)
    (before : ∀ p ∈ previous, ∃ n, p.nextStart = .ok n ∧ n.StaysIn k)
    (few : grainsUntil k steps < 2 ^ 53) :
    ∃ placed, (placeFrom index previous steps).outcome = .ok placed ∧
      ∀ p ∈ placed, ∃ n, p.fadeOutAt loop = .ok n ∧ n.StaysIn (grainsUntil k steps) := by
  induction steps generalizing index previous k with
  | nil => exact ⟨[], rfl, List.forall_mem_nil _⟩
  | cons step rest ih =>
      obtain ⟨here, passes⟩ := List.forall_mem_cons.1 passes
      obtain ⟨counted, counts⟩ := List.forall_mem_cons.1 counts
      rw [grainsUntil] at few ⊢
      obtain ⟨start, starts, within⟩ :=
        exists_startAfter index (here.isWritable .start) here.isMeasured.start.staysIn before
      have timing : ({ step.timing with start } : Timing).IsMeasured := fun field => by
        cases field with
        -- The start that is given need not be the one that passed the check.
        | start => exact within.imp fun _ => And.left
        | perChar => exact here.isMeasured .perChar
        | hold => exact here.isMeasured .hold
      have fits : PlacedStep.FitsFrom (max (grainsOf step.timing.start.value) k)
          ⟨index, { step with timing := { step.timing with start } }, step.timing.start,
            rest.isEmpty⟩ :=
        ⟨timing, counted, within, (le_grainsUntil _ rest).trans_lt few⟩
      obtain ⟨later, places, fades⟩ :=
        ih (index + 1) passes counts (forall_mem_some fits.nextStart) few
      obtain ⟨n, fade, fades_within⟩ := fits.fadeOutAt loop
      refine ⟨_ :: later, ?_, List.forall_mem_cons.2 ⟨⟨n, fade, ?_⟩, fades⟩⟩
      · rw [placeFrom]
        simp only [Attempt.outcome_bind, bind_eq_ok]
        exact ⟨start, starts, later, places, rfl⟩
      · exact fades_within.mono (le_grainsUntil _ rest)

theorem exists_lastFade (loop : Bool) {placed : List PlacedStep} {reached : Number}
    (start : reached.StaysIn k)
    (fades : ∀ p ∈ placed, ∃ n, p.fadeOutAt loop = .ok n ∧ n.StaysIn k) :
    ∃ n, lastFade loop reached placed = .ok n ∧ n.StaysIn k := by
  induction placed generalizing reached with
  | nil => exact ⟨reached, rfl, start⟩
  | cons p rest ih =>
      obtain ⟨⟨n, fade, within⟩, later⟩ := List.forall_mem_cons.1 fades
      obtain ⟨last, ends, last_within⟩ := ih (Number.max_of_both start within) later
      exact ⟨last, bind_eq_ok.2 ⟨n, fade, ends⟩, last_within⟩

/-- Steps that leave room are placed, and their cycle has a finite length. -/
theorem HasRoom.exists_total (room : HasRoom steps) (checked : checkSteps steps = .ok ())
    (loop : Bool) : ∃ placed total T, (place steps).outcome = .ok placed ∧
      totalDuration placed loop = .ok total ∧ total.Measures T := by
  have passes := (checkSteps_eq_ok_iff.1 checked).2
  have few := room.grainsUntil_lt fun step mem => (passes step mem).isMeasured
  obtain ⟨placed, places, fades⟩ :=
    exists_placeFrom loop 0 passes room.lengths forall_mem_none (Nat.lt_of_succ_lt few)
  have zero : (Number.float .zero).StaysIn (grainsUntil 0 steps) :=
    ⟨0, measures_zero, mul_nonneg (Nat.cast_nonneg _) grain_pos.le⟩
  obtain ⟨n, last, within⟩ := exists_lastFade loop zero fades
  obtain ⟨trail, trailing, -, le_one⟩ := measures_trailing loop
  obtain ⟨total, sum, T, measures, -⟩ := within.add (trailing.staysIn_one le_one) few
  exact ⟨placed, total, T, places, bind_eq_ok.2 ⟨n, last, sum⟩, measures⟩

/-! ### Checked steps -/

/-- Checked steps are placed and their cycle is computed, unless a whole number is too large to
be converted, and all their times are finite, unless the cycle is endless. Where the steps leave
room in the finite range neither happens. -/
theorem place_finite {steps : List Step} (checked : checkSteps steps = .ok ()) (loop : Bool) :
    Ends (fun placed => Ends (fun total => total = .endless ∨ IsFinite loop placed total)
        (· = .intTooLarge) (totalDuration placed loop))
      (· = .intTooLarge) (place steps).outcome ∧
    (HasRoom steps → Completes loop steps) := by
  have passes := (checkSteps_eq_ok_iff.1 checked).2
  constructor
  · have places := converts_placeFrom 0 none fun step mem => (passes step mem).isWritable .start
    refine places.and_eq.mono fun placed ⟨_, places⟩ => ?_
    refine (converts_totalDuration loop placed).and_eq.mono fun total ⟨_, cycle⟩ => ?_
    rcases Timed.nonneg_total checked places cycle with ⟨T, measures⟩ | endless
    · exact .inr (isFinite_of_measures checked places cycle measures)
    · exact .inl endless
  · intro room
    obtain ⟨placed, total, T, places, cycle, measures⟩ := room.exists_total checked loop
    exact ⟨placed, total, places, cycle, isFinite_of_measures checked places cycle measures⟩

theorem place_finite_overlapping : checkSteps overlapping = .ok () ∧ HasRoom overlapping ∧
    Completes true overlapping := by
  have checked : checkSteps overlapping = .ok () := by
    obtain ⟨⟨⟩, ok⟩ := exists_of_isOk (x := checkSteps overlapping) (by decide +kernel)
    exact ok
  have room : HasRoom overlapping := by
    have one : Number.value 1 = 1 := (Number.measures_natCast 1).value_eq.trans Nat.cast_one
    have two : Number.value 2 = 2 := (Number.measures_natCast 2).value_eq.trans Nat.cast_two
    have held : (Number.float (.ofFraction 5 2)).value = 5 / 2 :=
      (Number.measures_dyadic 5 1 (by norm_num) (by decide)).value_eq.trans (by norm_num)
    have typed : (Text.ofString "ls").length = 2 := rfl
    have silent : (Text.ofString "").length = 0 := rfl
    have ends : exactEnd 0 overlapping = 17 / 2 := by
      simp only [overlapping, exactEnd, Step.lasts, one, two, held, typed, silent]
      norm_num
    refine ⟨by decide +kernel, ?_⟩
    have count : overlapping.length = 2 := rfl
    rw [ends, count, ← two_pow_mul_grain]
    push_cast
    linarith [one_le_grain]
  exact ⟨checked, room, (place_finite checked true).2 room⟩

/-- A step whose start and hold are finite and whose end is not. -/
def ageless : List Step :=
  [{ timing := {
      start := .float (.ofFraction (10 ^ 308) 1)
      hold := .float (.ofFraction (10 ^ 308) 1) } }]

/-- A step whose pace can be converted and whose end cannot. -/
def sluggish : List Step := [{ command := "ab", timing := { perChar := .int (10 ^ 308) } }]

theorem not_completes_longTimes :
    (checkSteps ageless = .ok () ∧ ¬ Completes false ageless) ∧
      checkSteps sluggish = .ok () ∧ ¬ Completes false sluggish := by
  have passes {steps : List Step} (h : (checkSteps steps).isOk = true) :
      checkSteps steps = .ok () := by
    obtain ⟨⟨⟩, ok⟩ := exists_of_isOk h
    exact ok
  refine ⟨⟨passes (by decide +kernel), ?_⟩, passes (by decide +kernel), ?_⟩
  · rintro ⟨placed, total, places, cycle, finite⟩
    have endless : (place ageless).outcome >>= (totalDuration · false) = .ok .endless := by
      decide +kernel
    rw [places, ok_bind, cycle] at endless
    obtain ⟨T, -, measures⟩ := finite.total
    rw [Except.ok.inj endless] at measures
    exact Number.not_measures_endless measures
  · rintro ⟨placed, total, places, cycle, -⟩
    have fails : (place sluggish).outcome >>= (totalDuration · false) = .error .intTooLarge := by
      decide +kernel
    rw [places, ok_bind, cycle] at fails
    cases fails

end Schedule

end TerminalReel
