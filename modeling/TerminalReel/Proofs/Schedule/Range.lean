import TerminalReel.Proofs.Json.Moderate
import TerminalReel.Proofs.Schedule.Course
/-!
# TerminalReel.Proofs.Schedule.Range

Schedules of **moderate** steps are computed, and other schedules fail for one reason.

A time is a start, a product of a pace and a number of characters, and a hold: few
enough terms to be an operand where each of them is moderate. The end of a step meets
the transition, which is a binary64 number, so the start that it gives to the next step
is one too, and times do not grow from step to step.
-/

namespace TerminalReel

variable {host : Host} {P : Prop}

/-! ### Single times -/

theorem Text.isWithin_of_le_length {text : Text} (h : (Json.string text).IsModerate host)
    {index : ℕ} (le : index ≤ text.length) : (Number.int index).IsWithin lengthBits :=
  Number.isWithin_int.2 (le.trans_lt h.length_lt)

namespace Step.IsModerate

variable {step : Step} (h : step.IsModerate host)

include h

theorem isWithin_start : step.timing.start.IsWithin numberBits :=
  h.timing.start.isWithin

theorem isWithin_perChar : step.timing.perChar.IsWithin numberBits :=
  h.timing.perChar.isWithin

theorem isWithin_hold : step.timing.hold.IsWithin numberBits :=
  h.timing.hold.isWithin

/-- A step stays moderate with another moderate start. -/
theorem start {n : Number} (hn : n.IsWithin numberBits) :
    ({ step with timing := { step.timing with start := n } } : Step).IsModerate host :=
  { h with timing := { h.timing with start := Json.isModerate_number_iff.2 hn } }

end Step.IsModerate

/-- The bits of a product of a number and a length. -/
def productBits : ℕ := lengthBits + numberBits

theorem numberBits_le : numberBits ≤ productBits := by decide

namespace PlacedStep

variable {p : PlacedStep} (h : P → p.step.IsModerate host)

include h

/-- The time of a character is computed, and is within bounds. -/
theorem computes_revealAt {index : ℕ} (le : index ≤ p.step.command.length) :
    Computes P (fun n => P → n.IsWithin (productBits + 1)) (p.revealAt index) := by
  have offset := Number.computes_mul
    (fun holds => Text.isWithin_of_le_length (h holds).command le)
    (fun holds => (h holds).isWithin_perChar) (by decide)
  exact offset.bind fun n hn => Number.computes_add
    (fun holds => (h holds).isWithin_start.mono numberBits_le) hn (by decide)

/-- Typing ends when a character after the last would be typed. -/
theorem computes_typingEnd :
    Computes P (fun n => P → n.IsWithin (productBits + 1)) p.typingEnd :=
  computes_revealAt h le_rfl

theorem computes_finish : Computes P (fun n => P → n.IsWithin (productBits + 2)) p.finish :=
  (computes_typingEnd h).bind fun _ hn => Number.computes_add hn
    (fun holds => (h holds).isWithin_hold.mono (by decide)) (by decide)

theorem computes_fadeOutAt (loop : Bool) :
    Computes P (fun n => P → n.IsWithin (productBits + 2)) (p.fadeOutAt loop) := by
  refine (computes_finish h).bind fun n hn => ?_
  split
  · exact (Number.computes_add_float (fun holds => (hn holds).mono (by decide)) _).mono
      fun _ isFloat _ => isFloat.isWithin _
  · exact .pure hn

theorem computes_nextStart : Computes P Number.IsFloat p.nextStart :=
  (computes_finish h).bind fun _ hn =>
    Number.computes_add_float (fun holds => (hn holds).mono (by decide)) _

end PlacedStep

/-! ### The check -/

/-- The check fails for a fault of a step, which can be told if `P` holds, or for an
overflow, where `P` does not. -/
def CheckError.IsRefusal (P : Prop) : CheckError → Prop
  | .step e => P → e.isWritable = true ∧ ∀ host, e.isShowable host = true
  | .arithmetic e => e.IsOverflow ∧ ¬P

theorem checks_timingValue (index : ℕ) (field : TimingField) {n : Number}
    (h : P → n.IsWithin numberBits) :
    Ends (fun _ => True) (CheckError.IsRefusal P) (checkTimingValue index field n) := by
  have writable (holds : P) : n.isWritable = true := (h holds).isWritable (by decide)
  have faults : Computes P
      (fun fault => ∀ f ∈ fault, P → f.isWritable = true ∧ ∀ host, f.isShowable host = true)
      (timingFault? n) := by
    refine (Number.computes_operand fun holds => (h holds).mono (by decide)).bind fun x _ => ?_
    split
    · exact .pure (forall_mem_some fun holds => ⟨writable holds, fun _ => rfl⟩)
    · split
      · exact .pure (forall_mem_some fun holds => ⟨writable holds, fun _ => rfl⟩)
      · exact .pure forall_mem_none
  rw [checkTimingValue]
  generalize timingFault? n = ended at faults
  cases faults with
  | error bad => exact .error bad
  | @ok fault each =>
      cases fault with
      | none => exact .ok trivial
      | some fault => exact .error (each fault rfl)

/-- The timing of a moderate step passes, or is refused by a report. -/
theorem checks_timing (index : ℕ) {step : Step} (h : P → step.IsModerate host) :
    Ends (fun _ => True) (CheckError.IsRefusal P) (checkTiming index step.timing) := by
  refine Ends.forM fun field _ => checks_timingValue index field fun holds => ?_
  cases field with
  | start => exact (h holds).isWithin_start
  | perChar => exact (h holds).isWithin_perChar
  | hold => exact (h holds).isWithin_hold

theorem checks_stepsFrom (index : ℕ) {steps : List Step}
    (each : ∀ step ∈ steps, P → step.IsModerate host) :
    Ends (fun _ => True) (CheckError.IsRefusal P) (checkStepsFrom index steps) := by
  induction steps generalizing index with
  | nil => exact .ok trivial
  | cons step rest ih =>
      obtain ⟨here, there⟩ := List.forall_mem_cons.1 each
      exact (checks_timing index here).bind fun _ _ => ih (index + 1) there

/-- Moderate steps pass, or one of them is refused by a report. -/
theorem checks_steps {steps : List Step} (each : ∀ step ∈ steps, P → step.IsModerate host) :
    Ends (fun _ => True) (CheckError.IsRefusal P) (checkSteps steps) := by
  cases steps with
  | nil => exact .error fun _ => ⟨rfl, fun _ => rfl⟩
  | cons step rest => exact checks_stepsFrom 0 each

namespace Schedule

/-! ### Placing -/

theorem computes_movedReport (index : ℕ) {requested earliest : Number}
    (hr : P → requested.IsWithin numberBits) (he : earliest.IsFloat) :
    Computes P (fun _ => True) (movedReport index requested earliest) := by
  obtain ⟨x, rfl⟩ := he
  refine (Number.computes_fullText fun holds => (hr holds).isWritable (by decide)).bind
    fun _ _ => ?_
  exact (Number.computes_fullText fun _ => rfl).bind fun _ _ => .pure trivial

/-- The start of a step is computed, moved or not, and its report can be written. -/
theorem computes_startAfter (index : ℕ) {previous : Option PlacedStep} {requested : Number}
    (before : ∀ p ∈ previous, P → p.step.IsModerate host) (h : P → requested.IsWithin numberBits) :
    Computes P (fun n => P → n.IsWithin numberBits)
      (startAfter index previous requested).outcome := by
  cases previous with
  | none => exact .ok h
  | some p =>
      simp only [startAfter, Attempt.outcome_bind, Attempt.outcome_ofExcept]
      refine (PlacedStep.computes_nextStart (before p rfl)).bind fun earliest he => ?_
      split
      -- A step that is moved starts at a binary64 number, so nothing whole grows with the steps.
      · simp only [Attempt.outcome_bind, Attempt.outcome_ofExcept]
        exact (computes_movedReport index h he).bind fun _ _ => .ok fun _ => he.isWithin _
      · exact .ok h

/-- Placed steps are as moderate as they were before. -/
theorem computes_placeFrom (index : ℕ) {previous : Option PlacedStep} {steps : List Step}
    (before : ∀ p ∈ previous, P → p.step.IsModerate host)
    (each : ∀ step ∈ steps, P → step.IsModerate host) :
    Computes P (fun placed => ∀ p ∈ placed, P → p.step.IsModerate host)
      (placeFrom index previous steps).outcome := by
  induction steps generalizing index previous with
  | nil => exact .ok (List.forall_mem_nil _)
  | cons step rest ih =>
      obtain ⟨here, there⟩ := List.forall_mem_cons.1 each
      rw [placeFrom, Attempt.outcome_bind]
      refine (computes_startAfter index before fun holds => (here holds).isWithin_start).bind
        fun start hs => ?_
      have moderate :
          P → ({ step with timing := { step.timing with start } } : Step).IsModerate host :=
        fun holds => (here holds).start (hs holds)
      dsimp only
      rw [Attempt.outcome_bind]
      refine (ih (index + 1) (forall_mem_some moderate) there).bind fun later hl => .ok ?_
      exact List.forall_mem_cons.2 ⟨moderate, hl⟩

/-! ### The cycle -/

theorem computes_lastFade (loop : Bool) {reached : Number} {placed : List PlacedStep}
    (h : P → reached.IsWithin (productBits + 2)) (each : ∀ p ∈ placed, P → p.step.IsModerate host) :
    Computes P (fun n => P → n.IsWithin (productBits + 2)) (lastFade loop reached placed) := by
  induction placed generalizing reached with
  | nil => exact .ok h
  | cons p rest ih =>
      obtain ⟨here, there⟩ := List.forall_mem_cons.1 each
      exact (p.computes_fadeOutAt here loop).bind fun _ hf =>
        ih (fun holds => Number.max_of_both (h holds) (hf holds)) there

theorem isFloat_trailing (loop : Bool) : (trailing loop).IsFloat := by
  cases loop with
  | false => exact Number.isFloat_float _
  | true => exact Number.isFloat_float _

/-- The length of the cycle of moderate steps is computed. -/
theorem computes_totalDuration (loop : Bool) {placed : List PlacedStep}
    (each : ∀ p ∈ placed, P → p.step.IsModerate host) :
    Computes P Number.IsFloat (totalDuration placed loop) := by
  obtain ⟨x, trails⟩ := isFloat_trailing loop
  rw [totalDuration, trails]
  exact (computes_lastFade loop (fun _ => Number.isWithin_float _ _) each).bind fun n hn =>
    Number.computes_add_float (fun holds => (hn holds).mono (by decide)) x

theorem measures_of_isZero {x : Binary64} (zero : x.isZero = true) :
    (Number.float x).Measures 0 := by
  cases x with
  | finite negative m =>
      have none : m.quanta = 0 := eq_of_beq zero
      refine Number.measures_float_iff.2 ⟨negative, m, rfl, ?_, fun _ => none⟩
      rw [none, Nat.cast_zero, zero_div]
  | _ => cases zero

/-- A cycle is as long as what trails the last step, at least, so it takes some time. -/
theorem not_measures_zero_of_totalDuration {steps : List Step} {loop : Bool}
    {placed : List PlacedStep} {total : Number} (checked : checkSteps steps = .ok ())
    (ok : (place steps).outcome = .ok placed) (cycle : totalDuration placed loop = .ok total) :
    ¬ total.Measures 0 := by
  intro nothing
  obtain ⟨n, last, sum⟩ := bind_eq_ok.1 cycle
  obtain ⟨trail, trailing, half_le, -⟩ := measures_trailing loop
  have n_nonneg : n.Nonneg := nonneg_of_lastFade (.of_measures measures_zero)
    (Timed.isMeasured_of_mem checked ok) last
  obtain ⟨_, w, -, hw, -, w_le, -⟩ :=
    Number.measures_of_add n_nonneg (.of_measures trailing) sum nothing (by norm_num)
  obtain rfl : w = trail := hw.unique trailing
  linarith

/-- A cycle of steps that passed is not empty. -/
theorem isZero_of_totalDuration {steps : List Step} {loop : Bool} {placed : List PlacedStep}
    {x : Binary64} (checked : checkSteps steps = .ok ())
    (ok : (place steps).outcome = .ok placed)
    (cycle : totalDuration placed loop = .ok (.float x)) : x.isZero = false := by
  rw [← Bool.not_eq_true]
  intro zero
  exact not_measures_zero_of_totalDuration checked ok cycle (measures_of_isZero zero)

end Schedule

end TerminalReel
