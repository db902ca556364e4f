import TerminalReel.Proofs.Ending
import TerminalReel.Proofs.Numeric.Arithmetic
import TerminalReel.Schedule.Check
import TerminalReel.Schedule.Placement
/-!
# TerminalReel.Proofs.Schedule.Placement

What **placing steps** does to each of them.

A placed step is determined by the step and by the placed step before it
(`Follows`), and every later fact is read off that relation and not off the
recursion. Steps that pass the check have timing values that measure something,
so no time is negative or nan; a time can still be endless, which a total that
measures something excludes.
-/

namespace TerminalReel

/-! ### What the check promises -/

namespace Number

/-- A number that makes a finite operand lies on the line. -/
theorem exists_place_of_finite {n : Number} {x : Binary64} (ok : n.operand = .ok x)
    (finite : x.isFinite = true) : ∃ count, n.place? = some (.quanta count) := by
  cases n with
  | int i => exact ⟨i * quantaPerOne, rfl⟩
  | float y =>
      obtain rfl : y = x := by simpa using ok
      cases y with
      | finite negative m => exact ⟨Binary64.signedQuanta negative m, rfl⟩
      | infinite negative => cases finite
      | nan => cases finite

theorem place?_zero : (0 : Number).place? = some (.quanta 0) :=
  congrArg (some ∘ Place.quanta) (Int.zero_mul _)

end Number

/-- A timing value without a fault measures something. -/
theorem exists_measures_of_timingFault?_eq_none {n : Number} (h : timingFault? n = .ok none) :
    ∃ v, n.Measures v := by
  rw [timingFault?, bind_eq_ok] at h
  obtain ⟨x, operand, h⟩ := h
  cases finite : x.isFinite with
  | false => simp [finite, pure_eq_ok] at h
  | true =>
      cases negative : n.lt 0 with
      | true => simp [finite, negative, pure_eq_ok] at h
      | false =>
          obtain ⟨count, place⟩ := Number.exists_place_of_finite operand finite
          have nonneg : 0 ≤ count := by
            rw [Number.lt, Number.compares, place, Number.place?_zero] at negative
            simpa using negative
          have pos := quantaPerOne_cast_pos
          refine ⟨count / quantaPerOne, div_nonneg (Int.cast_nonneg nonneg) pos.le, count,
            place, ?_⟩
          rw [div_mul_cancel₀ _ pos.ne']

/-- None of the timing values of a step is at fault. -/
def Timing.Passes (timing : Timing) : Prop :=
  ∀ field : TimingField, timingFault? (field.value timing) = .ok none

/-- The timing values of a step measure something. -/
def Timing.IsMeasured (timing : Timing) : Prop :=
  ∀ field : TimingField, ∃ v, (field.value timing).Measures v

theorem Timing.Passes.isMeasured {timing : Timing} (h : timing.Passes) : timing.IsMeasured :=
  fun field => exists_measures_of_timingFault?_eq_none (h field)

theorem TimingField.mem_all (field : TimingField) : field ∈ TimingField.all := by
  cases field <;> decide

theorem checkTimingValue_eq_ok_iff {index : ℕ} {field : TimingField} {n : Number} :
    checkTimingValue index field n = .ok () ↔ timingFault? n = .ok none := by
  rw [checkTimingValue]
  generalize timingFault? n = fault
  rcases fault with _ | _ | _
  · exact ⟨nofun, nofun⟩
  · exact ⟨fun _ => rfl, fun _ => rfl⟩
  · exact ⟨nofun, nofun⟩

/-- A timing is accepted exactly if it passes. -/
theorem checkTiming_eq_ok_iff {index : ℕ} {timing : Timing} :
    checkTiming index timing = .ok () ↔ timing.Passes := by
  simp only [checkTiming, forM_eq_ok, checkTimingValue_eq_ok_iff, Timing.Passes]
  exact ⟨fun h field => h field field.mem_all, fun h field _ => h field⟩

/-- The check of a step does not depend on its index. -/
theorem checkStepsFrom_eq_ok_iff {index : ℕ} {steps : List Step} :
    checkStepsFrom index steps = .ok () ↔ ∀ step ∈ steps, step.timing.Passes := by
  induction steps generalizing index with
  | nil => simp [checkStepsFrom]
  | cons step rest ih =>
      rw [checkStepsFrom, bind_eq_ok, List.forall_mem_cons, ← ih, ← checkTiming_eq_ok_iff]
      exact ⟨fun ⟨⟨⟩, first, others⟩ => ⟨first, others⟩,
        fun ⟨first, others⟩ => ⟨⟨⟩, first, others⟩⟩

/-- Steps are accepted exactly if there are some and each of them passes. -/
theorem checkSteps_eq_ok_iff {steps : List Step} :
    checkSteps steps = .ok () ↔ steps ≠ [] ∧ ∀ step ∈ steps, step.timing.Passes := by
  cases steps with
  | nil => exact ⟨nofun, fun h => absurd rfl h.1⟩
  | cons step rest =>
      exact checkStepsFrom_eq_ok_iff.trans ⟨fun h => ⟨List.cons_ne_nil _ _, h⟩, And.right⟩

/-- Steps that are accepted have finite times. -/
theorem isMeasured_of_checkSteps {steps : List Step} (h : checkSteps steps = .ok ()) :
    ∀ step ∈ steps, step.timing.IsMeasured :=
  fun step mem => ((checkSteps_eq_ok_iff.1 h).2 step mem).isMeasured

theorem ne_nil_of_checkSteps {steps : List Step} (h : checkSteps steps = .ok ()) : steps ≠ [] :=
  (checkSteps_eq_ok_iff.1 h).1

/-! ### One step after another -/

namespace Schedule

/-- The step before the one at an index, where `first` comes before them all. -/
def stepBefore (first : Option PlacedStep) (placed : List PlacedStep) : ℕ → Option PlacedStep
  | 0 => first
  | index + 1 => placed[index]?

theorem stepBefore_cons (first : Option PlacedStep) (p : PlacedStep) (rest : List PlacedStep)
    (index : ℕ) : stepBefore first (p :: rest) (index + 1) = stepBefore (some p) rest index := by
  cases index <;> rfl

/-- A placed step is the step it places, started after the one before it. -/
structure Follows (previous : Option PlacedStep) (index : ℕ) (isLast : Bool) (step : Step)
    (placed : PlacedStep) : Prop where
  start : (startAfter index previous step.timing.start).outcome = .ok placed.start
  placed : placed = {
    index
    step := { step with timing := { step.timing with start := placed.start } }
    requestedStart := step.timing.start
    isLast }

/-- The first step starts when it asks to. -/
theorem startAfter_none {index : ℕ} {requested start : Number}
    (h : (startAfter index none requested).outcome = .ok start) : start = requested :=
  (Except.ok.inj h).symm

/-- A later step starts when it asks to, or as soon as it may. -/
theorem startAfter_some {index : ℕ} {previous : PlacedStep} {requested start : Number}
    (h : (startAfter index (some previous) requested).outcome = .ok start) :
    ∃ earliest, previous.nextStart = .ok earliest ∧ start = requested.max earliest := by
  rw [startAfter, Attempt.outcome_bind, bind_eq_ok] at h
  obtain ⟨earliest, next, h⟩ := h
  refine ⟨earliest, next, ?_⟩
  rw [Number.max]
  by_cases moved : requested.lt earliest = true
  · rw [if_pos moved] at h ⊢
    simp only [Attempt.outcome_bind, bind_eq_ok, Attempt.outcome_pure] at h
    obtain ⟨_, _, _, _, e⟩ := h
    exact (Except.ok.inj e).symm
  · rw [if_neg moved] at h ⊢
    exact (Except.ok.inj h).symm

/-- Each step is placed after the one before it. -/
theorem placeFrom_follows {index : ℕ} {previous : Option PlacedStep} {steps : List Step}
    {placed : List PlacedStep} (h : (placeFrom index previous steps).outcome = .ok placed) :
    placed.length = steps.length ∧ ∀ k step, steps[k]? = some step → ∃ p,
      placed[k]? = some p ∧ Follows (stepBefore previous placed k) (index + k)
        (decide (k + 1 = steps.length)) step p := by
  induction steps generalizing index previous placed with
  | nil =>
      obtain rfl : [] = placed := Except.ok.inj h
      simp
  | cons step rest ih =>
      rw [placeFrom, Attempt.outcome_bind, bind_eq_ok] at h
      obtain ⟨start, first, h⟩ := h
      dsimp only at h
      rw [Attempt.outcome_bind, bind_eq_ok] at h
      obtain ⟨others, later, h⟩ := h
      obtain rfl := Except.ok.inj h
      obtain ⟨length, follows⟩ := ih later
      refine ⟨by simp [length], fun k => ?_⟩
      cases k with
      | zero =>
          rintro _ ⟨⟩
          refine ⟨_, rfl, first, ?_⟩
          cases rest <;> rfl
      | succ k =>
          intro later at_k
          obtain ⟨p, at_p, follows⟩ := follows k later at_k
          refine ⟨p, at_p, ?_⟩
          rw [stepBefore_cons, List.length_cons, ← Nat.add_assoc, Nat.add_right_comm index k 1]
          simpa only [Nat.add_right_cancel_iff] using follows

/-- Every placed step stands for a step and follows the one before it. -/
theorem place_follows {steps : List Step} {placed : List PlacedStep}
    (h : (place steps).outcome = .ok placed) {k : ℕ} {p : PlacedStep} (at_k : placed[k]? = some p) :
    ∃ step, steps[k]? = some step ∧
      Follows (stepBefore none placed k) k (decide (k + 1 = placed.length)) step p := by
  obtain ⟨length, follows⟩ := placeFrom_follows h
  have within : k < steps.length := by
    rw [← length]
    exact (List.getElem?_eq_some_iff.1 at_k).1
  obtain ⟨q, at_q, follows⟩ := follows k steps[k] (List.getElem?_eq_getElem within)
  obtain rfl : p = q := by simpa [at_k] using at_q
  rw [Nat.zero_add, ← length] at follows
  exact ⟨steps[k], List.getElem?_eq_getElem within, follows⟩

namespace Follows

variable {previous : Option PlacedStep} {index : ℕ} {isLast : Bool} {step : Step} {p : PlacedStep}

theorem index_eq (h : Follows previous index isLast step p) : p.index = index :=
  congrArg PlacedStep.index h.placed

theorem isLast_eq (h : Follows previous index isLast step p) : p.isLast = isLast :=
  congrArg PlacedStep.isLast h.placed

theorem requestedStart_eq (h : Follows previous index isLast step p) :
    p.requestedStart = step.timing.start :=
  congrArg PlacedStep.requestedStart h.placed

theorem step_eq (h : Follows previous index isLast step p) :
    p.step = { step with timing := { step.timing with start := p.start } } :=
  congrArg PlacedStep.step h.placed

theorem perChar_eq (h : Follows previous index isLast step p) :
    p.step.timing.perChar = step.timing.perChar :=
  congrArg (·.step.timing.perChar) h.placed

theorem hold_eq (h : Follows previous index isLast step p) :
    p.step.timing.hold = step.timing.hold :=
  congrArg (·.step.timing.hold) h.placed

end Follows

end Schedule

/-! ### No time is negative -/

theorem Number.max_eq_or (a b : Number) : a.max b = a ∨ a.max b = b := by
  rw [Number.max]
  split
  · exact Or.inr rfl
  · exact Or.inl rfl

namespace Schedule

theorem measures_half : (Number.float (.ofFraction 1 2)).Measures (1 / 2) := by
  have h := Number.measures_dyadic 1 1 (by norm_num) (by decide)
  simpa using h

theorem measures_one : (Number.float (.ofFraction 1 1)).Measures 1 := by
  have h := Number.measures_dyadic 1 0 (by norm_num) (by decide)
  simpa using h

theorem measures_stepTransition : stepTransition.Measures (1 / 2) := measures_half

theorem measures_lastStepExtra : lastStepExtra.Measures 1 := measures_one

/-- What trails the last step is half a second at least. -/
theorem measures_trailing (loop : Bool) : ∃ v, (trailing loop).Measures v ∧ 1 / 2 ≤ v ∧ v ≤ 1 := by
  cases loop with
  | false => exact ⟨1 / 2, measures_half, le_rfl, by norm_num⟩
  | true => exact ⟨1, measures_one, by norm_num, le_rfl⟩

end Schedule

namespace PlacedStep

/-- The step starts at no negative time, and its own durations measure something. -/
structure IsMeasured (p : PlacedStep) : Prop where
  start : p.start.Nonneg
  perChar : ∃ v, p.step.timing.perChar.Measures v
  hold : ∃ v, p.step.timing.hold.Measures v

namespace IsMeasured

variable {p : PlacedStep} {loop : Bool} {n : Number}

theorem typingDuration (h : p.IsMeasured) (ok : p.step.typingDuration = .ok n) : n.Nonneg := by
  obtain ⟨_, perChar⟩ := h.perChar
  exact Number.Nonneg.count_mul perChar ok

theorem typingEnd (h : p.IsMeasured) (ok : p.typingEnd = .ok n) : n.Nonneg := by
  obtain ⟨duration, typing, sum⟩ := bind_eq_ok.1 ok
  exact h.start.add (h.typingDuration typing) sum

theorem finish (h : p.IsMeasured) (ok : p.finish = .ok n) : n.Nonneg := by
  obtain ⟨typed, typing, sum⟩ := bind_eq_ok.1 ok
  obtain ⟨_, hold⟩ := h.hold
  exact (h.typingEnd typing).add (.of_measures hold) sum

theorem nextStart (h : p.IsMeasured) (ok : p.nextStart = .ok n) : n.Nonneg := by
  obtain ⟨ended, finish, sum⟩ := bind_eq_ok.1 ok
  exact (h.finish finish).add (.of_measures Schedule.measures_stepTransition) sum

theorem fadeOutAt (h : p.IsMeasured) (ok : p.fadeOutAt loop = .ok n) : n.Nonneg := by
  obtain ⟨ended, finish, rest⟩ := bind_eq_ok.1 ok
  cases longer : p.isLast && loop with
  | false =>
      rw [longer, if_neg Bool.false_ne_true, pure_eq_ok] at rest
      exact rest ▸ h.finish finish
  | true =>
      rw [longer, if_pos rfl] at rest
      exact (h.finish finish).add (.of_measures Schedule.measures_lastStepExtra) rest

end IsMeasured

end PlacedStep

namespace Schedule

/-- In a schedule of checked steps every start is at no negative time: a step
after the first starts when it asks to or when the one before it allows. -/
theorem isMeasured_of_place {steps : List Step} {placed : List PlacedStep}
    (checked : checkSteps steps = .ok ()) (ok : (place steps).outcome = .ok placed) {k : ℕ}
    {p : PlacedStep} (at_k : placed[k]? = some p) : p.IsMeasured := by
  induction k generalizing p with
  | zero =>
      obtain ⟨step, at_step, follows⟩ := place_follows ok at_k
      have timing := isMeasured_of_checkSteps checked step (List.mem_of_getElem? at_step)
      refine ⟨?_, follows.perChar_eq ▸ timing .perChar, follows.hold_eq ▸ timing .hold⟩
      rw [startAfter_none follows.start]
      exact Or.inl (timing .start)
  | succ k ih =>
      obtain ⟨step, at_step, follows⟩ := place_follows ok at_k
      have timing := isMeasured_of_checkSteps checked step (List.mem_of_getElem? at_step)
      have within := (List.getElem?_eq_some_iff.1 at_k).1
      have at_previous : placed[k]? = some placed[k] := List.getElem?_eq_getElem (by omega)
      have start := follows.start
      rw [stepBefore, at_previous] at start
      obtain ⟨earliest, next, start⟩ := startAfter_some start
      refine ⟨?_, follows.perChar_eq ▸ timing .perChar, follows.hold_eq ▸ timing .hold⟩
      rw [start]
      rcases Number.max_eq_or step.timing.start earliest with e | e
      · rw [e]
        exact Or.inl (timing .start)
      · rw [e]
        exact (ih at_previous).nextStart next

end Schedule

end TerminalReel
