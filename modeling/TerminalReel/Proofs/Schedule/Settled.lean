import TerminalReel.Proofs.Schedule.Placement
/-!
# TerminalReel.Proofs.Schedule.Settled

Placing steps **that are placed already**.

A placed step asks, when it is placed again, for the start that it was given. That
start is the end of the comparison that gave it: it is the earliest one, or it was
found not to lie before that. So nothing is moved any more, and placing once is as
good as placing twice.
-/

namespace TerminalReel

namespace Number

/-- A whole number, or a binary64 number that is neither infinite nor nan. -/
def isFinite : Number → Bool
  | .int _ => true
  | .float x => x.isFinite

theorem lt_irrefl (n : Number) : n.lt n = false := by
  rw [lt, compares]
  cases n.place? with
  | none => rfl
  | some p => cases p with
    | leftEnd => rfl
    | quanta count => simp
    | rightEnd => rfl

/-- The greater of two numbers does not lie left of the second. -/
theorem max_lt_right (a b : Number) : (a.max b).lt b = false := by
  rw [max]
  cases less : a.lt b with
  | true => exact lt_irrefl b
  | false => exact less

end Number

namespace PlacedStep

/-- The step in its place, as one that asks for the start it was given. -/
def settled (placed : PlacedStep) : PlacedStep := { placed with requestedStart := placed.start }

@[simp] theorem start_settled (p : PlacedStep) : p.settled.start = p.start := rfl

@[simp] theorem step_settled (p : PlacedStep) : p.settled.step = p.step := rfl

@[simp] theorem nextStart_settled (p : PlacedStep) : p.settled.nextStart = p.nextStart := rfl

@[simp] theorem fadeOutAt_settled (p : PlacedStep) (loop : Bool) :
    p.settled.fadeOutAt loop = p.fadeOutAt loop := rfl

/-- The earliest start of a later step is a binary64 number. -/
theorem nextStart_eq_float {p : PlacedStep} {n : Number} (h : p.nextStart = .ok n) :
    ∃ x, n = .float x := by
  obtain ⟨finish, -, sum⟩ := bind_eq_ok.1 h
  rcases Number.combine_eq_ok sum with ⟨_, _, _, e, _⟩ | ⟨_, _, _, _, rfl⟩
  · cases e
  · exact ⟨_, rfl⟩

end PlacedStep

namespace Schedule

/-! ### Nothing moves -/

/-- A start that was given once is given again, with nothing to report. -/
theorem startAfter_settled {index : ℕ} {previous : Option PlacedStep} {requested start : Number}
    (h : (startAfter index previous requested).outcome = .ok start) :
    startAfter index (previous.map PlacedStep.settled) start = pure start := by
  cases previous with
  | none => rfl
  | some p =>
      obtain ⟨earliest, next, rfl⟩ := startAfter_some h
      rw [Option.map_some]
      simp only [startAfter, PlacedStep.nextStart_settled, next, Attempt.ofExcept_ok, pure_bind,
        Number.max_lt_right, Bool.false_eq_true, if_false]

theorem placeFrom_settled {index : ℕ} {previous : Option PlacedStep} {steps : List Step}
    {placed : List PlacedStep} (h : (placeFrom index previous steps).outcome = .ok placed) :
    placeFrom index (previous.map PlacedStep.settled) (placed.map PlacedStep.step)
      = pure (placed.map PlacedStep.settled) := by
  induction steps generalizing index previous placed with
  | nil =>
      obtain rfl : [] = placed := Except.ok.inj h
      rfl
  | cons step rest ih =>
      rw [placeFrom, Attempt.outcome_bind, bind_eq_ok] at h
      obtain ⟨start, first, h⟩ := h
      dsimp only at h
      rw [Attempt.outcome_bind, bind_eq_ok] at h
      obtain ⟨others, later, h⟩ := h
      obtain rfl := Except.ok.inj h
      have again := ih later
      have last : (others.map PlacedStep.step).isEmpty = rest.isEmpty := by
        have length := (placeFrom_follows later).1
        cases others <;> cases rest <;> simp_all
      rw [List.map_cons, placeFrom]
      dsimp only
      rw [startAfter_settled first, pure_bind, last]
      rw [Option.map_some] at again
      exact congrArg (· >>= fun rest => pure (_ :: rest)) again

/-- Placed steps are placed again where they are, and nothing is reported. -/
theorem place_settled {steps : List Step} {placed : List PlacedStep}
    (h : (place steps).outcome = .ok placed) :
    place (placed.map PlacedStep.step) = pure (placed.map PlacedStep.settled) :=
  placeFrom_settled h

theorem lastFade_settled (loop : Bool) (reached : Number) (placed : List PlacedStep) :
    lastFade loop reached (placed.map PlacedStep.settled) = lastFade loop reached placed := by
  induction placed generalizing reached with
  | nil => rfl
  | cons p rest ih => simp only [List.map_cons, lastFade, PlacedStep.fadeOutAt_settled, ih]

/-- The cycle of placed steps is as long as before. -/
theorem totalDuration_settled (placed : List PlacedStep) (loop : Bool) :
    totalDuration (placed.map PlacedStep.settled) loop = totalDuration placed loop := by
  rw [totalDuration, totalDuration, lastFade_settled]

/-! ### Nothing is at fault -/

theorem timingFault?_of_measures {x : Binary64} {v : ℚ} (h : (Number.float x).Measures v) :
    timingFault? (.float x) = .ok none := by
  have nonneg : (Number.float x).lt 0 = false := by
    have zero := Number.measures_natCast 0
    rw [← Bool.not_eq_true]
    intro negative
    have below : v < (0 : ℕ) := (h.lt_iff zero).1 negative
    rw [Nat.cast_zero] at below
    exact absurd h.nonneg (not_le.2 below)
  obtain ⟨_, _, rfl, -, -⟩ := Number.measures_float_iff.1 h
  rw [timingFault?, Number.operand_float, ok_bind, nonneg]
  rfl

/-- A start that is finite passes the check: it is the one that was asked for, or the
end of a step and half a second. -/
theorem timingFault?_start {steps : List Step} {placed : List PlacedStep} {p : PlacedStep}
    (checked : checkSteps steps = .ok ()) (ok : (place steps).outcome = .ok placed) {k : ℕ}
    (at_k : placed[k]? = some p) (finite : p.start.isFinite = true) :
    timingFault? p.start = .ok none := by
  obtain ⟨step, at_step, follows⟩ := place_follows ok at_k
  have passes := (checkSteps_eq_ok_iff.1 checked).2 step (List.mem_of_getElem? at_step)
  have start := follows.start
  cases k with
  | zero =>
      rw [startAfter_none start]
      exact passes .start
  | succ k =>
      have within := (List.getElem?_eq_some_iff.1 at_k).1
      have at_previous : placed[k]? = some placed[k] := List.getElem?_eq_getElem (by omega)
      rw [stepBefore, at_previous] at start
      obtain ⟨earliest, next, start⟩ := startAfter_some start
      rcases Number.max_eq_or step.timing.start earliest with kept | moved
      · rw [start, kept]
        exact passes .start
      · rw [start, moved] at finite ⊢
        obtain ⟨x, rfl⟩ := PlacedStep.nextStart_eq_float next
        rcases (isMeasured_of_place checked ok at_previous).nextStart next with ⟨v, h⟩ | endless
        · exact timingFault?_of_measures h
        · rw [endless] at finite
          cases finite

/-- Steps that passed the check pass it again once they are placed, unless one of them
starts at no finite time. -/
theorem checkSteps_settled {steps : List Step} {placed : List PlacedStep}
    (checked : checkSteps steps = .ok ()) (ok : (place steps).outcome = .ok placed)
    (finite : ∀ p ∈ placed, p.start.isFinite = true) :
    checkSteps (placed.map PlacedStep.step) = .ok () := by
  refine checkSteps_eq_ok_iff.2 ⟨?_, List.forall_mem_map.2 fun p mem => ?_⟩
  · have length := (placeFrom_follows ok).1
    have nonempty := ne_nil_of_checkSteps checked
    rw [Ne, List.map_eq_nil_iff]
    rintro rfl
    exact nonempty (List.length_eq_zero_iff.1 length.symm)
  · obtain ⟨k, at_k⟩ := List.getElem?_of_mem mem
    obtain ⟨step, at_step, follows⟩ := place_follows ok at_k
    have passes := (checkSteps_eq_ok_iff.1 checked).2 step (List.mem_of_getElem? at_step)
    intro field
    cases field with
    | start => exact timingFault?_start checked ok at_k (finite p mem)
    | perChar =>
        show timingFault? p.step.timing.perChar = .ok none
        rw [follows.perChar_eq]
        exact passes .perChar
    | hold =>
        show timingFault? p.step.timing.hold = .ok none
        rw [follows.hold_eq]
        exact passes .hold

end Schedule

end TerminalReel
