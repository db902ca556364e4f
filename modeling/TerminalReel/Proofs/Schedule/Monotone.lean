import TerminalReel.Proofs.Numeric.Extended
import TerminalReel.Proofs.Schedule.Order
import TerminalReel.Proofs.Schedule.Range
/-!
# TerminalReel.Proofs.Schedule.Monotone

Schedules **rise with their steps**: where no step asks for less, none starts, ends or
disappears earlier, and the cycle is no shorter.

Two runs are compared along the one relation `Rises` between what they compute: both
answer with binary64 numbers that are not negative, and the first is no greater than
the second. Sums, multiples and the greater of two numbers keep it, whether they are
rounded, absorb a term or overflow, so every time of a step keeps it, and placing does,
although one run may move a step that the other one leaves alone.

A step that starts no earlier makes the next one start no earlier; so of all schedules
that leave each step its time, the one that is computed is the earliest.
-/

namespace TerminalReel

/-! ### Two runs of a computation -/

namespace Number

/-- Two binary64 numbers that are not negative, the first no greater than the second. -/
def Rises (a b : Number) : Prop :=
  a.IsFloat ∧ b.IsFloat ∧ ∃ e f, a.Reads e ∧ b.Reads f ∧ e ≤ f

variable {a b a' b' : Number}

theorem Rises.le (h : a.Rises b) : a.le b = true := by
  obtain ⟨-, -, e, f, ha, hb, le⟩ := h
  exact (ha.le_iff hb).2 le

theorem Rises.refl_left (h : a.Rises b) : a.Rises a := by
  obtain ⟨isFloat, -, e, -, ha, -, -⟩ := h
  exact ⟨isFloat, isFloat, e, e, ha, ha, le_rfl⟩

theorem Rises.trans_le (h : a.Rises a') (hb : b.IsFloat) (le : a'.le b = true) : a.Rises b := by
  obtain ⟨isFloat, -, e, f, ha, ha', e_le⟩ := h
  obtain ⟨f', hb', f_le⟩ := ha'.exists_of_le le
  exact ⟨isFloat, hb, e, f', ha, hb', e_le.trans f_le⟩

theorem Rises.of_measures {v w : ℚ} (ha : a.IsFloat) (hb : b.IsFloat) (hv : a.Measures v)
    (hw : b.Measures w) (le : v ≤ w) : a.Rises b :=
  ⟨ha, hb, v, w, .finite hv, .finite hw, WithTop.coe_le_coe.2 le⟩

theorem Rises.add (h : a.Rises b) (h' : a'.Rises b') :
    ∃ c d, a.add a' = .ok c ∧ b.add b' = .ok d ∧ c.Rises d := by
  obtain ⟨⟨x, rfl⟩, ⟨y, rfl⟩, e, f, ha, hb, le⟩ := h
  obtain ⟨⟨x', rfl⟩, ⟨y', rfl⟩, e', f', ha', hb', le'⟩ := h'
  exact ⟨_, _, add_float x x', add_float y y', isFloat_float _, isFloat_float _, _, _, ha.add ha',
    hb.add hb', rounded_mono (add_le_add le le')⟩

/-- A greater count of a longer duration is no shorter. -/
theorem rises_count_mul {j k : ℕ} {v w : ℚ} (counts : (int k).InRange) (le : j ≤ k)
    (ha : a.IsFloat) (hb : b.IsFloat) (hv : a.Measures v) (hw : b.Measures w) (v_le : v ≤ w) :
    ∃ c d, (int j).mul a = .ok c ∧ (int k).mul b = .ok d ∧ c.Rises d := by
  obtain ⟨x, rfl⟩ := ha
  obtain ⟨y, rfl⟩ := hb
  obtain ⟨m, hm⟩ := inRange_natCast counts le
  obtain ⟨n, hn⟩ := counts
  have fewer := isRounded_mul (measures_operand (measures_natCast j) hm) hv
  have more := isRounded_mul (measures_operand (measures_natCast k) hn) hw
  have counted : nearest j ≤ nearest k := nearest_mono (by exact_mod_cast le)
  have spans : nearest j * v ≤ nearest k * w :=
    mul_le_mul counted v_le hv.nonneg (nearest_nonneg _)
  exact ⟨_, _, mul_float_eq hm, mul_float_eq hn, isFloat_float _, isFloat_float _, _, _,
    fewer.reads, more.reads, rounded_mono (WithTop.coe_le_coe.2 spans)⟩

theorem Rises.max (h : a.Rises b) (h' : a'.Rises b') : (a.max a').Rises (b.max b') := by
  obtain ⟨fa, fb, e, f, ha, hb, le⟩ := h
  obtain ⟨fa', fb', e', f', ha', hb', le'⟩ := h'
  exact ⟨max_of_both fa fa', max_of_both fb fb', _, _, ha.max ha', hb.max hb', sup_le_sup le le'⟩

theorem Rises.le_max_left (h : a.Rises a) (h' : a'.Rises a') : a.le (a.max a') = true := by
  obtain ⟨-, -, e, -, ha, -, -⟩ := h
  obtain ⟨-, -, e', -, ha', -, -⟩ := h'
  exact (ha.le_iff (ha.max ha')).2 le_sup_left

theorem Rises.le_max_right (h : a.Rises a) (h' : a'.Rises a') : a'.le (a.max a') = true := by
  obtain ⟨-, -, e, -, ha, -, -⟩ := h
  obtain ⟨-, -, e', -, ha', -, -⟩ := h'
  exact (ha'.le_iff (ha.max ha')).2 le_sup_right

/-- The greater of two numbers stays below what both stay below. -/
theorem Rises.max_le (h : a.Rises b) (h' : a'.Rises b) : (a.max a').Rises b := by
  obtain ⟨fa, fb, e, f, ha, hb, le⟩ := h
  obtain ⟨fa', -, e', f', ha', hb', le'⟩ := h'
  exact ⟨max_of_both fa fa', fb, _, _, ha.max ha', hb, sup_le le (hb'.unique hb ▸ le')⟩

end Number

/-- Both computations answer, with binary64 numbers that are not negative, the first
with no more than the second. -/
def BothRise (x y : Except ArithmeticError Number) : Prop :=
  ∃ a b, x = .ok a ∧ y = .ok b ∧ a.Rises b

section BothRise

variable {x y : Except ArithmeticError Number}

theorem BothRise.atMost (h : BothRise x y) : AtMost x y := by
  obtain ⟨a, b, hx, hy, rises⟩ := h
  exact ⟨a, b, hx, hy, rises.le⟩

/-- What is computed and then handed on rises if the rest of both runs does. -/
theorem BothRise.bind {f g : Number → Except ArithmeticError Number} (h : BothRise x y)
    (later : ∀ a b, a.Rises b → BothRise (f a) (g b)) : BothRise (x >>= f) (y >>= g) := by
  obtain ⟨a, b, rfl, rfl, rises⟩ := h
  exact later a b rises

end BothRise

theorem Number.Rises.ok {a b : Number} (h : a.Rises b) : BothRise (.ok a) (.ok b) :=
  ⟨a, b, rfl, rfl, h⟩

namespace Schedule

/-- A constant of every schedule rises with itself. -/
theorem rises_const {n : Number} {v : ℚ} (isFloat : n.IsFloat) (h : n.Measures v) : n.Rises n :=
  .of_measures isFloat isFloat h h le_rfl

theorem rises_stepTransition : stepTransition.Rises stepTransition :=
  rises_const (Number.isFloat_float _) measures_stepTransition

theorem rises_lastStepExtra : lastStepExtra.Rises lastStepExtra :=
  rises_const (Number.isFloat_float _) measures_lastStepExtra

theorem rises_trailing (loop : Bool) : (trailing loop).Rises (trailing loop) := by
  obtain ⟨v, trailing, -⟩ := measures_trailing loop
  exact rises_const (isFloat_trailing loop) trailing

end Schedule

/-! ### Two steps in their places -/

namespace PlacedStep

/-- The first step starts no later than the second and asks for no more. -/
structure Rises (p q : PlacedStep) : Prop where
  start : p.start.Rises q.start
  paces : ∃ v w, p.step.timing.perChar.Measures v ∧ q.step.timing.perChar.Measures w ∧ v ≤ w
  perChar_isFloat : p.step.timing.perChar.IsFloat ∧ q.step.timing.perChar.IsFloat
  hold : p.step.timing.hold.Rises q.step.timing.hold
  length_le : p.step.command.length ≤ q.step.command.length
  counts : (Number.int q.step.command.length).InRange
  isLast_eq : p.isLast = q.isLast

namespace Rises

variable {p q : PlacedStep} (h : p.Rises q)

include h

theorem typingEnd : BothRise p.typingEnd q.typingEnd := by
  obtain ⟨v, w, hv, hw, le⟩ := h.paces
  have typing : BothRise p.step.typingDuration q.step.typingDuration :=
    Number.rises_count_mul h.counts h.length_le h.perChar_isFloat.1 h.perChar_isFloat.2 hv hw le
  exact typing.bind fun _ _ span => h.start.add span

theorem finish : BothRise p.finish q.finish :=
  h.typingEnd.bind fun _ _ typed => typed.add h.hold

theorem nextStart : BothRise p.nextStart q.nextStart :=
  h.finish.bind fun _ _ ended => ended.add Schedule.rises_stepTransition

theorem fadeOutAt (loop : Bool) : BothRise (p.fadeOutAt loop) (q.fadeOutAt loop) := by
  refine h.finish.bind fun _ _ ended => ?_
  rw [h.isLast_eq]
  split
  · exact ended.add Schedule.rises_lastStepExtra
  · exact ended.ok

end Rises

end PlacedStep

/-! ### Two lists of steps -/

namespace Step

/-- The timing values of the step are binary64 numbers, finite and not negative, and so is
the number of the characters of its command, once it is converted: a command has fewer
than `2 ^ 1024` of them. -/
structure IsTimed (step : Step) : Prop where
  isFloat : ∀ field : TimingField, (field.value step.timing).IsFloat
  measures : ∀ field : TimingField, ∃ v, (field.value step.timing).Measures v
  counts : (Number.int step.command.length).InRange

/-- The first step asks for no more than the second, of any kind. -/
structure Lesser (s t : Step) : Prop where
  timing : ∀ field : TimingField, (field.value s.timing).le (field.value t.timing) = true
  length : s.command.length ≤ t.command.length

theorem Lesser.refl {step : Step} (h : step.IsTimed) : step.Lesser step where
  timing field := by
    obtain ⟨v, measured⟩ := h.measures field
    exact (measured.le_iff measured).2 le_rfl
  length := le_rfl

/-- A timing value rises from a step to one that it is less than. -/
theorem Lesser.rises {s t : Step} (h : s.Lesser t) (hs : s.IsTimed) (ht : t.IsTimed)
    (field : TimingField) : (field.value s.timing).Rises (field.value t.timing) := by
  obtain ⟨v, hv⟩ := hs.measures field
  obtain ⟨w, hw⟩ := ht.measures field
  exact .of_measures (hs.isFloat field) (ht.isFloat field) hv hw
    ((hv.le_iff hw).1 (h.timing field))

/-- The step in the first place, started at a time. -/
def placedAt (step : Step) (start : Number) : PlacedStep where
  index := 0
  step := { step with timing := { step.timing with start } }
  requestedStart := step.timing.start
  isLast := false

end Step

/-- Steps in places of the same kind rise if they ask for no more and start no later. -/
theorem PlacedStep.rises_of_lesser {s t : Step} (lesser : s.Lesser t) (hs : s.IsTimed)
    (ht : t.IsTimed) {start start' : Number} (starts : start.Rises start') (index : ℕ)
    (isLast : Bool) :
    PlacedStep.Rises
      ⟨index, { s with timing := { s.timing with start } }, s.timing.start, isLast⟩
      ⟨index, { t with timing := { t.timing with start := start' } }, t.timing.start, isLast⟩ := by
  obtain ⟨v, hv⟩ := hs.measures .perChar
  obtain ⟨w, hw⟩ := ht.measures .perChar
  exact {
    start := starts
    paces := ⟨v, w, hv, hw, (hv.le_iff hw).1 (lesser.timing .perChar)⟩
    perChar_isFloat := ⟨hs.isFloat .perChar, ht.isFloat .perChar⟩
    hold := lesser.rises hs ht .hold
    length_le := lesser.length
    counts := ht.counts
    isLast_eq := rfl }

namespace Schedule

/-- Checked steps whose timing values are binary64 numbers are timed. -/
theorem isTimed_of_checkSteps {steps : List Step} (checked : (checkSteps steps).isOk = true)
    (isFloat : ∀ step ∈ steps, ∀ field : TimingField, (field.value step.timing).IsFloat)
    (counts : ∀ step ∈ steps, (Number.int step.command.length).operand.isOk = true) :
    ∀ step ∈ steps, step.IsTimed := by
  intro step mem
  obtain ⟨⟨⟩, passed⟩ := exists_of_isOk checked
  exact ⟨isFloat step mem, isMeasured_of_checkSteps passed step mem,
    exists_of_isOk (counts step mem)⟩

/-- Between binary64 numbers a later step starts at the greater of the two, and that it
is moved can be reported. -/
theorem outcome_startAfter {index : ℕ} {previous : PlacedStep} {requested earliest : Number}
    (next : previous.nextStart = .ok earliest) (requested_isFloat : requested.IsFloat)
    (earliest_isFloat : earliest.IsFloat) :
    (startAfter index (some previous) requested).outcome = .ok (requested.max earliest) := by
  obtain ⟨x, rfl⟩ := requested_isFloat
  obtain ⟨y, rfl⟩ := earliest_isFloat
  rw [startAfter, Number.max]
  simp only [Attempt.outcome_bind, Attempt.outcome_ofExcept, next, ok_bind]
  cases (Number.float x).lt (.float y) <;> rfl

/-- The starts of two runs rise: each is the request or the earliest start, whichever is
later. -/
theorem rises_startAfter (index : ℕ) {previous previous' : Option PlacedStep}
    (before : Option.Rel PlacedStep.Rises previous previous') {requested requested' : Number}
    (h : requested.Rises requested') :
    BothRise (startAfter index previous requested).outcome
      (startAfter index previous' requested').outcome := by
  cases before with
  | none => exact h.ok
  | @some p q before =>
      obtain ⟨earliest, earliest', next, next', rises⟩ := before.nextStart
      rw [outcome_startAfter next h.1 rises.1, outcome_startAfter next' h.2.1 rises.2.1]
      exact (h.max rises).ok

/-- Steps that ask for no more are placed no later. -/
theorem rises_placeFrom {steps steps' : List Step} (timed : ∀ step ∈ steps, step.IsTimed)
    (timed' : ∀ step ∈ steps', step.IsTimed) (lesser : List.Forall₂ Step.Lesser steps steps')
    (index : ℕ) {previous previous' : Option PlacedStep}
    (before : Option.Rel PlacedStep.Rises previous previous') :
    ∃ placed placed', (placeFrom index previous steps).outcome = .ok placed ∧
      (placeFrom index previous' steps').outcome = .ok placed' ∧
      List.Forall₂ PlacedStep.Rises placed placed' := by
  -- Along both lists; that the steps placed last rise is what the next starts need.
  induction lesser generalizing index previous previous' with
  | nil => exact ⟨[], [], rfl, rfl, .nil⟩
  | @cons s t rest rest' first others ih =>
      obtain ⟨hs, timed⟩ := List.forall_mem_cons.1 timed
      obtain ⟨ht, timed'⟩ := List.forall_mem_cons.1 timed'
      obtain ⟨start, start', starts, starts', rises⟩ :=
        rises_startAfter index before (first.rises hs ht .start)
      have last : rest'.isEmpty = rest.isEmpty := by cases others <;> rfl
      have here := PlacedStep.rises_of_lesser first hs ht rises index rest.isEmpty
      obtain ⟨placed, placed', places, places', later⟩ := ih timed timed' (index + 1) (.some here)
      refine ⟨_ :: placed, _ :: placed', ?_, ?_, .cons here later⟩
      · rw [placeFrom]
        simp only [Attempt.outcome_bind, bind_eq_ok]
        exact ⟨start, starts, placed, places, rfl⟩
      · rw [placeFrom, last]
        simp only [Attempt.outcome_bind, bind_eq_ok]
        exact ⟨start', starts', placed', places', rfl⟩

/-! ### Two cycles -/

theorem rises_lastFade (loop : Bool) {placed placed' : List PlacedStep}
    (each : List.Forall₂ PlacedStep.Rises placed placed') {reached reached' : Number}
    (h : reached.Rises reached') :
    BothRise (lastFade loop reached placed) (lastFade loop reached' placed') := by
  induction each generalizing reached reached' with
  | nil => exact h.ok
  | cons first _ ih => exact (first.fadeOutAt loop).bind fun _ _ fade => ih (h.max fade)

theorem rises_totalDuration (loop : Bool) {placed placed' : List PlacedStep}
    (each : List.Forall₂ PlacedStep.Rises placed placed') :
    BothRise (totalDuration placed loop) (totalDuration placed' loop) := by
  have zero : (Number.float .zero).Rises (.float .zero) :=
    rises_const (Number.isFloat_float _) measures_zero
  exact (rises_lastFade loop each zero).bind fun _ _ last => last.add (rises_trailing loop)

/-! ### The earliest schedule -/

/-- Starts at which the steps can be shown: binary64 numbers, each no earlier than the
step asks for and no earlier than the step before it has ended and the transition has
passed. -/
structure Admits (steps : List Step) (starts : List Number) : Prop where
  length_eq : starts.length = steps.length
  isFloat : ∀ start ∈ starts, start.IsFloat
  requested_le : ∀ (k : ℕ) (step : Step) (start : Number), steps[k]? = some step →
    starts[k]? = some start → step.timing.start.le start = true
  next_le : ∀ (k : ℕ) (step : Step) (start next : Number), steps[k]? = some step →
    starts[k]? = some start → starts[k + 1]? = some next →
    AtMost (step.placedAt start).nextStart (.ok next)

/-- When the next step may start depends on the step and on its start alone. -/
theorem Follows.nextStart_eq {previous : Option PlacedStep} {index : ℕ} {isLast : Bool}
    {step : Step} {p : PlacedStep} (h : Follows previous index isLast step p) :
    p.nextStart = (step.placedAt p.start).nextStart :=
  (congrArg PlacedStep.nextStart h.placed).trans rfl

section Earliest

variable {steps : List Step} {placed : List PlacedStep} {starts : List Number} {k : ℕ}
  {p q : PlacedStep} (timed : ∀ step ∈ steps, step.IsTimed)
  (places : (place steps).outcome = .ok placed)

include timed places

/-- A schedule rises from itself to itself: all of its times are binary64 numbers. -/
theorem rises_self (mem : p ∈ placed) : p.Rises p := by
  have lesser : List.Forall₂ Step.Lesser steps steps :=
    List.forall₂_same.2 fun step mem => .refl (timed step mem)
  obtain ⟨placed', placed'', places', places'', rises⟩ :=
    rises_placeFrom timed timed lesser 0 .none
  obtain rfl : placed = placed' := Except.ok.inj (places.symm.trans places')
  obtain rfl : placed = placed'' := Except.ok.inj (places.symm.trans places'')
  exact List.forall₂_same.1 rises p mem

/-- A later step starts at the greater of its request and the earliest start that the
step before it leaves. -/
theorem exists_earliest (at_k : placed[k]? = some p) (at_next : placed[k + 1]? = some q) :
    ∃ step next earliest, steps[k]? = some step ∧ steps[k + 1]? = some next ∧
      (step.placedAt p.start).nextStart = .ok earliest ∧ earliest.Rises earliest ∧
      q.start = next.timing.start.max earliest := by
  obtain ⟨step, at_step, follows⟩ := place_follows places at_k
  obtain ⟨next, at_next_step, next_follows⟩ := place_follows places at_next
  have start := next_follows.start
  rw [stepBefore, at_k] at start
  obtain ⟨earliest, leaves, start⟩ := startAfter_some start
  obtain ⟨a, b, same, -, rises⟩ := (rises_self timed places (List.mem_of_getElem? at_k)).nextStart
  obtain rfl : earliest = a := Except.ok.inj (leaves.symm.trans same)
  exact ⟨step, next, earliest, at_step, at_next_step, follows.nextStart_eq.symm.trans leaves,
    rises.refl_left, start⟩

/-- What is computed is a schedule. -/
theorem admits_starts : Admits steps (placed.map PlacedStep.start) := by
  obtain ⟨length, -⟩ := placeFrom_follows places
  have requests {step : Step} {k : ℕ} (at_step : steps[k]? = some step) :
      step.timing.start.Rises step.timing.start := by
    have timed := timed step (List.mem_of_getElem? at_step)
    exact (Step.Lesser.refl timed).rises timed timed .start
  refine ⟨by rw [List.length_map, length], ?_, ?_, ?_⟩
  · exact List.forall_mem_map.2 fun p mem => (rises_self timed places mem).start.1
  · intro k step start at_step at_start
    rw [List.getElem?_map, Option.map_eq_some_iff] at at_start
    obtain ⟨p, at_p, rfl⟩ := at_start
    -- The first step starts when it asks to; a later one at the greater of two times.
    cases k with
    | zero =>
        obtain ⟨first, at_first, follows⟩ := place_follows places at_p
        obtain rfl : first = step := Option.some.inj (at_first.symm.trans at_step)
        rw [startAfter_none follows.start]
        exact (requests at_step).le
    | succ k =>
        have within := (List.getElem?_eq_some_iff.1 at_p).1
        have at_before : placed[k]? = some placed[k] := List.getElem?_eq_getElem (by omega)
        obtain ⟨-, next, earliest, -, at_next, -, rises, start⟩ :=
          exists_earliest timed places at_before at_p
        obtain rfl : next = step := Option.some.inj (at_next.symm.trans at_step)
        rw [start]
        exact (requests at_step).le_max_left rises
  · intro k step start next at_step at_start at_next
    rw [List.getElem?_map, Option.map_eq_some_iff] at at_start at_next
    obtain ⟨p, at_p, rfl⟩ := at_start
    obtain ⟨q, at_q, rfl⟩ := at_next
    obtain ⟨step', next, earliest, at_step', at_next, leaves, rises, start⟩ :=
      exists_earliest timed places at_p at_q
    obtain rfl : step' = step := Option.some.inj (at_step'.symm.trans at_step)
    refine ⟨earliest, q.start, leaves, rfl, ?_⟩
    rw [start]
    exact (requests at_next).le_max_right rises

/-- No schedule starts a step earlier: a later start of one step leaves a later start to
the next. -/
theorem rises_of_admits (admits : Admits steps starts) {start : Number}
    (at_k : placed[k]? = some p) (at_start : starts[k]? = some start) : p.start.Rises start := by
  have isFloat := admits.isFloat start (List.mem_of_getElem? at_start)
  induction k generalizing p start with
  | zero =>
      obtain ⟨step, at_step, follows⟩ := place_follows places at_k
      have requested := admits.requested_le 0 step start at_step at_start
      have self := (rises_self timed places (List.mem_of_getElem? at_k)).start
      have same := startAfter_none follows.start
      exact self.trans_le isFloat (same ▸ requested)
  | succ k ih =>
      have within := (List.getElem?_eq_some_iff.1 at_k).1
      have start_within := (List.getElem?_eq_some_iff.1 at_start).1
      have at_before : placed[k]? = some placed[k] := List.getElem?_eq_getElem (by omega)
      have at_start_before : starts[k]? = some starts[k] := List.getElem?_eq_getElem (by omega)
      obtain ⟨step, next, earliest, at_step, at_next, leaves, -, given⟩ :=
        exists_earliest timed places at_before at_k
      have hs := timed step (List.mem_of_getElem? at_step)
      have hn := timed next (List.mem_of_getElem? at_next)
      -- The step before starts no later than it is allowed to, so it leaves no later start.
      have before := ih at_before at_start_before (admits.isFloat _ (List.getElem_mem _))
      obtain ⟨a, b, leaves', leaves'', rises⟩ :=
        (PlacedStep.rises_of_lesser (.refl hs) hs hs before 0 false).nextStart
      obtain rfl : earliest = a := Except.ok.inj (leaves.symm.trans leaves')
      obtain ⟨b', _, same, ⟨⟩, b_le⟩ :=
        admits.next_le k step _ start at_step at_start_before at_start
      obtain rfl : b = b' := Except.ok.inj (leaves''.symm.trans same)
      have requested := ((Step.Lesser.refl hn).rises hn hn .start).trans_le isFloat
        (admits.requested_le (k + 1) next start at_next at_start)
      rw [given]
      exact requested.max_le (rises.trans_le isFloat b_le)

end Earliest

/-- Steps that ask for no more, position by position, are shown no later: no step of the
first list starts, stops typing, ends or begins to disappear after its counterpart, and
its cycle is no longer. The starts that are computed are the earliest ones: they leave
every step its request and its time after the step before it, and no other binary64
starts that do so lie before them. -/
theorem place_rises {steps steps' : List Step} (timed : ∀ step ∈ steps, step.IsTimed)
    (timed' : ∀ step ∈ steps', step.IsTimed) (lesser : List.Forall₂ Step.Lesser steps steps') :
    ∃ placed placed', (place steps).outcome = .ok placed ∧
      (place steps').outcome = .ok placed' ∧
      List.Forall₂ (fun p q => AtMost (.ok p.start) (.ok q.start) ∧
        AtMost p.typingEnd q.typingEnd ∧ AtMost p.finish q.finish ∧
        ∀ loop, AtMost (p.fadeOutAt loop) (q.fadeOutAt loop)) placed placed' ∧
      (∀ loop, AtMost (totalDuration placed loop) (totalDuration placed' loop)) ∧
      Admits steps (placed.map PlacedStep.start) ∧
      ∀ starts, Admits steps starts → ∀ (k : ℕ) (p : PlacedStep) (start : Number),
        placed[k]? = some p → starts[k]? = some start → p.start.le start = true := by
  obtain ⟨placed, placed', places, places', each⟩ := rises_placeFrom timed timed' lesser 0 .none
  refine ⟨placed, placed', places, places', ?_, ?_, admits_starts timed places, ?_⟩
  · refine each.imp fun p q rises => ?_
    exact ⟨rises.start.ok.atMost, rises.typingEnd.atMost, rises.finish.atMost,
      fun loop => (rises.fadeOutAt loop).atMost⟩
  · intro loop
    exact (rises_totalDuration loop each).atMost
  · intro starts admits k p start at_k at_start
    exact (rises_of_admits timed places admits at_k at_start).le

/-- Two steps, the second of which asks to start while the first is typed. -/
def hastySteps : List Step :=
  [{ command := "ls", timing :=
      { start := .float .zero, perChar := .float (.ofFraction 1 2),
        hold := .float (.ofFraction 1 1) } },
    { command := "cd", timing :=
      { start := .float (.ofFraction 1 2), perChar := .float (.ofFraction 1 4),
        hold := .float (.ofFraction 1 1) } }]

/-- Two steps that take their time, the second of which need not be moved. -/
def patientSteps : List Step :=
  [{ command := "ls -la", timing :=
      { start := .float (.ofFraction 1 4), perChar := .float (.ofFraction 1 2),
        hold := .float (.ofFraction 1 1) } },
    { command := "cd ..", timing :=
      { start := .float (.ofFraction 20 1), perChar := .float (.ofFraction 1 4),
        hold := .float (.ofFraction 3 2) } }]

theorem place_rises_hasty : (∀ step ∈ hastySteps, step.IsTimed) ∧
    (∀ step ∈ patientSteps, step.IsTimed) ∧ List.Forall₂ Step.Lesser hastySteps patientSteps ∧
    ∃ placed placed', (place hastySteps).outcome = .ok placed ∧
      (place patientSteps).outcome = .ok placed' ∧
      ∀ loop, AtMost (totalDuration placed loop) (totalDuration placed' loop) := by
  have lesser : List.Forall₂ Step.Lesser hastySteps patientSteps := by
    refine .cons ⟨fun field => ?_, by decide⟩ (.cons ⟨fun field => ?_, by decide⟩ .nil)
    · cases field <;> decide +kernel
    · cases field <;> decide +kernel
  have timed : ∀ step ∈ hastySteps ++ patientSteps, step.IsTimed := by
    refine isTimed_of_checkSteps (by decide +kernel) ?_ (by decide +kernel)
    simp only [hastySteps, patientSteps, List.cons_append, List.nil_append, List.forall_mem_cons]
    refine ⟨?_, ?_, ?_, ?_, List.forall_mem_nil _⟩
    all_goals
      intro field
      cases field <;> exact Number.isFloat_float _
  obtain ⟨hasty, patient⟩ := List.forall_mem_append.1 timed
  obtain ⟨placed, placed', places, places', -, totals, -⟩ := place_rises hasty patient lesser
  exact ⟨hasty, patient, lesser, placed, placed', places, places', totals⟩

end Schedule

end TerminalReel
