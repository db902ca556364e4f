import TerminalReel.Animation.Timeline
import TerminalReel.Proofs.Schedule.Order
import TerminalReel.Proofs.Schedule.Settled
/-!
# TerminalReel.Proofs.Animation.Settled

Compiling steps **that are placed already**.

What the compiler makes of a placed step depends on the start that the step was
given and not on the one it asked for. So a configuration whose steps carry the
starts of its schedule compiles to the same animation, in which every step has
what it asks for.
-/

namespace TerminalReel

/-- The scene of a step that asks for the start it was given. -/
def Scene.settled (scene : Scene) : Scene := { scene with placed := scene.placed.settled }

/-- The animation, its steps asking for the starts they were given. -/
def Timeline.settled (timeline : Timeline) : Timeline :=
  { timeline with scenes := timeline.scenes.map Scene.settled }

namespace Timeline

variable {cycle : Cycle} {charWidth : Number}

/-! ### The compiler does not look at what was asked for -/

theorem appearAfter_settled (previous : Option PlacedStep) :
    appearAfter (previous.map PlacedStep.settled) = appearAfter previous := by
  cases previous <;> rfl

theorem typeFrom_settled (p : PlacedStep) (index : ℕ) (previous : Option Number)
    (chars : List CodePoint) :
    typeFrom cycle p.settled index previous chars = typeFrom cycle p index previous chars := by
  induction chars generalizing index previous with
  | nil => rfl
  | cons char rest ih =>
      simp only [typeFrom, ih]
      rfl

theorem typedCommand_settled (p : PlacedStep) (appearAt : Number) (fadeOutAt : Option Number) :
    typedCommand cycle p.settled appearAt fadeOutAt = typedCommand cycle p appearAt fadeOutAt := by
  simp only [typedCommand, typedChars, typeFrom_settled]
  rfl

theorem sceneOf_settled (previous : Option PlacedStep) (p : PlacedStep) :
    sceneOf cycle charWidth (previous.map PlacedStep.settled) p.settled
      = Scene.settled <$> sceneOf cycle charWidth previous p := by
  have stays_settled : stays cycle p.settled = stays cycle p := rfl
  cases printed : p.step.lines.isEmpty <;> cases stays : stays cycle p <;>
    simp only [sceneOf, appearAfter_settled, typedCommand_settled, stays_settled,
      PlacedStep.step_settled, printed, stays, Bool.false_eq_true, if_false, if_true, map_bind,
      map_pure] <;>
    rfl

theorem scenesAfter_settled (previous : Option PlacedStep) (placed : List PlacedStep) :
    scenesAfter cycle charWidth (previous.map PlacedStep.settled) (placed.map PlacedStep.settled)
      = List.map Scene.settled <$> scenesAfter cycle charWidth previous placed := by
  induction placed generalizing previous with
  | nil => rfl
  | cons p rest ih =>
      have later := ih (some p)
      rw [Option.map_some] at later
      simp only [List.map_cons, scenesAfter, sceneOf_settled, later, map_bind, bind_map_left,
        map_pure]

/-! ### Whole animations -/

/-- How compiling ends is said by the placed steps alone. -/
theorem compile_of_place {config : Config} {forceLoop : Bool} {placed : List PlacedStep}
    (checked : checkSteps config.steps = .ok ())
    (places : (Schedule.place config.steps).outcome = .ok placed) :
    (compile config forceLoop).outcome = (do
      let loop := forceLoop || config.loop
      let total ← calculate (Schedule.totalDuration placed loop)
      let scenes ← scenesAfter ⟨total, loop⟩ config.charWidth none placed
      return { total, loop, scenes }) := by
  simp only [compile, Attempt.outcome_bind, Attempt.outcome_ofExcept, Attempt.outcome_mapError,
    Attempt.outcome_log, Attempt.outcome_pure, checked, places]
  rfl

/-- Checked steps and the same steps once they are placed compile alike. -/
theorem compile_settled {config : Config} {forceLoop : Bool} {placed : List PlacedStep}
    (checked : checkSteps config.steps = .ok ())
    (places : (Schedule.place config.steps).outcome = .ok placed)
    (finite : ∀ p ∈ placed, p.start.isFinite = true) :
    (compile { config with steps := placed.map PlacedStep.step } forceLoop).outcome
      = settled <$> (compile config forceLoop).outcome := by
  have again := Schedule.checkSteps_settled checked places finite
  have places_again := congrArg Attempt.outcome (Schedule.place_settled places)
  rw [compile_of_place again places_again, compile_of_place checked places]
  simp only [Schedule.totalDuration_settled, map_bind, map_pure]
  refine bind_congr fun total => ?_
  have scenes (cycle : Cycle) := @scenesAfter_settled cycle config.charWidth none placed
  rw [Option.map_none] at scenes
  rw [scenes, bind_map_left]
  rfl

/-- Placing is a projection. A placed step is the step itself with the start it was
given, the placed steps stay where they are when they are placed again, and unless a
start is endless they compile to what the steps compile to. -/
theorem place_projects {steps : List Step} {placed : List PlacedStep}
    (places : (Schedule.place steps).outcome = .ok placed) :
    placed.length = steps.length ∧
      (∀ k step, steps[k]? = some step → ∃ p, placed[k]? = some p ∧ p.index = k ∧
        (p.isLast = true ↔ k + 1 = steps.length) ∧ p.requestedStart = step.timing.start ∧
        p.step = { step with timing := { step.timing with start := p.start } }) ∧
      Schedule.place (placed.map PlacedStep.step) = pure (placed.map PlacedStep.settled) ∧
      ∀ config forceLoop, config.steps = steps → checkSteps steps = .ok () →
        (∀ p ∈ placed, p.start.isFinite = true) →
        (compile { config with steps := placed.map PlacedStep.step } forceLoop).outcome
          = settled <$> (compile config forceLoop).outcome := by
  obtain ⟨length, follows⟩ := Schedule.placeFrom_follows places
  refine ⟨length, fun k step at_k => ?_, Schedule.place_settled places, ?_⟩
  · obtain ⟨p, at_p, follows⟩ := follows k step at_k
    refine ⟨p, at_p, ?_, ?_, follows.requestedStart_eq, follows.step_eq⟩
    · rw [follows.index_eq, Nat.zero_add]
    · rw [follows.isLast_eq, decide_eq_true_iff]
  · rintro config forceLoop rfl checked finite
    exact compile_settled checked places finite

theorem place_projects_overlapping : let config : Config := { steps := Schedule.overlapping }
    Schedule.place (Schedule.separated.map PlacedStep.step)
        = pure (Schedule.separated.map PlacedStep.settled) ∧
      (compile { config with steps := Schedule.separated.map PlacedStep.step } true).outcome
        = settled <$> (compile config true).outcome := by
  have places : (Schedule.place Schedule.overlapping).outcome = .ok Schedule.separated := by
    decide +kernel
  obtain ⟨-, -, again, alike⟩ := place_projects places
  refine ⟨again, alike _ true rfl ?_ (by decide +kernel)⟩
  obtain ⟨⟨⟩, ok⟩ := exists_of_isOk (x := checkSteps Schedule.overlapping) (by decide +kernel)
  exact ok

end Timeline

end TerminalReel
