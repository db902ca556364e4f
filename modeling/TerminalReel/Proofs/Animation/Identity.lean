import TerminalReel.Proofs.Animation.Compile
/-!
# TerminalReel.Proofs.Animation.Identity

**Which part is which**: the parts of an animation in order, and what each of them
plays.

The scenes of an animation stand for its steps one by one (`shows_of_compile`), so
whatever is gathered from the scenes is a walk over the steps (`eachStep`). Each
part plays keyframes under its own name by a rule for its own class (`Plays`).
-/

namespace TerminalReel

/-- What a function makes of the steps from an index on, each with its index and
whether its command is typed: the last step of an animation that plays once has no
command. -/
def eachStep {σ α : Type} (loop : Bool) (f : ℕ → σ → Bool → List α) : ℕ → List σ → List α
  | _, [] => []
  | index, step :: rest => f index step (loop || !rest.isEmpty) ++ eachStep loop f (index + 1) rest

/-- The parts of the step at an index: its lines, if it has any, and its command, its
prompt and its characters, if the command is typed. -/
def Step.parts (index : ℕ) (step : Step) (typed : Bool) : List Part :=
  (if step.lines.isEmpty then [] else [⟨.lines, index⟩]) ++
    if typed then
      ⟨.command, index⟩ :: ⟨.prompt, index⟩ ::
        (List.range step.command.length).map fun i : ℕ => ⟨.char (some i), index⟩
    else []

/-- What a walk over steps holds comes from one of them, at an index of its own. -/
theorem exists_of_mem_eachStep {σ α : Type} {loop : Bool} {f : ℕ → σ → Bool → List α} {index : ℕ}
    {steps : List σ} {a : α} (mem : a ∈ eachStep loop f index steps) :
    ∃ k step typed, index ≤ k ∧ step ∈ steps ∧ a ∈ f k step typed := by
  induction steps generalizing index with
  | nil => cases mem
  | cons step rest ih =>
      rcases List.mem_append.1 mem with here | there
      · exact ⟨index, step, _, le_rfl, List.mem_cons_self, here⟩
      · obtain ⟨k, step', typed, le, in_rest, mem⟩ := ih there
        exact ⟨k, step', typed, Nat.le_of_succ_le le, List.mem_cons_of_mem step in_rest, mem⟩

theorem Step.step_of_mem_parts {index : ℕ} {step : Step} {typed : Bool} {part : Part}
    (mem : part ∈ step.parts index typed) : part.step = index := by
  rcases List.mem_append.1 mem with mem | mem <;> split at mem
  · cases mem
  · rw [List.mem_singleton.1 mem]
  · simp only [List.mem_cons, List.mem_map] at mem
    obtain rfl | rfl | ⟨_, _, rfl⟩ := mem <;> rfl
  · cases mem

theorem Step.nodup_parts (index : ℕ) (step : Step) (typed : Bool) :
    (step.parts index typed).Nodup := by
  have characters : ((List.range step.command.length).map fun i : ℕ =>
      (⟨.char (some i), index⟩ : Part)).Nodup :=
    List.nodup_range.map fun i j same => by simpa using same
  refine List.Nodup.append ?_ ?_ ?_
  · split <;> simp
  · split
    · simp [characters]
    · exact List.nodup_nil
  · -- The kinds of the two groups of parts are different.
    intro part in_lines in_command
    split at in_lines
    · cases in_lines
    · rw [List.mem_singleton.1 in_lines] at in_command
      split at in_command
      · simp at in_command
      · cases in_command

/-- No part comes twice. -/
theorem nodup_parts (loop : Bool) (index : ℕ) (steps : List Step) :
    (eachStep loop Step.parts index steps).Nodup := by
  induction steps generalizing index with
  | nil => exact List.nodup_nil
  | cons step rest ih =>
      refine (step.nodup_parts index _).append (ih (index + 1)) fun part here there => ?_
      obtain ⟨k, _, _, later, -, mem⟩ := exists_of_mem_eachStep there
      have := Step.step_of_mem_parts here
      have := Step.step_of_mem_parts mem
      omega

/-- How the opacity of a part changes between keyframes: a character's at once, that
of every other part steadily. -/
def Part.timingFunction (part : Part) : String :=
  match part.kind with
  | .char _ => "steps(1, end)"
  | _ => "linear"

/-- The part plays keyframes of its name by a rule of its own. -/
structure AnimatedPart.Plays (animated : AnimatedPart) (cycle : Timeline.Cycle) : Prop where
  name : animated.track.name = animated.part.keyframesName
  rule : Timeline.ruleOf cycle animated.part animated.part.timingFunction = .ok animated.rule

/-- The typed command is that of the step at an index. -/
structure TypedCommand.Shows (typed : TypedCommand) (index : ℕ) (step : Step) : Prop where
  prompt : typed.prompt.part = ⟨.prompt, index⟩
  command : typed.command.part = ⟨.command, index⟩
  chars : typed.characters.map (·.char) = step.command.points
  parts : typed.characters.map (·.animated.part)
    = (List.range step.command.length).map fun i : ℕ => ⟨.char (some i), index⟩

/-- The scene is that of the step at an index. -/
structure Scene.Shows (scene : Scene) (charWidth : Number) (index : ℕ) (step : Step)
    (typed : Bool) : Prop where
  lines_eq : scene.placed.step.lines = step.lines
  prompt_eq : scene.placed.step.prompt = step.prompt
  promptWidth : Layout.promptWidthOf step.prompt charWidth = .ok scene.layout.promptWidth
  lines : if step.lines.isEmpty then scene.lines = none
    else ∃ animated, scene.lines = some animated ∧ animated.part = ⟨.lines, index⟩
  typed : if typed then ∃ command, scene.typed = some command ∧ command.Shows index step
    else scene.typed = none

/-- The scenes are those of the steps from an index on. -/
inductive ShowSteps (charWidth : Number) (loop : Bool) : ℕ → List Scene → List Step → Prop
  | nil (index : ℕ) : ShowSteps charWidth loop index [] []
  | cons {index : ℕ} {scene : Scene} {scenes : List Scene} {step : Step} {steps : List Step} :
      scene.Shows charWidth index step (loop || !steps.isEmpty) →
        ShowSteps charWidth loop (index + 1) scenes steps →
        ShowSteps charWidth loop index (scene :: scenes) (step :: steps)

namespace Timeline

variable {cycle : Cycle} {part : Part} {placed : PlacedStep} {previous : Option PlacedStep}
  {appearAt charWidth : Number} {fadeOutAt : Option Number}

/-! ### What parts play -/

theorem name_of_ofEvents {initial : Int} {events : List Keyframe} {track : Track}
    (h : Track.ofEvents part initial events = .ok track) : track.name = part.keyframesName := by
  obtain ⟨frames, -, e⟩ := bind_eq_ok.1 h
  obtain rfl := pure_eq_ok.1 e
  rfl

/-- An animated part plays for the length of the cycle, under the name of its own keyframes.
-/
theorem plays_of_animate {track : Track} {animated : AnimatedPart}
    (h : animate cycle part track = .ok animated) (name : track.name = part.keyframesName)
    (steady : part.timingFunction = "linear") : animated.Plays cycle := by
  obtain ⟨rule, ruled, e⟩ := bind_eq_ok.1 h
  obtain rfl := pure_eq_ok.1 e
  exact ⟨name, steady ▸ ruled⟩

theorem plays_of_animateFading {group : AnimatedPart}
    (h : animateFading cycle part appearAt fadeOutAt = .ok group)
    (steady : part.timingFunction = "linear") : group.Plays cycle := by
  simp only [animateFading, bind_eq_ok, calculate, arrange, mapError_eq_ok] at h
  obtain ⟨events, -, track, built, animates⟩ := h
  exact plays_of_animate animates (name_of_ofEvents built) steady

/-! ### Typing -/

/-- The characters are those of the command, each a part with its own index. -/
theorem shows_of_typeFrom {points : List CodePoint} {index : ℕ} {last : Option Number}
    {typed : List TypedChar} (h : typeFrom cycle placed index last points = .ok typed) :
    typed.map (·.char) = points ∧
      typed.map (·.animated.part) = (List.range' index points.length).map
        (fun i : ℕ => ⟨.char (some i), placed.index⟩) ∧
      ∀ char ∈ typed, char.animated.Plays cycle := by
  induction points generalizing index last typed with
  | nil =>
      obtain rfl := Except.ok.inj h
      exact ⟨rfl, rfl, by simp⟩
  | cons point rest ih =>
      simp only [typeFrom, bind_eq_ok, calculate, arrange, mapError_eq_ok, pure_eq_ok] at h
      obtain ⟨time, -, percent, -, separated, -, track, built, rule, ruled, others, types, rfl⟩ := h
      obtain ⟨chars, parts, plays⟩ := ih types
      refine ⟨by simp [chars], by simp [parts, List.range'_succ], ?_⟩
      exact List.forall_mem_cons.2 ⟨⟨name_of_ofEvents built, ruled⟩, plays⟩

/-- The typed command of a step shows its prompt and its characters in order. -/
theorem shows_of_typedCommand {typed : TypedCommand} {step : Step}
    (h : typedCommand cycle placed appearAt fadeOutAt = .ok typed)
    (same : placed.step.command = step.command) :
    typed.Shows placed.index step ∧ typed.command.Plays cycle ∧ typed.prompt.Plays cycle ∧
      ∀ char ∈ typed.characters, char.animated.Plays cycle := by
  simp only [typedCommand, bind_eq_ok, arrange, mapError_eq_ok, pure_eq_ok] at h
  obtain ⟨track, built, prompt, animates, command, fading, characters, types, rfl⟩ := h
  obtain ⟨chars, parts, plays⟩ := shows_of_typeFrom types
  rw [same, ← List.range_eq_range'] at parts
  rw [same] at chars
  exact ⟨⟨(animate_eq_ok animates).1, (animateFading_eq_ok fading).1, chars, parts⟩,
    plays_of_animateFading fading rfl, plays_of_animate animates (name_of_ofEvents built) rfl,
    plays⟩

/-! ### Scenes -/

variable {scene : Scene}

/-- The scene of a placed step shows what the step it was placed for says. -/
theorem shows_of_sceneOf {index : ℕ} {isLast : Bool} {step : Step}
    (h : sceneOf cycle charWidth previous placed = .ok scene)
    (follows : Schedule.Follows previous index isLast step placed) :
    scene.Shows charWidth index step (cycle.loop || !isLast) := by
  obtain ⟨placed_eq, laid, -, -, prints, types⟩ := sceneOf_eq_ok_iff.1 h
  have lines_eq : placed.step.lines = step.lines := congrArg (·.step.lines) follows.placed
  have prompt_eq : placed.step.prompt = step.prompt := congrArg (·.step.prompt) follows.placed
  have command_eq : placed.step.command = step.command := congrArg (·.step.command) follows.placed
  have index_eq : placed.index = index := congrArg PlacedStep.index follows.placed
  have typed_eq : (cycle.loop || !isLast) = !stays cycle placed := by
    rw [stays, follows.isLast_eq, Bool.not_and, Bool.not_not, Bool.or_comm]
  rw [index_eq, lines_eq] at prints
  refine ⟨placed_eq ▸ lines_eq, placed_eq ▸ prompt_eq, ?_, ?_, ?_⟩
  · simp only [Layout.ofStep, bind_eq_ok, pure_eq_ok] at laid
    obtain ⟨width, measured, _, -, _, -, e⟩ := laid
    rw [← prompt_eq, ← e]
    exact measured
  · by_cases empty : step.lines.isEmpty = true
    · rw [if_pos empty] at prints ⊢
      exact prints
    · rw [if_neg empty] at prints ⊢
      obtain ⟨lines, some_lines, fading⟩ := prints
      exact ⟨lines, some_lines, (animateFading_eq_ok fading).1⟩
  · rw [typed_eq]
    cases last : stays cycle placed with
    | true =>
        rw [last] at types
        exact types
    | false =>
        rw [last] at types
        obtain ⟨typed, some_typed, command⟩ := types
        exact ⟨typed, some_typed, index_eq ▸ (shows_of_typedCommand command command_eq).1⟩

/-- Every part of a scene plays keyframes of its own name. -/
theorem plays_of_sceneOf (h : sceneOf cycle charWidth previous placed = .ok scene) :
    ∀ part ∈ scene.parts, part.Plays cycle := by
  intro part mem
  rcases List.mem_append.1 mem with in_lines | in_typed
  · exact plays_of_animateFading (animateFading_of_lines h (Option.mem_toList.1 in_lines)) rfl
  · cases types : scene.typed with
    | none =>
        rw [types] at in_typed
        cases in_typed
    | some typed =>
        rw [types] at in_typed
        obtain ⟨-, command, prompt, characters⟩ :=
          shows_of_typedCommand (typedCommand_of_typed h types) rfl
        rcases List.mem_cons.1 in_typed with rfl | in_typed
        · exact command
        · rcases List.mem_cons.1 in_typed with rfl | in_typed
          · exact prompt
          · obtain ⟨char, in_characters, rfl⟩ := List.mem_map.1 in_typed
            exact characters char in_characters

/-- The parts of a scene are those of its step. -/
theorem parts_of_shows {index : ℕ} {step : Step} {typed : Bool}
    (shows_step : scene.Shows charWidth index step typed) :
    scene.parts.map (·.part) = step.parts index typed := by
  have lines := shows_step.lines
  have command := shows_step.typed
  rw [Scene.parts, List.map_append, Step.parts]
  congr 1
  · by_cases empty : step.lines.isEmpty = true
    · rw [if_pos empty] at lines ⊢
      simp [lines]
    · rw [if_neg empty] at lines ⊢
      obtain ⟨animated, some_lines, part⟩ := lines
      simp [some_lines, part]
  · cases typed with
    | false =>
        have none : scene.typed = none := command
        simp [none]
    | true =>
        obtain ⟨typed, some_typed, shown⟩ := command
        rw [some_typed, if_pos rfl]
        simp [shown.command, shown.prompt, ← shown.parts]

/-! ### Whole animations -/

variable {config : Config} {forceLoop : Bool} {timeline : Timeline}

/-- The scenes of an animation are those of its steps, in order; all but the last one
of an animation that plays once are typed. -/
theorem shows_of_compile (h : (compile config forceLoop).outcome = .ok timeline) :
    timeline.scenes.length = config.steps.length ∧
      ∀ k (scene : Scene) (step : Step), timeline.scenes[k]? = some scene →
        config.steps[k]? = some step →
        scene.Shows config.charWidth k step
          (timeline.loop || decide (k + 1 < config.steps.length)) := by
  obtain ⟨placed, -, -, places, -, compiled⟩ := compile_eq_ok h
  obtain ⟨length, each⟩ := scenesAfter_eq_ok compiled
  have placed_length : placed.length = config.steps.length := (Schedule.placeFrom_follows places).1
  refine ⟨length.trans placed_length, fun k scene step at_scene at_step => ?_⟩
  obtain ⟨p, at_p, scene_ok⟩ := each k scene at_scene
  obtain ⟨step', at_step', follows⟩ := Schedule.place_follows places at_p
  obtain rfl : step = step' := Option.some.inj (at_step.symm.trans at_step')
  have within := (List.getElem?_eq_some_iff.1 at_p).1
  have typed : (!decide (k + 1 = placed.length)) = decide (k + 1 < config.steps.length) := by
    rw [← placed_length, ← decide_not]
    exact decide_eq_decide.2 (by omega)
  exact typed ▸ shows_of_sceneOf scene_ok follows

/-- Every part of a timeline plays for as long as the timeline does. -/
theorem plays_of_compile (h : (compile config forceLoop).outcome = .ok timeline) :
    ∀ part ∈ timeline.parts, part.Plays ⟨timeline.total, timeline.loop⟩ := by
  obtain ⟨placed, -, -, -, -, compiled⟩ := compile_eq_ok h
  obtain ⟨-, each⟩ := scenesAfter_eq_ok compiled
  intro part mem
  obtain ⟨scene, in_scenes, in_scene⟩ := List.mem_flatMap.1 mem
  obtain ⟨k, at_k⟩ := List.getElem?_of_mem in_scenes
  obtain ⟨p, -, scene_ok⟩ := each k scene at_k
  exact plays_of_sceneOf scene_ok part in_scene

theorem showSteps_of_forall {loop : Bool} {scenes : List Scene} {steps : List Step} {index : ℕ}
    (length : scenes.length = steps.length)
    (each : ∀ k (scene : Scene) (step : Step), scenes[k]? = some scene → steps[k]? = some step →
      scene.Shows charWidth (index + k) step (loop || decide (k + 1 < steps.length))) :
    ShowSteps charWidth loop index scenes steps := by
  induction steps generalizing scenes index with
  | nil =>
      obtain rfl := List.length_eq_zero_iff.1 length
      exact .nil index
  | cons first rest ih =>
      cases scenes with
      | nil => cases length
      | cons scene scenes =>
          have more : decide (0 + 1 < (first :: rest).length) = !rest.isEmpty := by
            cases rest <;> simp
          refine .cons (more ▸ each 0 scene first rfl rfl) (ih (Nat.succ.inj length) ?_)
          intro k scene step at_scene at_step
          have same : decide (k + 1 + 1 < (first :: rest).length) = decide (k + 1 < rest.length) :=
            decide_eq_decide.2 Nat.succ_lt_succ_iff
          have later := each (k + 1) scene step at_scene at_step
          rwa [same, ← Nat.add_assoc, Nat.add_right_comm] at later

/-- The scenes of an animation are those of its steps. -/
theorem showSteps_of_compile (h : (compile config forceLoop).outcome = .ok timeline) :
    ShowSteps config.charWidth timeline.loop 0 timeline.scenes config.steps := by
  obtain ⟨length, each⟩ := shows_of_compile h
  refine showSteps_of_forall length fun k scene step at_scene at_step => ?_
  rw [Nat.zero_add]
  exact each k scene step at_scene at_step

/-- What is gathered from scenes that each give what their steps do is a walk over the
steps. -/
theorem flatMap_eq_eachStep {α : Type} {loop : Bool} {g : Scene → List α}
    {f : ℕ → Step → Bool → List α} {scenes : List Scene} {steps : List Step} {index : ℕ}
    (shown : ShowSteps charWidth loop index scenes steps)
    (each : ∀ (scene : Scene) index step typed, scene.Shows charWidth index step typed →
      g scene = f index step typed) :
    scenes.flatMap g = eachStep loop f index steps := by
  induction shown with
  | nil index => rfl
  | cons first later ih => rw [List.flatMap_cons, eachStep, ih, each _ _ _ _ first]

/-- The parts of an animation are those of its steps, in order. -/
theorem parts_of_compile (h : (compile config forceLoop).outcome = .ok timeline) :
    timeline.parts.map (·.part) = eachStep timeline.loop Step.parts 0 config.steps := by
  rw [Timeline.parts, List.map_flatMap]
  exact flatMap_eq_eachStep (showSteps_of_compile h) fun _ _ _ _ shown => parts_of_shows shown

end Timeline

end TerminalReel
