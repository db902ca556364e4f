import TerminalReel.Animation.Timeline
import TerminalReel.Proofs.Animation.Fade
import TerminalReel.Proofs.Schedule.Placement
/-!
# TerminalReel.Proofs.Animation.Compile

What an animation that compiles **is made of**.

The compiler is taken apart once, from the timeline down to the events of a
group: each lemma inverts one of its functions and says all that a success of
that function says. The results about timelines are read off these lemmas.
-/

namespace TerminalReel

/-- The groups of a scene: its lines and its command. -/
def Scene.groups (scene : Scene) : List AnimatedPart :=
  scene.lines.toList ++ scene.typed.toList.map (·.command)

namespace Timeline

open Schedule (stepBefore)

variable {cycle : Cycle} {part : Part} {placed : PlacedStep} {previous : Option PlacedStep}
  {appearAt : Number} {fadeOutAt : Option Number} {charWidth : Number}

/-! ### Whole animations -/

/-- A timeline is compiled from checked steps, as they are placed. -/
theorem compile_eq_ok {config : Config} {forceLoop : Bool} {timeline : Timeline}
    (h : (compile config forceLoop).outcome = .ok timeline) : ∃ placed,
      timeline.loop = (forceLoop || config.loop) ∧ checkSteps config.steps = .ok () ∧
      (Schedule.place config.steps).outcome = .ok placed ∧
      Schedule.totalDuration placed timeline.loop = .ok timeline.total ∧
      scenesAfter ⟨timeline.total, timeline.loop⟩ config.charWidth none placed
        = .ok timeline.scenes := by
  simp only [compile, Attempt.outcome_bind, bind_eq_ok, Attempt.outcome_ofExcept,
    Attempt.outcome_mapError, mapError_eq_ok, Attempt.outcome_log, Attempt.outcome_pure,
    calculate] at h
  obtain ⟨⟨⟩, checked, placed, places, total, totals, ⟨⟩, -, scenes, compiled, e⟩ := h
  obtain rfl := Except.ok.inj e
  exact ⟨placed, rfl, checked, places, totals, compiled⟩

/-- The length of a cycle is a binary64 number. -/
theorem total_eq_float {loop : Bool} {placed : List PlacedStep} {total : Number}
    (h : Schedule.totalDuration placed loop = .ok total) : ∃ x, total = .float x := by
  obtain ⟨n, -, sum⟩ := bind_eq_ok.1 h
  obtain ⟨y, trailing⟩ : ∃ y, Schedule.trailing loop = .float y := by
    cases loop <;> exact ⟨_, rfl⟩
  rw [trailing] at sum
  rcases Number.combine_eq_ok sum with ⟨_, _, _, e, _⟩ | ⟨_, _, _, _, rfl⟩
  · cases e
  · exact ⟨_, rfl⟩

/-- Each scene shows a placed step, after the one before it. -/
theorem scenesAfter_eq_ok {steps : List PlacedStep} {scenes : List Scene}
    (h : scenesAfter cycle charWidth previous steps = .ok scenes) :
    scenes.length = steps.length ∧ ∀ k scene, scenes[k]? = some scene →
      ∃ p, steps[k]? = some p ∧
        sceneOf cycle charWidth (stepBefore previous steps k) p = .ok scene := by
  induction steps generalizing previous scenes with
  | nil =>
      obtain rfl := Except.ok.inj h
      simp
  | cons p rest ih =>
      rw [scenesAfter, bind_eq_ok] at h
      obtain ⟨scene, first, h⟩ := h
      obtain ⟨others, later, h⟩ := bind_eq_ok.1 h
      obtain rfl := pure_eq_ok.1 h
      obtain ⟨length, each⟩ := ih later
      refine ⟨by simp [length], fun k => ?_⟩
      cases k with
      | zero =>
          rintro _ ⟨⟩
          exact ⟨p, rfl, first⟩
      | succ k =>
          intro scene at_k
          obtain ⟨q, at_q, compiled⟩ := each k scene at_k
          rw [← Schedule.stepBefore_cons previous p rest k] at compiled
          exact ⟨q, at_q, compiled⟩

/-! ### Scenes -/

/-- A step is compiled to its layout, its times, its lines, if it has any, and its
command, unless it stays. -/
theorem sceneOf_eq_ok_iff {scene : Scene} : sceneOf cycle charWidth previous placed = .ok scene ↔
    scene.placed = placed ∧ Layout.ofStep placed.step charWidth = .ok scene.layout ∧
      appearAfter previous = .ok scene.appearAt ∧ fadeOutOf cycle placed = .ok scene.fadeOutAt ∧
      (if placed.step.lines.isEmpty then scene.lines = none else ∃ lines, scene.lines = some lines ∧
        animateFading cycle ⟨.lines, placed.index⟩ scene.appearAt scene.fadeOutAt = .ok lines) ∧
      if stays cycle placed then scene.typed = none else ∃ typed, scene.typed = some typed ∧
        typedCommand cycle placed scene.appearAt scene.fadeOutAt = .ok typed := by
  obtain ⟨shown, layout, appearAt, fadeOutAt, lines, typed⟩ := scene
  -- The two choices are made by the step alone; after them nothing branches.
  rcases Bool.eq_false_or_eq_true placed.step.lines.isEmpty with empty | empty <;>
  rcases Bool.eq_false_or_eq_true (stays cycle placed) with last | last <;>
  · simp only [sceneOf, bind_eq_ok, calculate, mapError_eq_ok, empty, last, if_true,
      Bool.false_eq_true, if_false, pure_eq_ok, map_eq_ok, Scene.mk.injEq]
    grind

/-- A scene shows its lines, if it has any, and its command, unless it stays. -/
theorem sceneOf_eq_ok {scene : Scene} (h : sceneOf cycle charWidth previous placed = .ok scene) :
    scene.placed = placed ∧ appearAfter previous = .ok scene.appearAt ∧
      fadeOutOf cycle placed = .ok scene.fadeOutAt ∧
      (if placed.step.lines.isEmpty then scene.lines = none else ∃ lines, scene.lines = some lines ∧
        animateFading cycle ⟨.lines, placed.index⟩ scene.appearAt scene.fadeOutAt = .ok lines) ∧
      if stays cycle placed then scene.typed = none else ∃ typed, scene.typed = some typed ∧
        typedCommand cycle placed scene.appearAt scene.fadeOutAt = .ok typed := by
  obtain ⟨placed_eq, -, rest⟩ := sceneOf_eq_ok_iff.1 h
  exact ⟨placed_eq, rest⟩

theorem animateFading_of_lines {scene : Scene} {lines : AnimatedPart}
    (h : sceneOf cycle charWidth previous placed = .ok scene)
    (some_lines : scene.lines = some lines) :
    animateFading cycle ⟨.lines, placed.index⟩ scene.appearAt scene.fadeOutAt = .ok lines := by
  obtain ⟨-, -, -, prints, -⟩ := sceneOf_eq_ok h
  rw [some_lines] at prints
  split at prints
  · cases prints
  · obtain ⟨_, ⟨⟩, fading⟩ := prints
    exact fading

theorem typedCommand_of_typed {scene : Scene} {typed : TypedCommand}
    (h : sceneOf cycle charWidth previous placed = .ok scene)
    (some_typed : scene.typed = some typed) :
    typedCommand cycle placed scene.appearAt scene.fadeOutAt = .ok typed := by
  obtain ⟨-, -, -, -, types⟩ := sceneOf_eq_ok h
  rw [some_typed] at types
  split at types
  · cases types
  · obtain ⟨_, ⟨⟩, ok⟩ := types
    exact ok

theorem animate_eq_ok {track : Track} {animated : AnimatedPart}
    (h : animate cycle part track = .ok animated) :
    animated.part = part ∧ animated.track = track := by
  obtain ⟨rule, -, e⟩ := bind_eq_ok.1 h
  obtain rfl := pure_eq_ok.1 e
  exact ⟨rfl, rfl⟩

/-- A command is a prompt that is always seen, a group that fades, and its characters. -/
theorem typedCommand_eq_ok {typed : TypedCommand}
    (h : typedCommand cycle placed appearAt fadeOutAt = .ok typed) :
    Track.ofEvents ⟨.prompt, placed.index⟩ Opacity.visible [] = .ok typed.prompt.track ∧
      animateFading cycle ⟨.command, placed.index⟩ appearAt fadeOutAt = .ok typed.command ∧
      typedChars cycle placed = .ok typed.characters := by
  simp only [typedCommand, bind_eq_ok, arrange, mapError_eq_ok] at h
  obtain ⟨track, events, prompt, animates, command, fading, characters, typing, e⟩ := h
  obtain rfl := pure_eq_ok.1 e
  obtain ⟨-, rfl⟩ := animate_eq_ok animates
  exact ⟨events, fading, typing⟩

/-! ### Groups -/

/-- A time that is computed falls on a cell of the cycle. -/
def FallsOn (total : Number) (time : Except ArithmeticError Number) (cell : ℕ) : Prop :=
  cell ≤ lastCell ∧ ∃ n, time = .ok n ∧ toPercent n total = .ok (gridPercent cell)

theorem exists_fallsOn {total n percent : Number} {time : Except ArithmeticError Number}
    (computed : time = .ok n) (h : toPercent n total = .ok percent) :
    ∃ cell, FallsOn total time cell ∧ percent = gridPercent cell := by
  obtain ⟨cell, le, rfl⟩ := exists_cell_of_toPercent h
  exact ⟨cell, ⟨le, n, computed, h⟩, rfl⟩

/-- The track of a group is that of its events. -/
theorem animateFading_eq_ok {group : AnimatedPart}
    (h : animateFading cycle part appearAt fadeOutAt = .ok group) :
    group.part = part ∧ ∃ events, fadeEvents cycle appearAt fadeOutAt = .ok events ∧
      Track.ofEvents part Opacity.hidden events = .ok group.track := by
  simp only [animateFading, bind_eq_ok, calculate, arrange, mapError_eq_ok] at h
  obtain ⟨events, fades, track, built, animates⟩ := h
  obtain ⟨part_eq, rfl⟩ := animate_eq_ok animates
  exact ⟨part_eq, events, fades, built⟩

theorem fadeOutOf_eq_ok (h : fadeOutOf cycle placed = .ok fadeOutAt) :
    if stays cycle placed then fadeOutAt = none
    else ∃ n, placed.fadeOutAt cycle.loop = .ok n ∧ fadeOutAt = some n := by
  rw [fadeOutOf] at h
  by_cases last : stays cycle placed = true
  · rw [if_pos last] at h ⊢
    exact (Except.ok.inj h).symm
  · rw [if_neg last] at h ⊢
    obtain ⟨n, ok, rfl⟩ := map_eq_ok.1 h
    exact ⟨n, ok, rfl⟩

/-- Every group of a scene fades at the times of the scene. -/
theorem animateFading_of_mem_groups {scene : Scene} {group : AnimatedPart}
    (h : sceneOf cycle charWidth previous placed = .ok scene) (mem : group ∈ scene.groups) :
    animateFading cycle group.part scene.appearAt scene.fadeOutAt = .ok group := by
  rcases List.mem_append.1 mem with in_lines | in_typed
  · have fading := animateFading_of_lines h (Option.mem_toList.1 in_lines)
    exact (animateFading_eq_ok fading).1 ▸ fading
  · obtain ⟨typed, some_typed, rfl⟩ := List.mem_map.1 in_typed
    obtain ⟨-, fading, -⟩ :=
      typedCommand_eq_ok (typedCommand_of_typed h (Option.mem_toList.1 some_typed))
    exact (animateFading_eq_ok fading).1 ▸ fading

/-- The events of a group that stays are at two cells. -/
theorem fadeEvents_none {events : List Keyframe} (h : fadeEvents cycle appearAt none = .ok events) :
    ∃ a b, FallsOn cycle.total (.ok appearAt) a ∧
      FallsOn cycle.total (appearAt.add Schedule.fadeDuration) b ∧
      events = [Mark.mk a Opacity.hidden, ⟨b, Opacity.visible⟩].map Mark.keyframe := by
  simp only [fadeEvents, bind_eq_ok, pure_eq_ok] at h
  obtain ⟨_, ⟨_, ha, rfl⟩, _, hn, _, ⟨_, hb, rfl⟩, rfl⟩ := h
  obtain ⟨a, on_a, rfl⟩ := exists_fallsOn rfl ha
  obtain ⟨b, on_b, rfl⟩ := exists_fallsOn hn hb
  exact ⟨a, b, on_a, on_b, rfl⟩

/-- The events of a group that disappears are at four cells. -/
theorem fadeEvents_some {fadeAt : Number} {events : List Keyframe}
    (h : fadeEvents cycle appearAt (some fadeAt) = .ok events) :
    ∃ a b c d, FallsOn cycle.total (.ok appearAt) a ∧
      FallsOn cycle.total (appearAt.add Schedule.fadeDuration) b ∧
      FallsOn cycle.total (.ok fadeAt) c ∧
      FallsOn cycle.total (fadeAt.add Schedule.fadeDuration) d ∧
      events = [Mark.mk a Opacity.hidden, ⟨b, Opacity.visible⟩, ⟨c, Opacity.visible⟩,
        ⟨d, Opacity.hidden⟩].map Mark.keyframe := by
  simp only [fadeEvents, bind_eq_ok, pure_eq_ok] at h
  obtain ⟨_, ⟨_, ha, rfl⟩, _, hn, _, ⟨_, hb, rfl⟩, _, ⟨_, hc, rfl⟩, _, hm, _, ⟨_, hd, rfl⟩, rfl⟩ :=
    h
  obtain ⟨a, on_a, rfl⟩ := exists_fallsOn rfl ha
  obtain ⟨b, on_b, rfl⟩ := exists_fallsOn hn hb
  obtain ⟨c, on_c, rfl⟩ := exists_fallsOn rfl hc
  obtain ⟨d, on_d, rfl⟩ := exists_fallsOn hm hd
  exact ⟨a, b, c, d, on_a, on_b, on_c, on_d, rfl⟩

/-- The keyframes of a group that stays. -/
theorem marks_of_animateFading_none {group : AnimatedPart}
    (h : animateFading cycle part appearAt none = .ok group) :
    ∃ a b marks, FallsOn cycle.total (.ok appearAt) a ∧
      FallsOn cycle.total (appearAt.add Schedule.fadeDuration) b ∧
      group.track.frames = (Mark.mk 0 Opacity.hidden :: marks).map Mark.keyframe ∧
      Track.RunOn ⟨0, Opacity.hidden⟩ marks ∧
      Track.Emerges a (⟨0, Opacity.hidden⟩ :: marks) := by
  obtain ⟨-, events, fades, built⟩ := animateFading_eq_ok h
  obtain ⟨a, b, on_a, on_b, rfl⟩ := fadeEvents_none fades
  have inside : ∀ event ∈ [Mark.mk a Opacity.hidden, ⟨b, Opacity.visible⟩],
      event.cell ≤ lastCell := by
    simp [on_a.1, on_b.1]
  obtain ⟨marks, after, frames⟩ := Track.exists_marks_of_ofEvents inside built
  exact ⟨a, b, marks, on_a, on_b, frames,
    Track.runOn_of_marksAfter (Nat.zero_le _) inside after, Track.marksAfter_stay after⟩

/-- The keyframes of a group that disappears. -/
theorem marks_of_animateFading_some {fadeAt : Number} {group : AnimatedPart}
    (h : animateFading cycle part appearAt (some fadeAt) = .ok group) :
    ∃ a b c d marks, FallsOn cycle.total (.ok appearAt) a ∧
      FallsOn cycle.total (appearAt.add Schedule.fadeDuration) b ∧
      FallsOn cycle.total (.ok fadeAt) c ∧
      FallsOn cycle.total (fadeAt.add Schedule.fadeDuration) d ∧
      group.track.frames = (Mark.mk 0 Opacity.hidden :: marks).map Mark.keyframe ∧
      Track.RunOn ⟨0, Opacity.hidden⟩ marks ∧
      Track.Passes a (Track.goneCell a b c d) (⟨0, Opacity.hidden⟩ :: marks) := by
  obtain ⟨-, events, fades, built⟩ := animateFading_eq_ok h
  obtain ⟨a, b, c, d, on_a, on_b, on_c, on_d, rfl⟩ := fadeEvents_some fades
  have inside : ∀ event ∈ [Mark.mk a Opacity.hidden, ⟨b, Opacity.visible⟩, ⟨c, Opacity.visible⟩,
      ⟨d, Opacity.hidden⟩], event.cell ≤ lastCell := by
    simp [on_a.1, on_b.1, on_c.1, on_d.1]
  obtain ⟨marks, after, frames⟩ := Track.exists_marks_of_ofEvents inside built
  exact ⟨a, b, c, d, marks, on_a, on_b, on_c, on_d, frames,
    Track.runOn_of_marksAfter (Nat.zero_le _) inside after, Track.marksAfter_fade after⟩

/-! ### An animation that compiles -/

/-- Two steps that print a line each, played once. -/
def twoSteps : Config where
  steps := [{ lines := ["hello"], command := "ls", timing := { hold := 1 } },
    { lines := ["bye"], timing := { hold := 1 } }]

theorem twoSteps_compiles : ∃ timeline first last,
    (compile twoSteps).outcome = .ok timeline ∧ timeline.scenes = [first, last] ∧
      timeline.loop = false ∧ timeline.total.le (.int 100000) = true := by
  have checked : (match (compile twoSteps).outcome with
      | .ok timeline => timeline.scenes.length == 2 && !timeline.loop &&
          timeline.total.le (.int 100000)
      | .error _ => false) = true := by
    decide +kernel
  generalize (compile twoSteps).outcome = outcome at checked
  cases outcome with
  | error e => cases checked
  | ok timeline =>
      simp only [Bool.and_eq_true, beq_iff_eq, Bool.not_eq_true'] at checked
      obtain ⟨⟨two, once⟩, short⟩ := checked
      obtain ⟨first, last, scenes⟩ := List.length_eq_two.1 two
      exact ⟨timeline, first, last, rfl, scenes, once, short⟩

end Timeline

end TerminalReel
