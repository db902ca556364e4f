import TerminalReel.Proofs.Animation.Compile
/-!
# TerminalReel.Proofs.Animation.Shape

The **shape of the groups** of an animation that compiles.

A group is hidden at the beginning, seen in one run of keyframes and hidden again
at the end, whatever became of its events. Only the lines of the last step of an
animation that plays once stay, and they are the only group of that step. So the
seam of a cycle that starts over shows nothing, and the end of one that does not
shows the last lines.
-/

namespace TerminalReel

namespace Track

/-- The opacities of the keyframes, in order. -/
def opacities (track : Track) : List Int := track.frames.map (·.opacity)

/-- The part is hidden at the beginning and at the end, and seen in one run
between. -/
structure SeenOnce (track : Track) : Prop where
  shape : ∃ i j k, track.opacities = List.replicate (i + 1) Opacity.hidden ++
    List.replicate (j + 1) Opacity.visible ++ List.replicate (k + 1) Opacity.hidden
  first : track.frames.head? = some ⟨firstPercent, Opacity.hidden⟩
  last : track.frames.getLast? = some ⟨lastPercent, Opacity.hidden⟩

/-- The part is hidden at the beginning, and seen in one run up to the end. -/
structure SeenToEnd (track : Track) : Prop where
  shape : ∃ i j, track.opacities = List.replicate (i + 1) Opacity.hidden ++
    List.replicate (j + 1) Opacity.visible
  first : track.frames.head? = some ⟨firstPercent, Opacity.hidden⟩
  last : track.frames.getLast? = some ⟨lastPercent, Opacity.visible⟩

/-! ### Shapes of marks -/

variable {appear gone : ℕ} {previous : Mark} {marks : List Mark} {now : Int}

theorem map_opacity_eq (h : ∀ mark ∈ marks, mark.opacity = now) :
    marks.map (·.opacity) = List.replicate marks.length now :=
  List.map_eq_replicate_iff.2 h

theorem Emerges.opacities (h : Emerges appear marks) : ∃ i j, marks.map (·.opacity)
    = List.replicate (i + 1) Opacity.hidden ++ List.replicate (j + 1) Opacity.visible := by
  obtain ⟨lead, shown, rfl, lead_hidden, nonempty, shown_visible⟩ := h
  obtain ⟨j, length⟩ := Nat.exists_eq_succ_of_ne_zero (List.length_pos_iff.2 nonempty).ne'
  refine ⟨lead.length, j, ?_⟩
  rw [List.map_append, List.map_cons, map_opacity_eq lead_hidden, map_opacity_eq shown_visible,
    length, List.replicate_add lead.length 1, List.append_assoc]
  rfl

theorem Passes.opacities (h : Passes appear gone marks) : ∃ i j k, marks.map (·.opacity)
    = List.replicate (i + 1) Opacity.hidden ++ List.replicate (j + 1) Opacity.visible ++
      List.replicate (k + 1) Opacity.hidden := by
  obtain ⟨seen, rest, rfl, emerges, rest_hidden⟩ := h
  obtain ⟨i, j, shape⟩ := emerges.opacities
  refine ⟨i, j, rest.length, ?_⟩
  rw [List.map_append, List.map_cons, shape, map_opacity_eq rest_hidden]
  rfl

/-- A track ends at the end of the cycle, with the opacity that its shape ends with. -/
theorem getLast?_of_runOn {track : Track}
    (frames : track.frames = (previous :: marks).map Mark.keyframe) (run : RunOn previous marks)
    (ends : track.opacities.getLast? = some now) :
    track.frames.getLast? = some ⟨lastPercent, now⟩ := by
  obtain ⟨last, h⟩ := run.exists_getLast?
  have same : last = now := by
    rw [opacities, List.getLast?_map, frames, List.getLast?_map, h] at ends
    exact Option.some.inj ends
  rw [frames, List.getLast?_map, h, lastPercent_eq, ← same]
  rfl

theorem opacities_of_frames {track : Track} (frames : track.frames = marks.map Mark.keyframe) :
    track.opacities = marks.map (·.opacity) := by
  rw [opacities, frames, List.map_map]
  rfl

theorem SeenOnce.of_marks {track : Track}
    (frames : track.frames = (Mark.mk 0 Opacity.hidden :: marks).map Mark.keyframe)
    (run : RunOn ⟨0, Opacity.hidden⟩ marks)
    (passes : Passes appear gone (⟨0, Opacity.hidden⟩ :: marks)) : track.SeenOnce := by
  obtain ⟨i, j, k, shape⟩ := passes.opacities
  rw [← opacities_of_frames frames] at shape
  refine ⟨⟨i, j, k, shape⟩, ?_, getLast?_of_runOn frames run ?_⟩
  · rw [frames, firstPercent_eq]
    rfl
  · rw [shape]
    simp [List.getLast?_append, List.getLast?_replicate]

theorem SeenToEnd.of_marks {track : Track}
    (frames : track.frames = (Mark.mk 0 Opacity.hidden :: marks).map Mark.keyframe)
    (run : RunOn ⟨0, Opacity.hidden⟩ marks)
    (emerges : Emerges appear (⟨0, Opacity.hidden⟩ :: marks)) : track.SeenToEnd := by
  obtain ⟨i, j, shape⟩ := emerges.opacities
  rw [← opacities_of_frames frames] at shape
  refine ⟨⟨i, j, shape⟩, ?_, getLast?_of_runOn frames run ?_⟩
  · rw [frames, firstPercent_eq]
    rfl
  · rw [shape]
    simp [List.getLast?_append, List.getLast?_replicate]

end Track

namespace Timeline

variable {config : Config} {forceLoop : Bool} {timeline : Timeline}

/-- The scenes of a timeline show its steps, and only the last one may stay. -/
theorem scene_of_compile (h : (compile config forceLoop).outcome = .ok timeline) {k : ℕ}
    {scene : Scene} (at_k : timeline.scenes[k]? = some scene) : ∃ previous placed,
      sceneOf ⟨timeline.total, timeline.loop⟩ config.charWidth previous placed = .ok scene ∧
      (stays ⟨timeline.total, timeline.loop⟩ placed = true ↔
        timeline.loop = false ∧ k + 1 = timeline.scenes.length) := by
  obtain ⟨steps, -, -, places, -, compiled⟩ := compile_eq_ok h
  obtain ⟨length, each⟩ := scenesAfter_eq_ok compiled
  obtain ⟨p, at_p, scene_ok⟩ := each k scene at_k
  obtain ⟨_, _, follows⟩ := Schedule.place_follows places at_p
  refine ⟨_, p, scene_ok, ?_⟩
  rw [stays, follows.isLast_eq, length]
  cases timeline.loop <;> simp

/-- The groups of a scene are seen in one run of their keyframes, from and to
hidden ones, but for the lines of the last scene of an animation that plays once,
which has no other group. -/
theorem compile_groups_seen (h : (compile config forceLoop).outcome = .ok timeline) {k : ℕ}
    {scene : Scene} (at_k : timeline.scenes[k]? = some scene) :
    (scene.lines = none ↔ scene.placed.step.lines = []) ∧
      if timeline.loop = false ∧ k + 1 = timeline.scenes.length then
        scene.typed = none ∧ ∀ group ∈ scene.groups, group.track.SeenToEnd
      else scene.typed ≠ none ∧ ∀ group ∈ scene.groups, group.track.SeenOnce := by
  obtain ⟨previous, placed, compiled, last⟩ := scene_of_compile h at_k
  obtain ⟨placed_eq, -, fades, prints, types⟩ := sceneOf_eq_ok compiled
  replace fades := fadeOutOf_eq_ok fades
  constructor
  · rw [placed_eq, ← List.isEmpty_iff]
    split at prints
    · rename_i empty
      simp [prints, empty]
    · rename_i nonempty
      obtain ⟨lines, some_lines, -⟩ := prints
      simp [some_lines, nonempty]
  · by_cases stay : stays ⟨timeline.total, timeline.loop⟩ placed = true
    · rw [if_pos stay] at fades types
      rw [if_pos (last.1 stay)]
      refine ⟨types, fun group mem => ?_⟩
      have fading := animateFading_of_mem_groups compiled mem
      rw [fades] at fading
      obtain ⟨_, _, marks, -, -, frames, run, emerges⟩ := marks_of_animateFading_none fading
      exact .of_marks frames run emerges
    · rw [if_neg stay] at fades types
      rw [if_neg (last.not.1 stay)]
      obtain ⟨fadeAt, -, some_fade⟩ := fades
      obtain ⟨typed, some_typed, -⟩ := types
      refine ⟨by simp [some_typed], fun group mem => ?_⟩
      have fading := animateFading_of_mem_groups compiled mem
      rw [some_fade] at fading
      obtain ⟨_, _, _, _, marks, -, -, -, -, frames, run, passes⟩ :=
        marks_of_animateFading_some fading
      exact .of_marks frames run passes

theorem compile_groups_seen_twoSteps : ∃ timeline first last,
    (compile twoSteps).outcome = .ok timeline ∧ timeline.scenes = [first, last] ∧
      (∀ group ∈ first.groups, group.track.SeenOnce) ∧
      ∀ group ∈ last.groups, group.track.SeenToEnd := by
  obtain ⟨timeline, first, last, ok, scenes, once, -⟩ := twoSteps_compiles
  have at_first : timeline.scenes[0]? = some first := by rw [scenes]; rfl
  have at_last : timeline.scenes[1]? = some last := by rw [scenes]; rfl
  have seen_first := (compile_groups_seen ok at_first).2
  have seen_last := (compile_groups_seen ok at_last).2
  rw [scenes, if_neg (by simp)] at seen_first
  rw [scenes, if_pos ⟨once, rfl⟩] at seen_last
  exact ⟨timeline, first, last, ok, scenes, seen_first.2, seen_last.2⟩

end Timeline

end TerminalReel
