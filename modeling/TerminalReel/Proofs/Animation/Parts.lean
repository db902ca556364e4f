import TerminalReel.Proofs.Animation.Compile
/-!
# TerminalReel.Proofs.Animation.Parts

Every part of an animation that compiles has a **track from the grid**.

For groups and prompts this is in their events. A typed character is put at the
percentage of its time or, where that is taken, past the character before it; so
the typing carries along that the last character stands on the grid.
-/

namespace TerminalReel

/-- A percentage of the grid within the cycle. -/
def IsOnGrid (percent : Number) : Prop := ∃ cell ≤ lastCell, percent = gridPercent cell

namespace Timeline

open Track (FromGrid)

variable {cycle : Cycle} {part : Part} {placed : PlacedStep} {previous : Option PlacedStep}
  {charWidth : Number} {scene : Scene}

theorem fromGrid_of_animateFading {appearAt : Number} {fadeOutAt : Option Number}
    {group : AnimatedPart} (h : animateFading cycle part appearAt fadeOutAt = .ok group) :
    group.track.FromGrid := by
  obtain ⟨-, events, fades, built⟩ := animateFading_eq_ok h
  cases fadeOutAt with
  | none =>
      obtain ⟨a, b, on_a, on_b, rfl⟩ := fadeEvents_none fades
      exact ⟨part, Opacity.hidden, _, by simp [on_a.1, on_b.1], built⟩
  | some fadeAt =>
      obtain ⟨a, b, c, d, on_a, on_b, on_c, on_d, rfl⟩ := fadeEvents_some fades
      exact ⟨part, Opacity.hidden, _, by simp [on_a.1, on_b.1, on_c.1, on_d.1], built⟩

/-! ### Typing -/

/-- Where a character is put is on the grid if its time and the character before it are. -/
theorem isOnGrid_of_separate {perChar percent separated : Number} {last : Option Number}
    (h : separate part perChar last percent = .ok separated)
    (on_last : ∀ previous ∈ last, IsOnGrid previous) (on_grid : IsOnGrid percent) :
    IsOnGrid separated := by
  cases last with
  | none =>
      obtain rfl := Except.ok.inj h
      exact on_grid
  | some previous =>
      obtain ⟨cell, le, rfl⟩ := on_last previous rfl
      rw [separate] at h
      dsimp only at h
      rw [nudge_gridPercent le] at h
      split at h
      · split at h
        · cases h
        · rename_i room
          obtain rfl := Except.ok.inj h
          rw [hundred_lt_gridPercent (by omega), Nat.not_lt] at room
          exact ⟨cell + 1, room, rfl⟩
      · obtain rfl := Except.ok.inj h
        exact on_grid

theorem isOnGrid_revealPercent {track : Track} (h : track.FromGrid) :
    IsOnGrid (revealPercent track) := by
  obtain ⟨initial, marks, frames, run⟩ := h.exists_marks
  rw [revealPercent, frames]
  cases marks with
  | nil => exact ⟨0, Nat.zero_le _, firstPercent_eq⟩
  | cons reveal rest =>
      have inside := run.le reveal (List.mem_cons_of_mem _ List.mem_cons_self)
      exact ⟨reveal.cell, inside, rfl⟩

/-- A part that is seen from a percentage of the grid on has a track from the grid. -/
theorem fromGrid_of_reveal {track : Track} {percent : Number} (on_grid : IsOnGrid percent)
    (h : Track.ofEvents part Opacity.hidden [⟨percent, Opacity.visible⟩] = .ok track) :
    track.FromGrid := by
  obtain ⟨cell, le, rfl⟩ := on_grid
  exact ⟨part, Opacity.hidden, [⟨cell, Opacity.visible⟩], by simpa using le, h⟩

theorem fromGrid_of_typeFrom {points : List CodePoint} {index : ℕ} {last : Option Number}
    {typed : List TypedChar} (h : typeFrom cycle placed index last points = .ok typed)
    (on_last : ∀ previous ∈ last, IsOnGrid previous) :
    ∀ char ∈ typed, char.animated.track.FromGrid := by
  -- Each character hands on the percentage at which it is first seen.
  induction points generalizing index last typed with
  | nil =>
      obtain rfl := Except.ok.inj h
      simp
  | cons point rest ih =>
      simp only [typeFrom, bind_eq_ok, calculate, arrange, mapError_eq_ok, pure_eq_ok] at h
      obtain ⟨time, -, percent, percents, separated, separates, track, built, rule, -, others,
        types, rfl⟩ := h
      obtain ⟨cell, le, rfl⟩ := exists_cell_of_toPercent percents
      have on_grid := isOnGrid_of_separate separates on_last ⟨cell, le, rfl⟩
      have from_grid := fromGrid_of_reveal on_grid built
      refine List.forall_mem_cons.2 ⟨from_grid, ih types ?_⟩
      rintro _ ⟨⟩
      exact isOnGrid_revealPercent from_grid

/-! ### Whole animations -/

theorem fromGrid_of_typedCommand {appearAt : Number} {fadeOutAt : Option Number}
    {typed : TypedCommand} (h : typedCommand cycle placed appearAt fadeOutAt = .ok typed) :
    typed.command.track.FromGrid ∧ typed.prompt.track.FromGrid ∧
      ∀ char ∈ typed.characters, char.animated.track.FromGrid := by
  obtain ⟨prompt, fading, types⟩ := typedCommand_eq_ok h
  refine ⟨fromGrid_of_animateFading fading, ?_, fromGrid_of_typeFrom types (by simp)⟩
  exact ⟨_, Opacity.visible, [], by simp, prompt⟩

theorem fromGrid_of_sceneOf (h : sceneOf cycle charWidth previous placed = .ok scene) :
    ∀ part ∈ scene.parts, part.track.FromGrid := by
  intro part mem
  rcases List.mem_append.1 mem with in_lines | in_typed
  · exact fromGrid_of_animateFading (animateFading_of_lines h (Option.mem_toList.1 in_lines))
  · cases types : scene.typed with
    | none =>
        rw [types] at in_typed
        cases in_typed
    | some typed =>
        rw [types] at in_typed
        obtain ⟨command, prompt, characters⟩ :=
          fromGrid_of_typedCommand (typedCommand_of_typed h types)
        rcases List.mem_cons.1 in_typed with rfl | in_typed
        · exact command
        · rcases List.mem_cons.1 in_typed with rfl | in_typed
          · exact prompt
          · obtain ⟨char, in_characters, rfl⟩ := List.mem_map.1 in_typed
            exact characters char in_characters

theorem fromGrid_of_compile {config : Config} {forceLoop : Bool} {timeline : Timeline}
    (h : (compile config forceLoop).outcome = .ok timeline) :
    ∀ part ∈ timeline.parts, part.track.FromGrid := by
  obtain ⟨steps, -, -, -, -, compiled⟩ := compile_eq_ok h
  obtain ⟨-, each⟩ := scenesAfter_eq_ok compiled
  intro part mem
  obtain ⟨scene, in_scenes, in_scene⟩ := List.mem_flatMap.1 mem
  obtain ⟨k, at_k⟩ := List.getElem?_of_mem in_scenes
  obtain ⟨p, -, scene_ok⟩ := each k scene at_k
  exact fromGrid_of_sceneOf scene_ok part in_scene

end Timeline

end TerminalReel
