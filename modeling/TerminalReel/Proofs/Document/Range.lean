import TerminalReel.Document.Page
import TerminalReel.Proofs.Animation.Range
/-!
# TerminalReel.Proofs.Document.Range

**Moderate** animations are drawn, and other animations fail for one reason only.

A style sheet writes binary64 numbers. What else a drawing writes is computed from the
width of a character, the height and the layout of a step.
-/

namespace TerminalReel

variable {host : Host} {P : Prop}

/-! ### The style sheet -/

theorem Number.IsFloat.computes_compact {n : Number} (h : n.IsFloat) :
    Computes P (fun _ => True) n.compact :=
  Number.computes_compact fun _ => h.isWithin _

theorem Track.IsFloat.computes_css {track : Track} (h : track.IsFloat) :
    Computes P (fun _ => True) track.css := by
  have line (frame : Keyframe) (mem : frame ∈ track.frames) :
      Computes P (fun _ => True) frame.line :=
    (h frame mem).computes_compact.bind fun _ _ => .pure trivial
  exact (Ends.mapM line).bind fun _ _ => .pure trivial

theorem AnimatedPart.IsFloat.computes_css {animated : AnimatedPart} (h : animated.IsFloat) :
    Computes P (fun _ => True) animated.rule.css :=
  h.duration.computes_compact.bind fun _ _ => h.delay.computes_compact.bind fun _ _ =>
    .pure trivial

/-- The style sheet of scenes that can be drawn is written. -/
theorem Timeline.computes_css {timeline : Timeline}
    (each : ∀ scene ∈ timeline.scenes, scene.IsDrawable host P) :
    Computes P (fun _ => True) timeline.css := by
  have parts : ∀ animated ∈ timeline.parts, animated.IsFloat := by
    intro animated mem
    obtain ⟨scene, shown, mem⟩ := List.mem_flatMap.1 mem
    exact (each scene shown).parts animated mem
  refine (Ends.mapM fun animated mem => (parts animated mem).track.computes_css).bind fun _ _ => ?_
  refine (Ends.mapM fun animated mem => (parts animated mem).computes_css).bind fun _ _ => ?_
  exact .pure trivial

/-! ### The drawing -/

namespace Drawing

section Blocks

variable {config : Config} (h : P → config.IsModerate host)

include h

theorem computes_fontStyle : Computes P (fun _ => True) (fontStyle config) := by
  have size : P → config.fontSize.IsWithin operandBits :=
    fun holds => (h holds).fontSize.isWithin.mono (by decide)
  exact (Number.computes_compact size).bind fun _ _ => .pure trivial

theorem computes_filledFontStyle (color : Text) :
    Computes P (fun _ => True) (filledFontStyle config color) :=
  (computes_fontStyle h).bind fun _ _ => .pure trivial

theorem computes_lineBlocks (index : ℕ) (lines : List Text) :
    Computes P (fun _ => True) (lineBlocks config index lines) := by
  induction lines generalizing index with
  | nil => exact .ok trivial
  | cons line rest ih =>
      have block : Computes P (fun _ => True) (lineBlock config index line) :=
        (computes_filledFontStyle h _).bind fun _ _ => .pure trivial
      exact block.bind fun _ _ => (ih (index + 1)).bind fun _ _ => .pure trivial

theorem computes_linesGroup (scene : Scene) :
    Computes P (fun _ => True) (linesGroup config scene) := by
  rw [linesGroup]
  split
  · exact .ok trivial
  · exact (computes_lineBlocks h 0 _).bind fun _ _ => .pure trivial

theorem computes_baseline :
    Computes P (fun y => P → y.IsWithin operandBits) (Layout.baseline config.height) := by
  have offset : Layout.baselineOffset.IsWithin 10 := Number.isWithin_int.2 (by decide)
  have height := Number.computes_sub (k := numberBits)
    (fun holds => (h holds).height.isWithin)
    (fun _ => offset.mono (by decide)) (by decide)
  exact height.mono fun _ hy holds => (hy holds).mono (by decide)

variable {scene : Scene} (drawable : scene.IsDrawable host P)

include drawable

theorem computes_promptBlock (part : Part) :
    Computes P (fun _ => True) (promptBlock config scene part) := by
  have x := Number.computes_compact fun holds => (drawable.promptX holds).mono (by decide)
  refine x.bind fun _ _ => (computes_baseline h).bind fun _ hy => ?_
  refine (Number.computes_compact hy).bind fun _ _ => ?_
  exact (computes_fontStyle h).bind fun _ _ => .pure trivial

theorem computes_charBlock {index : ℕ} (le : index ≤ scene.placed.step.command.length)
    (typed : TypedChar) :
    Computes P (fun _ => True) (charBlock config scene.layout index typed) := by
  have x := Layout.computes_charX drawable.commandX
    (fun holds => (h holds).charWidth.isWithin)
    (fun holds => (drawable.step holds).command) le
  refine x.bind fun _ hx => hx.computes_compact.bind fun _ _ => ?_
  refine (computes_baseline h).bind fun _ hy => (Number.computes_compact hy).bind fun _ _ => ?_
  exact (computes_filledFontStyle h _).bind fun _ _ => .pure trivial

/-- The blocks of characters are computed, as long as they lie in the command. -/
theorem computes_charBlocks (index : ℕ) (typed : List TypedChar)
    (inside : index + typed.length ≤ scene.placed.step.command.length) :
    Computes P (fun _ => True) (charBlocks config scene.layout index typed) := by
  induction typed generalizing index with
  | nil => exact .ok trivial
  | cons char rest ih =>
      rw [List.length_cons] at inside
      refine (computes_charBlock h drawable (by omega) char).bind fun _ _ => ?_
      exact (ih (index + 1) (by omega)).bind fun _ _ => .pure trivial

/-- The group of a command is computed, with all its characters. -/
theorem computes_commandGroup : Computes P (fun _ => True) (commandGroup config scene) := by
  rw [commandGroup]
  split
  · exact .ok trivial
  · rename_i typed found
    have count : 0 + typed.characters.length ≤ scene.placed.step.command.length := by
      rw [Nat.zero_add, drawable.typed typed found]
    refine (computes_promptBlock h drawable _).bind fun _ _ => ?_
    exact (computes_charBlocks h drawable 0 _ count).bind fun _ _ => .pure trivial

theorem computes_sceneGroups : Computes P (fun _ => True) (sceneGroups config scene) :=
  (computes_linesGroup h scene).bind fun _ _ =>
    (computes_commandGroup h drawable).bind fun _ _ => .pure trivial

end Blocks

/-- The drawing of scenes that can be drawn is computed. -/
theorem computes_tree {timeline : Timeline} {config : Config} (h : P → config.IsModerate host)
    (each : ∀ scene ∈ timeline.scenes, scene.IsDrawable host P) :
    Computes P (fun _ => True) (tree timeline config) := by
  have moderate := Json.tellable_isModerate host
  refine (Number.computes_fullText fun holds =>
    moderate.writable (h holds).width).bind fun _ _ => ?_
  refine (Number.computes_fullText fun holds =>
    moderate.writable (h holds).height).bind fun _ _ => ?_
  refine (Timeline.computes_css each).bind fun _ _ => ?_
  exact (Ends.mapM fun scene mem => computes_sceneGroups h (each scene mem)).bind fun _ _ =>
    .pure trivial

end Drawing

/-! ### Documents and schedules -/

namespace Document

/-- A configuration has its two files, or it is refused with a report, if it is moderate. -/
theorem compiles_build {config : Config} (stem : Text) (forceLoop : Bool)
    (h : P → config.IsModerate host) :
    Compiles P (fun _ => True) (build config stem forceLoop).outcome := by
  simp only [build, Attempt.outcome_bind, Attempt.outcome_ofExcept]
  refine (Timeline.compiles_compile forceLoop h).bind fun timeline each => ?_
  have files : Computes P (fun _ => True) (ofTimeline timeline config stem) :=
    (Drawing.computes_tree h each).bind fun _ _ => (Timeline.computes_css each).bind fun _ _ =>
      .pure trivial
  exact files.mapError fun _ bad => bad

end Document

end TerminalReel
