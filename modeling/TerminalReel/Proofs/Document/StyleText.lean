import TerminalReel.Document.StyleSheet
import TerminalReel.Proofs.Animation.Identity
import TerminalReel.Proofs.Animation.Names
/-!
# TerminalReel.Proofs.Document.StyleText

What a style sheet **is written with**: names, numerals and the notation around
them, whatever the texts of the configuration are.

A style sheet goes into the drawing as it is. That it holds no `<` is what keeps it
from opening a tag there.
-/

namespace TerminalReel

/-- A plain character or one of the notation of style sheets. -/
def isStyle (c : Char) : Bool := isPlain c || " \n@%\x7b\x7d:;(),".toList.contains c

/-- A string of such characters. -/
abbrev StyleText (s : String) : Prop := Consists isStyle s

theorem Consists.styleText {s : String} (plain : Plain s) : StyleText s :=
  plain.mono fun c h => by rw [isStyle, h, Bool.true_or]

theorem styleText_line {frame : Keyframe} {line : String} (h : frame.line = .ok line) :
    StyleText line := by
  obtain ⟨percent, compact, e⟩ := bind_eq_ok.1 h
  obtain rfl := pure_eq_ok.1 e
  have declarations : StyleText frame.declarations :=
    (Consists.append (by decide) (plain_intRepr _).styleText).append (by decide)
  exact (((Consists.append (by decide) (plain_compact compact).styleText).append
    (by decide)).append declarations).append (by decide)

theorem styleText_keyframes {track : Track} {css : String} (name : Plain track.name)
    (h : track.css = .ok css) : StyleText css := by
  obtain ⟨entries, lines, e⟩ := bind_eq_ok.1 h
  obtain rfl := pure_eq_ok.1 e
  have each : ∀ entry ∈ entries, StyleText entry := fun entry mem =>
    let ⟨_, _, ok⟩ := exists_of_mem_mapM lines mem
    styleText_line ok
  have body : StyleText (String.intercalate "\n" entries) := Consists.intercalate (by decide) each
  have header : StyleText ("@keyframes " ++ track.name ++ " \x7b\n") :=
    (Consists.append (by decide) name.styleText).append (by decide)
  exact (header.append body).append (by decide)

/-- The words of a part's animation in a cycle of this written length. -/
def animationWords (loop : Bool) (duration : String) (part : Part) : List String :=
  [part.keyframesName, duration ++ "ms", part.timingFunction, "0ms",
    if loop then "infinite" else "1"] ++ if loop then [] else ["forwards"]

/-- The rule of a part. -/
def ruleText (loop : Bool) (duration : String) (part : Part) : String :=
  part.selector ++ " \x7b animation: " ++
    String.intercalate " " (animationWords loop duration part) ++ "; \x7d"

/-- Every part is printed with the same words but for its names and how it changes. -/
theorem css_of_plays {animated : AnimatedPart} {total ms : Number} {loop : Bool}
    {duration css : String} (plays : animated.Plays ⟨total, loop⟩)
    (length : total.mul 1000 = .ok ms) (compact : ms.compact = .ok duration)
    (h : animated.rule.css = .ok css) : css = ruleText loop duration animated.part := by
  have ruled := plays.rule
  simp only [Timeline.ruleOf, Timeline.calculate, length, bind_eq_ok, mapError_eq_ok,
    pure_eq_ok] at ruled
  obtain ⟨_, ⟨⟩, rule⟩ := ruled
  have no_delay : (Number.float .zero).compact = .ok "0" := by decide +kernel
  rw [← rule] at h
  simp only [PlaybackRule.css, compact, no_delay, bind_eq_ok, pure_eq_ok] at h
  obtain ⟨_, ⟨⟩, _, ⟨⟩, rfl⟩ := h
  cases loop <;> rfl

/-- A plain character or one of those within and between the words of a value. -/
def isValue (c : Char) : Bool := isPlain c || " (),".toList.contains c

theorem isStyle_of_isValue {c : Char} (h : isValue c = true) : isStyle c = true := by
  rw [isValue, Bool.or_eq_true] at h
  rw [isStyle, Bool.or_eq_true]
  refine h.imp_right fun among => ?_
  have all : " (),".toList ⊆ " \n@%\x7b\x7d:;(),".toList := by decide
  exact List.contains_iff_mem.2 (all (List.contains_iff_mem.1 among))

/-- What holds of the four words that change from part to part or sheet to sheet and of
the fixed ones holds of the words of every animation. -/
theorem forall_animationWords {P : String → Prop} {duration : String} {part : Part}
    (name : P part.keyframesName) (length : P (duration ++ "ms")) (timing : P part.timingFunction)
    (fixed : ∀ word ∈ ["0ms", "infinite", "1", "forwards"], P word) (loop : Bool) :
    ∀ word ∈ animationWords loop duration part, P word := by
  simp only [List.forall_mem_cons] at fixed
  obtain ⟨delay, infinite, once, forwards, -⟩ := fixed
  cases loop <;> simp [animationWords, *]

/-- The words of an animation and the spaces between them. -/
theorem value_animationWords (loop : Bool) {duration : String} (plain : Plain duration)
    (part : Part) :
    Consists isValue (String.intercalate " " (animationWords loop duration part)) := by
  have value : ∀ {s : String}, Plain s → Consists isValue s := fun plain =>
    plain.mono fun c h => by rw [isValue, h, Bool.true_or]
  have timing : Consists isValue part.timingFunction := by
    obtain ⟨kind, step⟩ := part
    cases kind with
    | char index => exact show Consists isValue "steps(1, end)" by decide
    | lines | prompt | command => exact show Consists isValue "linear" by decide
  exact Consists.intercalate (by decide) (forall_animationWords (value part.plain_keyframesName)
    (value (plain.append (by decide))) timing (by decide) loop)

theorem styleText_rule (loop : Bool) {duration : String} (plain : Plain duration) (part : Part) :
    StyleText (ruleText loop duration part) := by
  have words := (value_animationWords loop plain part).mono fun c => isStyle_of_isValue
  have selector : StyleText part.selector :=
    Consists.append (by decide) part.plain_cssClass.styleText
  exact ((selector.append (by decide)).append words).append (by decide)

/-! ### Whole style sheets -/

/-- A style sheet between its comments: the rule for all of the drawing, the blocks of
keyframes and the rules. -/
def styleSheet (keyframes rules : List String) : String :=
  "/* Vector effect inheritance */\n"
    ++ "svg * \x7b vector-effect: inherit; \x7d\n\n"
    ++ "/* Keyframes */\n" ++ String.intercalate "\n" keyframes ++ "\n\n"
    ++ "/* Rules */\n" ++ String.intercalate "\n" rules ++ "\n"

namespace Timeline

variable {config : Config} {forceLoop : Bool} {timeline : Timeline} {css : String}

theorem css_eq (timeline : Timeline) : timeline.css = do
    let keyframes ← timeline.parts.mapM fun animated => animated.track.css
    let rules ← timeline.parts.mapM fun animated => animated.rule.css
    return styleSheet keyframes rules := rfl

/-- The length of a cycle has a written form. -/
theorem exists_cycleMs (h : (compile config forceLoop).outcome = .ok timeline) :
    ∃ ms duration, timeline.cycleMs = .ok ms ∧ ms.compact = .ok duration := by
  obtain ⟨placed, -, -, -, totals, -⟩ := compile_eq_ok h
  obtain ⟨x, total⟩ := total_eq_float totals
  obtain ⟨y, thousand, -⟩ := Number.exists_operand (Number.measures_natCast 1000) (by norm_num)
  rw [cycleMs, total]
  exact ⟨_, _, Number.mul_float_of_operand thousand, rfl⟩

/-- A printed style sheet has a block and a rule for every part, all rules with the
written length of the cycle. -/
theorem css_eq_ok (h : (compile config forceLoop).outcome = .ok timeline)
    (printed : timeline.css = .ok css) : ∃ ms duration keyframes,
      timeline.cycleMs = .ok ms ∧ ms.compact = .ok duration ∧
      (timeline.parts.mapM fun animated => animated.track.css) = .ok keyframes ∧
      css = styleSheet keyframes
        (timeline.parts.map fun animated => ruleText timeline.loop duration animated.part) := by
  obtain ⟨ms, duration, length, compact⟩ := exists_cycleMs h
  simp only [css_eq, bind_eq_ok, pure_eq_ok] at printed
  obtain ⟨keyframes, blocks, rules, ruled, printed⟩ := printed
  have texts : rules = timeline.parts.map fun animated =>
      ruleText timeline.loop duration animated.part :=
    eq_map_of_mapM ruled fun animated mem css ok =>
      css_of_plays (plays_of_compile h animated mem) length compact ok
  exact ⟨ms, duration, keyframes, length, compact, blocks, texts ▸ printed.symm⟩

theorem styleText_blocks {keyframes : List String}
    (h : (compile config forceLoop).outcome = .ok timeline)
    (blocks : (timeline.parts.mapM fun animated => animated.track.css) = .ok keyframes) :
    StyleText (String.intercalate "\n" keyframes) := by
  refine Consists.intercalate (by decide) fun block mem => ?_
  obtain ⟨animated, in_parts, ok⟩ := exists_of_mem_mapM blocks mem
  have name := (plays_of_compile h animated in_parts).name
  exact styleText_keyframes (name ▸ animated.part.plain_keyframesName) ok

theorem styleText_rules (loop : Bool) {duration : String} (plain : Plain duration)
    (parts : List AnimatedPart) : StyleText (String.intercalate "\n"
      (parts.map fun animated => ruleText loop duration animated.part)) :=
  Consists.intercalate (by decide)
    (List.forall_mem_map.2 fun animated _ => styleText_rule loop plain animated.part)

/-- A style sheet consists of what its blocks and rules are written with and of the marks
of comments. -/
theorem consists_css {test : Char → Bool} (h : (compile config forceLoop).outcome = .ok timeline)
    (printed : timeline.css = .ok css) (style : ∀ c, isStyle c = true → test c = true)
    (marks : Consists test "*/") : Consists test css := by
  obtain ⟨ms, duration, keyframes, -, compact, blocks, sheet⟩ := css_eq_ok h printed
  have in_blocks := (styleText_blocks h blocks).mono style
  have in_rules := (styleText_rules timeline.loop (plain_compact compact) timeline.parts).mono style
  have fixed : ∀ {s : String}, Consists (fun c => isStyle c || "*/".toList.contains c) s →
      Consists test s := by
    intro s pieces
    refine pieces.mono fun c either => ?_
    rcases Bool.or_eq_true_iff.1 either with of_style | of_comment
    · exact style c of_style
    · exact marks c (List.contains_iff_mem.1 of_comment)
  rw [sheet]
  unfold styleSheet
  refine Consists.append ?_ (fixed (by decide))
  refine Consists.append ?_ in_rules
  refine Consists.append ?_ (fixed (by decide))
  refine Consists.append ?_ (fixed (by decide))
  refine Consists.append ?_ in_blocks
  refine Consists.append ?_ (fixed (by decide))
  exact Consists.append (fixed (by decide)) (fixed (by decide))

/-- No style sheet opens a tag. -/
theorem lt_not_mem_css (h : (compile config forceLoop).outcome = .ok timeline)
    (printed : timeline.css = .ok css) : '<' ∉ css.toList := by
  have other : ∀ c, isStyle c = true → (c != '<') = true := by
    intro c style
    rw [bne_iff_ne]
    rintro rfl
    cases style
  have clean : Consists (· != '<') css := consists_css h printed other (by decide)
  exact clean.not_mem rfl

end Timeline

end TerminalReel
