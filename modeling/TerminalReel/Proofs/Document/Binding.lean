import TerminalReel.Proofs.Document.Outline
import TerminalReel.Proofs.Document.StyleReader
/-!
# TerminalReel.Proofs.Document.Binding

**Drawing and style sheet are bound** to each other, part by part.

Every part of an animation has one class in the drawing, one block of keyframes and one
rule, and they carry its names and no other's. The sheet is read back piece by piece:
a block of keyframes as its name, a rule as its selector and the words of its
animation. The walk that prints the sheet and the walk that draws the groups visit the
same parts, those of the steps in order.
-/

namespace TerminalReel

open Style

/-! ### Pieces of a sheet -/

theorem isWord_keyframesName (part : Part) : IsWord part.keyframesName := by
  have some_letters : part.keyframesName.toList ≠ [] := by
    obtain ⟨kind, step⟩ := part
    cases kind <;> simp [Part.keyframesName, toString]
  exact isWord_of_solid (part.plain_keyframesName.mono fun _ => isSolid_of_isPlain) some_letters

theorem isWord_selector (part : Part) : IsWord part.selector := by
  have solid : Consists isSolid part.selector :=
    Consists.append (by decide) (part.plain_cssClass.mono fun _ => isSolid_of_isPlain)
  exact isWord_of_solid solid (by simp [Part.selector])

theorem isWord_timingFunction (part : Part) : IsWord part.timingFunction := by
  have steps : IsWord "steps(1, end)" := ⟨by decide, fun seen rest => by simp [wordsFrom]⟩
  obtain ⟨kind, step⟩ := part
  cases kind with
  | char index => exact steps
  | lines | prompt | command =>
      exact show IsWord "linear" from isWord_of_solid (by decide) (by decide)

/-- The words of an animation are read as they are. -/
theorem isWord_animationWords (loop : Bool) {duration : String} (plain : Plain duration)
    (part : Part) : ∀ word ∈ animationWords loop duration part, IsWord word := by
  have length : IsWord (duration ++ "ms") :=
    isWord_of_solid ((plain.append (by decide)).mono fun _ => isSolid_of_isPlain) (by simp)
  have fixed : ∀ word ∈ ["0ms", "infinite", "1", "forwards"],
      Consists isSolid word ∧ word.toList ≠ [] := by
    decide
  exact forall_animationWords (isWord_keyframesName part) length (isWord_timingFunction part)
    (fun word mem => isWord_of_solid (fixed word mem).1 (fixed word mem).2) loop

theorem balanced_of_plain {s : String} (plain : Plain s) : Balanced s.toList :=
  balanced_of_not_mem (plain.not_mem rfl) (plain.not_mem rfl)

theorem balanced_line {frame : Keyframe} {line : String} (h : frame.line = .ok line) :
    Balanced line.toList := by
  obtain ⟨percent, compact, e⟩ := bind_eq_ok.1 h
  obtain rfl := pure_eq_ok.1 e
  have printed : ("  " ++ percent ++ "% \x7b " ++ frame.declarations ++ " \x7d").toList
      = "  ".toList ++ percent.toList ++ "% ".toList ++
        ('\x7b' :: (" opacity: ".toList ++ frame.opacity.repr.toList ++ "; ".toList) ++
          ['\x7d']) := by
    simp [Keyframe.declarations, toString]
  have fixed : ∀ s ∈ ["  ", "% ", " opacity: ", "; "], '\x7b' ∉ s.toList ∧ '\x7d' ∉ s.toList := by
    decide
  simp only [List.forall_mem_cons] at fixed
  obtain ⟨indent, sign, name, ending, -⟩ := fixed
  have inside := ((balanced_of_not_mem name.1 name.2).append
    (balanced_of_plain (plain_intRepr frame.opacity))).append
    (balanced_of_not_mem ending.1 ending.2)
  rw [printed]
  exact (((balanced_of_not_mem indent.1 indent.2).append
    (balanced_of_plain (plain_compact compact))).append (balanced_of_not_mem sign.1 sign.2)).append
    inside.braces

/-- A block of keyframes is read as its name. -/
theorem reads_keyframes {track : Track} {css : String} (plain : Plain track.name)
    (word : IsWord track.name) (h : track.css = .ok css) :
    Reads css.toList [.keyframes track.name] := by
  obtain ⟨entries, lines, e⟩ := bind_eq_ok.1 h
  obtain rfl := pure_eq_ok.1 e
  have printed : ("@keyframes " ++ track.name ++ " \x7b\n" ++ String.intercalate "\n" entries ++
      "\n\x7d").toList = ("@keyframes " ++ track.name ++ " ").toList ++
        '\x7b' :: ("\n".toList ++ (String.intercalate "\n" entries).toList ++ "\n".toList)
          ++ ['\x7d'] := by
    simp
  have line_end : Balanced "\n".toList := balanced_of_not_mem (by decide) (by decide)
  have frames : Balanced (String.intercalate "\n" entries).toList :=
    intercalate_induction (balanced_of_not_mem (by simp) (by simp)) Balanced.append line_end
      fun entry mem =>
        let ⟨_, _, ok⟩ := exists_of_mem_mapM lines mem
        balanced_line ok
  have keyword : IsWord "@keyframes" := isWord_of_solid (by decide) (by decide)
  have no_open := plain.not_mem (c := '\x7b') rfl
  refine printed ▸ reads_block (by simp [no_open]) ((line_end.append frames).append line_end) ?_
  intro before white
  have head : words (before ++ ("@keyframes " ++ track.name ++ " ").toList)
      = ["@keyframes", track.name] := by
    have read := words_intercalate white ["@keyframes", track.name] (by simp [keyword, word])
      [' '] (by decide)
    simpa [String.toList_intercalate, List.intercalate] using read
  simp only [RawBlock.read, head]

/-- A rule is read as the selector of its part and the words of its animation. -/
theorem reads_ruleText (loop : Bool) {duration : String} (plain : Plain duration) (part : Part) :
    Reads (ruleText loop duration part).toList
      [.rule [part.selector] [⟨"animation", animationWords loop duration part⟩]] := by
  have value := value_animationWords loop plain part
  have selects := part.plain_cssClass
  have printed : (ruleText loop duration part).toList
      = (part.selector ++ " ").toList ++ '\x7b' :: (" animation".toList ++ ':' ::
        (" " ++ String.intercalate " " (animationWords loop duration part)).toList ++ ';' ::
          [' ']) ++ ['\x7d'] := by
    simp [ruleText]
  have no_open := value.not_mem (c := '\x7b') rfl
  have no_close := value.not_mem (c := '\x7d') rfl
  have no_end := value.not_mem (c := ';') rfl
  have no_open' := selects.not_mem (c := '\x7b') rfl
  refine printed ▸ reads_block (by simp [Part.selector, no_open'])
    (balanced_of_not_mem (by simpa using no_open) (by simpa using no_close)) ?_
  intro before white
  have head : words (before ++ (part.selector ++ " ").toList) = [part.selector] := by
    have read := words_intercalate white [part.selector] (by simp [isWord_selector]) [' ']
      (by decide)
    simpa using read
  have property : String.join (words ([] ++ " animation".toList)) = "animation" := by
    decide +kernel
  have space : Blank [' '] := by decide
  have words_value := words_intercalate space _ (isWord_animationWords loop plain part) []
    (by decide)
  simp only [RawBlock.read, head]
  rw [declarationsFrom_append (by decide) (by decide) (by simpa using no_end), property,
    declarationsFrom_blank (by decide)]
  simpa using words_value

/-! ### Whole sheets -/

/-- The rule for all of the drawing. -/
def inheritRule : Item := .rule ["svg", "*"] [⟨"vector-effect", ["inherit"]⟩]

theorem reads_inherit : Reads "svg * \x7b vector-effect: inherit; \x7d".toList [inheritRule] := by
  have printed : "svg * \x7b vector-effect: inherit; \x7d".toList
      = "svg * ".toList ++ '\x7b' :: " vector-effect: inherit; ".toList ++ ['\x7d'] := rfl
  refine printed ▸ reads_block (by decide) (balanced_of_not_mem (by decide) (by decide)) ?_
  intro before white
  have word : ∀ word ∈ ["svg", "*"], Consists isSolid word ∧ word.toList ≠ [] := by decide
  have head : words (before ++ "svg * ".toList) = ["svg", "*"] := by
    have read := words_intercalate white ["svg", "*"]
      (fun w mem => isWord_of_solid (word w mem).1 (word w mem).2) [' '] (by decide)
    simpa [String.toList_intercalate, List.intercalate] using read
  have body : declarationsFrom none [] " vector-effect: inherit; ".toList
      = [⟨"vector-effect", ["inherit"]⟩] := by
    decide +kernel
  simp only [RawBlock.read, head, body]
  rfl

/-- A sheet in its element holds the rule for all of the drawing and then the items of
its pieces, in order. -/
theorem items_styleSheet {keyframes rules : List String} {read read' : List Item}
    (blocks : List.Forall₂ (fun text item => Reads text.toList [item]) keyframes read)
    (ruled : List.Forall₂ (fun text item => Reads text.toList [item]) rules read')
    (no_slash : '/' ∉ (String.intercalate "\n" keyframes).toList)
    (no_slash' : '/' ∉ (String.intercalate "\n" rules).toList) :
    items ("\n" ++ styleSheet keyframes rules ++ "\n  ") = inheritRule :: (read ++ read') := by
  have vector : "/* Vector effect inheritance */\n".toList
      = '/' :: '*' :: " Vector effect inheritance ".toList ++ '*' :: '/' :: ['\n'] := rfl
  have second : "/* Keyframes */\n".toList
      = '/' :: '*' :: " Keyframes ".toList ++ '*' :: '/' :: ['\n'] := rfl
  have third : "/* Rules */\n".toList
      = '/' :: '*' :: " Rules ".toList ++ '*' :: '/' :: ['\n'] := rfl
  have uncommented : uncommentFrom false ("\n" ++ styleSheet keyframes rules ++ "\n  ").toList
      = "\n\n".toList ++ "svg * \x7b vector-effect: inherit; \x7d".toList ++ "\n\n\n".toList
        ++ (String.intercalate "\n" keyframes).toList ++ "\n\n\n".toList
        ++ (String.intercalate "\n" rules).toList ++ "\n\n  ".toList := by
    unfold styleSheet
    simp only [String.toList_append, List.append_assoc]
    rw [uncommentFrom_text "\n".toList (by decide),
      uncommentFrom_comment vector (by decide),
      uncommentFrom_text "svg * \x7b vector-effect: inherit; \x7d\n\n".toList (by decide),
      uncommentFrom_comment second (by decide), uncommentFrom_text _ no_slash,
      uncommentFrom_text "\n\n".toList (by decide),
      uncommentFrom_comment third (by decide), uncommentFrom_text _ no_slash',
      uncommentFrom_text "\n".toList (by decide)]
    rfl
  have all := ((((((reads_blank "\n\n".toList (by decide)).append reads_inherit).append
    (reads_blank "\n\n\n".toList (by decide))).append (reads_intercalate blocks)).append
    (reads_blank "\n\n\n".toList (by decide))).append (reads_intercalate ruled)).append
    (reads_blank "\n\n  ".toList (by decide))
  rw [items, uncommented, all.items_eq]
  simp

/-! ### The sheet of a drawing -/

section Sheet

open Markup

variable {attributes : Attributes} {css : String} {others : List Block}

/-- The style sheet is what stands in the one element of style that a drawing has. -/
theorem contents_style (plain : PlainTag "svg" attributes)
    (sound : SoundBlocks (.element "style" [] [.verbatim css] :: others))
    (absent : ∀ tag ∈ blockTags others, tag.name ≠ "style") :
    contents "style" (Document.renderSvg
      (.element "svg" attributes (.element "style" [] [.verbatim css] :: others)))
      = [Text.ofString ("\n" ++ css ++ "\n  ")] := by
  have declared : tagName (Text.ofString "?xml version=\"1.0\" encoding=\"UTF-8\"?").points
      ≠ "style" := by
    decide +kernel
  have plain_style : PlainTag "style" [] := plainTag [] rfl (by decide)
  have nothing : contentsFrom "style" none
      (blockTokens 1 others ++ (lineStart 0 ++ [closeToken "svg"])) = [] := by
    refine contentsFrom_eq_nil fun tag mem => ?_
    rw [tagsOf_append, tagsOf_append, tagsOf_blockTokens 1 others sound.2, tagsOf_lineStart,
      tagsOf_closeToken plain.1] at mem
    rcases List.mem_append.1 mem with mem | mem
    · exact absent tag mem
    · obtain rfl : tag = .closing "svg" := by simpa using mem
      decide
  have read : tokens (Document.renderSvg
      (.element "svg" attributes (.element "style" [] [.verbatim css] :: others)))
      = .tag (Text.ofString "?xml version=\"1.0\" encoding=\"UTF-8\"?").points ::
        (lineStart 0 ++ openToken "svg" attributes :: (lineStart 1 ++ openToken "style" [] ::
          (textTokens ⟨.char '\n' :: (Text.ofString css).points⟩ ++
            (textTokens ⟨.char '\n' :: (indent 1).points⟩ ++ closeToken "style" ::
              (blockTokens 1 others ++ (lineStart 0 ++ [closeToken "svg"])))))) := by
    have tree : (Block.element "svg" attributes
      (.element "style" [] [.verbatim css] :: others)).Sound := ⟨plain, sound⟩
    rw [Document.renderSvg_eq, tokens_joinLines (by decide) tree]
    simp [blockTokens, Block.tokens, textTokens, lineStart]
  rw [contents, read, contentsFrom, if_neg declared, contentsFrom_lineStart, openToken,
    contentsFrom_tagInside plain (Or.inl rfl) (by decide), contentsFrom_lineStart,
    contentsFrom_opens plain_style, contentsFrom_text, contentsFrom_text, Option.map_some,
    Option.map_some, contentsFrom_closes plain_style.1, nothing]
  simp [indent, Text.ofString, Text.ofChars]

end Sheet

/-! ### Documents -/

/-- The rule of a part in a cycle of this written length, as it is read: for the class
of the part, with the name of its keyframes and what all rules have in common. -/
def ruleItem (loop : Bool) (duration : String) (animated : AnimatedPart) : Item :=
  .rule ["." ++ animated.part.cssClass]
    [⟨"animation", [animated.track.name, duration ++ "ms", animated.part.timingFunction, "0ms",
      if loop then "infinite" else "1"] ++ if loop then [] else ["forwards"]⟩]

/-- The results of a run are related to what each of its elements stands for. -/
theorem forall₂_of_mapM {ε α β γ : Type} {f : α → Except ε β} {g : α → γ} {R : β → γ → Prop}
    {as : List α} {bs : List β} (h : as.mapM f = .ok bs)
    (each : ∀ a ∈ as, ∀ b, f a = .ok b → R b (g a)) : List.Forall₂ R bs (as.map g) := by
  induction as generalizing bs with
  | nil =>
      obtain rfl := Except.ok.inj h
      exact .nil
  | cons a as ih =>
      obtain ⟨b, rest, first, later, rfl⟩ := mapM_cons_eq_ok.1 h
      obtain ⟨here, there⟩ := List.forall_mem_cons.1 each
      exact .cons (here b first) (ih later there)

/-- A printed sheet is read as the blocks and the rules of the parts, in order. -/
theorem Timeline.items_css {config : Config} {forceLoop : Bool} {timeline : Timeline}
    {css : String} (h : (compile config forceLoop).outcome = .ok timeline)
    (printed : timeline.css = .ok css) : ∃ ms duration,
      timeline.cycleMs = .ok ms ∧ ms.compact = .ok duration ∧
      items ("\n" ++ css ++ "\n  ") = inheritRule ::
        (timeline.parts.map (fun animated => .keyframes animated.track.name) ++
          timeline.parts.map (ruleItem timeline.loop duration)) := by
  obtain ⟨ms, duration, keyframes, length, compact, blocks, rfl⟩ := css_eq_ok h printed
  have plain := plain_compact compact
  refine ⟨ms, duration, length, compact, items_styleSheet ?_ ?_ ?_ ?_⟩
  · refine forall₂_of_mapM blocks fun animated mem css ok => ?_
    have name := (plays_of_compile h animated mem).name
    exact reads_keyframes (name ▸ animated.part.plain_keyframesName)
      (name ▸ isWord_keyframesName animated.part) ok
  · rw [List.forall₂_map_left_iff, List.forall₂_map_right_iff, List.forall₂_same]
    intro animated mem
    rw [ruleItem, (plays_of_compile h animated mem).name]
    exact reads_ruleText timeline.loop plain animated.part
  · exact (styleText_blocks h blocks).not_mem rfl
  · exact (styleText_rules timeline.loop plain timeline.parts).not_mem rfl

namespace Document

open Markup

/-- Each part of the animation has a class in the drawing, a block of keyframes and a
rule, and no other part has them. -/
structure BindsParts (document : Document) (config : Config) (loop : Bool) : Prop where
  /-- The parts are those of the steps, in order. -/
  parts : document.timeline.parts.map (·.part) = eachStep loop Step.parts 0 config.steps
  classes_nodup : (document.timeline.parts.map (·.part.cssClass)).Nodup
  names_nodup : (document.timeline.parts.map (·.track.name)).Nodup
  /-- The classes that the drawing's tags have are those of the parts. -/
  classes : (tags document.svg).flatMap (·.valuesOf "class")
    = document.timeline.parts.map fun animated => Text.ofString animated.part.cssClass
  /-- The drawing has one style sheet: the rule for all of it, a block of keyframes for
  each part and a rule for each part, all with the written length of the cycle. -/
  sheet : ∃ sheet ms duration, contents "style" document.svg = [Text.ofString sheet] ∧
    document.timeline.cycleMs = .ok ms ∧ ms.compact = .ok duration ∧
    items sheet = inheritRule ::
      (document.timeline.parts.map (fun animated => .keyframes animated.track.name) ++
        document.timeline.parts.map (ruleItem loop duration))

variable {config : Config} {stem : Text} {forceLoop : Bool} {document : Document}

/-- The style sheet of a drawing stands in its one element of style. -/
theorem contents_style_tree {timeline : Timeline} {drawing : Block}
    (compiled : (Timeline.compile config forceLoop).outcome = .ok timeline)
    (drawn : Drawing.tree timeline config = .ok drawing) : ∃ css : String,
      timeline.css = .ok css ∧
      contents "style" (renderSvg drawing) = [Text.ofString ("\n" ++ css ++ "\n  ")] := by
  obtain ⟨whole, -⟩ := (Drawing.holds_tree compiled drawn).sound
  obtain ⟨width, height, css, groups, -, -, printed, groups_drawn, rfl⟩ := Drawing.tree_eq_ok drawn
  obtain ⟨plain, sound⟩ := whole
  refine ⟨css, printed, contents_style plain sound fun tag mem => ?_⟩
  have others := (Drawing.holds_background config width height).append
    (Drawing.holds_groups (Timeline.showSteps_of_compile compiled) groups_drawn)
  have named : tag.name ∈ (blockTags _).map Tag.name := List.mem_map_of_mem mem
  obtain ⟨name, among, same⟩ := List.mem_map.1 (others.names ▸ named)
  rw [← same, Ne, Text.ofString_inj]
  rintro rfl
  rcases List.mem_append.1 among with among | among
  · exact absurd among (by decide)
  · obtain ⟨_, outline, typed, -, -, in_tags⟩ := exists_of_mem_eachStep among
    exact absurd (outline.tags_subset typed in_tags) (by decide)

/-- The drawing and the style sheet of a document are about the same parts, one to
one. -/
theorem build_binds_parts (h : (build config stem forceLoop).outcome = .ok document) :
    document.BindsParts config (forceLoop || config.loop) := by
  obtain ⟨drawing, -, compiled, drawn, -, svg, -⟩ := build_eq_ok h
  obtain ⟨-, loop, -⟩ := Timeline.compile_eq_ok compiled
  have holds := Drawing.holds_tree compiled drawn
  have parts := Timeline.parts_of_compile compiled
  have names : document.timeline.parts.map (·.track.name)
      = (document.timeline.parts.map (·.part)).map Part.keyframesName := by
    rw [List.map_map]
    exact List.map_congr_left fun animated mem =>
      (Timeline.plays_of_compile compiled animated mem).name
  have classes : document.timeline.parts.map (·.part.cssClass)
      = (document.timeline.parts.map (·.part)).map Part.cssClass := by
    rw [List.map_map]
    rfl
  refine ⟨loop ▸ parts, ?_, ?_, ?_, ?_⟩
  · rw [classes, parts]
    exact (nodup_parts _ 0 _).map Part.cssClass_injective
  · rw [names, parts]
    exact (nodup_parts _ 0 _).map Part.keyframesName_injective
  · have drawn_classes := holds.classes
    rw [blockTags, blockTags, List.append_nil, List.map_map] at drawn_classes
    rw [svg, tags_renderSvg holds.sound.1, List.flatMap_cons, drawn_classes]
    rfl
  · obtain ⟨css, printed, sheet⟩ := contents_style_tree compiled drawn
    obtain ⟨ms, duration, length, compact, read⟩ := Timeline.items_css compiled printed
    exact ⟨_, ms, duration, svg ▸ sheet, length, compact, loop ▸ read⟩

/-- Two steps with lines and one without in an animation that plays once. -/
def threeSteps : Config where
  steps := [{ lines := ["one", "two"], command := "ls" }, { command := "cd .." },
    { lines := ["bye"], command := "exit" }]
  loop := false

theorem build_binds_parts_threeSteps : ∃ document,
    (build threeSteps).outcome = .ok document ∧
      document.BindsParts threeSteps (false || threeSteps.loop) := by
  have built : (build threeSteps).outcome.isOk = true := by decide +kernel
  obtain ⟨document, built⟩ := exists_of_isOk built
  exact ⟨document, built, build_binds_parts built⟩

end Document

end TerminalReel
