import TerminalReel.Document.Page
import TerminalReel.Proofs.Document.StyleText
import TerminalReel.Proofs.Document.Tree
/-!
# TerminalReel.Proofs.Document.Outline

**What a reader finds in a drawing**: tags that the outline of the steps gives away,
and all the texts that the steps show.

An outline counts: how many lines a step has, how long its command is and whether its
prompt shows a path. The blocks that are drawn are taken one by one (`Holds`), from a
line of text to the groups of all scenes, and what is said of a scene is a function of
its step. So the names of the tags follow from the outlines, and no text has a part in
them; the texts themselves are read as they were written.
-/

namespace TerminalReel

open Markup

/-! ### Blocks -/

namespace Markup

/-- What a reader finds in blocks: the names of their tags, the classes of their
elements and the texts of their elements of text. -/
structure Holds (blocks : List Block) (names classes : List String) (texts : List Text) : Prop where
  sound : SoundBlocks blocks
  flat : FlatBlocks "text" blocks
  names : (blockTags blocks).map (·.name) = names.map Text.ofString
  classes : (blockTags blocks).flatMap (·.valuesOf "class") = classes.map Text.ofString
  texts : blockTexts "text" blocks = texts

/-- A tag is plain where the names in it are. -/
theorem plainTag {name : String} {attributes : Attributes} (names : List String)
    (same : attributes.map (·.1) = names) (plain : ∀ name' ∈ name :: names, Plain name') :
    PlainTag name attributes := by
  subst same
  obtain ⟨plain_name, plain_attributes⟩ := List.forall_mem_cons.1 plain
  exact ⟨plain_name, List.forall_mem_map.1 plain_attributes⟩

namespace Holds

variable {blocks blocks' : List Block} {names names' classes classes' : List String}
  {texts texts' : List Text}

theorem nil : Holds [] [] [] [] := ⟨trivial, trivial, rfl, rfl, rfl⟩

theorem append (first : Holds blocks names classes texts)
    (second : Holds blocks' names' classes' texts') :
    Holds (blocks ++ blocks') (names ++ names') (classes ++ classes') (texts ++ texts') where
  sound := soundBlocks_append.2 ⟨first.sound, second.sound⟩
  flat := flatBlocks_append.2 ⟨first.flat, second.flat⟩
  names := by rw [blockTags_append, List.map_append, first.names, second.names, List.map_append]
  classes := by
    rw [blockTags_append, List.flatMap_append, first.classes, second.classes, List.map_append]
  texts := by rw [blockTexts_append, first.texts, second.texts]

/-- An element around blocks, of another name than the elements of text. -/
theorem element {name : String} {attributes : Attributes}
    (inside : Holds blocks names classes texts) (own : List String)
    (plain : PlainTag name attributes) (other : name ≠ "text")
    (marked : (attributes.filter (·.1 = "class")).map (·.2) = own.map Text.ofString) :
    Holds [.element name attributes blocks] (name :: names ++ ["/" ++ name]) (own ++ classes)
      texts where
  sound := ⟨⟨plain, inside.sound⟩, trivial⟩
  flat := ⟨⟨other, inside.flat⟩, trivial⟩
  names := by simp [blockTags, Block.tags, inside.names]
  classes := by simp [blockTags, Block.tags, inside.classes, marked]
  texts := by simp [blockTexts, Block.textsOf, inside.texts]

/-- The group of a part. -/
theorem group (inside : Holds blocks names classes texts) (part : Part) :
    Holds [.element "g" [("class", part.cssClass)] blocks] ("g" :: names ++ ["/g"])
      (part.cssClass :: classes) texts :=
  inside.element [part.cssClass] (plainTag ["class"] rfl (by decide)) (by decide) rfl

end Holds

/-- What a reader finds in an element of text: elements of colour and a text. -/
structure Reads (contents : List Inline) (names : List String) (text : Text) : Prop where
  sound : SoundInlines contents
  avoided : AvoidedBy "text" contents
  names : (inlineTags contents).map (·.name) = names.map Text.ofString
  unmarked : (inlineTags contents).flatMap (·.valuesOf "class") = []
  text : inlinesText contents = text

theorem reads_text (text : Text) : Reads [.text text] [] text where
  sound := ⟨trivial, trivial⟩
  avoided := ⟨trivial, trivial⟩
  names := rfl
  unmarked := rfl
  text := by
    ext1
    exact List.append_nil _

/-- A line of text. -/
theorem holds_line {contents : List Inline} {names classes : List String} {text : Text}
    {attributes : Attributes} (inside : Reads contents names text)
    (plain : PlainTag "text" attributes)
    (marked : (attributes.filter (·.1 = "class")).map (·.2) = classes.map Text.ofString) :
    Holds [.line "text" attributes contents] ("text" :: names ++ ["/text"]) classes [text] where
  sound := ⟨⟨plain, inside.sound⟩, trivial⟩
  flat := ⟨inside.avoided, trivial⟩
  names := by simp [blockTags, Block.tags, inside.names]
  classes := by simp [blockTags, Block.tags, inside.unmarked, marked]
  texts := by simp [blockTexts, Block.textsOf, inside.text]

end Markup

/-! ### Outlines -/

/-- What the tags of a drawing give away of a step. -/
structure StepOutline where
  /-- How many lines the step has. -/
  lines : Nat
  /-- How long the command is. -/
  command : Nat
  /-- The prompt shows a path. -/
  path : Bool
  deriving DecidableEq

/-- The outline of a step. -/
def Step.outline (step : Step) : StepOutline :=
  ⟨step.lines.length, step.command.length, step.prompt.shownPath?.isSome⟩

/-- The names of tags that many times over. -/
def repeatTags (count : Nat) (names : List String) : List String :=
  (List.replicate count names).flatten

/-- The names of the tags of a prompt, with a path in it or without. -/
def promptTags (path : Bool) : List String :=
  "text" :: repeatTags (if path then 5 else 4) ["tspan", "/tspan"] ++ ["/text"]

/-- The names of the tags of a step: a group of lines, if there are any, and a group of
prompt and characters, if the command is typed. -/
def StepOutline.tags (outline : StepOutline) (typed : Bool) : List String :=
  (if outline.lines = 0 then [] else "g" :: repeatTags outline.lines ["text", "/text"] ++ ["/g"]) ++
    if typed then
      "g" :: (promptTags outline.path ++ repeatTags outline.command ["text", "/text"]) ++ ["/g"]
    else []

theorem repeatTags_subset {count : Nat} {names kinds : List String} (h : names ⊆ kinds) :
    repeatTags count names ⊆ kinds := by
  intro name mem
  obtain ⟨_, copies, mem⟩ := List.mem_flatten.1 mem
  exact h (List.eq_of_mem_replicate copies ▸ mem)

/-- The tags of a step are those of groups, of lines of text and of coloured parts. -/
theorem StepOutline.tags_subset (outline : StepOutline) (typed : Bool) :
    outline.tags typed ⊆ ["g", "/g", "text", "/text", "tspan", "/tspan"] := by
  have prompt : promptTags outline.path ⊆ ["g", "/g", "text", "/text", "tspan", "/tspan"] :=
    List.append_subset.2 ⟨List.cons_subset.2 ⟨by decide, repeatTags_subset (by decide)⟩, by decide⟩
  refine List.append_subset.2 ⟨?_, ?_⟩ <;> split
  · exact List.nil_subset _
  · exact List.append_subset.2
      ⟨List.cons_subset.2 ⟨by decide, repeatTags_subset (by decide)⟩, by decide⟩
  · exact List.append_subset.2 ⟨List.cons_subset.2
      ⟨by decide, List.append_subset.2 ⟨prompt, repeatTags_subset (by decide)⟩⟩, by decide⟩
  · exact List.nil_subset _

/-- The texts that a step shows: each of its lines and, if the command is typed, the
prompt and each code point of the command. -/
def Step.texts (step : Step) (typed : Bool) : List Text :=
  step.lines ++ if typed then step.prompt.text :: step.command.points.map Text.ofPoint else []

namespace Drawing

variable {config : Config}

/-- The block of a line holds one text element with that line. -/
theorem holds_lineBlock {index : Nat} {line : Text} {block : Block}
    (h : lineBlock config index line = .ok block) :
    Holds [block] ["text", "/text"] [] [line] := by
  obtain ⟨style, -, e⟩ := bind_eq_ok.1 h
  obtain rfl := pure_eq_ok.1 e
  exact holds_line (reads_text line) (plainTag ["x", "y", "style"] rfl (by decide)) rfl

theorem holds_lineBlocks {index : Nat} {lines : List Text} {blocks : List Block}
    (h : lineBlocks config index lines = .ok blocks) :
    Holds blocks (repeatTags lines.length ["text", "/text"]) [] lines := by
  induction lines generalizing index blocks with
  | nil =>
      obtain rfl := Except.ok.inj h
      exact .nil
  | cons line rest ih =>
      simp only [lineBlocks, bind_eq_ok, pure_eq_ok] at h
      obtain ⟨block, first, others, later, rfl⟩ := h
      exact (holds_lineBlock first).append (ih later)

theorem reads_nil : Reads [] [] default := ⟨trivial, trivial, rfl, rfl, rfl⟩

/-- Coloured text before other contents. -/
theorem reads_colored {contents : List Inline} {names : List String} {more : Text}
    (later : Reads contents names more) (color text : Text) :
    Reads (colored color text :: contents) ("tspan" :: "/tspan" :: names) (text ++ more) where
  sound := ⟨⟨plainTag ["style"] rfl (by decide), trivial, trivial⟩, later.sound⟩
  avoided := ⟨⟨by decide, trivial, trivial⟩, later.avoided⟩
  names := by simp [colored, inlineTags, Inline.tags, later.names]
  unmarked := by simp [colored, inlineTags, Inline.tags, later.unmarked]
  text := by rw [inlinesText, later.text, colored, Inline.plainText, (reads_text text).text]

/-- The coloured parts of a prompt read as the text of the prompt. -/
theorem reads_promptSpans (colors : Colors) (prompt : Prompt) :
    Reads (promptSpans colors prompt)
      (repeatTags (if prompt.shownPath?.isSome then 5 else 4) ["tspan", "/tspan"])
      prompt.text := by
  have symbol := reads_colored reads_nil colors.symbol prompt.symbol
  rw [promptSpans]
  cases shown : prompt.shownPath? with
  | none =>
      have text : prompt.text
          = prompt.user ++ ("@" ++ (prompt.host ++ (prompt.symbol ++ default))) := by
        ext1
        simp [Prompt.text, shown, default]
      rw [text]
      exact reads_colored (reads_colored (reads_colored symbol _ _) _ _) _ _
  | some path =>
      have text : prompt.text = prompt.user ++ ("@" ++ (prompt.host ++ ((":" ++ path) ++
          (prompt.symbol ++ default)))) := by
        ext1
        simp [Prompt.text, shown, default]
      rw [text]
      exact reads_colored (reads_colored (reads_colored (reads_colored symbol _ _) _ _) _ _) _ _

/-- The block of a prompt holds one text element with the prompt's text. -/
theorem holds_promptBlock {scene : Scene} {step : Step} {part : Part} {block : Block}
    (h : promptBlock config scene part = .ok block)
    (same : scene.placed.step.prompt = step.prompt) :
    Holds [block] (promptTags step.outline.path) [part.cssClass] [step.prompt.text] := by
  simp only [promptBlock, bind_eq_ok, pure_eq_ok, same] at h
  obtain ⟨x, -, y, -, z, -, style, -, rfl⟩ := h
  exact holds_line (reads_promptSpans config.colors step.prompt)
    (plainTag ["x", "y", "class", "style"] rfl (by decide)) rfl

/-- The block of a character holds one text element with that character. -/
theorem holds_charBlock {layout : Layout} {index : Nat} {typed : TypedChar} {block : Block}
    (h : charBlock config layout index typed = .ok block) :
    Holds [block] ["text", "/text"] [typed.animated.part.cssClass] [.ofPoint typed.char] := by
  simp only [charBlock, bind_eq_ok, pure_eq_ok] at h
  obtain ⟨x, -, y, -, z, -, w, -, style, -, rfl⟩ := h
  exact holds_line (reads_text (.ofPoint typed.char))
    (plainTag ["x", "y", "class", "style"] rfl (by decide)) rfl

theorem holds_charBlocks {layout : Layout} {index : Nat} {typed : List TypedChar}
    {blocks : List Block} (h : charBlocks config layout index typed = .ok blocks) :
    Holds blocks (repeatTags typed.length ["text", "/text"])
      (typed.map (·.animated.part.cssClass)) (typed.map fun char => .ofPoint char.char) := by
  induction typed generalizing index blocks with
  | nil =>
      obtain rfl := Except.ok.inj h
      exact .nil
  | cons char rest ih =>
      simp only [charBlocks, bind_eq_ok, pure_eq_ok] at h
      obtain ⟨block, first, others, later, rfl⟩ := h
      exact (holds_charBlock first).append (ih later)

/-! ### Scenes -/

section Scenes

variable {charWidth : Number} {index : Nat} {scene : Scene} {step : Step} {typed : Bool}
  {blocks : List Block}

/-- The group of a scene's lines is that of its step. -/
theorem holds_linesGroup (shown : scene.Shows charWidth index step typed)
    (h : linesGroup config scene = .ok blocks) :
    Holds blocks
      (if step.outline.lines = 0 then []
        else "g" :: repeatTags step.outline.lines ["text", "/text"] ++ ["/g"])
      (scene.lines.toList.map (·.part.cssClass)) step.lines := by
  have lines := shown.lines
  by_cases empty : step.lines.isEmpty = true
  · rw [if_pos empty] at lines
    rw [linesGroup, lines] at h
    obtain rfl := Except.ok.inj h
    have nothing := List.isEmpty_iff.1 empty
    simpa [Step.outline, nothing, lines] using Holds.nil
  · rw [if_neg empty] at lines
    obtain ⟨animated, some_lines, part⟩ := lines
    simp only [linesGroup, some_lines, bind_eq_ok, pure_eq_ok] at h
    obtain ⟨inside, printed, rfl⟩ := h
    rw [shown.lines_eq] at printed
    have some_line : step.outline.lines ≠ 0 := by
      simpa [Step.outline] using empty
    rw [if_neg some_line, some_lines]
    exact (holds_lineBlocks printed).group animated.part

/-- The group of a scene's command is that of its step. -/
theorem holds_commandGroup (shown : scene.Shows charWidth index step typed)
    (h : commandGroup config scene = .ok blocks) :
    Holds blocks
      (if typed then "g" :: (promptTags step.outline.path ++
        repeatTags step.outline.command ["text", "/text"]) ++ ["/g"] else [])
      (match scene.typed with
        | some typed => (typed.command :: typed.prompt :: typed.characters.map (·.animated)).map
            (·.part.cssClass)
        | none => [])
      (if typed then step.prompt.text :: step.command.points.map Text.ofPoint else []) := by
  have command := shown.typed
  cases typed with
  | false =>
      have none : scene.typed = none := command
      rw [commandGroup, none] at h
      obtain rfl := Except.ok.inj h
      rw [none]
      exact .nil
  | true =>
      obtain ⟨typed, some_typed, shown_typed⟩ := command
      simp only [commandGroup, some_typed, bind_eq_ok, pure_eq_ok] at h
      obtain ⟨prompt, prompted, characters, typing, rfl⟩ := h
      have inside := (holds_promptBlock prompted shown.prompt_eq).append (holds_charBlocks typing)
      have count : typed.characters.length = step.outline.command := by
        simpa [Step.outline, Text.length] using congrArg List.length shown_typed.chars
      have points : (typed.characters.map fun char => Text.ofPoint char.char)
          = step.command.points.map Text.ofPoint := by
        rw [← shown_typed.chars, List.map_map]
        rfl
      rw [count, points] at inside
      simpa [some_typed, Function.comp_def] using inside.group typed.command.part

/-- The groups of a scene are those of its step. -/
theorem holds_sceneGroups (shown : scene.Shows charWidth index step typed)
    (h : sceneGroups config scene = .ok blocks) :
    Holds blocks (step.outline.tags typed) (scene.parts.map (·.part.cssClass))
      (step.texts typed) := by
  simp only [sceneGroups, bind_eq_ok, pure_eq_ok] at h
  obtain ⟨lines, printed, command, typing, rfl⟩ := h
  have both := (holds_linesGroup shown printed).append (holds_commandGroup shown typing)
  rw [Scene.parts, List.map_append]
  cases types : scene.typed with
  | none | some _ =>
      rw [types] at both
      exact both

/-- The groups of an animation are those of its steps, in order. -/
theorem holds_groups {loop : Bool} {scenes : List Scene} {steps : List Step}
    {groups : List (List Block)} (shown : ShowSteps charWidth loop index scenes steps)
    (h : scenes.mapM (sceneGroups config) = .ok groups) :
    Holds groups.flatten
      (eachStep loop (fun _ => StepOutline.tags) index (steps.map Step.outline))
      ((scenes.flatMap Scene.parts).map (·.part.cssClass))
      (eachStep loop (fun _ => Step.texts) index steps) := by
  induction shown generalizing groups with
  | nil index =>
      obtain rfl := Except.ok.inj h
      exact .nil
  | cons first later ih =>
      obtain ⟨blocks, others, printed, rest, rfl⟩ := mapM_cons_eq_ok.1 h
      rw [List.flatMap_cons, List.map_append, List.map_cons, eachStep, List.isEmpty_map, eachStep]
      exact (holds_sceneGroups first printed).append (ih rest)

end Scenes

/-! ### Drawings -/

section Trees

variable {timeline : Timeline} {drawing : Block}

/-- A drawing is its style sheet, its background and the groups of its scenes. -/
theorem tree_eq_ok (h : tree timeline config = .ok drawing) : ∃ width height css groups,
    config.width.fullText = .ok width ∧ config.height.fullText = .ok height ∧
      timeline.css = .ok css ∧ timeline.scenes.mapM (sceneGroups config) = .ok groups ∧
      drawing = .element "svg" (attributes timeline width height)
        (.element "style" [] [.verbatim css] :: background config width height ::
          groups.flatten) := by
  simp only [tree, bind_eq_ok, pure_eq_ok] at h
  obtain ⟨width, wide, height, high, css, printed, groups, drawn, rfl⟩ := h
  exact ⟨width, height, css, groups, wide, high, printed, drawn, rfl⟩

theorem holds_style {css : String} (clean : '<' ∉ css.toList) :
    Holds [.element "style" [] [.verbatim css]] ["style", "/style"] [] [] := by
  have inside : Holds [.verbatim css] [] [] [] :=
    ⟨⟨by simpa [Block.Sound] using clean, trivial⟩, ⟨trivial, trivial⟩, rfl, rfl, rfl⟩
  exact inside.element [] (plainTag [] rfl (by decide)) (by decide) rfl

theorem holds_background (config : Config) (width height : String) :
    Holds [background config width height] ["rect"] [] [] where
  sound := ⟨plainTag ["width", "height", "fill"] rfl (by decide), trivial⟩
  flat := ⟨show "rect" ≠ "text" by decide, trivial⟩
  names := rfl
  classes := rfl
  texts := rfl

/-- The names of the tags of a drawing. -/
def tagNames (loop : Bool) (outlines : List StepOutline) : List String :=
  "svg" :: (["style", "/style", "rect"] ++ eachStep loop (fun _ => StepOutline.tags) 0 outlines)
    ++ ["/svg"]

/-- A drawing has the tags of its outline, the classes of its parts and the texts of
its steps. -/
theorem holds_tree {forceLoop : Bool}
    (compiled : (Timeline.compile config forceLoop).outcome = .ok timeline)
    (h : tree timeline config = .ok drawing) :
    Holds [drawing] (tagNames timeline.loop (config.steps.map Step.outline))
      (timeline.parts.map (·.part.cssClass))
      (eachStep timeline.loop (fun _ => Step.texts) 0 config.steps) := by
  obtain ⟨width, height, css, groups, -, -, printed, drawn, rfl⟩ := tree_eq_ok h
  have style := holds_style (Timeline.lt_not_mem_css compiled printed)
  have inside := (style.append (holds_background config width height)).append
    (holds_groups (Timeline.showSteps_of_compile compiled) drawn)
  exact inside.element [] (plainTag ["width", "height", "viewBox", "xmlns",
    "data-duration", "preserveAspectRatio"] rfl (by decide)) (by decide) rfl

end Trees

end Drawing

namespace Page

/-- The names of the tags of a page that links to a drawing. -/
def linkTagNames : List String := ["html", "body", "img", "/body", "/html"]

/-- A page that links has one image, whose source is the file of the drawing. -/
theorem tags_link (css : String) (drawing : Block) (stem : Text) :
    (tree false css drawing stem).Sound ∧
      (tree false css drawing stem).tags.map (·.name) = linkTagNames.map Text.ofString ∧
      ((tree false css drawing stem).tags.filter (·.name = ("img" : Text))).flatMap
        (·.valuesOf "src") = [stem ++ ".svg"] := by
  refine ⟨⟨plainTag ["style"] rfl (by decide), ⟨plainTag ["width", "height"] rfl (by decide),
    plainTag ["src", "width", "alt"] rfl (by decide), trivial⟩, trivial⟩, rfl, ?_⟩
  simp [tree, around, link, Block.tags, blockTags]

end Page

/-! ### Documents -/

namespace Document

/-- The document holds the texts of the configuration and nothing of them in its
markup. -/
structure KeepsTexts (document : Document) (config : Config) (stem : Text) (loop : Bool) :
    Prop where
  /-- The names of the drawing's tags follow from the outlines of the steps. -/
  names : (tags document.svg).map (·.name)
    = ("?xml" :: Drawing.tagNames loop (config.steps.map Step.outline)).map Text.ofString
  /-- The elements of text, read, are the texts of the steps, in order. -/
  texts : (contents "text" document.svg).map decode
    = eachStep loop (fun _ => Step.texts) 0 config.steps
  /-- A prompt is as wide as its text is long. -/
  widths : ∀ (k : Nat) (scene : Scene) (step : Step), document.timeline.scenes[k]? = some scene →
    config.steps[k]? = some step →
    (Number.int step.prompt.text.length).mul config.charWidth = .ok scene.layout.promptWidth
  /-- A page that links to the drawing has the same tags always. -/
  page : config.embed = false → (tags document.html).map (·.name)
    = ("!DOCTYPE" :: Page.linkTagNames).map Text.ofString
  /-- And it refers to the drawing's file. -/
  link : config.embed = false →
    ((tags document.html).filter (·.name = ("img" : Text))).flatMap (·.valuesOf "src")
      = [stem ++ ".svg"]

variable {config : Config} {stem : Text} {forceLoop : Bool} {document : Document}

/-- A document is a drawing of the compiled animation and a page. -/
theorem build_eq_ok (h : (build config stem forceLoop).outcome = .ok document) :
    ∃ drawing css, (Timeline.compile config forceLoop).outcome = .ok document.timeline ∧
      Drawing.tree document.timeline config = .ok drawing ∧ document.timeline.css = .ok css ∧
      document.svg = renderSvg drawing ∧
      document.html = renderHtml (Page.tree config.embed css drawing stem) := by
  simp only [build, ofTimeline, Attempt.outcome_bind, Attempt.outcome_ofExcept, bind_eq_ok,
    mapError_eq_ok, pure_eq_ok] at h
  obtain ⟨timeline, compiled, drawing, drawn, css, printed, rfl⟩ := h
  exact ⟨drawing, css, compiled, drawn, printed, rfl, rfl⟩

section Rendering

variable {block : Block}

theorem renderSvg_eq (drawing : Block) : renderSvg drawing
    = joinLines (Text.ofString ("<" ++ "?xml version=\"1.0\" encoding=\"UTF-8\"?" ++ ">") ::
        drawing.lines 0) := rfl

theorem renderHtml_eq (page : Block) : renderHtml page
    = joinLines (Text.ofString ("<" ++ "!DOCTYPE html" ++ ">") :: page.lines 0) := rfl

/-- The tags of a drawing's file are those of the drawing, behind the declaration. -/
theorem tags_renderSvg (sound : block.Sound) : tags (renderSvg block)
    = ⟨"?xml", [("version", "1.0"), ("encoding", "UTF-8")]⟩ :: block.tags := by
  have declared : Tag.read (Text.ofString "?xml version=\"1.0\" encoding=\"UTF-8\"?").points
      = ⟨"?xml", [("version", "1.0"), ("encoding", "UTF-8")]⟩ := by
    decide +kernel
  rw [renderSvg_eq, tags_joinLines (by decide) sound, declared]

/-- The texts of a drawing's file, read, are those of the drawing. -/
theorem decode_contents_renderSvg (sound : block.Sound) (flat : block.Flat "text") :
    (contents "text" (renderSvg block)).map decode = block.textsOf "text" := by
  have declared : tagName (Text.ofString "?xml version=\"1.0\" encoding=\"UTF-8\"?").points
      ≠ "text" := by
    decide +kernel
  rw [renderSvg_eq, decode_contents_joinLines (by decide) sound (by decide) flat declared]

/-- The tags of a page's file are those of the page, behind the declaration. -/
theorem tags_renderHtml (sound : block.Sound) :
    tags (renderHtml block) = ⟨"!DOCTYPE", []⟩ :: block.tags := by
  have declared : Tag.read (Text.ofString "!DOCTYPE html").points = ⟨"!DOCTYPE", []⟩ := by
    decide +kernel
  rw [renderHtml_eq, tags_joinLines (by decide) sound, declared]

end Rendering

/-- Whatever texts a configuration holds, they change nothing in the markup of its
documents, and they can be read there as they are. -/
theorem build_keeps_texts (h : (build config stem forceLoop).outcome = .ok document) :
    document.KeepsTexts config stem (forceLoop || config.loop) := by
  obtain ⟨drawing, css, compiled, drawn, printed, svg, html⟩ := build_eq_ok h
  obtain ⟨-, loop, -⟩ := Timeline.compile_eq_ok compiled
  have holds := Drawing.holds_tree compiled drawn
  have names := holds.names
  have texts := holds.texts
  simp only [blockTags, blockTexts, List.append_nil, loop] at names texts
  constructor
  · rw [svg, tags_renderSvg holds.sound.1, List.map_cons, names]
    rfl
  · rw [svg, decode_contents_renderSvg holds.sound.1 holds.flat.1, texts]
  · intro k scene step at_scene at_step
    exact ((Timeline.shows_of_compile compiled).2 k scene step at_scene at_step).promptWidth
  · intro linking
    obtain ⟨sound, names, -⟩ := Page.tags_link css drawing stem
    rw [html, linking, tags_renderHtml sound, List.map_cons, names]
    rfl
  · intro linking
    obtain ⟨sound, -, src⟩ := Page.tags_link css drawing stem
    rw [html, linking, tags_renderHtml sound, List.filter_cons_of_neg (by decide), src]

/-- Texts that would be markup, in every place where a configuration has one. -/
def markedUp : Config where
  steps := [
    { lines := ["</text><g>", "&lt;", ""]
      prompt := { user := "<b>", host := "a\"b", symbol := "'>", path := some "--></svg>" }
      command := "<&>\"" },
    { prompt := { path := some "" }, command := "x" }]
  colors := { lines := "\"><script>", path := some "red;" }
  fontFamily := "'mono' & <sans>"

theorem build_keeps_texts_markedUp : ∃ document,
    (build markedUp "a&b").outcome = .ok document ∧
      document.KeepsTexts markedUp "a&b" (false || markedUp.loop) := by
  have built : (build markedUp "a&b").outcome.isOk = true := by decide +kernel
  obtain ⟨document, built⟩ := exists_of_isOk built
  exact ⟨document, built, build_keeps_texts built⟩

end Document

end TerminalReel
