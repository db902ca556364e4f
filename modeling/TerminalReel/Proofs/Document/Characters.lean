import TerminalReel.Config.Reader
import TerminalReel.Proofs.Document.Outline
import TerminalReel.Proofs.Json.Characters
/-!
# TerminalReel.Proofs.Document.Characters

Which **characters** stand in a drawing, and where those come from that a document of
XML must not hold.

What the program writes by itself is visible ASCII. Escaping changes five characters
that are all allowed, and leaves every other one as it is. So the code points that are
not allowed are, one by one and in order, those of the texts that the drawing shows
(`strays_svg`): a drawing is a document of XML exactly if all of these texts are of
allowed characters.
-/

namespace TerminalReel

open Markup

/-! ### Allowed characters -/

/-- XML 1.0 allows the code point in a document: the tab, the two line ends, and all
from the space on but surrogates and the last two of the first plane. -/
def CodePoint.isAllowed (point : CodePoint) : Bool :=
  point.number == 0x9 || point.number == 0xA || point.number == 0xD ||
    (0x20 ≤ point.number && point.number ≤ 0xD7FF) ||
    (0xE000 ≤ point.number && point.number ≤ 0xFFFD) ||
    (0x10000 ≤ point.number && point.number ≤ 0x10FFFF)

theorem CodePoint.isAllowed_surrogate (offset : Fin 0x800) :
    (CodePoint.surrogate offset).isAllowed = false := by
  have number : (CodePoint.surrogate offset).number = 0xD800 + offset.val := rfl
  simp only [isAllowed, number, Bool.or_eq_false_iff, Bool.and_eq_false_imp, beq_eq_false_iff_ne,
    decide_eq_true_eq, decide_eq_false_iff_not]
  omega

/-- XML 1.0 allows the character in a document. -/
def isAllowedChar (c : Char) : Bool := (CodePoint.char c).isAllowed

/-- A string of allowed characters. -/
abbrev Allowed (s : String) : Prop := Consists isAllowedChar s

theorem isAllowedChar_of_isPrinted {c : Char} (h : Json.isPrinted c = true) :
    isAllowedChar c = true := by
  simp only [Json.isPrinted, Bool.or_eq_true, Bool.and_eq_true, beq_iff_eq,
    decide_eq_true_eq] at h
  rcases h with rfl | ⟨least, greatest⟩
  · rfl
  · have number : (CodePoint.char c).number = c.toNat := rfl
    simp only [isAllowedChar, CodePoint.isAllowed, Bool.or_eq_true, Bool.and_eq_true, beq_iff_eq,
      decide_eq_true_eq]
    omega

theorem Allowed.of_printed {s : String} (h : Json.Printed s) : Allowed s :=
  h.mono fun _ => isAllowedChar_of_isPrinted

theorem isPrinted_of_isPlain {c : Char} (h : isPlain c = true) : Json.isPrinted c = true := by
  have between : ∀ first last : Char, 0x20 ≤ first.toNat → last.toNat ≤ 0x7E →
      first.val ≤ c.val → c.val ≤ last.val → Json.isPrinted c = true := by
    intro first last least greatest low high
    exact Json.isPrinted_of_bounds (least.trans (UInt32.le_iff_toNat_le.1 low))
      ((UInt32.le_iff_toNat_le.1 high).trans greatest)
  rcases Bool.or_eq_true_iff.1 h with alphanumeric | point
  · rcases Bool.or_eq_true_iff.1 alphanumeric with alphanumeric | hyphen
    · rcases Bool.or_eq_true_iff.1 alphanumeric with letter | digit
      · rcases Bool.or_eq_true_iff.1 letter with upper | lower
        · obtain ⟨low, high⟩ := of_decide_eq_true upper
          exact between 'A' 'Z' (by decide) (by decide) low high
        · obtain ⟨low, high⟩ := Bool.and_eq_true_iff.1 lower
          exact between 'a' 'z' (by decide) (by decide) (of_decide_eq_true low)
            (of_decide_eq_true high)
      · exact Json.isPrinted_of_isDigit digit
    · obtain rfl := eq_of_beq hyphen
      rfl
  · obtain rfl := eq_of_beq point
    rfl

theorem Allowed.of_plain {s : String} (h : Plain s) : Allowed s :=
  .of_printed (h.mono fun _ => isPrinted_of_isPlain)

/-- What a style sheet is written with is allowed. -/
theorem isAllowedChar_of_isStyle {c : Char} (h : isStyle c = true) : isAllowedChar c = true := by
  rcases Bool.or_eq_true_iff.1 h with plain | mark
  · exact isAllowedChar_of_isPrinted (isPrinted_of_isPlain plain)
  · have all : Allowed " \n@%\x7b\x7d:;()," := by decide
    exact all c (List.contains_iff_mem.1 mark)

/-- A number in full is written with allowed characters. -/
theorem allowed_text (n : Number) : Allowed n.text :=
  Json.consists_text (fun _ digit => isAllowedChar_of_isPrinted (Json.isPrinted_of_isDigit digit))
    (by decide) (by decide) n

/-! ### Stray code points -/

/-- The code points of a text that are not allowed, in order. -/
def Text.strays (text : Text) : List CodePoint := text.points.filter (!·.isAllowed)

/-- The code points of some texts that are not allowed, in order. -/
def straysOf (texts : List Text) : List CodePoint := texts.flatMap Text.strays

section Strays

variable {a b : Text} {s : String} {texts more : List Text}

theorem strays_eq_nil : a.strays = [] ↔ ∀ point ∈ a.points, point.isAllowed = true := by
  simp [Text.strays, List.filter_eq_nil_iff]

@[simp] theorem strays_append (a b : Text) : (a ++ b).strays = a.strays ++ b.strays :=
  List.filter_append ..

theorem strays_ofString (h : Allowed s) : (Text.ofString s).strays = [] := by
  rw [strays_eq_nil]
  intro point mem
  rw [Text.points_ofString] at mem
  obtain ⟨c, in_s, rfl⟩ := List.mem_map.1 mem
  exact h c in_s

@[simp] theorem straysOf_nil : straysOf [] = [] := rfl

@[simp] theorem straysOf_cons (text : Text) (texts : List Text) :
    straysOf (text :: texts) = text.strays ++ straysOf texts :=
  List.flatMap_cons

@[simp] theorem straysOf_append (texts more : List Text) :
    straysOf (texts ++ more) = straysOf texts ++ straysOf more :=
  List.flatMap_append

theorem straysOf_ofStrings {strings : List String} (h : ∀ s ∈ strings, Allowed s) :
    straysOf (strings.map Text.ofString) = [] := by
  simp only [straysOf, List.flatMap_eq_nil_iff, List.forall_mem_map]
  exact fun s mem => strays_ofString (h s mem)

theorem straysOf_eq_nil :
    straysOf texts = [] ↔ ∀ text ∈ texts, ∀ point ∈ text.points, point.isAllowed = true := by
  simp only [straysOf, List.flatMap_eq_nil_iff, strays_eq_nil]

/-- What an escaped character becomes is allowed, unless it is the character itself. -/
theorem strays_escapeChar (c : Char) :
    (Text.ofChars (escapeChar c)).strays = (Text.ofPoint (.char c)).strays := by
  unfold escapeChar
  split
  · decide
  · decide
  · decide
  · decide
  · decide
  · rfl

/-- Escaping neither adds a stray code point nor takes one away. -/
@[simp] theorem strays_escape (text : Text) : (escape text).strays = text.strays := by
  obtain ⟨points⟩ := text
  induction points with
  | nil => rfl
  | cons point rest ih =>
      have split : (⟨point :: rest⟩ : Text) = Text.ofPoint point ++ ⟨rest⟩ := rfl
      rw [split, escape_append, strays_append, strays_append, ih]
      cases point with
      | surrogate offset => rfl
      | char c =>
          have one : escape (.ofPoint (.char c)) = .ofChars (escapeChar c) := by
            ext1
            exact List.append_nil _
          rw [one, strays_escapeChar]

end Strays

/-! ### Printed trees -/

namespace Markup

mutual

/-- The values and the texts that content is printed with, in order. -/
def Inline.values : Inline → List Text
  | .text content => [content]
  | .element _ attributes children => attributes.map (·.2) ++ inlineValues children

/-- The values and the texts that a run of contents is printed with. -/
def inlineValues : List Inline → List Text
  | [] => []
  | first :: rest => first.values ++ inlineValues rest

end

mutual

/-- The values and the texts that a block is printed with, in order. -/
def Block.values : Block → List Text
  | .line _ attributes children => attributes.map (·.2) ++ inlineValues children
  | .empty _ attributes | .single _ attributes => attributes.map (·.2)
  | .element _ attributes children => attributes.map (·.2) ++ blockValues children
  | .verbatim content => [content]
  | .margin children => blockValues children

/-- The values and the texts that a run of blocks is printed with. -/
def blockValues : List Block → List Text
  | [] => []
  | first :: rest => first.values ++ blockValues rest

end

theorem blockValues_append (blocks more : List Block) :
    blockValues (blocks ++ more) = blockValues blocks ++ blockValues more := by
  induction blocks with
  | nil => rfl
  | cons first rest ih =>
      rw [List.cons_append, blockValues, blockValues, ih, List.append_assoc]

variable {name : String} {attributes : Attributes}

theorem strays_renderAttributes (plain : ∀ pair ∈ attributes, Plain pair.1) :
    (renderAttributes attributes).strays = straysOf (attributes.map (·.2)) := by
  induction attributes with
  | nil => rfl
  | cons pair others ih =>
      obtain ⟨first, later⟩ := List.forall_mem_cons.1 plain
      have opening : Allowed (" " ++ pair.1 ++ "=\"") :=
        (Consists.append (by decide) (Allowed.of_plain first)).append (by decide)
      have closing : Allowed "\"" := by decide
      rw [renderAttributes_cons, strays_append, ih later, renderAttribute, strays_append,
        strays_append, strays_ofString opening, strays_ofString closing, strays_escape,
        List.nil_append, List.append_nil, List.map_cons, straysOf_cons]

theorem strays_tag (plain : PlainTag name attributes) {ending : String} (allowed : Allowed ending) :
    (tag name attributes ending).strays = straysOf (attributes.map (·.2)) := by
  have opening : Allowed ("<" ++ name) := Consists.append (by decide) (Allowed.of_plain plain.1)
  rw [tag, strays_append, strays_append, strays_ofString opening, strays_ofString allowed,
    strays_renderAttributes plain.2, List.nil_append, List.append_nil]

theorem strays_closeTag (plain : Plain name) : (closeTag name).strays = [] :=
  strays_ofString ((Consists.append (by decide) (Allowed.of_plain plain)).append (by decide))

@[simp] theorem strays_indent (depth : Nat) : (indent depth).strays = [] := by
  rw [strays_eq_nil]
  intro point mem
  obtain ⟨c, spaces, rfl⟩ := List.mem_map.1 mem
  rw [List.eq_of_mem_replicate spaces]
  rfl

mutual

/-- The stray code points of printed content are those of what it is printed with. -/
theorem Inline.strays_render :
    ∀ content : Inline, content.Sound → content.render.strays = straysOf content.values
  | .text content, _ => by
    rw [Inline.render, strays_escape, Inline.values, straysOf_cons, straysOf_nil, List.append_nil]
  | .element name attributes children, ⟨plain, sound⟩ => by
    rw [Inline.render, strays_append, strays_append, strays_tag plain (by decide),
      strays_renderInlines children sound, strays_closeTag plain.1, List.append_nil,
      Inline.values, straysOf_append]

theorem strays_renderInlines :
    ∀ contents : List Inline, SoundInlines contents →
      (renderInlines contents).strays = straysOf (inlineValues contents)
  | [], _ => rfl
  | first :: rest, ⟨sound, others⟩ => by
    rw [renderInlines, strays_append, first.strays_render sound,
      strays_renderInlines rest others, inlineValues, straysOf_append]

end

mutual

/-- The stray code points of a printed block are those of what it is printed with. -/
theorem Block.straysOf_lines :
    ∀ (depth : Nat) (block : Block), block.Sound →
      straysOf (block.lines depth) = straysOf block.values
  | depth, .line name attributes children, ⟨plain, sound⟩ => by
    have allowed : Allowed ">" := by decide
    simp [Block.lines, Block.values, strays_tag plain allowed,
      strays_renderInlines children sound, strays_closeTag plain.1]
  | depth, .empty name attributes, plain => by
    have allowed : Allowed " />" := by decide
    simp [Block.lines, Block.values, strays_tag plain allowed]
  | depth, .single name attributes, plain => by
    have allowed : Allowed ">" := by decide
    simp [Block.lines, Block.values, strays_tag plain allowed]
  | depth, .element name attributes children, ⟨plain, sound⟩ => by
    have allowed : Allowed ">" := by decide
    simp [Block.lines, Block.values, strays_tag plain allowed,
      straysOf_blockLines (depth + 1) children sound, strays_closeTag plain.1]
  | _, .verbatim _, _ => rfl
  | _, .margin children, sound => straysOf_blockLines 0 children sound

theorem straysOf_blockLines :
    ∀ (depth : Nat) (blocks : List Block), SoundBlocks blocks →
      straysOf (blockLines depth blocks) = straysOf (blockValues blocks)
  | _, [], _ => rfl
  | depth, first :: rest, ⟨sound, others⟩ => by
    rw [blockLines, straysOf_append, first.straysOf_lines depth sound,
      straysOf_blockLines depth rest others, blockValues, straysOf_append]

end

/-- The ends of lines are allowed. -/
theorem strays_joinLines (first : Text) (rest : List Text) :
    (joinLines (first :: rest)).strays = straysOf (first :: rest) := by
  have later : ∀ lines : List Text, (⟨continued lines⟩ : Text).strays = straysOf lines := by
    intro lines
    induction lines with
    | nil => rfl
    | cons line lines ih =>
        have split : (⟨continued (line :: lines)⟩ : Text)
            = Text.ofPoint (.char '\n') ++ (line ++ ⟨continued lines⟩) := rfl
        rw [split, strays_append, strays_append, ih]
        rfl
  have printed : joinLines (first :: rest) = first ++ ⟨continued rest⟩ := by
    ext1
    exact points_joinLines first rest
  rw [printed, strays_append, later, straysOf_cons]

end Markup

/-! ### What a drawing shows -/

/-- The colour of a prompt's path: that of its own if there is one, else the host's. -/
def Colors.ofPath (colors : Colors) : Text :=
  (colors.path.filter fun color => !color.isEmpty).getD colors.host

/-- The texts that go into the drawing of a prompt: colours and parts by turns. -/
def Prompt.drawn (prompt : Prompt) (colors : Colors) : List Text :=
  [colors.user, prompt.user, colors.symbol, colors.host, prompt.host]
    ++ (prompt.shownPath?.toList.flatMap fun path => [colors.ofPath, path])
    ++ [colors.symbol, prompt.symbol]

/-- The texts that go into the drawing of a step: those of its lines and, if the command
is typed, those of the prompt and of each code point of the command. -/
def Step.drawn (config : Config) (step : Step) (typed : Bool) : List Text :=
  (step.lines.flatMap fun line => [config.fontFamily, config.colors.lines, line]) ++
    if typed then
      config.fontFamily :: step.prompt.drawn config.colors ++
        step.command.points.flatMap fun point =>
          [config.fontFamily, config.colors.command, .ofPoint point]
    else []

/-- The texts that go into the drawing of a configuration, in order. -/
def Config.drawn (config : Config) (loop : Bool) : List Text :=
  config.colors.background :: eachStep loop (fun _ => Step.drawn config) 0 config.steps

namespace Drawing

/-- The stray code points of the blocks are those of the texts. -/
def Draws (blocks : List Block) (texts : List Text) : Prop :=
  straysOf (blockValues blocks) = straysOf texts

variable {config : Config} {blocks more : List Block} {texts others : List Text}

theorem Draws.append (first : Draws blocks texts) (second : Draws more others) :
    Draws (blocks ++ more) (texts ++ others) := by
  rw [Draws, blockValues_append, straysOf_append, first, second, straysOf_append]

/-- The name of a group's class is plain. -/
theorem Draws.group (inside : Draws blocks texts) (part : Part) :
    Draws [.element "g" [("class", part.cssClass)] blocks] texts := by
  have named : (Text.ofString part.cssClass).strays = [] :=
    strays_ofString (.of_plain part.plain_cssClass)
  rw [Draws, blockValues, Block.values, blockValues, List.append_nil, straysOf_append, inside,
    List.map_cons, List.map_nil, straysOf_cons, named]
  rfl

theorem strays_fontStyle {style : Text} (h : fontStyle config = .ok style) :
    style.strays = config.fontFamily.strays := by
  obtain ⟨size, compact, e⟩ := bind_eq_ok.1 h
  obtain rfl := pure_eq_ok.1 e
  have before : (Text.ofString "font-family: ").strays = [] := by decide
  have after : (Text.ofString ("; font-size: " ++ size ++ "px;")).strays = [] :=
    strays_ofString ((Consists.append (by decide) (Allowed.of_plain (plain_compact compact))).append
      (by decide))
  rw [strays_append, strays_append, before, List.nil_append]
  exact (congrArg _ after).trans (List.append_nil _)

theorem strays_filledFontStyle {color style : Text} (h : filledFontStyle config color = .ok style) :
    style.strays = config.fontFamily.strays ++ color.strays := by
  obtain ⟨font, styled, e⟩ := bind_eq_ok.1 h
  obtain rfl := pure_eq_ok.1 e
  have before : (Text.ofString " fill: ").strays = [] := by decide
  have after : (Text.ofString ";").strays = [] := by decide
  rw [strays_append, strays_append, strays_append, before, after, strays_fontStyle styled,
    List.append_nil, List.append_nil]

theorem draws_lineBlock {index : Nat} {line : Text} {block : Block}
    (h : lineBlock config index line = .ok block) :
    Draws [block] [config.fontFamily, config.colors.lines, line] := by
  obtain ⟨style, filled, e⟩ := bind_eq_ok.1 h
  obtain rfl := pure_eq_ok.1 e
  have x : (Text.ofString Layout.lineX.repr).strays = [] :=
    strays_ofString (allowed_text (.int Layout.lineX))
  have y : (Text.ofString (Layout.lineY index).repr).strays = [] :=
    strays_ofString (allowed_text (.int (Layout.lineY index)))
  simp [Draws, blockValues, Block.values, inlineValues, Inline.values, x, y,
    strays_filledFontStyle filled]

theorem draws_lineBlocks {index : Nat} {lines : List Text}
    (h : lineBlocks config index lines = .ok blocks) :
    Draws blocks
      (lines.flatMap fun line => [config.fontFamily, config.colors.lines, line]) := by
  induction lines generalizing index blocks with
  | nil =>
      obtain rfl := Except.ok.inj h
      rfl
  | cons line rest ih =>
      simp only [lineBlocks, bind_eq_ok, pure_eq_ok] at h
      obtain ⟨block, first, later, printed, rfl⟩ := h
      rw [List.flatMap_cons]
      exact (draws_lineBlock first).append (ih printed)

theorem straysOf_colored (color text : Text) :
    straysOf (colored color text).values = straysOf [color, text] := by
  have before : (Text.ofString "fill: ").strays = [] := by decide
  have after : (Text.ofString ";").strays = [] := by decide
  simp [colored, Inline.values, inlineValues, before, after]

/-- The at sign and the colon of a prompt are allowed. -/
theorem straysOf_promptSpans (colors : Colors) (prompt : Prompt) :
    straysOf (inlineValues (promptSpans colors prompt)) = straysOf (prompt.drawn colors) := by
  have at_sign : (Text.ofString "@").strays = [] := by decide
  have colon : (Text.ofString ":").strays = [] := by decide
  cases shown : prompt.shownPath? <;>
    simp [promptSpans, Prompt.drawn, Colors.ofPath, shown, inlineValues, straysOf_colored,
      at_sign, colon]

/-- The stray code points of a prompt are those of its texts and their colours. -/
theorem draws_promptBlock {scene : Scene} {step : Step} {part : Part} {block : Block}
    (h : promptBlock config scene part = .ok block)
    (same : scene.placed.step.prompt = step.prompt) :
    Draws [block] (config.fontFamily :: step.prompt.drawn config.colors) := by
  simp only [promptBlock, bind_eq_ok, pure_eq_ok, same] at h
  obtain ⟨x, left, base, -, y, top, style, styled, rfl⟩ := h
  have x_plain : (Text.ofString x).strays = [] := strays_ofString (.of_plain (plain_compact left))
  have y_plain : (Text.ofString y).strays = [] := strays_ofString (.of_plain (plain_compact top))
  have named : (Text.ofString part.cssClass).strays = [] :=
    strays_ofString (.of_plain part.plain_cssClass)
  simp [Draws, blockValues, Block.values, straysOf_promptSpans, x_plain, y_plain, named,
    strays_fontStyle styled]

theorem draws_charBlock {layout : Layout} {index : Nat} {typed : TypedChar} {block : Block}
    (h : charBlock config layout index typed = .ok block) :
    Draws [block] [config.fontFamily, config.colors.command, .ofPoint typed.char] := by
  simp only [charBlock, bind_eq_ok, pure_eq_ok] at h
  obtain ⟨place, -, x, left, base, -, y, top, style, filled, rfl⟩ := h
  have x_plain : (Text.ofString x).strays = [] := strays_ofString (.of_plain (plain_compact left))
  have y_plain : (Text.ofString y).strays = [] := strays_ofString (.of_plain (plain_compact top))
  have named : (Text.ofString typed.animated.part.cssClass).strays = [] :=
    strays_ofString (.of_plain typed.animated.part.plain_cssClass)
  simp [Draws, blockValues, Block.values, inlineValues, Inline.values, x_plain, y_plain, named,
    strays_filledFontStyle filled]

/-- The stray code points of the characters are their own and those of their style. -/
theorem draws_charBlocks {layout : Layout} {index : Nat} {typed : List TypedChar}
    (h : charBlocks config layout index typed = .ok blocks) :
    Draws blocks ((typed.map (·.char)).flatMap fun point =>
      [config.fontFamily, config.colors.command, .ofPoint point]) := by
  induction typed generalizing index blocks with
  | nil =>
      obtain rfl := Except.ok.inj h
      rfl
  | cons char rest ih =>
      simp only [charBlocks, bind_eq_ok, pure_eq_ok] at h
      obtain ⟨block, first, later, printed, rfl⟩ := h
      rw [List.map_cons, List.flatMap_cons]
      exact (draws_charBlock first).append (ih printed)

section Scenes

variable {charWidth : Number} {index : Nat} {scene : Scene} {step : Step} {typed : Bool}

theorem draws_linesGroup (shown : scene.Shows charWidth index step typed)
    (h : linesGroup config scene = .ok blocks) :
    Draws blocks
      (step.lines.flatMap fun line => [config.fontFamily, config.colors.lines, line]) := by
  have lines := shown.lines
  by_cases empty : step.lines.isEmpty = true
  · rw [if_pos empty] at lines
    rw [linesGroup, lines] at h
    obtain rfl := Except.ok.inj h
    rw [List.isEmpty_iff.1 empty]
    rfl
  · rw [if_neg empty] at lines
    obtain ⟨animated, some_lines, -⟩ := lines
    simp only [linesGroup, some_lines, bind_eq_ok, pure_eq_ok] at h
    obtain ⟨inside, printed, rfl⟩ := h
    rw [shown.lines_eq] at printed
    exact (draws_lineBlocks printed).group animated.part

theorem draws_commandGroup (shown : scene.Shows charWidth index step typed)
    (h : commandGroup config scene = .ok blocks) :
    Draws blocks (if typed then
      config.fontFamily :: step.prompt.drawn config.colors ++
        step.command.points.flatMap fun point =>
          [config.fontFamily, config.colors.command, .ofPoint point]
      else []) := by
  have command := shown.typed
  cases typed with
  | false =>
      have none : scene.typed = none := command
      rw [commandGroup, none] at h
      obtain rfl := Except.ok.inj h
      rfl
  | true =>
      obtain ⟨typed, some_typed, shown_typed⟩ := command
      simp only [commandGroup, some_typed, bind_eq_ok, pure_eq_ok] at h
      obtain ⟨prompt, prompted, characters, typing, rfl⟩ := h
      have characters_drawn := draws_charBlocks typing
      rw [shown_typed.chars] at characters_drawn
      have inside := (draws_promptBlock prompted shown.prompt_eq).append characters_drawn
      exact inside.group typed.command.part

/-- The stray code points of a scene are those of its step: of its lines, and of its
command where that is typed. -/
theorem draws_sceneGroups (shown : scene.Shows charWidth index step typed)
    (h : sceneGroups config scene = .ok blocks) : Draws blocks (step.drawn config typed) := by
  simp only [sceneGroups, bind_eq_ok, pure_eq_ok] at h
  obtain ⟨lines, printed, command, typing, rfl⟩ := h
  exact (draws_linesGroup shown printed).append (draws_commandGroup shown typing)

/-- The groups of an animation draw its steps, in order. -/
theorem draws_groups {loop : Bool} {scenes : List Scene} {steps : List Step}
    {groups : List (List Block)} (shown : ShowSteps charWidth loop index scenes steps)
    (h : scenes.mapM (sceneGroups config) = .ok groups) :
    Draws groups.flatten (eachStep loop (fun _ => Step.drawn config) index steps) := by
  induction shown generalizing groups with
  | nil index =>
      obtain rfl := Except.ok.inj h
      rfl
  | cons first later ih =>
      obtain ⟨blocks, others, printed, rest, rfl⟩ := mapM_cons_eq_ok.1 h
      exact (draws_sceneGroups first printed).append (ih rest)

end Scenes

/-- What the program writes into the attributes of a drawing is allowed. -/
theorem straysOf_attributes (timeline : Timeline) {width height : String} (wide : Allowed width)
    (high : Allowed height) : straysOf ((attributes timeline width height).map (·.2)) = [] := by
  have box : Allowed ("0 0 " ++ width ++ " " ++ height) :=
    ((Consists.append (by decide) wide).append (by decide)).append high
  have duration : Allowed (timeline.total.text ++ "s") := (allowed_text _).append (by decide)
  have texts : (attributes timeline width height).map (·.2)
      = ["100%", "100%", "0 0 " ++ width ++ " " ++ height, "http://www.w3.org/2000/svg",
          timeline.total.text ++ "s", "xMidYMid meet"].map Text.ofString := rfl
  rw [texts]
  refine straysOf_ofStrings ?_
  simp only [List.forall_mem_cons]
  exact ⟨by decide, by decide, box, by decide, duration, by decide, by simp⟩

/-- A drawing draws its configuration: nothing else in it is stray. -/
theorem draws_tree {forceLoop : Bool} {timeline : Timeline} {drawing : Block}
    (compiled : (Timeline.compile config forceLoop).outcome = .ok timeline)
    (h : tree timeline config = .ok drawing) : Draws [drawing] (config.drawn timeline.loop) := by
  obtain ⟨width, height, css, groups, wide, high, printed, drawn, rfl⟩ := tree_eq_ok h
  have written : ∀ {n : Number} {text : String}, n.fullText = .ok text → Allowed text :=
    fun full => Number.text_of_fullText full ▸ allowed_text _
  have width_text := strays_ofString (written wide)
  have height_text := strays_ofString (written high)
  have style : (Text.ofString css).strays = [] :=
    strays_ofString (Timeline.consists_css compiled printed (fun _ => isAllowedChar_of_isStyle)
      (by decide))
  have own := straysOf_attributes timeline (written wide) (written high)
  have inside := draws_groups (Timeline.showSteps_of_compile compiled) drawn
  unfold Draws at inside ⊢
  simp [blockValues, Block.values, background, Config.drawn, width_text, height_text, own, style,
    inside]

end Drawing

/-! ### Documents -/

namespace Document

variable {config : Config} {stem : Text} {forceLoop : Bool} {document : Document}

/-- The stray code points of a drawing's file are those of the texts that the drawing
shows, in order: no character is added, and none is taken away or replaced. -/
theorem strays_svg (h : (build config stem forceLoop).outcome = .ok document) :
    document.svg.strays = straysOf (config.drawn (forceLoop || config.loop)) := by
  obtain ⟨drawing, css, compiled, drawn, -, svg, -⟩ := build_eq_ok h
  obtain ⟨-, loop, -⟩ := Timeline.compile_eq_ok compiled
  have sound := (Drawing.holds_tree compiled drawn).sound.1
  have shown := Drawing.draws_tree compiled drawn
  rw [Drawing.Draws, blockValues, blockValues, List.append_nil, loop] at shown
  have declaration : (Text.ofString xmlDeclaration).strays = [] := by decide
  rw [svg, renderSvg, strays_joinLines, straysOf_cons, declaration, List.nil_append,
    drawing.straysOf_lines 0 sound, shown]

/-- A page that links shows nothing of the configuration but its stem. -/
theorem strays_html (h : (build config stem forceLoop).outcome = .ok document)
    (linking : config.embed = false) : document.html.strays = stem.strays := by
  obtain ⟨drawing, css, -, -, -, -, html⟩ := build_eq_ok h
  obtain ⟨sound, -⟩ := Page.tags_link css drawing stem
  have declaration : (Text.ofString htmlDeclaration).strays = [] := by decide
  have fixed : ∀ s ∈ ["100%", "width: 100%; height: 100%;", "Terminal Animation", ".svg"],
      (Text.ofString s).strays = [] := by decide
  simp only [List.forall_mem_cons] at fixed
  obtain ⟨whole, page, name, ending, -⟩ := fixed
  rw [html, linking, renderHtml, strays_joinLines, straysOf_cons, declaration, List.nil_append,
    Block.straysOf_lines 0 _ sound]
  simp [Page.tree, Page.around, Page.link, Block.values, blockValues, whole, page, name, ending]

/-- The file of a drawing is a text of XML if and only if every text that the drawing
shows is of allowed code points. -/
theorem isAllowed_svg_iff (h : (build config stem forceLoop).outcome = .ok document) :
    (∀ point ∈ document.svg.points, point.isAllowed = true) ↔
      ∀ text ∈ config.drawn (forceLoop || config.loop),
        ∀ point ∈ text.points, point.isAllowed = true := by
  rw [← strays_eq_nil, strays_svg h, straysOf_eq_nil]

/-- Markup and a tab in a line, and control characters in texts that no drawing of one
step that is played once shows: its command and its prompt. -/
def quietControls : Config where
  steps := [{ lines := ["<a>\t&"], prompt := { user := "\x07" }, command := "\x1b[2J" }]
  loop := false

theorem isAllowed_svg_quietControls : ∃ document,
    (build quietControls).outcome = .ok document ∧
      ∀ point ∈ document.svg.points, point.isAllowed = true := by
  have built : (build quietControls).outcome.isOk = true := by decide +kernel
  obtain ⟨document, built⟩ := exists_of_isOk built
  exact ⟨document, built, (isAllowed_svg_iff built).2 (by decide +kernel)⟩

/-- One line in red, as terminals print it: behind an escape character. -/
def redLine : Json :=
  .object [("steps", .array [.object [("terminalLines", .array [.string "\x1b[31mred"])]])]

/-- The line is accepted and drawn, and its escape character makes the drawing no text of
XML. -/
theorem not_isAllowed_svg_redLine : ∃ config document,
    (Config.ofJson redLine).outcome = .ok config ∧ (build config).outcome = .ok document ∧
      ∃ point ∈ document.svg.points, point.isAllowed = false := by
  have checked : (Config.ofJson redLine).outcome.toOption.any (fun config =>
      (build config).outcome.isOk &&
        (straysOf (config.drawn config.loop)).contains (.char '\x1b')) = true := by
    decide +kernel
  obtain ⟨config, read, built_shown⟩ := exists_of_any checked
  obtain ⟨built, shown⟩ := Bool.and_eq_true_iff.1 built_shown
  obtain ⟨document, built⟩ := exists_of_isOk built
  refine ⟨config, document, read, built, .char '\x1b', ?_, by decide⟩
  have stray : CodePoint.char '\x1b' ∈ document.svg.strays := by
    rw [strays_svg built]
    exact List.contains_iff_mem.1 shown
  exact List.mem_of_mem_filter stray

end Document

end TerminalReel
