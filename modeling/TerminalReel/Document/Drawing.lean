import TerminalReel.Document.Markup
import TerminalReel.Document.StyleSheet
/-!
# TerminalReel.Document.Drawing

The **drawing** of an animation, as a tree of markup: its style sheet, the
background, and for each scene the group of its lines and the group of its
prompt and characters.
-/

namespace TerminalReel

open Markup

namespace Drawing

/-- The style of all text. -/
def fontStyle (config : Config) : Except ArithmeticError Text := do
  let size ← config.fontSize.compact
  return "font-family: " ++ config.fontFamily ++ Text.ofString s!"; font-size: {size}px;"

/-- The style of text in one colour. -/
def filledFontStyle (config : Config) (color : Text) : Except ArithmeticError Text := do
  return (← fontStyle config) ++ " fill: " ++ color ++ ";"

/-- A printed line. -/
def lineBlock (config : Config) (index : Nat) (line : Text) : Except ArithmeticError Block := do
  return .line "text"
    [("x", toString Layout.lineX), ("y", toString (Layout.lineY index)),
     ("style", ← filledFontStyle config config.colors.lines)]
    [.text line]

/-- Printed lines from an index on. -/
def lineBlocks (config : Config) : Nat → List Text → Except ArithmeticError (List Block)
  | _, [] => .ok []
  | index, line :: rest => do
    let block ← lineBlock config index line
    return block :: (← lineBlocks config (index + 1) rest)

/-- The group of a scene's lines, if it has one. -/
def linesGroup (config : Config) (scene : Scene) : Except ArithmeticError (List Block) :=
  match scene.lines with
  | none => .ok []
  | some animated => do
    return [.element "g" [("class", animated.part.cssClass)]
      (← lineBlocks config 0 scene.placed.step.lines)]

/-- Text in a colour of its own within a line. -/
def colored (color text : Text) : Inline :=
  .element "tspan" [("style", "fill: " ++ color ++ ";")] [.text text]

/-- The coloured parts of a prompt; together they read as the prompt's text. -/
def promptSpans (colors : Colors) (prompt : Prompt) : List Inline :=
  [colored colors.user prompt.user, colored colors.symbol "@", colored colors.host prompt.host]
    ++ (prompt.shownPath?.map fun path =>
        colored ((colors.path.filter fun color => !color.isEmpty).getD colors.host)
          (":" ++ path)).toList
    ++ [colored colors.symbol prompt.symbol]

/-- The prompt of a scene. -/
def promptBlock (config : Config) (scene : Scene) (part : Part) :
    Except ArithmeticError Block := do
  let x ← scene.layout.promptX.compact
  let y ← (← Layout.baseline config.height).compact
  return .line "text"
    [("x", x), ("y", y), ("class", part.cssClass), ("style", ← fontStyle config)]
    (promptSpans config.colors scene.placed.step.prompt)

/-- A typed character. -/
def charBlock (config : Config) (layout : Layout) (index : Nat) (typed : TypedChar) :
    Except ArithmeticError Block := do
  let x ← (← layout.charX index config.charWidth).compact
  let y ← (← Layout.baseline config.height).compact
  return .line "text"
    [("x", x), ("y", y), ("class", typed.animated.part.cssClass),
     ("style", ← filledFontStyle config config.colors.command)]
    [.text (.ofPoint typed.char)]

/-- Typed characters from an index on. -/
def charBlocks (config : Config) (layout : Layout) :
    Nat → List TypedChar → Except ArithmeticError (List Block)
  | _, [] => .ok []
  | index, typed :: rest => do
    let block ← charBlock config layout index typed
    return block :: (← charBlocks config layout (index + 1) rest)

/-- The group of a scene's prompt and characters, if it has one. -/
def commandGroup (config : Config) (scene : Scene) : Except ArithmeticError (List Block) :=
  match scene.typed with
  | none => .ok []
  | some typed => do
    let prompt ← promptBlock config scene typed.prompt.part
    let characters ← charBlocks config scene.layout 0 typed.characters
    return [.element "g" [("class", typed.command.part.cssClass)] (prompt :: characters)]

/-- The groups of a scene. -/
def sceneGroups (config : Config) (scene : Scene) : Except ArithmeticError (List Block) := do
  return (← linesGroup config scene) ++ (← commandGroup config scene)

/-- The attributes of a drawing of this written width and height. -/
def attributes (timeline : Timeline) (width height : String) : Attributes :=
  [("width", "100%"), ("height", "100%"), ("viewBox", s!"0 0 {width} {height}"),
   ("xmlns", "http://www.w3.org/2000/svg"), ("data-duration", s!"{timeline.total}s"),
   ("preserveAspectRatio", "xMidYMid meet")]

/-- The background of a drawing of this written width and height. -/
def background (config : Config) (width height : String) : Block :=
  .empty "rect" [("width", width), ("height", height), ("fill", config.colors.background)]

/-- The drawing. -/
def tree (timeline : Timeline) (config : Config) : Except ArithmeticError Block := do
  let width ← config.width.fullText
  let height ← config.height.fullText
  let css ← timeline.css
  let groups ← timeline.scenes.mapM (sceneGroups config)
  return .element "svg" (attributes timeline width height)
    (.element "style" [] [.verbatim css] :: background config width height :: groups.flatten)

end Drawing

end TerminalReel
