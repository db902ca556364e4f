import TerminalReel.Document.Drawing
/-!
# TerminalReel.Document.Page

The **files of an animation**: the drawing, and a page that shows it. The page
either links to the drawing by its file name or holds the drawing itself, with
the style sheet once more in its head.
-/

namespace TerminalReel

open Markup

namespace Page

/-- The head of a page that holds the drawing. -/
def head (css : String) : Block :=
  .element "head" []
    [.element "style" []
      [.verbatim "      body \x7b margin: 0; padding: 0; overflow: hidden; background: #000; \x7d",
       .verbatim "      svg \x7b display: block; max-width: 100%; height: auto; \x7d",
       .verbatim css]]

/-- A page around some content. -/
def around (before content : List Block) : Block :=
  .element "html" [("style", "width: 100%; height: 100%;")]
    (before ++ [.element "body" [("width", "100%"), ("height", "100%")] content])

/-- The reference of a page to the drawing of this stem. -/
def link (stem : Text) : Block :=
  .single "img" [("src", stem ++ ".svg"), ("width", "100%"), ("alt", "Terminal Animation")]

/-- The page of a drawing. -/
def tree (embed : Bool) (css : String) (drawing : Block) (stem : Text) : Block :=
  if embed then around [head css] [.margin [drawing]] else around [] [link stem]

end Page

/-- A compiled animation and its two files. -/
structure Document where
  svg : Text
  html : Text
  timeline : Timeline

namespace Document

/-- The declaration in front of a drawing. -/
def xmlDeclaration : String := "<?xml version=\"1.0\" encoding=\"UTF-8\"?>"

/-- The declaration in front of a page. -/
def htmlDeclaration : String := "<!DOCTYPE html>"

/-- The file of a drawing. -/
def renderSvg (drawing : Block) : Text := joinLines (xmlDeclaration :: drawing.lines 0)

/-- The file of a page. -/
def renderHtml (page : Block) : Text := joinLines (htmlDeclaration :: page.lines 0)

/-- The stem of the drawing's file where none is given. -/
def defaultStem : Text := "animation"

/-- The two files of a compiled animation. -/
def ofTimeline (timeline : Timeline) (config : Config) (stem : Text) :
    Except ArithmeticError Document := do
  let drawing ← Drawing.tree timeline config
  let css ← timeline.css
  return {
    svg := renderSvg drawing
    html := renderHtml (Page.tree config.embed css drawing stem)
    timeline }

/-- Compiles a configuration and renders its two files. -/
def build (config : Config) (stem : Text := defaultStem) (forceLoop : Bool := false) :
    Attempt CompileError Document := do
  let timeline ← Timeline.compile config forceLoop
  Attempt.ofExcept ((ofTimeline timeline config stem).mapError .arithmetic)

/-- A document for capturing frames: it starts over, its page holds the drawing,
and its stem tells it from the other. -/
def buildForCapture (config : Config) (stem : Text) : Attempt CompileError Document :=
  build { config with embed := true } (stem ++ "-temp") true

end Document

end TerminalReel
