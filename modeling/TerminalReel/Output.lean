import TerminalReel.Document.Page
import TerminalReel.Work
/-!
# TerminalReel.Output

**Writing an animation's files** into a directory.

The page is written where one is asked for. The drawing is written where one is
asked for, and also beside a page that links to it.
-/

namespace TerminalReel

namespace Output

/-- What is asked for as the directory for the files: by the user, else by the
configuration, else by the environment. An empty text asks for none. -/
def requestedDirectory (config : Config) (asked environment : Option Text) : Option Text :=
  let given (text : Option Text) : Option Text := text.filter fun text => !text.isEmpty
  given asked <|> given config.outputDirectory <|> given environment

/-- The directory for the files; where none is asked for, the working directory. -/
def directory (config : Config) (asked environment : Option Text) (workingDirectory : Path) :
    Path :=
  match requestedDirectory config asked environment with
  | some text => Path.ofText text
  | none => workingDirectory

/-- The path of one of the files. -/
def filePath (config : Config) (directory : Path) (kind : OutputKind) : Path :=
  directory.child (config.name ++ "." ++ Text.ofString kind.name)

/-- The page is written. -/
def writesPage (config : Config) : Bool := config.outputs.contains .html

/-- The drawing is written. -/
def writesDrawing (config : Config) : Bool :=
  config.outputs.contains .svg || (writesPage config && !config.embed)

/-- Writes one of the files and reports it. -/
def writeOne (config : Config) (directory : Path) (kind : OutputKind) (label : String)
    (text : Text) : Work Path := do
  let path := filePath config directory kind
  Work.writeFile path text
  Work.log .info (Text.ofString s!"{label} saved to " ++ path.text)
  return path

/-- Writes the files of an animation; the paths that were written, in order. -/
def write (host : Host) (config : Config) (directory : Path) : Work (List Path) := do
  -- The directory is made even when the animation then cannot be compiled.
  Work.changing (·.makeDirectories directory)
  let document ← Work.ofAttempt (.ofCompile host) (Document.build config config.name)
  let page ←
    if writesPage config then
      some <$> writeOne config directory .html "HTML" document.html
    else pure none
  let drawing ←
    if writesDrawing config then
      some <$> writeOne config directory .svg "SVG" document.svg
    else pure none
  return page.toList ++ drawing.toList

end Output

end TerminalReel
