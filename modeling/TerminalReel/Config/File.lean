import TerminalReel.Config.Definition
import TerminalReel.Config.Source
import TerminalReel.Json.Reader
import TerminalReel.Text.Lowercase
import TerminalReel.Work
/-!
# TerminalReel.Config.File

Configurations **in files**. The suffix of a file, in either case, says in which form
it is written: as a strict document, as a relaxed one, or as a definition file. A
composer is saved as a strict document.
-/

namespace TerminalReel

/-- The forms in which a configuration file is written. -/
inductive ConfigForm
  | strict
  | relaxed
  | definition
  deriving DecidableEq

namespace ConfigForm

/-- The suffix of each form. -/
def suffix : ConfigForm → String
  | strict => ".json"
  | relaxed => ".jsonc"
  | definition => ".py"

/-- The form of a suffix in small letters. -/
def ofSuffix? (suffix : Text) : Option ConfigForm :=
  [strict, relaxed, definition].find? fun form => suffix = form.suffix

end ConfigForm

/-! ### Reading files -/

namespace Config

variable (host : Host)

/-- The configuration in a document, as a step of reading a file. -/
def ofDocument (document : Json) : Attempt Fault Config :=
  (ofJson document).mapError (.ofConfig host)

/-- The configuration in the bytes of a strict document. -/
def ofStrict (path : Path) (content : ByteArray) : Attempt Fault Config :=
  match decodeText content with
  | .error fault => throw (.undecodable fault)
  | .ok text =>
    match Json.read host.room text with
    | .ok document => ofDocument host document
    | .error (.flaw flaw rest) =>
      throw (.config (.document (.malformed path.text (flaw.report text rest))))
    | .error .longNumeral => throw .longNumeral
    | .error .tooDeep => throw .tooDeep

/-- The configuration in the bytes of a relaxed document. Bytes that are no text are
reported like a text in another form. -/
def ofRelaxed (path : Path) (content : ByteArray) : Attempt Fault Config :=
  let malformed (report : Text) : Fault :=
    .config (.document (.malformedRelaxed path.text report))
  match decodeText content with
  | .error fault => throw (malformed fault.message)
  | .ok text =>
    match host.readRelaxed text with
    | .ok document => ofDocument host document
    | .error (.malformed report) => throw (malformed report)
    | .error .tooDeep => throw .tooDeep
    | .error .other => throw .foreign

/-- The configuration in the bytes of a definition file. -/
def ofDefinition (path : Path) (content : ByteArray) : Attempt Fault Config :=
  if path.suffix ≠ Text.ofString ConfigForm.definition.suffix then
    throw (.config (.document (.notDefinitionFile path.text)))
  else
    match Definition.read content with
    | .ok (some document) =>
      ((ConfigSource.document document).resolve host).mapError (.ofConfig host)
    | .ok none => throw (.config (.document (.noDefinition path.fileName)))
    | .error .malformed => throw .malformedDefinition
    | .error .nullCharacter => throw .nullInFile
    | .error .unboundName => throw .unboundName

/-- The configuration in the bytes of a file of this form. -/
def ofContent (path : Path) : ConfigForm → ByteArray → Attempt Fault Config
  | .strict => ofStrict host path
  | .relaxed => ofRelaxed host path
  | .definition => ofDefinition host path

/-- What is reported about a configuration that was read. -/
def loadedReport (config : Config) (path : Path) : Text :=
  Text.ofString s!"Loaded {config.steps.length} steps from " ++ path.text

/-- The configuration in the file that a path leads to. -/
def load (disk : Disk) (path : Path) : Attempt Fault Config := do
  let suffix := lowercase path.suffix
  let some form := ConfigForm.ofSuffix? suffix
    | throw (.config (.document (.unsupportedSuffix suffix)))
  let some content ← Attempt.ofExcept ((disk.file? path).mapError .storage)
    | throw (.config (.document (.notFound path.text)))
  let config ← ofContent host path form content
  Attempt.log .debug .config (loadedReport config path)
  return config

end Config

/-! ### Saving files -/

/-- Saves the document so far as the text of a file, if the host can write it out; the
path of the file. -/
def Composer.save (host : Host) (composer : Composer) (path : Path) : Work Path := do
  if !host.prints.covers composer.toJson then throw .tooDeep
  if !composer.toJson.isWritable then throw .longNumeral
  Work.writeFile path composer.fileText
  return path

end TerminalReel
