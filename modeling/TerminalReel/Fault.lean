import TerminalReel.Animation.Timeline
import TerminalReel.Storage.Disk
import TerminalReel.Text.Decoding
/-!
# TerminalReel.Fault

Everything that can end a request, and which of it is a **report to the user**.

Configurations that are wrong, steps that cannot be scheduled and parts that
cannot be told apart are reports: they say what to change. Arithmetic without a
result, bytes that are no text, text that has no bytes, and documents beyond the limits of what
is read and written are not.
-/

namespace TerminalReel

/-- Why a request has no answer. -/
inductive Fault
  | config (e : ConfigError)
  | compile (e : CompileError)
  | storage (e : StorageError)
  /-- Bytes that are no text. -/
  | undecodable (fault : DecodingFault)
  /-- A text with a surrogate was to be written as bytes. -/
  | unencodable
  /-- A whole number with more digits than are read or written. -/
  | longNumeral
  /-- Containers inside one another, more than can be followed. -/
  | tooDeep
  /-- A definition file that is not written as one. -/
  | malformedDefinition
  /-- A file that ends texts for the system before its end. -/
  | nullInFile
  /-- A definition file that uses a name that stands for nothing. -/
  | unboundName
  /-- An option for a file was given without one. -/
  | noFileNamed
  /-- A failure of the host's reader that says nothing about the text. -/
  | foreign

namespace Fault

/-- What a report comes to: it is told only if its message can show the values in it
and write their numbers. -/
def told (showable writable : Bool) (report : Fault) : Fault :=
  if !showable then tooDeep else if writable then report else longNumeral

/-- An error of a configuration as a fault. A document that cannot be followed is no
report. -/
def ofConfig (host : Host) : ConfigError → Fault
  | .document .tooDeep => tooDeep
  | e => told (e.isShowable host) e.isWritable (config e)

/-- An arithmetic failure as a fault. -/
def ofArithmetic : ArithmeticError → Fault
  | .tooManyDigits => longNumeral
  | e => compile (.arithmetic e)

/-- A failure to compile as a fault. -/
def ofCompile (host : Host) : CompileError → Fault
  | .step e => told (e.isShowable host) e.isWritable (compile (.step e))
  | .arithmetic e => ofArithmetic e
  | .crowding e => compile (.crowding e)

/-- The fault tells the user what is wrong with the configuration. -/
def isReport : Fault → Bool
  | config _ | compile (.step _) | compile (.crowding _) => true
  | _ => false

/-- The fault is one that the system reports about a file. -/
def isRefusal : Fault → Bool
  | storage (.refused ..) | storage (.broken _) => true
  | _ => false

/-- The message of the underlying error. -/
def message : Fault → Text
  | config e => e.message
  | compile e => e.message
  | storage e => e.message
  | undecodable fault => fault.message
  | unencodable => "the text has a surrogate and cannot be written as UTF-8"
  | longNumeral => "a whole number has too many digits"
  | tooDeep => "the document is nested too deeply"
  | malformedDefinition => "the file is not a definition file"
  | nullInFile => "the file holds a null character"
  | unboundName => "the file uses a name that stands for nothing"
  | noFileNamed => "no configuration file was named"
  | foreign => "the file could not be read"

end Fault

end TerminalReel
