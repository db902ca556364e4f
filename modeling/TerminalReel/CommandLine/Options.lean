import TerminalReel.Text.Digit
import TerminalReel.Text.Quoted
/-!
# TerminalReel.CommandLine.Options

Reading the **arguments of the command line**.

An argument that begins with a dash is an option. A long option may be shortened
as far as no other begins alike, and carries its value behind an equals sign or
as the next argument. A short option also carries its value directly behind its
letter, and one without a value may be followed by further letters. The mark that
ends the options is no value: an option that carries it is given without one. The
program takes no arguments but options, so whatever is left over is refused at
the end.
-/

namespace TerminalReel

namespace CommandLine

/-- The options. -/
inductive Flag
  | help
  | config
  | outputDirectory
  | debug
  deriving DecidableEq

namespace Flag

/-- The spellings of an option. -/
def spellings : Flag → List String
  | help => ["-h", "--help"]
  | config => ["-c", "--config"]
  | outputDirectory => ["-o", "--output-directory"]
  | debug => ["--debug"]

/-- The options in the order in which they are listed. -/
def all : List Flag := [help, config, outputDirectory, debug]

/-- Every spelling with its option. -/
def table : List (String × Flag) :=
  all.flatMap fun flag => flag.spellings.map fun spelling => (spelling, flag)

/-- The option of a spelling. -/
def ofSpelling? (spelling : String) : Option Flag := table.lookup spelling

/-- The option has a value. -/
def takesValue : Flag → Bool
  | config | outputDirectory => true
  | help | debug => false

/-- What a message calls the option. -/
def title (flag : Flag) : String := String.intercalate "/" flag.spellings

end Flag

/-- Why arguments are refused. -/
inductive UsageError
  /-- An option lacks its value. -/
  | missingValue (flag : Flag)
  /-- An option that has no value was given one. -/
  | unwantedValue (flag : Flag) (value : String)
  /-- A shortened option may mean several. -/
  | ambiguous (argument : String) (matching : List String)
  /-- Arguments are left over. -/
  | leftOver (arguments : List String)
  deriving DecidableEq

/-- The wording of each refusal. -/
def UsageError.message : UsageError → String
  | missingValue flag => s!"argument {flag.title}: expected one argument"
  | unwantedValue flag value => s!"argument {flag.title}: ignored explicit argument {quoted value}"
  | ambiguous argument matching =>
    s!"ambiguous option: {argument} could match " ++ String.intercalate ", " matching
  | leftOver arguments => "unrecognized arguments: " ++ String.intercalate " " arguments

/-- What the arguments say about an option that has a value. -/
inductive Setting
  /-- Nothing. -/
  | unset
  /-- It is given, and without a value. -/
  | void
  /-- It has this value. -/
  | value (text : String)
  deriving DecidableEq

/-- The value, if there is one. -/
def Setting.value? : Setting → Option String
  | value text => some text
  | unset | void => none

/-- What the arguments ask for. -/
structure Options where
  /-- The configuration file. -/
  config : Setting := .unset
  /-- The directory for the files. -/
  outputDirectory : Setting := .unset
  /-- Every report is shown. -/
  debug : Bool := false
  deriving DecidableEq

/-- What a command line asks the program to do. -/
inductive Request
  /-- Show how the program is used. -/
  | help
  /-- Work with these options. -/
  | run (options : Options)
  deriving DecidableEq

/-! ### Single arguments -/

/-- What an argument is taken for. -/
inductive Argument
  /-- No option; a value, where one is expected. -/
  | word (text : String)
  /-- An option, and the text attached to it. -/
  | flag (flag : Flag) (isShort : Bool) (attached : Option String) (text : String)
  /-- An option that there is not. -/
  | unknown (text : String)
  /-- The mark after which there are no options. -/
  | separator
  deriving DecidableEq

/-- A minus and digits, of any script, with at most one point before the last of
them. -/
def isNegativeNumeral : List Char → Bool
  | '-' :: rest =>
    let (whole, rest) := (rest.takeWhile isDecimalDigit, rest.dropWhile isDecimalDigit)
    match rest with
    | [] => whole ≠ []
    | '.' :: places => places ≠ [] && places.all isDecimalDigit
    | _ => false
  | _ => false

/-- A text that is a negative number; one line end behind it does not matter. -/
def isNegativeNumber (cs : List Char) : Bool :=
  isNegativeNumeral cs || (cs.getLast? == some '\n' && isNegativeNumeral cs.dropLast)

/-- The text before the first equals sign, and the text behind it if there is
one. -/
def splitAtSign (cs : List Char) : String × Option String :=
  let before := cs.takeWhile (· != '=')
  match cs.dropWhile (· != '=') with
  | _ :: value => (String.ofList before, some (String.ofList value))
  | [] => (String.ofList before, none)

/-- A spelling of two dashes is long. -/
def isShortSpelling (spelling : String) : Bool := !("--".toList.isPrefixOf spelling.toList)

/-- The spellings that an argument shortens, each with what is attached. -/
def shortened (text : String) : List (String × Flag × Option String) :=
  let cs := text.toList
  match cs with
  | '-' :: '-' :: _ =>
    let (begun, value) := splitAtSign cs
    (Flag.table.filter fun (spelling, _) => begun.toList.isPrefixOf spelling.toList).map
      fun (spelling, flag) => (spelling, flag, value)
  | dash :: letter :: rest =>
    (Flag.table.filter fun (spelling, _) => spelling.toList = [dash, letter]).map
      fun (spelling, flag) => (spelling, flag, some (String.ofList rest))
  | _ => []

/-- What an argument that begins with a dash is taken for. -/
def classifyDashed (text : String) : Except UsageError Argument :=
  match Flag.ofSpelling? text, splitAtSign text.toList with
  | some flag, _ => .ok (.flag flag (isShortSpelling text) none text)
  | none, (begun, value) =>
    match Flag.ofSpelling? begun, value with
    | some flag, some value => .ok (.flag flag (isShortSpelling begun) (some value) text)
    | _, _ =>
      match shortened text with
      | [(spelling, flag, attached)] => .ok (.flag flag (isShortSpelling spelling) attached text)
      | [] =>
        -- A number or a text with blanks is a value that happens to begin with a dash.
        if isNegativeNumber text.toList ∨ ' ' ∈ text.toList then .ok (.word text)
        else .ok (.unknown text)
      | several => .error (.ambiguous text (several.map (·.1)))

/-- What an argument is taken for. -/
def classify (text : String) : Except UsageError Argument :=
  match text.toList with
  | '-' :: _ :: _ => if text = "--" then .ok .separator else classifyDashed text
  | _ => .ok (.word text)

/-- What each argument is taken for; behind the separator there are words only. -/
def classifyAll : List String → Except UsageError (List Argument)
  | [] => .ok []
  | text :: rest => do
    match ← classify text with
    | .separator => return .separator :: rest.map .word
    | argument => return argument :: (← classifyAll rest)

/-! ### All arguments -/

/-- The text of an argument. -/
def Argument.text : Argument → String
  | .word text => text
  | .flag _ _ _ text => text
  | .unknown text => text
  | .separator => "--"

/-- What has been read so far: the options, the words left over, and whether
help was asked for. -/
structure Progress where
  options : Options := {}
  leftOver : List String := []
  help : Bool := false

/-- An option in effect, with its value if it has one. -/
abbrev Taken := Flag × Setting

/-- Puts an option into effect. -/
def Progress.take (progress : Progress) (flag : Flag) (setting : Setting) : Progress :=
  match flag with
  | .help => { progress with help := true }
  | .config => { progress with options := { progress.options with config := setting } }
  | .outputDirectory =>
    { progress with options := { progress.options with outputDirectory := setting } }
  | .debug => { progress with options := { progress.options with debug := true } }

/-- Leaves a word over. -/
def Progress.leave (progress : Progress) (text : String) : Progress :=
  { progress with leftOver := progress.leftOver ++ [text] }

/-- What one argument means: the options that need nothing more, in order, and
then either an option that still needs its value, or nothing. -/
structure Letters where
  /-- The options that need nothing more. -/
  complete : List Taken := []
  /-- An option whose value is the next argument. -/
  pending : Option Flag := none

/-- An option without a value of its own, before what the rest means. -/
def Letters.after (flag : Flag) (letters : Letters) : Letters :=
  { letters with complete := (flag, .void) :: letters.complete }

/-- An option that nothing is attached to. -/
def Letters.bare (flag : Flag) : Letters :=
  if flag.takesValue then { pending := some flag } else { complete := [(flag, .void)] }

/-- What an option is set to by the text attached to it. -/
def attachedSetting (text : String) : Setting := if text = "--" then .void else .value text

/-- What a short option means with this text attached: its value, or further
letters. -/
def readLetters (flag : Flag) : List Char → Except UsageError Letters
  | [] =>
    if flag.takesValue then .ok { complete := [(flag, .value "")] }
    else .error (.unwantedValue flag "")
  | letter :: rest =>
    if flag.takesValue then
      .ok { complete := [(flag, attachedSetting (String.ofList (letter :: rest)))] }
    else
      match Flag.ofSpelling? (String.ofList ['-', letter]) with
      | none => .error (.unwantedValue flag (String.ofList (letter :: rest)))
      | some next =>
        -- Only the last letter can wait for the next argument.
        match rest with
        | [] => .ok ((Letters.bare next).after flag)
        | second :: rest => do return (← readLetters next (second :: rest)).after flag

/-- What one option means, with what is attached to it. -/
def readFlag (flag : Flag) (isShort : Bool) : Option String → Except UsageError Letters
  | none => .ok (.bare flag)
  | some attached =>
    if flag.takesValue then .ok { complete := [(flag, attachedSetting attached)] }
    else if isShort then readLetters flag attached.toList
    else .error (.unwantedValue flag attached)

/-- Puts options into effect in order. -/
def takeAll (progress : Progress) (taken : List Taken) : Progress :=
  taken.foldl (fun progress (flag, setting) => progress.take flag setting) progress

/-- Reads arguments in order. Asking for help ends the reading. -/
def readAll (progress : Progress) : List Argument → Except UsageError Progress
  | [] => .ok progress
  | .flag flag isShort attached _ :: rest => do
    let letters ← readFlag flag isShort attached
    match letters.pending, rest with
    | none, rest =>
      let progress := takeAll progress letters.complete
      if progress.help then return progress else readAll progress rest
    | some flag, .word value :: rest =>
      let progress := takeAll progress (letters.complete ++ [(flag, .value value)])
      if progress.help then return progress else readAll progress rest
    | some flag, _ => .error (.missingValue flag)
  | argument :: rest => readAll (progress.leave argument.text) rest

/-- What the arguments ask for. -/
def parse (arguments : List String) : Except UsageError Request := do
  let progress ← readAll {} (← classifyAll arguments)
  if progress.help then return .help
  else if progress.leftOver ≠ [] then .error (.leftOver progress.leftOver)
  else return .run progress.options

end CommandLine

end TerminalReel
