import TerminalReel.CommandLine.Options
import TerminalReel.Config.File
import TerminalReel.Output
import TerminalReel.Tools
/-!
# TerminalReel.CommandLine.Run

A **run of the program** from its arguments, as a value: what it shows, the disk
it leaves, and how it ends.

With a configuration file the run reads it and writes the animation's files.
Without one the program serves its tools, which is left to whoever runs it.
-/

namespace TerminalReel

namespace CommandLine

/-- How a run ends. -/
inductive Ending
  /-- With a status, zero for success. -/
  | exit (status : Nat)
  /-- The tools are served from here on. -/
  | serve
  /-- With a fault that is not the user's. -/
  | crash (fault : Fault)

/-- What a run shows, the disk it leaves, and how it ends. -/
structure RunResult where
  /-- The lines for the user who asked. -/
  output : List String := []
  /-- Reports and errors, in order. -/
  errors : List Text := []
  disk : Disk
  ending : Ending

/-- What surrounds a run. -/
structure Environment where
  host : Host
  /-- The working directory. -/
  workingDirectory : Path
  /-- The directory for the files that the environment names. -/
  outputDirectory : Option String := none

/-- The name of the environment's setting for the output directory. -/
def outputDirectoryVariable : String := "TERMANIM_OUTPUT_DIRECTORY"

/-- How the program is used, in one line. -/
def usage : String :=
  s!"usage: {Tools.programName} [-h] [-c CONFIG] [-o OUTPUT_DIRECTORY] [--debug]"

/-- The lines that help shows. -/
def help : List String :=
  [usage, "", "termanim - compile terminal session animations", "", "options:",
   "  -h, --help            show this help message and exit",
   "  -c CONFIG, --config CONFIG",
   "                        Animation config (.json, .jsonc or .py). Without it,",
   "                        serve MCP over stdio",
   "  -o OUTPUT_DIRECTORY, --output-directory OUTPUT_DIRECTORY",
   "                        Where to write output files (default: config,",
   "                        $TERMANIM_OUTPUT_DIRECTORY, cwd)",
   "  --debug               Enable debug logging"]

/-- A report as a line. -/
def entryLine (entry : LogEntry) : Text :=
  Text.ofString s!"{entry.channel.name} - {entry.level.name} - " ++ entry.text

/-- The lines of the reports that are shown: with debugging all of them. -/
def shownEntries (debug : Bool) (entries : List LogEntry) : List Text :=
  (entries.filter fun entry => debug || entry.level ≠ .debug).map entryLine

/-- What is reported when the tools are to be served. -/
def servingReport : LogEntry := ⟨.info, .program, "Starting termanim MCP server"⟩

/-- What is reported about a configuration before its files are written. -/
def configReport (config : Config) : Text :=
  let outputs : Json := .array (config.outputs.map fun kind => .string kind.name)
  "Config loaded: name=" ++ config.name
    ++ Text.ofString s!", embed={(Json.bool config.embed).shown}, outputTypes={outputs.shown}"

/-- The directory for the files of a configuration. -/
def targetDirectory (environment : Environment) (options : Options) (config : Config) :
    Path :=
  Output.directory config (options.outputDirectory.value?.map .ofString)
    (environment.outputDirectory.map .ofString) environment.workingDirectory

/-- Reads a configuration file and writes the animation's files. -/
def produce (environment : Environment) (options : Options) (file : String) :
    Work (List Path) := do
  let config ← Work.reading fun disk => Config.load environment.host disk (.ofText file)
  Work.log .info (configReport config)
  Output.write environment.host config (targetDirectory environment options config)

/-- A run with these options. -/
def runOptions (environment : Environment) (options : Options) (disk : Disk) : RunResult :=
  match options.config with
  | .unset => { errors := shownEntries options.debug [servingReport], disk, ending := .serve }
  | .void => { disk, ending := .crash .noFileNamed }
  | .value file =>
    let done := (produce environment options file).perform disk
    let shown := shownEntries options.debug done.entries
    match done.value with
    | (.ok _, disk) => { errors := shown, disk, ending := .exit 0 }
    | (.error fault, disk) =>
      if fault.isReport || fault.isRefusal then
        { errors := shown ++ ["Error: " ++ fault.message], disk, ending := .exit 1 }
      else { errors := shown, disk, ending := .crash fault }

/-- A run from its arguments. -/
def run (environment : Environment) (arguments : List String) (disk : Disk) : RunResult :=
  match parse arguments with
  | .ok .help => { output := help, disk, ending := .exit 0 }
  | .ok (.run options) => runOptions environment options disk
  | .error e =>
    { errors := [.ofString usage, .ofString s!"{Tools.programName}: error: {e.message}"], disk
      ending := .exit 2 }

/-- The paths that a run may use, as far as the disk tells: the configuration
file, and, once that can be read, the files to be written. -/
def pathsUsed (environment : Environment) (arguments : List String) (disk : Disk) : List Path :=
  match parse arguments with
  | .ok (.run options) =>
    match options.config with
    | .value file =>
      let source := Path.ofText file
      let loaded := (Config.load environment.host disk source).outcome
      source :: loaded.toOption.toList.flatMap fun config =>
        let directory := targetDirectory environment options config
        OutputKind.all.map (Output.filePath config directory)
    | _ => []
  | _ => []

end CommandLine

end TerminalReel
