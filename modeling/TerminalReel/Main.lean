import TerminalReel.CommandLine.Run
import TerminalReel.Json.Relaxed
/-!
# TerminalReel.Main

The program on the files of a system.

It looks up what stands at the paths that a run may use, runs, and then makes
the changes of the run: directories before what stands in them.
-/

namespace TerminalReel

namespace Disk

/-- What stands at a path of the system. -/
def lookUp (text : String) : IO (Option Node) := do
  try
    let _ ← IO.FS.realPath (text ++ "/.")
    return some .directory
  catch _ =>
    try
      return some (.file (← IO.FS.readBinFile text))
    catch _ =>
      return none

/-- A place as the system writes it, if its names are all characters. -/
def placeText? (place : Place) : Option String :=
  (place.mapM Text.toString?).map fun names => "/" ++ String.intercalate "/" names

/-- The places that names lead through from a place. -/
def placesThrough : Place → List Text → List Place
  | place, [] => [place]
  | place, name :: rest =>
    place :: placesThrough (if name = ".." then place.dropLast else place ++ [name]) rest

/-- The part of the system's files that paths lead through. -/
def observe (workingDirectory : Place) (paths : List Path) : IO Disk := do
  let empty : Disk := { workingDirectory }
  let places :=
    placesThrough [] workingDirectory
      ++ paths.flatMap fun path => placesThrough (empty.origin path) path.names
  places.foldlM (fun disk place => do
    match ← (placeText? place).bindM lookUp with
    | some node => return disk.put place node
    | none => return disk) empty

/-- Something at a place is as it was. -/
def unchanged (before : Disk) (place : Place) (node : Node) : Bool :=
  match before.node? place, node with
  | some .directory, .directory => true
  | some (.file old), .file new => old == new
  | _, _ => false

/-- Makes the changes from one disk to another in the system. -/
def commit (before after : Disk) : IO Unit :=
  after.nodes.reverse.forM fun (place, node) =>
    match before.unchanged place node, placeText? place, node with
    | false, some text, .directory => IO.FS.createDir text
    | false, some text, .file content => IO.FS.writeBinFile text content
    | _, _, _ => pure ()

end Disk

namespace CommandLine

/-- Runs the program on the system's files; its status. -/
def perform (arguments : List String) : IO UInt32 := do
  let workingDirectory := Path.ofText (Text.ofString (toString (← IO.currentDir)))
  let environment : Environment :=
    { host := .standard, workingDirectory
      outputDirectory := ← IO.getEnv outputDirectoryVariable }
  let observe (known : Disk) : IO Disk :=
    Disk.observe workingDirectory.names (pathsUsed environment arguments known)
  let disk ← observe (← observe {})
  let done := run environment arguments disk
  done.output.forM IO.println
  done.errors.forM fun line => IO.eprintln (line.toString?.getD (quoted line))
  Disk.commit disk done.disk
  match done.ending with
  | .exit status => return status.toUInt32
  | .serve => return 0
  | .crash fault =>
    IO.eprintln (fault.message.toString?.getD (quoted fault.message))
    return 1

end CommandLine

end TerminalReel

/-- The program. -/
def main (arguments : List String) : IO UInt32 :=
  TerminalReel.CommandLine.perform arguments
