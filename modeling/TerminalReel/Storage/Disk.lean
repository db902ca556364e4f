import TerminalReel.Storage.Path
import TerminalReel.Text.Quoted
/-!
# TerminalReel.Storage.Disk

Files and directories **as a value**.

A disk maps places to what stands there. A place is the list of names from the
root, without dots; a path leads to a place by a walk through directories that
exist, and a walk that cannot go on says why. Each operation changes one place or
nothing. What the tree of files allows the system may still refuse, for reasons of its
own, and it may break off a write after some bytes.
-/

namespace TerminalReel

/-- The names from the root to a file or a directory. -/
abbrev Place := List Text

/-- What stands at a place. -/
inductive Node
  | directory
  | file (content : ByteArray)

/-- Why the system refuses an operation. -/
inductive StorageProblem
  | notFound
  | alreadyExists
  | notDirectory
  | isDirectory
  | nameTooLong
  /-- Any other problem, by its number and its wording. -/
  | other (code : Nat) (wording : String)
  deriving DecidableEq

namespace StorageProblem

/-- The number by which the system tells the problem. -/
def code : StorageProblem → Nat
  | notFound => 2
  | alreadyExists => 17
  | notDirectory => 20
  | isDirectory => 21
  | nameTooLong => 36
  | other code _ => code

/-- The system's wording. -/
def wording : StorageProblem → String
  | notFound => "No such file or directory"
  | alreadyExists => "File exists"
  | notDirectory => "Not a directory"
  | isDirectory => "Is a directory"
  | nameTooLong => "File name too long"
  | other _ wording => wording

end StorageProblem

/-- What the system does with a file that is to be written where the tree allows it. -/
inductive Writing
  /-- It writes all of it. -/
  | whole
  /-- It does not open the file, and leaves what stands there. -/
  | refused (problem : StorageProblem)
  /-- It writes some of the first bytes, at most this many, and then breaks off. -/
  | broken (written : Nat) (problem : StorageProblem)

/-- A tree of files, the directory from which paths without a root begin, and what the
system does with changes that the tree allows. -/
structure Disk where
  /-- What stands at each place; the root is always a directory. -/
  nodes : List (Place × Node) := []
  workingDirectory : Place := []
  /-- What becomes of a file that is written at a place. -/
  writing : Place → Writing := fun _ => .whole
  /-- Why no directory is made at a place, if none is. -/
  making : Place → Option StorageProblem := fun _ => none

/-- Why an operation on a path fails. -/
inductive StorageError
  /-- The system refuses it. -/
  | refused (problem : StorageProblem) (path : Path)
  /-- The system breaks off a write. -/
  | broken (problem : StorageProblem)
  /-- The path holds a character that ends texts for the system. -/
  | nullInPath
  /-- The path holds a surrogate that stands for no byte. -/
  | unencodable
  deriving DecidableEq

/-- The message about a failed operation. -/
def StorageError.message : StorageError → String
  | refused problem path => s!"[Errno {problem.code}] {problem.wording}: {quoted path.text}"
  | broken problem => s!"[Errno {problem.code}] {problem.wording}"
  | nullInPath => "embedded null byte"
  | unencodable => "the path has a surrogate and no bytes"

/-! ### Names as the system has them -/

/-- The number of bytes of a code point in a name. The upper surrogates from the
second 128 on stand for single bytes that are no text. -/
def CodePoint.systemSize? : CodePoint → Option Nat
  | char c => some c.utf8Size
  | surrogate offset => if 0x480 ≤ offset.val ∧ offset.val < 0x500 then some 1 else none

/-- The number of bytes of a text in a path. -/
def Text.systemSize? (text : Text) : Option Nat :=
  (text.points.mapM CodePoint.systemSize?).map fun sizes => sizes.foldl (· + ·) 0

namespace Disk

/-- The most bytes of a name. -/
def nameLimit : Nat := 255

/-- A path has fewer bytes than this. -/
def pathLimit : Nat := 4096

/-- What stands at a place. -/
def node? (disk : Disk) (place : Place) : Option Node :=
  if place = [] then some .directory else disk.nodes.lookup place

/-- Puts something at a place. -/
def put (disk : Disk) (place : Place) (node : Node) : Disk :=
  { disk with nodes := (place, node) :: disk.nodes.filter (·.1 ≠ place) }

theorem node?_put_self (disk : Disk) {place : Place} (node : Node) (h : place ≠ []) :
    (disk.put place node).node? place = some node := by
  simp [node?, put, h]

/-- The place of a directory is reached only if a directory stands there. -/
def enter (disk : Disk) (place : Place) : Except StorageProblem Unit :=
  match disk.node? place with
  | some .directory => .ok ()
  | some (.file _) => .error .notDirectory
  | none => .error .notFound

/-- The place that a name leads to from a directory. -/
def step (disk : Disk) (directory : Place) (name : Text) : Except StorageProblem Place := do
  disk.enter directory
  if name = ".." then return directory.dropLast
  else if nameLimit < name.systemSize?.getD 0 then .error .nameTooLong
  else return directory ++ [name]

/-- The place that names lead to from a directory. -/
def walk (disk : Disk) : Place → List Text → Except StorageProblem Place
  | place, [] => .ok place
  | place, name :: rest => do walk disk (← disk.step place name) rest

/-- Where a path begins. -/
def origin (disk : Disk) (path : Path) : Place :=
  if path.isAbsolute then [] else disk.workingDirectory

/-- The place that a path leads to. -/
def resolve (disk : Disk) (path : Path) : Except StorageError Place :=
  match path.text.systemSize? with
  | none => .error .unencodable
  | some size =>
    if path.text.points.contains (.char '\x00') then .error .nullInPath
    else if pathLimit ≤ size then .error (.refused .nameTooLong path)
    else (disk.walk (disk.origin path) path.names).mapError (.refused · path)

/-- What a path leads to, and nothing where it leads nowhere. -/
def stat (disk : Disk) (path : Path) : Except StorageError (Option Node) :=
  match disk.resolve path with
  | .ok place => .ok (disk.node? place)
  | .error (.refused .notFound _)
  | .error (.refused .notDirectory _)
  | .error .nullInPath
  | .error .unencodable => .ok none
  | .error e => .error e

/-- The path leads to a directory. -/
def isDirectory (disk : Disk) (path : Path) : Except StorageError Bool := do
  match ← disk.stat path with
  | some .directory => return true
  | _ => return false

/-- The content of the file that a path leads to, if it leads to one. -/
def file? (disk : Disk) (path : Path) : Except StorageError (Option ByteArray) := do
  match ← disk.stat path with
  | some (.file content) => return some content
  | _ => return none

/-- The path names something new in a directory, by its last name. -/
def namesChild (path : Path) : Bool :=
  match path.names.getLast? with
  | some name => name ≠ ".."
  | none => false

/-- An operation that keeps what it has done when it fails. -/
abbrev Result (α : Type) := Disk × Except StorageError α

/-- Writes a file, over the one that stands there if there is one. -/
def writeFile (disk : Disk) (path : Path) (content : ByteArray) : Result Unit :=
  match disk.resolve path with
  | .error e => (disk, .error e)
  | .ok place =>
    match namesChild path, disk.node? place with
    | false, _ | _, some .directory => (disk, .error (.refused .isDirectory path))
    | true, _ =>
      match disk.writing place with
      | .whole => (disk.put place (.file content), .ok ())
      | .refused problem => (disk, .error (.refused problem path))
      | .broken written problem =>
        (disk.put place (.file (content.extract 0 written)), .error (.broken problem))

/-- Makes a directory where nothing stands. -/
def makeDirectory (disk : Disk) (path : Path) : Except StorageError Disk := do
  let place ← disk.resolve path
  match namesChild path, disk.node? place with
  | true, none =>
    match disk.making place with
    | none => return disk.put place .directory
    | some problem => .error (.refused problem path)
  | _, _ => .error (.refused .alreadyExists path)

/-! ### Directories with all that lead to them -/

/-- What to make of a directory that could not be made: it may be there already. -/
def settle (disk : Disk) (path : Path) (e : StorageError) : Result Unit :=
  match e with
  | .nullInPath | .unencodable => (disk, .error e)
  | _ =>
    match disk.isDirectory path with
    | .ok true => (disk, .ok ())
    | .ok false => (disk, .error e)
    | .error e => (disk, .error e)

/-- Makes the directory whose names are these in reverse, and first those that
hold it where they are missing. -/
def makeDirectoriesFrom (slashes : Nat) : List Text → Disk → Result Unit
  | reversed, disk =>
    let path : Path := { slashes, names := reversed.reverse }
    match disk.makeDirectory path with
    | .ok disk => (disk, .ok ())
    | .error e =>
      match e, reversed with
      | .refused .notFound _, _ :: parent =>
        match makeDirectoriesFrom slashes parent disk with
        | (disk, .error e) => (disk, .error e)
        | (disk, .ok ()) =>
          -- What was missing is there now, unless a name led back out of it.
          match disk.makeDirectory path with
          | .ok disk => (disk, .ok ())
          | .error (.refused .notFound path) => (disk, .error (.refused .notFound path))
          | .error e => disk.settle path e
      | .refused .notFound _, [] => (disk, .error e)
      | _, _ => disk.settle path e

/-- Makes the directory of a path and those that hold it; one that is there
already is left as it is. -/
def makeDirectories (disk : Disk) (path : Path) : Result Unit :=
  makeDirectoriesFrom path.slashes path.names.reverse disk

end Disk

end TerminalReel
