import TerminalReel.Fault
/-!
# TerminalReel.Work

**Work on a disk**, step by step: each step reports, changes the disk, and may fail.
-/

namespace TerminalReel

/-- A piece of work on a disk: it reports, changes the disk, and may fail, and a
failure keeps what was reported and changed. -/
abbrev Work (α : Type) := ExceptT Fault (StateT Disk Logged) α

namespace Work

/-- Work that touches no disk. -/
def ofAttempt {ε α : Type} (fault : ε → Fault) (x : Attempt ε α) : Work α :=
  ExceptT.mk fun disk => ⟨x.entries, (x.outcome.mapError fault, disk)⟩

/-- Work that reads the disk. -/
def reading {α : Type} (x : Disk → Attempt Fault α) : Work α :=
  ExceptT.mk fun disk => ⟨(x disk).entries, ((x disk).outcome, disk)⟩

/-- Work that changes the disk and keeps its changes when it fails. -/
def changing {α : Type} (x : Disk → Disk.Result α) : Work α :=
  ExceptT.mk fun disk => ⟨[], ((x disk).2.mapError .storage, (x disk).1)⟩

/-- Reports one entry. -/
def log (level : Level) (text : Text) : Work Unit :=
  ofAttempt id (Attempt.log level .program text)

/-- How the work ends on a disk: the reports, the outcome and the disk after it. -/
def perform {α : Type} (work : Work α) (disk : Disk) : Logged (Except Fault α × Disk) := work disk

/-- Writes a file. A text that has no bytes leaves the file empty. -/
def writeFile (path : Path) (text : Text) : Work Unit := do
  let bytes := text.toUTF8?
  changing (·.writeFile path (bytes.getD .empty))
  if bytes.isNone then throw .unencodable

end Work

end TerminalReel
