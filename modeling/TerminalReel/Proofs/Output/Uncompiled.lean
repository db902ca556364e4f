import TerminalReel.Proofs.Output.Files
/-!
# TerminalReel.Proofs.Output.Uncompiled

What a run leaves on the disk when its animation **cannot be compiled**.

The directory for the files is made before the animation is compiled. So such a run has
made the directory, and those that hold it, where they were missing. It has changed
nothing else, and nothing at all only where the directory was there before.
-/

namespace TerminalReel

namespace Fault

theorem told_cases (showable writable : Bool) (report : Fault) :
    told showable writable report = tooDeep ∨ told showable writable report = longNumeral ∨
      told showable writable report = report := by
  cases showable <;> cases writable <;> simp [told]

/-- A failure to compile is told, or cannot be told. -/
theorem ofCompile_cases (host : Host) (e : CompileError) :
    ofCompile host e = tooDeep ∨ ofCompile host e = longNumeral ∨
      ofCompile host e = compile e := by
  cases e with
  | step e => exact told_cases _ _ _
  | crowding e => exact .inr (.inr rfl)
  | arithmetic e =>
      cases e with
      | tooManyDigits => exact .inr (.inl rfl)
      | _ => exact .inr (.inr rfl)

theorem ofCompile_ne_storage (host : Host) (e : CompileError) (e' : StorageError) :
    ofCompile host e ≠ storage e' := by
  intro same
  have cases := ofCompile_cases host e
  simp [same] at cases

theorem ofCompile_ne_unencodable (host : Host) (e : CompileError) :
    ofCompile host e ≠ unencodable := by
  intro same
  have cases := ofCompile_cases host e
  simp [same] at cases

end Fault

namespace Output

variable {host : Host} {config : Config} {directory path : Path} {disk after : Disk}
  {text : Text} {e : CompileError}

/-- A failure to compile finds the disk with the directory made, and nothing else done. -/
def BeforeFiles (host : Host) (disk : Disk) (directory : Path) (fault : Fault) (after : Disk) :
    Prop :=
  ∀ e, fault = .ofCompile host e → disk.makeDirectories directory = (after, .ok ())

/-- A file that is not written is no failure to compile. -/
theorem beforeFiles_of_spoils {middle : Disk} {fault : Fault}
    (h : middle.Spoils path text fault after) : BeforeFiles host disk directory fault after := by
  intro e same
  cases h with
  | refused => exact absurd same.symm (Fault.ofCompile_ne_storage host e _)
  | unencodable => exact absurd same.symm (Fault.ofCompile_ne_unencodable host e)

/-- A run that fails to compile has made the directory, and has done nothing else. -/
theorem leaves_uncompiled (host : Host) (config : Config) (directory : Path) (disk : Disk) :
    (write host config directory).Leaves disk (fun _ _ => True)
      (BeforeFiles host disk directory) := by
  have made : (Work.changing (·.makeDirectories directory)).Leaves disk
      (fun _ middle => disk.makeDirectories directory = (middle, .ok ()))
      (BeforeFiles host disk directory) := by
    refine Work.leaves_changing ?_
    rcases disk.makeDirectories directory with ⟨middle, _ | ⟨⟩⟩
    · exact .error fun e same => absurd same.symm (Fault.ofCompile_ne_storage host e _)
    · exact .ok rfl
  refine made.bind fun _ middle made => ?_
  have compiled : (Work.ofAttempt (.ofCompile host)
      (Document.build config config.name)).Leaves middle (fun _ _ => True)
      (BeforeFiles host disk directory) := by
    refine Work.leaves_ofAttempt ?_
    cases (Document.build config config.name).outcome with
    | ok document => exact .ok trivial
    | error e => exact .error fun _ _ => made
  refine compiled.bind fun document middle _ => ?_
  -- From here on the animation is compiled, and whatever fails is a file.
  have page := leaves_optional config directory .html "HTML" document.html (writesPage config)
    middle
  refine (page.worse fun _ _ => beforeFiles_of_spoils).choose fun page middle _ => ?_
  have drawing := leaves_optional config directory .svg "SVG" document.svg (writesDrawing config)
    middle
  exact (drawing.worse fun _ _ => beforeFiles_of_spoils).choose fun _ _ _ => .pure trivial

/-- A run whose animation cannot be compiled fails so, unless the directory cannot be made. -/
theorem write_eq_of_build_eq_error (host : Host)
    (made : disk.makeDirectories directory = (after, .ok ()))
    (failed : (Document.build config config.name).outcome = .error e) :
    ((write host config directory).perform disk).value = (.error (.ofCompile host e), after) := by
  have begun : (Work.changing (·.makeDirectories directory)).ending disk = (.ok (), after) := by
    rw [Work.ending_changing, made]
    rfl
  have ended : (Work.ofAttempt (.ofCompile host) (Document.build config config.name)).ending after
      = (.error (.ofCompile host e), after) := by
    rw [Work.ending_ofAttempt, failed]
    rfl
  show (write host config directory).ending disk = _
  rw [write, Work.ending_bind, begun]
  show Work.ending (_ >>= _) after = _
  rw [Work.ending_bind, ended]

/-- A run that fails to compile leaves every file as it was. It leaves the directory that it
was to write in, with those on the way to it, and so leaves the disk as it was only if that
directory was there before. -/
theorem write_uncompiled
    (h : ((write host config directory).perform disk).value = (.error (.ofCompile host e), after)) :
    disk.OnlyMade directory after ∧ disk.SameFiles after ∧
      after.isDirectory directory = .ok true ∧
      (after = disk ↔ disk.isDirectory directory = .ok true) := by
  have made := (leaves_uncompiled host config directory disk).of_error h e rfl
  have standing := Disk.isDirectory_of_makeDirectories made
  have only := disk.onlyMade_makeDirectories directory
  have files := (disk.makes_makeDirectories directory).files
  rw [made] at only files
  refine ⟨only, files, standing, ?_, ?_⟩
  · rintro rfl
    exact standing
  · intro before
    rw [Disk.makeDirectories_of_isDirectory before] at made
    exact (congrArg Prod.fst made).symm

/-- A configuration without steps, which nothing can be made of. -/
def noSteps : Config := {}

theorem build_noSteps : ∃ e, (Document.build noSteps noSteps.name).outcome = .error e := by
  cases built : (Document.build noSteps noSteps.name).outcome with
  | error e => exact ⟨e, rfl⟩
  | ok document =>
      have failed : (Document.build noSteps noSteps.name).outcome.isOk = false := by
        decide +kernel
      rw [built] at failed
      cases failed

/-- A directory for files, on a disk where there is nothing. -/
def newDirectory : Path where
  names := ["out"]

theorem makeDirectories_newDirectory : ({} : Disk).makeDirectories newDirectory
    = ({ nodes := [(["out"], .directory)] }, .ok ()) := by
  rw [Disk.makeDirectories, Disk.makeDirectoriesFrom.eq_def]
  rfl

theorem write_uncompiled_noSteps : ∃ e after,
    ((write .standard noSteps newDirectory).perform {}).value
      = (.error (.ofCompile .standard e), after) ∧
      ({} : Disk).OnlyMade newDirectory after ∧ ({} : Disk).SameFiles after ∧ after ≠ {} := by
  obtain ⟨e, failed⟩ := build_noSteps
  have run := write_eq_of_build_eq_error .standard makeDirectories_newDirectory failed
  obtain ⟨only, files, -, kept⟩ := write_uncompiled run
  refine ⟨e, _, run, only, files, fun same => ?_⟩
  have absent : ({} : Disk).isDirectory newDirectory = .ok false := rfl
  rw [kept.1 same] at absent
  cases absent

/-- The run fails to compile, and the directory for its files is left. -/
theorem not_unchanged_noSteps : ∃ e after,
    ((write .standard noSteps newDirectory).perform {}).value
      = (.error (.ofCompile .standard e), after) ∧
      ({} : Disk).node? ["out"] = none ∧ after.node? ["out"] = some .directory := by
  obtain ⟨e, failed⟩ := build_noSteps
  exact ⟨e, _, write_eq_of_build_eq_error .standard makeDirectories_newDirectory failed, rfl, rfl⟩

end Output

end TerminalReel
