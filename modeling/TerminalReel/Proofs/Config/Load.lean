import TerminalReel.CommandLine.Run
import TerminalReel.Json.Relaxed
import TerminalReel.Proofs.Json.Bounds
import TerminalReel.Proofs.Output.Work
/-!
# TerminalReel.Proofs.Config.Load

Loading a configuration from a file that holds a document: **what is wrong is reported**,
up to three exceptions.

A strict document must be text, while bytes that are no text are as good as malformed in a
relaxed one. And what is read must be small enough for the host to follow and to write: a
text within bounds is, so only a text beyond them ends with a fault that is no report. The
reader of relaxed documents is the host's, and all that is asked of it is that it reports
what is wrong with a text.
-/

namespace TerminalReel

/-- The text stays within what the host reads in this form, and shows and writes in a
report. Of a strict text the brackets and the digits are counted. -/
def ConfigForm.Fits (host : Host) : ConfigForm → List Char → Prop
  | strict, text => Json.Within digitLimit host.room text ∧
      ∀ document, Json.read host.room text = .ok document → host.shows.covers document = true
  | relaxed, text => host.readRelaxed text ≠ .error .tooDeep ∧
      ∀ document, host.readRelaxed text = .ok document →
        document.isWritable = true ∧ host.shows.covers document = true
  | definition, _ => False

namespace Config

/-- How reading bytes in a form may fail. -/
inductive Refuses (host : Host) (form : ConfigForm) (content : ByteArray) : Fault → Prop
  /-- Something is wrong with the configuration. -/
  | report (e : ConfigError) : Refuses host form content (.config e)
  /-- The bytes of a strict document are no text. -/
  | undecodable {fault : DecodingFault} : form = .strict → decodeText content = .error fault →
      Refuses host form content (.undecodable fault)
  /-- A number in the text has too many digits. -/
  | longNumeral {text : List Char} : decodeText content = .ok text → ¬form.Fits host text →
      Refuses host form content .longNumeral
  /-- The text goes too deep. -/
  | tooDeep {text : List Char} : decodeText content = .ok text → ¬form.Fits host text →
      Refuses host form content .tooDeep

variable {host : Host} {disk : Disk} {path : Path} {form : ConfigForm} {content : ByteArray}
  {text : List Char} {fault : DecodingFault}

/-- A document that is refused gives a report, whatever is wrong with it, if its text fits. -/
theorem ends_ofDocument (decoded : decodeText content = .ok text) {document : Json}
    (fits : form.Fits host text →
      document.isWritable = true ∧ host.shows.covers document = true) :
    Ends (fun _ => True) (Refuses host form content) (ofDocument host document).outcome := by
  have reports := reports_ofJson (Json.tellable host) document
  rw [ofDocument, Attempt.outcome_mapError]
  refine (reports.mono fun _ _ => trivial).mapError fun e report => ?_
  by_cases within : form.Fits host text
  · rw [report.ofConfig_eq (fits within)]
    exact .report e
  · rw [report.ofConfig_eq_told]
    unfold Fault.told
    split_ifs
    · exact .tooDeep decoded within
    · exact .report e
    · exact .longNumeral decoded within

/-- In a strict document, bytes that are no text are a fault of their own. -/
theorem ofStrict_of_undecodable (undecoded : decodeText content = .error fault) :
    (ofStrict host path content).outcome = .error (.undecodable fault) := by
  rw [ofStrict, undecoded]
  rfl

/-- In a relaxed document they are reported, with what is wrong with them. -/
theorem ofRelaxed_of_undecodable (undecoded : decodeText content = .error fault) :
    (ofRelaxed host path content).outcome
      = .error (.config (.document (.malformedRelaxed path.text fault.message))) := by
  rw [ofRelaxed, undecoded]
  rfl

theorem ends_ofStrict (host : Host) (path : Path) (content : ByteArray) :
    Ends (fun _ => True) (Refuses host .strict content) (ofStrict host path content).outcome := by
  cases decoded : decodeText content with
  | error fault =>
      rw [ofStrict_of_undecodable decoded]
      exact .error (.undecodable rfl decoded)
  | ok text =>
      have bounded (fits : ConfigForm.strict.Fits host text) :
          Ends (·.IsWithin host.room) Json.Stop.IsFlaw (Json.read host.room text) :=
        Json.ends_read le_rfl fits.1
      have stops (stop : Json.Stop) (stopped : Json.read host.room text = .error stop)
          (limit : ¬stop.IsFlaw) : ¬ConfigForm.strict.Fits host text :=
        fun fits => limit ((bounded fits).of_error stopped)
      unfold ofStrict
      rw [decoded]
      dsimp only
      split
      · rename_i document read
        exact ends_ofDocument decoded fun fits =>
          ⟨((bounded fits).of_ok read).2, fits.2 document read⟩
      · exact .error (.report _)
      · rename_i read
        exact .error (.longNumeral decoded (stops _ read nofun))
      · rename_i read
        exact .error (.tooDeep decoded (stops _ read nofun))

/-- A relaxed document is read or reported, unless its text is beyond what fits. -/
theorem ends_ofRelaxed (regular : host.ReportsFlaws) (path : Path) (content : ByteArray) :
    Ends (fun _ => True) (Refuses host .relaxed content) (ofRelaxed host path content).outcome := by
  cases decoded : decodeText content with
  | error fault =>
      rw [ofRelaxed_of_undecodable decoded]
      exact .error (.report _)
  | ok text =>
      unfold ofRelaxed
      rw [decoded]
      dsimp only
      split
      · rename_i document read
        exact ends_ofDocument decoded fun fits => fits.2 document read
      · exact .error (.report _)
      · rename_i read
        exact .error (.tooDeep decoded fun fits => fits.1 read)
      · rename_i read
        exact absurd read (regular text)

theorem ends_ofContent (regular : host.ReportsFlaws) (path : Path) (content : ByteArray)
    (data : form ≠ .definition) :
    Ends (fun _ => True) (Refuses host form content)
      (ofContent host path form content).outcome := by
  cases form with
  | strict => exact ends_ofStrict host path content
  | relaxed => exact ends_ofRelaxed regular path content
  | definition => exact absurd rfl data

/-- Loading is reading the content of the file in the form that its suffix names. -/
theorem outcome_load (named : ConfigForm.ofSuffix? (lowercase path.suffix) = some form)
    (found : disk.file? path = .ok (some content)) :
    (load host disk path).outcome = (ofContent host path form content).outcome := by
  have file : Attempt.ofExcept ((disk.file? path).mapError Fault.storage)
      = pure (some content) := by
    rw [found]
    rfl
  rw [load, named]
  dsimp only
  rw [file, pure_bind]
  simp only [Attempt.outcome_bind, Attempt.outcome_log, Attempt.outcome_pure]
  cases (ofContent host path form content).outcome <;> rfl

end Config

/-! ### The command line -/

namespace CommandLine

variable {disk : Disk} {options : Options} {file : String}

/-- A configuration that is not loaded ends the run, and changes nothing. -/
theorem runOptions_of_load (environment : Environment) (named : options.config = .value file)
    {fault : Fault}
    (failed : (Config.load environment.host disk (.ofText file)).outcome = .error fault) :
    ∃ shown, runOptions environment options disk =
      if fault.isReport || fault.isRefusal then
        { errors := shown ++ ["Error: " ++ fault.message], disk, ending := .exit 1 }
      else { errors := shown, disk, ending := .crash fault } := by
  have done : ((produce environment options file).perform disk).value = (.error fault, disk) := by
    refine (Work.ending_bind _ _ disk).trans ?_
    rw [Work.ending_reading, failed]
  refine ⟨shownEntries options.debug ((produce environment options file).perform disk).entries, ?_⟩
  rw [runOptions, named]
  dsimp only
  rw [done]

end CommandLine

/-! ### The file -/

namespace Config

variable {host : Host} {disk : Disk} {path : Path} {form : ConfigForm} {content : ByteArray}

/-- A file that holds a document is loaded, or a report says what is wrong with it, and on
the command line it is shown as an error. Only a strict document whose bytes are no text
is not reported, and a text that is too large for the host to be. -/
theorem load_ends (regular : host.ReportsFlaws)
    (named : ConfigForm.ofSuffix? (lowercase path.suffix) = some form)
    (data : form ≠ .definition) (found : disk.file? path = .ok (some content)) :
    Ends (fun _ => True) (Refuses host form content) (load host disk path).outcome ∧
      (∀ fault, (load host disk path).outcome = .error (.undecodable fault) ↔
        form = .strict ∧ decodeText content = .error fault) ∧
      ∀ (environment : CommandLine.Environment) (options : CommandLine.Options) (file : String),
        environment.host = host → options.config = .value file → Path.ofText file = path →
        ∀ fault, (load host disk path).outcome = .error fault →
          ∃ shown, CommandLine.runOptions environment options disk =
            match fault with
            | .config e => { errors := shown ++ ["Error: " ++ e.message], disk, ending := .exit 1 }
            | _ => { errors := shown, disk, ending := .crash fault } := by
  have ends : Ends (fun _ => True) (Refuses host form content) (load host disk path).outcome := by
    rw [outcome_load named found]
    exact ends_ofContent regular path content data
  refine ⟨ends, fun fault => ⟨fun failed => ?_, ?_⟩, ?_⟩
  · cases ends.of_error failed with
    | undecodable strict undecoded => exact ⟨strict, undecoded⟩
  · rintro ⟨rfl, undecoded⟩
    rw [outcome_load named found]
    exact ofStrict_of_undecodable undecoded
  · rintro environment options file rfl asked rfl fault failed
    obtain ⟨shown, run⟩ := CommandLine.runOptions_of_load environment asked failed
    refine ⟨shown, run.trans ?_⟩
    cases ends.of_error failed with
    | report e => rfl
    | undecodable => rfl
    | longNumeral => rfl
    | tooDeep => rfl

/-- The reader that is at hand reports every flaw. -/
theorem reportsFlaws_standard : Host.standard.ReportsFlaws := by
  intro text failed
  change Json.Relaxed.reader {} text = _ at failed
  rw [Json.Relaxed.reader] at failed
  cases read : Json.Relaxed.read {} text with
  | ok document =>
      rw [read] at failed
      cases failed
  | error refusal =>
      rw [read] at failed
      cases refusal <;> cases failed

/-- A file of the byte that is in no text. -/
def noText (name : Text) : Disk := Disk.put {} [name] (.file [0xff].toByteArray)

/-- What is wrong with that byte. -/
def noStart : DecodingFault where
  place := 0
  byte := 0xff
  count := 1
  problem := .start

theorem decodeText_noText : decodeText [0xff].toByteArray = .error noStart := by
  rw [decodeText, decodingFault?]
  rfl

/-- In a relaxed document the byte is reported. -/
theorem load_ends_noText :
    let path : Path := .ofText "a.jsonc"
    let disk := noText "a.jsonc"
    ConfigForm.ofSuffix? (lowercase path.suffix) = some .relaxed ∧
      disk.file? path = .ok (some [0xff].toByteArray) ∧
      Ends (fun _ => True) (Refuses .standard .relaxed [0xff].toByteArray)
        (load .standard disk path).outcome ∧
      ∃ shown, CommandLine.runOptions { host := .standard, workingDirectory := { names := [] } }
          { config := .value "a.jsonc" } disk =
        { errors := shown ++ [Text.ofString ("Error: invalid JSONC in a.jsonc: " ++
            "'utf-8' codec can't decode byte 0xff in position 0: invalid start byte")]
          disk, ending := .exit 1 } := by
  intro path disk
  have named : ConfigForm.ofSuffix? (lowercase path.suffix) = some .relaxed := by decide +kernel
  have found : disk.file? path = .ok (some [0xff].toByteArray) := rfl
  obtain ⟨ends, -, shows⟩ := load_ends reportsFlaws_standard named nofun found
  refine ⟨named, found, ends, ?_⟩
  have failed : (load .standard disk path).outcome
      = .error (.config (.document (.malformedRelaxed path.text noStart.message))) := by
    rw [outcome_load named found]
    exact ofRelaxed_of_undecodable decodeText_noText
  obtain ⟨shown, run⟩ := shows { host := .standard, workingDirectory := { names := [] } }
    { config := .value "a.jsonc" } "a.jsonc" rfl rfl rfl _ failed
  exact ⟨shown, run⟩

/-- In a strict document it is not, and the run ends without an error being shown. -/
theorem not_report_noText :
    let path : Path := .ofText "a.json"
    let disk := noText "a.json"
    ConfigForm.ofSuffix? (lowercase path.suffix) = some .strict ∧
      disk.file? path = .ok (some [0xff].toByteArray) ∧
      (load .standard disk path).outcome = .error (.undecodable noStart) ∧
      (CommandLine.runOptions { host := .standard, workingDirectory := { names := [] } }
        { config := .value "a.json" } disk).ending = .crash (.undecodable noStart) := by
  intro path disk
  have named : ConfigForm.ofSuffix? (lowercase path.suffix) = some .strict := by decide +kernel
  have found : disk.file? path = .ok (some [0xff].toByteArray) := rfl
  have failed : (load .standard disk path).outcome = .error (.undecodable noStart) := by
    rw [outcome_load named found]
    exact ofStrict_of_undecodable decodeText_noText
  refine ⟨named, found, failed, ?_⟩
  have asked : ({ config := .value "a.json" } : CommandLine.Options).config = .value "a.json" := rfl
  obtain ⟨shown, run⟩ := CommandLine.runOptions_of_load
    { host := .standard, workingDirectory := { names := [] } } asked failed
  rw [run]
  rfl

end Config

end TerminalReel
