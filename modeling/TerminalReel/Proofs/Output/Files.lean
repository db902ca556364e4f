import TerminalReel.Json.Relaxed
import TerminalReel.Proofs.Document.Link
import TerminalReel.Proofs.Output.Work
/-!
# TerminalReel.Proofs.Output.Files

**What a run leaves on the disk**, whichever way it ends.

The page is written before the drawing that it links to. So a page may be left alone, by a
run that fails at the drawing. It fails there for two reasons only: no file can be written
in the drawing's place, or the drawing has no bytes. A run that returns has written what it
says, and no run touches any other file.
-/

namespace TerminalReel

namespace Output

variable {host : Host} {config : Config} {directory : Path} {disk made paged after : Disk}
  {document : Document} {kind : OutputKind} {text : Text} {fault : Fault}

/-! ### The two paths -/

/-- The name of one of the files. -/
def fileName (config : Config) (kind : OutputKind) : Text :=
  config.name ++ "." ++ Text.ofString kind.name

theorem filePath_eq (config : Config) (directory : Path) (kind : OutputKind) :
    filePath config directory kind = directory.child (fileName config kind) := rfl

theorem fileName_ne_dots (config : Config) (kind : OutputKind) : fileName config kind ≠ ".." := by
  intro same
  have last := congrArg (·.points.getLast?) same
  cases kind <;> simp [fileName, OutputKind.name] at last

theorem namesChild_filePath (config : Config) (directory : Path) (kind : OutputKind) :
    Disk.namesChild (filePath config directory kind) = true := by
  simp [Disk.namesChild, filePath_eq, Path.child, fileName_ne_dots config kind]

theorem fileName_inj {kind kind' : OutputKind} (h : fileName config kind = fileName config kind') :
    kind = kind' := by
  have last := congrArg (·.points.getLast?) h
  cases kind <;> cases kind' <;> simp [fileName, OutputKind.name] at last ⊢

/-- The files have paths of their own. -/
theorem filePath_inj {kind kind' : OutputKind}
    (h : filePath config directory kind = filePath config directory kind') : kind = kind' := by
  have same : fileName config kind = fileName config kind' := by
    rw [← Path.fileName_child directory (fileName config kind), ← filePath_eq, h, filePath_eq,
      Path.fileName_child]
  exact fileName_inj same

/-- Where the way to the page is free, the way to the drawing is free too: its name is
no longer. -/
theorem resolve_drawing {place : Place}
    (h : disk.resolve (filePath config directory .html) = .ok place) :
    ∃ place', place' ≠ place ∧ disk.resolve (filePath config directory .svg) = .ok place' := by
  obtain ⟨⟨total, whole, -⟩, clean, -⟩ := Disk.resolve_eq_ok.1 h
  rw [filePath_eq, Path.text_child] at whole clean
  obtain ⟨_, size, -, sized, -⟩ := Text.systemSize?_append.1 whole
  obtain ⟨stem, kind, sized_stem, sized_kind, rfl⟩ := Text.systemSize?_append.1 sized
  have four : (Text.ofString OutputKind.html.name).systemSize? = some 4 := by decide
  have three : (Text.ofString OutputKind.svg.name).systemSize? = some 3 := by decide
  obtain rfl := Option.some.inj (four.symm.trans sized_kind)
  have sized' : (fileName config .svg).systemSize? = some (stem + 3) :=
    Text.systemSize?_append.2 ⟨stem, 3, sized_stem, three, rfl⟩
  have clean' : CodePoint.char '\x00' ∉ (fileName config .svg).points := by
    intro null
    rcases List.mem_append.1 null with null | null
    · exact clean (List.mem_append_right _ (List.mem_append_left _ null))
    · exact absurd null (by decide)
  obtain ⟨above, rfl, found⟩ := Disk.resolve_sibling h (fileName_ne_dots config .html)
    (fileName_ne_dots config .svg) sized sized' (by omega) clean'
  refine ⟨above ++ [fileName config .svg], ?_, found⟩
  intro same
  have names := List.cons.inj (List.append_cancel_left same)
  exact absurd (fileName_inj names.1) (by decide)

/-! ### Runs -/

/-- One of the files is saved under its path, or spoiled. -/
theorem leaves_writeOne (config : Config) (directory : Path) (kind : OutputKind) (label : String)
    (text : Text) (disk : Disk) : (writeOne config directory kind label text).Leaves disk
      (fun path after => path = filePath config directory kind ∧ disk.Saves path text after)
      (fun fault after => disk.Spoils (filePath config directory kind) text fault after) := by
  refine (Work.leaves_writeFile _ _ _).bind fun _ after saved => ?_
  have logged : (Work.log .info (Text.ofString (label ++ " saved to ") ++
      (filePath config directory kind).text)).Leaves after
        (fun _ later => disk.Saves (filePath config directory kind) text later)
        (fun fault after => disk.Spoils (filePath config directory kind) text fault after) :=
    Work.leaves_ofAttempt (.ok saved)
  exact logged.bind fun _ later saved => .pure ⟨rfl, saved⟩

/-- One of the files is written if it is asked for. -/
theorem leaves_optional (config : Config) (directory : Path) (kind : OutputKind) (label : String)
    (text : Text) (asked : Bool) (disk : Disk) :
    (if asked then some <$> writeOne config directory kind label text
      else pure none : Work _).Leaves disk
      (fun path after => path = (if asked then some (filePath config directory kind) else none) ∧
        disk.Stores asked (filePath config directory kind) text after)
      (fun fault after => disk.Spoils (filePath config directory kind) text fault after) := by
  cases asked with
  | true =>
      refine (leaves_writeOne config directory kind label text disk).map fun path after saved => ?_
      obtain ⟨rfl, saved⟩ := saved
      exact ⟨rfl, saved⟩
  | false => exact .pure ⟨rfl, rfl⟩

/-- What a run that returns has done: the paths are those of the files that are asked for
and of a drawing that is linked to, files can be written there, each holds what was
rendered, and every other file is as it was. -/
structure Wrote (config : Config) (directory : Path) (disk : Disk) (document : Document)
    (written : List Path) (after : Disk) : Prop where
  paths : written
    = (if .html ∈ config.outputs then [filePath config directory .html] else []) ++
      if .svg ∈ config.outputs ∨ .html ∈ config.outputs ∧ config.embed = false then
        [filePath config directory .svg] else []
  taken : ∀ path ∈ written, after.Takes path
  page : filePath config directory .html ∈ written →
    after.Holds (filePath config directory .html) document.html
  drawing : filePath config directory .svg ∈ written →
    after.Holds (filePath config directory .svg) document.svg
  others : ∀ place, (∀ path ∈ written, after.resolve path ≠ .ok place) → ∀ content,
    after.node? place = some (.file content) ↔ disk.node? place = some (.file content)

/-- Every file is as it was but the page and the drawing. -/
def Confines (config : Config) (directory : Path) (disk after : Disk) : Prop :=
  ∀ place, (∀ kind, after.resolve (filePath config directory kind) ≠ .ok place) → ∀ content,
    after.node? place = some (.file content) ↔ disk.node? place = some (.file content)

/-- The files of a run can all be written: their paths take files, and the drawing has
bytes. -/
def Fits (config : Config) (directory : Path) (document : Document) (after : Disk) : Prop :=
  (∀ kind, after.Takes (filePath config directory kind)) ∧ document.svg.toUTF8? ≠ none

/-- How a run may fail: no other file is touched, and where its page is on the disk and
links, one of the files could not be written. -/
structure Strands (config : Config) (directory : Path) (disk after : Disk) : Prop where
  others : Confines config directory disk after
  refused : ∀ document, (Document.build config config.name).outcome = .ok document →
    .html ∈ config.outputs → config.embed = false →
    after.Holds (filePath config directory .html) document.html →
    ¬Fits config directory document after

theorem writesPage_iff : writesPage config = true ↔ .html ∈ config.outputs :=
  List.contains_iff_mem

/-- The drawing is asked for, or a page that links to it. -/
theorem writesDrawing_iff : writesDrawing config = true ↔
    .svg ∈ config.outputs ∨ .html ∈ config.outputs ∧ config.embed = false := by
  rw [writesDrawing, Bool.or_eq_true, Bool.and_eq_true, writesPage_iff, List.contains_iff_mem,
    Bool.not_eq_true']

/-- Where its directory could not be made there is no file, not even from before. -/
theorem not_holds_of_unmade {e : StorageError} {name : Text}
    (unmade : (disk.makeDirectories directory).2 = .error e) :
    ¬(disk.makeDirectories directory).1.Holds (directory.child name) text := by
  intro held
  obtain ⟨place, resolved⟩ := held.exists_place
  obtain ⟨above, here, step⟩ := Disk.resolve_child resolved
  obtain ⟨⟨⟩, entered, -⟩ := bind_eq_ok.1 step
  exact (disk.makes_makeDirectories directory).failed e unmade
    (Disk.isDirectory_eq_ok.2 ⟨above, here, Disk.enter_eq_ok.1 entered⟩)

theorem confines_of_sameFiles (same : disk.SameFiles made) :
    Confines config directory disk made :=
  fun place _ => same place

theorem Confines.changes (h : Confines config directory disk made)
    (changes : made.Changes (filePath config directory kind) after) :
    Confines config directory disk after := by
  intro place elsewhere content
  rw [changes.node? (elsewhere kind)]
  exact h place (fun kind' found => elsewhere kind' (changes.resolve found)) content

/-- The page is on the disk though its write failed: it stood there before, or all of its
bytes were written. -/
theorem strands_page (same : disk.SameFiles made)
    (built : (Document.build config config.name).outcome = .ok document)
    (spoiled : made.Spoils (filePath config directory .html) document.html fault after) :
    Strands config directory disk after where
  others := (confines_of_sameFiles same).changes spoiled.changes
  refused := by
    rintro document' built' _ _ ⟨bytes, encoded, -⟩ fits
    obtain rfl := Except.ok.inj (built.symm.trans built')
    exact spoiled.not_takes (namesChild_filePath config directory .html)
      ⟨fits.1 .html, by rw [encoded]; nofun⟩

/-- The page was written, and then the drawing was not. -/
theorem strands_drawing (same : disk.SameFiles made)
    (built : (Document.build config config.name).outcome = .ok document)
    (page : made.Stores (writesPage config) (filePath config directory .html) document.html paged)
    (spoiled : paged.Spoils (filePath config directory .svg) document.svg fault after) :
    Strands config directory disk after where
  others := ((confines_of_sameFiles same).changes page.changes).changes spoiled.changes
  refused := by
    intro document' built' _ _ _ fits
    obtain rfl := Except.ok.inj (built.symm.trans built')
    exact spoiled.not_takes (namesChild_filePath config directory .svg) ⟨fits.1 .svg, fits.2⟩

/-- Whether the run writes one of the files. -/
def writes (config : Config) : OutputKind → Bool
  | .html => writesPage config
  | .svg => writesDrawing config

/-- The paths of the files that the run writes, in order. -/
def paths (config : Config) (directory : Path) : List Path :=
  (if writesPage config then [filePath config directory .html] else []) ++
    if writesDrawing config then [filePath config directory .svg] else []

theorem mem_paths_iff {path : Path} : path ∈ paths config directory ↔
    ∃ kind, writes config kind = true ∧ path = filePath config directory kind := by
  simp only [paths, List.mem_append, List.mem_ite_nil_right, List.mem_singleton]
  constructor
  · rintro (⟨asked, rfl⟩ | ⟨asked, rfl⟩)
    · exact ⟨.html, asked, rfl⟩
    · exact ⟨.svg, asked, rfl⟩
  · rintro ⟨kind, asked, rfl⟩
    cases kind with
    | html => exact .inl ⟨asked, rfl⟩
    | svg => exact .inr ⟨asked, rfl⟩

theorem filePath_mem_paths_iff :
    filePath config directory kind ∈ paths config directory ↔ writes config kind = true := by
  refine mem_paths_iff.trans ⟨?_, fun asked => ⟨kind, asked, rfl⟩⟩
  rintro ⟨kind', asked, same⟩
  rwa [filePath_inj same]

/-- The drawing is put beside the page, which stays what it was. -/
theorem holds_page (page : made.Saves (filePath config directory .html) document.html paged)
    (drawing : paged.Changes (filePath config directory .svg) after) :
    after.Holds (filePath config directory .html) document.html := by
  obtain ⟨place, found⟩ := page.holds.exists_place
  obtain ⟨place', ne, resolved⟩ := resolve_drawing found
  exact drawing.holds page.holds (drawing.resolve resolved) found ne.symm

/-- What was stored is what a run that returns has written. -/
theorem wrote (same : disk.SameFiles made)
    (page : made.Stores (writesPage config) (filePath config directory .html) document.html paged)
    (drawing : paged.Stores (writesDrawing config) (filePath config directory .svg) document.svg
      after) :
    Wrote config directory disk document (paths config directory) after where
  paths := by simp only [paths, writesPage_iff, writesDrawing_iff]
  taken path mem := by
    obtain ⟨kind, asked, rfl⟩ := mem_paths_iff.1 mem
    cases kind with
    | html => exact drawing.changes.takes (page.saves asked).takes
    | svg => exact (drawing.saves asked).takes
  page mem := holds_page (page.saves (filePath_mem_paths_iff.1 mem)) drawing.changes
  drawing mem := (drawing.saves (filePath_mem_paths_iff.1 mem)).holds
  others place elsewhere content := by
    have undrawn : after.node? place = paged.node? place :=
      drawing.node? fun asked => elsewhere _ (filePath_mem_paths_iff.2 asked)
    have unpaged : paged.node? place = made.node? place :=
      page.node? fun (asked : writes config .html = true) found =>
        elsewhere _ (filePath_mem_paths_iff.2 asked) (drawing.changes.resolve found)
    rw [undrawn, unpaged]
    exact same place content

/-- A run has written what it says, or it fails and strands its page at most. Its parts
are taken one after the other, as the run does them. -/
theorem leaves_write (host : Host) (config : Config) (directory : Path) (disk : Disk) :
    (write host config directory).Leaves disk
      (fun written after => ∃ document,
        (Document.build config config.name).outcome = .ok document ∧
          Wrote config directory disk document written after)
      (fun _ after => Strands config directory disk after) := by
  have made : (Work.changing (·.makeDirectories directory)).Leaves disk
      (fun _ made => disk.SameFiles made) (fun _ after => Strands config directory disk after) := by
    refine Work.leaves_changing ?_
    have same := (disk.makes_makeDirectories directory).files
    cases ended : (disk.makeDirectories directory).2 with
    | ok _ => exact .ok same
    | error e =>
        exact .error ⟨confines_of_sameFiles same,
          fun _ _ _ _ held => (not_holds_of_unmade ended held).elim⟩
  refine made.bind fun _ made same => ?_
  have compiled : (Work.ofAttempt (.ofCompile host) (Document.build config config.name)).Leaves made
      (fun document after =>
        (Document.build config config.name).outcome = .ok document ∧ after = made)
      (fun _ after => Strands config directory disk after) := by
    refine Work.leaves_ofAttempt ?_
    cases ended : (Document.build config config.name).outcome with
    | ok document => exact .ok ⟨rfl, rfl⟩
    | error e =>
        refine .error ⟨confines_of_sameFiles same, fun document built => ?_⟩
        rw [ended] at built
        cases built
  refine compiled.bind fun document after built => ?_
  obtain ⟨built, rfl⟩ := built
  have page := (leaves_optional config directory .html "HTML" document.html (writesPage config)
    after).worse fun fault later spoiled => strands_page same built spoiled
  refine page.choose fun page paged stored => ?_
  have drawing := (leaves_optional config directory .svg "SVG" document.svg (writesDrawing config)
    paged).worse fun fault later spoiled => strands_drawing same built stored.2 spoiled
  refine drawing.choose fun drawing last drawn => ?_
  refine .pure ⟨document, built, ?_⟩
  have written : page.toList ++ drawing.toList = paths config directory := by
    rw [stored.1, drawn.1, paths]
    split <;> split <;> rfl
  rw [written]
  exact wrote same stored.2 drawn.2

/-- A run that returns has written what it says. -/
theorem wrote_of_write {written : List Path}
    (h : ((write host config directory).perform disk).value = (.ok written, after)) :
    ∃ document, (Document.build config config.name).outcome = .ok document ∧
      Wrote config directory disk document written after :=
  (leaves_write host config directory disk).of_ok h

/-- A run that fails leaves no page on the disk, or one of the files could not be written. -/
theorem strands_of_write
    (h : ((write host config directory).perform disk).value = (.error fault, after)) :
    Strands config directory disk after :=
  (leaves_write host config directory disk).of_error h

/-- A page and the drawing that it links to are both written. -/
theorem Wrote.mem_written {written : List Path}
    (done : Wrote config directory disk document written after)
    (asked : .html ∈ config.outputs) (linking : config.embed = false) (kind : OutputKind) :
    filePath config directory kind ∈ written := by
  rw [done.paths, if_pos asked, if_pos (Or.inr ⟨asked, linking⟩)]
  cases kind with
  | html => exact List.mem_append_left _ (List.mem_singleton_self _)
  | svg => exact List.mem_append_right _ (List.mem_singleton_self _)

/-- No other file is touched by a run that returns. -/
theorem Wrote.confines {written : List Path}
    (done : Wrote config directory disk document written after) :
    Confines config directory disk after := by
  intro place elsewhere
  refine done.others place fun path mem => ?_
  rw [done.paths] at mem
  rcases List.mem_append.1 mem with mem | mem <;> split at mem
  · rw [List.mem_singleton.1 mem]
    exact elsewhere .html
  · cases mem
  · rw [List.mem_singleton.1 mem]
    exact elsewhere .svg
  · cases mem

/-- What holds of a page on the disk that links to the drawing of its run. -/
structure Links (config : Config) (directory : Path) (document : Document)
    (outcome : Except Fault (List Path)) (after : Disk) : Prop where
  /-- The page refers to the drawing by the name of its file. -/
  source : Document.sources document.html = [(filePath config directory .svg).fileName]
  /-- The drawing is there if the run returned. -/
  held : (∃ written, outcome = .ok written) → after.Holds (filePath config directory .svg)
    document.svg
  /-- The run returned exactly if the page and the drawing could be written. -/
  returned : (∃ written, outcome = .ok written) ↔ Fits config directory document after
  /-- The way to the drawing is free, so what kept it from being written is a directory in
  its place, or the system. -/
  reached : ∃ place, after.resolve (filePath config directory .svg) = .ok place

/-- The page refers to the drawing by its file's name. -/
theorem source_html (built : (Document.build config config.name).outcome = .ok document)
    (linking : config.embed = false) :
    Document.sources document.html = [(filePath config directory .svg).fileName] := by
  have same : config.name ++ ".svg" = fileName config .svg := by
    ext1
    simp [fileName, OutputKind.name]
  rw [Document.sources_html built linking, filePath_eq, Path.fileName_child, same]

/-- Where the page is, the way to the drawing is free. -/
theorem exists_place_drawing
    (page : after.Holds (filePath config directory .html) document.html) :
    ∃ place, after.resolve (filePath config directory .svg) = .ok place := by
  obtain ⟨place, found⟩ := page.exists_place
  obtain ⟨place', -, resolved⟩ := resolve_drawing found
  exact ⟨place', resolved⟩

theorem Wrote.links {written : List Path}
    (built : (Document.build config config.name).outcome = .ok document)
    (done : Wrote config directory disk document written after)
    (asked : .html ∈ config.outputs) (linking : config.embed = false) :
    Links config directory document (.ok written) after := by
  have mem := done.mem_written asked linking
  have held := done.drawing (mem .svg)
  obtain ⟨bytes, encoded, -⟩ := id held
  have fits : Fits config directory document after :=
    ⟨fun kind => done.taken _ (mem kind), by rw [encoded]; nofun⟩
  exact ⟨source_html built linking, fun _ => held, ⟨fun _ => fits, fun _ => ⟨written, rfl⟩⟩,
    exists_place_drawing (done.page (mem .html))⟩

theorem Strands.links (strands : Strands config directory disk after)
    (built : (Document.build config config.name).outcome = .ok document)
    (asked : .html ∈ config.outputs) (linking : config.embed = false)
    (page : after.Holds (filePath config directory .html) document.html) :
    Links config directory document (.error fault) after := by
  have unreturned : ¬∃ written, (.error fault : Except Fault (List Path)) = .ok written := nofun
  have unfit := strands.refused document built asked linking page
  exact ⟨source_html built linking, fun returned => (unreturned returned).elim,
    ⟨fun returned => (unreturned returned).elim, fun fits => (unfit fits).elim⟩,
    exists_place_drawing page⟩

/-- A run that returns has written exactly what it says, and whichever way a run ends, it
touches no other file. If its page is on the disk and links, then the drawing is there too,
unless the drawing or the page itself could not be written: a directory stands in its
place, the system refuses the write or breaks it off, or the drawing has no bytes. -/
theorem write_ends {outcome : Except Fault (List Path)}
    (h : ((write host config directory).perform disk).value = (outcome, after)) :
    (∀ written, outcome = .ok written → ∃ document,
      (Document.build config config.name).outcome = .ok document ∧
        Wrote config directory disk document written after) ∧
    Confines config directory disk after ∧
    ∀ document, (Document.build config config.name).outcome = .ok document →
      .html ∈ config.outputs → config.embed = false →
      after.Holds (filePath config directory .html) document.html →
      Links config directory document outcome after := by
  cases outcome with
  | ok written =>
      obtain ⟨document, built, done⟩ := wrote_of_write h
      refine ⟨?_, done.confines, ?_⟩
      · rintro _ ⟨⟩
        exact ⟨document, built, done⟩
      · intro document' built' asked linking _
        obtain rfl := Except.ok.inj (built.symm.trans built')
        exact done.links built asked linking
  | error fault =>
      have strands := strands_of_write h
      exact ⟨nofun, strands.others, fun document built asked linking page =>
        strands.links built asked linking page⟩

/-- One step without anything in it. -/
def oneStep : Config where
  steps := [{}]

theorem write_ends_oneStep : ∃ document after,
    (Document.build oneStep oneStep.name).outcome = .ok document ∧
      ((write .standard oneStep { names := ["out"] }).perform {}).value
        = (.ok [filePath oneStep { names := ["out"] } .html,
            filePath oneStep { names := ["out"] } .svg], after) ∧
      after.Holds (filePath oneStep { names := ["out"] } .svg) document.svg := by
  have returns :
      ((write .standard oneStep { names := ["out"] }).perform {}).value.1.isOk = true := by
    decide +kernel
  obtain ⟨written, returned⟩ := exists_of_isOk returns
  obtain ⟨document, built, done⟩ := (write_ends (Prod.ext returned rfl)).1 written rfl
  have paths : written = [filePath oneStep { names := ["out"] } .html,
      filePath oneStep { names := ["out"] } .svg] := done.paths
  subst paths
  exact ⟨document, _, built, Prod.ext returned rfl, done.drawing (by decide)⟩

/-- A disk with a directory in the place of the drawing. -/
def occupied : Disk where
  nodes := [(["animation.svg"], .directory)]

/-- The run fails at the drawing, with the page already written. -/
theorem not_holds_drawing_occupied : ∃ document after fault,
    (Document.build oneStep oneStep.name).outcome = .ok document ∧
      .html ∈ oneStep.outputs ∧ oneStep.embed = false ∧
      ((write .standard oneStep { names := [] }).perform occupied).value = (.error fault, after) ∧
      after.Holds (filePath oneStep { names := [] } .html) document.html ∧
      ¬after.Holds (filePath oneStep { names := [] } .svg) document.svg := by
  have failed :
      ((write .standard oneStep { names := [] }).perform occupied).value.1.isOk = false := by
    decide +kernel
  have paged : (Document.build oneStep oneStep.name).outcome.toOption.any (fun document =>
      document.html.toUTF8?.isSome &&
        decide ((((write .standard oneStep { names := [] }).perform occupied).value.2.file?
          (filePath oneStep { names := [] } .html)).toOption = some document.html.toUTF8?))
      = true := by
    decide +kernel
  have missing : (((write .standard oneStep { names := [] }).perform occupied).value.2.file?
      (filePath oneStep { names := [] } .svg)).toOption = some none := by
    decide +kernel
  obtain ⟨document, built, page⟩ := exists_of_any paged
  obtain ⟨some_bytes, page⟩ := Bool.and_eq_true_iff.1 page
  obtain ⟨bytes, encoded⟩ := Option.isSome_iff_exists.1 some_bytes
  rw [encoded, decide_eq_true_eq] at page
  cases ended : ((write .standard oneStep { names := [] }).perform occupied).value with
  | mk outcome after =>
      rw [ended] at failed page missing
      cases outcome with
      | ok written => cases failed
      | error fault =>
          refine ⟨document, after, fault, built, by decide, rfl, rfl,
            ⟨bytes, encoded, eq_ok_of_toOption page⟩, ?_⟩
          rintro ⟨bytes', -, read⟩
          rw [read] at missing
          cases missing

end Output

end TerminalReel
