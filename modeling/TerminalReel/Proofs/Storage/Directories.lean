import TerminalReel.Proofs.Storage.Disk
/-!
# TerminalReel.Proofs.Storage.Directories

**Files of one directory**, and directories that are made for them.

The path of a file in a directory leads through the directory and to a place of its own,
and so does every path of a file beside it whose name is no longer. Making a directory
changes no file, and where it fails no directory stands.
-/

namespace TerminalReel

/-! ### The text of paths -/

theorem intercalate_concat {α : Type} (separator : List α) (parts : List (List α))
    (last : List α) :
    separator.intercalate (parts ++ [last]) = parts.flatMap (· ++ separator) ++ last := by
  induction parts with
  | nil => simp [List.intercalate]
  | cons part rest ih =>
      have some_more : ∃ second others, rest ++ [last] = second :: others :=
        List.exists_cons_of_ne_nil (List.append_ne_nil_of_right_ne_nil rest (by simp))
      obtain ⟨second, others, split⟩ := some_more
      rw [List.cons_append, split, List.intercalate_cons_cons, ← split, ih, List.flatMap_cons]
      simp only [List.append_assoc]

namespace Text

variable {a b : Text} {n : Nat}

/-- The sizes of texts add up. -/
theorem systemSize?_append : (a ++ b).systemSize? = some n ↔
    ∃ x y, a.systemSize? = some x ∧ b.systemSize? = some y ∧ n = x + y := by
  simp only [systemSize?, points_append, List.mapM_append, Option.map_eq_some_iff,
    Option.bind_eq_bind, Option.bind_eq_some_iff, Option.pure_def, Option.some.injEq,
    ← List.sum_eq_foldl]
  constructor
  · rintro ⟨_, ⟨first, sized, second, sized', rfl⟩, rfl⟩
    exact ⟨_, _, ⟨first, sized, rfl⟩, ⟨second, sized', rfl⟩, List.sum_append⟩
  · rintro ⟨_, _, ⟨first, sized, rfl⟩, ⟨second, sized', rfl⟩, rfl⟩
    exact ⟨_, ⟨first, sized, second, sized', rfl⟩, List.sum_append⟩

end Text

namespace Path

/-- What the paths of the files in a directory begin with: all but the file's name. -/
def opening (directory : Path) : Text :=
  ⟨List.replicate directory.slashes (.char '/') ++
    directory.names.flatMap fun name => name.points ++ [.char '/']⟩

variable {directory : Path}

/-- The path of a file in a directory is what all such paths begin with, and the file's
name. -/
theorem text_child (directory : Path) (name : Text) :
    (directory.child name).text = directory.opening ++ name := by
  have named : ¬(directory.slashes = 0 ∧ directory.names ++ [name] = []) :=
    fun none => List.append_ne_nil_of_right_ne_nil _ (by simp) none.2
  ext1
  simp only [text, child, if_neg named, opening, Text.intercalate, Text.points_append,
    Text.points_ofChars, List.map_append, List.map_replicate, List.map_cons, List.map_nil,
    intercalate_concat, List.flatMap_map, List.append_assoc]
  rfl

/-- A directory's own path is what its files' paths begin with, unless it is the one
where paths begin. -/
theorem opening_eq (named : ¬(directory.slashes = 0 ∧ directory.names = [])) :
    ∃ tail, directory.opening = directory.text ++ tail := by
  obtain ⟨slashes, names⟩ := directory
  rcases List.eq_nil_or_concat' names with rfl | ⟨above, last, rfl⟩
  · have rooted : slashes ≠ 0 := fun none => named ⟨none, rfl⟩
    refine ⟨default, ?_⟩
    ext1
    simp [opening, text, rooted, Text.intercalate, List.intercalate, default]
  · refine ⟨"/", ?_⟩
    have whole : ({ slashes, names := above ++ [last] } : Path).text = _ :=
      text_child ⟨slashes, above⟩ last
    rw [whole]
    ext1
    simp [opening]

end Path

/-! ### Files of one directory -/

namespace Disk

variable {disk : Disk} {place : Place} {directory path : Path} {name other : Text}

/-- A path leads to a place if it is short enough, has no null, and its names lead there. -/
theorem resolve_eq_ok : disk.resolve path = .ok place ↔
    (∃ size, path.text.systemSize? = some size ∧ size < pathLimit) ∧
      CodePoint.char '\x00' ∉ path.text.points ∧
      disk.walk (disk.origin path) path.names = .ok place := by
  unfold resolve
  cases sized : path.text.systemSize? with
  | none => simp
  | some size =>
      dsimp only
      split
      · simp_all
      · split
        · simp_all [Nat.not_lt.2]
        · rename_i clean short
          simp only [mapError_eq_ok, Option.some.injEq, exists_eq_left']
          simp_all

theorem walk_append {start : Place} {names more : List Text} :
    disk.walk start (names ++ more) = .ok place ↔
      ∃ middle, disk.walk start names = .ok middle ∧ disk.walk middle more = .ok place := by
  induction names generalizing start with
  | nil => simp [walk]
  | cons first rest ih =>
      simp only [List.cons_append, walk, bind_eq_ok, ih]
      constructor
      · rintro ⟨next, step, middle, here, there⟩
        exact ⟨middle, ⟨next, step, here⟩, there⟩
      · rintro ⟨middle, ⟨next, step, here⟩, there⟩
        exact ⟨next, step, middle, here, there⟩

/-- A step by a name that does not lead back. -/
theorem step_eq_ok (child : name ≠ "..") {above : Place} :
    disk.step above name = .ok place ↔ disk.node? above = some .directory ∧
      name.systemSize?.getD 0 ≤ nameLimit ∧ place = above ++ [name] := by
  rw [step, bind_eq_ok, if_neg child]
  constructor
  · rintro ⟨⟨⟩, entered, h⟩
    split at h
    · cases h
    · rename_i short
      exact ⟨enter_eq_ok.1 entered, Nat.not_lt.1 short, (Except.ok.inj h).symm⟩
  · rintro ⟨entered, short, rfl⟩
    refine ⟨(), enter_eq_ok.2 entered, ?_⟩
    rw [if_neg (Nat.not_lt.2 short)]
    rfl

/-- The way to a file leads through its directory. -/
theorem resolve_child (h : disk.resolve (directory.child name) = .ok place) :
    ∃ above, disk.resolve directory = .ok above ∧ disk.step above name = .ok place := by
  obtain ⟨⟨size, sized, short⟩, clean, walked⟩ := resolve_eq_ok.1 h
  rw [Path.text_child] at sized clean
  obtain ⟨above, here, there⟩ := walk_append.1 walked
  obtain ⟨next, step, e⟩ := bind_eq_ok.1 there
  obtain rfl := Except.ok.inj e
  refine ⟨above, ?_, step⟩
  by_cases named : directory.slashes = 0 ∧ directory.names = []
  · have start : directory.text = "." := if_pos named
    refine resolve_eq_ok.2 ⟨⟨1, ?_, by decide⟩, ?_, here⟩
    · rw [start]
      decide
    · rw [start]
      decide
  · obtain ⟨tail, split⟩ := Path.opening_eq named
    rw [split] at sized clean
    obtain ⟨x, y, opened, -, rfl⟩ := Text.systemSize?_append.1 sized
    obtain ⟨z, w, shorter, -, rfl⟩ := Text.systemSize?_append.1 opened
    refine resolve_eq_ok.2 ⟨⟨z, shorter, by omega⟩, ?_, here⟩
    intro null
    exact clean (List.mem_append_left _ (List.mem_append_left _ null))

/-- The way to a file in a directory where a file with no shorter name is found. -/
theorem resolve_sibling (h : disk.resolve (directory.child name) = .ok place)
    (child : name ≠ "..") (child' : other ≠ "..") {size size' : Nat}
    (sized : name.systemSize? = some size) (sized' : other.systemSize? = some size')
    (no_longer : size' ≤ size) (clean : CodePoint.char '\x00' ∉ other.points) :
    ∃ above, place = above ++ [name] ∧
      disk.resolve (directory.child other) = .ok (above ++ [other]) := by
  obtain ⟨⟨total, whole, short⟩, clean_whole, walked⟩ := resolve_eq_ok.1 h
  rw [Path.text_child] at whole clean_whole
  obtain ⟨above, here, there⟩ := walk_append.1 walked
  obtain ⟨next, step, e⟩ := bind_eq_ok.1 there
  obtain rfl := Except.ok.inj e
  obtain ⟨entered, fits, rfl⟩ := (step_eq_ok child).1 step
  obtain ⟨x, y, opened, last, rfl⟩ := Text.systemSize?_append.1 whole
  obtain rfl := Option.some.inj (sized.symm.trans last)
  refine ⟨above, rfl, resolve_eq_ok.2 ⟨⟨x + size', ?_, by omega⟩, ?_, ?_⟩⟩
  · rw [Path.text_child]
    exact Text.systemSize?_append.2 ⟨x, size', opened, sized', rfl⟩
  · rw [Path.text_child, Text.points_append, List.mem_append]
    rintro (null | null)
    · exact clean_whole (List.mem_append_left _ null)
    · exact clean null
  · refine walk_append.2 ⟨above, here, bind_eq_ok.2 ⟨above ++ [other], ?_, rfl⟩⟩
    rw [sized] at fits
    exact (step_eq_ok child').2 ⟨entered, by rw [sized']; exact Nat.le_trans no_longer fits, rfl⟩

/-! ### What stands at a path -/

theorem stat_eq_some {node : Node} : disk.stat path = .ok (some node) ↔
    ∃ place, disk.resolve path = .ok place ∧ disk.node? place = some node := by
  unfold stat
  split <;> simp_all

theorem isDirectory_eq_ok : disk.isDirectory path = .ok true ↔
    ∃ place, disk.resolve path = .ok place ∧ disk.node? place = some .directory := by
  rw [← stat_eq_some, isDirectory]
  cases found : disk.stat path with
  | error e => simp [bind_eq_ok]
  | ok node =>
      rw [ok_bind]
      split <;> simp_all [pure_eq_ok]

theorem file?_eq_ok {content : ByteArray} : disk.file? path = .ok (some content) ↔
    ∃ place, disk.resolve path = .ok place ∧ disk.node? place = some (.file content) := by
  rw [← stat_eq_some, file?]
  cases found : disk.stat path with
  | error e => simp [bind_eq_ok]
  | ok node =>
      rw [ok_bind]
      split <;> simp_all [pure_eq_ok]

/-! ### Making directories -/

/-- A directory is made where nothing stands, if the system makes one. -/
theorem makeDirectory_eq_ok {after : Disk} : disk.makeDirectory path = .ok after ↔
    ∃ place, disk.resolve path = .ok place ∧ namesChild path = true ∧
      disk.node? place = none ∧ disk.making place = none ∧ after = disk.put place .directory := by
  rw [makeDirectory, bind_eq_ok]
  refine exists_congr fun place => and_congr_right fun _ => ?_
  constructor
  · intro h
    split at h
    · rename_i named free
      split at h
      · rename_i allowed
        exact ⟨named, free, allowed, (pure_eq_ok.1 h).symm⟩
      · cases h
    · cases h
  · rintro ⟨named, free, allowed, rfl⟩
    rw [named, free, allowed]
    rfl

theorem not_isDirectory_of_resolve {e : StorageError} (h : disk.resolve path = .error e) :
    disk.isDirectory path ≠ .ok true := by
  intro there
  obtain ⟨place, resolved, -⟩ := isDirectory_eq_ok.1 there
  rw [h] at resolved
  cases resolved

/-- A directory that could not be made, though nothing is said to be there already, is not
there: the way to it is not free, or the system makes none where nothing stands. -/
theorem not_isDirectory_of_makeDirectory {e : StorageError} (h : disk.makeDirectory path = .error e)
    (unlike : e ≠ .refused .alreadyExists path) : disk.isDirectory path ≠ .ok true := by
  rw [makeDirectory] at h
  cases found : disk.resolve path with
  | error e' => exact not_isDirectory_of_resolve found
  | ok place =>
      rw [found, ok_bind] at h
      split at h
      · rename_i nothing
        intro there
        obtain ⟨place', resolved, standing⟩ := isDirectory_eq_ok.1 there
        obtain rfl := Except.ok.inj (found.symm.trans resolved)
        rw [nothing] at standing
        cases standing
      · exact absurd (Except.error.inj h).symm unlike

/-- Files are what they were. Directories may have been made where nothing stood. -/
def SameFiles (disk after : Disk) : Prop :=
  ∀ place content, after.node? place = some (.file content) ↔
    disk.node? place = some (.file content)

theorem SameFiles.refl (disk : Disk) : disk.SameFiles disk := fun _ _ => Iff.rfl

theorem SameFiles.trans {first second third : Disk} (h : first.SameFiles second)
    (h' : second.SameFiles third) : first.SameFiles third :=
  fun place content => (h' place content).trans (h place content)

/-- Making a directory changes no file. -/
theorem sameFiles_makeDirectory {after : Disk} (h : disk.makeDirectory path = .ok after) :
    disk.SameFiles after := by
  obtain ⟨place, -, -, free, -, rfl⟩ := makeDirectory_eq_ok.1 h
  have named : place ≠ [] := by
    rintro rfl
    cases free
  intro other content
  by_cases same : other = place
  · rw [same, node?_put_self disk .directory named, free]
    exact ⟨nofun, nofun⟩
  · rw [node?_put_of_ne same]

/-- How making directories ends: the files are the same, and a failure leaves no
directory at the path. -/
structure Makes (disk : Disk) (path : Path) (result : Result Unit) : Prop where
  files : disk.SameFiles result.1
  failed : ∀ e, result.2 = .error e → result.1.isDirectory path ≠ .ok true

/-- A directory that was made, after some were made that hold it. -/
theorem Makes.makeDirectory {middle after : Disk} (before : disk.SameFiles middle)
    (h : middle.makeDirectory path = .ok after) : disk.Makes path (after, .ok ()) :=
  ⟨before.trans (sameFiles_makeDirectory h), nofun⟩

/-- A directory that could not be reached, even after some were made that hold it. -/
theorem Makes.unreached {middle : Disk} {e e' : StorageError} (before : disk.SameFiles middle)
    (h : middle.makeDirectory path = .error e) (other : e ≠ .refused .alreadyExists path) :
    disk.Makes path (middle, .error e') :=
  ⟨before, fun _ _ => not_isDirectory_of_makeDirectory h other⟩

theorem Makes.settle {middle : Disk} {e : StorageError} (before : disk.SameFiles middle)
    (h : middle.makeDirectory path = .error e) : disk.Makes path (middle.settle path e) := by
  unfold Disk.settle
  split
  · exact .unreached before h nofun
  · exact .unreached before h nofun
  · split
    · exact ⟨before, nofun⟩
    · rename_i no_directory
      refine ⟨before, fun _ _ there => ?_⟩
      rw [no_directory] at there
      cases there
    · rename_i unknown
      refine ⟨before, fun _ _ there => ?_⟩
      rw [unknown] at there
      cases there

theorem isDirectory_of_child (h : disk.isDirectory (directory.child name) = .ok true) :
    disk.isDirectory directory = .ok true := by
  obtain ⟨place, resolved, -⟩ := isDirectory_eq_ok.1 h
  obtain ⟨above, here, step⟩ := resolve_child resolved
  obtain ⟨⟨⟩, entered, -⟩ := bind_eq_ok.1 step
  exact isDirectory_eq_ok.2 ⟨above, here, enter_eq_ok.1 entered⟩

/-- By induction on the names, the last one first, as the directories are made. -/
theorem makes_makeDirectoriesFrom (slashes : Nat) (reversed : List Text) (disk : Disk) :
    disk.Makes { slashes, names := reversed.reverse }
      (makeDirectoriesFrom slashes reversed disk) := by
  have unlike : ∀ path path',
      StorageError.refused .notFound path ≠ .refused .alreadyExists path' := by
    intro path path' same
    cases same
  induction reversed generalizing disk with
  | nil =>
      unfold makeDirectoriesFrom
      dsimp only
      split
      · rename_i made
        exact .makeDirectory (.refl disk) made
      · rename_i e failed
        split
        · contradiction
        · exact .unreached (.refl disk) failed (unlike _ _)
        · exact .settle (.refl disk) failed
  | cons name parent ih =>
      have path_eq : ({ slashes, names := (name :: parent).reverse } : Path)
          = ({ slashes, names := parent.reverse } : Path).child name := by
        rw [List.reverse_cons, Path.child]
      unfold makeDirectoriesFrom
      rw [path_eq]
      dsimp only
      split
      · rename_i made
        exact .makeDirectory (.refl disk) made
      · rename_i e failed
        split
        · rename_i here above same
          obtain ⟨rfl, rfl⟩ := List.cons.inj same
          have above := ih disk
          split
          · rename_i middle e unmade
            rw [unmade] at above
            exact ⟨above.files, fun _ _ there => above.failed _ rfl (isDirectory_of_child there)⟩
          · rename_i middle made
            rw [made] at above
            split
            · rename_i again
              exact .makeDirectory above.files again
            · rename_i again
              exact .unreached above.files again (unlike _ _)
            · rename_i _ again
              exact .settle above.files again
        · contradiction
        · exact .settle (.refl disk) failed

/-- However it ends, making directories changes no file, and a failure leaves no directory.
-/
theorem makes_makeDirectories (disk : Disk) (path : Path) :
    disk.Makes path (disk.makeDirectories path) := by
  have makes := makes_makeDirectoriesFrom path.slashes path.names.reverse disk
  rwa [List.reverse_reverse] at makes

/-! ### What making directories changes -/

theorem settle_fst (disk : Disk) (path : Path) (e : StorageError) :
    (disk.settle path e).1 = disk := by
  unfold Disk.settle
  split
  · rfl
  · rfl
  · split <;> rfl

/-- What one directory on the way leaves true, all of them leave true, however that ends.
By induction on the names, the last one first, as the directories are made. -/
theorem makeDirectoriesFrom_induction {slashes : Nat} {P : Disk → Prop} (reversed : List Text)
    (step : ∀ beginning, beginning <+: reversed.reverse → ∀ disk after, P disk →
      disk.makeDirectory { slashes, names := beginning } = .ok after → P after)
    {disk : Disk} (start : P disk) : P (makeDirectoriesFrom slashes reversed disk).1 := by
  induction reversed with
  | nil =>
      unfold makeDirectoriesFrom
      dsimp only
      split
      · rename_i made
        exact step _ List.prefix_rfl _ _ start made
      · split
        · contradiction
        · exact start
        · rwa [settle_fst]
  | cons name parent ih =>
      have above : P (makeDirectoriesFrom slashes parent disk).1 := by
        refine ih fun beginning shorter => step beginning (shorter.trans ?_)
        rw [List.reverse_cons]
        exact List.prefix_append _ _
      unfold makeDirectoriesFrom
      dsimp only
      split
      · rename_i made
        exact step _ List.prefix_rfl _ _ start made
      · split
        · rename_i _ _ same _
          obtain ⟨rfl, rfl⟩ := List.cons.inj same
          split
          · rename_i failed
            rwa [failed] at above
          · rename_i made
            rw [made] at above
            split
            · rename_i again
              exact step _ List.prefix_rfl _ _ above again
            · exact above
            · rwa [settle_fst]
        · contradiction
        · rwa [settle_fst]

/-- The disks differ in directories alone. Each of these stands where nothing stood, and a
beginning of the path leads to it. -/
structure OnlyMade (disk : Disk) (path : Path) (after : Disk) : Prop where
  workingDirectory : after.workingDirectory = disk.workingDirectory
  nodes : ∀ place, after.node? place = disk.node? place ∨
    disk.node? place = none ∧ after.node? place = some .directory ∧
      ∃ beginning, beginning <+: path.names ∧
        after.resolve { path with names := beginning } = .ok place

theorem OnlyMade.refl (disk : Disk) (path : Path) : disk.OnlyMade path disk :=
  ⟨rfl, fun _ => .inl rfl⟩

/-- One more directory on the way. The ways to those made before do not lead through it. -/
theorem OnlyMade.makeDirectory {middle after : Disk} {beginning : List Text}
    (before : disk.OnlyMade path middle) (on_way : beginning <+: path.names)
    (h : middle.makeDirectory { path with names := beginning } = .ok after) :
    disk.OnlyMade path after := by
  obtain ⟨place, resolved, -, nothing, -, rfl⟩ := makeDirectory_eq_ok.1 h
  have free : middle.node? place ≠ some .directory := by
    rw [nothing]
    exact nofun
  have named : place ≠ [] := by
    rintro rfl
    exact free rfl
  refine ⟨before.workingDirectory, fun other => ?_⟩
  by_cases here : other = place
  · right
    rw [here]
    refine ⟨?_, node?_put_self middle .directory named,
      beginning, on_way, resolve_put free resolved⟩
    rcases before.nodes place with same | ⟨absent, -⟩
    · rw [← same, nothing]
    · exact absent
  · rw [node?_put_of_ne here]
    refine (before.nodes other).imp_right fun made => ?_
    obtain ⟨absent, directory, earlier, on_way, found⟩ := made
    exact ⟨absent, directory, earlier, on_way, resolve_put free found⟩

/-- However it ends, making directories makes nothing else. -/
theorem onlyMade_makeDirectories (disk : Disk) (path : Path) :
    disk.OnlyMade path (disk.makeDirectories path).1 := by
  refine makeDirectoriesFrom_induction path.names.reverse ?_ (.refl disk path)
  intro beginning on_way middle after before made
  rw [List.reverse_reverse] at on_way
  exact before.makeDirectory on_way made

/-- A directory that was made is there. -/
theorem isDirectory_of_makeDirectory {after : Disk} (h : disk.makeDirectory path = .ok after) :
    after.isDirectory path = .ok true := by
  obtain ⟨place, resolved, -, nothing, -, rfl⟩ := makeDirectory_eq_ok.1 h
  have named : place ≠ [] := by
    rintro rfl
    cases nothing
  have free : disk.node? place ≠ some .directory := by
    rw [nothing]
    exact nofun
  exact isDirectory_eq_ok.2
    ⟨place, resolve_put free resolved, node?_put_self disk .directory named⟩

theorem isDirectory_of_settle {after : Disk} {e : StorageError}
    (h : disk.settle path e = (after, .ok ())) : after.isDirectory path = .ok true := by
  unfold Disk.settle at h
  split at h
  · cases h
  · cases h
  · split at h
    · rename_i standing
      obtain ⟨rfl, -⟩ := Prod.mk.inj h
      exact standing
    · cases h
    · cases h

/-- Where directories are made without a failure the path leads to one. -/
theorem isDirectory_of_makeDirectories {after : Disk}
    (h : disk.makeDirectories path = (after, .ok ())) : after.isDirectory path = .ok true := by
  rw [makeDirectories, makeDirectoriesFrom.eq_def] at h
  simp only [List.reverse_reverse] at h
  split at h
  · rename_i made
    obtain ⟨rfl, -⟩ := Prod.mk.inj h
    exact isDirectory_of_makeDirectory made
  · split at h
    · split at h
      · cases h
      · split at h
        · rename_i made
          obtain ⟨rfl, -⟩ := Prod.mk.inj h
          exact isDirectory_of_makeDirectory made
        · cases h
        · exact isDirectory_of_settle h
    · cases h
    · exact isDirectory_of_settle h

/-- A directory that is there is left as it is. -/
theorem makeDirectories_of_isDirectory (h : disk.isDirectory path = .ok true) :
    disk.makeDirectories path = (disk, .ok ()) := by
  obtain ⟨place, resolved, standing⟩ := isDirectory_eq_ok.1 h
  have occupied : disk.makeDirectory path = .error (.refused .alreadyExists path) := by
    rw [makeDirectory, resolved, ok_bind, standing]
    split
    · contradiction
    · rfl
  rw [makeDirectories, makeDirectoriesFrom.eq_def]
  simp only [List.reverse_reverse, occupied, settle, h]

end Disk

end TerminalReel
