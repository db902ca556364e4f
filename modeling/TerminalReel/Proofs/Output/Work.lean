import TerminalReel.Output
import TerminalReel.Proofs.Storage.Directories
/-!
# TerminalReel.Proofs.Output.Work

**Work that leaves something on a disk**, and files that are saved there.

Work that fails keeps what it has changed, so what is said of it is said of the disk after
it in both cases (`Leaves`). A write that fails changes what stands at its path at most
(`Changes`), and it fails only where the path takes no files or the text has no bytes.
-/

namespace TerminalReel

/-! ### Work and what it leaves -/

namespace Work

variable {α β : Type} {disk : Disk} {good : α → Disk → Prop} {bad : Fault → Disk → Prop}

/-- How work ends on a disk, and the disk after it. -/
def ending (work : Work α) (disk : Disk) : Except Fault α × Disk := (work.perform disk).value

/-- Work ends well with a value and a disk that are good, or it fails with a fault and a
disk that are bad. -/
def Leaves (work : Work α) (disk : Disk) (good : α → Disk → Prop) (bad : Fault → Disk → Prop) :
    Prop :=
  Ends (good · (work.ending disk).2) (bad · (work.ending disk).2) (work.ending disk).1

/-- Work that fails ends what follows it. -/
theorem ending_bind (work : Work α) (next : α → Work β) (disk : Disk) :
    (work >>= next).ending disk = match work.ending disk with
      | (.ok a, middle) => (next a).ending middle
      | (.error fault, middle) => (.error fault, middle) := by
  have run : (work >>= next).ending disk
      = (ExceptT.bindCont next (work.ending disk).1 (work.ending disk).2).value := rfl
  rw [run]
  rcases work.ending disk with ⟨outcome, middle⟩
  cases outcome <;> rfl

theorem ending_changing (f : Disk → Disk.Result α) (disk : Disk) :
    (changing f).ending disk = ((f disk).2.mapError .storage, (f disk).1) := rfl

theorem ending_reading (x : Disk → Attempt Fault α) (disk : Disk) :
    (reading x).ending disk = ((x disk).outcome, disk) := rfl

theorem ending_ofAttempt {ε : Type} (fault : ε → Fault) (x : Attempt ε α) (disk : Disk) :
    (ofAttempt fault x).ending disk = (x.outcome.mapError fault, disk) := rfl

/-- What is good after work that ended well. -/
theorem Leaves.of_ok {work : Work α} {a : α} {after : Disk} (h : work.Leaves disk good bad)
    (ended : work.ending disk = (.ok a, after)) : good a after := by
  rw [Leaves, ended] at h
  exact h.of_ok rfl

/-- What is left by work that failed. -/
theorem Leaves.of_error {work : Work α} {fault : Fault} {after : Disk}
    (h : work.Leaves disk good bad) (failed : work.ending disk = (.error fault, after)) :
    bad fault after := by
  rw [Leaves, failed] at h
  exact h.of_error rfl

/-- Work after work starts from the disk that the first one leaves good. -/
theorem Leaves.bind {work : Work α} {next : α → Work β} {good' : β → Disk → Prop}
    (h : work.Leaves disk good bad)
    (later : ∀ a after, good a after → (next a).Leaves after good' bad) :
    (work >>= next).Leaves disk good' bad := by
  unfold Leaves at h ⊢
  rw [ending_bind]
  revert h
  rcases work.ending disk with ⟨outcome, middle⟩
  intro h
  cases h with
  | ok holds => exact later _ _ holds
  | error fails => exact .error fails

theorem Leaves.worse {work : Work α} {bad' : Fault → Disk → Prop}
    (h : work.Leaves disk good bad) (weaker : ∀ fault after, bad fault after → bad' fault after) :
    work.Leaves disk good bad' := by
  unfold Leaves at h ⊢
  revert h
  rcases work.ending disk with ⟨outcome, after⟩
  intro h
  cases h with
  | ok holds => exact .ok holds
  | error fails => exact .error (weaker _ _ fails)

theorem Leaves.pure {a : α} (h : good a disk) : (Pure.pure a : Work α).Leaves disk good bad :=
  .ok h

/-- Work that is chosen, with the same work after it. -/
theorem Leaves.choose {asked : Prop} [Decidable asked] {work other : Work α} {next : α → Work β}
    {good' : β → Disk → Prop} (h : (if asked then work else other).Leaves disk good bad)
    (later : ∀ a after, good a after → (next a).Leaves after good' bad) :
    (if asked then work >>= next else other >>= next).Leaves disk good' bad := by
  by_cases holds : asked
  · rw [if_pos holds] at h ⊢
    exact h.bind later
  · rw [if_neg holds] at h ⊢
    exact h.bind later

theorem Leaves.map {work : Work α} {f : α → β} {good' : β → Disk → Prop}
    (h : work.Leaves disk good bad) (later : ∀ a after, good a after → good' (f a) after) :
    (f <$> work).Leaves disk good' bad := by
  rw [← bind_pure_comp]
  exact h.bind fun a after holds => .pure (later a after holds)

/-- A change to the disk is kept, whether it fails or not. -/
theorem leaves_changing {f : Disk → Disk.Result α}
    (h : Ends (good · (f disk).1) (fun e => bad (.storage e) (f disk).1) (f disk).2) :
    (changing f).Leaves disk good bad :=
  h.mapError fun _ holds => holds

theorem leaves_ofAttempt {ε : Type} {fault : ε → Fault} {x : Attempt ε α}
    (h : Ends (good · disk) (fun e => bad (fault e) disk) x.outcome) :
    (ofAttempt fault x).Leaves disk good bad :=
  h.mapError fun _ holds => holds

end Work

/-! ### Files that are written -/

namespace Disk

variable {disk middle after : Disk} {path other : Path} {text text' : Text}
  {place place' : Place} {fault : Fault}

/-- The file at the path holds the text. -/
def Holds (disk : Disk) (path : Path) (text : Text) : Prop :=
  ∃ bytes, text.toUTF8? = some bytes ∧ disk.file? path = .ok (some bytes)

/-- A file can be written to the path: the way to it is free, no directory stands there,
and the system writes all of it. -/
def Takes (disk : Disk) (path : Path) : Prop :=
  ∃ place, disk.resolve path = .ok place ∧ disk.node? place ≠ some .directory ∧
    disk.writing place = .whole

/-- Nothing is changed, or a file is put where the path leads. -/
inductive Changes (disk : Disk) (path : Path) : Disk → Prop
  | nothing : disk.Changes path disk
  | file {place : Place} (content : ByteArray) (resolved : disk.resolve path = .ok place)
      (free : disk.node? place ≠ some .directory) :
      disk.Changes path (disk.put place (.file content))

/-- A write changes what stands at its path at most, whichever way it ends. -/
theorem changes_writeFile (disk : Disk) (path : Path) (content : ByteArray) :
    disk.Changes path (disk.writeFile path content).1 := by
  unfold writeFile
  split
  · exact .nothing
  · rename_i place resolved
    split
    · exact .nothing
    · exact .nothing
    · rename_i free
      have free : disk.node? place ≠ some .directory := fun standing => free standing
      split
      · exact .file content resolved free
      · exact .nothing
      · exact .file _ resolved free

namespace Changes

variable (h : disk.Changes path after)

include h

/-- The ways to other files are the same after a write. -/
theorem resolve (found : disk.resolve other = .ok place) : after.resolve other = .ok place := by
  cases h with
  | nothing => exact found
  | file content resolved free => exact resolve_put free found

/-- What stands elsewhere is the same after a write. -/
theorem node? (elsewhere : after.resolve path ≠ .ok place) :
    after.node? place = disk.node? place := by
  cases h with
  | nothing => rfl
  | file content resolved free =>
      refine node?_put_of_ne ?_
      rintro rfl
      exact elsewhere (resolve_put free resolved)

/-- A path that takes files takes them after a write, to whichever path that is. -/
theorem takes (taken : disk.Takes other) : after.Takes other := by
  obtain ⟨place, resolved, free, whole⟩ := taken
  refine ⟨place, h.resolve resolved, ?_, ?_⟩
  · by_cases there : after.resolve path = .ok place
    · cases h with
      | nothing => exact free
      | file content resolved' free' =>
          obtain rfl := Except.ok.inj ((resolve_put free' resolved').symm.trans there)
          rw [node?_put_self disk _ fun root => free' (by rw [root]; rfl)]
          nofun
    · rwa [h.node? there]
  · cases h <;> exact whole

/-- A path that takes files after a write to it took them before. -/
theorem of_takes (taken : after.Takes path) : disk.Takes path := by
  cases h with
  | nothing => exact taken
  | file content resolved free =>
      obtain ⟨place, there, -, whole⟩ := taken
      obtain rfl := Except.ok.inj ((resolve_put free resolved).symm.trans there)
      exact ⟨_, resolved, free, whole⟩

/-- A file at another place holds what it held. -/
theorem holds (held : disk.Holds other text) (here : after.resolve path = .ok place)
    (there : disk.resolve other = .ok place') (ne : place' ≠ place) : after.Holds other text := by
  obtain ⟨bytes, encoded, read⟩ := held
  obtain ⟨_, resolved, file⟩ := file?_eq_ok.1 read
  obtain rfl := Except.ok.inj (there.symm.trans resolved)
  have elsewhere : after.resolve path ≠ .ok place' := by
    rw [here]
    exact fun same => ne (Except.ok.inj same).symm
  exact ⟨bytes, encoded, file?_eq_ok.2 ⟨place', h.resolve there, (h.node? elsewhere).trans file⟩⟩

end Changes

/-- A path that takes files is written to. -/
theorem Takes.exists_written (h : disk.Takes path) (named : namesChild path = true)
    (content : ByteArray) : ∃ after, disk.writeFile path content = (after, .ok ()) := by
  obtain ⟨place, resolved, free, whole⟩ := h
  exact ⟨_, writeFile_eq_ok.2 ⟨place, resolved, named, free, whole, rfl⟩⟩

/-- The text is written to the path. -/
def Saves (disk : Disk) (path : Path) (text : Text) (after : Disk) : Prop :=
  ∃ bytes, text.toUTF8? = some bytes ∧ disk.writeFile path bytes = (after, .ok ())

/-- The text is not written to the path, or not all of it: the write fails, or the text has
no bytes and the file is left empty. -/
inductive Spoils (disk : Disk) (path : Path) (text : Text) : Fault → Disk → Prop
  | refused {after : Disk} {e : StorageError}
      (h : disk.writeFile path (text.toUTF8?.getD .empty) = (after, .error e)) :
      disk.Spoils path text (.storage e) after
  | unencodable {after : Disk} (no_bytes : text.toUTF8? = none)
      (h : disk.writeFile path .empty = (after, .ok ())) :
      disk.Spoils path text .unencodable after

/-- The text is written to the path if it is asked for. -/
def Stores (disk : Disk) (asked : Bool) (path : Path) (text : Text) (after : Disk) : Prop :=
  if asked then disk.Saves path text after else after = disk

theorem Saves.holds (h : disk.Saves path text after) : after.Holds path text := by
  obtain ⟨bytes, encoded, written⟩ := h
  exact ⟨bytes, encoded, file?_of_writeFile written⟩

theorem Saves.changes (h : disk.Saves path text after) : disk.Changes path after := by
  obtain ⟨bytes, -, written⟩ := h
  have changes := disk.changes_writeFile path bytes
  rwa [written] at changes

/-- A path that was written to takes files. -/
theorem Saves.takes (h : disk.Saves path text after) : after.Takes path := by
  obtain ⟨bytes, -, written⟩ := id h
  obtain ⟨place, resolved, -, free, whole, -⟩ := writeFile_eq_ok.1 written
  exact h.changes.takes ⟨place, resolved, free, whole⟩

/-- A write that failed has changed what stands at its path at most. -/
theorem Spoils.changes (h : disk.Spoils path text fault after) : disk.Changes path after := by
  cases h with
  | refused failed =>
      have changes := disk.changes_writeFile path (text.toUTF8?.getD .empty)
      rwa [failed] at changes
  | unencodable _ written =>
      have changes := disk.changes_writeFile path .empty
      rwa [written] at changes

/-- A file is spoiled only where it could not be written, or has no bytes. -/
theorem Spoils.not_takes (h : disk.Spoils path text fault after) (named : namesChild path = true) :
    ¬(after.Takes path ∧ text.toUTF8? ≠ none) := by
  rintro ⟨taken, some_bytes⟩
  have before := h.changes.of_takes taken
  cases h with
  | refused failed =>
      obtain ⟨_, written⟩ := before.exists_written named _
      rw [failed] at written
      cases written
  | unencodable no_bytes _ => exact some_bytes no_bytes

/-- A path that holds something is one that leads to a place. -/
theorem Holds.exists_place (h : disk.Holds path text) : ∃ place, disk.resolve path = .ok place := by
  obtain ⟨bytes, -, read⟩ := h
  obtain ⟨place, resolved, -⟩ := file?_eq_ok.1 read
  exact ⟨place, resolved⟩

theorem Stores.saves {asked : Bool} (h : disk.Stores asked path text after) (on : asked = true) :
    disk.Saves path text after := by
  rwa [Stores, if_pos on] at h

theorem Stores.changes {asked : Bool} (h : disk.Stores asked path text after) :
    disk.Changes path after := by
  unfold Stores at h
  split at h
  · exact h.changes
  · rw [h]
    exact .nothing

/-- Where no file is saved nothing changes. -/
theorem Stores.node? {asked : Bool} (h : disk.Stores asked path text after)
    (elsewhere : asked = true → after.resolve path ≠ .ok place) :
    after.node? place = disk.node? place := by
  cases asked with
  | true => exact h.changes.node? (elsewhere rfl)
  | false =>
      obtain rfl : after = disk := h
      rfl

end Disk

namespace Work

/-- Writing a text saves it or spoils the file. -/
theorem leaves_writeFile (path : Path) (text : Text) (disk : Disk) :
    (writeFile path text).Leaves disk (fun _ after => disk.Saves path text after)
      (fun fault after => disk.Spoils path text fault after) := by
  let stored (_ : Unit) (after : Disk) : Prop :=
    disk.writeFile path (text.toUTF8?.getD .empty) = (after, .ok ())
  refine Leaves.bind (?_ : Leaves _ disk stored _) fun _ after written => ?_
  · refine leaves_changing ?_
    rcases written : disk.writeFile path (text.toUTF8?.getD .empty) with ⟨after, e | ⟨⟩⟩
    · exact .error (.refused written)
    · exact .ok written
  · change disk.writeFile path (text.toUTF8?.getD .empty) = (after, .ok ()) at written
    cases encoded : text.toUTF8? with
    | none =>
        rw [encoded] at written
        exact .error (.unencodable encoded written)
    | some bytes =>
        rw [encoded] at written
        exact .ok ⟨bytes, encoded, written⟩

end Work

end TerminalReel
