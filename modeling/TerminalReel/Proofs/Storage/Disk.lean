import TerminalReel.Proofs.Association
import TerminalReel.Proofs.Ending
import TerminalReel.Storage.Disk
/-!
# TerminalReel.Proofs.Storage.Disk

A file that is written **is the file that is read**.

A write changes what stands at one place, and no directory stood there before. The way
to any place leads through directories only, so it is the same way after the write.
-/

namespace TerminalReel

namespace Disk

variable {disk after : Disk} {place other : Place} {node : Node} {path : Path}

/-- What stands elsewhere stays. -/
theorem node?_put_of_ne (ne : other ≠ place) :
    (disk.put place node).node? other = disk.node? other := by
  rw [node?, node?]
  split
  · rfl
  · rw [put, List.lookup_cons, beq_eq_false_iff_ne.2 ne]
    exact lookup_filter_of_ne ne disk.nodes

theorem enter_eq_ok : disk.enter place = .ok () ↔ disk.node? place = some .directory := by
  rw [enter]
  cases disk.node? place with
  | none => exact ⟨nofun, nofun⟩
  | some node =>
      cases node with
      | directory => simp
      | file content => exact ⟨nofun, nofun⟩

variable (free : disk.node? place ≠ some .directory)

include free

/-- Where no directory stands nothing is entered, so what is put there is in no way. -/
theorem step_put {directory : Place} {name : Text} (h : disk.step directory name = .ok other) :
    (disk.put place node).step directory name = .ok other := by
  obtain ⟨⟨⟩, entered, h⟩ := bind_eq_ok.1 h
  have ne : directory ≠ place := by
    rintro rfl
    exact free (enter_eq_ok.1 entered)
  have entered : (disk.put place node).enter directory = .ok () := by
    rw [enter_eq_ok, node?_put_of_ne ne]
    exact enter_eq_ok.1 entered
  rw [step, entered]
  exact h

theorem walk_put {start : Place} {names : List Text} (h : disk.walk start names = .ok other) :
    (disk.put place node).walk start names = .ok other := by
  induction names generalizing start with
  | nil => exact h
  | cons name rest ih =>
      obtain ⟨next, step, h⟩ := bind_eq_ok.1 h
      rw [walk, step_put free step]
      exact ih h

/-- The ways to other places are the same after something is put where no directory stands.
-/
theorem resolve_put (h : disk.resolve path = .ok other) :
    (disk.put place node).resolve path = .ok other := by
  rw [resolve] at h ⊢
  split at h
  · cases h
  · split at h
    · cases h
    · split at h
      · cases h
      · rename_i bounded named short
        rw [if_neg named, if_neg short]
        exact mapError_eq_ok.2 (walk_put free (mapError_eq_ok.1 h))

omit free

/-- What a write that is done has done. -/
theorem writeFile_eq_ok {content : ByteArray} :
    disk.writeFile path content = (after, .ok ()) ↔
      ∃ place, disk.resolve path = .ok place ∧ namesChild path = true ∧
        disk.node? place ≠ some .directory ∧ disk.writing place = .whole ∧
        after = disk.put place (.file content) := by
  unfold writeFile
  split
  · simp_all
  · rename_i place resolved
    simp only [resolved, Except.ok.injEq, exists_eq_left']
    split
    · simp_all
    · simp_all
    · rename_i named free
      rw [Prod.mk.injEq, eq_comm]
      split <;> simp_all

/-- What stands at a place that a file was put at is read from every path to it. -/
theorem file?_put {content : ByteArray} (free : disk.node? place ≠ some .directory)
    (resolved : disk.resolve path = .ok place) :
    (disk.put place (.file content)).file? path = .ok (some content) := by
  have some_name : place ≠ [] := by
    rintro rfl
    exact free rfl
  have found : (disk.put place (.file content)).stat path = .ok (some (.file content)) := by
    rw [stat, resolve_put free resolved]
    exact congrArg Except.ok (node?_put_self disk (.file content) some_name)
  rw [file?, found]
  rfl

/-- What was written to a path is read from it. -/
theorem file?_of_writeFile {content : ByteArray}
    (h : disk.writeFile path content = (after, .ok ())) :
    after.file? path = .ok (some content) := by
  obtain ⟨place, resolved, -, free, -, rfl⟩ := writeFile_eq_ok.1 h
  exact file?_put free resolved

end Disk

end TerminalReel
