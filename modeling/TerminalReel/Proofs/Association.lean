import Mathlib.Data.List.Basic
import TerminalReel.Json.Basic
/-!
# TerminalReel.Proofs.Association

Values **under keys**, each key at most once: the fields of an object, the sketches of a
workbench and the places of a disk.
-/

namespace TerminalReel

/-- What stands under another key stays where a key is taken out. -/
theorem lookup_filter_of_ne {α β : Type} [BEq α] [LawfulBEq α] [DecidableEq α] {key other : α}
    (ne : other ≠ key) (entries : List (α × β)) :
    (entries.filter (·.1 ≠ key)).lookup other = entries.lookup other := by
  induction entries with
  | nil => rfl
  | cons first rest ih =>
      obtain ⟨k, v⟩ := first
      by_cases same : k = key
      · subst same
        rw [List.filter_cons_of_neg (by simp), ih, List.lookup_cons, beq_eq_false_iff_ne.2 ne]
      · rw [List.filter_cons_of_pos (by simpa using same), List.lookup_cons, List.lookup_cons, ih]

theorem mem_of_lookup {α β : Type} [BEq α] [LawfulBEq α] {key : α} {value : β}
    {entries : List (α × β)} (h : entries.lookup key = some value) : (key, value) ∈ entries := by
  induction entries with
  | nil => cases h
  | cons first rest ih =>
      obtain ⟨k, v⟩ := first
      rw [List.lookup_cons] at h
      split at h
      · rename_i same
        obtain rfl := eq_of_beq same
        obtain rfl := Option.some.inj h
        exact List.mem_cons_self
      · exact List.mem_cons_of_mem _ (ih h)

namespace Fields

variable {fields : Fields} {key : Text}

theorem set_of_not_mem (value : Json) (new : key ∉ fields.map Prod.fst) :
    fields.set key value = fields ++ [(key, value)] := by
  induction fields with
  | nil => rfl
  | cons field rest ih =>
      obtain ⟨first, later⟩ := not_or.1 (List.mem_cons.not.1 new)
      rw [set, if_neg (Ne.symm first), ih later, List.cons_append]

/-- No key comes to stand twice. -/
theorem nodup_set (value : Json) (apart : (fields.map Prod.fst).Nodup) :
    ((fields.set key value).map Prod.fst).Nodup := by
  by_cases mem : key ∈ fields.map Prod.fst
  · rwa [keys_set_of_mem value mem]
  · rw [set_of_not_mem value mem, List.map_append]
    refine List.nodup_append.2 ⟨apart, by simp, ?_⟩
    rintro k here _ there rfl
    obtain rfl : k = key := List.mem_singleton.1 there
    exact mem here

/-- What holds of every field and of the new one holds of every field then. -/
theorem forall_mem_set {P : Text × Json → Prop} {value : Json} (each : ∀ field ∈ fields, P field)
    (new : P (key, value)) : ∀ field ∈ fields.set key value, P field := by
  induction fields with
  | nil => exact List.forall_mem_singleton.2 new
  | cons field rest ih =>
      obtain ⟨k, v⟩ := field
      obtain ⟨here, there⟩ := List.forall_mem_cons.1 each
      rw [set]
      split
      · exact List.forall_mem_cons.2 ⟨new, there⟩
      · exact List.forall_mem_cons.2 ⟨here, ih there⟩

/-! ### Defaults -/

theorem getOr_of_absent {defaults : Fields} (absent : (fields.get? key).getD .null = .null) :
    fields.getOr defaults key = (defaults.get? key).getD .null := by
  rw [getOr]
  cases found : fields.get? key with
  | none => rfl
  | some value =>
      rw [found] at absent
      obtain rfl : value = .null := absent
      rfl

theorem getOr_of_given (defaults : Fields) {value : Json} (found : fields.get? key = some value)
    (given : value ≠ .null) : fields.getOr defaults key = value := by
  rw [getOr, found]
  cases value with
  | null => exact absurd rfl given
  | _ => rfl

end Fields

end TerminalReel
