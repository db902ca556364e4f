import TerminalReel.Proofs.Animation.Track
/-!
# TerminalReel.Proofs.Animation.Fade

The tracks of **groups that fade**: hidden, then seen once, then hidden again.

The four events of a group may fall on any cells, in any order, and some of them
may be dropped or pushed. What is left always has one run of visible keyframes
between two runs of hidden ones (`marksAfter_fade`), or after one if the group
stays (`marksAfter_stay`). The cells where the first hidden run ends and the last one
begins are known: the group appears at the cell of its first event, and it has
disappeared two cells after its last event at the latest.
-/

namespace TerminalReel

namespace Track

variable {cell next : ℕ} {before now : Int} {rest marks : List Mark}

/-! ### Single events -/

/-- A change of opacity is kept, one cell past its predecessor if need be. -/
theorem marksAfter_change (h : marksAfter ⟨cell, before⟩ (⟨next, now⟩ :: rest) = some marks)
    (change : now ≠ before) : ∃ later, marksAfter ⟨max next (cell + 1), now⟩ rest = some later ∧
      marks = ⟨max next (cell + 1), now⟩ :: later := by
  rw [marksAfter, if_neg change] at h
  by_cases behind : next ≤ cell
  · rw [if_pos behind] at h
    rw [max_eq_right (by omega)]
    by_cases crowded : lastCell ≤ cell
    · rw [if_pos crowded] at h
      cases h
    · rw [if_neg crowded] at h
      obtain ⟨later, after, rfl⟩ := Option.map_eq_some_iff.1 h
      exact ⟨later, after, rfl⟩
  · rw [if_neg behind] at h
    rw [max_eq_left (by omega)]
    obtain ⟨later, after, rfl⟩ := Option.map_eq_some_iff.1 h
    exact ⟨later, after, rfl⟩

/-- An event that keeps the opacity ends a run of that opacity, at its own cell or
where the run was before. -/
theorem marksAfter_keep (h : marksAfter ⟨cell, now⟩ (⟨next, now⟩ :: rest) = some marks) :
    ∃ run later, marksAfter ⟨max next cell, now⟩ rest = some later ∧
      ⟨cell, now⟩ :: marks = run ++ ⟨max next cell, now⟩ :: later ∧
      ∀ mark ∈ run, mark.opacity = now := by
  rw [marksAfter, if_pos rfl] at h
  by_cases behind : next ≤ cell
  · rw [if_pos behind] at h
    rw [max_eq_right behind]
    exact ⟨[], marks, h, rfl, by simp⟩
  · rw [if_neg behind] at h
    rw [max_eq_left (by omega)]
    obtain ⟨later, after, rfl⟩ := Option.map_eq_some_iff.1 h
    exact ⟨[⟨cell, now⟩], later, after, rfl, by simp⟩

/-- Nothing changes after the last event. -/
theorem opacity_of_marksAfter_nil (h : marksAfter ⟨cell, now⟩ [] = some marks) :
    ∀ mark ∈ marks, mark.opacity = now := by
  obtain rfl := Option.some.inj h
  rw [closingMarks]
  split <;> simp

/-! ### Groups -/

/-- The marks are hidden up to a cell and visible from then on. -/
def Emerges (appear : ℕ) (marks : List Mark) : Prop :=
  ∃ lead shown, marks = lead ++ ⟨appear, Opacity.hidden⟩ :: shown ∧
    (∀ mark ∈ lead, mark.opacity = Opacity.hidden) ∧ shown ≠ [] ∧
    ∀ mark ∈ shown, mark.opacity = Opacity.visible

/-- The marks are hidden up to a cell, then visible, and hidden again from another
cell on. -/
def Passes (appear gone : ℕ) (marks : List Mark) : Prop :=
  ∃ seen rest, marks = seen ++ ⟨gone, Opacity.hidden⟩ :: rest ∧ Emerges appear seen ∧
    ∀ mark ∈ rest, mark.opacity = Opacity.hidden

/-- The cell from which a group is hidden again, by the cells of its events. -/
def goneCell (appear appeared fade faded : ℕ) : ℕ :=
  max faded (max fade (max appeared (appear + 1)) + 1)

/-- A group that only appears is seen to the end. -/
theorem marksAfter_stay {appear appeared : ℕ}
    (h : marksAfter ⟨0, Opacity.hidden⟩ [⟨appear, Opacity.hidden⟩, ⟨appeared, Opacity.visible⟩]
      = some marks) :
    Emerges appear (⟨0, Opacity.hidden⟩ :: marks) := by
  obtain ⟨lead, later, appears, eq, lead_hidden⟩ := marksAfter_keep h
  rw [Nat.max_zero] at appears eq
  obtain ⟨shown, ends, rfl⟩ := marksAfter_change appears (by decide)
  have shown_visible := opacity_of_marksAfter_nil ends
  exact ⟨lead, _, eq, lead_hidden, List.cons_ne_nil _ _,
    List.forall_mem_cons.2 ⟨rfl, shown_visible⟩⟩

/-- A group that appears and disappears is seen once, wherever its events fall. -/
theorem marksAfter_fade {appear appeared fade faded : ℕ}
    (h : marksAfter ⟨0, Opacity.hidden⟩ [⟨appear, Opacity.hidden⟩, ⟨appeared, Opacity.visible⟩,
      ⟨fade, Opacity.visible⟩, ⟨faded, Opacity.hidden⟩] = some marks) :
    Passes appear (goneCell appear appeared fade faded) (⟨0, Opacity.hidden⟩ :: marks) := by
  obtain ⟨lead, later, appears, eq, lead_hidden⟩ := marksAfter_keep h
  rw [Nat.max_zero] at appears eq
  obtain ⟨later, fades, rfl⟩ := marksAfter_change appears (by decide)
  obtain ⟨run, later', disappears, eq', run_visible⟩ := marksAfter_keep fades
  obtain ⟨rest, ends, rfl⟩ := marksAfter_change disappears (by decide)
  have rest_hidden := opacity_of_marksAfter_nil ends
  -- The visible run ends where the fade begins or, if that is too early, where it is pushed.
  let last : Mark := ⟨max fade (max appeared (appear + 1)), Opacity.visible⟩
  refine ⟨lead ++ ⟨appear, Opacity.hidden⟩ :: (run ++ [last]), rest, ?_, ?_, rest_hidden⟩
  · rw [eq, eq']
    simp [last, goneCell]
  · have last_visible : ∀ mark ∈ run ++ [last], mark.opacity = Opacity.visible := by
      intro mark mem
      rcases List.mem_append.1 mem with run_mem | last_mem
      · exact run_visible mark run_mem
      · rw [List.mem_singleton.1 last_mem]
    exact ⟨lead, run ++ [last], rfl, lead_hidden, by simp, last_visible⟩

end Track

end TerminalReel
