import TerminalReel.Proofs.Animation.Grid
/-!
# TerminalReel.Proofs.Animation.Track

Tracks **on the grid**: events at cells make keyframes at cells.

On the grid a track is built by whole numbers alone (`marksAfter`), and
`framesAfter_keyframes` says so. Two things are then read off the marks: that
every track runs from cell `0` to the last cell and forward at every step, and
which keyframes the events of a fading group leave, whatever their cells are.
-/

namespace TerminalReel

/-- A keyframe on the grid: a cell and the opacity from there on. -/
structure Mark where
  cell : ℕ
  opacity : Int
  deriving DecidableEq

/-- The keyframe at a mark. -/
def Mark.keyframe (mark : Mark) : Keyframe := ⟨gridPercent mark.cell, mark.opacity⟩

/-- An event where there is no room for it, one cell past its predecessor. -/
def Mark.pushedPast (event previous : Mark) : Mark := ⟨previous.cell + 1, event.opacity⟩

namespace Track

/-! ### Building tracks on the grid -/

/-- What remains of the cycle after the last mark. -/
def closingMarks (last : Mark) : List Mark :=
  if last.cell < lastCell then [⟨lastCell, last.opacity⟩] else []

/-- The marks after `previous` that events at cells make, if there is room. -/
def marksAfter (previous : Mark) : List Mark → Option (List Mark)
  | [] => some (closingMarks previous)
  | event :: rest =>
    if event.cell ≤ previous.cell then
      if event.opacity = previous.opacity then marksAfter previous rest
      else if lastCell ≤ previous.cell then none
      else (marksAfter (event.pushedPast previous) rest).map (event.pushedPast previous :: ·)
    else (marksAfter event rest).map (event :: ·)

theorem closing_keyframe {last : Mark} (le : last.cell ≤ lastCell) :
    closing last.keyframe = (closingMarks last).map Mark.keyframe := by
  have before := gridPercent_lt_hundred (le.trans (Nat.le_succ lastCell))
  rw [closing, closingMarks, Mark.keyframe, apply_ite (List.map Mark.keyframe), lastPercent_eq]
  exact if_congr before rfl rfl

/-- One event on the grid: it is dropped, pushed or kept by the cells. -/
theorem framesAfter_keyframe_cons {part : Part} {previous event : Mark} {rest : List Keyframe}
    (le : previous.cell ≤ lastCell) (event_le : event.cell ≤ lastCell) :
    framesAfter part previous.keyframe (event.keyframe :: rest)
      = if event.cell ≤ previous.cell then
          if event.opacity = previous.opacity then framesAfter part previous.keyframe rest
          else if lastCell ≤ previous.cell then
            .error ⟨part, .event (gridPercent previous.cell)⟩
          else ((event.pushedPast previous).keyframe :: ·) <$>
            framesAfter part (event.pushedPast previous).keyframe rest
        else (event.keyframe :: ·) <$> framesAfter part event.keyframe rest := by
  have percent : clampPercent event.keyframe.percent = gridPercent event.cell := by
    rw [Mark.keyframe, clampPercent_gridPercent, min_eq_left event_le]
  have pushed : nudge previous.keyframe.percent = gridPercent (previous.cell + 1) :=
    nudge_gridPercent le
  have stays := gridPercent_le (j := event.cell) (k := previous.cell) (by omega) (by omega)
  have full := hundred_lt_gridPercent (k := previous.cell + 1) (by omega)
  rw [framesAfter]
  dsimp only
  rw [percent, pushed]
  by_cases behind : event.cell ≤ previous.cell
  · rw [if_pos behind, Mark.keyframe, if_pos (stays.2 behind)]
    by_cases same : event.opacity = previous.opacity
    · rw [if_pos same]
      exact if_pos same
    · rw [if_neg same]
      refine (if_neg same).trans ?_
      by_cases crowded : lastCell ≤ previous.cell
      · rw [if_pos crowded, if_pos (full.2 (by omega))]
        rfl
      · rw [if_neg crowded, if_neg (full.not.2 (by omega))]
        exact bind_pure_comp _ _
  · rw [if_neg behind, Mark.keyframe, if_neg (stays.not.2 behind)]
    exact bind_pure_comp _ _

/-- Events on the grid are followed on the grid. -/
theorem framesAfter_keyframes {part : Part} {previous : Mark} {events : List Mark}
    {frames : List Keyframe} (le : previous.cell ≤ lastCell)
    (inside : ∀ event ∈ events, event.cell ≤ lastCell)
    (h : framesAfter part previous.keyframe (events.map Mark.keyframe) = .ok frames) :
    ∃ marks, marksAfter previous events = some marks ∧ frames = marks.map Mark.keyframe := by
  -- The mark before the events stays within the cycle; that is what the next one needs.
  induction events generalizing previous frames with
  | nil =>
      obtain rfl := Except.ok.inj h
      exact ⟨_, rfl, closing_keyframe le⟩
  | cons event rest ih =>
      obtain ⟨event_le, rest_le⟩ := List.forall_mem_cons.1 inside
      rw [List.map_cons, framesAfter_keyframe_cons le event_le] at h
      rw [marksAfter]
      by_cases behind : event.cell ≤ previous.cell
      · rw [if_pos behind] at h ⊢
        by_cases same : event.opacity = previous.opacity
        · rw [if_pos same] at h ⊢
          exact ih le rest_le h
        · rw [if_neg same] at h ⊢
          by_cases crowded : lastCell ≤ previous.cell
          · rw [if_pos crowded] at h
            cases h
          · rw [if_neg crowded] at h ⊢
            obtain ⟨later, ok, rfl⟩ := map_eq_ok.1 h
            have room : (event.pushedPast previous).cell ≤ lastCell := Nat.lt_of_not_le crowded
            obtain ⟨marks, after, rfl⟩ := ih room rest_le ok
            exact ⟨_, by rw [after]; rfl, rfl⟩
      · rw [if_neg behind] at h ⊢
        obtain ⟨later, ok, rfl⟩ := map_eq_ok.1 h
        obtain ⟨marks, after, rfl⟩ := ih event_le rest_le ok
        exact ⟨_, by rw [after]; rfl, rfl⟩

/-! ### From the beginning to the end -/

/-- The marks after `previous` run forward from it, up to the last cell. -/
def RunOn (previous : Mark) : List Mark → Prop
  | [] => previous.cell = lastCell
  | next :: rest => previous.cell < next.cell ∧ RunOn next rest

theorem runOn_closingMarks {last : Mark} (le : last.cell ≤ lastCell) :
    RunOn last (closingMarks last) := by
  rw [closingMarks]
  by_cases before : last.cell < lastCell
  · rw [if_pos before]
    exact ⟨before, rfl⟩
  · rw [if_neg before]
    exact Nat.le_antisymm le (Nat.not_lt.1 before)

/-- Whatever the events are, their marks run forward to the last cell. -/
theorem runOn_of_marksAfter {previous : Mark} {events marks : List Mark}
    (le : previous.cell ≤ lastCell) (inside : ∀ event ∈ events, event.cell ≤ lastCell)
    (h : marksAfter previous events = some marks) : RunOn previous marks := by
  induction events generalizing previous marks with
  | nil =>
      obtain rfl := Option.some.inj h
      exact runOn_closingMarks le
  | cons event rest ih =>
      obtain ⟨event_le, rest_le⟩ := List.forall_mem_cons.1 inside
      rw [marksAfter] at h
      by_cases behind : event.cell ≤ previous.cell
      · rw [if_pos behind] at h
        by_cases same : event.opacity = previous.opacity
        · rw [if_pos same] at h
          exact ih le rest_le h
        · rw [if_neg same] at h
          by_cases crowded : lastCell ≤ previous.cell
          · rw [if_pos crowded] at h
            cases h
          · rw [if_neg crowded] at h
            obtain ⟨later, after, rfl⟩ := Option.map_eq_some_iff.1 h
            exact ⟨Nat.lt_succ_self _, ih (Nat.lt_of_not_le crowded) rest_le after⟩
      · rw [if_neg behind] at h
        obtain ⟨later, after, rfl⟩ := Option.map_eq_some_iff.1 h
        exact ⟨Nat.lt_of_not_le behind, ih event_le rest_le after⟩

/-- No mark lies beyond the end. -/
theorem RunOn.le {previous : Mark} {marks : List Mark} (h : RunOn previous marks) :
    ∀ mark ∈ previous :: marks, mark.cell ≤ lastCell := by
  induction marks generalizing previous with
  | nil => exact List.forall_mem_singleton.2 (show previous.cell = lastCell from h).le
  | cons next rest ih =>
      have later := ih h.2
      have next_le := (List.forall_mem_cons.1 later).1
      exact List.forall_mem_cons.2 ⟨h.1.le.trans next_le, later⟩

theorem RunOn.isChain {previous : Mark} {marks : List Mark} (h : RunOn previous marks) :
    (previous :: marks).IsChain (·.cell < ·.cell) := by
  induction marks generalizing previous with
  | nil => exact List.isChain_singleton previous
  | cons next rest ih => exact List.isChain_cons_cons.2 ⟨h.1, ih h.2⟩

theorem RunOn.pairwise {previous : Mark} {marks : List Mark} (h : RunOn previous marks) :
    (previous :: marks).Pairwise (·.cell < ·.cell) := by
  have : IsTrans Mark (·.cell < ·.cell) := ⟨fun _ _ _ => lt_trans⟩
  exact List.isChain_iff_pairwise.1 h.isChain

/-- Marks that run on end in the last cell. -/
theorem RunOn.exists_getLast? {previous : Mark} {marks : List Mark} (h : RunOn previous marks) :
    ∃ now, (previous :: marks).getLast? = some ⟨lastCell, now⟩ := by
  induction marks generalizing previous with
  | nil =>
      refine ⟨previous.opacity, ?_⟩
      rw [List.getLast?_singleton, ← (show previous.cell = lastCell from h)]
  | cons next rest ih =>
      obtain ⟨now, last⟩ := ih h.2
      exact ⟨now, by rw [List.getLast?_cons_cons, last]⟩

/-! ### Tracks of events on the grid -/

/-- A track of events on the grid is made of their marks. -/
theorem exists_marks_of_ofEvents {part : Part} {initial : Int} {events : List Mark} {track : Track}
    (inside : ∀ event ∈ events, event.cell ≤ lastCell)
    (h : ofEvents part initial (events.map Mark.keyframe) = .ok track) :
    ∃ marks, marksAfter ⟨0, initial⟩ events = some marks ∧
      track.frames = (Mark.mk 0 initial :: marks).map Mark.keyframe := by
  have first : (⟨firstPercent, initial⟩ : Keyframe) = (Mark.mk 0 initial).keyframe := by
    rw [Mark.keyframe, firstPercent_eq]
  rw [ofEvents, first] at h
  obtain ⟨frames, after, h⟩ := bind_eq_ok.1 h
  obtain rfl := pure_eq_ok.1 h
  obtain ⟨marks, grid, rfl⟩ := framesAfter_keyframes (Nat.zero_le _) inside after
  exact ⟨marks, grid, rfl⟩

/-- The track is that of a part that follows events on the grid. -/
def FromGrid (track : Track) : Prop :=
  ∃ part initial, ∃ events : List Mark, (∀ event ∈ events, event.cell ≤ lastCell) ∧
    ofEvents part initial (events.map Mark.keyframe) = .ok track

/-- Such a track runs on the grid, from the beginning to the end. -/
theorem FromGrid.exists_marks {track : Track} (h : track.FromGrid) : ∃ initial marks,
    track.frames = (Mark.mk 0 initial :: marks).map Mark.keyframe ∧ RunOn ⟨0, initial⟩ marks := by
  obtain ⟨part, initial, events, inside, built⟩ := h
  obtain ⟨marks, after, frames⟩ := exists_marks_of_ofEvents inside built
  exact ⟨initial, marks, frames, runOn_of_marksAfter (Nat.zero_le _) inside after⟩

/-- Such a track goes by the name of its part. -/
theorem FromGrid.exists_name {track : Track} (h : track.FromGrid) :
    ∃ part : Part, track.name = part.keyframesName := by
  obtain ⟨part, initial, events, -, built⟩ := h
  obtain ⟨frames, -, e⟩ := bind_eq_ok.1 built
  obtain rfl := pure_eq_ok.1 e
  exact ⟨part, rfl⟩

end Track

end TerminalReel
