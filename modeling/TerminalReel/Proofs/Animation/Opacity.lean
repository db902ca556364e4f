import Mathlib.Data.Real.Basic
import TerminalReel.Proofs.Animation.Fade
/-!
# TerminalReel.Proofs.Animation.Opacity

The **opacity of a part** at every percentage of the cycle, and where it is zero.

Between two keyframes the opacity is linear. So a part that is hidden up to one
keyframe is not seen up to there, and one that is hidden from a keyframe on is not
seen from there on: a group is seen only between the cell where it appears and
the cell from which it is gone.
-/

namespace TerminalReel

/-- Where a number lies on the line; zero for what lies nowhere on it. -/
def Number.value (n : Number) : ℚ :=
  match n.place? with
  | some (.quanta count) => count / quantaPerOne
  | _ => 0

theorem Number.Measures.value_eq {n : Number} {v : ℚ} (h : n.Measures v) : n.value = v := by
  obtain ⟨-, count, place, e⟩ := h
  rw [Number.value, place]
  dsimp only
  rw [e, mul_div_cancel_right₀ _ quantaPerOne_cast_pos.ne']

namespace Track

/-- The opacity at `x` on the line through two keyframes. -/
noncomputable def between (p q : Keyframe) (x : ℝ) : ℝ :=
  p.opacity + (q.opacity - p.opacity)
    * ((x - p.percent.value) / (q.percent.value - p.percent.value))

/-- The opacity at `x`, which lies after the keyframe `previous`. -/
noncomputable def opacityAfter (x : ℝ) (previous : Keyframe) : List Keyframe → ℝ
  | [] => previous.opacity
  | next :: rest =>
    if x ≤ next.percent.value then between previous next x else opacityAfter x next rest

/-- The opacity at `x`: linear between the keyframes, and kept before the first and
after the last of them. -/
noncomputable def opacityAt (track : Track) (x : ℝ) : ℝ :=
  match track.frames with
  | [] => 0
  | first :: rest => if x ≤ first.percent.value then first.opacity else opacityAfter x first rest

variable {x : ℝ} {o : Int}

theorem between_of_opacity_eq {p q : Keyframe} (hp : p.opacity = o) (hq : q.opacity = o) :
    between p q x = o := by
  rw [between, hp, hq]
  ring

/-- At the right end of a segment the opacity is that of the frame there. -/
theorem between_right {p q : Keyframe} (less : p.percent.value < q.percent.value)
    (hx : x = q.percent.value) : between p q x = q.opacity := by
  have : (q.percent.value - p.percent.value : ℝ) ≠ 0 := by
    have : (p.percent.value : ℝ) < q.percent.value := by exact_mod_cast less
    linarith
  rw [between, hx, div_self this]
  ring

/-! ### Runs of one opacity -/

/-- Up to the last keyframe of a run, the opacity is that of the run. -/
theorem opacityAfter_of_le {previous last : Keyframe} {run rest : List Keyframe}
    (h_previous : previous.opacity = o) (h_run : ∀ frame ∈ run, frame.opacity = o)
    (h_last : last.opacity = o) (le : x ≤ last.percent.value) :
    opacityAfter x previous (run ++ last :: rest) = o := by
  induction run generalizing previous with
  | nil =>
      rw [List.nil_append, opacityAfter, if_pos le]
      exact between_of_opacity_eq h_previous h_last
  | cons frame run ih =>
      obtain ⟨h_frame, h_run⟩ := List.forall_mem_cons.1 h_run
      rw [List.cons_append, opacityAfter]
      split
      · exact between_of_opacity_eq h_previous h_frame
      · exact ih h_frame h_run

/-- Where nothing changes any more, the opacity stays. -/
theorem opacityAfter_of_forall {previous : Keyframe} {rest : List Keyframe}
    (h_previous : previous.opacity = o) (h_rest : ∀ frame ∈ rest, frame.opacity = o) :
    opacityAfter x previous rest = o := by
  induction rest generalizing previous with
  | nil => rw [opacityAfter, h_previous]
  | cons frame rest ih =>
      obtain ⟨h_frame, h_rest⟩ := List.forall_mem_cons.1 h_rest
      rw [opacityAfter]
      split
      · exact between_of_opacity_eq h_previous h_frame
      · exact ih h_frame h_rest

/-- From the first keyframe of the last run on, the opacity is that of the run. -/
theorem opacityAfter_of_ge {previous first : Keyframe} {before rest : List Keyframe}
    (h_previous : previous.percent.value < first.percent.value)
    (h_before : ∀ frame ∈ before, frame.percent.value < first.percent.value)
    (h_first : first.opacity = o) (h_rest : ∀ frame ∈ rest, frame.opacity = o)
    (ge : first.percent.value ≤ x) : opacityAfter x previous (before ++ first :: rest) = o := by
  induction before generalizing previous with
  | nil =>
      rw [List.nil_append, opacityAfter]
      split
      · rename_i le
        rw [between_right h_previous (le.antisymm ge), h_first]
      · exact opacityAfter_of_forall h_first h_rest
  | cons frame before ih =>
      obtain ⟨h_frame, h_before⟩ := List.forall_mem_cons.1 h_before
      have after : ¬ x ≤ frame.percent.value := by
        have : (frame.percent.value : ℝ) < first.percent.value := by exact_mod_cast h_frame
        linarith
      rw [List.cons_append, opacityAfter, if_neg after]
      exact ih h_frame h_before

variable {track : Track} {appear gone : ℕ} {previous : Mark} {marks : List Mark}

/-- Up to the last keyframe of the first run, the opacity is that of the run. -/
theorem opacityAt_of_le {last : Keyframe} {run rest : List Keyframe}
    (frames : track.frames = run ++ last :: rest) (h_run : ∀ frame ∈ run, frame.opacity = o)
    (h_last : last.opacity = o) (le : x ≤ last.percent.value) : track.opacityAt x = o := by
  rw [opacityAt, frames]
  cases run with
  | nil => exact (if_pos le).trans (congrArg Int.cast h_last)
  | cons first run =>
      obtain ⟨h_first, h_run⟩ := List.forall_mem_cons.1 h_run
      rw [List.cons_append]
      dsimp only
      split
      · exact congrArg Int.cast h_first
      · exact opacityAfter_of_le h_first h_run h_last le

/-- From the first keyframe of the last run on, the opacity is that of the run. -/
theorem opacityAt_of_ge {first : Keyframe} {before rest : List Keyframe}
    (frames : track.frames = before ++ first :: rest) (nonempty : before ≠ [])
    (h_before : ∀ frame ∈ before, frame.percent.value < first.percent.value)
    (h_first : first.opacity = o) (h_rest : ∀ frame ∈ rest, frame.opacity = o)
    (ge : first.percent.value ≤ x) : track.opacityAt x = o := by
  obtain ⟨start, before, rfl⟩ := List.exists_cons_of_ne_nil nonempty
  obtain ⟨h_start, h_before⟩ := List.forall_mem_cons.1 h_before
  have after_start : ¬ x ≤ start.percent.value := by
    have : (start.percent.value : ℝ) < first.percent.value := by exact_mod_cast h_start
    linarith
  rw [opacityAt, frames, List.cons_append]
  refine (if_neg after_start).trans ?_
  exact opacityAfter_of_ge h_start h_before h_first h_rest ge

theorem value_keyframe {mark : Mark} (le : mark.cell ≤ lastCell) :
    mark.keyframe.percent.value = gridValue mark.cell :=
  (measures_gridPercent (le.trans (Nat.le_succ lastCell))).value_eq

/-! ### Groups -/

/-- The keyframes are hidden up to a cell and visible after it. -/
def HiddenUntil (track : Track) (appear : ℕ) : Prop :=
  appear ≤ lastCell ∧ ∃ marks rest, Emerges appear marks ∧
    track.frames = (marks ++ rest).map Mark.keyframe

/-- The keyframes are visible before a cell and hidden from it on. -/
def HiddenFrom (track : Track) (gone : ℕ) : Prop :=
  ∃ appear previous marks, Passes appear gone (previous :: marks) ∧ RunOn previous marks ∧
    track.frames = (previous :: marks).map Mark.keyframe

theorem forall_map_keyframe {marks : List Mark} (h : ∀ mark ∈ marks, mark.opacity = o) :
    ∀ frame ∈ marks.map Mark.keyframe, frame.opacity = o := by
  intro frame mem
  obtain ⟨mark, hm, rfl⟩ := List.mem_map.1 mem
  exact h mark hm

/-- A group is not seen before it appears. -/
theorem HiddenUntil.opacityAt_eq_zero (h : track.HiddenUntil appear) (le : x ≤ gridValue appear) :
    track.opacityAt x = 0 := by
  obtain ⟨inside, _, rest, ⟨lead, shown, rfl, lead_hidden, -⟩, frames⟩ := h
  let last : Mark := ⟨appear, Opacity.hidden⟩
  rw [List.append_assoc, List.cons_append, List.map_append, List.map_cons] at frames
  rw [← Int.cast_zero]
  apply opacityAt_of_le frames (forall_map_keyframe lead_hidden) rfl
  rw [value_keyframe (show last.cell ≤ lastCell from inside)]
  exact le

/-- A group is not seen any more when it is gone. -/
theorem HiddenFrom.opacityAt_eq_zero (h : track.HiddenFrom gone) (ge : gridValue gone ≤ x) :
    track.opacityAt x = 0 := by
  obtain ⟨appear, previous, marks, ⟨seen, rest, eq, emerges, rest_hidden⟩, run, frames⟩ := h
  let first : Mark := ⟨gone, Opacity.hidden⟩
  have inside := run.le
  have ordered := run.pairwise
  rw [eq] at frames inside ordered
  have gone_le : gone ≤ lastCell := inside first (by simp [first])
  have value : first.keyframe.percent.value = gridValue gone := value_keyframe gone_le
  have before : ∀ frame ∈ seen.map Mark.keyframe,
      frame.percent.value < first.keyframe.percent.value := by
    intro frame mem
    obtain ⟨mark, in_seen, rfl⟩ := List.mem_map.1 mem
    have less : mark.cell < gone :=
      (List.pairwise_append.1 ordered).2.2 mark in_seen first List.mem_cons_self
    rw [value, value_keyframe (less.le.trans gone_le)]
    exact gridValue_lt less (gone_le.trans (Nat.le_succ lastCell))
  have nonempty : seen.map Mark.keyframe ≠ [] := by
    obtain ⟨lead, shown, rfl, -⟩ := emerges
    simp
  rw [List.map_append, List.map_cons] at frames
  rw [← Int.cast_zero]
  exact opacityAt_of_ge frames nonempty before rfl (forall_map_keyframe rest_hidden) (value ▸ ge)

/-! ### The ends of the hidden runs -/

/-- The keyframe has this opacity. -/
def shows (o : Int) (frame : Keyframe) : Bool := frame.opacity == o

/-- The last hidden keyframe before the first visible one. -/
def lastHidden? (track : Track) : Option Keyframe :=
  (track.frames.takeWhile (shows Opacity.hidden)).getLast?

/-- The first hidden keyframe after the first visible ones. -/
def firstGone? (track : Track) : Option Keyframe :=
  ((track.frames.dropWhile (shows Opacity.hidden)).dropWhile (shows Opacity.visible)).head?

theorem shows_map_keyframe {marks : List Mark} (h : ∀ mark ∈ marks, mark.opacity = o) :
    ∀ frame ∈ marks.map Mark.keyframe, shows o frame = true :=
  fun frame mem => beq_iff_eq.2 (forall_map_keyframe h frame mem)

theorem not_shows_keyframe {mark : Mark} (h : mark.opacity ≠ o) : ¬ shows o mark.keyframe = true :=
  fun same => h (beq_iff_eq.1 same)

/-- The last frame before the part is seen is the one at which it appears. -/
theorem HiddenUntil.lastHidden?_eq (h : track.HiddenUntil appear) :
    track.lastHidden? = some ⟨gridPercent appear, Opacity.hidden⟩ := by
  obtain ⟨-, _, rest, ⟨lead, shown, rfl, lead_hidden, nonempty, shown_visible⟩, frames⟩ := h
  obtain ⟨first, shown, rfl⟩ := List.exists_cons_of_ne_nil nonempty
  have first_visible := shown_visible first List.mem_cons_self
  let last : Mark := ⟨appear, Opacity.hidden⟩
  have run_hidden : ∀ mark ∈ lead ++ [last], mark.opacity = Opacity.hidden :=
    List.forall_mem_append.2 ⟨lead_hidden, by simp [last]⟩
  have split : track.frames = (lead ++ [last]).map Mark.keyframe ++
      first.keyframe :: (shown ++ rest).map Mark.keyframe := by
    rw [frames]
    simp [last]
  have change : first.opacity ≠ Opacity.hidden := by
    rw [first_visible]
    decide
  rw [lastHidden?, split, List.takeWhile_append_of_pos (shows_map_keyframe run_hidden),
    List.takeWhile_cons_of_neg (not_shows_keyframe change)]
  simp [Mark.keyframe, last]

/-- The first frame after the part was seen is the one at which it is gone. -/
theorem HiddenFrom.firstGone?_eq (h : track.HiddenFrom gone) :
    track.firstGone? = some ⟨gridPercent gone, Opacity.hidden⟩ := by
  obtain ⟨appear, previous, marks, ⟨_, rest, eq, ⟨lead, shown, rfl, lead_hidden, nonempty,
    shown_visible⟩, -⟩, -, frames⟩ := h
  let last : Mark := ⟨appear, Opacity.hidden⟩
  let first : Mark := ⟨gone, Opacity.hidden⟩
  have run_hidden : ∀ mark ∈ lead ++ [last], mark.opacity = Opacity.hidden :=
    List.forall_mem_append.2 ⟨lead_hidden, by simp [last]⟩
  have split : track.frames = (lead ++ [last]).map Mark.keyframe ++
      (shown.map Mark.keyframe ++ first.keyframe :: rest.map Mark.keyframe) := by
    rw [frames, eq]
    simp [last, first]
  have stop : (shown.map Mark.keyframe ++ first.keyframe :: rest.map Mark.keyframe).dropWhile
      (shows Opacity.hidden)
      = shown.map Mark.keyframe ++ first.keyframe :: rest.map Mark.keyframe := by
    obtain ⟨start, tail, rfl⟩ := List.exists_cons_of_ne_nil nonempty
    have change : start.opacity ≠ Opacity.hidden := by
      rw [shown_visible start List.mem_cons_self]
      decide
    exact List.dropWhile_cons_of_neg (not_shows_keyframe change)
  have change : first.opacity ≠ Opacity.visible := by
    simp only [first]
    decide
  rw [firstGone?, split, List.dropWhile_append_of_pos (shows_map_keyframe run_hidden), stop,
    List.dropWhile_append_of_pos (shows_map_keyframe shown_visible),
    List.dropWhile_cons_of_neg (not_shows_keyframe change)]
  rfl

end Track

end TerminalReel
