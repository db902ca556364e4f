import Mathlib.Data.List.Destutter
import TerminalReel.Proofs.Animation.Grid
import TerminalReel.Proofs.Numeric.Extended
/-!
# TerminalReel.Proofs.Animation.Events

What a track makes of its events, **wherever they are**.

The events of an animation lie on the grid and mostly in order; here they may be any
numbers in any order, nan and the infinite ones among them. What becomes of each of
them depends on the keyframe before it alone (`Seats`, `LaysOut`). Two facts carry the
rest: a percentage of the cycle goes up by less than one unit when it is nudged, but it
goes up (`exists_cell_nudge`), and an event is dropped only if it repeats the opacity
that there is.
-/

namespace TerminalReel

open Schedule (percentPlaces)

/-! ### Comparing -/

namespace Number

theorem Place.lt_trans {p q r : Place} (pq : p.lt q = true) (qr : q.lt r = true) :
    p.lt r = true := by
  cases p <;> cases q <;> cases r <;>
    simp_all only [Place.lt, Bool.false_eq_true, decide_eq_true_eq]
  exact pq.trans qr

theorem lt_trans {a b c : Number} (ab : a.lt b = true) (bc : b.lt c = true) :
    a.lt c = true := by
  rw [lt, compares] at *
  generalize a.place? = p at *
  generalize b.place? = q at *
  generalize c.place? = r at *
  rcases p with _ | p <;> rcases q with _ | q <;> rcases r with _ | r <;>
    simp only [Bool.false_eq_true] at ab bc
  exact Place.lt_trans ab bc

end Number

/-! ### The percentages of the cycle -/

/-- A percentage that measures `v` and lies before the end of the cycle, unless it is
the end. -/
def InCycle (percent : Number) (v : ℚ) : Prop :=
  percent.Measures v ∧ (v < 100 ∨ percent = lastPercent)

theorem InCycle.le {percent : Number} {v : ℚ} (h : InCycle percent v) : v ≤ 100 := by
  rcases h.2 with less | rfl
  · exact less.le
  · exact (h.1.unique measures_lastPercent).le

theorem inCycle_firstPercent : InCycle firstPercent 0 :=
  ⟨measures_firstPercent, Or.inl (by norm_num)⟩

theorem inCycle_lastPercent : InCycle lastPercent 100 := ⟨measures_lastPercent, Or.inr rfl⟩

/-- What lies after the beginning and before the end measures something. -/
theorem exists_measures_of_between {n : Number} (after : firstPercent.lt n = true)
    (before : n.lt lastPercent = true) : ∃ v, n.Measures v := by
  have first : firstPercent.place? = some (.quanta 0) := rfl
  obtain ⟨last, at_last, -⟩ := measures_lastPercent.2
  rw [Number.lt, Number.compares, first] at after
  rw [Number.lt, Number.compares, at_last] at before
  cases place : n.place? with
  | none => simp [place] at after
  | some p =>
      rw [place] at after before
      cases p with
      | leftEnd => cases after
      | rightEnd => cases before
      | quanta count =>
          have count_pos : 0 < count := of_decide_eq_true after
          exact ⟨_, Number.measures_of_place place count_pos.le⟩

/-- Inside the cycle nothing is clamped. -/
theorem clampPercent_of_between {n : Number} (after : firstPercent.lt n = true)
    (before : n.lt lastPercent = true) : clampPercent n = n := by
  rw [clampPercent, Number.max, if_pos after, Number.min, if_pos before]

/-- A nan is the beginning. -/
theorem clampPercent_of_nowhere {n : Number} (h : n.place? = none) :
    clampPercent n = firstPercent := by
  rw [firstPercent_eq]
  apply clampPercent_of_not_lt
  rw [Number.lt, Number.compares, h]
  cases firstPercent.place? <;> rfl

/-- Whatever number is clamped, it becomes a percentage of the cycle. -/
theorem exists_inCycle_clampPercent (n : Number) : ∃ v, InCycle (clampPercent n) v := by
  cases after : firstPercent.lt n with
  | false =>
      rw [clampPercent_of_not_lt after, ← firstPercent_eq]
      exact ⟨0, inCycle_firstPercent⟩
  | true =>
      cases before : n.lt lastPercent with
      | false =>
          rw [clampPercent_of_lt after before, ← lastPercent_eq]
          exact ⟨100, inCycle_lastPercent⟩
      | true =>
          obtain ⟨v, measured⟩ := exists_measures_of_between after before
          rw [clampPercent_of_between after before]
          exact ⟨v, measured, Or.inl ((measured.lt_iff measures_lastPercent).1 before)⟩

/-- The next percentage lies on the grid and after the one it comes from, and it is
beyond the end only after the last but one cell. -/
theorem exists_cell_nudge {percent : Number} {v : ℚ} (h : percent.Measures v) (le : v ≤ 100) :
    ∃ cell ≤ lastCell + 1, nudge percent = gridPercent cell ∧ v < gridValue cell ∧
      (lastCell < cell → 999999 / 10000 < v) := by
  obtain ⟨s, sum, nudged⟩ := nudge_of_measures h (le.trans (by norm_num))
  have nonneg := h.nonneg
  have sum := abs_le.1 sum
  rw [percentPlaces_eq] at sum nudged
  norm_num at sum nudged
  have round := abs_le.1 (abs_roundRat_sub_le (show 0 ≤ s * 10000 by linarith))
  generalize roundRat (s * 10000) = cell at round nudged
  have cell_le : cell ≤ lastCell + 1 := by
    have less : (cell : ℚ) < (lastCell + 2 : ℕ) := by
      rw [lastCell_eq]
      push_cast
      linarith
    exact Nat.lt_succ_iff.1 (by exact_mod_cast less)
  have near := abs_le.1 (abs_gridValue_sub_le cell_le)
  rw [percentPlaces_eq] at near
  norm_num at near
  -- Going up by a unit and to the nearest cell leaves half a unit at least.
  refine ⟨cell, cell_le, nudged, by linarith, fun beyond => ?_⟩
  have : ((lastCell + 1 : ℕ) : ℚ) ≤ cell := by exact_mod_cast beyond
  rw [lastCell_eq] at this
  push_cast at this
  linarith

/-! ### What becomes of an event -/

namespace Track

variable {part : Part} {previous event frame : Keyframe} {events laid : List Keyframe} {v : ℚ}

/-- The keyframe of an event after `previous`: at the percentage of the event, clamped,
if that is past `previous`, and otherwise at the next percentage, where a change of
opacity is still seen. -/
structure Seats (previous event frame : Keyframe) : Prop where
  opacity_eq : frame.opacity = event.opacity
  percent_eq : frame.percent =
    if previous.percent.lt (clampPercent event.percent) then clampPercent event.percent
    else nudge previous.percent
  changes : previous.percent.lt (clampPercent event.percent) = false →
    event.opacity ≠ previous.opacity
  asked_le : (clampPercent event.percent).le frame.percent = true
  previous_lt : previous.percent.lt frame.percent = true
  inside : Number.lt 100 frame.percent = false

/-- The keyframes that events after `previous` leave, one after the other: an event that
repeats the opacity and does not move forward is dropped, every other one is kept. -/
inductive LaysOut : Keyframe → List Keyframe → List Keyframe → Prop
  | nil (previous : Keyframe) : LaysOut previous [] []
  | drop {previous event : Keyframe} {rest laid : List Keyframe} :
      event.opacity = previous.opacity →
      (clampPercent event.percent).le previous.percent = true →
      LaysOut previous rest laid → LaysOut previous (event :: rest) laid
  | keep {previous event frame : Keyframe} {rest laid : List Keyframe} :
      Seats previous event frame → LaysOut frame rest laid →
      LaysOut previous (event :: rest) (frame :: laid)

/-- A kept event leads from a percentage of the cycle to a later one. -/
theorem Seats.exists_inCycle (h : Seats previous event frame) (start : InCycle previous.percent v) :
    ∃ w, InCycle frame.percent w ∧ v < w := by
  obtain ⟨u, clamped⟩ := exists_inCycle_clampPercent event.percent
  have percent := h.percent_eq
  have forward := h.previous_lt
  split at percent
  · rw [percent] at forward ⊢
    exact ⟨u, clamped, (start.1.lt_iff clamped.1).1 forward⟩
  · obtain ⟨cell, cell_le, nudged, less, -⟩ := exists_cell_nudge start.1 start.le
    have inside := h.inside
    rw [percent, nudged] at inside ⊢
    refine ⟨gridValue cell, ⟨measures_gridPercent cell_le, ?_⟩, less⟩
    rw [Bool.eq_false_iff, Ne, hundred_lt_gridPercent cell_le, Nat.not_lt] at inside
    rcases inside.lt_or_eq with before | rfl
    · left
      rw [← gridValue_lastCell]
      exact gridValue_lt before (Nat.le_succ lastCell)
    · exact Or.inr lastPercent_eq.symm

theorem LaysOut.exists_inCycle (h : LaysOut previous events laid)
    (start : InCycle previous.percent v) : ∃ w, InCycle (laid.getLastD previous).percent w := by
  induction h generalizing v with
  | nil previous => exact ⟨v, start⟩
  | drop _ _ _ ih => exact ih start
  | keep seats _ ih =>
      obtain ⟨w, later, -⟩ := seats.exists_inCycle start
      rw [List.getLastD_cons]
      exact ih later

/-! ### Laying out events -/

/-- Whether the event moves forward decides what is done with it; where it does not, it
is dropped, pushed or too much. -/
theorem framesAfter_cons (part : Part) (start : InCycle previous.percent v) (event : Keyframe)
    (rest : List Keyframe) :
    (event.opacity = previous.opacity ∧
        (clampPercent event.percent).le previous.percent = true ∧
        framesAfter part previous (event :: rest) = framesAfter part previous rest) ∨
      (∃ frame, Seats previous event frame ∧
        framesAfter part previous (event :: rest) = (frame :: ·) <$> framesAfter part frame rest) ∨
      (event.opacity ≠ previous.opacity ∧ 999999 / 10000 < v ∧
        framesAfter part previous (event :: rest)
          = .error ⟨part, .event previous.percent⟩) := by
  obtain ⟨u, clamped⟩ := exists_inCycle_clampPercent event.percent
  have stays := clamped.1.le_iff start.1
  have moves := start.1.lt_iff clamped.1
  rw [framesAfter]
  dsimp only
  -- The values decide: an event that is not ahead of the last keyframe is dropped or pushed.
  by_cases behind : u ≤ v
  · have waits : previous.percent.lt (clampPercent event.percent) = false :=
      Bool.eq_false_iff.2 (moves.not.2 (not_lt.2 behind))
    rw [if_pos (stays.2 behind)]
    by_cases same : event.opacity = previous.opacity
    · rw [if_pos same]
      exact Or.inl ⟨same, stays.2 behind, rfl⟩
    · rw [if_neg same]
      obtain ⟨cell, cell_le, nudged, less, crowded⟩ := exists_cell_nudge start.1 start.le
      have measured := measures_gridPercent cell_le
      rw [← nudged] at measured
      cases beyond : Number.lt 100 (nudge previous.percent) with
      | true =>
          rw [nudged, hundred_lt_gridPercent cell_le] at beyond
          exact Or.inr (Or.inr ⟨same, crowded beyond, rfl⟩)
      | false =>
          refine Or.inr (Or.inl ⟨⟨nudge previous.percent, event.opacity⟩, ?_, bind_pure_comp _ _⟩)
          exact {
            opacity_eq := rfl
            percent_eq := by rw [waits, if_neg Bool.false_ne_true]
            changes := fun _ => same
            asked_le := (clamped.1.le_iff measured).2 (behind.trans less.le)
            previous_lt := (start.1.lt_iff measured).2 less
            inside := beyond }
  · have forward := moves.2 (not_le.1 behind)
    have here : (clampPercent event.percent).le (clampPercent event.percent) = true :=
      (clamped.1.le_iff clamped.1).2 le_rfl
    have inside : Number.lt 100 (clampPercent event.percent) = false :=
      Bool.eq_false_iff.2 ((measures_hundred.lt_iff clamped.1).not.2 (not_lt.2 clamped.le))
    rw [if_neg (stays.not.2 behind)]
    refine Or.inr (Or.inl ⟨⟨clampPercent event.percent, event.opacity⟩, ?_, bind_pure_comp _ _⟩)
    exact {
      opacity_eq := rfl
      percent_eq := by rw [forward, if_pos rfl]
      changes := fun waits => absurd forward (by rw [waits]; exact Bool.false_ne_true)
      asked_le := here
      previous_lt := forward
      inside }

/-- The events are laid out one after the other up to the end of the cycle, or up to a
change of opacity that comes after the last but one unit of the grid. -/
theorem framesAfter_cases (part : Part) (start : InCycle previous.percent v)
    (events : List Keyframe) :
    (∃ laid, LaysOut previous events laid ∧ framesAfter part previous events
        = .ok (laid ++ closing (laid.getLastD previous))) ∨
      ∃ before event after laid w, events = before ++ event :: after ∧
        LaysOut previous before laid ∧ event.opacity ≠ (laid.getLastD previous).opacity ∧
        (laid.getLastD previous).percent.Measures w ∧ 999999 / 10000 < w ∧
        framesAfter part previous events
          = .error ⟨part, .event (laid.getLastD previous).percent⟩ := by
  -- On the events; the last keyframe changes with every kept one, but stays in the cycle.
  induction events generalizing previous v with
  | nil => exact Or.inl ⟨[], .nil previous, rfl⟩
  | cons event rest ih =>
      rcases framesAfter_cons part start event rest with
        ⟨same, behind, e⟩ | ⟨frame, seats, e⟩ | ⟨changed, crowded, e⟩
      · rw [e]
        rcases ih start with ⟨laid, lays, ok⟩ | ⟨before, late, after, laid, w, rfl, lays, rest⟩
        · exact Or.inl ⟨laid, .drop same behind lays, ok⟩
        · exact Or.inr ⟨event :: before, late, after, laid, w, rfl, .drop same behind lays, rest⟩
      · rw [e]
        obtain ⟨u, later, -⟩ := seats.exists_inCycle start
        rcases ih later with ⟨laid, lays, ok⟩ |
          ⟨before, late, after, laid, w, rfl, lays, changed, measured, crowded, error⟩
        · exact Or.inl ⟨frame :: laid, .keep seats lays, by rw [ok, List.getLastD_cons]; rfl⟩
        · refine Or.inr ⟨event :: before, late, after, frame :: laid, w, rfl, .keep seats lays, ?_⟩
          rw [List.getLastD_cons, error]
          exact ⟨changed, measured, crowded, rfl⟩
      · exact Or.inr ⟨[], event, rest, [], v, rfl, .nil previous, changed, start.1, crowded, e⟩

/-! ### What the keyframes are -/

theorem closing_eq_nil {last : Keyframe} (h : last.percent.lt 100 = false) : closing last = [] := by
  rw [closing, h, if_neg Bool.false_ne_true]

theorem closing_eq_singleton {last : Keyframe} (h : last.percent.lt 100 = true) :
    closing last = [⟨lastPercent, last.opacity⟩] := by
  rw [closing, if_pos h]

/-- The keyframes end at the end of the cycle, and pass strictly forward to it. -/
theorem LaysOut.isChain (h : LaysOut previous events laid) (start : InCycle previous.percent v) :
    (previous :: (laid ++ closing (laid.getLastD previous))).IsChain
        (fun a b => a.percent.lt b.percent = true) ∧
      ((laid ++ closing (laid.getLastD previous)).getLastD previous).percent = lastPercent := by
  induction h generalizing v with
  | nil previous =>
      -- The end of the cycle is added, unless the last keyframe is there already.
      rcases start.2 with before | last
      · have unfinished : previous.percent.lt 100 = true :=
          (start.1.lt_iff measures_hundred).2 before
        have forward := (start.1.lt_iff measures_lastPercent).2 before
        rw [List.nil_append, List.getLastD_nil, closing_eq_singleton unfinished]
        exact ⟨List.isChain_cons_cons.2 ⟨forward, List.isChain_singleton _⟩, rfl⟩
      · have finished : previous.percent.lt 100 = false := by
          rw [last, Bool.eq_false_iff, Ne, measures_lastPercent.lt_iff measures_hundred]
          exact lt_irrefl 100
        rw [List.nil_append, List.getLastD_nil, closing_eq_nil finished]
        exact ⟨List.isChain_singleton _, last⟩
  | drop _ _ _ ih => exact ih start
  | keep seats _ ih =>
      obtain ⟨w, later, -⟩ := seats.exists_inCycle start
      obtain ⟨chain, last⟩ := ih later
      rw [List.cons_append, List.getLastD_cons, List.getLastD_cons]
      exact ⟨List.isChain_cons_cons.2 ⟨seats.previous_lt, chain⟩, last⟩

/-- Up to repetitions the opacities of the keyframes are those of the events: a dropped
event repeats the opacity, a kept one has its own, and the end of the cycle repeats the
last. -/
theorem LaysOut.destutter'_opacity (h : LaysOut previous events laid) :
    ((laid ++ closing (laid.getLastD previous)).map (·.opacity)).destutter' (· ≠ ·)
        previous.opacity
      = (events.map (·.opacity)).destutter' (· ≠ ·) previous.opacity := by
  induction h with
  | nil previous =>
      rw [List.nil_append, List.getLastD_nil]
      cases unfinished : previous.percent.lt 100 with
      | false => rw [closing_eq_nil unfinished]
      | true => simp [closing_eq_singleton unfinished]
  | drop same _ _ ih =>
      rw [ih, List.map_cons, List.destutter'_cons_neg _ (by simp [same])]
  | @keep previous event frame rest laid seats _ ih =>
      rw [List.getLastD_cons, List.cons_append, List.map_cons, List.map_cons, ← seats.opacity_eq]
      by_cases same : previous.opacity = frame.opacity
      · rw [List.destutter'_cons_neg _ (not_not.2 same),
          List.destutter'_cons_neg _ (not_not.2 same), same, ih]
      · rw [List.destutter'_cons_pos _ same, List.destutter'_cons_pos _ same, ih]

/-- Whatever the events of a part are, they are laid out on a track that passes strictly
forward from the beginning of the cycle, with the initial opacity, to its end, and that
shows the changes of the events, no more, no fewer and in their order; or a change comes
when the track has passed `99.9999` percent, and there is no room for it. A nan stands
for the beginning. -/
theorem ofEvents_lays_out (part : Part) (initial : Int) (events : List Keyframe) :
    (∀ n : Number, n.place? = none → clampPercent n = firstPercent) ∧
      ((∃ track laid, ofEvents part initial events = .ok track ∧
          LaysOut ⟨firstPercent, initial⟩ events laid ∧
          track.name = part.keyframesName ∧
          track.frames = ⟨firstPercent, initial⟩ ::
            (laid ++ closing (laid.getLastD ⟨firstPercent, initial⟩)) ∧
          track.frames.Pairwise (fun a b => a.percent.lt b.percent = true) ∧
          (track.frames.getLast?.map (·.percent)) = some lastPercent ∧
          (track.frames.map (·.opacity)).destutter (· ≠ ·)
            = (initial :: events.map (·.opacity)).destutter (· ≠ ·)) ∨
        ∃ before event after laid v, events = before ++ event :: after ∧
          LaysOut ⟨firstPercent, initial⟩ before laid ∧
          event.opacity ≠ (laid.getLastD ⟨firstPercent, initial⟩).opacity ∧
          (laid.getLastD ⟨firstPercent, initial⟩).percent.Measures v ∧ 999999 / 10000 < v ∧
          ofEvents part initial events
            = .error ⟨part, .event (laid.getLastD ⟨firstPercent, initial⟩).percent⟩) := by
  refine ⟨fun n => clampPercent_of_nowhere, ?_⟩
  -- The track begins in the cycle, and no event leads out of it.
  have start : InCycle (⟨firstPercent, initial⟩ : Keyframe).percent 0 := inCycle_firstPercent
  rcases framesAfter_cases part start events with ⟨laid, lays, ok⟩ |
    ⟨before, event, after, laid, v, split, lays, changed, measured, crowded, error⟩
  · left
    obtain ⟨chain, last⟩ := lays.isChain start
    have trans : IsTrans Keyframe (fun a b => a.percent.lt b.percent = true) :=
      ⟨fun _ _ _ => Number.lt_trans⟩
    refine ⟨⟨part.keyframesName, _⟩, laid, ?_, lays, rfl, rfl, List.isChain_iff_pairwise.1 chain,
      ?_, ?_⟩
    · rw [ofEvents]
      exact bind_eq_ok.2 ⟨_, ok, rfl⟩
    · rw [List.getLastD_eq_getLast?] at last
      rw [List.getLast?_cons, Option.map_some, last]
    · exact lays.destutter'_opacity
  · right
    refine ⟨before, event, after, laid, v, split, lays, changed, measured, crowded, ?_⟩
    rw [ofEvents, error]
    rfl

end Track

end TerminalReel
