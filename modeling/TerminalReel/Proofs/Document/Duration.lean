import TerminalReel.Proofs.Agreement
import TerminalReel.Proofs.Json.Characters
import TerminalReel.Proofs.Numeric.ReadBack
import TerminalReel.Proofs.Schedule.Finite
/-!
# TerminalReel.Proofs.Document.Duration

**How long the cycle is**, as a document tells it.

It tells it twice: in seconds in an attribute of the drawing, for whoever captures the
frames, and in milliseconds in every rule of the style sheet. The attribute is looked for
as such a reader looks for it, by the first place in the file where its name stands. No
text of the configuration comes before that, only the numbers of the size, and these lack
a letter of the name.
-/

namespace TerminalReel

open Markup

/-! ### Looking for a mark -/

section Search

variable {α : Type} [BEq α] [LawfulBEq α] {before mark rest : List α} {c d : α}

theorem dropInfix?_of_first (first : ∀ front behind,
    before ++ mark ++ rest = front ++ mark ++ behind → before.length ≤ front.length) :
    (before ++ mark ++ rest).dropInfix? mark = some (before, rest) :=
  List.dropInfix?_eq_some_iff.2 ⟨⟨mark, rfl, BEq.rfl⟩, fun front _ behind same alike =>
    first front behind (eq_of_beq alike ▸ same)⟩

/-- A text without the first character of a mark holds no beginning of it. -/
theorem dropInfix?_of_not_mem (absent : c ∉ before) :
    (before ++ c :: mark ++ rest).dropInfix? (c :: mark) = some (before, rest) := by
  refine dropInfix?_of_first fun front behind same => ?_
  rw [List.append_assoc, List.append_assoc] at same
  rcases List.append_eq_append_iff.1 same with ⟨between, rfl, -⟩ | ⟨between, rfl, begins⟩
  · simp
  · cases between with
    | nil => simp
    | cons first others =>
        obtain ⟨rfl, -⟩ := List.cons.inj begins
        exact absurd (List.mem_append_right _ List.mem_cons_self) absent

/-- A text without some character of a mark does not hold it, and where it is separated
from what follows by a character that the mark does not have, no part of the mark can
stand on both sides. -/
theorem dropInfix?_of_separated (mem : c ∈ mark) (absent : c ∉ before) (separates : d ∉ mark) :
    (before ++ [d] ++ mark ++ rest).dropInfix? mark = some (before ++ [d], rest) := by
  refine dropInfix?_of_first fun front behind same => ?_
  have split : front ++ (mark ++ behind) = before ++ (d :: (mark ++ rest)) := by
    simpa using same.symm
  rcases List.append_eq_append_iff.1 split with ⟨between, rfl, begins⟩ | ⟨between, rfl, begins⟩
  · -- The mark begins before the separator, and would have to reach over it.
    rcases List.append_eq_append_iff.1 begins with ⟨others, rfl, -⟩ | ⟨others, rfl, begins⟩
    · simp [mem] at absent
    · cases others with
      | nil => simp_all
      | cons first others =>
          obtain ⟨rfl, -⟩ := List.cons.inj begins
          simp at separates
  · cases between with
    | nil =>
        -- It would begin with the separator.
        cases mark with
        | nil => cases mem
        | cons first others =>
            obtain ⟨rfl, -⟩ := List.cons.inj begins
            exact absurd List.mem_cons_self separates
    | cons first others => simp

end Search

/-- What stands in a text between the first place of one mark and the next of another. -/
def Text.between? (text opening closing : Text) : Option Text := do
  let (_, rest) ← text.points.dropInfix? opening.points
  let (inside, _) ← rest.dropInfix? closing.points
  return ⟨inside⟩

/-! ### The attribute of the drawing -/

namespace Markup

/-- The character stands for itself in a document. -/
def isUnescaped (c : Char) : Bool := escapeChar c == [c]

theorem isUnescaped_of_isDigit {c : Char} (digit : c.isDigit = true) : isUnescaped c = true := by
  unfold isUnescaped escapeChar
  split <;> first | cases digit | simp

theorem escape_ofString {s : String} (clean : Consists isUnescaped s) :
    escape (Text.ofString s) = Text.ofString s := by
  have each : ∀ c ∈ s.toList, escapeChar c = [c] := fun c mem => eq_of_beq (clean c mem)
  have expanded : escape (Text.ofString s) = Text.ofChars (s.toList.flatMap escapeChar) := by
    ext1
    simp [escape, Text.expand, List.flatMap_map, List.map_flatMap]
  rw [expanded, List.flatMap_congr each, List.flatMap_singleton']
  rfl

theorem unescaped_text (n : Number) : Consists isUnescaped n.text :=
  Json.consists_text (fun _ => isUnescaped_of_isDigit) (by decide) (by decide) n

theorem renderAttribute_ofString {value : String} (clean : Consists isUnescaped value)
    (name : String) : renderAttribute name (Text.ofString value)
      = Text.ofString (" " ++ name ++ "=\"" ++ value ++ "\"") := by
  rw [renderAttribute, escape_ofString clean, ← Text.ofString_append, ← Text.ofString_append]

end Markup

namespace Drawing

/-- The attributes of a drawing that stand before the length of the cycle. -/
def sizeAttributes (width height : String) : Attributes :=
  [("width", "100%"), ("height", "100%"), ("viewBox", s!"0 0 {width} {height}"),
   ("xmlns", "http://www.w3.org/2000/svg")]

theorem attributes_eq (timeline : Timeline) (width height : String) :
    attributes timeline width height = sizeAttributes width height ++
      (("data-duration", Text.ofString (timeline.total.text ++ "s")) ::
        [("preserveAspectRatio", Text.ofString "xMidYMid meet")]) := rfl

/-- What the file of a drawing begins with. -/
def opening (width height : String) : List CodePoint :=
  (Text.ofString ("<" ++ "?xml version=\"1.0\" encoding=\"UTF-8\"?" ++ ">")).points ++
    .char '\n' :: (Text.ofString ("<" ++ "svg") ++
      renderAttributes (sizeAttributes width height)).points

/-- The name of the length of the cycle, and all up to its value. -/
def durationMark : Text := "data-duration=\""

/-- What stands behind the length of the cycle: its unit and the end of the attribute. -/
def unitMark : Text := "s\""

/-- The length of the cycle stands in the file of a drawing between its marks. -/
theorem exists_points (timeline : Timeline) (width height : String) (children : List Block) :
    ∃ rest, (Document.renderSvg (.element "svg" (attributes timeline width height)
        children)).points
      = opening width height ++ [.char ' '] ++ durationMark.points ++
        ((Text.ofString timeline.total.text).points ++ unitMark.points ++ rest) := by
  have clean : Consists isUnescaped (timeline.total.text ++ "s") :=
    (unescaped_text timeline.total).append (by decide)
  have duration : renderAttribute "data-duration" (Text.ofString (timeline.total.text ++ "s"))
      = ⟨[.char ' ']⟩ ++ durationMark ++ Text.ofString timeline.total.text ++ unitMark := by
    rw [renderAttribute_ofString clean]
    ext1
    simp [durationMark, unitMark]
  refine ⟨(renderAttributes [("preserveAspectRatio", Text.ofString "xMidYMid meet")]
    ++ Text.ofString ">").points
    ++ continued (blockLines 1 children ++ [indent 0 ++ closeTag "svg"]), ?_⟩
  rw [Document.renderSvg_eq, Block.lines, List.cons_append, points_joinLines, continued,
    List.flatMap_cons, ← continued, tag, attributes_eq, renderAttributes_append,
    renderAttributes_cons, duration, opening]
  simp only [Text.points_append, List.append_assoc, List.cons_append, List.nil_append]
  rfl

/-- What stands before the length of the cycle is written without a letter of its name. -/
theorem not_mem_opening (width height : Number) :
    .char 'u' ∉ opening width.text height.text := by
  have number := Json.text_lacks (c := 'u') rfl (by decide) (by decide)
  have literal {value : String} (value_lacks : Consists (· != 'u') value) :
      .char 'u' ∉ (Text.ofString value).points := not_mem_points value_lacks rfl
  have sizes {test : Char → Bool} (width_text : Consists test width.text)
      (height_text : Consists test height.text) (zeros : Consists test "0 0 ") :
      Consists test ("0 0 " ++ width.text ++ " " ++ height.text) := by
    have space : Consists test " " := fun c mem => zeros c (by simp_all)
    exact ((zeros.append width_text).append space).append height_text
  have lacks {value : String} (name : String) (clean : Consists isUnescaped value)
      (name_lacks : Consists (· != 'u') (" " ++ name ++ "=\""))
      (value_lacks : Consists (· != 'u') value) :
      .char 'u' ∉ (renderAttribute name (Text.ofString value)).points := by
    rw [renderAttribute_ofString clean]
    exact literal ((name_lacks.append value_lacks).append (by decide))
  have box := lacks "viewBox"
    (sizes (unescaped_text width) (unescaped_text height) (by decide)) (by decide)
    (sizes (number width) (number height) (by decide))
  simp only [opening, sizeAttributes, renderAttributes_cons, Text.points_append, List.mem_append,
    List.mem_cons, not_or]
  refine ⟨literal (by decide), by decide, literal (by decide), ?_, ?_, box, ?_, by decide⟩
  · exact lacks "width" (by decide) (by decide) (by decide)
  · exact lacks "height" (by decide) (by decide) (by decide)
  · exact lacks "xmlns" (by decide) (by decide) (by decide)

/-- The length of the cycle is what stands between its marks, as it is written. -/
theorem between?_renderSvg (timeline : Timeline) (width height : Number) (children : List Block) :
    (Document.renderSvg (.element "svg" (attributes timeline width.text height.text)
        children)).between? durationMark unitMark = some (Text.ofString timeline.total.text) := by
  have number := Json.text_lacks (c := 's') rfl (by decide) (by decide) timeline.total
  have letter : CodePoint.char 'u' ∈ durationMark.points := by decide
  have no_space : CodePoint.char ' ' ∉ durationMark.points := by decide
  have unit : unitMark.points = .char 's' :: [.char '"'] := by decide
  obtain ⟨rest, points⟩ := exists_points timeline width.text height.text children
  rw [Text.between?, points, dropInfix?_of_separated letter (not_mem_opening width height) no_space,
    Option.bind_eq_bind, Option.bind_some]
  dsimp only
  rw [unit, dropInfix?_of_not_mem (not_mem_points number rfl)]
  rfl

end Drawing

/-! ### The rules of the style sheet -/

namespace Style

/-- How long the animation takes that a rule plays, if it plays one. -/
def Item.duration? (item : Item) : Option String := item.playback?.bind (·[1]?)

/-- There is a rule for each part, and all are played in the same time. -/
theorem filterMap_duration? (loop : Bool) (duration : String) (parts : List AnimatedPart) :
    (inheritRule :: (parts.map (fun animated => .keyframes animated.track.name) ++
      parts.map (ruleItem loop duration))).filterMap Item.duration?
      = List.replicate parts.length (duration ++ "ms") := by
  have inherit : inheritRule.duration? = none := by decide
  have blocks : parts.filterMap (fun animated => (Item.keyframes animated.track.name).duration?)
      = [] := List.filterMap_eq_nil_iff.2 fun _ _ => rfl
  have rules : parts.filterMap (fun animated => (ruleItem loop duration animated).duration?)
      = List.replicate parts.length (duration ++ "ms") := by
    have each (animated : AnimatedPart) :
        (ruleItem loop duration animated).duration? = some (duration ++ "ms") := by
      rw [Item.duration?, playback?_ruleItem]
      rfl
    simp [each]
  rw [List.filterMap_cons_none inherit, List.filterMap_append, List.filterMap_map,
    List.filterMap_map]
  exact congrArg₂ (· ++ ·) blocks rules

end Style

/-! ### Documents -/

/-- A cycle that lasts a finite number of milliseconds lasts a finite number of seconds, and
some time. -/
theorem Timeline.exists_length {config : Config} {forceLoop : Bool} {timeline : Timeline}
    {ms : Binary64} (compiled : (compile config forceLoop).outcome = .ok timeline)
    (length : timeline.cycleMs = .ok (.float ms)) (finite : ms.isFinite = true) :
    ∃ m y, timeline.total = .float (.finite false m) ∧ (Number.float ms).Measures y ∧ 0 < y := by
  obtain ⟨placed, -, checked, places, totals, -⟩ := compile_eq_ok compiled
  obtain ⟨x, total⟩ := total_eq_float totals
  obtain ⟨thousand, operand, thousand_measures⟩ :=
    Number.exists_operand (Number.measures_natCast 1000) (by norm_num)
  have product : ms = x.mul thousand := by
    rw [cycleMs, total] at length
    exact Number.float.inj (Except.ok.inj (length.symm.trans (Number.mul_float_of_operand operand)))
  rcases Schedule.Timed.nonneg_total checked places totals with ⟨T, hT⟩ | endless
  · have pos : 0 < T := hT.nonneg.lt_of_ne fun zero =>
      Schedule.not_measures_zero_of_totalDuration checked places totals (zero ▸ hT)
    rw [total] at hT
    obtain ⟨m, rfl, -⟩ := hT.exists_positive pos
    have rounded := Number.isRounded_mul hT thousand_measures
    rw [← product] at rounded
    rcases rounded with measures | ⟨beyond, -⟩
    · refine ⟨m, _, total, measures, pos.trans_le ?_⟩
      rw [Nat.cast_ofNat]
      calc T = nearest T := hT.nearest_float.symm
        _ ≤ nearest (T * 1000) := nearest_mono (le_mul_of_one_le_right pos.le (by norm_num))
    · rw [Number.float.inj beyond] at finite
      cases finite
  · rw [product, Number.float.inj (total.symm.trans endless),
      thousand_measures.infinite_mul (by norm_num)] at finite
    cases finite

namespace Document

open Style

/-- The document tells the length of the cycle, which lasts so many milliseconds. -/
structure TellsLength (document : Document) (ms : Binary64) : Prop where
  /-- The drawing has the length in seconds between the name of the attribute and the unit:
  the shortest decimal that is rounded to it. -/
  seconds : ∃ text x, document.svg.between? "data-duration=\"" "s\"" = some (Text.ofString text) ∧
    document.timeline.total = .float x ∧ x.IsSpelledBy text
  /-- The drawing has one style sheet, and each of its rules for a part has the same length:
  the multiple of a ten thousandth that is nearest to the milliseconds. -/
  milliseconds : ∃ (sheet duration : String) (units : ℕ) (y : ℚ),
    contents "style" document.svg = [Text.ofString sheet] ∧
    (items sheet).filterMap Item.duration?
      = List.replicate document.timeline.parts.length (duration ++ "ms") ∧
    readDecimal? duration.toList = some ((units : ℚ) / 10 ^ 4) ∧
    (Number.float ms).Measures y ∧ IsNearestWhole units (y * 10 ^ 4)

variable {config : Config} {stem : Text} {forceLoop : Bool} {document : Document} {ms : Binary64}

/-- A document tells the length of its cycle, where that is a finite number of milliseconds. -/
theorem build_tells_length (h : (build config stem forceLoop).outcome = .ok document)
    (length : document.timeline.cycleMs = .ok (.float ms)) (finite : ms.isFinite = true) :
    document.TellsLength ms := by
  obtain ⟨drawing, -, compiled, drawn, -, svg, -⟩ := build_eq_ok h
  obtain ⟨m, y, total, measures, pos⟩ := Timeline.exists_length compiled length finite
  constructor
  · obtain ⟨width, height, css, groups, wide, high, -, -, rfl⟩ := Drawing.tree_eq_ok drawn
    obtain rfl := Number.text_of_fullText wide
    obtain rfl := Number.text_of_fullText high
    refine ⟨_, _, ?_, total, Binary64.isSpelledBy_plain m⟩
    have found := Drawing.between?_renderSvg document.timeline config.width config.height
      (.element "style" [] [.verbatim css] :: Drawing.background config config.width.text
        config.height.text :: groups.flatten)
    rwa [← svg, total] at found
  · obtain ⟨css, printed, sheet⟩ := contents_style_tree compiled drawn
    obtain ⟨ms', duration, length', compact, read⟩ := Timeline.items_css compiled printed
    obtain rfl := Except.ok.inj (length.symm.trans length')
    obtain ⟨text, units, written, decimal, near⟩ := Number.exists_compact measures pos
    obtain rfl := Except.ok.inj (compact.symm.trans written)
    refine ⟨_, duration, units, y, svg ▸ sheet, ?_, decimal, measures, near⟩
    rw [read, filterMap_duration?]

/-- A step that is held for a fraction of a second that has no end in binary digits. -/
def unevenSteps : Config where
  steps := [{ lines := ["x"], timing := { hold := .float (.ofFraction 12345678 100000000) } }]

theorem build_tells_length_unevenSteps : ∃ document ms,
    (build unevenSteps).outcome = .ok document ∧
      document.timeline.cycleMs = .ok (.float ms) ∧ ms.isFinite = true ∧
      document.TellsLength ms := by
  have built : (build unevenSteps).outcome.toOption.any (fun document =>
      document.timeline.cycleMs.toOption.any fun
        | .float ms => ms.isFinite
        | .int _ => false) = true := by
    decide +kernel
  obtain ⟨document, built, timed⟩ := exists_of_any built
  obtain ⟨n, length, finite⟩ := exists_of_any timed
  cases n with
  | int n => cases finite
  | float ms => exact ⟨document, ms, built, length, finite, build_tells_length built length finite⟩

end Document

end TerminalReel
