import Mathlib.Data.List.Infix
import Mathlib.Data.List.TakeWhile
import TerminalReel.Json.Reader
import TerminalReel.Proofs.Numeric.Plain
/-!
# TerminalReel.Proofs.Json.Bare

What stands in a text **outside of strings**, and how far it goes.

Brackets and numerals count there only. A text is within bounds if no more than so many
brackets are open at once and no run of digits is longer than some limit (`Within`). Both
bounds are carried over a reader by what it takes off the front: a piece without brackets
leaves them as they are, and a bracket moves the first one by one.
-/

namespace TerminalReel

namespace Json

/-! ### Outside of strings -/

/-- What a character of a text is inside of. -/
inductive Inside
  | nothing
  | string

/-- The characters of a text that stand outside of strings. -/
def bareFrom : Inside → List Char → List Char
  | .nothing, c :: rest =>
    if c = '"' then bareFrom .string rest else c :: bareFrom .nothing rest
  | .string, '\\' :: _ :: rest => bareFrom .string rest
  | .string, c :: rest => bareFrom (if c = '"' then .nothing else .string) rest
  | _, [] => []

/-- The characters of a text that stand outside of strings. -/
def bare (cs : List Char) : List Char := bareFrom .nothing cs

/-- The character begins no string. -/
def isBare (c : Char) : Bool := c != '"'

variable {c : Char} {cs piece rest : List Char}

theorem bare_cons (h : isBare c = true) (rest : List Char) : bare (c :: rest) = c :: bare rest := by
  rw [bare, bareFrom, if_neg (bne_iff_ne.1 h), bare]

/-- A piece without quotes stands outside of strings as it is. -/
theorem bare_append (h : ∀ c ∈ piece, isBare c = true) (rest : List Char) :
    bare (piece ++ rest) = piece ++ bare rest := by
  induction piece with
  | nil => rfl
  | cons c more ih =>
      obtain ⟨first, later⟩ := List.forall_mem_cons.1 h
      rw [List.cons_append, bare_cons first, ih later, List.cons_append]

theorem bare_quote (rest : List Char) : bare ('"' :: rest) = bareFrom .string rest := rfl

/-! ### Bounds -/

/-- The character opens a container. -/
def opens (c : Char) : Bool := c == '[' || c == '\x7b'

/-- The character closes a container. -/
def closes (c : Char) : Bool := c == ']' || c == '\x7d'

theorem isBare_of_bracket (h : opens c = true ∨ closes c = true) : isBare c = true := by
  simp only [opens, closes, Bool.or_eq_true, beq_iff_eq] at h
  rcases h with (rfl | rfl) | (rfl | rfl) <;> decide

theorem opens_of_closes (h : closes c = true) : opens c = false := by
  simp only [closes, Bool.or_eq_true, beq_iff_eq] at h
  rcases h with rfl | rfl <;> decide

/-- No more than this many brackets are open at once. -/
def nests : Nat → List Char → Bool
  | _, [] => true
  | room, c :: rest =>
    if opens c then 0 < room && nests (room - 1) rest
    else nests (if closes c then room + 1 else room) rest

/-- Outside of strings no more than `room` brackets are open at once, and no run of digits
is longer than `digits`. -/
structure Within (digits room : Nat) (cs : List Char) : Prop where
  nesting : nests room (bare cs) = true
  numerals : ∀ run, run <:+: bare cs → (∀ c ∈ run, c.isDigit = true) → run.length ≤ digits

/-- What was taken off the front of a text opens and closes no container. -/
def Passes (cs rest : List Char) : Prop :=
  ∃ piece, bare cs = piece ++ bare rest ∧ ∀ c ∈ piece, opens c = false ∧ closes c = false

/-- A piece without brackets takes up no place. -/
theorem nests_append (h : ∀ c ∈ piece, opens c = false ∧ closes c = false) (room : Nat)
    (rest : List Char) : nests room (piece ++ rest) = nests room rest := by
  induction piece with
  | nil => rfl
  | cons c more ih =>
      obtain ⟨⟨open_off, close_off⟩, later⟩ := List.forall_mem_cons.1 h
      rw [List.cons_append, nests, open_off, close_off]
      exact ih later

variable {digits room : Nat} {next : List Char}

namespace Passes

theorem refl (cs : List Char) : Passes cs cs := ⟨[], rfl, List.forall_mem_nil _⟩

theorem trans (h : Passes cs next) (h' : Passes next rest) : Passes cs rest := by
  obtain ⟨first, split, plain⟩ := h
  obtain ⟨second, split', plain'⟩ := h'
  refine ⟨first ++ second, ?_, List.forall_mem_append.2 ⟨plain, plain'⟩⟩
  rw [split, split', List.append_assoc]

/-- A character that is none of the marks may be in what is passed. -/
def isPassed (c : Char) : Bool := isBare c && !opens c && !closes c

/-- The quote and the brackets. -/
def marks : String := "\"[\x7b]\x7d"

theorem mem_marks_of_not_isPassed (h : ¬isPassed c = true) : c ∈ marks.toList := by
  simp only [isPassed, isBare, opens, closes, Bool.and_eq_true, Bool.not_eq_true',
    Bool.or_eq_false_iff, bne_iff_ne, beq_eq_false_iff_ne, not_and_or, not_not, or_assoc] at h
  rcases h with rfl | rfl | rfl | rfl | rfl <;> decide

/-- Characters of a kind to which no mark belongs may be in what is passed. -/
theorem isPassed_of_test {test : Char → Bool} (none : Consists (!test ·) marks)
    (h : test c = true) : isPassed c = true := by
  by_contra mark
  have off : (!test c) = true := none c (mem_marks_of_not_isPassed mark)
  rw [h] at off
  cases off

theorem isPassed_iff :
    isPassed c = true ↔ isBare c = true ∧ opens c = false ∧ closes c = false := by
  simp only [isPassed, Bool.and_eq_true, Bool.not_eq_true', and_assoc]

theorem isBare_of_isPassed (h : isPassed c = true) : isBare c = true := (isPassed_iff.1 h).1

/-- A piece of which each character is passed is passed. -/
theorem of_append (h : ∀ c ∈ piece, isPassed c = true) (rest : List Char) :
    Passes (piece ++ rest) rest :=
  ⟨piece, bare_append (fun c mem => isBare_of_isPassed (h c mem)) rest,
    fun c mem => (isPassed_iff.1 (h c mem)).2⟩

theorem cons (h : isPassed c = true) (rest : List Char) : Passes (c :: rest) rest := by
  have single : ∀ c' ∈ [c], isPassed c' = true := List.forall_mem_singleton.2 h
  exact of_append single rest

theorem dropWhile {test : Char → Bool} (h : ∀ c, test c = true → isPassed c = true)
    (cs : List Char) : Passes cs (cs.dropWhile test) := by
  have taken : ∀ c ∈ cs.takeWhile test, isPassed c = true :=
    fun c mem => h c (List.mem_takeWhile_imp mem)
  have passes := of_append taken (cs.dropWhile test)
  rwa [List.takeWhile_append_dropWhile] at passes

end Passes

namespace Within

/-- What is left behind a piece that is passed is within the same bounds. -/
theorem passes (h : Within digits room cs) (taken : Passes cs rest) : Within digits room rest := by
  obtain ⟨piece, split, plain⟩ := taken
  refine ⟨?_, fun run infix_run => h.numerals run ?_⟩
  · rw [← nests_append plain, ← split]
    exact h.nesting
  · rw [split]
    exact infix_run.trans (List.suffix_append piece _).isInfix

/-- A bracket that opens takes up one place. -/
theorem opened (h : Within digits room (c :: rest)) (opening : opens c = true) :
    ∃ inner, room = inner + 1 ∧ Within digits inner rest := by
  have own := bare_cons (isBare_of_bracket (.inl opening)) rest
  have nesting := h.nesting
  rw [own, nests, if_pos opening, Bool.and_eq_true, decide_eq_true_eq] at nesting
  refine ⟨room - 1, by omega, nesting.2, fun run infix_run => h.numerals run ?_⟩
  rw [own]
  exact infix_run.trans (List.suffix_cons c _).isInfix

/-- A bracket that closes gives one back. -/
theorem closed (h : Within digits room (c :: rest)) (closing : closes c = true) :
    Within digits (room + 1) rest := by
  have own := bare_cons (isBare_of_bracket (.inr closing)) rest
  have nesting := h.nesting
  rw [own, nests, opens_of_closes closing, if_neg Bool.false_ne_true, if_pos closing] at nesting
  refine ⟨nesting, fun run infix_run => h.numerals run ?_⟩
  rw [own]
  exact infix_run.trans (List.suffix_cons c _).isInfix

end Within

end Json

end TerminalReel
