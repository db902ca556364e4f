import TerminalReel.Proofs.Numeric.Numeral
/-!
# TerminalReel.Proofs.Numeric.Plain

**Plain strings**: letters, digits, hyphens and points, and nothing else.

Names and numerals are plain, whatever they name or count. A plain string holds none
of the characters that a document or a style sheet gives a meaning to.
-/

namespace TerminalReel

/-- What holds of nothing, of the separator and of each part, and of one text after
another if it holds of both, holds of the parts with the separator between them. -/
theorem intercalate_induction {P : List Char → Prop} {s : String} {parts : List String}
    (nil : P []) (append : ∀ {a b}, P a → P b → P (a ++ b)) (separator : P s.toList)
    (each : ∀ part ∈ parts, P part.toList) : P (String.intercalate s parts).toList := by
  rw [String.toList_intercalate]
  induction parts with
  | nil => exact nil
  | cons first rest ih =>
      obtain ⟨here, there⟩ := List.forall_mem_cons.1 each
      cases rest with
      | nil => simpa using here
      | cons second others =>
          rw [List.map_cons, List.map_cons, List.intercalate_cons_cons]
          exact append (append here separator) (ih there)

/-- Every character of the string passes the test. -/
def Consists (test : Char → Bool) (s : String) : Prop := ∀ c ∈ s.toList, test c = true

namespace Consists

variable {test test' : Char → Bool} {a b s : String}

instance : Decidable (Consists test s) := decidable_of_iff (s.toList.all test) List.all_eq_true

theorem append (ha : Consists test a) (hb : Consists test b) : Consists test (a ++ b) := by
  intro c mem
  rw [String.toList_append] at mem
  exact (List.mem_append.1 mem).elim (ha c) (hb c)

theorem intercalate {parts : List String} (hs : Consists test s)
    (each : ∀ part ∈ parts, Consists test part) : Consists test (String.intercalate s parts) :=
  intercalate_induction (P := fun cs => ∀ c ∈ cs, test c = true) (by simp)
    (fun ha hb => List.forall_mem_append.2 ⟨ha, hb⟩) hs each

theorem mono (ha : Consists test a) (weaker : ∀ c, test c = true → test' c = true) :
    Consists test' a :=
  fun c mem => weaker c (ha c mem)

/-- The string holds no character that fails the test. -/
theorem not_mem (ha : Consists test a) {c : Char} (other : test c = false) : c ∉ a.toList := by
  intro mem
  rw [ha c mem] at other
  cases other

end Consists

/-- A letter, a digit, a hyphen or a point. -/
def isPlain (c : Char) : Bool := c.isAlphanum || c == '-' || c == '.'

/-- A string of plain characters. -/
abbrev Plain (s : String) : Prop := Consists isPlain s

theorem isPlain_of_isDigit {c : Char} (h : c.isDigit = true) : isPlain c = true := by
  simp [isPlain, Char.isAlphanum, h]

theorem plain_natRepr (n : ℕ) : Plain (toString n) := by
  intro c mem
  rw [Nat.toString_eq_repr, Nat.toList_repr] at mem
  exact isPlain_of_isDigit (isDigit_of_mem_toDigits mem)

theorem plain_intRepr (i : ℤ) : Plain i.repr := by
  rw [Int.repr_eq_if]
  split
  · exact plain_natRepr _
  · exact Consists.append (by decide) (plain_natRepr _)

theorem plain_signText (negative : Bool) : Plain (signText negative) := by
  cases negative <;> decide

/-- A number with places is plain. -/
theorem plain_placesText (places : ℕ) (x : Binary64) : Plain (x.placesText places) := by
  cases x with
  | nan => exact show Plain plainStyle.nan by decide
  | infinite negative => exact (plain_signText negative).append (by decide)
  | finite negative m =>
      have digits : ∀ n, Plain (String.ofList (paddedDigits places n)) := by
        intro n c mem
        rw [String.toList_ofList] at mem
        exact isPlain_of_isDigit (isDigit_of_mem_paddedDigits mem)
      exact (((plain_signText negative).append (plain_natRepr _)).append (by decide)).append
        (digits _)

/-- A compact numeral is plain. -/
theorem plain_compact {n : Number} {text : String} (h : n.compact = .ok text) : Plain text := by
  obtain ⟨x, -, e⟩ := bind_eq_ok.1 h
  dsimp only at e
  rw [pure_eq_ok] at e
  split at e
  · exact e ▸ (by decide)
  · intro c mem
    rw [← e, String.toList_ofList] at mem
    exact plain_placesText 4 x c (mem_of_mem_dropTrailing (mem_of_mem_dropTrailing mem))

end TerminalReel
