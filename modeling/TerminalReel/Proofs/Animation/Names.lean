import TerminalReel.Animation.Part
import TerminalReel.Proofs.Numeric.Plain
/-!
# TerminalReel.Proofs.Animation.Names

**No two parts share a name**, neither as a class nor as keyframes.

A name is a word for the kind, the index of the step and, for a character, its own
index. Reading a whole number stops where its digits do, so the step is read off
behind the word and the character's index behind the hyphen after it; and no word
goes on as a number does.
-/

namespace TerminalReel

/-! ### Numbers in names -/

theorem toDigits_append_inj {m n : ℕ} {a b : List Char} (ha : ∀ c ∈ a.head?, c.isDigit = false)
    (hb : ∀ c ∈ b.head?, c.isDigit = false)
    (same : Nat.toDigits 10 m ++ a = Nat.toDigits 10 n ++ b) : m = n ∧ a = b := by
  have read := congrArg spanDigits same
  rw [spanDigits_append (fun c => isDigit_of_mem_toDigits) ha,
    spanDigits_append (fun c => isDigit_of_mem_toDigits) hb, Prod.mk.injEq] at read
  refine ⟨?_, read.2⟩
  rw [← digitsValue_toDigits m, read.1, digitsValue_toDigits]

/-- The digits of a number do not begin with another character. -/
theorem toDigits_append_ne {n : ℕ} {c : Char} (other : c.isDigit = false) (a b : List Char) :
    Nat.toDigits 10 n ++ a ≠ c :: b := by
  obtain ⟨first, rest, digits⟩ :=
    List.exists_cons_of_ne_nil (Nat.toDigits_ne_nil (b := 10) (n := n))
  have first_digit : first.isDigit = true := isDigit_of_mem_toDigits (digits ▸ List.mem_cons_self)
  rw [digits]
  rintro ⟨⟩
  rw [first_digit] at other
  cases other

/-- A whole number is known by its digits and what follows them, unless that goes on
with a digit. -/
theorem intRepr_append_inj {i j : ℤ} {a b : List Char} (ha : ∀ c ∈ a.head?, c.isDigit = false)
    (hb : ∀ c ∈ b.head?, c.isDigit = false)
    (same : i.repr.toList ++ a = j.repr.toList ++ b) : i = j ∧ a = b := by
  have sign : '-'.isDigit = false := rfl
  cases i with
  | ofNat m =>
      rw [toList_repr_ofNat] at same
      cases j with
      | ofNat n =>
          rw [toList_repr_ofNat] at same
          obtain ⟨rfl, rest⟩ := toDigits_append_inj ha hb same
          exact ⟨rfl, rest⟩
      | negSucc n =>
          rw [toList_repr_negSucc] at same
          exact absurd same (toDigits_append_ne sign a _)
  | negSucc m =>
      rw [toList_repr_negSucc] at same
      cases j with
      | ofNat n =>
          rw [toList_repr_ofNat] at same
          exact absurd same.symm (toDigits_append_ne sign b _)
      | negSucc n =>
          rw [toList_repr_negSucc] at same
          obtain ⟨numbers, rest⟩ := toDigits_append_inj ha hb (List.cons.inj same).2
          exact ⟨congrArg Int.negSucc (Nat.succ.inj numbers), rest⟩

/-- No word begins as a whole number does. -/
theorem intRepr_append_ne {i : ℤ} {c : Char} (other : c.isDigit = false) (no_sign : c ≠ '-')
    (a b : List Char) : i.repr.toList ++ a ≠ c :: b := by
  cases i with
  | ofNat n =>
      rw [toList_repr_ofNat]
      exact toDigits_append_ne other a b
  | negSucc n =>
      rw [toList_repr_negSucc]
      rintro ⟨⟩
      exact no_sign rfl

theorem intRepr_inj {i j : ℤ} (same : i.repr.toList = j.repr.toList) : i = j :=
  (intRepr_append_inj (a := []) (b := []) (by simp) (by simp) (by simpa using same)).1

/-! ### Names of parts -/

namespace Part

theorem indexText_injective : Function.Injective indexText := by
  intro index index' same
  have chars := congrArg String.toList same
  have apart (i : ℤ) : i.repr.toList ≠ "None".toList := by
    have := intRepr_append_ne (i := i) (c := 'N') rfl (by decide) [] ['o', 'n', 'e']
    rwa [List.append_nil] at this
  cases index with
  | none =>
      cases index' with
      | none => rfl
      | some j => exact absurd chars.symm (apart j)
  | some i =>
      cases index' with
      | none => exact absurd chars (apart i)
      | some j => exact congrArg some (intRepr_inj chars)

/-- A character is known by the two numbers in its names. -/
theorem char_eq_of_numbers {i j : ℤ} {index index' : Option ℤ}
    (same : i.repr.toList ++ '-' :: (indexText index).toList
      = j.repr.toList ++ '-' :: (indexText index').toList) :
    (⟨.char index, i⟩ : Part) = ⟨.char index', j⟩ := by
  obtain ⟨rfl, rest⟩ := intRepr_append_inj (by simp) (by simp) same
  obtain rfl := indexText_injective (String.toList_injective (List.cons.inj rest).2)
  rfl

/-- No two parts share a class. -/
theorem cssClass_injective : Function.Injective cssClass := by
  rintro ⟨kind, i⟩ ⟨kind', j⟩ same
  replace same := congrArg String.toList same
  -- What differs in the word is told apart by its letters, but for `cmd-group` and `cmd`.
  cases kind <;> cases kind' <;> simp [cssClass, toString] at same
  case lines.lines => rw [intRepr_inj same]
  case prompt.prompt => rw [intRepr_inj same]
  case command.command => rw [intRepr_inj same]
  case command.char => exact absurd same.symm (intRepr_append_ne rfl (by decide) _ _)
  case char.command => exact absurd same (intRepr_append_ne rfl (by decide) _ _)
  case char.char => exact char_eq_of_numbers same

/-- No two parts share the name of their keyframes. -/
theorem keyframesName_injective : Function.Injective keyframesName := by
  rintro ⟨kind, i⟩ ⟨kind', j⟩ same
  replace same := congrArg String.toList same
  -- Here `fade-cmd` goes on after `fade`.
  cases kind <;> cases kind' <;> simp [keyframesName, toString] at same
  case lines.lines => rw [intRepr_inj same]
  case lines.command =>
    exact absurd same (by simpa using intRepr_append_ne (i := i) (c := 'c') rfl (by decide) [] _)
  case prompt.prompt => rw [intRepr_inj same]
  case command.lines =>
    exact absurd same.symm
      (by simpa using intRepr_append_ne (i := j) (c := 'c') rfl (by decide) [] _)
  case command.command => rw [intRepr_inj same]
  case char.char => exact char_eq_of_numbers same

theorem plain_indexText (index : Option ℤ) : Plain (indexText index) := by
  cases index with
  | none => decide
  | some i => exact plain_intRepr i

/-- A class is a plain string. -/
theorem plain_cssClass (part : Part) : Plain part.cssClass := by
  obtain ⟨kind, step⟩ := part
  have number := plain_intRepr step
  cases kind with
  | lines => exact Consists.append (by decide) number
  | prompt => exact Consists.append (by decide) number
  | command => exact Consists.append (by decide) number
  | char index =>
      exact ((Consists.append (by decide) number).append (by decide)).append (plain_indexText index)

/-- The name of keyframes is a plain string. -/
theorem plain_keyframesName (part : Part) : Plain part.keyframesName := by
  obtain ⟨kind, step⟩ := part
  have number := plain_intRepr step
  cases kind with
  | lines => exact Consists.append (by decide) number
  | prompt => exact Consists.append (by decide) number
  | command => exact Consists.append (by decide) number
  | char index =>
      exact ((Consists.append (by decide) number).append (by decide)).append (plain_indexText index)

end Part

end TerminalReel
