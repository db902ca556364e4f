import TerminalReel.Proofs.Association
import TerminalReel.Proofs.Config.Faults
import TerminalReel.Proofs.Json.Bare
import TerminalReel.Proofs.Json.Numbers
import TerminalReel.Proofs.Json.Strings
/-!
# TerminalReel.Proofs.Json.Bounds

A text in the strict form that is **within bounds** holds a value within bounds, or it
has a flaw.

Each reader takes a piece off the front (`Passes`), and stops otherwise with a flaw. Only
brackets take up room, so room for as many containers as brackets are open is enough, and
the value is no deeper than that.
-/

namespace TerminalReel

namespace Json

/-- The reader stopped at a flaw. -/
def Stop.IsFlaw (stop : Stop) : Prop := ∃ kind rest, stop = .flaw kind rest

theorem Stop.isFlaw (kind : Flaw) (rest : List Char) : (Stop.flaw kind rest).IsFlaw :=
  ⟨kind, rest, rfl⟩

/-- The value is no deeper than this, and its numbers may be written. -/
def IsWithin (room : Nat) (value : Json) : Prop := value.depth ≤ room ∧ value.isWritable = true

variable {digits room : Nat} {cs rest : List Char}

/-! ### Blanks and strings -/

/-- Blanks are passed. -/
theorem passes_skipBlanks (cs : List Char) : Passes cs (skipBlanks cs) := by
  exact .dropWhile (fun _ => Passes.isPassed_of_test (by decide)) cs

/-- Characters that neither end a string nor begin an escape stand in it. -/
theorem bareFrom_string_append {piece : List Char} (h : ∀ c ∈ piece, c ≠ '"' ∧ c ≠ '\\')
    (rest : List Char) : bareFrom .string (piece ++ rest) = bareFrom .string rest := by
  induction piece with
  | nil => rfl
  | cons c more ih =>
      obtain ⟨⟨inside, plain⟩, later⟩ := List.forall_mem_cons.1 h
      rw [List.cons_append, bareFrom, if_neg inside, ih later]
      rintro - - rfl
      exact absurd rfl plain

/-- An escape stands in its string, whatever the character behind the backslash. -/
theorem bareFrom_string_escape (c : Char) (rest : List Char) :
    bareFrom .string ('\\' :: c :: rest) = bareFrom .string rest := by
  rw [bareFrom]

theorem isHexDigit_ne {c : Char} (h : isHexDigit c = true) : c ≠ '"' ∧ c ≠ '\\' := by
  refine ⟨?_, ?_⟩ <;> rintro rfl <;> exact absurd h (by decide)

/-- The units of a string are read up to the quote that ends it, and all of that stands
inside of the string. -/
theorem ends_readUnits (start cs : List Char) :
    Ends (fun found => bareFrom .string cs = bare found.2) Stop.IsFlaw
      (readUnits start cs) := by
  fun_induction readUnits start cs with
  | case1 => exact .error (Stop.isFlaw _ _)
  | case2 => exact .error (Stop.isFlaw _ _)
  | case3 rest => exact .ok rfl
  | case4 a b c d unit head tail number ih =>
      have four : ∀ c' ∈ [a, b, c, d], c' ≠ '"' ∧ c' ≠ '\\' :=
        fun c' mem => isHexDigit_ne (isHexDigit_of_hexNumber? number c' mem)
      refine ih.bind fun found same => .pure ?_
      rw [bareFrom_string_escape]
      exact (bareFrom_string_append four (head :: tail)).trans same
  | case5 => exact .error (Stop.isFlaw _ _)
  | case6 => exact .error (Stop.isFlaw _ _)
  | case7 letter rest _ _ c _ ih =>
      refine ih.bind fun found same => .pure ?_
      rw [bareFrom_string_escape]
      exact same
  | case8 => exact .error (Stop.isFlaw _ _)
  | case9 => exact .error (Stop.isFlaw _ _)
  | case10 c rest end_off quote_off _ _ letter_off _ ih =>
      have plain : c ≠ '\\' := by
        rintro rfl
        cases rest with
        | nil => exact end_off rfl rfl
        | cons letter rest' => exact letter_off letter rest' rfl rfl
      refine ih.bind fun found same => .pure ?_
      have inside : ∀ c' ∈ [c], c' ≠ '"' ∧ c' ≠ '\\' :=
        List.forall_mem_singleton.2 ⟨quote_off, plain⟩
      exact (bareFrom_string_append inside rest).trans same

/-- A string opens and closes no container. -/
theorem ends_readString (rest : List Char) :
    Ends (fun found => Passes ('"' :: rest) found.2) Stop.IsFlaw
      (readString ('"' :: rest) rest) :=
  (ends_readUnits ('"' :: rest) rest).bind fun _ same =>
    .pure ⟨[], (bare_quote rest).trans same, List.forall_mem_nil _⟩

/-! ### Names and numbers -/

/-- A word that is read at the front of a text. -/
theorem passes_word {word : String} (plain : Consists Passes.isPassed word)
    (begins : word.toList.isPrefixOf cs = true) : Passes cs (cs.drop word.length) := by
  have whole := List.prefix_iff_eq_append.1 (List.isPrefixOf_iff_prefix.1 begins)
  rw [String.length_toList] at whole
  have passes := Passes.of_append plain (cs.drop word.length)
  rwa [whole] at passes

/-- A name that is a value is passed, and holds no container. -/
theorem readName?_eq_some {value : Json} (h : readName? cs = some (value, rest)) :
    Passes cs rest ∧ IsWithin 0 value := by
  obtain ⟨⟨word, own⟩, among, found⟩ := List.exists_of_findSome?_eq_some h
  have each : ∀ pair ∈ names, Consists Passes.isPassed pair.1 ∧
      pair.2.depth = 0 ∧ pair.2.isWritable = true := by
    decide
  obtain ⟨plain, flat, writable⟩ := each _ among
  dsimp only at found
  split at found
  · rename_i begins
    obtain ⟨rfl, rfl⟩ := Prod.mk.inj (Option.some.inj found)
    exact ⟨passes_word plain begins, flat.le, writable⟩
  · cases found

theorem isPassed_of_isDigit {c : Char} (h : c.isDigit = true) : Passes.isPassed c = true :=
  Passes.isPassed_of_test (by decide) h

theorem passes_digits (cs : List Char) : Passes cs (cs.dropWhile Char.isDigit) :=
  Passes.dropWhile (fun _ => isPassed_of_isDigit) cs

theorem passes_splitSign (cs : List Char) : Passes cs (splitSign cs).2 := by
  unfold splitSign
  split
  · exact .cons (by decide) _
  · exact .cons (by decide) _
  · exact .refl _

/-- The digits before the point are a run of digits at the front of the text. -/
theorem wholeDigits?_eq_some {whole : List Char} (h : wholeDigits? cs = some (whole, rest)) :
    cs = whole ++ rest ∧ ∀ c ∈ whole, c.isDigit = true := by
  unfold wholeDigits? at h
  split at h
  · obtain ⟨rfl, rfl⟩ := Prod.mk.inj (Option.some.inj h)
    exact ⟨rfl, List.forall_mem_singleton.2 rfl⟩
  · split at h
    · obtain ⟨rfl, rfl⟩ := Prod.mk.inj (Option.some.inj h)
      exact ⟨List.takeWhile_append_dropWhile.symm, fun c => List.mem_takeWhile_imp⟩
    · cases h
  · cases h

theorem passes_fractionDigits (cs : List Char) : Passes cs (fractionDigits cs).2 := by
  unfold fractionDigits
  split
  · split
    · exact .refl _
    · exact (Passes.cons (by decide) _).trans (passes_digits _)
  · exact .refl _

theorem passes_exponent? {found : Int × List Char} (h : exponent? cs = some found) :
    Passes cs found.2 := by
  have signed := passes_splitSign cs
  unfold exponent? at h
  dsimp only at h
  split at h
  · cases h
  · rename_i digits after _ spanned
    obtain rfl := Option.some.inj h
    have last : (splitSign cs).2.dropWhile Char.isDigit = after := congrArg Prod.snd spanned
    rw [← last]
    exact signed.trans (passes_digits _)

theorem passes_exponentPart (cs : List Char) : Passes cs (exponentPart cs).2 := by
  unfold exponentPart
  split
  · split
    · exact (Passes.cons (by decide) _).trans (passes_exponent? ‹_›)
    · exact .refl _
  · split
    · exact (Passes.cons (by decide) _).trans (passes_exponent? ‹_›)
    · exact .refl _
  · exact .refl _

/-- A number of few digits is written, with either sign. -/
theorem isWithin_int (negative : Bool) {n : Nat} (small : n < Nat.pow 10 digitLimit) :
    (number (.int (if negative then -(n : Int) else n))).IsWithin 0 := by
  refine ⟨le_refl _, ?_⟩
  rw [isWritable, Number.isWritable, decide_eq_true_eq]
  cases negative with
  | true =>
      rw [if_pos rfl, Int.natAbs_neg, Int.natAbs_natCast]
      exact small
  | false =>
      rw [if_neg Bool.false_ne_true, Int.natAbs_natCast]
      exact small

/-- A numeral of few digits is written again. -/
theorem ends_wholeNumber (negative : Bool) {whole : List Char}
    (each : ∀ c ∈ whole, c.isDigit = true) (few : whole.length ≤ digitLimit) :
    Ends (IsWithin 0) Stop.IsFlaw (wholeNumber negative whole) := by
  rw [wholeNumber, if_neg (Nat.not_lt.2 few)]
  -- For every limit, so that no power as large as the one in question is computed.
  have small : ∀ {limit : Nat}, whole.length ≤ limit → digitsValue whole < Nat.pow 10 limit :=
    fun few => (digitsValue_lt each).trans_le (Nat.pow_le_pow_right (by decide) few)
  exact .ok (isWithin_int negative (small few))

/-- A run of digits that is read at the front of a text has no more than the text allows. -/
theorem Within.length_le {run : List Char} (h : Within digits room (run ++ rest))
    (each : ∀ c ∈ run, c.isDigit = true) : run.length ≤ digits := by
  refine h.numerals run ?_ each
  rw [bare_append fun c mem => Passes.isBare_of_isPassed (isPassed_of_isDigit (each c mem))]
  exact (List.prefix_append run _).isInfix

theorem passes_splitMinus (cs : List Char) : Passes cs (splitMinus cs).2 := by
  unfold splitMinus
  split
  · exact .cons (by decide) _
  · exact .refl _

/-- A number within bounds is read, and no bracket with it. -/
theorem ends_readNumber (h : Within digitLimit room cs) :
    Ends (fun found => Passes cs found.2 ∧ IsWithin 0 found.1) Stop.IsFlaw (readNumber cs) := by
  unfold readNumber
  split
  rename_i negative unsigned sign
  have signed : Passes cs unsigned := by
    have passes := passes_splitMinus cs
    rwa [show splitMinus cs = (negative, unsigned) from sign] at passes
  cases found : wholeDigits? unsigned with
  | none => exact .error (Stop.isFlaw _ _)
  | some both =>
      obtain ⟨whole, after⟩ := both
      obtain ⟨rfl, each⟩ := wholeDigits?_eq_some found
      have few := (h.passes signed).length_le each
      have taken : Passes cs (exponentPart (fractionDigits after).2).2 :=
        ((signed.trans (.of_append (fun c mem => isPassed_of_isDigit (each c mem)) after)).trans
          (passes_fractionDigits after)).trans (passes_exponentPart _)
      dsimp only
      split
      · exact (ends_wholeNumber negative each few).bind fun _ within => .pure ⟨taken, within⟩
      · exact .ok ⟨taken, le_refl _, rfl⟩

/-! ### Containers -/

theorem isWithin_array {items : List Json} (each : ∀ item ∈ items, item.IsWithin room) :
    (array items).IsWithin (room + 1) :=
  ⟨Nat.succ_le_succ (itemsDepth_le fun item mem => (each item mem).1),
    areWritable_iff.2 fun item mem => (each item mem).2⟩

theorem isWithin_object {fields : Fields} (each : ∀ field ∈ fields, field.2.IsWithin room) :
    (object fields).IsWithin (room + 1) :=
  ⟨Nat.succ_le_succ (fieldsDepth_le fun field mem => (each field mem).1),
    fieldsAreWritable_iff.2 fun field mem => (each field mem).2⟩

theorem IsWithin.mono {value : Json} {more : Nat} (h : value.IsWithin room) (le : room ≤ more) :
    value.IsWithin more :=
  ⟨h.1.trans le, h.2⟩

mutual

/-- A value within bounds is read from a text within bounds, and what follows it is within
bounds. -/
theorem ends_readValue : ∀ (fuel : Nat) {room spare : Nat} {cs : List Char}, room ≤ spare →
    Within digitLimit room cs →
    Ends (fun found => found.1.IsWithin room ∧ Within digitLimit room found.2) Stop.IsFlaw
      (readValue fuel spare cs)
  | 0, _, _, _, _, _ => .error (Stop.isFlaw _ _)
  | fuel + 1, room, spare, cs, enough, within => by
    unfold readValue
    split
    · exact (ends_readString _).bind fun found taken =>
        .pure ⟨⟨Nat.zero_le _, rfl⟩, within.passes taken⟩
    -- No place is left, so no container is opened here.
    · obtain ⟨inner, rfl, -⟩ := within.opened (by decide)
      exact absurd enough (Nat.not_succ_le_zero inner)
    · obtain ⟨inner, rfl, -⟩ := within.opened (by decide)
      exact absurd enough (Nat.not_succ_le_zero inner)
    · rename_i rest spare
      obtain ⟨inner, rfl, inside⟩ := within.opened (by decide)
      have blank := inside.passes (passes_skipBlanks rest)
      split
      · rename_i closing
        rw [closing] at blank
        exact .ok ⟨isWithin_object (List.forall_mem_nil _), blank.closed (by decide)⟩
      · exact (ends_readFields fuel (Nat.le_of_succ_le_succ enough) (List.forall_mem_nil _)
          blank).bind fun found inside => .pure ⟨isWithin_object inside.1, inside.2⟩
    · rename_i rest spare
      obtain ⟨inner, rfl, inside⟩ := within.opened (by decide)
      have blank := inside.passes (passes_skipBlanks rest)
      split
      · rename_i closing
        rw [closing] at blank
        exact .ok ⟨isWithin_array (List.forall_mem_nil _), blank.closed (by decide)⟩
      · exact (ends_readItems fuel (Nat.le_of_succ_le_succ enough) blank).bind
          fun found inside => .pure ⟨isWithin_array inside.1, inside.2⟩
    · split
      · rename_i found named
        obtain ⟨taken, flat⟩ := readName?_eq_some named
        exact .ok ⟨flat.mono (Nat.zero_le _), within.passes taken⟩
      · exact (ends_readNumber within).mono fun found number =>
          ⟨number.2.mono (Nat.zero_le _), within.passes number.1⟩

/-- The items of an array are read up to the bracket that closes it. -/
theorem ends_readItems : ∀ (fuel : Nat) {room spare : Nat} {cs : List Char}, room ≤ spare →
    Within digitLimit room cs →
    Ends (fun found => (∀ item ∈ found.1, item.IsWithin room) ∧
      Within digitLimit (room + 1) found.2) Stop.IsFlaw (readItems fuel spare cs)
  | 0, _, _, _, _, _ => .error (Stop.isFlaw _ _)
  | fuel + 1, room, spare, cs, enough, within => by
    unfold readItems
    refine (ends_readValue fuel enough within).bind fun found first => ?_
    obtain ⟨item, after⟩ := found
    have blank := first.2.passes (passes_skipBlanks after)
    dsimp only
    split
    · rename_i closing
      rw [closing] at blank
      exact .pure ⟨List.forall_mem_singleton.2 first.1, blank.closed (by decide)⟩
    · rename_i rest comma
      rw [comma] at blank
      have next := (blank.passes (.cons (by decide) _)).passes (passes_skipBlanks rest)
      exact (ends_readItems fuel enough next).bind fun found later =>
        .pure ⟨List.forall_mem_cons.2 ⟨first.1, later.1⟩, later.2⟩
    · exact .error (Stop.isFlaw _ _)

/-- The fields of an object are read up to the brace that closes it. -/
theorem ends_readFields : ∀ (fuel : Nat) {room spare : Nat} {fields : Fields} {cs : List Char},
    room ≤ spare → (∀ field ∈ fields, field.2.IsWithin room) → Within digitLimit room cs →
    Ends (fun found => (∀ field ∈ found.1, field.2.IsWithin room) ∧
      Within digitLimit (room + 1) found.2) Stop.IsFlaw (readFields fuel spare fields cs)
  | 0, _, _, _, _, _, _, _ => .error (Stop.isFlaw _ _)
  | fuel + 1, room, spare, fields, cs, enough, each, within => by
    unfold readFields
    split
    · refine (ends_readString _).bind fun found taken => ?_
      obtain ⟨key, after⟩ := found
      have blank := (within.passes taken).passes (passes_skipBlanks after)
      dsimp only
      split
      · rename_i rest colon
        rw [colon] at blank
        have next := (blank.passes (.cons (by decide) _)).passes (passes_skipBlanks rest)
        refine (ends_readValue fuel enough next).bind fun found inside => ?_
        obtain ⟨value, after⟩ := found
        have set : ∀ field ∈ fields.set key value, field.2.IsWithin room :=
          Fields.forall_mem_set each inside.1
        have blank := inside.2.passes (passes_skipBlanks after)
        dsimp only
        split
        · rename_i closing
          rw [closing] at blank
          exact .pure ⟨set, blank.closed (by decide)⟩
        · rename_i rest comma
          rw [comma] at blank
          have next := (blank.passes (.cons (by decide) _)).passes (passes_skipBlanks rest)
          exact ends_readFields fuel enough set next
        · exact .error (Stop.isFlaw _ _)
      · exact .error (Stop.isFlaw _ _)
    · exact .error (Stop.isFlaw _ _)

end

/-- A text within bounds holds a document within bounds, or it has a flaw. -/
theorem ends_read {spare : Nat} (enough : room ≤ spare) (h : Within digitLimit room cs) :
    Ends (·.IsWithin room) Stop.IsFlaw (read spare cs) := by
  unfold read
  split
  · exact .error (Stop.isFlaw _ _)
  · refine (ends_readValue _ enough (h.passes (passes_skipBlanks cs))).bind fun found whole => ?_
    obtain ⟨value, after⟩ := found
    dsimp only
    split
    · exact .pure whole.1
    · exact .error (Stop.isFlaw _ _)

end Json

end TerminalReel
