import Mathlib.Algebra.Order.Ring.Rat
import Mathlib.Data.List.Basic
import Mathlib.Data.List.Induction
import Mathlib.Data.List.TakeWhile
import Mathlib.Tactic.Ring
import TerminalReel.Numeric.Numeral
import TerminalReel.Proofs.Ending
import TerminalReel.Proofs.Numeric.Rounding
/-!
# TerminalReel.Proofs.Numeric.Numeral

What a **compact numeral** says when it is read again.

A number of units of the last place is written with the point before the last
places, and then zeros and the point are taken off the end. Nothing of the value
is lost on the way (`readDecimal?_unitsText`): the zeros that are taken off count
for nothing after the point, and none is taken off before it. A minus sign stands
before what is negative, and never before a zero (`decimalText_ne_negativeZero`), so
no two numbers of units are written alike (`decimalText_injective`).
-/

namespace TerminalReel

/-! ### The value of digits -/

theorem digitsValue_eq_ofDigitChars (cs : List Char) : digitsValue cs = Nat.ofDigitChars 10 cs 0 :=
  Nat.ofDigitChars_eq_foldl.symm

theorem digitsValue_append (cs ds : List Char) :
    digitsValue (cs ++ ds) = 10 ^ ds.length * digitsValue cs + digitsValue ds := by
  simp only [digitsValue_eq_ofDigitChars]
  rw [Nat.ofDigitChars_append, Nat.ofDigitChars_eq_ofDigitChars_zero]

theorem digitValue_lt {c : Char} (h : c.isDigit = true) : digitValue c < 10 := by
  have bounds : 48 ≤ c.toNat ∧ c.toNat ≤ 57 := by
    simpa [Char.isDigit, UInt32.le_iff_toNat_le] using h
  have zero : '0'.toNat = 48 := rfl
  rw [digitValue, zero]
  omega

/-- Each digit makes a numeral at most ten times as large. -/
theorem digitsValue_lt {cs : List Char} (h : ∀ c ∈ cs, c.isDigit = true) :
    digitsValue cs < 10 ^ cs.length := by
  induction cs using List.reverseRecOn with
  | nil => exact Nat.zero_lt_one
  | append_singleton cs c ih =>
      obtain ⟨before, last⟩ := List.forall_mem_append.1 h
      have digit : digitsValue [c] < 10 := by
        have value := digitValue_lt (last c (List.mem_singleton_self c))
        simpa [digitsValue] using value
      have less := ih before
      rw [digitsValue_append, List.length_append, List.length_singleton, Nat.pow_one,
        Nat.pow_succ]
      omega

@[simp] theorem digitsValue_toDigits (n : ℕ) : digitsValue (Nat.toDigits 10 n) = n := by
  rw [digitsValue_eq_ofDigitChars, Nat.ofDigitChars_ten_toDigits]

@[simp] theorem digitsValue_zeros (count : ℕ) : digitsValue (zeros count) = 0 := by
  rw [digitsValue_eq_ofDigitChars, zeros, Nat.ofDigitChars_replicate_zero, Nat.mul_zero]

theorem digitsValue_paddedDigits (width n : ℕ) : digitsValue (paddedDigits width n) = n := by
  rw [paddedDigits, digitsValue_append, digitsValue_zeros, digitsValue_toDigits]
  simp

theorem length_paddedDigits {width n : ℕ} (pos : 0 < width) (less : n < 10 ^ width) :
    (paddedDigits width n).length = width := by
  have := (Nat.length_toDigits_le_iff (by decide) pos).2 less
  rw [paddedDigits, List.length_append, zeros, List.length_replicate]
  omega

theorem isDigit_of_mem_toDigits {n : ℕ} {c : Char} (h : c ∈ Nat.toDigits 10 n) : c.isDigit = true :=
  Nat.isDigit_of_mem_toDigits (by decide) (by decide) h

theorem isDigit_of_mem_paddedDigits {width n : ℕ} {c : Char} (h : c ∈ paddedDigits width n) :
    c.isDigit = true := by
  rcases List.mem_append.1 h with zero | digit
  · rw [List.eq_of_mem_replicate zero]
    rfl
  · exact isDigit_of_mem_toDigits digit

theorem toList_repr_ofNat (n : ℕ) : (Int.ofNat n).repr.toList = Nat.toDigits 10 n :=
  Nat.toList_repr

theorem toList_repr_negSucc (n : ℕ) :
    (Int.negSucc n).repr.toList = '-' :: Nat.toDigits 10 (n + 1) := by
  have repr : (Int.negSucc n).repr = "-" ++ (n + 1).repr := rfl
  rw [repr, String.toList_append, Nat.toList_repr]
  rfl

theorem Number.text_of_fullText {n : Number} {text : String} (h : n.fullText = .ok text) :
    n.text = text := by
  rw [fullText] at h
  split at h
  · exact Except.ok.inj h
  · cases h

/-! ### Taking characters off the end -/

variable {test : Char → Bool}

/-- Characters are taken off the end down to one that fails the test. -/
theorem dropTrailing_append {cs : List Char} (h : ∀ c ∈ cs.getLast?, test c = false)
    (ds : List Char) : dropTrailing test (cs ++ ds) = cs ++ dropTrailing test ds := by
  have stop : cs.reverse.dropWhile test = cs.reverse := by
    rw [← List.head?_reverse] at h
    cases rev : cs.reverse with
    | nil => rfl
    | cons c rest =>
        rw [rev] at h
        exact List.dropWhile_cons_of_neg (by simp [h c rfl])
  rw [dropTrailing, dropTrailing, List.reverse_append, List.dropWhile_append, stop]
  split
  · rename_i empty
    rw [List.isEmpty_iff.1 empty]
    simp
  · rw [List.reverse_append, List.reverse_reverse]

/-- What is taken off the end passes the test. -/
theorem exists_dropTrailing_append (test : Char → Bool) (cs : List Char) :
    ∃ tail, cs = dropTrailing test cs ++ tail ∧ ∀ c ∈ tail, test c = true := by
  refine ⟨(cs.reverse.takeWhile test).reverse, ?_, ?_⟩
  · rw [dropTrailing, ← List.reverse_append, List.takeWhile_append_dropWhile, List.reverse_reverse]
  · intro c mem
    exact List.mem_takeWhile_imp (List.mem_reverse.1 mem)

theorem mem_of_mem_dropTrailing {cs : List Char} {c : Char}
    (mem : c ∈ dropTrailing test cs) : c ∈ cs := by
  obtain ⟨tail, split, -⟩ := exists_dropTrailing_append test cs
  rw [split]
  exact List.mem_append_left _ mem

/-- Zeros that are taken off the end are nothing but zeros. -/
theorem exists_append_zeros (cs : List Char) :
    ∃ count, cs = dropTrailing (· == '0') cs ++ zeros count := by
  obtain ⟨tail, split, all⟩ := exists_dropTrailing_append (· == '0') cs
  have tail_eq : tail = zeros tail.length :=
    List.eq_replicate_iff.2 ⟨rfl, fun c mem => beq_iff_eq.1 (all c mem)⟩
  exact ⟨tail.length, tail_eq ▸ split⟩

/-- What is left ends with a character that fails the test. -/
theorem of_getLast?_dropTrailing {cs : List Char} {c : Char}
    (last : (dropTrailing test cs).getLast? = some c) : test c = false := by
  have fails := List.head?_dropWhile_not test cs.reverse
  rw [dropTrailing, List.getLast?_reverse] at last
  rw [last] at fails
  exact fails

/-! ### Compact numerals -/

/-- A number of ten thousandths in the compact form. -/
def unitsText (units : ℕ) : List Char :=
  let places := dropTrailing (· == '0') (paddedDigits 4 (units % 10 ^ 4))
  Nat.toDigits 10 (units / 10 ^ 4) ++ if places = [] then [] else '.' :: places

/-- The number that digits write with what follows them: nothing, or places. -/
def readPlaces? (whole : List Char) : List Char → Option ℚ
  | [] => some (digitsValue whole)
  | '.' :: rest =>
    if (spanDigits rest).1 = [] ∨ (spanDigits rest).2 ≠ [] then none
    else some (digitsValue (whole ++ (spanDigits rest).1) / 10 ^ (spanDigits rest).1.length)
  | _ => none

/-- The number that an unsigned decimal writes, with or without places. -/
def readDecimal? (cs : List Char) : Option ℚ :=
  if (spanDigits cs).1 = [] then none else readPlaces? (spanDigits cs).1 (spanDigits cs).2

theorem readPlaces?_point (whole : List Char) {places : List Char} (nonempty : places ≠ [])
    (digits : ∀ c ∈ places, c.isDigit = true) : readPlaces? whole ('.' :: places)
      = some ((digitsValue (whole ++ places) : ℚ) / 10 ^ places.length) := by
  have span := spanDigits_append digits (show ∀ c ∈ ([] : List Char).head?, _ by simp)
  rw [List.append_nil] at span
  rw [readPlaces?, span]
  simp [nonempty]

theorem readDecimal?_append {whole rest : List Char} (nonempty : whole ≠ [])
    (digits : ∀ c ∈ whole, c.isDigit = true) (stop : ∀ c ∈ rest.head?, c.isDigit = false) :
    readDecimal? (whole ++ rest) = readPlaces? whole rest := by
  rw [readDecimal?, spanDigits_append digits stop, if_neg nonempty]

/-- The places of a number of ten thousandths that are written. -/
def writtenPlaces (units : ℕ) : List Char :=
  dropTrailing (· == '0') (paddedDigits 4 (units % 10 ^ 4))

theorem unitsText_eq (units : ℕ) : unitsText units = Nat.toDigits 10 (units / 10 ^ 4) ++
    if writtenPlaces units = [] then [] else '.' :: writtenPlaces units := rfl

theorem isDigit_of_mem_writtenPlaces {units : ℕ} {c : Char} (mem : c ∈ writtenPlaces units) :
    c.isDigit = true :=
  isDigit_of_mem_paddedDigits (mem_of_mem_dropTrailing mem)

/-- With the zeros that are not written there are four places. -/
theorem exists_writtenPlaces_append (units : ℕ) : ∃ count,
    paddedDigits 4 (units % 10 ^ 4) = writtenPlaces units ++ zeros count ∧
      (writtenPlaces units).length + count = 4 := by
  obtain ⟨count, split⟩ := exists_append_zeros (paddedDigits 4 (units % 10 ^ 4))
  have length := length_paddedDigits (show 0 < 4 by decide)
    (Nat.mod_lt units (show 0 < 10 ^ 4 by decide))
  refine ⟨count, split, ?_⟩
  rwa [split, List.length_append, zeros, List.length_replicate] at length

theorem getLast?_writtenPlaces_ne (units : ℕ) : (writtenPlaces units).getLast? ≠ some '0' := by
  intro last
  cases of_getLast?_dropTrailing last

theorem unitsText_forall (units : ℕ) :
    ∀ c ∈ unitsText units, c.isDigit = true ∨ c = '.' := by
  intro c mem
  rw [unitsText_eq] at mem
  rcases List.mem_append.1 mem with whole | rest
  · exact Or.inl (isDigit_of_mem_toDigits whole)
  · split at rest
    · cases rest
    · rcases List.mem_cons.1 rest with rfl | place
      · exact Or.inr rfl
      · exact Or.inl (isDigit_of_mem_writtenPlaces place)

theorem not_mem_unitsText {c : Char} (no_digit : c.isDigit = false) (no_point : c ≠ '.')
    (units : ℕ) : c ∉ unitsText units := by
  intro mem
  rcases unitsText_forall units c mem with digit | point
  · rw [digit] at no_digit
    cases no_digit
  · exact no_point point

/-- A compact numeral is read as the number that was written. -/
theorem readDecimal?_unitsText (units : ℕ) :
    readDecimal? (unitsText units) = some ((units : ℚ) / 10 ^ 4) := by
  obtain ⟨count, split, length⟩ := exists_writtenPlaces_append units
  have digits : ∀ c ∈ writtenPlaces units, c.isDigit = true :=
    fun _ => isDigit_of_mem_writtenPlaces
  have whole_digits : ∀ c ∈ Nat.toDigits 10 (units / 10 ^ 4), c.isDigit = true :=
    fun c mem => isDigit_of_mem_toDigits mem
  have value : 10 ^ count * digitsValue (writtenPlaces units) = units % 10 ^ 4 := by
    have := digitsValue_paddedDigits 4 (units % 10 ^ 4)
    rwa [split, digitsValue_append, digitsValue_zeros, zeros, List.length_replicate,
      Nat.add_zero] at this
  have nonempty : Nat.toDigits 10 (units / 10 ^ 4) ≠ [] := Nat.toDigits_ne_nil
  have parts : 10 ^ 4 * (units / 10 ^ 4) + units % 10 ^ 4 = units := Nat.div_add_mod units (10 ^ 4)
  rw [unitsText_eq]
  generalize writtenPlaces units = places at *
  by_cases none : places = []
  · have multiple : units / 10 ^ 4 * 10 ^ 4 = units := by
      rw [none, digitsValue_nil, Nat.mul_zero] at value
      omega
    rw [if_pos none, readDecimal?_append nonempty whole_digits (by simp), readPlaces?,
      digitsValue_toDigits, Option.some.injEq, eq_div_iff (by norm_num)]
    exact_mod_cast multiple
  · have whole_units : (10 ^ places.length * (units / 10 ^ 4) + digitsValue places) * 10 ^ 4
        = units * 10 ^ places.length := by
      have tens : 10 ^ places.length * 10 ^ count = 10 ^ 4 := by rw [← Nat.pow_add, length]
      calc (10 ^ places.length * (units / 10 ^ 4) + digitsValue places) * 10 ^ 4
          = (10 ^ places.length * (units / 10 ^ 4) + digitsValue places)
              * (10 ^ places.length * 10 ^ count) := by rw [tens]
        _ = (10 ^ places.length * 10 ^ count * (units / 10 ^ 4)
              + 10 ^ count * digitsValue places) * 10 ^ places.length := by ring
        _ = units * 10 ^ places.length := by rw [tens, value, parts]
    rw [if_neg none, readDecimal?_append nonempty whole_digits (by simp),
      readPlaces?_point _ none digits, digitsValue_append, digitsValue_toDigits, Option.some.injEq,
      div_eq_div_iff (pow_ne_zero _ (by norm_num)) (by norm_num)]
    exact_mod_cast whole_units

/-- The places style before zeros and point are taken off. -/
theorem toList_placesText (units : ℕ) : (placesText false 4 units).toList
    = (Nat.toDigits 10 (units / 10 ^ 4) ++ ['.']) ++ paddedDigits 4 (units % 10 ^ 4) := by
  simp [placesText, signText]

/-- Taking the zeros off the end, and then the point, leaves the compact form. -/
theorem dropTrailing_placesText (units : ℕ) :
    dropTrailing (· == '.') (dropTrailing (· == '0') (placesText false 4 units).toList)
      = unitsText units := by
  have no_point : ∀ c, c.isDigit = true → (c == '.') = false := by
    rintro c digit
    rw [beq_eq_false_iff_ne]
    rintro rfl
    cases digit
  have whole_last : ∀ c ∈ (Nat.toDigits 10 (units / 10 ^ 4)).getLast?, (c == '.') = false :=
    fun c mem => no_point c (isDigit_of_mem_toDigits (List.mem_of_getLast? mem))
  have written : dropTrailing (· == '0') (paddedDigits 4 (units % 10 ^ 4))
      = writtenPlaces units := rfl
  rw [toList_placesText, dropTrailing_append (by simp), written, unitsText_eq,
    List.append_assoc]
  by_cases none : writtenPlaces units = []
  · rw [if_pos none, none, List.append_nil, List.append_nil, dropTrailing_append whole_last]
    simp [dropTrailing]
  · have places_last : ∀ c ∈ (Nat.toDigits 10 (units / 10 ^ 4)
        ++ ('.' :: writtenPlaces units)).getLast?, (c == '.') = false := by
      intro c mem
      rw [List.getLast?_append_of_ne_nil _ (List.cons_ne_nil _ _),
        List.getLast?_cons_of_ne_nil none] at mem
      exact no_point c (isDigit_of_mem_writtenPlaces (List.mem_of_getLast? mem))
    have kept := dropTrailing_append places_last []
    rw [if_neg none]
    simpa [dropTrailing] using kept

/-! ### Signed numerals -/

/-- A count with the sign of what is counted. -/
def signed (negative : Bool) (count : ℕ) : ℤ := if negative then -count else count

@[simp] theorem signed_false (count : ℕ) : signed false count = count := rfl

@[simp] theorem signed_true (count : ℕ) : signed true count = -count := rfl

/-- A whole number of ten thousandths in the compact form. -/
def decimalText (units : ℤ) : List Char :=
  (signText (decide (units < 0))).toList ++ unitsText units.natAbs

/-- The number that a decimal writes behind a minus sign, or behind none. -/
def readSigned? : List Char → Option ℚ
  | '-' :: rest => (readDecimal? rest).map (- ·)
  | cs => readDecimal? cs

@[simp] theorem decimalText_natCast (units : ℕ) : decimalText units = unitsText units := by
  simp [decimalText, signText]

theorem decimalText_neg {units : ℕ} (pos : 0 < units) :
    decimalText (-units) = '-' :: unitsText units := by
  simp [decimalText, signText, pos]

theorem exists_unitsText_cons (units : ℕ) :
    ∃ first rest, unitsText units = first :: rest ∧ first.isDigit = true := by
  have nonempty : Nat.toDigits 10 (units / 10 ^ 4) ≠ [] := Nat.toDigits_ne_nil
  obtain ⟨first, rest, digits⟩ := List.exists_cons_of_ne_nil nonempty
  refine ⟨first, _, by rw [unitsText_eq, digits, List.cons_append], ?_⟩
  exact isDigit_of_mem_toDigits (digits ▸ List.mem_cons_self)

/-- A compact numeral is read as the number that was written, its sign included. -/
theorem readSigned?_decimalText (units : ℤ) :
    readSigned? (decimalText units) = some ((units : ℚ) / 10 ^ 4) := by
  rcases le_or_gt 0 units with nonneg | negative
  · obtain ⟨count, rfl⟩ := Int.eq_ofNat_of_zero_le nonneg
    have read := readDecimal?_unitsText count
    obtain ⟨first, rest, text, digit⟩ := exists_unitsText_cons count
    have unsigned : first ≠ '-' := by
      intro minus
      rw [minus] at digit
      cases digit
    rw [decimalText_natCast, Int.cast_natCast, ← read, text, readSigned?]
    simpa using unsigned
  · obtain ⟨count, rfl⟩ : ∃ count : ℕ, units = -count := ⟨units.natAbs, by omega⟩
    rw [decimalText_neg (by omega), readSigned?, readDecimal?_unitsText]
    simp [neg_div]

/-- Different numbers of ten thousandths are written differently. -/
theorem decimalText_injective : Function.Injective decimalText := by
  intro j k same
  have read := congrArg readSigned? same
  rw [readSigned?_decimalText, readSigned?_decimalText, Option.some.injEq,
    div_left_inj' (by norm_num)] at read
  exact_mod_cast read

theorem decimalText_ne_nil (units : ℤ) : decimalText units ≠ [] := by
  obtain ⟨first, rest, text, -⟩ := exists_unitsText_cons units.natAbs
  simp [decimalText, text]

/-- A zero is written without a sign: what is read as zero is the text of zero. -/
theorem decimalText_ne_negativeZero (units : ℤ) : decimalText units ≠ ['-', '0'] := by
  intro text
  have read := readSigned?_decimalText units
  have zero : readSigned? ['-', '0'] = some 0 := by
    simp [readSigned?, readDecimal?, readPlaces?, spanDigits, digitsValue, digitValue]
  rw [text, zero, Option.some.injEq, eq_comm, div_eq_zero_iff] at read
  obtain rfl : units = 0 := by simpa using read
  cases text

/-! ### Compact numbers -/

/-- How many ten thousandths are nearest to a size. -/
def Magnitude.units (m : Magnitude) : ℕ := roundDiv (m.quanta * 10 ^ 4) quantaPerOne

theorem Magnitude.units_eq (m : Magnitude) :
    m.units = roundRat ((m.quanta : ℚ) / quantaPerOne * 10 ^ 4) := by
  rw [units, roundDiv_eq_roundRat _ quantaPerOne_pos]
  congr 1
  push_cast
  ring

theorem Magnitude.isNearestWhole_units (m : Magnitude) :
    IsNearestWhole m.units ((m.quanta : ℚ) / quantaPerOne * 10 ^ 4) := by
  rw [units_eq]
  exact isNearestWhole_roundRat (by positivity)

theorem dropTrailing_signText (negative : Bool) (kept : test '-' = false) (cs : List Char) :
    dropTrailing test ((signText negative).toList ++ cs)
      = (signText negative).toList ++ dropTrailing test cs := by
  apply dropTrailing_append
  intro c last
  cases negative with
  | false => simp [signText] at last
  | true =>
      obtain rfl : '-' = c := by simpa [signText] using last
      exact kept

/-- The compact form of a finite number writes the ten thousandths nearest to it. -/
theorem compact_finite (negative : Bool) (m : Magnitude) :
    (Number.float (.finite negative m)).compact
      = .ok (String.ofList (decimalText (signed negative m.units))) := by
  have places : ((Binary64.finite negative m).placesText 4).toList
      = (signText negative).toList ++ (placesText false 4 m.units).toList := by
    simp [Binary64.placesText, placesText, signText, Magnitude.units]
  refine bind_eq_ok.2 ⟨_, Number.operand_float _, ?_⟩
  dsimp only
  rw [places]
  generalize m.units = units
  rw [dropTrailing_signText negative rfl, dropTrailing_signText negative rfl,
    dropTrailing_placesText]
  refine congrArg Except.ok ?_
  by_cases zero : negative = true ∧ units = 0
  · -- A negative number that no ten thousandth is nearer to than zero.
    obtain ⟨rfl, rfl⟩ := zero
    rfl
  · have text : (signText negative).toList ++ unitsText units
        = decimalText (signed negative units) := by
      cases negative with
      | false => simp [signText]
      | true =>
          have pos : 0 < units := Nat.pos_of_ne_zero fun none => zero ⟨rfl, none⟩
          rw [signed_true, decimalText_neg pos]
          rfl
    have nonempty := decimalText_ne_nil (signed negative units)
    have not_zero := decimalText_ne_negativeZero (signed negative units)
    rw [text, if_neg]
    rintro (empty | minus)
    · exact nonempty (by simpa using congrArg String.toList empty)
    · exact not_zero (by simpa using congrArg String.toList minus)

end TerminalReel
