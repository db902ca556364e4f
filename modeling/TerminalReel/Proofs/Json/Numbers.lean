import TerminalReel.Json.Printer
import TerminalReel.Json.Reader
import TerminalReel.Proofs.Numeric.Shortest
/-!
# TerminalReel.Proofs.Json.Numbers

Numbers in a document, **written and read again**.

A numeral has up to three parts: digits before the point, digits after it, and a
power of ten. The reader finds the parts that were written, wherever the numeral
ends (`readNumber_parts`). The plain style puts the point and the zeros in different
places for different numbers, but the value of the numeral is always that of the
shortest one, and by its value alone it is read.
-/

namespace TerminalReel

namespace Json

/-! ### The parts of a numeral -/

/-- The text goes on with nothing that a number could go on with. -/
def EndsNumber (rest : List Char) : Prop :=
  ∀ c ∈ rest.head?, c.isDigit = false ∧ c ≠ '.' ∧ c ≠ 'e' ∧ c ≠ 'E'

/-- Digits that may stand before the point: a zero alone, or others first. -/
structure IsWhole (whole : List Char) : Prop where
  nonempty : whole ≠ []
  digits : ∀ c ∈ whole, c.isDigit = true
  zero_alone : whole.head? = some '0' → whole = ['0']

/-- A point and the digits after it, if there are any. -/
def fractionText (fraction : List Char) : List Char :=
  if fraction = [] then [] else '.' :: fraction

theorem isWhole_zero : IsWhole ['0'] where
  nonempty := List.cons_ne_nil _ _
  digits := List.forall_mem_singleton.2 rfl
  zero_alone _ := rfl

/-- The written power of ten, if there is one. -/
def exponentText : Option ℤ → List Char
  | none => []
  | some exponent =>
    'e' :: (if exponent < 0 then '-' else '+') :: paddedDigits 2 exponent.natAbs

variable {whole fraction rest : List Char} {exponent : Option ℤ}

/-- The digits before the point are read up to what follows them. -/
theorem wholeDigits?_append (h : IsWhole whole) (stop : ∀ c ∈ rest.head?, c.isDigit = false) :
    wholeDigits? (whole ++ rest) = some (whole, rest) := by
  obtain ⟨first, others, rfl⟩ := List.exists_cons_of_ne_nil h.nonempty
  by_cases zero : first = '0'
  · subst zero
    rw [h.zero_alone rfl]
    rfl
  · have span := spanDigits_append h.digits stop
    have digit : first.isDigit = true := h.digits first List.mem_cons_self
    rw [List.cons_append] at span ⊢
    rw [wholeDigits?, if_pos digit, span]
    exact zero

/-- The digits behind the point are read up to what follows them. -/
theorem fractionDigits_append (digits : ∀ c ∈ fraction, c.isDigit = true)
    (stop : ∀ c ∈ rest.head?, c.isDigit = false ∧ c ≠ '.') :
    fractionDigits (fractionText fraction ++ rest) = (fraction, rest) := by
  by_cases empty : fraction = []
  · rw [empty, fractionText, if_pos rfl, List.nil_append, fractionDigits]
    rintro others rfl
    exact (stop '.' rfl).2 rfl
  · have span := spanDigits_append digits (fun c mem => (stop c mem).1)
    obtain ⟨first, others, rfl⟩ := List.exists_cons_of_ne_nil empty
    rw [fractionText, if_neg empty, List.cons_append, fractionDigits, span]

/-- The power of ten goes on with neither a digit nor a point. -/
theorem exponentText_begins (ends : EndsNumber rest) :
    ∀ c ∈ (exponentText exponent ++ rest).head?, c.isDigit = false ∧ c ≠ '.' := by
  cases exponent with
  | none => exact fun c mem => ⟨(ends c mem).1, (ends c mem).2.1⟩
  | some n =>
      rintro c ⟨⟩
      exact ⟨rfl, by decide⟩

/-- What follows the digits before the point goes on with no digit. -/
theorem fractionText_begins (ends : EndsNumber rest) :
    ∀ c ∈ (fractionText fraction ++ (exponentText exponent ++ rest)).head?,
      c.isDigit = false := by
  by_cases empty : fraction = []
  · rw [fractionText, if_pos empty]
    exact fun c mem => (exponentText_begins ends c mem).1
  · rw [fractionText, if_neg empty]
    rintro c ⟨⟩
    rfl

/-- The power of ten is read, with its sign and at least two digits. -/
theorem exponent?_append (n : ℤ) (stop : ∀ c ∈ rest.head?, c.isDigit = false) :
    exponent? ((if n < 0 then '-' else '+') :: paddedDigits 2 n.natAbs ++ rest)
      = some (n, rest) := by
  have digits : ∀ c ∈ paddedDigits 2 n.natAbs, c.isDigit = true :=
    fun c => isDigit_of_mem_paddedDigits
  have span := spanDigits_append digits stop
  have value := digitsValue_paddedDigits 2 n.natAbs
  have some_digits : paddedDigits 2 n.natAbs ≠ [] := by simp [paddedDigits]
  generalize paddedDigits 2 n.natAbs = digits at *
  obtain ⟨first, others, rfl⟩ := List.exists_cons_of_ne_nil some_digits
  have sign : splitSign ((if n < 0 then '-' else '+') :: (first :: others) ++ rest)
      = (decide (n < 0), (first :: others) ++ rest) := by
    by_cases negative : n < 0
    · simp [negative, splitSign]
    · simp [negative, splitSign]
  rw [exponent?, sign]
  dsimp only
  rw [span]
  dsimp only
  rw [value]
  by_cases negative : n < 0
  · simp only [negative, decide_true, if_true]
    congr 2
    omega
  · simp only [negative, decide_false, Bool.false_eq_true, if_false]
    congr 2
    omega

theorem exponentPart_append (ends : EndsNumber rest) :
    exponentPart (exponentText exponent ++ rest) = (exponent, rest) := by
  cases exponent with
  | none =>
      rw [exponentText, List.nil_append, exponentPart]
      · rintro others rfl
        exact (ends 'e' rfl).2.2.1 rfl
      · rintro others rfl
        exact (ends 'E' rfl).2.2.2 rfl
  | some n =>
      have stop : ∀ c ∈ rest.head?, c.isDigit = false := fun c mem => (ends c mem).1
      rw [exponentText, List.cons_append, exponentPart, exponent?_append n stop]

/-- What is read from the parts of a numeral: a whole number from the first alone, and
else the number nearest to it. -/
def numberOfParts (negative : Bool) (whole fraction : List Char) (exponent : Option ℤ) :
    Except Stop Json :=
  if fraction = [] ∧ exponent = none then wholeNumber negative whole
  else .ok (.number (.float
    ((Decimal.ofParts whole fraction (exponent.getD 0)).toBinary64 negative)))

/-- The sign of a numeral, and its digits. -/
def splitMinus (start : List Char) : Bool × List Char :=
  match start with
  | '-' :: rest => (true, rest)
  | _ => (false, start)

theorem splitMinus_signText {negative : Bool} {cs : List Char} (begins : cs.head? ≠ some '-') :
    splitMinus ((signText negative).toList ++ cs) = (negative, cs) := by
  cases negative with
  | true => simp [signText, splitMinus]
  | false =>
      have unsigned : (signText false).toList ++ cs = cs := by simp [signText]
      rw [unsigned, splitMinus]
      rintro others rfl
      exact begins rfl

/-- A number is read part by part. -/
theorem readNumber_of_parts {negative : Bool} {start cs after_whole after_fraction : List Char}
    (sign : splitMinus start = (negative, cs)) (found : wholeDigits? cs = some (whole, after_whole))
    (places : fractionDigits after_whole = (fraction, after_fraction))
    (power : exponentPart after_fraction = (exponent, rest)) :
    readNumber start = (numberOfParts negative whole fraction exponent).map (·, rest) := by
  unfold readNumber
  split
  rename_i n digits same
  obtain ⟨rfl, rfl⟩ := Prod.mk.inj (same.symm.trans sign)
  rw [found]
  dsimp only
  rw [places]
  dsimp only
  rw [power]
  dsimp only
  rw [numberOfParts]
  split
  · cases wholeNumber n whole <;> rfl
  · rfl

/-- A numeral is read by its parts. -/
theorem readNumber_append {negative : Bool} (h : IsWhole whole)
    (digits : ∀ c ∈ fraction, c.isDigit = true) (ends : EndsNumber rest) :
    readNumber ((signText negative).toList ++ (whole ++ (fractionText fraction
        ++ (exponentText exponent ++ rest))))
      = (numberOfParts negative whole fraction exponent).map (·, rest) := by
  have unsigned : (whole ++ (fractionText fraction ++ (exponentText exponent ++ rest))).head?
      ≠ some '-' := by
    obtain ⟨first, others, rfl⟩ := List.exists_cons_of_ne_nil h.nonempty
    rintro ⟨⟩
    cases h.digits '-' List.mem_cons_self
  exact readNumber_of_parts (splitMinus_signText unsigned)
    (wholeDigits?_append h (fractionText_begins ends))
    (fractionDigits_append digits (exponentText_begins ends)) (exponentPart_append ends)

/-! ### Whole numbers -/

theorem head?_toDigits_ne_zero {n : ℕ} (pos : 0 < n) : (Nat.toDigits 10 n).head? ≠ some '0' := by
  induction n using Nat.strongRecOn with
  | ind n ih =>
      rw [Nat.toDigits_eq_if (by decide)]
      split
      · simp [pos.ne']
      · have some_digits : Nat.toDigits 10 (n / 10) ≠ [] := Nat.toDigits_ne_nil
        rw [List.head?_append_of_ne_nil _ some_digits]
        exact ih (n / 10) (by omega) (by omega)

/-- A number's digits are one zero, or begin with another digit. -/
theorem isWhole_toDigits (n : ℕ) : IsWhole (Nat.toDigits 10 n) where
  nonempty := Nat.toDigits_ne_nil
  digits := fun _ => isDigit_of_mem_toDigits
  zero_alone := by
    intro zero
    rcases Nat.eq_zero_or_pos n with rfl | pos
    · rfl
    · exact absurd zero (head?_toDigits_ne_zero pos)

theorem toList_toString_int (n : ℤ) :
    (toString n).toList = (signText (decide (n < 0))).toList ++ Nat.toDigits 10 n.natAbs := by
  cases n with
  | ofNat n =>
      have positive : ¬ Int.ofNat n < 0 := by simp
      rw [decide_eq_false positive]
      exact toList_repr_ofNat n
  | negSucc n =>
      have negative : Int.negSucc n < 0 := by simp
      rw [decide_eq_true negative]
      exact toList_repr_negSucc n

theorem length_toDigits_le_of_isWritable {n : ℤ} (writable : (Number.int n).isWritable = true) :
    (Nat.toDigits 10 n.natAbs).length ≤ digitLimit := by
  rw [Nat.length_toDigits_le_iff (by decide) (by decide), ← Nat.pow_eq]
  rw [Number.isWritable, decide_eq_true_iff] at writable
  generalize Nat.pow 10 digitLimit = bound at writable ⊢
  exact writable

/-- A whole number with few enough digits is read from them. -/
theorem wholeNumber_toDigits {n : ℤ} (few : (Nat.toDigits 10 n.natAbs).length ≤ digitLimit) :
    wholeNumber (decide (n < 0)) (Nat.toDigits 10 n.natAbs) = .ok (.number (.int n)) := by
  rw [wholeNumber, if_neg (Nat.not_lt.2 few), digitsValue_toDigits]
  by_cases negative : n < 0
  · simp only [negative, decide_true, if_true]
    congr 3
    omega
  · simp only [negative, decide_false, Bool.false_eq_true, if_false]
    congr 3
    omega

/-- A whole number that may be written is read as itself. -/
theorem readNumber_int {n : ℤ} (writable : (Number.int n).isWritable = true)
    (ends : EndsNumber rest) :
    readNumber ((encodeNumber (.int n)).toList ++ rest) = .ok (.number (.int n), rest) := by
  have read : readNumber ((signText (decide (n < 0))).toList ++ (Nat.toDigits 10 n.natAbs
      ++ (fractionText [] ++ (exponentText none ++ rest)))) = _ :=
    readNumber_append (isWhole_toDigits n.natAbs) (by simp) ends
  rw [numberOfParts, if_pos ⟨rfl, rfl⟩,
    wholeNumber_toDigits (length_toDigits_le_of_isWritable writable)] at read
  rw [encodeNumber, toList_toString_int, List.append_assoc]
  exact read

/-! ### Binary64 numbers -/

/-- The value of a decimal is that of its digits, with the point moved. -/
theorem value_ofParts (whole fraction : List Char) (exponent : ℤ) :
    (Decimal.ofParts whole fraction exponent).value
      = digitsValue (whole ++ fraction) * 10 ^ (exponent - fraction.length) := rfl

/-- The text is a numeral with digits after the point or a power of ten, and worth `v`. -/
inductive Spells (v : ℚ) : List Char → Prop
  | intro {whole fraction : List Char} {exponent : Option ℤ} (h : IsWhole whole)
      (digits : ∀ c ∈ fraction, c.isDigit = true) (inexact : ¬(fraction = [] ∧ exponent = none))
      (value : (Decimal.ofParts whole fraction (exponent.getD 0)).value = v) :
      Spells v (whole ++ (fractionText fraction ++ exponentText exponent))

/-- A text that spells a decimal's value is read as the nearest binary64 number. -/
theorem readNumber_of_spells {d : Decimal} {text : List Char} {negative : Bool}
    (h : Spells d.value text) (ends : EndsNumber rest) :
    readNumber ((signText negative).toList ++ (text ++ rest))
      = .ok (.number (.float (d.toBinary64 negative)), rest) := by
  obtain ⟨whole, digits, inexact, value⟩ := h
  rw [List.append_assoc, List.append_assoc, readNumber_append whole digits ends, numberOfParts,
    if_neg inexact, Decimal.toBinary64_congr value]
  rfl

/-- The digits of a number without the zeros at the end, and how many these are. -/
theorem exists_significantDigits {n : ℕ} (pos : 0 < n) : ∃ first rest count,
    significantDigits n = first :: rest ∧ (∀ c ∈ first :: rest, c.isDigit = true) ∧ first ≠ '0' ∧
      n = digitsValue (first :: rest) * 10 ^ count ∧
        digitCount n = (first :: rest).length + count := by
  obtain ⟨count, split⟩ := exists_append_zeros (Nat.toDigits 10 n)
  have same : significantDigits n = dropTrailing (· == '0') (Nat.toDigits 10 n) := rfl
  rw [← same] at split
  have value : 10 ^ count * digitsValue (significantDigits n) = n := by
    have := digitsValue_toDigits n
    rwa [split, digitsValue_append, digitsValue_zeros, zeros, List.length_replicate,
      Nat.add_zero] at this
  have some_digits : significantDigits n ≠ [] := by
    intro none
    rw [none, digitsValue_nil] at value
    omega
  obtain ⟨first, rest, digits⟩ := List.exists_cons_of_ne_nil some_digits
  rw [digits] at split value
  refine ⟨first, rest, count, digits, fun c mem => ?_, ?_, ?_, ?_⟩
  · exact isDigit_of_mem_toDigits (split ▸ List.mem_append_left _ mem)
  · rintro rfl
    have := head?_toDigits_ne_zero pos
    rw [split] at this
    exact this rfl
  · rw [Nat.mul_comm, value]
  · rw [digitCount, if_neg pos.ne', split, List.length_append, zeros, List.length_replicate]

/-- Digits with a point among them spell their value. -/
theorem Spells.of_fraction {v : ℚ} (h : IsWhole whole) (some_digits : fraction ≠ [])
    (digits : ∀ c ∈ fraction, c.isDigit = true)
    (value : (digitsValue (whole ++ fraction) : ℚ) * 10 ^ (-(fraction.length : ℤ)) = v) :
    Spells v (whole ++ '.' :: fraction) := by
  have text : fractionText fraction ++ exponentText none = '.' :: fraction := by
    rw [fractionText, if_neg some_digits]
    exact List.append_nil _
  rw [← text]
  refine .intro h digits (fun both => some_digits both.1) ?_
  rw [value_ofParts, Option.getD_none, zero_sub]
  exact value

theorem isWhole_of_head? {digits : List Char} (some_digits : digits ≠ [])
    (all : ∀ c ∈ digits, c.isDigit = true) (nonzero : digits.head? ≠ some '0') : IsWhole digits :=
  ⟨some_digits, all, fun zero => absurd zero nonzero⟩

theorem isDigit_of_mem_zeros {count : ℕ} {c : Char} (mem : c ∈ zeros count) : c.isDigit = true := by
  rw [List.eq_of_mem_replicate mem]
  rfl

theorem digitsValue_zeros_append (count : ℕ) (digits : List Char) :
    digitsValue (zeros count ++ digits) = digitsValue digits := by
  rw [digitsValue_append, digitsValue_zeros, Nat.mul_zero, Nat.zero_add]

variable {digits : List Char} {point : ℤ}

section Positional

variable (some_digits : digits ≠ []) (all : ∀ c ∈ digits, c.isDigit = true)

include some_digits all

/-- The point before the digits, with zeros after it. -/
theorem spells_point_before (before : point ≤ 0) :
    Spells (digitsValue digits * 10 ^ (point - digits.length))
      ('0' :: '.' :: (zeros (-point).toNat ++ digits)) := by
  have fraction_digits : ∀ c ∈ zeros (-point).toNat ++ digits, c.isDigit = true :=
    List.forall_mem_append.2 ⟨fun _ => isDigit_of_mem_zeros, all⟩
  have exponent : -((zeros (-point).toNat ++ digits).length : ℤ) = point - digits.length := by
    rw [List.length_append, zeros, List.length_replicate]
    omega
  have value : digitsValue ('0' :: (zeros (-point).toNat ++ digits)) = digitsValue digits :=
    digitsValue_zeros_append ((-point).toNat + 1) digits
  refine Spells.of_fraction isWhole_zero (by simp [some_digits]) fraction_digits ?_
  rw [List.singleton_append, value, exponent]

variable (nonzero : digits.head? ≠ some '0')

include nonzero

/-- The point after the digits, with zeros before it. -/
theorem spells_point_after (after : digits.length ≤ point.toNat) :
    Spells (digitsValue digits * 10 ^ (point - digits.length))
      (digits ++ zeros (point.toNat - digits.length) ++ '.' :: ['0']) := by
  have positive : 0 < digits.length := List.length_pos_iff.2 some_digits
  have whole : IsWhole (digits ++ zeros (point.toNat - digits.length)) := by
    apply isWhole_of_head? (by simp [some_digits])
      (List.forall_mem_append.2 ⟨all, fun _ => isDigit_of_mem_zeros⟩)
    rwa [List.head?_append_of_ne_nil _ some_digits]
  refine Spells.of_fraction whole (by simp) (List.forall_mem_singleton.2 rfl) ?_
  have exponent : point - digits.length = (point.toNat - digits.length : ℕ) := by omega
  have zero : digitsValue ['0'] = 0 := rfl
  rw [digitsValue_append, digitsValue_append, digitsValue_zeros, zero, zeros, List.length_replicate,
    List.length_singleton, exponent, zpow_natCast, zpow_neg]
  push_cast
  ring

/-- The point among the digits. -/
theorem spells_point_within (some_before : 0 < point) (some_after : point.toNat < digits.length) :
    Spells (digitsValue digits * 10 ^ (point - digits.length))
      (digits.take point.toNat ++ '.' :: digits.drop point.toNat) := by
  have whole : IsWhole (digits.take point.toNat) := by
    apply isWhole_of_head?
    · rw [Ne, List.take_eq_nil_iff]
      exact not_or.2 ⟨by omega, some_digits⟩
    · exact fun c mem => all c (List.mem_of_mem_take mem)
    · rwa [List.head?_take, if_neg (by omega)]
  refine Spells.of_fraction whole ?_ (fun c mem => all c (List.mem_of_mem_drop mem)) ?_
  · rw [Ne, List.drop_eq_nil_iff]
    omega
  · have exponent : -((digits.drop point.toNat).length : ℤ) = point - digits.length := by
      rw [List.length_drop]
      omega
    rw [List.take_append_drop, exponent]

/-- Wherever the point is put and how many zeros that takes, the numeral is worth the
digits with the point that many places after the first of them. -/
theorem spells_positional : Spells (digitsValue digits * 10 ^ (point - digits.length))
    (documentStyle.positional digits point) := by
  rw [PlainStyle.positional]
  split
  · rename_i before
    exact spells_point_before some_digits all before
  · split
    · rename_i after
      exact spells_point_after some_digits all nonzero after
    · exact spells_point_within some_digits all nonzero (by omega) (by omega)

/-- Digits with a power of ten behind them spell their value. -/
theorem spells_scientific : Spells (digitsValue digits * 10 ^ (point - digits.length))
    (documentStyle.scientific digits (point - 1)) := by
  obtain ⟨first, rest, rfl⟩ := List.exists_cons_of_ne_nil some_digits
  have text : documentStyle.scientific (first :: rest) (point - 1)
      = [first] ++ (fractionText rest ++ exponentText (some (point - 1))) := by
    cases rest <;> rfl
  have whole : IsWhole [first] := by
    apply isWhole_of_head? (by simp) _ (by simpa using nonzero)
    exact fun c mem => all c (by simp [List.mem_singleton.1 mem])
  rw [text]
  refine .intro whole (fun c mem => all c (List.mem_cons_of_mem _ mem)) (by simp) ?_
  rw [value_ofParts, Option.getD_some, List.singleton_append, List.length_cons]
  congr 2
  push_cast
  ring

end Positional

/-- However a decimal is written, that text spells its value. -/
theorem spells_decimal {d : Decimal} (pos : 0 < d.digits) :
    Spells d.value (documentStyle.decimal d) := by
  obtain ⟨first, rest, count, digits, all, nonzero, value, length⟩ := exists_significantDigits pos
  have worth : d.value = digitsValue (first :: rest) * 10 ^ (d.point - (first :: rest).length) := by
    have exponent : d.point - (first :: rest).length = count + d.exponent := by
      rw [Decimal.point, length]
      omega
    rw [exponent, zpow_add₀ (by norm_num), zpow_natCast, Decimal.value, value]
    push_cast
    ring
  have head : (first :: rest).head? ≠ some '0' := by simpa using nonzero
  simp only [PlainStyle.decimal, digits, worth]
  split
  · exact spells_positional (List.cons_ne_nil _ _) all head
  · exact spells_scientific (List.cons_ne_nil _ _) all head

/-- A magnitude is read from any decimal that writes it. -/
theorem toBinary64_of_isWrittenBy {m : Magnitude} {d : Decimal} (h : m.IsWrittenBy d)
    (negative : Bool) : d.toBinary64 negative = .finite negative m := by
  rw [Magnitude.IsWrittenBy, Decimal.toBinary64] at h
  rw [Decimal.toBinary64]
  split at h
  · rename_i none
    rw [if_pos none, (Binary64.finite.inj h).2]
  · rename_i some
    split at h
    · cases h
    · rename_i within
      rw [Binary64.ofRatio] at h
      split at h
      · rename_i inRange
        rw [if_neg some, if_neg within, Binary64.ofRatio, dif_pos inRange,
          (Binary64.finite.inj h).2]
      · cases h

theorem digits_shortest_pos {m : Magnitude} (pos : 0 < m.quanta) : 0 < m.shortest.digits := by
  have written := Magnitude.isWrittenBy_shortest pos
  rw [Nat.pos_iff_ne_zero]
  intro zero
  rw [Magnitude.IsWrittenBy, Decimal.toBinary64, if_pos (Or.inl zero)] at written
  obtain ⟨-, rfl⟩ := Binary64.finite.inj written
  exact absurd pos (Nat.lt_irrefl 0)

theorem spells_zero : Spells (⟨0, 0⟩ : Decimal).value (documentStyle.positional ['0'] 1) := by
  have worth : (⟨0, 0⟩ : Decimal).value = 0 := by simp [Decimal.value]
  have value : digitsValue (['0'] ++ ['0']) = 0 := rfl
  rw [worth]
  show Spells 0 (['0'] ++ '.' :: ['0'])
  refine Spells.of_fraction isWhole_zero (by simp) (List.forall_mem_singleton.2 rfl) ?_
  rw [value, Nat.cast_zero, zero_mul]

/-- A finite number is written by its sign and by a numeral that is read as it. -/
theorem exists_spells (negative : Bool) (m : Magnitude) : ∃ (d : Decimal) (text : List Char),
    (encodeNumber (.float (.finite negative m))).toList = (signText negative).toList ++ text ∧
      Spells d.value text ∧ d.toBinary64 negative = .finite negative m := by
  rw [encodeNumber, PlainStyle.binary64, String.toList_append, String.toList_ofList]
  rcases Nat.eq_zero_or_pos m.quanta with zero | pos
  · obtain rfl : m = .zero := Magnitude.eq_of_quanta_eq zero
    rw [if_pos zero]
    exact ⟨⟨0, 0⟩, _, rfl, spells_zero, rfl⟩
  · rw [if_neg pos.ne']
    exact ⟨m.shortest, _, rfl, spells_decimal (digits_shortest_pos pos),
      toBinary64_of_isWrittenBy (Magnitude.isWrittenBy_shortest pos) negative⟩

/-- A finite binary64 number is read as itself, a zero with its sign. -/
theorem readNumber_finite {negative : Bool} {m : Magnitude} (ends : EndsNumber rest) :
    readNumber ((encodeNumber (.float (.finite negative m))).toList ++ rest)
      = .ok (.number (.float (.finite negative m)), rest) := by
  obtain ⟨d, text, written, spells, value⟩ := exists_spells negative m
  rw [written, List.append_assoc, readNumber_of_spells spells ends, value]

/-! ### How a number begins -/

/-- The text is a sign, a digit and more. -/
def BeginsNumber (text : List Char) : Prop :=
  ∃ negative first others,
    text = (signText negative).toList ++ first :: others ∧ first.isDigit = true

theorem IsWhole.beginsNumber (h : IsWhole whole) (negative : Bool) (rest : List Char) :
    BeginsNumber ((signText negative).toList ++ (whole ++ rest)) := by
  obtain ⟨first, others, rfl⟩ := List.exists_cons_of_ne_nil h.nonempty
  exact ⟨negative, first, others ++ rest, rfl, h.digits first List.mem_cons_self⟩

theorem beginsNumber_int (n : ℤ) : BeginsNumber (encodeNumber (.int n)).toList := by
  have begins := (isWhole_toDigits n.natAbs).beginsNumber (decide (n < 0)) []
  rwa [List.append_nil, ← toList_toString_int] at begins

theorem beginsNumber_finite (negative : Bool) (m : Magnitude) :
    BeginsNumber (encodeNumber (.float (.finite negative m))).toList := by
  obtain ⟨d, text, written, ⟨whole, -, -, -⟩, -⟩ := exists_spells negative m
  rw [written]
  exact whole.beginsNumber negative _

end Json

end TerminalReel
