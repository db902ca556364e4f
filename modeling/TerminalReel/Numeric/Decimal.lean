import TerminalReel.Numeric.Binary64
/-!
# TerminalReel.Numeric.Decimal

Decimal numerals and the binary64 number **nearest** to one.

A numeral is a run of digits with a power of ten, `digits * 10 ^ exponent`.
Reading is one correct rounding of that exact quotient. Only numerals whose
leading digit stands within four hundred places of the point are multiplied
out: all others lie far beyond the finite range, or far below half a quantum.
-/

namespace TerminalReel

/-! ### Runs of digits -/

/-- The value of a decimal digit; of any other character, nothing useful. -/
def digitValue (c : Char) : Nat := c.toNat - '0'.toNat

/-- The number that a run of decimal digits writes. -/
def digitsValue (cs : List Char) : Nat :=
  cs.foldl (fun n c => 10 * n + digitValue c) 0

@[simp] theorem digitsValue_nil : digitsValue [] = 0 := rfl

/-- How many decimal digits a number has; zero has none. -/
def digitCount (n : Nat) : Nat := if n = 0 then 0 else (Nat.toDigits 10 n).length

/-- The power of ten as a fraction, `(numerator, denominator)`. -/
def tenPower (exponent : Int) : Nat × Nat :=
  (Nat.pow 10 exponent.toNat, Nat.pow 10 (-exponent).toNat)

theorem tenPower_snd_pos (exponent : Int) : 0 < (tenPower exponent).2 :=
  Nat.pow_pos (by decide)

/-- An unsigned decimal numeral, `digits * 10 ^ exponent`. -/
structure Decimal where
  digits : Nat
  exponent : Int
  deriving DecidableEq

namespace Decimal

/-- The numeral `whole.fraction` with a power of ten. -/
def ofParts (whole fraction : List Char) (exponent : Int) : Decimal :=
  ⟨digitsValue (whole ++ fraction), exponent - fraction.length⟩

/-- The leading digit stands this many places left of the point. -/
def point (d : Decimal) : Int := digitCount d.digits + d.exponent

/-- Beyond this many places from the point nothing finite and nonzero is left. -/
def reach : Int := 400

/-- The binary64 number nearest to the numeral, with the given sign. -/
def toBinary64 (negative : Bool) (d : Decimal) : Binary64 :=
  if d.digits = 0 ∨ d.point < -reach then .finite negative .zero
  else if reach < d.point then .infinite negative
  else
    .ofRatio negative (d.digits * (tenPower d.exponent).1 * quantaPerOne) (tenPower d.exponent).2
      (tenPower_snd_pos _)

end Decimal

/-! ### The shortest numeral of a number -/

namespace Magnitude

/-- How many places left of the point the leading digit of a positive number
stands: `10 ^ (point - 1) ≤ m < 10 ^ point`. -/
def point (m : Magnitude) : Int :=
  if quantaPerOne ≤ m.quanta then digitCount (m.quanta / quantaPerOne)
  else 1 - digitCount ((quantaPerOne - 1) / m.quanta)

/-- The numeral writes this number: nothing else is as near to it. -/
def IsWrittenBy (m : Magnitude) (d : Decimal) : Prop := d.toBinary64 false = .finite false m

instance (m : Magnitude) (d : Decimal) : Decidable (m.IsWrittenBy d) :=
  inferInstanceAs (Decidable (_ = _))

/-- The numeral of `count` digits that writes the number, if one of its two
neighbours on that grid does; of two, the nearer, and of two equally near the
one whose last digit is even. -/
def numeralOfLength? (m : Magnitude) (count : Nat) : Option Decimal :=
  let exponent := m.point - count
  let num := m.quanta * (tenPower exponent).2
  let den := quantaPerOne * (tenPower exponent).1
  let below : Decimal := ⟨num / den, exponent⟩
  let above : Decimal := ⟨num / den + 1, exponent⟩
  if m.IsWrittenBy below then
    if m.IsWrittenBy above then some ⟨roundDiv num den, exponent⟩ else some below
  else if m.IsWrittenBy above then some above
  else none

/-- The numeral with the fewest digits that writes the number, and of those the
nearest to it. Seventeen digits are always enough. -/
def shortest (m : Magnitude) : Decimal :=
  ((List.range 17).findSome? fun count => m.numeralOfLength? (count + 1)).getD ⟨0, 0⟩

end Magnitude

end TerminalReel
