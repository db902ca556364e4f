import TerminalReel.Numeric.Number
/-!
# TerminalReel.Numeric.Numeral

How a number is **written**, in the two styles that reach the output.

* The *plain* style keeps every digit that is needed to read the same number
  back and no other. It is positional while the point stands near the leading
  digit and scientific beyond, as the record `PlainStyle` says.
* The *places* style has a fixed number of places after the point, the number
  rounded to the nearest multiple of the last place.
-/

namespace TerminalReel

/-- The sign of a negative number; a positive one has none. -/
def signText (negative : Bool) : String := if negative then "-" else ""

/-- A run of `count` zeros. -/
def zeros (count : Nat) : List Char := List.replicate count '0'

/-- A number's decimal digits, with zeros before them up to `width`. -/
def paddedDigits (width n : Nat) : List Char :=
  let digits := Nat.toDigits 10 n
  zeros (width - digits.length) ++ digits

/-- The digits of a number without the zeros at the end. -/
def significantDigits (n : Nat) : List Char :=
  ((Nat.toDigits 10 n).reverse.dropWhile (· == '0')).reverse

/-! ### The plain style -/

/-- The decisions of the plain style. -/
structure PlainStyle where
  /-- The least exponent of ten that is written positionally. -/
  leastPositional : Int
  /-- The greatest exponent of ten that is written positionally. -/
  greatestPositional : Int
  /-- What follows the point of a whole number. -/
  wholeTail : List Char
  /-- The least number of digits of a written exponent. -/
  exponentWidth : Nat
  /-- What an infinity is called, after its sign. -/
  infinity : String
  /-- What a nan is called. -/
  nan : String

/-- Ten thousandths and more, and less than ten quadrillions, are positional; a
point is always written there, and exponents carry a sign and two digits. -/
def plainStyle : PlainStyle where
  leastPositional := -4
  greatestPositional := 15
  wholeTail := ['0']
  exponentWidth := 2
  infinity := "inf"
  nan := "nan"

namespace PlainStyle

/-- The digits with the point put `point` places after the first of them. -/
def positional (style : PlainStyle) (digits : List Char) (point : Int) : List Char :=
  if point ≤ 0 then
    '0' :: '.' :: (zeros (-point).toNat ++ digits)
  else if digits.length ≤ point.toNat then
    digits ++ zeros (point.toNat - digits.length) ++ '.' :: style.wholeTail
  else
    digits.take point.toNat ++ '.' :: digits.drop point.toNat

/-- The digits with the point after the first of them, and the power of ten. -/
def scientific (style : PlainStyle) (digits : List Char) (exponent : Int) : List Char :=
  let mantissa :=
    match digits with
    | first :: second :: rest => first :: '.' :: second :: rest
    | short => short
  let sign := if exponent < 0 then '-' else '+'
  mantissa ++ 'e' :: sign :: paddedDigits style.exponentWidth exponent.natAbs

/-- A positive numeral in this style. -/
def decimal (style : PlainStyle) (d : Decimal) : List Char :=
  let digits := significantDigits d.digits
  let exponent := d.point - 1
  if style.leastPositional ≤ exponent ∧ exponent ≤ style.greatestPositional then
    style.positional digits d.point
  else
    style.scientific digits exponent

/-- A binary64 number in this style. -/
def binary64 (style : PlainStyle) : Binary64 → String
  | .nan => style.nan
  | .infinite negative => signText negative ++ style.infinity
  | .finite negative m =>
    signText negative ++ String.ofList
      (if m.quanta = 0 then style.positional ['0'] 1 else style.decimal m.shortest)

end PlainStyle

/-- A number in full: a whole number as its digits, a binary64 number in the
plain style. -/
def Number.text : Number → String
  | .int n => toString n
  | .float x => plainStyle.binary64 x

instance : ToString Number := ⟨Number.text⟩

/-- The most digits that a whole number is read or written with. -/
def digitLimit : Nat := 4300

/-- The number has no more digits than may be written; a binary64 number never
has. -/
def Number.isWritable : Number → Bool
  | .int n => n.natAbs < Nat.pow 10 digitLimit
  | .float _ => true

/-- A number in full, if it may be written. -/
def Number.fullText (n : Number) : Except ArithmeticError String :=
  if n.isWritable then .ok n.text else .error .tooManyDigits

/-! ### The places style -/

/-- A number of units of the last place, the point put before its last `places`
digits. -/
def placesText (negative : Bool) (places units : Nat) : String :=
  signText negative ++ toString (units / Nat.pow 10 places) ++ "." ++
    String.ofList (paddedDigits places (units % Nat.pow 10 places))

/-- A binary64 number with this many places after the point. -/
def Binary64.placesText (places : Nat) : Binary64 → String
  | .nan => plainStyle.nan
  | .infinite negative => signText negative ++ plainStyle.infinity
  | .finite negative m =>
    TerminalReel.placesText negative places (roundDiv (m.quanta * Nat.pow 10 places) quantaPerOne)

/-- The text without the characters at its end that pass the test. -/
def dropTrailing (test : Char → Bool) (cs : List Char) : List Char :=
  (cs.reverse.dropWhile test).reverse

/-- The compact form of a number: at most four places, no zero at the end of
them, no point without places, and no sign on a zero. -/
def Number.compact (n : Number) : Except ArithmeticError String := do
  let x ← n.operand
  -- The zeros first: the point is at the end only once they are gone.
  let places := dropTrailing (· == '0') (x.placesText 4).toList
  let text := String.ofList (dropTrailing (· == '.') places)
  return if text = "" ∨ text = "-0" then "0" else text

/-! ### Reading a number's own text -/

/-- An optional sign, whether it is a minus, and what follows it. -/
def splitSign : List Char → Bool × List Char
  | '-' :: rest => (true, rest)
  | '+' :: rest => (false, rest)
  | rest => (false, rest)

/-- A run of digits and what follows it. -/
def spanDigits (cs : List Char) : List Char × List Char :=
  (cs.takeWhile Char.isDigit, cs.dropWhile Char.isDigit)

/-- A run of digits ends where a text follows that begins with none. -/
theorem spanDigits_append {digits rest : List Char} (all : ∀ c ∈ digits, c.isDigit = true)
    (stop : ∀ c ∈ rest.head?, c.isDigit = false) :
    spanDigits (digits ++ rest) = (digits, rest) := by
  have h : rest.takeWhile Char.isDigit = [] ∧ rest.dropWhile Char.isDigit = rest := by
    cases rest with
    | nil => simp
    | cons c cs => simp [stop c (by simp)]
  simp [spanDigits, List.takeWhile_append_of_pos all, List.dropWhile_append_of_pos all, h]

/-- A signed power of ten, written after an exponent mark. -/
def exponent? (cs : List Char) : Option (Int × List Char) :=
  let (negative, cs) := splitSign cs
  match spanDigits cs with
  | ([], _) => none
  | (digits, rest) =>
    let n : Int := digitsValue digits
    some (if negative then -n else n, rest)

/-- The binary64 number that a text in the plain style writes. -/
def Binary64.ofText? (text : String) : Option Binary64 :=
  let (negative, cs) := splitSign text.toList
  if cs = plainStyle.nan.toList then some .nan
  else if cs = plainStyle.infinity.toList then some (.infinite negative)
  else
    let (whole, cs) := spanDigits cs
    let (fraction, cs) :=
      match cs with
      | '.' :: cs => spanDigits cs
      | cs => ([], cs)
    if whole ++ fraction = [] then none
    else
      match cs with
      | [] => some ((Decimal.ofParts whole fraction 0).toBinary64 negative)
      | 'e' :: cs =>
        match exponent? cs with
        | some (exponent, []) =>
          some ((Decimal.ofParts whole fraction exponent).toBinary64 negative)
        | _ => none
      | _ => none

end TerminalReel
