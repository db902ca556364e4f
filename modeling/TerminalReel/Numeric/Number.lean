import TerminalReel.Numeric.Decimal
/-!
# TerminalReel.Numeric.Number

The numbers of a configuration: **whole numbers of any size and binary64
numbers**, told apart by how they were written.

Two whole numbers add and multiply exactly; a whole number that meets a binary64
number is rounded to one first, and the result is binary64. That step fails when
the whole number lies beyond the finite range, so arithmetic answers in
`Except ArithmeticError`. Comparison never rounds: it asks where the numbers lie
on the line.
-/

namespace TerminalReel

/-- A number as a configuration writes it. -/
inductive Number
  /-- A whole number, of any size. -/
  | int (value : Int)
  /-- A number with a fraction or an exponent, or the result of inexact arithmetic. -/
  | float (value : Binary64)
  deriving DecidableEq

/-- Why a piece of arithmetic has no result. -/
inductive ArithmeticError
  /-- A whole number beyond the finite range met a binary64 number. -/
  | intTooLarge
  /-- The quotient of two whole numbers lies beyond the finite range. -/
  | quotientTooLarge
  /-- A whole number was divided by the whole number zero. -/
  | intDivisionByZero
  /-- A division with a binary64 operand had a zero divisor. -/
  | floatDivisionByZero
  /-- A whole number has more digits than may be written. -/
  | tooManyDigits
  deriving DecidableEq

/-- The wording of each cause. -/
def ArithmeticError.message : ArithmeticError → String
  | intTooLarge => "int too large to convert to float"
  | quotientTooLarge => "integer division result too large for a float"
  | intDivisionByZero => "division by zero"
  | floatDivisionByZero => "float division by zero"
  | tooManyDigits => "too many digits in a whole number"

namespace Number

instance : Inhabited Number := ⟨.int 0⟩

instance : Coe Int Number := ⟨.int⟩

instance (n : Nat) : OfNat Number n := ⟨.int n⟩

/-! ### Places on the line -/

/-- A place on the extended line, counted in quanta. -/
inductive Place
  /-- Left of every number. -/
  | leftEnd
  /-- A whole number of quanta from zero. -/
  | quanta (count : Int)
  /-- Right of every number. -/
  | rightEnd
  deriving DecidableEq

namespace Place

/-- Strictly left of. -/
def lt : Place → Place → Bool
  | leftEnd, leftEnd => false
  | leftEnd, _ => true
  | quanta a, quanta b => a < b
  | quanta _, rightEnd => true
  | quanta _, leftEnd => false
  | rightEnd, _ => false

/-- Left of or the same. -/
def le (p q : Place) : Bool := !q.lt p

@[simp] theorem lt_quanta (a b : Int) : (quanta a).lt (quanta b) = decide (a < b) := rfl

@[simp] theorem le_quanta (a b : Int) : (quanta a).le (quanta b) = decide (a ≤ b) := by
  rw [le, lt_quanta, ← decide_not]
  exact decide_eq_decide.2 Int.not_lt

end Place

/-- Where a number lies; a nan lies nowhere. -/
def place? : Number → Option Place
  | .int n => some (.quanta (n * quantaPerOne))
  | .float (.finite negative m) => some (.quanta (Binary64.signedQuanta negative m))
  | .float (.infinite negative) => some (if negative then .leftEnd else .rightEnd)
  | .float .nan => none

/-- A comparison of places; with a nan on either side it fails. -/
def compares (test : Place → Place → Bool) (a b : Number) : Bool :=
  match a.place?, b.place? with
  | some p, some q => test p q
  | _, _ => false

/-- `a` lies left of `b`. -/
def lt (a b : Number) : Bool := compares Place.lt a b

/-- `a` lies left of `b`, or where `b` lies. -/
def le (a b : Number) : Bool := compares Place.le a b

/-- The greater number; `a` unless `b` lies right of it. -/
def max (a b : Number) : Number := if a.lt b then b else a

/-- The lesser number; `a` unless `b` lies left of it. -/
def min (a b : Number) : Number := if b.lt a then b else a

/-! ### Conversion -/

/-- The binary64 number nearest to this one, infinite beyond the finite range. -/
def toBinary64 : Number → Binary64
  | .int n => .ofInt n
  | .float x => x

/-- The binary64 operand that a number makes; a whole number beyond the finite
range makes none. -/
def operand : Number → Except ArithmeticError Binary64
  | .int n => if (Binary64.ofInt n).isFinite then .ok (.ofInt n) else .error .intTooLarge
  | .float x => .ok x

@[simp] theorem operand_float (x : Binary64) : (float x).operand = .ok x := rfl

/-! ### Arithmetic -/

/-- Exact on two whole numbers, binary64 as soon as one operand is. -/
def combine (exact : Int → Int → Int) (rounded : Binary64 → Binary64 → Binary64) :
    Number → Number → Except ArithmeticError Number
  | .int a, .int b => .ok (.int (exact a b))
  | a, b => do
    let x ← a.operand
    let y ← b.operand
    return .float (rounded x y)

/-- The sum. -/
def add : Number → Number → Except ArithmeticError Number := combine (· + ·) .add

/-- The product. -/
def mul : Number → Number → Except ArithmeticError Number := combine (· * ·) .mul

/-- The difference. -/
def sub : Number → Number → Except ArithmeticError Number :=
  combine (· - ·) fun x y => x.add y.neg

@[simp] theorem add_int (a b : Int) : (int a).add (int b) = .ok (int (a + b)) := rfl

@[simp] theorem mul_int (a b : Int) : (int a).mul (int b) = .ok (int (a * b)) := rfl

@[simp] theorem add_float (x y : Binary64) : (float x).add (float y) = .ok (float (x.add y)) := rfl

/-- The quotient of two whole numbers, rounded once. -/
def divInt (a b : Int) : Except ArithmeticError Number :=
  if pos : 0 < b.natAbs then
    let q := Binary64.ofRatio (decide (a < 0) != decide (b < 0)) (a.natAbs * quantaPerOne)
      b.natAbs pos
    if q.isFinite then .ok (.float q) else .error .quotientTooLarge
  else .error .intDivisionByZero

/-- The quotient, always binary64. -/
def div : Number → Number → Except ArithmeticError Number
  | .int a, .int b => divInt a b
  | a, b => do
    let x ← a.operand
    let y ← b.operand
    if y.isZero then .error .floatDivisionByZero else return .float (x.div y)

/-- The nearest multiple of `10 ^ -places`; a whole number is one. -/
def roundPlaces (places : Nat) : Number → Number
  | .int n => .int n
  | .float x => .float (x.roundPlaces places)

end Number

end TerminalReel
