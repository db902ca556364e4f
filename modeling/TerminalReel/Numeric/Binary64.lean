import TerminalReel.Numeric.Rounding
/-!
# TerminalReel.Numeric.Binary64

Binary floating-point numbers of 64 bits, **as exact integers**.

Every finite binary64 number is a whole multiple of `2 ^ -1074`, the quantum.
A magnitude is therefore kept as its number of quanta, and being representable
is a property of that natural number (`Fits`): at most 53 significant bits, and
below `2 ^ 1024`. The order of numbers is then the order of integers, and an
operation is its exact result **rounded once** by `nearestFit`.

The invariant is part of the type, so there is no value of `Binary64` that is
not a binary64 number, and a statement about all of them needs no side
condition.
-/

namespace TerminalReel

/-- Two to a power. -/
def twoPower (exponent : Nat) : Nat := Nat.pow 2 exponent

theorem twoPower_pos (exponent : Nat) : 0 < twoPower exponent := Nat.two_pow_pos exponent

/-- The quantum is one half to this power. -/
def quantumExponent : Nat := 1074

/-- The finite numbers lie below two to this power. -/
def limitExponent : Nat := 1024

/-- The number of quanta in one. -/
def quantaPerOne : Nat := twoPower quantumExponent

/-- The number of quanta in the power of two where the finite range ends. -/
def quantaLimit : Nat := twoPower (quantumExponent + limitExponent)

theorem quantaPerOne_pos : 0 < quantaPerOne := twoPower_pos quantumExponent

theorem quantaLimit_pos : 0 < quantaLimit := twoPower_pos (quantumExponent + limitExponent)

/-- The distance between neighbouring magnitudes around `quanta`, which is what 53
significant bits leave. -/
def spacing (quanta : Nat) : Nat := twoPower (quanta.log2 - 52)

theorem spacing_pos (quanta : Nat) : 0 < spacing quanta := twoPower_pos _

/-- A natural number of quanta is a binary64 magnitude: below the limit, and a
multiple of the spacing at its size. -/
def Fits (quanta : Nat) : Prop :=
  quanta < quantaLimit ∧ spacing quanta ∣ quanta

instance (quanta : Nat) : Decidable (Fits quanta) :=
  inferInstanceAs (Decidable (_ ∧ _))

/-- The size of a finite number, in quanta. -/
structure Magnitude where
  /-- How many quanta the number holds. -/
  quanta : Nat
  /-- The quanta fit 53 significant bits. -/
  fits : Fits quanta
  deriving DecidableEq

namespace Magnitude

theorem fits_zero : Fits 0 := ⟨quantaLimit_pos, Nat.dvd_zero _⟩

/-- The size of both zeros. -/
def zero : Magnitude := ⟨0, fits_zero⟩

@[simp] theorem quanta_zero : zero.quanta = 0 := rfl

theorem eq_of_quanta_eq {a b : Magnitude} (h : a.quanta = b.quanta) : a = b := by
  cases a; cases b; simp_all

end Magnitude

/-! ### The nearest representable number of quanta -/

/-- The quotient `num / den`, in quanta, rounded to 53 significant bits. -/
def nearestFit (num den : Nat) : Nat :=
  roundDiv num (den * spacing (num / den)) * spacing (num / den)

theorem lt_two_pow_mul_spacing (q : Nat) : q < twoPower 53 * spacing q := by
  have h : q < 2 ^ (q.log2 + 1) := Nat.lt_log2_self
  refine Nat.lt_of_lt_of_le h ?_
  show 2 ^ (q.log2 + 1) ≤ 2 ^ 53 * 2 ^ (q.log2 - 52)
  rw [← Nat.pow_add]
  exact Nat.pow_le_pow_right (by decide) (by omega)

/-- Rounding leaves at most 53 significant bits, where rounding up to the next
power of two only makes the number rounder. -/
theorem dvd_nearestFit (num den : Nat) (pos : 0 < den) :
    spacing (nearestFit num den) ∣ nearestFit num den := by
  let s := num / den
  have hs : spacing s = 2 ^ (s.log2 - 52) := rfl
  have hk : roundDiv num (den * spacing s) ≤ 2 ^ 53 := by
    apply roundDiv_le_of_lt
    have h := lt_two_pow_mul_spacing s
    rw [Nat.div_lt_iff_lt_mul pos] at h
    calc num < 2 ^ 53 * spacing s * den := h
      _ = 2 ^ 53 * (den * spacing s) := by rw [Nat.mul_assoc, Nat.mul_comm (spacing s)]
  show 2 ^ ((roundDiv num (den * spacing s) * spacing s).log2 - 52)
    ∣ roundDiv num (den * spacing s) * spacing s
  generalize roundDiv num (den * spacing s) = k at hk
  rw [hs]
  rcases Nat.lt_or_ge k (2 ^ 53) with hlt | hge
  · refine Nat.dvd_trans (Nat.pow_dvd_pow 2 ?_) (Nat.dvd_mul_left _ k)
    rcases Nat.eq_zero_or_pos k with rfl | kpos
    · simp
    · have hne : k * 2 ^ (s.log2 - 52) ≠ 0 :=
        Nat.ne_of_gt (Nat.mul_pos kpos (Nat.two_pow_pos _))
      have : (k * 2 ^ (s.log2 - 52)).log2 < 53 + (s.log2 - 52) := by
        rw [Nat.log2_lt hne, Nat.pow_add]
        exact Nat.mul_lt_mul_of_pos_right hlt (Nat.two_pow_pos _)
      omega
  · have : k = 2 ^ 53 := Nat.le_antisymm hk hge
    subst this
    rw [← Nat.pow_add, Nat.log2_two_pow]
    exact Nat.pow_dvd_pow 2 (by omega)

/-! ### Values -/

/-- A binary64 number. -/
inductive Binary64
  /-- A number of the given size; the zero of each sign is a number of its own. -/
  | finite (negative : Bool) (magnitude : Magnitude)
  /-- The infinity of one sign. -/
  | infinite (negative : Bool)
  /-- The result of an operation that has none. -/
  | nan
  deriving DecidableEq

namespace Binary64

instance : Inhabited Binary64 := ⟨.nan⟩

/-- The number nearest to `num / den` quanta, with the given sign; beyond the
finite range, the infinity of that sign. -/
def ofRatio (negative : Bool) (num den : Nat) (pos : 0 < den := by decide) : Binary64 :=
  if inRange : nearestFit num den < quantaLimit then
    .finite negative ⟨nearestFit num den, inRange, dvd_nearestFit num den pos⟩
  else
    .infinite negative

/-- The number nearest to the fraction `num / den` of one; over zero there is none. -/
def ofFraction (num den : Nat) : Binary64 :=
  if pos : 0 < den then ofRatio false (num * quantaPerOne) den pos else .nan

/-- The zero that no subtraction produces from above. -/
def zero : Binary64 := .finite false .zero

/-- The number nearest to an integer, infinite beyond the finite range. -/
def ofInt (n : Int) : Binary64 := ofRatio (n < 0) (n.natAbs * quantaPerOne) 1

/-- Neither infinite nor nan. -/
def isFinite : Binary64 → Bool
  | .finite .. => true
  | _ => false

/-- The other sign. -/
def neg : Binary64 → Binary64
  | .finite negative m => .finite (!negative) m
  | .infinite negative => .infinite (!negative)
  | .nan => .nan

/-- A size with its sign, as an integer number of quanta. -/
def signedQuanta (negative : Bool) (m : Magnitude) : Int :=
  if negative then -(m.quanta : Int) else m.quanta

/-! ### Arithmetic

Each operation is stated by its exact result; `ofRatio` is the only rounding. -/

/-- The sum; an exact zero is negative only if both terms are. -/
def add : Binary64 → Binary64 → Binary64
  | .finite a m, .finite b n =>
    let sum := signedQuanta a m + signedQuanta b n
    -- An exact zero has no sign of its own.
    if sum = 0 then .finite (a && b) .zero else ofRatio (sum < 0) sum.natAbs 1
  | .infinite a, .infinite b => if a = b then .infinite a else .nan
  | .infinite a, .finite .. => .infinite a
  | .finite .., .infinite b => .infinite b
  | .nan, _ | _, .nan => .nan

/-- The product, whose sign is that of exactly one negative factor. -/
def mul : Binary64 → Binary64 → Binary64
  | .finite a m, .finite b n =>
    ofRatio (a != b) (m.quanta * n.quanta) quantaPerOne quantaPerOne_pos
  | .infinite a, .infinite b => .infinite (a != b)
  | .infinite a, .finite b m | .finite b m, .infinite a =>
    if m.quanta = 0 then .nan else .infinite (a != b)
  | .nan, _ | _, .nan => .nan

/-- The quotient; a finite number over a zero is infinite, a zero over a zero
is nothing. -/
def div : Binary64 → Binary64 → Binary64
  | .finite a m, .finite b n =>
    if pos : 0 < n.quanta then ofRatio (a != b) (m.quanta * quantaPerOne) n.quanta pos
    else if m.quanta = 0 then .nan
    else .infinite (a != b)
  | .infinite a, .finite b _ => .infinite (a != b)
  | .finite a _, .infinite b => .finite (a != b) .zero
  | .infinite _, .infinite _ => .nan
  | .nan, _ | _, .nan => .nan

/-- A zero of either sign. -/
def isZero : Binary64 → Bool
  | .finite _ m => m.quanta == 0
  | _ => false

/-- The number nearest to `x` among the multiples of `10 ^ -places`, then the
binary64 number nearest to that multiple. What is not finite stays as it is. -/
def roundPlaces (x : Binary64) (places : Nat) : Binary64 :=
  match x with
  | .finite negative m =>
    ofRatio negative (roundDiv (m.quanta * Nat.pow 10 places) quantaPerOne * quantaPerOne)
      (Nat.pow 10 places) (Nat.pow_pos (by decide))
  | other => other

/-! ### What the operations leave alone -/

theorem ofFraction_of_pos (num : Nat) {den : Nat} (pos : 0 < den) :
    ofFraction num den = ofRatio false (num * quantaPerOne) den pos :=
  dif_pos pos

/-- A number that fits is its own rounding. -/
theorem nearestFit_of_fits {quanta : Nat} (h : Fits quanta) : nearestFit quanta 1 = quanta := by
  obtain ⟨k, hk⟩ := h.2
  unfold nearestFit
  rw [Nat.div_one, Nat.one_mul]
  have : quanta = k * spacing quanta := by rw [Nat.mul_comm]; exact hk
  calc roundDiv quanta (spacing quanta) * spacing quanta
      = roundDiv (k * spacing quanta) (spacing quanta) * spacing quanta := by rw [← this]
    _ = quanta := by rw [roundDiv_mul_self k (spacing_pos _), ← this]

/-- Rounding a representable number changes nothing. -/
theorem ofRatio_quanta (negative : Bool) (m : Magnitude) :
    ofRatio negative m.quanta 1 = .finite negative m := by
  unfold ofRatio
  simp [nearestFit_of_fits m.fits, m.fits.1]

end Binary64

end TerminalReel
