/-!
# Binary floating point

Finite numbers of the 64-bit binary format, as a sign, a whole mantissa and an exponent of two, with
exact rounding. Everything is computed on natural numbers: a quotient is rounded to the nearest
representable number, a half to the even neighbour.

A decimal numeral is turned into such a number in the way of a reader that keeps one 64-bit word of
digits and then scales it by a power of ten: each scaling step rounds.
-/

namespace GameClient

/-- A finite floating-point number: `± mantissa · 2 ^ exponent`. -/
structure Binary64 where
  negative : Bool
  mantissa : Nat
  exponent : Int
  deriving DecidableEq, Repr

namespace Binary64

/-! ### Magnitudes -/

structure Magnitude where
  mantissa : Nat
  exponent : Int
  deriving DecidableEq, Repr

/-- The exponent of the smallest step of the format. -/
def leastExponent : Int := -1074

/-- The exponent of the largest step of the format. -/
def greatestExponent : Int := 971

def precision : Nat := 53

/-- A natural number over a power of two as a fraction of natural numbers. -/
def dyadic (mantissa : Nat) (exponent : Int) : Nat × Nat :=
  (mantissa * Nat.pow 2 exponent.toNat, Nat.pow 2 (-exponent).toNat)

/-- The quotient rounded to a whole number, a half to the even neighbour. -/
def roundQuotient (num den : Nat) : Nat :=
  let q := num / den
  let r := num % den
  if den < 2 * r ∨ (2 * r = den ∧ q % 2 = 1) then q + 1 else q

/-- The quotient `num / den` in units of `2 ^ exponent`, as a fraction. -/
def inUnits (num den : Nat) (exponent : Int) : Nat × Nat :=
  (num * Nat.pow 2 (-exponent).toNat, den * Nat.pow 2 exponent.toNat)

/-- The exponent at which the quotient `num / den` has a full mantissa, or the least one. -/
def unitFor (num den : Nat) : Int :=
  let guess : Int := max ((num.log2 : Int) - (den.log2 : Int) - precision) leastExponent
  let scaled := inUnits num den guess
  if Nat.pow 2 precision ≤ scaled.1 / scaled.2 then guess + 1 else guess

/-- The magnitude nearest to `num / den`, with no bound on its exponent. -/
def round (num den : Nat) : Magnitude :=
  let unit := unitFor num den
  let scaled := inUnits num den unit
  let q := roundQuotient scaled.1 scaled.2
  if q = Nat.pow 2 precision then ⟨Nat.pow 2 (precision - 1), unit + 1⟩ else ⟨q, unit⟩

namespace Magnitude

def isFinite (x : Magnitude) : Bool := x.exponent ≤ greatestExponent

def mul (x y : Magnitude) : Magnitude :=
  let product := dyadic (x.mantissa * y.mantissa) (x.exponent + y.exponent)
  round product.1 product.2

def div (x y : Magnitude) : Magnitude :=
  let num := dyadic x.mantissa x.exponent
  let den := dyadic y.mantissa y.exponent
  round (num.1 * den.2) (num.2 * den.1)

end Magnitude

/-! ### Scaling by powers of ten -/

/-- The greatest power of ten that one step scales by. -/
def decimalStep : Nat := 308

def powerOfTen (k : Nat) : Magnitude := round (Nat.pow 10 k) 1

/-- A magnitude divided by `10 ^ k`, in steps of at most `10 ^ 308`. -/
def divideByTen (x : Magnitude) (k : Nat) : Magnitude :=
  if k ≤ decimalStep then x.div (powerOfTen k)
  else if x.mantissa = 0 then x
  else divideByTen (x.div (powerOfTen decimalStep)) (k - decimalStep)
termination_by k
decreasing_by simp only [decimalStep] at *; omega

/-- The number `digits · 10 ^ exponent`, unless it is beyond the range of the format. -/
def ofDecimal? (digits : Nat) (exponent : Int) : Option Magnitude :=
  let x := round digits 1
  if exponent < 0 then some (divideByTen x (-exponent).toNat)
  else if decimalStep < exponent.toNat then if x.mantissa = 0 then some x else none
  else
    let product := x.mul (powerOfTen exponent.toNat)
    if product.isFinite then some product else none

def signed (negative : Bool) (x : Magnitude) : Binary64 := ⟨negative, x.mantissa, x.exponent⟩

end Binary64

end GameClient
