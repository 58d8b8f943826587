import GameClient.Decimal.Binary64

/-!
# Shortest decimals

The decimal text of a floating-point number: the fewest digits that round back to the number, and of
those the nearest. It is positional between `10 ^ -5` and `10 ^ 16` and has an exponent elsewhere; a
positional text always has a decimal point, and an exponent always has a sign.
-/

namespace GameClient.Binary64

structure Decimal where
  digits : Nat
  exponent : Int
  deriving DecidableEq, Repr

/-- The real numbers that round to a magnitude, in units of a quarter of its last place. -/
structure Cell where
  low : Nat
  middle : Nat
  high : Nat
  /-- The exponent of two of the unit. -/
  unit : Int
  /-- The two ends round to the magnitude too. -/
  closed : Bool

/-- The cell of a magnitude. Below a power of two the spacing of the numbers halves. -/
def cellOf (x : Magnitude) : Cell where
  low := 4 * x.mantissa -
    (if x.mantissa = Nat.pow 2 (precision - 1) ∧ leastExponent < x.exponent then 1 else 2)
  middle := 4 * x.mantissa
  high := 4 * x.mantissa + 2
  unit := x.exponent - 2
  closed := x.mantissa % 2 = 0

/-- Brings `a · 10 ^ s` and `b · 2 ^ t` to one denominator and gives the two numerators. -/
def onOneScale (a : Nat) (s : Int) (b : Nat) (t : Int) : Nat × Nat :=
  (a * Nat.pow 10 s.toNat * Nat.pow 2 (-t).toNat,
    b * Nat.pow 2 t.toNat * Nat.pow 10 (-s).toNat)

/-- The decimal `a · 10 ^ s` rounds to the magnitude of the cell. -/
def Cell.holds (cell : Cell) (a : Nat) (s : Int) : Bool :=
  let low := onOneScale a s cell.low cell.unit
  let high := onOneScale a s cell.high cell.unit
  if cell.closed then low.2 ≤ low.1 && high.1 ≤ high.2 else low.2 < low.1 && high.1 < high.2

/-- The greatest `a` with `a · 10 ^ s` not above the middle of the cell. -/
def Cell.floorAt (cell : Cell) (s : Int) : Nat :=
  let one := onOneScale 1 s cell.middle cell.unit
  one.2 / one.1

/-- The upper neighbour on the grid of `10 ^ s` is nearer to the middle than the lower one. -/
def Cell.prefersUpper (cell : Cell) (a : Nat) (s : Int) : Bool :=
  let doubled := onOneScale (2 * a + 1) s (2 * cell.middle) cell.unit
  doubled.1 < doubled.2 || (doubled.1 == doubled.2 && a % 2 == 1)

/-- The decimal on the grid of `10 ^ s` that stands for the cell, if the grid has one. -/
def Cell.onGrid? (cell : Cell) (s : Int) : Option Decimal :=
  let a := cell.floorAt s
  match cell.holds a s, cell.holds (a + 1) s with
  | true, true => some ⟨if cell.prefersUpper a s then a + 1 else a, s⟩
  | true, false => some ⟨a, s⟩
  | false, true => some ⟨a + 1, s⟩
  | false, false => none

/-- The exponent of ten of the first digit of the middle of the cell. -/
def Cell.leadingPlace (cell : Cell) : Int :=
  let guess := Int.fdiv (((cell.middle.log2 : Int) + cell.unit) * 30103) 100000
  let reaches (p : Int) : Bool :=
    let one := onOneScale 1 p cell.middle cell.unit
    one.1 ≤ one.2
  if reaches (guess + 1) then guess + 1 else if reaches guess then guess else guess - 1

/-- Drops zeros at the end of the digits, at most `fuel` of them. -/
def Decimal.strip : Nat → Decimal → Decimal
  | 0, d => d
  | fuel + 1, d =>
    if d.digits % 10 = 0 ∧ d.digits ≠ 0 then strip fuel ⟨d.digits / 10, d.exponent + 1⟩ else d

/-- Seventeen digits tell any two numbers of the format apart. -/
def mostDigits : Nat := 17

/-- The shortest decimal that rounds to a magnitude. -/
def shortest (x : Magnitude) : Decimal :=
  if x.mantissa = 0 then ⟨0, 0⟩
  else
    let cell := cellOf x
    let place := cell.leadingPlace
    let grids := (List.range mostDigits).map fun (n : Nat) => place - (n : Int)
    match grids.findSome? cell.onGrid? with
    | some d => d.strip (mostDigits + 1)
    | none => ⟨cell.floorAt (place - mostDigits), place - mostDigits⟩

/-! ### Layout -/

structure Layout where
  /-- The most digits before the point of a positional text. -/
  mostWhole : Int
  /-- The most zeros between the point and the first digit of a positional text. -/
  mostZeros : Int
  /-- The sign of an exponent that is not negative. -/
  exponentSign : String

/-- Positional below `10 ^ 16` and from `10 ^ -5` on, with a sign in every exponent. -/
def plainLayout : Layout := ⟨16, 4, "+"⟩

def Decimal.render (layout : Layout) (d : Decimal) : String :=
  let ds := Nat.toDigits 10 d.digits
  let point : Int := ds.length + d.exponent
  if 0 ≤ d.exponent ∧ point ≤ layout.mostWhole then
    String.ofList (ds ++ List.replicate d.exponent.toNat '0') ++ ".0"
  else if 0 < point ∧ point ≤ layout.mostWhole then
    String.ofList (ds.take point.toNat ++ '.' :: ds.drop point.toNat)
  else if -layout.mostZeros ≤ point ∧ point ≤ 0 then
    "0." ++ String.ofList (List.replicate (-point).toNat '0' ++ ds)
  else
    let scale := point - 1
    let scaleText := (if scale < 0 then "-" else layout.exponentSign) ++ scale.natAbs.repr
    match ds with
    | [d] => d.toString ++ "e" ++ scaleText
    | d :: rest => d.toString ++ "." ++ String.ofList rest ++ "e" ++ scaleText
    | [] => "0.0"

def text (x : Binary64) : String :=
  let digits := (shortest ⟨x.mantissa, x.exponent⟩).render plainLayout
  if x.negative then "-" ++ digits else digits

end GameClient.Binary64
