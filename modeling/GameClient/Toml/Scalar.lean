import GameClient.Text.Rest
import GameClient.Toml.Lexeme
import GameClient.Toml.Value

/-!
# Numbers, dates and times

Numbers may have underscores between digits. Whole numbers fit 64 bits with a sign; a positive
floating-point number has to be finite. Dates and times are checked against the calendar and the
clock.
-/

namespace GameClient.Toml

open Text (afterWord? digitValue? hexValue?)

def isDigit (c : Char) : Bool := (digitValue? c).isSome

/-! ### Numbers -/

/-- The digits in front of a text, with single underscores between them; `none` where an underscore
has no digit behind it. -/
def moreDigits (valid : Char → Bool) : List Char → Option (List Char × List Char)
  | [] => some ([], [])
  | '_' :: d :: rest =>
    if valid d then (moreDigits valid rest).map (prepend d) else none
  | c :: rest =>
    if c == '_' then none
    else if valid c then (moreDigits valid rest).map (prepend c)
    else some ([], c :: rest)

/-- At least one digit, with single underscores between them. -/
def someDigits (valid : Char → Bool) : List Char → Option (List Char × List Char)
  | [] => none
  | c :: rest => if valid c then (moreDigits valid rest).map (prepend c) else none

/-- The sign in front of a number: whether it is negative, and the rest. -/
def readSign : List Char → Bool × List Char
  | '+' :: rest => (false, rest)
  | '-' :: rest => (true, rest)
  | input => (false, input)

/-- The digits of a whole number: a zero stands alone. -/
def wholeDigits : List Char → Option (List Char × List Char)
  | '0' :: rest => some (['0'], rest)
  | input => someDigits isDigit input

def valueOf (base : Nat) (digits : List Char) : Nat :=
  digits.foldl (fun n c => base * n + (hexValue? c).getD 0) 0

/-- The least number that is too large for 64 bits with a sign. -/
def signBound : Int := 9223372036854775808

def signed64? (n : Int) : Option Value :=
  if -signBound ≤ n ∧ n < signBound then some (.integer n) else none

def isDigitOf (base : Nat) (c : Char) : Bool :=
  match hexValue? c with
  | some d => d < base
  | none => false

/-- A whole number in another base, behind its mark. -/
def readBased (base : Nat) (input : List Char) : Option (Value × List Char) :=
  match someDigits (isDigitOf base) input with
  | some (digits, rest) => (signed64? (valueOf base digits)).map fun value => (value, rest)
  | none => none

/-- The least number that is too large for a floating-point number of 64 bits. -/
def overflowBound : Nat := (Nat.pow 2 54 - 1) * Nat.pow 2 970

/-- The number `digits · 10 ^ exponent` is too large for a floating-point number of 64 bits. -/
def overflows (digits : Nat) (exponent : Int) : Bool :=
  if digits = 0 then false
  else if 0 ≤ exponent then
    309 < exponent.toNat || overflowBound ≤ digits * Nat.pow 10 exponent.toNat
  else
    let places := (-exponent).toNat
    if digits < overflowBound then false
    else if digits.log2 < places then false
    else overflowBound * Nat.pow 10 places ≤ digits

def readFraction : List Char → Option (List Char × List Char)
  | '.' :: rest => someDigits isDigit rest
  | input => some ([], input)

def readExponent (input : List Char) : Option (Option Int × List Char) :=
  match input with
  | c :: rest =>
    if c == 'e' || c == 'E' then
      let (negative, rest) := readSign rest
      match someDigits isDigit rest with
      | some (digits, rest) =>
        let n : Int := valueOf 10 digits
        some (some (if negative then -n else n), rest)
      | none => none
    else some (none, input)
  | [] => some (none, [])

def readDecimal (input : List Char) : Option (Value × List Char) := do
  let (negative, unsigned) := readSign input
  let (whole, rest) ← wholeDigits unsigned
  let (fraction, rest) ← readFraction rest
  let (exponent, rest) ← readExponent rest
  if fraction.isEmpty && exponent.isNone then
    let n : Int := valueOf 10 whole
    (signed64? (if negative then -n else n)).map fun value => (value, rest)
  else
    let scale := exponent.getD 0 - (fraction.length : Int)
    if !negative && overflows (valueOf 10 (whole ++ fraction)) scale then none
    else
      some (.float (String.ofList (input.take (input.length - rest.length))), rest)

/-! ### Dates and times -/

/-- The number of exactly `n` digits in front of a text. -/
def exactDigits : Nat → Nat → List Char → Option (Nat × List Char)
  | 0, acc, input => some (acc, input)
  | n + 1, acc, c :: rest => (digitValue? c).bind fun d => exactDigits n (10 * acc + d) rest
  | _ + 1, _, [] => none

/-- The rest behind a certain character. -/
def after? (c : Char) : List Char → Option (List Char)
  | d :: rest => if d = c then some rest else none
  | [] => none

def daysOfMonth (year month : Nat) : Nat :=
  if month = 2 then
    if year % 4 = 0 ∧ (year % 100 ≠ 0 ∨ year % 400 = 0) then 29 else 28
  else if month = 4 ∨ month = 6 ∨ month = 9 ∨ month = 11 then 30 else 31

/-- What follows a date of the calendar. -/
def afterDate? (input : List Char) : Option (List Char) := do
  let (year, rest) ← exactDigits 4 0 input
  let (month, rest) ← exactDigits 2 0 (← after? '-' rest)
  let (day, rest) ← exactDigits 2 0 (← after? '-' rest)
  if 1 ≤ month ∧ month ≤ 12 ∧ 1 ≤ day ∧ day ≤ daysOfMonth year month then some rest else none

def afterMinutes? (input : List Char) : Option (List Char) := do
  let (hour, rest) ← exactDigits 2 0 input
  let (minute, rest) ← exactDigits 2 0 (← after? ':' rest)
  if hour ≤ 23 ∧ minute ≤ 59 then some rest else none

def afterTime? (input : List Char) : Option (List Char) := do
  let rest ← afterMinutes? input
  let (second, rest) ← exactDigits 2 0 (← after? ':' rest)
  if second ≤ 60 then
    match rest with
    | '.' :: fraction =>
      if (fraction.takeWhile isDigit).isEmpty then some rest else some (fraction.dropWhile isDigit)
    | rest => some rest
  else none

/-- What follows a distance from universal time, if there is one; `none` where one is begun and not
finished. -/
def afterOffset? : List Char → Option (List Char)
  | 'Z' :: rest | 'z' :: rest => some rest
  | '+' :: rest | '-' :: rest => afterMinutes? rest
  | input => some input

/-- What follows a date, with or without a time. -/
def afterDateTime? (input : List Char) : Option (List Char) :=
  match afterDate? input with
  | none => afterTime? input
  | some rest =>
    match rest with
    | c :: time =>
      if c == 'T' || c == 't' || c == ' ' then
        match afterTime? time with
        | some rest => afterOffset? rest
        | none => some rest
      else some rest
    | [] => some []

/-- What follows a number that has no digits: infinity, or what is no number. -/
def afterSpecial? (input : List Char) : Option (List Char) :=
  let unsigned := (readSign input).2
  (afterWord? ['i', 'n', 'f'] unsigned).or (afterWord? ['n', 'a', 'n'] unsigned)

def readNumber (input : List Char) : Option (Value × List Char) :=
  match afterDateTime? input with
  | some rest => some (.dateTime (String.ofList (input.take (input.length - rest.length))), rest)
  | none =>
    match afterSpecial? input with
    | some rest => some (.float (String.ofList (input.take (input.length - rest.length))), rest)
    | none =>
      match input with
      | '0' :: 'x' :: rest => readBased 16 rest
      | '0' :: 'o' :: rest => readBased 8 rest
      | '0' :: 'b' :: rest => readBased 2 rest
      | input => readDecimal input

def readBoolean (input : List Char) : Option (Value × List Char) :=
  match afterWord? ['t', 'r', 'u', 'e'] input with
  | some rest => some (.boolean true, rest)
  | none => (afterWord? ['f', 'a', 'l', 's', 'e'] input).map fun rest => (.boolean false, rest)

end GameClient.Toml
