/-!
# Reading decimal numerals

A numeral is an optional plus sign and one or more decimal digits. It is read from the left into a
64-bit number, so of a foreign character and an overflow the one that comes first is reported.
-/

namespace GameClient.Text

/-- Why a text is not a 64-bit number. -/
inductive NumeralFault where
  /-- There is no text at all. -/
  | empty
  /-- A character is not a digit, or the sign stands alone. -/
  | invalidDigit
  /-- The number needs more than 64 bits. -/
  | tooLarge
  deriving DecidableEq, Repr

def NumeralFault.message : NumeralFault → String
  | .empty => "cannot parse integer from empty string"
  | .invalidDigit => "invalid digit found in string"
  | .tooLarge => "number too large to fit in target type"

def digitValue? (c : Char) : Option Nat :=
  if '0' ≤ c ∧ c ≤ '9' then some (c.toNat - '0'.toNat) else none

def hexValue? (c : Char) : Option Nat :=
  if '0' ≤ c ∧ c ≤ '9' then some (c.toNat - '0'.toNat)
  else if 'a' ≤ c ∧ c ≤ 'f' then some (c.toNat - 'a'.toNat + 10)
  else if 'A' ≤ c ∧ c ≤ 'F' then some (c.toNat - 'A'.toNat + 10)
  else none

def wordLimit : Nat := 18446744073709551616

/-- Reads digits behind the number `acc`. -/
def readDigits (acc : Nat) : List Char → Except NumeralFault Nat
  | [] => .ok acc
  | c :: rest =>
    match digitValue? c with
    | none => .error .invalidDigit
    | some d =>
      if 10 * acc + d < wordLimit then readDigits (10 * acc + d) rest else .error .tooLarge

def readNumeral : List Char → Except NumeralFault Nat
  | [] => .error .empty
  | ['+'] => .error .invalidDigit
  | '+' :: digits => readDigits 0 digits
  | digits => readDigits 0 digits

/-- Reads a text as a 64-bit number. -/
def readWord (s : String) : Except NumeralFault UInt64 :=
  (readNumeral s.toList).map UInt64.ofNat

end GameClient.Text
