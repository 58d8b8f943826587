import GameClient.Json.Basic
import GameClient.Text.Numeral
import GameClient.Text.Rest

/-!
# Reading JSON

A reader for one JSON value. Each step returns what it read together with a rest that is shorter, so
the recursion ends with the text.

Well-formed parts that no value can hold become `Json.unreadable`, and the reading goes on behind
them: whether they matter is for the decoder to say, which may skip them.
-/

namespace GameClient.Json

open Text (Rest RestOrAll word? hexValue?)

/-! ### White space -/

/-- The white space of JSON. -/
def isSpace (c : Char) : Bool := c == ' ' || c == '\t' || c == '\n' || c == '\r'

def skipSpace (input : List Char) : List Char := input.dropWhile isSpace

theorem length_skipSpace_le (input : List Char) : (skipSpace input).length ≤ input.length :=
  (List.dropWhile_suffix isSpace).length_le

/-- The first character that is not white space, and the rest behind it. -/
def next? (input : List Char) : Option (Char × Rest input) :=
  match h : skipSpace input with
  | c :: rest => some (c, ⟨rest, by
      have := length_skipSpace_le input; rw [h] at this; exact this⟩)
  | [] => none

/-- The rest behind a certain character, with white space before it. -/
def mark? (c : Char) (input : List Char) : Option (Rest input) :=
  match next? input with
  | some (d, rest) => if d = c then some rest else none
  | none => none

/-! ### Texts -/

/-- One unit of a text between quotes: a character, or half of a surrogate pair. -/
inductive TextUnit where
  | char (c : Char)
  | half (code : Nat)

/-- The character that stands behind a backslash, where it stands for one. -/
def escapedChar? : Char → Option Char
  | '"' => some '"'
  | '\\' => some '\\'
  | '/' => some '/'
  | 'b' => some '\x08'
  | 'f' => some '\x0c'
  | 'n' => some '\n'
  | 'r' => some '\r'
  | 't' => some '\t'
  | _ => none

def codeUnit (code : Nat) : TextUnit :=
  if 0xD800 ≤ code ∧ code < 0xE000 then .half code else .char (Char.ofNat code)

def readUnits : (input : List Char) → Option (List TextUnit × Rest input)
  | '"' :: rest => some ([], ⟨rest, by simp⟩)
  | '\\' :: 'u' :: a :: b :: c :: d :: rest => do
    let a ← hexValue? a
    let b ← hexValue? b
    let c ← hexValue? c
    let d ← hexValue? d
    let (units, ⟨rest, h⟩) ← readUnits rest
    return (codeUnit (((a * 16 + b) * 16 + c) * 16 + d) :: units, ⟨rest, by simp; omega⟩)
  | '\\' :: e :: rest => do
    let c ← escapedChar? e
    let (units, ⟨rest, h⟩) ← readUnits rest
    return (.char c :: units, ⟨rest, by simp; omega⟩)
  | c :: rest =>
    if c.toNat < 0x20 ∨ c = '\\' then none
    else do
      let (units, ⟨rest, h⟩) ← readUnits rest
      return (.char c :: units, ⟨rest, by simp; omega⟩)
  | [] => none

/-- The characters of a list of units: two halves in their order make a character, and a half that
stands alone none. -/
def joinUnits : List TextUnit → Option (List Char)
  | [] => some []
  | .char c :: rest => (joinUnits rest).map (c :: ·)
  | .half high :: .half low :: rest =>
    if high < 0xDC00 ∧ 0xDC00 ≤ low then
      (joinUnits rest).map (Char.ofNat (0x10000 + (high - 0xD800) * 0x400 + (low - 0xDC00)) :: ·)
    else none
  | .half _ :: _ => none

/-- The text behind an opening quote, or none where a half of a pair stands alone. -/
def readText (input : List Char) : Option (Option String × Rest input) :=
  match readUnits input with
  | some (units, rest) => some ((joinUnits units).map String.ofList, rest)
  | none => none

/-! ### Numbers -/

/-- The digits of a numeral so far: the leading ones that fit one word, and the power of ten that
the others and the fraction ask for. -/
structure Digits where
  significand : Nat
  exponent : Int
  /-- A digit did not fit, so the later ones of this part are not kept. -/
  full : Bool

def Digits.pushWhole (digits : Digits) (d : Nat) : Digits :=
  if !digits.full && 10 * digits.significand + d < Text.wordLimit then
    { digits with significand := 10 * digits.significand + d }
  else { digits with exponent := digits.exponent + 1, full := true }

def Digits.pushFraction (digits : Digits) (d : Nat) : Digits :=
  if !digits.full && 10 * digits.significand + d < Text.wordLimit then
    { digits with significand := 10 * digits.significand + d, exponent := digits.exponent - 1 }
  else { digits with full := true }

def takeDigits : (input : List Char) → List Nat × RestOrAll input
  | [] => ([], ⟨[], by simp⟩)
  | c :: rest =>
    match Text.digitValue? c with
    | some d =>
      let (ds, ⟨rest, h⟩) := takeDigits rest
      (d :: ds, ⟨rest, by simp; omega⟩)
    | none => ([], ⟨c :: rest, by simp⟩)

/-- Whole digits: a zero stands alone. -/
def readWhole : (input : List Char) → Option (List Nat × Rest input)
  | [] => none
  | c :: tail =>
    match Text.digitValue? c with
    | none => none
    | some d =>
      let (ds, ⟨rest, h⟩) := takeDigits tail
      if d = 0 ∧ ds ≠ [] then none else some (d :: ds, ⟨rest, by simp; omega⟩)

def readFraction (input : List Char) : Option (Option (List Nat) × RestOrAll input) :=
  match input with
  | '.' :: tail =>
    match takeDigits tail with
    | ([], _) => none
    | (ds, ⟨rest, h⟩) => some (some ds, ⟨rest, by simp; omega⟩)
  | input => some (none, ⟨input, by simp⟩)

def readExponentDigits (negative : Bool) (input : List Char) :
    Option (Option (Bool × List Nat) × RestOrAll input) :=
  match takeDigits input with
  | ([], _) => none
  | (ds, ⟨rest, h⟩) => some (some (negative, ds), ⟨rest, h⟩)

def readExponent (input : List Char) :
    Option (Option (Bool × List Nat) × RestOrAll input) :=
  match input with
  | e :: tail =>
    if e = 'e' ∨ e = 'E' then
      let signed : Bool × RestOrAll tail :=
        match tail with
        | '+' :: rest => (false, ⟨rest, by simp⟩)
        | '-' :: rest => (true, ⟨rest, by simp⟩)
        | rest => (false, ⟨rest, by simp⟩)
      match readExponentDigits signed.1 signed.2.val with
      | some (exponent, ⟨rest, h⟩) =>
        some (exponent, ⟨rest, by have := signed.2.property; simp only [List.length_cons]; omega⟩)
      | none => none
    else some (none, ⟨e :: tail, by simp⟩)
  | [] => some (none, ⟨[], by simp⟩)

/-- The greatest exponent that a numeral may spell out. -/
def exponentLimit : Nat := 2147483648

def valueOf (ds : List Nat) : Nat := ds.foldl (fun n d => 10 * n + d) 0

/-- The digits of a numeral with an exponent as a number. An exponent past the limit leaves only
zero: either the digits are zeros, or the number is too small to tell from zero. -/
def withExponent (digits : Digits) (negative : Bool) (ds : List Nat) :
    Option Binary64.Magnitude :=
  let e := valueOf ds
  if exponentLimit ≤ e then
    if digits.significand ≠ 0 ∧ !negative then none else some (Binary64.round 0 1)
  else Binary64.ofDecimal? digits.significand (digits.exponent + if negative then -(e : Int) else e)

/-- A whole numeral, negative or not. A word holds it, or it is a floating-point number. -/
def wholeNumber (negative : Bool) (digits : Digits) : Json :=
  if digits.full then
    match Binary64.ofDecimal? digits.significand digits.exponent with
    | some x => .number (.real (Binary64.signed negative x))
    | none => .unreadable
  else if !negative then .ofNat digits.significand
  else if 0 < digits.significand ∧ digits.significand ≤ 9223372036854775808 then
    .ofInt (-digits.significand)
  else .number (.real (Binary64.signed true (Binary64.round digits.significand 1)))

def numberOf (negative : Bool) (whole : List Nat) (fraction : Option (List Nat))
    (exponent : Option (Bool × List Nat)) : Json :=
  let digits := whole.foldl Digits.pushWhole ⟨0, 0, false⟩
  match fraction, exponent with
  | none, none => wholeNumber negative digits
  | fraction, exponent =>
    let digits := (fraction.getD []).foldl Digits.pushFraction { digits with full := false }
    let magnitude := match exponent with
      | some (negativeExponent, ds) => withExponent digits negativeExponent ds
      | none => Binary64.ofDecimal? digits.significand digits.exponent
    match magnitude with
    | some x => .number (.real (Binary64.signed negative x))
    | none => .unreadable

def readUnsigned (negative : Bool) (input : List Char) : Option (Json × Rest input) := do
  let (whole, ⟨rest, h₁⟩) ← readWhole input
  let (fraction, ⟨rest, h₂⟩) ← readFraction rest
  let (exponent, ⟨rest, h₃⟩) ← readExponent rest
  return (numberOf negative whole fraction exponent, ⟨rest, by omega⟩)

def readNumber (input : List Char) : Option (Json × Rest input) :=
  match input with
  | '-' :: tail =>
    match readUnsigned true tail with
    | some (value, ⟨rest, h⟩) => some (value, ⟨rest, by simp; omega⟩)
    | none => none
  | input => readUnsigned false input

/-! ### Values -/

/-- The containers that may be open at once. -/
def deepest : Nat := 127

/-- An object, unless a name of a field is unreadable: such an object can only be skipped. -/
def objectOf (fields : List (Option String × Json)) : Json :=
  match fields.mapM fun f => f.1.map fun name => (name, f.2) with
  | some fields => .object fields
  | none => .unreadable

/-- A container, where it is not nested too deep. -/
def within (room : Nat) (container : Json) : Json :=
  if room = 0 then .unreadable else container

mutual

/-- A value, with white space before it. `room` is the number of containers that may still be
opened. -/
def readValue (room : Nat) (input : List Char) : Option (Json × Rest input) :=
  match next? input with
  | none => none
  | some (c, r) =>
    match c with
    | 'n' => (word? 'u' ['l', 'l'] r.val).map fun r' => (.null, r.widen r')
    | 't' => (word? 'r' ['u', 'e'] r.val).map fun r' => (.bool true, r.widen r')
    | 'f' => (word? 'a' ['l', 's', 'e'] r.val).map fun r' => (.bool false, r.widen r')
    | '"' => (readText r.val).map fun t => ((t.1.map Json.string).getD .unreadable, r.widen t.2)
    | '[' =>
      match mark? ']' r.val with
      | some r' => some (within room (.array []), r.widen r')
      | none => (readItems (room - 1) r.val).map fun a => (within room (.array a.1), r.widen a.2)
    | '\x7b' =>
      match mark? '\x7d' r.val with
      | some r' => some (within room (.object []), r.widen r')
      | none => (readFields (room - 1) r.val).map fun o => (within room (objectOf o.1), r.widen o.2)
    | c => (readNumber (c :: r.val)).map fun n => (n.1, r.ofCons n.2)
termination_by (input.length, 0)
decreasing_by all_goals exact Prod.Lex.left _ _ r.property

def readItems (room : Nat) (input : List Char) : Option (List Json × Rest input) :=
  match readValue room input with
  | none => none
  | some (item, r₁) =>
    match mark? ']' r₁.val with
    | some r₂ => some ([item], r₁.widen r₂)
    | none =>
      match mark? ',' r₁.val with
      | none => none
      | some r₂ =>
        match readItems room r₂.val with
        | none => none
        | some (items, r₃) => some (item :: items, r₁.widen (r₂.widen r₃))
termination_by (input.length, 1)
decreasing_by
  · exact Prod.Lex.right _ (by omega)
  · exact Prod.Lex.left _ _ (Nat.lt_trans r₂.property r₁.property)

def readFields (room : Nat) (input : List Char) :
    Option (List (Option String × Json) × Rest input) :=
  match mark? '"' input with
  | none => none
  | some r₁ =>
    match readText r₁.val with
    | none => none
    | some (name, r₂) =>
      match mark? ':' r₂.val with
      | none => none
      | some r₃ =>
        match readValue room r₃.val with
        | none => none
        | some (value, r₄) =>
          match mark? '\x7d' r₄.val with
          | some r₅ => some ([(name, value)], r₁.widen (r₂.widen (r₃.widen (r₄.widen r₅))))
          | none =>
            match mark? ',' r₄.val with
            | none => none
            | some r₅ =>
              match readFields room r₅.val with
              | none => none
              | some (fields, r₆) =>
                some ((name, value) :: fields,
                  r₁.widen (r₂.widen (r₃.widen (r₄.widen (r₅.widen r₆)))))
termination_by (input.length, 1)
decreasing_by
  · have := r₁.property; have := r₂.property; have := r₃.property
    exact Prod.Lex.left _ _ (by omega)
  · have := r₁.property; have := r₂.property; have := r₃.property
    have := r₄.property; have := r₅.property
    exact Prod.Lex.left _ _ (by omega)

end

/-- Reads a text that holds one value, with white space around it. -/
def read? (text : String) : Option Json :=
  match readValue deepest text.toList with
  | some (value, rest) => if (skipSpace rest.val).isEmpty then some value else none
  | none => none

end GameClient.Json
