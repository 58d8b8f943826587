import GameClient.Text.Numeral
import Mathlib.Data.Nat.Digits.Defs
import Mathlib.Tactic.IntervalCases

/-!
# Numerals and the numbers they denote

A numeral is an optional plus sign with decimal digits behind it, at least one, and it denotes the
number with these digits (`IsNumeral`). What is read is exactly that: a text is read as a 64-bit
number if it is a numeral of it (`readWord_eq_ok_iff`), so numerals of numbers that need more bits
are not read at all, however the digits of them begin.
-/

namespace GameClient.Text

/-- The characters are an optional plus sign and the decimal digits of a number, of which leading
ones may be zero. -/
def IsNumeral (cs : List Char) (n : Nat) : Prop :=
  ∃ (sign : List Char) (digits : List Nat), cs = sign ++ digits.map Nat.digitChar ∧
    (sign = [] ∨ sign = ['+']) ∧ digits ≠ [] ∧ (∀ d ∈ digits, d < 10) ∧
    Nat.ofDigits 10 digits.reverse = n

variable {c : Char} {cs : List Char} {acc d n : Nat} {digits : List Nat}

/-! ### Digits -/

theorem digitValue?_digitChar (small : d < 10) : digitValue? (Nat.digitChar d) = some d := by
  interval_cases d <;> rfl

theorem digitChar_ne_plus (small : d < 10) : Nat.digitChar d ≠ '+' := by
  interval_cases d <;> decide

theorem digitValue?_eq_some_iff : digitValue? c = some d ↔ d < 10 ∧ c = Nat.digitChar d := by
  constructor
  · intro read
    simp only [digitValue?, Option.ite_none_right_eq_some, Option.some.injEq] at read
    obtain ⟨⟨low, high⟩, rfl⟩ := read
    have low : 48 ≤ c.toNat := low
    have high : c.toNat ≤ 57 := high
    have small : c.toNat - 48 < 10 := by omega
    refine ⟨small, Char.toNat_inj.mp ?_⟩
    show c.toNat = (Nat.digitChar (c.toNat - 48)).toNat
    rw [Nat.toNat_digitChar_of_lt_ten small]
    omega
  · rintro ⟨small, rfl⟩
    exact digitValue?_digitChar small

/-! ### Numbers -/

/-- The number that digits denote behind a number that was read already. -/
def continued (acc : Nat) (digits : List Nat) : Nat :=
  digits.foldl (fun acc d => 10 * acc + d) acc

theorem le_continued (acc : Nat) (digits : List Nat) : acc ≤ continued acc digits := by
  induction digits generalizing acc with
  | nil => exact Nat.le_refl acc
  | cons d rest ih =>
      calc acc ≤ 10 * acc + d := by omega
        _ ≤ continued (10 * acc + d) rest := ih (10 * acc + d)

theorem continued_zero (digits : List Nat) :
    continued 0 digits = Nat.ofDigits 10 digits.reverse := by
  rw [Nat.ofDigits_eq_foldr, List.foldr_reverse, continued]
  simp only [Nat.cast_id, Nat.add_comm]

/-- Digits are read to the end if the whole number fits; then all that was read on the way fits
too, since it never gets smaller. -/
theorem readDigits_eq_ok_iff (fits : acc < wordLimit) :
    readDigits acc cs = .ok n ↔
      ∃ digits, cs = digits.map Nat.digitChar ∧ (∀ d ∈ digits, d < 10) ∧
        continued acc digits = n ∧ n < wordLimit := by
  induction cs generalizing acc with
  | nil =>
      constructor
      · intro read
        cases read
        exact ⟨[], rfl, by simp, rfl, fits⟩
      · rintro ⟨digits, none, -, rfl, -⟩
        obtain rfl := List.map_eq_nil_iff.mp none.symm
        rfl
  | cons c rest ih =>
      constructor
      · intro read
        unfold readDigits at read
        split at read
        · cases read
        · next d first =>
          split at read
          · next below =>
            obtain ⟨small, rfl⟩ := digitValue?_eq_some_iff.mp first
            obtain ⟨digits, rfl, all, denotes, bound⟩ := (ih below).mp read
            exact ⟨d :: digits, rfl, List.forall_mem_cons.mpr ⟨small, all⟩, denotes, bound⟩
          · cases read
      · rintro ⟨digits, split, all, denotes, bound⟩
        cases digits with
        | nil => cases split
        | cons d digits =>
            obtain ⟨rfl, rfl⟩ := List.cons.inj split
            obtain ⟨small, all⟩ := List.forall_mem_cons.mp all
            have denotes : continued (10 * acc + d) digits = n := denotes
            -- What is read so far is at most the whole number.
            have below : 10 * acc + d < wordLimit := by
              have := le_continued (10 * acc + d) digits
              omega
            simp only [readDigits, digitValue?_digitChar small, if_pos below]
            exact (ih below).mpr ⟨digits, rfl, all, denotes, bound⟩

/-! ### Numerals -/

theorem readNumeral_plus (nonempty : cs ≠ []) : readNumeral ('+' :: cs) = readDigits 0 cs := by
  cases cs with
  | nil => exact absurd rfl nonempty
  | cons c rest => rfl

theorem readNumeral_of_ne_plus (other : c ≠ '+') :
    readNumeral (c :: cs) = readDigits 0 (c :: cs) := by
  unfold readNumeral
  split <;> simp_all

/-- **Numerals.** What is read is what the numeral denotes, and every numeral of a number that fits
is read. -/
theorem readNumeral_eq_ok_iff : readNumeral cs = .ok n ↔ IsNumeral cs n ∧ n < wordLimit := by
  have start : 0 < wordLimit := by decide
  constructor
  · intro read
    cases cs with
    | nil => cases read
    | cons c rest =>
        by_cases plus : c = '+'
        · subst plus
          have nonempty : rest ≠ [] := by
            rintro rfl
            cases read
          rw [readNumeral_plus nonempty] at read
          obtain ⟨digits, rfl, all, rfl, bound⟩ := (readDigits_eq_ok_iff start).mp read
          exact ⟨⟨['+'], digits, rfl, .inr rfl, by simpa using nonempty, all,
            (continued_zero digits).symm⟩, bound⟩
        · rw [readNumeral_of_ne_plus plus] at read
          obtain ⟨digits, split, all, rfl, bound⟩ := (readDigits_eq_ok_iff start).mp read
          refine ⟨⟨[], digits, split, .inl rfl, ?_, all, (continued_zero digits).symm⟩, bound⟩
          rintro rfl
          cases split
  · rintro ⟨⟨sign, digits, rfl, signed, nonempty, all, rfl⟩, bound⟩
    have read : readDigits 0 (digits.map Nat.digitChar) = .ok (Nat.ofDigits 10 digits.reverse) :=
      (readDigits_eq_ok_iff start).mpr ⟨digits, rfl, all, continued_zero digits, bound⟩
    rcases signed with rfl | rfl
    · cases digits with
      | nil => exact absurd rfl nonempty
      | cons d rest =>
          -- The first digit is not taken for a sign.
          have first : Nat.digitChar d ≠ '+' := digitChar_ne_plus (all d List.mem_cons_self)
          exact (readNumeral_of_ne_plus first).trans read
    · exact (readNumeral_plus (by simpa using nonempty)).trans read

/-- **Words.** A text is read as a 64-bit number if it is a numeral of it. -/
theorem readWord_eq_ok_iff {s : String} {w : UInt64} :
    readWord s = .ok w ↔ IsNumeral s.toList w.toNat := by
  have fits : w.toNat < wordLimit := w.toNat_lt
  rw [readWord]
  constructor
  · intro read
    cases numeral : readNumeral s.toList with
    | error fault => rw [numeral] at read; cases read
    | ok n =>
        obtain ⟨isNumeral, bound⟩ := readNumeral_eq_ok_iff.mp numeral
        rw [numeral] at read
        cases read
        rwa [UInt64.toNat_ofNat_of_lt' bound]
  · intro isNumeral
    rw [readNumeral_eq_ok_iff.mpr ⟨isNumeral, fits⟩]
    exact congrArg Except.ok UInt64.ofNat_toNat

end GameClient.Text
