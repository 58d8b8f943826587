/-!
# Rests of a text

A reader that takes something from the front of a text leaves a rest. That the rest is shorter is
kept with it, so a recursion over rests ends.
-/

namespace GameClient.Text

/-- The end of a text, shorter than the text. -/
abbrev Rest (input : List Char) := { rest : List Char // rest.length < input.length }

/-- The end of a text, not longer than the text. -/
abbrev RestOrAll (input : List Char) := { rest : List Char // rest.length ≤ input.length }

def afterWord? : List Char → List Char → Option (List Char)
  | [], input => some input
  | w :: word, c :: input => if w = c then afterWord? word input else none
  | _ :: _, [] => none

theorem length_afterWord? {word input rest : List Char} (h : afterWord? word input = some rest) :
    rest.length + word.length = input.length := by
  induction word generalizing input with
  | nil => simp only [afterWord?, Option.some.injEq] at h; simp [h]
  | cons w word ih =>
      cases input with
      | nil => simp [afterWord?] at h
      | cons c input =>
          simp only [afterWord?] at h
          split at h
          · have := ih h; simp only [List.length_cons]; omega
          · simp at h

def word? (w : Char) (word : List Char) (input : List Char) : Option (Rest input) :=
  match h : afterWord? (w :: word) input with
  | some rest =>
    some ⟨rest, by have := length_afterWord? h; simp only [List.length_cons] at this; omega⟩
  | none => none

/-- A rest of a rest is a rest. -/
def Rest.widen {input : List Char} (first : Rest input) (second : Rest first.val) : Rest input :=
  ⟨second.val, Nat.lt_trans second.property first.property⟩

/-- What stands behind a first character is a rest of the whole. -/
def Rest.ofCons {c : Char} {input : List Char} (first : Rest input)
    (second : Rest (c :: first.val)) : Rest input :=
  ⟨second.val, by
    have := first.property; have := second.property; simp only [List.length_cons] at this; omega⟩

end GameClient.Text
