import GameClient.Text.Blank
import Mathlib.Data.List.DropRight

/-!
# Trimmed text

A text is trimmed by dropping blanks from the front, and then from the back. What comes of it can be
said without saying how it is done: the text is what was typed without some blanks at either end,
and it has no more of them (`Trims`). There is exactly one such text, and `trim` finds it; this is
the main statement, `trims_iff_eq_trim`.
-/

namespace GameClient.Text

/-- The characters neither start nor end with a blank. -/
structure Bare (cs : List Char) : Prop where
  first : ∀ c ∈ cs.head?, isBlank c = false
  last : ∀ c ∈ cs.getLast?, isBlank c = false

/-- What was typed is `text` with blanks around it, and `text` has none at either end. -/
def Trims (typed text : String) : Prop :=
  Bare text.toList ∧ ∃ before after, typed.toList = before ++ text.toList ++ after ∧
    (∀ c ∈ before, isBlank c = true) ∧ ∀ c ∈ after, isBlank c = true

variable {cs before after : List Char}

/-! ### What is trimmed off -/

theorem dropWhile_of_first (first : ∀ c ∈ cs.head?, isBlank c = false) :
    cs.dropWhile isBlank = cs := by
  cases cs with
  | nil => rfl
  | cons c rest => exact List.dropWhile_cons_of_neg (by simpa using first c rfl)

/-- All blanks around characters without blanks at either end are trimmed off, and nothing else. -/
theorem trimChars_of_bare (bare : Bare cs) (front : ∀ c ∈ before, isBlank c = true)
    (back : ∀ c ∈ after, isBlank c = true) : trimChars (before ++ cs ++ after) = cs := by
  have stripped : (before ++ cs ++ after).dropWhile isBlank = (cs ++ after).dropWhile isBlank := by
    rw [List.append_assoc]
    exact List.dropWhile_append_of_pos front
  unfold trimChars
  rw [stripped]
  rcases List.eq_nil_or_concat cs with rfl | ⟨init, last, rfl⟩
  · -- Only blanks were typed, and none of them is left.
    rw [List.nil_append, List.dropWhile_eq_nil_iff.mpr back]
    rfl
  · have kept : (init.concat last ++ after).dropWhile isBlank = init.concat last ++ after := by
      apply dropWhile_of_first
      intro c head
      rw [List.head?_append_of_ne_nil _ (by simp)] at head
      exact bare.first c head
    have ends : (init.concat last).reverse.dropWhile isBlank = (init.concat last).reverse := by
      apply dropWhile_of_first
      rw [List.head?_reverse]
      exact bare.last
    rw [kept, List.reverse_append, List.dropWhile_append_of_pos (by simpa using back), ends,
      List.reverse_reverse]

/-! ### What is left -/

theorem first_dropWhile (cs : List Char) :
    ∀ c ∈ (cs.dropWhile isBlank).head?, isBlank c = false := by
  intro c head
  have stops := List.head?_dropWhile_not isBlank cs
  rw [Option.mem_def.mp head] at stops
  exact stops

theorem bare_trimChars (cs : List Char) : Bare (trimChars cs) where
  first c head := by
    -- What is left at the end is a prefix of what was left at the front.
    obtain ⟨dropped, split⟩ := List.rdropWhile_prefix isBlank (cs.dropWhile isBlank)
    apply first_dropWhile cs
    rw [← split]
    exact List.mem_head?_append_of_mem_head? head
  last c last := by
    have stops := first_dropWhile (cs.dropWhile isBlank).reverse
    rw [trimChars, List.getLast?_reverse] at last
    exact stops c last

theorem trims_trim (typed : String) : Trims typed (trim typed) := by
  unfold Trims trim
  rw [String.toList_ofList]
  refine ⟨bare_trimChars _, typed.toList.takeWhile isBlank,
    (typed.toList.dropWhile isBlank).rtakeWhile isBlank, ?_, ?_, ?_⟩
  · calc typed.toList
        = typed.toList.takeWhile isBlank ++ typed.toList.dropWhile isBlank :=
          (List.takeWhile_append_dropWhile).symm
      _ = typed.toList.takeWhile isBlank ++
            ((typed.toList.dropWhile isBlank).rdropWhile isBlank ++
              (typed.toList.dropWhile isBlank).rtakeWhile isBlank) := by
          rw [List.rdropWhile_append_rtakeWhile]
      _ = _ := (List.append_assoc _ _ _).symm
  · exact fun c mem => List.mem_takeWhile_imp mem
  · exact fun c mem => List.mem_rtakeWhile_imp mem

/-- **Trimming.** The text that is left without blanks at either end is unique, and `trim` finds
it. -/
theorem trims_iff_eq_trim {typed text : String} : Trims typed text ↔ text = trim typed := by
  constructor
  · rintro ⟨bare, before, after, split, front, back⟩
    rw [trim, split, trimChars_of_bare bare front back, String.ofList_toList]
  · rintro rfl
    exact trims_trim typed

/-! ### Texts that differ in blanks only -/

/-- What was typed is `text` with blanks around it, where `text` may itself begin or end with some.
-/
def Pads (text typed : String) : Prop :=
  ∃ before after, typed.toList = before ++ text.toList ++ after ∧
    (∀ c ∈ before, isBlank c = true) ∧ ∀ c ∈ after, isBlank c = true

variable {text typed : String}

/-- Blanks around a text make no difference to what it is trimmed to. -/
theorem trim_of_pads (pads : Pads text typed) : trim typed = trim text := by
  obtain ⟨before, after, typedSplit, front, back⟩ := pads
  obtain ⟨bare, first, last, textSplit, firstBlank, lastBlank⟩ := trims_trim text
  -- The blanks around the text and those that it has itself are one run at either end.
  have trims : Trims typed (trim text) := by
    refine ⟨bare, before ++ first, last ++ after, ?_, ?_, ?_⟩
    · rw [typedSplit, textSplit]
      simp only [List.append_assoc]
    · exact List.forall_mem_append.mpr ⟨front, firstBlank⟩
    · exact List.forall_mem_append.mpr ⟨lastBlank, back⟩
  exact (trims_iff_eq_trim.mp trims).symm

theorem trim_trim (typed : String) : trim (trim typed) = trim typed := by
  have pads : Pads (trim typed) typed := (trims_trim typed).2
  exact (trim_of_pads pads).symm

theorem Trims.again (trims : Trims typed text) : Trims text text := by
  obtain rfl := trims_iff_eq_trim.mp trims
  rw [trims_iff_eq_trim, trim_trim]

/-- Something is left of a text exactly if it has a character that is not blank. -/
theorem trim_ne_empty_iff : trim typed ≠ "" ↔ ∃ c ∈ typed.toList, isBlank c = false := by
  obtain ⟨bare, before, after, split, front, back⟩ := trims_trim typed
  rw [split]
  constructor
  · intro left
    have cons : (trim typed).toList ≠ [] := by simpa using left
    refine ⟨(trim typed).toList.head cons, ?_, ?_⟩
    · apply List.mem_append_left
      apply List.mem_append_right
      exact List.head_mem cons
    · apply bare.first
      exact List.head_mem_head? cons
  · rintro ⟨c, mem, visible⟩ empty
    have blank : isBlank c = true := by
      simp only [empty, String.toList_empty, List.append_nil, List.mem_append] at mem
      rcases mem with first | last
      · exact front c first
      · exact back c last
    rw [visible] at blank
    cases blank

end GameClient.Text
