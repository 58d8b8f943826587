/-!
# Keyed lists

Lists of keys with values. A key stands once, in the place where it was put first.
-/

namespace GameClient.Keyed

variable {κ α : Type} [DecidableEq κ]

/-- Puts a value under a key, in the place of an older one of that key. -/
def assign (key : κ) (value : α) : List (κ × α) → List (κ × α)
  | [] => [(key, value)]
  | (other, old) :: rest =>
    if other = key then (key, value) :: rest else (other, old) :: assign key value rest

def erase (key : κ) (entries : List (κ × α)) : List (κ × α) :=
  entries.filter fun entry => entry.1 ≠ key

theorem lookup_assign (key other : κ) (value : α) (entries : List (κ × α)) :
    (assign key value entries).lookup other =
      if other = key then some value else entries.lookup other := by
  induction entries with
  | nil => simp only [assign, List.lookup_cons, List.lookup_nil]; split <;> simp_all
  | cons entry rest ih =>
      obtain ⟨k, old⟩ := entry
      simp only [assign]
      split
      · rename_i h
        subst h
        simp only [List.lookup_cons]
        split <;> simp_all
      · simp only [List.lookup_cons, ih]
        split <;> split <;> simp_all

theorem lookup_erase (key other : κ) (entries : List (κ × α)) :
    (erase key entries).lookup other = if other = key then none else entries.lookup other := by
  induction entries with
  | nil => simp [erase]
  | cons entry rest ih =>
      obtain ⟨k, old⟩ := entry
      simp only [erase] at ih ⊢
      by_cases hk : k = key
      · subst hk
        rw [List.filter_cons_of_neg (by simp), ih, List.lookup_cons]
        by_cases ho : other = k
        · simp [ho]
        · simp [ho, beq_false_of_ne ho]
      · rw [List.filter_cons_of_pos (by simpa using hk), List.lookup_cons, List.lookup_cons, ih]
        by_cases ho : other = k
        · subst ho
          simp [hk]
        · simp [beq_false_of_ne ho]

end GameClient.Keyed
