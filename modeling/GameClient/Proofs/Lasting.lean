import Mathlib.Data.List.Induction

/-!
# What lasts

In a sequence of things that happen, something may begin and something may end it, both depending on
what has happened before. It lasts if it has begun and nothing has ended it since. Read from the end
of the sequence this is a recursion, `lasts_concat`: it begins now, or it has lasted and does not
end now.
-/

namespace GameClient

variable {α : Type}

/-- Something began, and nothing has ended it since. What begins it or ends it may depend on what
was before. -/
def Lasts (begins ends : List α → α → Prop) (past : List α) : Prop :=
  ∃ before now after, past = before ++ now :: after ∧ begins before now ∧
    ∀ between later rest, after = between ++ later :: rest →
      ¬ ends (before ++ now :: between) later

variable {begins ends : List α → α → Prop} {past : List α} {now : α}

theorem not_lasts_nil : ¬ Lasts begins ends [] := by
  rintro ⟨before, now, after, split, -⟩
  simp at split

theorem lasts_concat :
    Lasts begins ends (past ++ [now]) ↔
      begins past now ∨ Lasts begins ends past ∧ ¬ ends past now := by
  constructor
  · rintro ⟨before, first, after, split, began, still⟩
    -- It began with the last that happened, or the last that happened is behind it.
    rcases List.eq_nil_or_concat after with rfl | ⟨after, last, rfl⟩
    · obtain ⟨rfl, rfl⟩ := List.append_singleton_inj.mp split
      exact .inl began
    · rw [List.concat_eq_append, ← List.cons_append, ← List.append_assoc] at split
      obtain ⟨rfl, rfl⟩ := List.append_singleton_inj.mp split
      refine .inr ⟨⟨before, first, after, rfl, began, ?_⟩, still after now [] (by simp)⟩
      rintro between later rest rfl
      exact still between later (rest ++ [now]) (by simp)
  · rintro (began | ⟨⟨before, first, after, rfl, began, still⟩, last⟩)
    · exact ⟨past, now, [], rfl, began, by simp⟩
    · refine ⟨before, first, after ++ [now], by simp, began, ?_⟩
      intro between later rest split
      rcases List.eq_nil_or_concat rest with rfl | ⟨rest, final, rfl⟩
      · obtain ⟨rfl, rfl⟩ := List.append_singleton_inj.mp split
        exact last
      · rw [List.concat_eq_append, ← List.cons_append, ← List.append_assoc] at split
        obtain ⟨rfl, rfl⟩ := List.append_singleton_inj.mp split
        exact still between later rest rfl

end GameClient
