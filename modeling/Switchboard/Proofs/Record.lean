/-!
# Records of runs

A run takes its moves one after the other. What each move does can be noted down, and the notes of
a run are those of its parts in order.
-/

namespace Switchboard

variable {σ μ α : Type}

/-- What `note` says of each move of a run of `step`, in order. -/
def record (step : σ → μ → σ) (note : σ → μ → List α) : σ → List μ → List α
  | _, [] => []
  | s, move :: rest => note s move ++ record step note (step s move) rest

theorem record_append (step : σ → μ → σ) (note : σ → μ → List α) (front rest : List μ) :
    ∀ s, record step note s (front ++ rest) =
      record step note s front ++ record step note (front.foldl step s) rest := by
  induction front with
  | nil =>
    intro s
    rfl
  | cons move front ih =>
    intro s
    rw [List.cons_append, record, ih, record, List.append_assoc]
    rfl

/-- An item of a longer list is its last one or stands in what comes before. -/
theorem split_concat {front earlier later : List α} {last item : α}
    (split : front ++ [last] = earlier ++ item :: later) :
    (later = [] ∧ front = earlier ∧ last = item) ∨ ∃ rest, front = earlier ++ item :: rest := by
  rcases List.eq_nil_or_concat later with rfl | ⟨rest, other, rfl⟩
  · obtain ⟨rfl, single⟩ := List.append_inj' split rfl
    exact Or.inl ⟨rfl, rfl, List.head_eq_of_cons_eq single⟩
  · rw [List.concat_eq_append, ← List.cons_append, ← List.append_assoc] at split
    exact Or.inr ⟨rest, (List.append_inj' split rfl).1⟩

end Switchboard
