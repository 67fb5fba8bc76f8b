import BroadcastQuery.Text.Basic

/-!
Runs: a list is cut in one way only into elements of a class and a rest that does not start with
one.
-/
namespace BroadcastQuery

variable {α : Type} {p : α → Bool} {run rest : List α}

theorem takeWhile_run (inside : ∀ a ∈ run, p a = true) (outside : ∀ a ∈ rest.head?, p a = false) :
    (run ++ rest).takeWhile p = run := by
  rw [List.takeWhile_append_of_pos inside]
  cases rest with
  | nil => simp
  | cons a rest => simp [outside a rfl]

theorem dropWhile_run (inside : ∀ a ∈ run, p a = true) (outside : ∀ a ∈ rest.head?, p a = false) :
    (run ++ rest).dropWhile p = rest := by
  rw [List.dropWhile_append_of_pos inside]
  cases rest with
  | nil => rfl
  | cons a rest => simp [outside a rfl]

theorem run_inj {run' rest' : List α} (same : run ++ rest = run' ++ rest')
    (inside : ∀ a ∈ run, p a = true) (outside : ∀ a ∈ rest.head?, p a = false)
    (inside' : ∀ a ∈ run', p a = true) (outside' : ∀ a ∈ rest'.head?, p a = false) :
    run = run' ∧ rest = rest' := by
  have runs := congrArg (List.takeWhile p) same
  rw [takeWhile_run inside outside, takeWhile_run inside' outside'] at runs
  subst runs
  exact ⟨rfl, List.append_cancel_left same⟩

end BroadcastQuery
