import BroadcastQuery.Text.Basic

/-!
The order of texts is linear, so a sorted list is determined by what it holds.
-/
namespace BroadcastQuery.Text

variable {r s t : Text} {texts texts' : List Text}

theorem le_cons_cons {a b : Char} : le (a :: s) (b :: t) = true ↔ a < b ∨ a = b ∧ le s t = true := by
  rw [le, Bool.or_eq_true, Bool.and_eq_true, beq_iff_eq, decide_eq_true_eq]
  rfl

theorem le_total (s t : Text) : le s t = true ∨ le t s = true := by
  induction s generalizing t with
  | nil => exact .inl rfl
  | cons a s ih =>
    cases t with
    | nil => exact .inr rfl
    | cons b t =>
      rw [le_cons_cons, le_cons_cons]
      by_cases same : a = b
      · subst same
        rcases ih t with less | more
        · exact .inl (.inr ⟨rfl, less⟩)
        · exact .inr (.inr ⟨rfl, more⟩)
      · rcases Char.le_total a b with less | more
        · exact .inl (.inl (Char.not_le.mp fun more => same (Char.le_antisymm less more)))
        · exact .inr (.inl (Char.not_le.mp fun less => same (Char.le_antisymm less more)))

theorem le_trans (first : le r s = true) (second : le s t = true) : le r t = true := by
  induction r generalizing s t with
  | nil => rfl
  | cons a r ih =>
    match s, t with
    | b :: s, c :: t =>
      rw [le_cons_cons] at first second ⊢
      rcases first with less | ⟨rfl, first⟩
      · rcases second with less' | ⟨rfl, -⟩
        · exact .inl (Char.lt_trans less less')
        · exact .inl less
      · rcases second with less | ⟨rfl, second⟩
        · exact .inl less
        · exact .inr ⟨rfl, ih first second⟩

theorem le_antisymm (first : le s t = true) (second : le t s = true) : s = t := by
  induction s generalizing t with
  | nil =>
    cases t with
    | nil => rfl
    | cons => contradiction
  | cons a s ih =>
    cases t with
    | nil => contradiction
    | cons b t =>
      rw [le_cons_cons] at first second
      rcases first with less | ⟨rfl, first⟩
      · rcases second with more | ⟨rfl, -⟩
        · exact absurd more (Char.lt_asymm less)
        · exact absurd less (Char.lt_irrefl _)
      · rcases second with more | ⟨-, second⟩
        · exact absurd more (Char.lt_irrefl a)
        · rw [ih first second]

/-- Items that are sorted by a key ascend by it. -/
theorem ascending_mergeSort {α : Type} (key : α → Text) (items : List α) :
    (items.mergeSort fun a b => le (key a) (key b)).Pairwise
      fun a b => le (key a) (key b) = true := by
  apply List.pairwise_mergeSort
  · intro a b c
    exact le_trans
  · intro a b
    exact Bool.or_eq_true_iff.mpr (le_total (key a) (key b))

/-- Sorting forgets the order and nothing else. -/
theorem mergeSort_eq_iff_perm :
    texts.mergeSort le = texts'.mergeSort le ↔ texts.Perm texts' := by
  constructor
  · intro same
    exact (List.mergeSort_perm texts le).symm.trans (same ▸ List.mergeSort_perm texts' le)
  · intro perm
    have sorted : (texts.mergeSort le).Perm (texts'.mergeSort le) :=
      (List.mergeSort_perm texts le).trans (perm.trans (List.mergeSort_perm texts' le).symm)
    exact sorted.eq_of_pairwise (fun s t _ _ => le_antisymm) (ascending_mergeSort id texts)
      (ascending_mergeSort id texts')

end BroadcastQuery.Text
