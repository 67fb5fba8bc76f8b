import BroadcastQuery.Validation
import BroadcastQuery.Proofs.Pieces

/-!
Chains of any kind, in which children and connectives take turns and `and` and `or` may be mixed.
The check of a chain's shape accepts just these, and where one is cut at its `or`s, every part has a
child.
-/
namespace BroadcastQuery

/-- Children with one connective, any one, between each two neighbours. -/
inductive Alternating {α : Type} : List (α ⊕ Connective) → Prop
  | last (child : α) : Alternating [.inl child]
  | more (child : α) (connective : Connective) {rest : List (α ⊕ Connective)}
      (others : Alternating rest) : Alternating (.inl child :: .inr connective :: rest)

namespace Alternating

variable {α : Type} {items : List (α ⊕ Connective)}

theorem more_iff {child : α} {connective : Connective} :
    Alternating (.inl child :: .inr connective :: items) ↔ Alternating items := by
  constructor
  · intro turns
    cases turns with
    | more _ _ others => exact others
  · exact .more child connective

/-- Items alternate if they are odd in number and the children are those at even places. -/
theorem iff_places (items : List (α ⊕ Connective)) (place : Nat) (even : place % 2 = 0) :
    Alternating items ↔ items.length % 2 = 1 ∧
      ((items.zipIdx place).all fun item => item.1.isLeft == (item.2 % 2 == 0)) = true := by
  match items with
  | [] =>
    constructor
    · rintro ⟨⟩
    · rintro ⟨odd, -⟩
      contradiction
  | [.inl child] => simp [Alternating.last, even]
  | [.inr connective] =>
    constructor
    · rintro ⟨⟩
    · simp [even]
  | .inl child :: .inr connective :: rest =>
    -- A child and a connective leave the parity of all later places as it was.
    have odd : (place + 1) % 2 = 1 := by omega
    have count : (rest.length + 1 + 1) % 2 = rest.length % 2 := Nat.add_mod_right rest.length 2
    rw [more_iff, iff_places rest (place + 1 + 1) (by omega), List.length_cons,
      List.length_cons, count]
    simp only [List.zipIdx_cons, List.all_cons, Sum.isLeft_inl, Sum.isLeft_inr, even, odd]
    rfl
  | .inr connective :: second :: rest =>
    constructor
    · rintro ⟨⟩
    · simp [even]
  | .inl child :: .inl second :: rest =>
    have odd : (place + 1) % 2 = 1 := by omega
    constructor
    · rintro ⟨⟩
    · simp [odd]

theorem length_add_one (turns : Alternating items) :
    items.length + 1 = 2 * (items.filterMap Sum.getLeft?).length := by
  induction turns with
  | last child => rfl
  | @more child connective rest _ ih =>
    have children : (.inl child :: .inr connective :: rest : List (α ⊕ Connective)).filterMap
        Sum.getLeft? = child :: rest.filterMap Sum.getLeft? := rfl
    rw [children, List.length_cons, List.length_cons, List.length_cons]
    omega

/-- Every part of a chain between its `or`s has a child. -/
theorem exists_child_of_mem_pieces (turns : Alternating items) {run : List (α ⊕ Connective)}
    (member : run ∈ pieces (fun item => item.getRight? == some .or) items) :
    ∃ child, .inl child ∈ run := by
  induction turns generalizing run with
  | last child =>
    obtain rfl : run = [.inl child] := by simpa [pieces] using member
    exact ⟨child, List.mem_cons_self⟩
  | @more child connective rest others ih =>
    cases parts : pieces (fun item => item.getRight? == some Connective.or) rest with
    | nil => exact absurd parts (pieces_ne_nil _ rest)
    | cons first later =>
      rw [parts] at ih
      cases connective with
      | and =>
        -- The child starts the first part of the rest.
        have cut : run = .inl child :: .inr .and :: first ∨ run ∈ later := by
          simpa [pieces, parts] using member
        rcases cut with rfl | inside
        · exact ⟨child, List.mem_cons_self⟩
        · exact ih (List.mem_cons_of_mem _ inside)
      | or =>
        have cut : run = [.inl child] ∨ run ∈ first :: later := by
          simpa [pieces, parts] using member
        rcases cut with rfl | inside
        · exact ⟨child, List.mem_cons_self⟩
        · exact ih inside

end Alternating

namespace Checker

/-- The shape of a chain is accepted if its items alternate and are more than a single child. -/
theorem defect?_eq_none_iff (items : List (Draft ⊕ Connective)) :
    defect? items = none ↔ Alternating items ∧ 3 ≤ items.length := by
  rw [Alternating.iff_places items 0 rfl]
  unfold defect?
  split
  case isTrue short =>
    simp only [Bool.or_eq_true, decide_eq_true_eq, beq_iff_eq] at short
    constructor
    · rintro ⟨⟩
    · omega
  case isFalse long =>
    simp only [Bool.or_eq_true, decide_eq_true_eq, beq_iff_eq] at long
    split
    case isTrue turns =>
      exact ⟨fun _ => ⟨⟨by omega, turns⟩, by omega⟩, fun _ => rfl⟩
    case isFalse other =>
      constructor
      · rintro ⟨⟩
      · rintro ⟨⟨-, turns⟩, -⟩
        exact absurd turns other

end Checker
end BroadcastQuery
