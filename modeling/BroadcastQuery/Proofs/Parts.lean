import BroadcastQuery.Proofs.ChainShape

/-!
The parts of any draft, also of one that no source has. Both checks go through them in the order of
the text, a chain before the items in it: the one that stops gives the flaw of the first part that
has one, and the other the flaws of all.
-/
namespace BroadcastQuery

namespace Draft

mutual

/-- A draft and the drafts inside it, at any depth, in the order of the text. -/
def parts : Draft → List Draft
  | .leaf key value span => [.leaf key value span]
  | .chain items => .chain items :: partsIn items

def partsIn : List (Draft ⊕ Connective) → List Draft
  | [] => []
  | .inl child :: rest => child.parts ++ partsIn rest
  | .inr _ :: rest => partsIn rest

end

mutual

theorem within_of_mem_parts {part : Draft} (draft : Draft) (member : part ∈ draft.parts) :
    Within part draft := by
  match draft with
  | .leaf key value span =>
    obtain rfl := List.mem_singleton.mp member
    exact .self _
  | .chain items =>
    rcases List.mem_cons.mp member with rfl | inside
    · exact .self _
    · obtain ⟨child, among, within⟩ := exists_within_of_mem_partsIn items inside
      exact .item among within

theorem exists_within_of_mem_partsIn {part : Draft} (items : List (Draft ⊕ Connective))
    (member : part ∈ partsIn items) : ∃ child, .inl child ∈ items ∧ Within part child := by
  match items with
  | [] => contradiction
  | .inl child :: rest =>
    rcases List.mem_append.mp member with here | later
    · exact ⟨child, List.mem_cons_self, within_of_mem_parts child here⟩
    · obtain ⟨other, among, within⟩ := exists_within_of_mem_partsIn rest later
      exact ⟨other, List.mem_cons_of_mem _ among, within⟩
  | .inr connective :: rest =>
    obtain ⟨other, among, within⟩ := exists_within_of_mem_partsIn rest member
    exact ⟨other, List.mem_cons_of_mem _ among, within⟩

end

theorem mem_parts_self (draft : Draft) : draft ∈ draft.parts := by
  cases draft with
  | leaf key value span => exact List.mem_cons_self
  | chain items => exact List.mem_cons_self

theorem mem_partsIn {part child : Draft} (items : List (Draft ⊕ Connective))
    (among : .inl child ∈ items) (inside : part ∈ child.parts) : part ∈ partsIn items := by
  match items with
  | .inl other :: rest =>
    rcases List.mem_cons.mp among with same | later
    · obtain rfl := Sum.inl.inj same
      exact List.mem_append_left _ inside
    · exact List.mem_append_right _ (mem_partsIn rest later inside)
  | .inr connective :: rest =>
    rcases List.mem_cons.mp among with same | later
    · contradiction
    · exact mem_partsIn rest later inside

theorem mem_parts_iff {part draft : Draft} : part ∈ draft.parts ↔ Within part draft := by
  constructor
  · exact within_of_mem_parts draft
  · intro within
    induction within with
    | self => exact part.mem_parts_self
    | item among _ ih => exact List.mem_cons_of_mem _ (mem_partsIn _ among ih)

end Draft

namespace Checker

variable {checker : Checker} {draft : Draft}

/-- What is wrong with a draft itself, whatever is wrong inside it. -/
def flaw? (checker : Checker) : Draft → Option QueryError
  | .leaf key value _ => failure? (checker.checkLeaf key value)
  | .chain items => (defect? items).map .malformed

mutual

theorem violations_eq_flaws (checker : Checker) (draft : Draft) :
    checker.violations draft = draft.parts.filterMap checker.flaw? := by
  match draft with
  | .leaf key value span =>
    rw [violations, Draft.parts, List.filterMap_cons, List.filterMap_nil, flaw?]
    cases checker.checkLeaf key value <;> rfl
  | .chain items =>
    rw [violations, violationsIn_eq_flaws checker items, Draft.parts, List.filterMap_cons, flaw?]
    cases defect? items <;> rfl

theorem violationsIn_eq_flaws (checker : Checker) (items : List (Draft ⊕ Connective)) :
    checker.violationsIn items = (Draft.partsIn items).filterMap checker.flaw? := by
  match items with
  | [] => rfl
  | .inl child :: rest =>
    rw [violationsIn, violations_eq_flaws checker child, violationsIn_eq_flaws checker rest,
      Draft.partsIn, List.filterMap_append]
  | .inr connective :: rest => rw [violationsIn, violationsIn_eq_flaws checker rest, Draft.partsIn]

end

/-- A draft is checked to a tree if no part of it has a flaw. -/
theorem exists_validate_iff :
    (∃ node, checker.validate draft = .ok node) ↔
      ∀ part, Draft.Within part draft → checker.flaw? part = none := by
  rw [← failure?_eq_none_iff, ← head?_violations, List.head?_eq_none_iff, violations_eq_flaws,
    List.filterMap_eq_nil_iff]
  simp only [Draft.mem_parts_iff]

/-- On every draft, whatever its chains are like, the check that stops fails with the first of all
violations, and succeeds if there are none. The violations are the flaws of all parts, in the order
of the text. -/
theorem validate_agrees_with_violations (checker : Checker) (draft : Draft) :
    (∀ e, checker.validate draft = .error e ↔ ∃ others, checker.violations draft = e :: others) ∧
    ((∃ node, checker.validate draft = .ok node) ↔ checker.violations draft = []) ∧
    checker.violations draft = draft.parts.filterMap checker.flaw? := by
  refine ⟨fun e => ?_, ?_, violations_eq_flaws checker draft⟩
  · rw [← failure?_eq_some_iff, ← head?_violations, List.head?_eq_some_iff]
  · rw [← failure?_eq_none_iff, ← head?_violations, List.head?_eq_none_iff]

end Checker
end BroadcastQuery
