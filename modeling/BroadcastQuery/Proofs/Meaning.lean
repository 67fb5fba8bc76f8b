import BroadcastQuery.Proofs.Splicing

/-!
What trees mean. A conjunction holds if all of its children do and a disjunction if one does, so
empty ones are true and false. Where the truth of a leaf depends on its wire form only, a tree
means the same before and after optimization.
-/
namespace BroadcastQuery

namespace Connective

def combine : Connective → List Bool → Bool
  | and, operands => operands.all id
  | or, operands => operands.any id

variable {connective : Connective} {xs ys : List Bool}

@[simp] theorem combine_singleton (b : Bool) : connective.combine [b] = b := by
  cases connective <;> simp [combine]

/-- Order and repetition of operands do not matter. -/
theorem combine_congr (same : ∀ b, b ∈ xs ↔ b ∈ ys) :
    connective.combine xs = connective.combine ys := by
  rw [Bool.eq_iff_iff]
  cases connective with
  | and => simp only [combine, List.all_eq_true, same]
  | or => simp only [combine, List.any_eq_true, same]

/-- Operands may be combined in parts. -/
theorem combine_flatMap {α : Type} (parts : α → List Bool) (items : List α) :
    connective.combine (items.flatMap parts) =
      connective.combine (items.map fun item => connective.combine (parts item)) := by
  cases connective with
  | and =>
    rw [combine, List.all_flatMap, combine, List.all_map]
    rfl
  | or =>
    rw [combine, List.any_flatMap, combine, List.any_map]
    rfl

end Connective

namespace Node

/-- The truth of a tree, given that of its leaves. -/
def eval (holds : Leaf → Bool) : Node → Bool := fold holds Connective.combine

variable {holds : Leaf → Bool} {connective : Connective}

@[simp] theorem eval_leaf (l : Leaf) : (leaf l).eval holds = holds l := rfl

@[simp] theorem eval_group (children : List Node) :
    (group connective children).eval holds = connective.combine (children.map (eval holds)) := by
  simp only [eval, fold_group]

@[simp] theorem eval_checkerGroup (nodes : List Node) :
    (Checker.group connective nodes).eval holds = connective.combine (nodes.map (eval holds)) := by
  unfold Checker.group
  split
  · rw [List.map_singleton, Connective.combine_singleton]
  · exact eval_group _

/-- A tree is worth its members. -/
theorem combine_members (node : Node) :
    connective.combine ((node.members connective).map (eval holds)) = node.eval holds := by
  induction node using Node.induction with
  | leaf l => simp
  | group inner children ih =>
    by_cases same : inner = connective
    · subst same
      rw [members_group_self, List.map_flatMap, Connective.combine_flatMap, eval_group]
      exact congrArg _ (List.map_congr_left ih)
    · rw [members_group_of_ne same, List.map_singleton, Connective.combine_singleton]

variable {truth : Text → Bool}

/-- Trees of one key mean the same: their leaves have the same wire forms, and the order of
children does not matter. -/
theorem eval_eq_of_canonicalKey_eq {a b : Node} (same : a.canonicalKey = b.canonicalKey) :
    a.eval (fun l => truth l.wire) = b.eval (fun l => truth l.wire) := by
  induction a using Node.induction generalizing b with
  | leaf l =>
    cases b with
    | leaf m => exact congrArg truth same
    | group other ys => exact absurd same (canonicalKey_leaf_ne_group l other ys)
  | group inner xs ih =>
    cases b with
    | leaf m => exact absurd same.symm (canonicalKey_leaf_ne_group m inner xs)
    | group other ys =>
      obtain ⟨rfl, keys⟩ := canonicalKey_group_eq_iff.mp same
      rw [eval_group, eval_group]
      apply Connective.combine_congr
      intro value
      simp only [List.mem_map]
      constructor
      · rintro ⟨x, member, rfl⟩
        obtain ⟨y, inside, sameKey⟩ := List.mem_map.mp (keys.subset (List.mem_map_of_mem member))
        exact ⟨y, inside, (ih x member sameKey.symm).symm⟩
      · rintro ⟨y, member, rfl⟩
        obtain ⟨x, inside, sameKey⟩ :=
          List.mem_map.mp (keys.symm.subset (List.mem_map_of_mem member))
        exact ⟨x, inside, ih x inside sameKey⟩

/-- Nodes dropped for their key change nothing. -/
theorem combine_distinct (nodes : List Node) :
    connective.combine ((distinct nodes).map (eval fun l => truth l.wire)) =
      connective.combine (nodes.map (eval fun l => truth l.wire)) := by
  apply Connective.combine_congr
  intro value
  simp only [List.mem_map]
  constructor
  · rintro ⟨node, kept, rfl⟩
    exact ⟨node, (distinct_sublist nodes).subset kept, rfl⟩
  · rintro ⟨node, member, rfl⟩
    obtain ⟨kept, among, sameKey⟩ := exists_mem_distinct member
    exact ⟨kept, among, eval_eq_of_canonicalKey_eq sameKey⟩

/-- A tree and its optimized form hold in the same cases. -/
theorem eval_optimize (truth : Text → Bool) (node : Node) :
    node.optimize.eval (fun l => truth l.wire) = node.eval (fun l => truth l.wire) := by
  induction node using Node.induction with
  | leaf l => rfl
  | group connective children ih =>
    rw [optimize_group, eval_checkerGroup, combine_distinct, List.map_flatMap,
      Connective.combine_flatMap, eval_group, List.map_map]
    apply congrArg
    apply List.map_congr_left
    intro child member
    rw [Function.comp_apply, combine_members, ih child member]

end Node
end BroadcastQuery
