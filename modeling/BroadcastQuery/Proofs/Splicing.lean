import BroadcastQuery.Validation
import BroadcastQuery.Node.Optimization
import BroadcastQuery.Proofs.CanonicalKey

/-!
What optimization keeps, apart from the changes that it lists. A group gathers the members of its
optimized children, keeps of those with one key the last, and is replaced by its only member if
one is left.
-/
namespace BroadcastQuery

namespace Node

mutual

/-- The tree itself, or the members of its children where it is a group of the connective. -/
def members (connective : Connective) : Node → List Node
  | .leaf l => [.leaf l]
  | .group inner children =>
    if inner = connective then membersAll connective children else [.group inner children]

def membersAll (connective : Connective) : List Node → List Node
  | [] => []
  | child :: rest => members connective child ++ membersAll connective rest

end

theorem membersAll_eq_flatMap (connective : Connective) (children : List Node) :
    membersAll connective children = children.flatMap (members connective) := by
  induction children with
  | nil => rfl
  | cons child rest ih => rw [membersAll, ih, List.flatMap_cons]

@[simp] theorem members_leaf (connective : Connective) (l : Leaf) :
    (leaf l).members connective = [leaf l] := rfl

@[simp] theorem members_group_self (connective : Connective) (children : List Node) :
    (group connective children).members connective = children.flatMap (members connective) := by
  rw [members, if_pos rfl, membersAll_eq_flatMap]

theorem members_group_of_ne {inner connective : Connective} (other : inner ≠ connective)
    (children : List Node) :
    (group inner children).members connective = [group inner children] := by
  rw [members, if_neg other]

/-- The nodes with one more before them, unless one of them has its key. -/
def keep (node : Node) (kept : List Node) : List Node :=
  if (kept.map canonicalKey).contains node.canonicalKey then kept else node :: kept

/-- Of the nodes of one key the last. -/
def distinct (nodes : List Node) : List Node := nodes.foldr keep []

@[simp] theorem distinct_nil : distinct [] = [] := rfl

@[simp] theorem distinct_cons (node : Node) (rest : List Node) :
    distinct (node :: rest) = keep node (distinct rest) := rfl

theorem keep_sublist (node : Node) (kept : List Node) :
    (keep node kept).Sublist (node :: kept) := by
  unfold keep
  split
  · exact List.sublist_cons_self node kept
  · exact List.Sublist.refl _

theorem distinct_sublist (nodes : List Node) : (distinct nodes).Sublist nodes := by
  induction nodes with
  | nil => exact .slnil
  | cons node rest ih => exact (keep_sublist node _).trans (ih.cons_cons node)

/-- Every key is kept. -/
theorem exists_mem_distinct {nodes : List Node} {node : Node} (member : node ∈ nodes) :
    ∃ kept ∈ distinct nodes, kept.canonicalKey = node.canonicalKey := by
  induction nodes with
  | nil => contradiction
  | cons head rest ih =>
    rw [distinct_cons, keep]
    split
    case isTrue found =>
      rcases List.mem_cons.mp member with rfl | inside
      · exact List.mem_map.mp (List.contains_iff_mem.mp found)
      · exact ih inside
    case isFalse =>
      rcases List.mem_cons.mp member with rfl | inside
      · exact ⟨node, List.mem_cons_self, rfl⟩
      · obtain ⟨kept, among, same⟩ := ih inside
        exact ⟨kept, List.mem_cons_of_mem _ among, same⟩

end Node

namespace Kept

/-- The keys are those of the nodes. -/
def Sound (kept : Kept) : Prop := kept.keys = kept.nodes.map Node.canonicalKey

theorem sound_empty : empty.Sound := rfl

theorem offer_spec {kept : Kept} (sound : kept.Sound) (node : Node) :
    (kept.offer node).Sound ∧ (kept.offer node).nodes = node.keep kept.nodes := by
  unfold Sound at sound ⊢
  rw [offer, Node.keep, sound]
  by_cases found : node.canonicalKey ∈ kept.nodes.map Node.canonicalKey
  · rw [if_pos found, if_pos (List.contains_iff_mem.mpr found)]
    exact ⟨sound, rfl⟩
  · rw [if_neg found, if_neg (mt List.contains_iff_mem.mp found)]
    exact ⟨rfl, rfl⟩

/-- To absorb a list is to keep all members of its nodes, from the last to the first. -/
theorem absorbAll_spec {connective : Connective} {nodes : List Node}
    (each : ∀ node ∈ nodes, ∀ kept : Kept, kept.Sound →
      (absorb connective node kept).Sound ∧
      (absorb connective node kept).nodes = (node.members connective).foldr Node.keep kept.nodes)
    {kept : Kept} (sound : kept.Sound) :
    (absorbAll connective nodes kept).Sound ∧
    (absorbAll connective nodes kept).nodes =
      (nodes.flatMap (Node.members connective)).foldr Node.keep kept.nodes := by
  induction nodes with
  | nil => exact ⟨sound, rfl⟩
  | cons node rest ih =>
    obtain ⟨restSound, restNodes⟩ := ih fun other member =>
      each other (List.mem_cons_of_mem _ member)
    obtain ⟨headSound, headNodes⟩ := each node List.mem_cons_self _ restSound
    rw [absorbAll]
    refine ⟨headSound, ?_⟩
    rw [headNodes, restNodes, List.flatMap_cons, List.foldr_append]

theorem absorb_spec (connective : Connective) (node : Node) : ∀ kept : Kept, kept.Sound →
    (absorb connective node kept).Sound ∧
    (absorb connective node kept).nodes = (node.members connective).foldr Node.keep kept.nodes := by
  induction node using Node.induction with
  | leaf l => exact fun kept sound => offer_spec sound (.leaf l)
  | group inner children ih =>
    intro kept sound
    by_cases same : inner = connective
    · subst same
      have noted : (kept.note (.flattened inner children.length)).Sound := sound
      rw [absorb, if_pos rfl, Node.members_group_self]
      exact absorbAll_spec ih noted
    · rw [absorb, if_neg same, Node.members_group_of_ne same]
      exact offer_spec sound _

end Kept

namespace Node

theorem tree_regroup (connective : Connective) (children : List Optimized) :
    (regroup connective children).tree = Checker.group connective
      (distinct ((children.map Optimized.tree).flatMap (members connective))) := by
  have kept : (Kept.absorbAll connective (children.map Optimized.tree) .empty).nodes =
      distinct ((children.map Optimized.tree).flatMap (members connective)) :=
    (Kept.absorbAll_spec (fun node _ => Kept.absorb_spec connective node) Kept.sound_empty).2
  rw [regroup, ← kept]
  split
  case h_1 only shape => rw [shape, Checker.group]
  case h_2 several => exact (Checker.group.eq_2 connective _ several).symm

@[simp] theorem optimize_leaf (l : Leaf) : (leaf l).optimize = leaf l := rfl

/-- Optimization without its list of changes. -/
theorem optimize_group (connective : Connective) (children : List Node) :
    (group connective children).optimize = Checker.group connective
      (distinct ((children.map optimize).flatMap (members connective))) := by
  rw [optimize, optimizeTraced, fold_group, tree_regroup, List.map_map]
  rfl

end Node
end BroadcastQuery
