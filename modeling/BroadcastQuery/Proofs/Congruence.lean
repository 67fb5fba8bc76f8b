import BroadcastQuery.Proofs.CanonicalForm
import BroadcastQuery.Proofs.Reordering

/-!
Trees up to associativity, commutativity and idempotence of their groups. Every tree is congruent
to its optimized form, and congruent trees have optimized forms of one canonical key, so
optimization decides the congruence.
-/
namespace BroadcastQuery.Node

/-- The laws of groups and leaves, at the root of a tree. -/
inductive Law : Node → Node → Prop
  | splice (connective : Connective) (before inner after : List Node) :
      Law (.group connective (before ++ .group connective inner :: after))
        (.group connective (before ++ inner ++ after))
  | reorder (connective : Connective) {children others : List Node} (perm : children.Perm others) :
      Law (.group connective children) (.group connective others)
  | repetition (connective : Connective) {before after : List Node} {child : Node}
      (present : child ∈ before ++ after) :
      Law (.group connective (before ++ child :: after)) (.group connective (before ++ after))
  | single (connective : Connective) (child : Node) : Law (.group connective [child]) child
  | wire {l m : Leaf} (same : l.wire = m.wire) : Law (.leaf l) (.leaf m)

inductive Congruent : Node → Node → Prop
  | law {a b : Node} (law : Law a b) : Congruent a b
  | child (connective : Connective) (before after : List Node) {a b : Node}
      (inner : Congruent a b) :
      Congruent (.group connective (before ++ a :: after)) (.group connective (before ++ b :: after))
  | refl (a : Node) : Congruent a a
  | symm {a b : Node} (reverse : Congruent b a) : Congruent a b
  | trans {a b c : Node} (first : Congruent a b) (second : Congruent b c) : Congruent a c

variable {connective : Connective} {a b node : Node} {xs ys nodes : List Node}

/-! Trees are congruent to their optimized forms. -/

namespace Congruent

theorem children (each : List.Forall₂ Congruent xs ys) (before : List Node) :
    Congruent (.group connective (before ++ xs)) (.group connective (before ++ ys)) := by
  induction each generalizing before with
  | nil => exact refl _
  | @cons x y xs ys first _ ih =>
    have others := ih (before ++ [y])
    rw [List.append_assoc, List.append_assoc] at others
    exact (child connective before xs first).trans others

theorem flatMap_members (connective : Connective) (nodes : List Node)
    (each : ∀ node ∈ nodes, ∀ before after,
      Congruent (.group connective (before ++ node :: after))
        (.group connective (before ++ node.members connective ++ after)))
    (before after : List Node) :
    Congruent (.group connective (before ++ nodes ++ after))
      (.group connective (before ++ nodes.flatMap (members connective) ++ after)) := by
  induction nodes generalizing before with
  | nil => exact refl _
  | cons node rest ih =>
    have first := each node List.mem_cons_self before (rest ++ after)
    have others := ih (fun other member => each other (List.mem_cons_of_mem _ member))
      (before ++ node.members connective)
    simp only [List.append_assoc, List.flatMap_cons, List.cons_append] at first others ⊢
    exact first.trans others

/-- A child may be replaced by its members. -/
theorem members (node : Node) (before after : List Node) :
    Congruent (.group connective (before ++ node :: after))
      (.group connective (before ++ node.members connective ++ after)) := by
  induction node using Node.induction generalizing before after with
  | leaf l =>
    rw [members_leaf, List.append_assoc]
    exact refl _
  | group inner children ih =>
    by_cases same : inner = connective
    · subst same
      rw [members_group_self]
      exact (law (.splice inner before children after)).trans
        (flatMap_members inner children ih before after)
    · rw [members_group_of_ne same, List.append_assoc]
      exact refl _

theorem of_reordered (reordered : Reordered a b) : Congruent a b := by
  refine reordered.induction ?leaf ?group
  case leaf =>
    intro l m key value
    exact law (.wire (Leaf.wire_eq_iff.mpr ⟨key, value⟩))
  case group =>
    intro connective xs ys zs pairs order
    exact (children pairs []).trans (law (.reorder connective order))

theorem of_canonicalKey_eq (same : a.canonicalKey = b.canonicalKey) : Congruent a b :=
  of_reordered (reordered_of_canonicalKey_eq same)

/-- A child may be dropped if there is another one of its key. -/
theorem distinct (nodes before : List Node) :
    Congruent (.group connective (before ++ nodes))
      (.group connective (before ++ distinct nodes)) := by
  induction nodes generalizing before with
  | nil => exact refl _
  | cons node rest ih =>
    have others := ih (before ++ [node])
    rw [List.append_assoc, List.append_assoc] at others
    rw [distinct_cons, keep]
    split
    case isFalse => exact others
    case isTrue found =>
      obtain ⟨kept, member, same⟩ := List.mem_map.mp (List.contains_iff_mem.mp found)
      -- Only equal children may be dropped, so `node` is first replaced by the child that stays.
      have replaced := child connective before (Node.distinct rest) (of_canonicalKey_eq same.symm)
      have dropped := law (.repetition connective (List.mem_append_right before member))
      exact others.trans (replaced.trans dropped)

theorem checkerGroup (nodes : List Node) :
    Congruent (.group connective nodes) (Checker.group connective nodes) := by
  unfold Checker.group
  split
  case h_1 only => exact law (.single connective only)
  case h_2 => exact refl _

theorem optimize (node : Node) : Congruent node node.optimize := by
  induction node using Node.induction with
  | leaf l => exact refl _
  | group connective nodes ih =>
    have inner : Congruent (.group connective nodes) (.group connective (nodes.map Node.optimize)) :=
      children (List.forall₂_map_right_iff.mpr (List.forall₂_same.mpr ih)) []
    have spliced := flatMap_members connective (nodes.map Node.optimize)
      (fun node _ => members node) [] []
    rw [List.append_nil, List.append_nil] at spliced
    rw [optimize_group]
    exact inner.trans (spliced.trans ((distinct _ []).trans (checkerGroup _)))

end Congruent

/-! Congruent trees have optimized forms of one key. What matters of a child is which keys it brings
into its group. -/

theorem mem_map_distinct {key : Text} :
    key ∈ (distinct nodes).map canonicalKey ↔ key ∈ nodes.map canonicalKey := by
  constructor
  · intro kept
    exact ((distinct_sublist nodes).map canonicalKey).subset kept
  · intro inside
    obtain ⟨node, member, rfl⟩ := List.mem_map.mp inside
    obtain ⟨kept, among, same⟩ := exists_mem_distinct member
    exact List.mem_map.mpr ⟨kept, among, same⟩

theorem canonicalKey_checkerGroup (perm : (xs.map canonicalKey).Perm (ys.map canonicalKey)) :
    (Checker.group connective xs).canonicalKey = (Checker.group connective ys).canonicalKey := by
  have lengths : xs.length = ys.length := by
    simpa using perm.length_eq
  by_cases single : xs.length = 1
  · obtain ⟨x, rfl⟩ := List.length_eq_one_iff.mp single
    obtain ⟨y, rfl⟩ := List.length_eq_one_iff.mp (lengths ▸ single)
    exact List.singleton_perm_singleton.mp perm
  · rw [checkerGroup_of_length_ne_one single, checkerGroup_of_length_ne_one (lengths ▸ single)]
    exact canonicalKey_group_eq_iff.mpr ⟨rfl, perm⟩

/-- The keys that a tree brings into a group of the connective when it is optimized. -/
def memberKeys (connective : Connective) (node : Node) : List Text :=
  (node.optimize.members connective).map canonicalKey

theorem canonicalKey_optimize_group
    (same : ∀ key, key ∈ xs.flatMap (memberKeys connective) ↔
      key ∈ ys.flatMap (memberKeys connective)) :
    (group connective xs).optimize.canonicalKey = (group connective ys).optimize.canonicalKey := by
  have keys (nodes : List Node) :
      ((nodes.map optimize).flatMap (members connective)).map canonicalKey =
        nodes.flatMap (memberKeys connective) := by
    rw [List.map_flatMap, List.flatMap_map]
    rfl
  rw [optimize_group, optimize_group]
  apply canonicalKey_checkerGroup
  apply (List.perm_ext_iff_of_nodup (nodup_distinct _) (nodup_distinct _)).mpr
  intro key
  rw [mem_map_distinct, mem_map_distinct, keys, keys]
  exact same key

/-- Canonical trees of one key bring the same keys into every group. -/
theorem Canonical.perm_members (canonical : a.Canonical) (canonical' : b.Canonical)
    (same : a.canonicalKey = b.canonicalKey) :
    ((a.members connective).map canonicalKey).Perm ((b.members connective).map canonicalKey) := by
  cases canonical with
  | leaf l =>
    cases canonical' with
    | leaf m => exact .of_eq (congrArg (fun key => [key]) same)
    | group => exact absurd same (canonicalKey_leaf_ne_group _ _ _)
  | @group own xs _ apart _ _ =>
    cases canonical' with
    | leaf m => exact absurd same.symm (canonicalKey_leaf_ne_group _ _ _)
    | @group other ys _ apart' _ _ =>
      obtain ⟨rfl, perm⟩ := canonicalKey_group_eq_iff.mp same
      by_cases equal : own = connective
      · subst equal
        rw [members_group_self, members_group_self, flatMap_members_of_apart apart,
          flatMap_members_of_apart apart']
        exact perm
      · rw [members_group_of_ne equal, members_group_of_ne equal]
        exact .of_eq (congrArg (fun key => [key]) same)

theorem mem_memberKeys_congr (same : a.optimize.canonicalKey = b.optimize.canonicalKey)
    {key : Text} : key ∈ memberKeys connective a ↔ key ∈ memberKeys connective b :=
  (a.canonical_optimized.perm_members b.canonical_optimized same).mem_iff

theorem members_checkerGroup (apart : ∀ inner, group connective inner ∉ nodes) :
    (Checker.group connective nodes).members connective = nodes := by
  unfold Checker.group
  split
  case h_1 only =>
    exact members_of_apart fun inner same => apart inner (same ▸ List.mem_cons_self)
  case h_2 => rw [members_group_self, flatMap_members_of_apart apart]

/-- The members of an optimized group are what it keeps, also where it is replaced by its only
child. -/
theorem members_optimize_group (connective : Connective) (nodes : List Node) :
    (group connective nodes).optimize.members connective =
      distinct ((nodes.map optimize).flatMap (members connective)) := by
  rw [optimize_group]
  apply members_checkerGroup
  intro inner kept
  obtain ⟨child, -, inside⟩ := exists_of_mem_optimized kept
  exact (child.canonical_optimized.of_mem_members inside).2 inner rfl

/-- A group brings into another one of its connective what its children do. -/
theorem mem_memberKeys_group {key : Text} :
    key ∈ memberKeys connective (group connective nodes) ↔
      key ∈ nodes.flatMap (memberKeys connective) := by
  rw [memberKeys, members_optimize_group, mem_map_distinct, List.map_flatMap, List.flatMap_map]
  rfl

theorem Canonical.checkerGroup_distinct_members (canonical : node.Canonical) :
    Checker.group connective (distinct (node.members connective)) = node := by
  cases canonical with
  | leaf l => rfl
  | @group own children count apart differ _ =>
    by_cases same : own = connective
    · subst same
      rw [members_group_self, flatMap_members_of_apart apart, distinct_of_nodup differ,
        checkerGroup_of_length_ne_one count]
    · rw [members_group_of_ne same]
      rfl

theorem optimize_single (connective : Connective) (child : Node) :
    (group connective [child]).optimize = child.optimize := by
  rw [optimize_group, List.map_singleton, List.flatMap_singleton]
  exact child.canonical_optimized.checkerGroup_distinct_members

theorem Law.canonicalKey_optimize (law : Law a b) :
    a.optimize.canonicalKey = b.optimize.canonicalKey := by
  -- Each law about groups keeps the set of the keys that the children bring, also where a child
  -- collapses to a member of another connective.
  cases law with
  | splice connective before inner after =>
    apply canonicalKey_optimize_group
    intro key
    simp only [List.flatMap_append, List.flatMap_cons, List.mem_append, mem_memberKeys_group,
      or_assoc]
  | reorder connective perm =>
    apply canonicalKey_optimize_group
    intro key
    simp only [List.mem_flatMap, perm.mem_iff]
  | @repetition connective before after child present =>
    apply canonicalKey_optimize_group
    intro key
    have already (brought : key ∈ memberKeys connective child) :
        key ∈ (before ++ after).flatMap (memberKeys connective) :=
      List.mem_flatMap.mpr ⟨child, present, brought⟩
    simp only [List.flatMap_append, List.flatMap_cons, List.mem_append] at already ⊢
    tauto
  | single connective child => rw [optimize_single]
  | wire same => exact same

theorem Congruent.canonicalKey_optimize (congruent : Congruent a b) :
    a.optimize.canonicalKey = b.optimize.canonicalKey := by
  induction congruent with
  | law law => exact law.canonicalKey_optimize
  | child connective before after _ ih =>
    apply canonicalKey_optimize_group
    intro key
    simp only [List.flatMap_append, List.flatMap_cons, List.mem_append, mem_memberKeys_congr ih]
  | refl a => rfl
  | symm _ ih => exact ih.symm
  | trans _ _ first second => exact first.trans second

/-- Trees are congruent exactly if their optimized forms have one canonical key. -/
theorem canonicalKey_optimize_eq_iff (a b : Node) :
    a.optimize.canonicalKey = b.optimize.canonicalKey ↔ Congruent a b := by
  constructor
  · intro same
    exact (Congruent.optimize a).trans
      ((Congruent.of_canonicalKey_eq same).trans (Congruent.optimize b).symm)
  · exact Congruent.canonicalKey_optimize

end BroadcastQuery.Node
