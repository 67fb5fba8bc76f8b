import BroadcastQuery.Proofs.Splicing

/-!
The form that optimization gives to trees, and that it leaves alone: no group has one child, a
child of its own connective, or two children of one key. Optimization drops leaves but never moves
them.
-/
namespace BroadcastQuery.Node

/-- Nothing is left to optimize in a tree. -/
inductive Canonical : Node → Prop
  | leaf (l : Leaf) : Canonical (.leaf l)
  | group {connective : Connective} {children : List Node} (count : children.length ≠ 1)
      (apart : ∀ inner, .group connective inner ∉ children)
      (differ : (children.map canonicalKey).Nodup)
      (each : ∀ child ∈ children, Canonical child) : Canonical (.group connective children)

variable {connective : Connective} {node : Node} {nodes children : List Node}

theorem members_of_apart (apart : ∀ inner, node ≠ .group connective inner) :
    node.members connective = [node] := by
  cases node with
  | leaf l => rfl
  | group other inner =>
    refine members_group_of_ne ?_ inner
    rintro rfl
    exact apart inner rfl

theorem flatMap_members_of_apart (apart : ∀ inner, .group connective inner ∉ nodes) :
    nodes.flatMap (members connective) = nodes := by
  induction nodes with
  | nil => rfl
  | cons node rest ih =>
    have here : node.members connective = [node] :=
      members_of_apart fun inner same => apart inner (same ▸ List.mem_cons_self)
    rw [List.flatMap_cons, here, ih fun inner member => apart inner (List.mem_cons_of_mem _ member)]
    rfl

/-- The members of a canonical tree are canonical and none is a group of the connective. -/
theorem Canonical.of_mem_members (canonical : node.Canonical) {member : Node}
    (inside : member ∈ node.members connective) :
    member.Canonical ∧ ∀ inner, member ≠ .group connective inner := by
  cases canonical with
  | leaf l =>
    obtain rfl := List.mem_singleton.mp inside
    exact ⟨.leaf l, by simp⟩
  | @group other children count apart differ each =>
    by_cases same : other = connective
    · subst same
      rw [members_group_self, flatMap_members_of_apart apart] at inside
      refine ⟨each member inside, ?_⟩
      rintro inner rfl
      exact apart inner inside
    · rw [members_group_of_ne same, List.mem_singleton] at inside
      subst inside
      refine ⟨.group count apart differ each, ?_⟩
      rintro inner equal
      exact same (Node.group.inj equal).1

theorem nodup_distinct (nodes : List Node) : ((distinct nodes).map canonicalKey).Nodup := by
  induction nodes with
  | nil => exact List.nodup_nil
  | cons node rest ih =>
    rw [distinct_cons, keep]
    split
    case isTrue => exact ih
    case isFalse fresh =>
      exact List.nodup_cons.mpr ⟨fun member => fresh (List.contains_iff_mem.mpr member), ih⟩

theorem distinct_of_nodup (differ : (nodes.map canonicalKey).Nodup) : distinct nodes = nodes := by
  induction nodes with
  | nil => rfl
  | cons node rest ih =>
    obtain ⟨fresh, others⟩ := List.nodup_cons.mp differ
    rw [distinct_cons, ih others, keep, if_neg (mt List.contains_iff_mem.mp fresh)]

theorem canonical_checkerGroup (each : ∀ node ∈ nodes, node.Canonical)
    (apart : ∀ inner, .group connective inner ∉ nodes)
    (differ : (nodes.map canonicalKey).Nodup) : (Checker.group connective nodes).Canonical := by
  unfold Checker.group
  split
  case h_1 only => exact each only List.mem_cons_self
  case h_2 several =>
    refine .group (fun single => ?_) apart differ each
    obtain ⟨only, shape⟩ := List.length_eq_one_iff.mp single
    exact several only shape

theorem checkerGroup_of_length_ne_one (count : nodes.length ≠ 1) :
    Checker.group connective nodes = group connective nodes := by
  unfold Checker.group
  split
  · contradiction
  · rfl

/-- What stays in an optimized group comes from one of the children. -/
theorem exists_of_mem_optimized
    (kept : node ∈ distinct ((children.map optimize).flatMap (members connective))) :
    ∃ child ∈ children, node ∈ child.optimize.members connective := by
  obtain ⟨optimized, among, inside⟩ := List.mem_flatMap.mp ((distinct_sublist _).subset kept)
  obtain ⟨child, present, rfl⟩ := List.mem_map.mp among
  exact ⟨child, present, inside⟩

/-- Optimized trees are canonical. -/
theorem canonical_optimized (node : Node) : node.optimize.Canonical := by
  induction node using Node.induction with
  | leaf l => exact .leaf l
  | group connective children ih =>
    have members : ∀ member ∈ distinct ((children.map optimize).flatMap (members connective)),
        member.Canonical ∧ ∀ inner, member ≠ .group connective inner := by
      intro member kept
      obtain ⟨child, present, inside⟩ := exists_of_mem_optimized kept
      exact (ih child present).of_mem_members inside
    rw [optimize_group]
    exact canonical_checkerGroup (fun member kept => (members member kept).1)
      (fun inner kept => (members _ kept).2 inner rfl) (nodup_distinct _)

/-- Canonical trees stay as they are. -/
theorem Canonical.optimize_eq (canonical : node.Canonical) : node.optimize = node := by
  induction canonical with
  | leaf l => rfl
  | @group connective children count apart differ each ih =>
    have same : children.map optimize = children := by
      rw [List.map_congr_left ih, List.map_id']
    rw [optimize_group, same, flatMap_members_of_apart apart, distinct_of_nodup differ,
      checkerGroup_of_length_ne_one count]

/-! Groups keep children. -/

/-- Every group has so many children at least. -/
def Grouped (least : Nat) : Node → Prop :=
  fold (fun _ => True) fun _ parts => least ≤ parts.length ∧ ∀ holds ∈ parts, holds

@[simp] theorem grouped_leaf (least : Nat) (l : Leaf) : (leaf l).Grouped least := trivial

@[simp] theorem grouped_group {least : Nat} : (group connective children).Grouped least ↔
    least ≤ children.length ∧ ∀ child ∈ children, child.Grouped least := by
  rw [Grouped, fold_group, List.length_map, List.forall_mem_map]

theorem Grouped.mono {least more : Nat} (grouped : node.Grouped more) (fewer : least ≤ more) :
    node.Grouped least := by
  induction node using Node.induction with
  | leaf l => trivial
  | group connective children ih =>
    obtain ⟨several, each⟩ := grouped_group.mp grouped
    exact grouped_group.mpr ⟨Nat.le_trans fewer several, fun child member =>
      ih child member (each child member)⟩

theorem Grouped.of_mem_members {least : Nat} (grouped : node.Grouped least) {member : Node}
    (inside : member ∈ node.members connective) : member.Grouped least := by
  induction node using Node.induction with
  | leaf l =>
    obtain rfl := List.mem_singleton.mp inside
    exact grouped
  | group other children ih =>
    by_cases same : other = connective
    · subst same
      rw [members_group_self] at inside
      obtain ⟨child, among, inside⟩ := List.mem_flatMap.mp inside
      exact ih child among ((grouped_group.mp grouped).2 child among) inside
    · rw [members_group_of_ne same, List.mem_singleton] at inside
      exact inside ▸ grouped

theorem Grouped.members_ne_nil (grouped : node.Grouped 1) (connective : Connective) :
    node.members connective ≠ [] := by
  induction node using Node.induction with
  | leaf l => simp
  | group other children ih =>
    by_cases same : other = connective
    · subst same
      obtain ⟨several, each⟩ := grouped_group.mp grouped
      obtain ⟨child, rest, rfl⟩ := List.exists_cons_of_length_pos several
      rw [members_group_self, List.flatMap_cons]
      exact List.append_ne_nil_of_left_ne_nil
        (ih child List.mem_cons_self (each child List.mem_cons_self)) _
    · simp [members_group_of_ne same]

theorem grouped_checkerGroup (some : nodes ≠ []) (each : ∀ node ∈ nodes, node.Grouped 2) :
    (Checker.group connective nodes).Grouped 2 := by
  match nodes with
  | [] => contradiction
  | [only] => exact each only List.mem_cons_self
  | first :: second :: rest =>
    refine grouped_group.mpr ⟨?_, each⟩
    simp only [List.length_cons]
    omega

/-- Where no group is empty, optimization leaves no group with less than two children. -/
theorem Grouped.optimized (grouped : node.Grouped 1) : node.optimize.Grouped 2 := by
  induction node using Node.induction with
  | leaf l => trivial
  | group connective children ih =>
    obtain ⟨several, each⟩ := grouped_group.mp grouped
    rw [optimize_group]
    apply grouped_checkerGroup
    · obtain ⟨child, rest, rfl⟩ := List.exists_cons_of_length_pos several
      have first := (ih child List.mem_cons_self (each child List.mem_cons_self)).mono
        (Nat.le_succ 1)
      obtain ⟨member, inside⟩ := List.exists_mem_of_ne_nil _ (first.members_ne_nil connective)
      have listed : member ∈ ((child :: rest).map optimize).flatMap (members connective) :=
        List.mem_flatMap.mpr ⟨child.optimize, List.mem_cons_self, inside⟩
      obtain ⟨other, present, -⟩ := exists_mem_distinct listed
      exact List.ne_nil_of_mem present
    · intro kept member
      obtain ⟨child, present, inside⟩ := exists_of_mem_optimized member
      exact (ih child present (each child present)).of_mem_members inside

/-- Optimization makes every tree canonical and leaves alone just the canonical ones. Where no group
is empty, each group that is left has two children at least. -/
theorem canonical_optimize (node : Node) :
    node.optimize.Canonical ∧ (node.optimize = node ↔ node.Canonical) ∧
      node.optimize.optimize = node.optimize ∧ (node.Grouped 1 → node.optimize.Grouped 2) := by
  have canonical := node.canonical_optimized
  refine ⟨canonical, ⟨fun same => ?_, Canonical.optimize_eq⟩, canonical.optimize_eq,
    Grouped.optimized⟩
  rw [← same]
  exact canonical

/-- A disjunction collapses to a conjunction, which is spliced and brings in a repeated leaf. -/
theorem canonical_optimize_collapsed :
    (group .and [leaf ⟨.hour, .text ['1']⟩, group .or [group .and [leaf ⟨.video, .text ['2']⟩,
        leaf ⟨.hour, .text ['1']⟩]]]).Grouped 1 ∧
      (group .and [leaf ⟨.video, .text ['2']⟩, leaf ⟨.hour, .text ['1']⟩]).Grouped 2 := by
  have grouped : (group .and [leaf ⟨.hour, .text ['1']⟩, group .or [group .and
      [leaf ⟨.video, .text ['2']⟩, leaf ⟨.hour, .text ['1']⟩]]]).Grouped 1 := by simp
  exact ⟨grouped, (canonical_optimize _).2.2.2 grouped⟩

/-! Leaves are dropped, but not moved. -/

theorem leaves_group (connective : Connective) (children : List Node) :
    (group connective children).leaves = children.flatMap leaves := by
  rw [leaves, fold_group, List.flatMap]

theorem leaves_checkerGroup (connective : Connective) (nodes : List Node) :
    (Checker.group connective nodes).leaves = nodes.flatMap leaves := by
  unfold Checker.group
  split
  · simp
  · exact leaves_group connective nodes

theorem flatMap_leaves_members (connective : Connective) (node : Node) :
    (node.members connective).flatMap leaves = node.leaves := by
  induction node using Node.induction with
  | leaf l => simp
  | group inner children ih =>
    by_cases same : inner = connective
    · subst same
      rw [members_group_self, List.flatMap_assoc, leaves_group, List.flatMap, List.flatMap,
        List.map_congr_left ih]
    · rw [members_group_of_ne same]
      simp

theorem flatMap_leaves_sublist {kept : List Node} (sublist : kept.Sublist nodes) :
    (kept.flatMap leaves).Sublist (nodes.flatMap leaves) := by
  induction sublist with
  | slnil => exact .slnil
  | cons node _ ih => exact ih.trans (List.sublist_append_right _ _)
  | cons_cons node _ ih => exact ih.append_left _

theorem leaves_optimize_sublist (node : Node) : node.optimize.leaves.Sublist node.leaves := by
  induction node using Node.induction with
  | leaf l => exact List.Sublist.refl _
  | group connective children ih =>
    have parts (nodes : List Node)
        (each : ∀ node ∈ nodes, node.optimize.leaves.Sublist node.leaves) :
        (nodes.flatMap fun node => node.optimize.leaves).Sublist (nodes.flatMap leaves) := by
      induction nodes with
      | nil => exact .slnil
      | cons node rest others =>
        exact (each node List.mem_cons_self).append
          (others fun other member => each other (List.mem_cons_of_mem _ member))
    have spliced : ((children.map optimize).flatMap (members connective)).flatMap leaves =
        children.flatMap fun child => child.optimize.leaves := by
      rw [List.flatMap_assoc, List.flatMap_map]
      simp only [flatMap_leaves_members]
    rw [optimize_group, leaves_checkerGroup, leaves_group]
    refine (flatMap_leaves_sublist (distinct_sublist _)).trans ?_
    rw [spliced]
    exact parts children ih

end BroadcastQuery.Node
