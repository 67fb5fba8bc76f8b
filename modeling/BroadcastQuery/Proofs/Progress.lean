import Mathlib
import BroadcastQuery.Proofs.Pieces
import BroadcastQuery.Proofs.Worklist

/-!
Optimization makes progress with every change that it lists. A tree has a weight, its leaves and
groups or the bytes of its wire form, and each change takes some of it away; so there are no changes
just where the tree stays as it is.
-/
namespace BroadcastQuery

theorem Node.optimizeTraced_group (connective : Connective) (children : List Node) :
    (group connective children).optimizeTraced =
      regroup connective (children.map optimizeTraced) := by
  rw [optimizeTraced, fold_group]

/-- A weight of trees. A group weighs what its connective and its children do, and an empty one
weighs something in place of children, less than any leaf or connective. -/
structure Weight where
  leaf : Leaf → Nat
  frame : Connective → Nat
  hollow : Nat
  hollow_lt_leaf : ∀ l, hollow < leaf l
  hollow_lt_frame : ∀ connective, hollow < frame connective

namespace Weight

variable (weight : Weight)

/-- The weight of the inside of a group whose children have these weights. -/
def inside : List Nat → Nat
  | [] => weight.hollow
  | first :: rest => (first :: rest).foldr (· + ·) 0

def of : Node → Nat :=
  Node.fold weight.leaf fun connective parts => weight.frame connective + weight.inside parts

def ofAll (nodes : List Node) : Nat := (nodes.map weight.of).foldr (· + ·) 0

@[simp] theorem ofAll_nil : weight.ofAll [] = 0 := rfl

@[simp] theorem ofAll_cons (node : Node) (rest : List Node) :
    weight.ofAll (node :: rest) = weight.of node + weight.ofAll rest := rfl

theorem of_group (connective : Connective) (children : List Node) :
    weight.of (.group connective children) =
      weight.frame connective + weight.inside (children.map weight.of) := by
  rw [of, Node.fold_group]

theorem inside_of_ne_nil {nodes : List Node} (some : nodes ≠ []) :
    weight.inside (nodes.map weight.of) = weight.ofAll nodes := by
  cases nodes with
  | nil => contradiction
  | cons node rest => rfl

theorem ofAll_le_inside (nodes : List Node) :
    weight.ofAll nodes ≤ weight.inside (nodes.map weight.of) := by
  cases nodes with
  | nil => exact Nat.zero_le _
  | cons node rest => exact Nat.le_refl _

theorem hollow_lt (node : Node) : weight.hollow < weight.of node := by
  cases node with
  | leaf l => exact weight.hollow_lt_leaf l
  | group connective children =>
    have frame := weight.hollow_lt_frame connective
    rw [of_group]
    omega

/-- What is kept, with the charge for each change. -/
def load (kept : Kept) : Nat :=
  weight.ofAll kept.nodes + (weight.hollow + 1) * kept.changes.length

variable {weight} {connective : Connective} {nodes : List Node}

theorem load_note (kept : Kept) (change : Change) :
    weight.load (kept.note change) = weight.load kept + (weight.hollow + 1) := by
  simp only [load, Kept.note, List.length_cons, Nat.mul_add, Nat.mul_one]
  omega

/-- A child that is offered pays for itself, kept or dropped. -/
theorem load_offer_le (kept : Kept) (node : Node) :
    weight.load (kept.offer node) ≤ weight.of node + weight.load kept := by
  by_cases found : node.canonicalKey ∈ kept.keys
  · have heavy := weight.hollow_lt node
    rw [Kept.offer, if_pos found, load_note]
    omega
  · rw [Kept.offer, if_neg found]
    simp only [load, ofAll_cons]
    omega

theorem load_absorbAll_le (nodes : List Node) (each : ∀ node ∈ nodes, ∀ kept,
      weight.load (Kept.absorb connective node kept) ≤ weight.of node + weight.load kept)
    (kept : Kept) :
    weight.load (Kept.absorbAll connective nodes kept) ≤ weight.ofAll nodes + weight.load kept := by
  induction nodes with
  | nil => exact Nat.le_of_eq (Nat.zero_add _).symm
  | cons node rest ih =>
    have others := ih fun other member => each other (List.mem_cons_of_mem _ member)
    have here := each node List.mem_cons_self (Kept.absorbAll connective rest kept)
    rw [Kept.absorbAll, ofAll_cons]
    omega

/-- A spliced group pays for the change with its frame, and its children for themselves. -/
theorem load_absorb_le (weight : Weight) (connective : Connective) (node : Node) : ∀ kept,
    weight.load (Kept.absorb connective node kept) ≤ weight.of node + weight.load kept := by
  induction node using Node.induction with
  | leaf l => exact fun kept => load_offer_le kept (.leaf l)
  | group inner children ih =>
    intro kept
    by_cases same : inner = connective
    · subst same
      have spliced := load_absorbAll_le children ih (kept.note (.flattened inner children.length))
      have frame := weight.hollow_lt_frame inner
      have content := weight.ofAll_le_inside children
      rw [load_note] at spliced
      rw [Kept.absorb_group_self, of_group]
      omega
    · rw [Kept.absorb, if_neg same]
      exact load_offer_le kept _

/-- Where no child is left, the charge for the changes covers what an empty group weighs. -/
theorem hollow_add_le {count total : Nat} (some : weight.hollow < total)
    (charged : (weight.hollow + 1) * count ≤ total) : weight.hollow + count ≤ total := by
  cases count with
  | zero => omega
  | succ count =>
    have more : count ≤ (weight.hollow + 1) * count :=
      Nat.le_mul_of_pos_left count (Nat.succ_pos _)
    rw [Nat.mul_succ] at charged
    omega

/-- What a group keeps of its children makes up for the changes. -/
theorem inside_absorbAll_le (weight : Weight) (connective : Connective) (nodes : List Node) :
    weight.inside ((Kept.absorbAll connective nodes .empty).nodes.map weight.of) +
        (Kept.absorbAll connective nodes .empty).changes.length ≤
      weight.inside (nodes.map weight.of) := by
  cases nodes with
  | nil => exact Nat.le_refl _
  | cons node rest =>
    have paid := load_absorbAll_le (node :: rest)
      (fun node _ => weight.load_absorb_le connective node) .empty
    have heavy := weight.hollow_lt node
    rw [inside_of_ne_nil _ (List.cons_ne_nil node rest)]
    generalize Kept.absorbAll connective (node :: rest) .empty = kept at paid
    simp only [load, Kept.empty, ofAll_nil, List.length_nil, Nat.mul_zero, Nat.add_zero] at paid
    -- Only a group that loses all its children gains the weight of an empty one.
    by_cases emptied : kept.nodes = []
    · rw [emptied, ofAll_nil, Nat.zero_add] at paid
      rw [emptied]
      refine hollow_add_le ?_ paid
      rw [ofAll_cons]
      omega
    · have charged : kept.changes.length ≤ (weight.hollow + 1) * kept.changes.length :=
        Nat.le_mul_of_pos_left _ (Nat.succ_pos _)
      rw [inside_of_ne_nil _ emptied]
      omega

/-- The changes of a group do not outweigh what they take from it. -/
theorem of_regroup_le (weight : Weight) (connective : Connective) (children : List Optimized) :
    weight.of (Node.regroup connective children).tree +
        (Node.regroup connective children).changes.length ≤
      weight.frame connective + weight.inside ((children.map Optimized.tree).map weight.of) +
        (children.flatMap Optimized.changes).length := by
  have frame := weight.hollow_lt_frame connective
  have kept := weight.inside_absorbAll_le connective (children.map Optimized.tree)
  rw [Node.regroup]
  split
  case h_1 only shape =>
    rw [shape, inside_of_ne_nil _ (List.cons_ne_nil only []), ofAll_cons, ofAll_nil] at kept
    simp only [Kept.note, List.length_append, List.length_reverse, List.length_cons]
    omega
  case h_2 =>
    simp only [of_group, List.length_append, List.length_reverse]
    omega

theorem ofAll_optimize_le (each : ∀ node ∈ nodes, weight.of node.optimize +
      node.optimizeTraced.changes.length ≤ weight.of node) :
    weight.ofAll (nodes.map Node.optimize) +
        ((nodes.map Node.optimizeTraced).flatMap Optimized.changes).length ≤
      weight.ofAll nodes := by
  induction nodes with
  | nil => exact Nat.le_refl 0
  | cons node rest ih =>
    have here := each node List.mem_cons_self
    have others := ih fun other member => each other (List.mem_cons_of_mem _ member)
    simp only [List.map_cons, List.flatMap_cons, List.length_append, ofAll_cons]
    omega

/-- Every change takes some weight away. -/
theorem of_optimize_le (weight : Weight) (node : Node) :
    weight.of node.optimize + node.optimizeTraced.changes.length ≤ weight.of node := by
  induction node using Node.induction with
  | leaf l => exact Nat.le_refl _
  | group connective children ih =>
    have trees : (children.map Node.optimizeTraced).map Optimized.tree =
        children.map Node.optimize := List.map_map
    have regrouped := weight.of_regroup_le connective (children.map Node.optimizeTraced)
    rw [trees] at regrouped
    rw [Node.optimize, Node.optimizeTraced_group, of_group]
    -- An empty group has no children to make up for its weight, and changes nothing.
    by_cases none : children = []
    · subst none
      exact regrouped
    · have parts := ofAll_optimize_le ih
      rw [inside_of_ne_nil _ none]
      rw [inside_of_ne_nil _ (mt List.map_eq_nil_iff.mp none)] at regrouped
      omega

/-! Weights that are known by other names. -/

/-- Leaves and groups weigh the same. -/
def ofParts : Weight where
  leaf _ := 1
  frame _ := 1
  hollow := 0
  hollow_lt_leaf _ := Nat.one_pos
  hollow_lt_frame _ := Nat.one_pos

theorem of_ofParts (node : Node) : ofParts.of node = node.size := by
  induction node using Node.induction with
  | leaf l => rfl
  | group connective children ih =>
    have parts : children.map ofParts.of = children.map Node.size := List.map_congr_left ih
    rw [of_group, parts, Node.size_group, Nat.add_comm]
    cases children <;> rfl

theorem width_array (items : List Text) :
    (Wire.array items).width = (Text.join [','] items).width + 2 := by
  have opening : Char.utf8Size '[' = 1 := rfl
  have closing : Char.utf8Size ']' = 1 := rfl
  simp only [Wire.array, List.cons_append, Text.width_cons, Text.width_append, Text.width_nil,
    opening, closing]
  omega

theorem two_le_width_wire (l : Leaf) : 2 ≤ l.wire.width := by
  rw [Leaf.wire, width_array]
  exact Nat.le_add_left 2 _

/-- The bytes of the wire form, with one more for what may stand behind it. -/
def ofWire : Weight where
  leaf l := l.wire.width + 1
  frame connective := (Wire.string connective.name.toList).width + 5
  hollow := 1
  hollow_lt_leaf l := Nat.le_succ_of_le (two_le_width_wire l)
  hollow_lt_frame _ := Nat.le_add_left 2 _

/-- Each part of a list has a comma behind it or, the last one, the byte that is added. -/
theorem inside_widths (parts : List Text) :
    ofWire.inside (parts.map fun part => part.width + 1) = (Text.join [','] parts).width + 1 := by
  cases parts with
  | nil => rfl
  | cons first rest =>
    have comma : Text.width [','] = 1 := rfl
    induction rest generalizing first with
    | nil => rfl
    | cons second rest ih =>
      have others := ih second
      simp only [inside, List.map_cons, List.foldr_cons] at others ⊢
      rw [others, Text.join_cons _ _ (List.cons_ne_nil second rest), Text.width_append,
        Text.width_append, comma]
      omega

theorem of_ofWire (node : Node) : ofWire.of node = node.wire.width + 1 := by
  induction node using Node.induction with
  | leaf l => rfl
  | group connective children ih =>
    have parts : children.map ofWire.of =
        (children.map Node.wire).map fun part => part.width + 1 := by
      rw [List.map_map]
      exact List.map_congr_left ih
    have comma : Text.width [','] = 1 := rfl
    have frame : ofWire.frame connective = (Wire.string connective.name.toList).width + 5 := rfl
    have written : (Node.group connective children).wire = Wire.array
        [Wire.string connective.name.toList, Wire.array (children.map Node.wire)] := by
      rw [Node.wire, Node.fold_group]
    rw [of_group, parts, inside_widths, frame, written, width_array,
      Text.join_cons _ _ (List.cons_ne_nil _ _), Text.join, Text.width_append, Text.width_append,
      width_array, comma]
    omega

end Weight

/-! No changes. -/

namespace Kept

variable {connective : Connective} {node : Node} {nodes : List Node} {kept : Kept}

theorem changes_offer_suffix (kept : Kept) (node : Node) :
    kept.changes <:+ (kept.offer node).changes := by
  by_cases found : node.canonicalKey ∈ kept.keys
  · rw [offer, if_pos found]
    exact List.suffix_cons _ _
  · simp only [offer, if_neg found, List.suffix_refl]

theorem changes_absorbAll_suffix (nodes : List Node) (each : ∀ node ∈ nodes, ∀ kept : Kept,
      kept.changes <:+ (absorb connective node kept).changes) (kept : Kept) :
    kept.changes <:+ (absorbAll connective nodes kept).changes := by
  induction nodes with
  | nil => exact List.suffix_refl _
  | cons node rest ih =>
    have others := ih fun other member => each other (List.mem_cons_of_mem _ member)
    exact others.trans (each node List.mem_cons_self _)

/-- Changes are only added. -/
theorem changes_absorb_suffix (connective : Connective) (node : Node) : ∀ kept : Kept,
    kept.changes <:+ (absorb connective node kept).changes := by
  induction node using Node.induction with
  | leaf l => exact fun kept => changes_offer_suffix kept (.leaf l)
  | group inner children ih =>
    intro kept
    by_cases same : inner = connective
    · subst same
      have noted :=
        changes_absorbAll_suffix children ih (kept.note (.flattened inner children.length))
      rw [absorb_group_self]
      exact (List.suffix_cons _ _).trans noted
    · rw [absorb, if_neg same]
      exact changes_offer_suffix kept _

theorem nodes_offer (quiet : (kept.offer node).changes = []) :
    (kept.offer node).nodes = node :: kept.nodes := by
  by_cases found : node.canonicalKey ∈ kept.keys
  · rw [offer, if_pos found] at quiet
    contradiction
  · rw [offer, if_neg found]

/-- A node that is taken in without a change is kept as it is. -/
theorem nodes_absorb (quiet : (absorb connective node kept).changes = []) :
    (absorb connective node kept).nodes = node :: kept.nodes := by
  cases node with
  | leaf l => exact nodes_offer quiet
  | group inner children =>
    by_cases same : inner = connective
    · subst same
      rw [absorb_group_self] at quiet
      have noted := changes_absorbAll_suffix children
        (fun node _ => changes_absorb_suffix inner node)
        (kept.note (.flattened inner children.length))
      rw [quiet, List.suffix_nil] at noted
      contradiction
    · rw [absorb, if_neg same] at quiet ⊢
      exact nodes_offer quiet

theorem nodes_absorbAll (quiet : (absorbAll connective nodes kept).changes = []) :
    (absorbAll connective nodes kept).nodes = nodes ++ kept.nodes := by
  induction nodes with
  | nil => rfl
  | cons node rest ih =>
    rw [absorbAll] at quiet ⊢
    have before := changes_absorb_suffix connective node (absorbAll connective rest kept)
    rw [quiet, List.suffix_nil] at before
    rw [nodes_absorb quiet, ih before, List.cons_append]

end Kept

namespace Node

variable {connective : Connective}

theorem regroup_of_changes {children : List Optimized}
    (quiet : (regroup connective children).changes = []) :
    (∀ child ∈ children, child.changes = []) ∧
      (regroup connective children).tree = group connective (children.map Optimized.tree) := by
  rw [regroup] at quiet ⊢
  split at quiet
  case h_1 only shape => simp [Kept.note] at quiet
  case h_2 =>
    obtain ⟨earlier, own⟩ := List.append_eq_nil_iff.mp quiet
    have kept := Kept.nodes_absorbAll (List.reverse_eq_nil_iff.mp own)
    refine ⟨List.flatMap_eq_nil_iff.mp earlier, ?_⟩
    rw [kept]
    simp only [Kept.empty, List.append_nil]

/-- A tree that is optimized without a change stays as it is. -/
theorem optimize_of_changes {node : Node} (quiet : node.optimizeTraced.changes = []) :
    node.optimize = node := by
  induction node using Node.induction with
  | leaf l => rfl
  | group connective children ih =>
    rw [optimizeTraced_group] at quiet
    obtain ⟨earlier, tree⟩ := regroup_of_changes quiet
    have same : (children.map optimizeTraced).map Optimized.tree = children := by
      rw [List.map_map]
      refine (List.map_congr_left fun child member => ?_).trans (List.map_id' children)
      exact ih child member (List.forall_mem_map.mp earlier child member)
    rw [optimize, optimizeTraced_group, tree, same]

/-- Changes are listed just where the tree changes, each makes it smaller by a leaf or group at
least, and its wire form by a byte. -/
theorem optimizeTraced_progress (node : Node) :
    (node.optimizeTraced.changes = [] ↔ node.optimize = node) ∧
      node.optimize.size + node.optimizeTraced.changes.length ≤ node.size ∧
      node.optimize.wire.width ≤ node.wire.width ∧
      (node.optimizeTraced.changes ≠ [] → node.optimize.wire.width < node.wire.width) := by
  have parts := Weight.ofParts.of_optimize_le node
  have bytes := Weight.ofWire.of_optimize_le node
  simp only [Weight.of_ofParts] at parts
  simp only [Weight.of_ofWire] at bytes
  refine ⟨⟨optimize_of_changes, fun same => ?_⟩, parts, by omega, fun some => ?_⟩
  · rw [same] at parts
    exact List.eq_nil_of_length_eq_zero (by omega)
  · have count := List.length_pos_iff.mpr some
    omega

/-- An empty group is spliced, and of two conjunctions in another order one is dropped. -/
theorem optimizeTraced_progress_emptied :
    let one := leaf ⟨.hour, .text ['1']⟩
    let two := leaf ⟨.video, .text ['2']⟩
    let node := group .or [group .or [], group .and [one, two], group .and [two, one]]
    node.optimizeTraced.changes ≠ [] ∧ node.optimize.wire.width < node.wire.width := by
  intro one two node
  have three : node.optimizeTraced.changes.length = 3 := by
    cbv
  have changed : node.optimizeTraced.changes ≠ [] := List.ne_nil_of_length_eq_add_one three
  exact ⟨changed, (optimizeTraced_progress node).2.2.2 changed⟩

end Node
end BroadcastQuery
