import BroadcastQuery.Proofs.Ordering
import BroadcastQuery.Proofs.Wire

/-!
When two trees have one canonical key. The key of a leaf is its wire form; groups of one key have
one connective, and their children have the same keys in some order.
-/
namespace BroadcastQuery

open Wire (Form)

theorem Value.form_wire (value : Value) : Form value.wire := by
  cases value with
  | count n => exact .number n
  | text | tags | member => exact .string _

theorem Leaf.form_wire (leaf : Leaf) : Form leaf.wire := Wire.form_pair _ leaf.value.form_wire

theorem Connective.name_inj {a b : Connective} (same : a.name.toList = b.name.toList) : a = b := by
  cases a <;> cases b
  case and.and | or.or => rfl
  case and.or | or.and => exact absurd same (by decide)

theorem Key.name_ne_connectiveName (key : Key) (connective : Connective) :
    key.name.toList ≠ connective.name.toList := by
  cases key <;> cases connective <;> decide

theorem Key.ofName?_name (key : Key) : ofName? key.name.toList = some key := by
  cases key <;> decide

namespace Node

/-- A property of all leaves that groups take over from their children holds of all trees. -/
@[elab_as_elim]
theorem induction {motive : Node → Prop} (leaf : ∀ l, motive (.leaf l))
    (group : ∀ connective children, (∀ child ∈ children, motive child) →
      motive (.group connective children)) : ∀ node, motive node := by
  refine Node.rec (motive_2 := fun children => ∀ child ∈ children, motive child) leaf group ?_ ?_
  · intro child member
    contradiction
  · intro child rest first others other member
    rcases List.mem_cons.mp member with rfl | inside
    · exact first
    · exact others other inside

@[simp] theorem canonicalKey_leaf (l : Leaf) : (leaf l).canonicalKey = l.wire := rfl

theorem canonicalKey_group (connective : Connective) (children : List Node) :
    (group connective children).canonicalKey =
      Wire.array [Wire.string connective.name.toList,
        Wire.array ((children.map canonicalKey).mergeSort Text.le)] := by
  simp only [canonicalKey, fold_group]

theorem form_of_mem_mergeSort {children : List Node}
    (forms : ∀ child ∈ children, Form child.canonicalKey) :
    ∀ key ∈ (children.map canonicalKey).mergeSort Text.le, Form key := by
  intro key sorted
  obtain ⟨child, inside, rfl⟩ := List.mem_map.mp (List.mem_mergeSort.mp sorted)
  exact forms child inside

theorem form_canonicalKey (node : Node) : Form node.canonicalKey := by
  induction node using Node.induction with
  | leaf l => exact l.form_wire
  | group connective children ih =>
    rw [canonicalKey_group]
    exact Wire.form_pair _ (.array (form_of_mem_mergeSort ih))

theorem canonicalKey_leaf_ne_group (l : Leaf) (connective : Connective) (children : List Node) :
    (leaf l).canonicalKey ≠ (group connective children).canonicalKey := by
  intro same
  rw [canonicalKey_group] at same
  have names := (Wire.pair_inj l.value.form_wire
    (.array (form_of_mem_mergeSort fun child _ => child.form_canonicalKey)) same).1
  exact l.key.name_ne_connectiveName connective names

/-- Groups have one key exactly if they have one connective and children of the same keys. -/
theorem canonicalKey_group_eq_iff {a b : Connective} {xs ys : List Node} :
    (group a xs).canonicalKey = (group b ys).canonicalKey ↔
      a = b ∧ (xs.map canonicalKey).Perm (ys.map canonicalKey) := by
  rw [canonicalKey_group, canonicalKey_group]
  constructor
  · intro same
    have forms (nodes : List Node) := form_of_mem_mergeSort fun node (_ : node ∈ nodes) =>
      node.form_canonicalKey
    obtain ⟨names, arrays⟩ := Wire.pair_inj (.array (forms xs)) (.array (forms ys)) same
    exact ⟨Connective.name_inj names,
      Text.mergeSort_eq_iff_perm.mp ((Wire.array_inj (forms xs) (forms ys)).mp arrays)⟩
  · rintro ⟨rfl, perm⟩
    rw [Text.mergeSort_eq_iff_perm.mpr perm]

end Node
end BroadcastQuery
