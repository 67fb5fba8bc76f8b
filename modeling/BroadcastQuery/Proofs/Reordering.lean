import Mathlib.Data.List.Perm.Basic
import BroadcastQuery.Proofs.CanonicalKey

/-!
Trees up to the order of siblings. The canonical key forgets in which order the children of a group
stand and what type a value has, and nothing else.
-/
namespace BroadcastQuery

theorem Key.name_inj {a b : Key} (same : a.name.toList = b.name.toList) : a = b := by
  have found := congrArg Key.ofName? same
  rw [ofName?_name, ofName?_name] at found
  exact Option.some.inj found

/-- A leaf is written as its key and its value. -/
theorem Leaf.wire_eq_iff {l m : Leaf} :
    l.wire = m.wire ↔ l.key = m.key ∧ l.value.wire = m.value.wire := by
  constructor
  · intro same
    obtain ⟨names, values⟩ := Wire.pair_inj l.value.form_wire m.value.form_wire same
    exact ⟨Key.name_inj names, values⟩
  · rintro ⟨keys, values⟩
    rw [Leaf.wire, Leaf.wire, keys, values]

namespace Node

/-- Trees that become equal when the children of their groups are put in another order, at any
depth, and leaves of one key and one written value are taken for each other. -/
inductive Reordered : Node → Node → Prop
  | leaf {l m : Leaf} (key : l.key = m.key) (value : l.value.wire = m.value.wire) :
      Reordered (.leaf l) (.leaf m)
  | group (connective : Connective) {xs ys zs : List Node} (each : List.Forall₂ Reordered xs ys)
      (order : ys.Perm zs) : Reordered (.group connective xs) (.group connective zs)

variable {a b : Node} {xs ys : List Node}

/-- Children of the same keys in some order can be paired off. -/
theorem exists_forall₂_of_perm (perm : (xs.map canonicalKey).Perm (ys.map canonicalKey)) :
    ∃ zs, List.Forall₂ (fun x z : Node => x.canonicalKey = z.canonicalKey) xs zs ∧ zs.Perm ys := by
  have keys : List.Forall₂ (fun key y => key = y.canonicalKey) (ys.map canonicalKey) ys :=
    List.forall₂_map_left_iff.mpr (List.forall₂_same.mpr fun _ _ => rfl)
  obtain ⟨zs, each, order⟩ := List.perm_comp_forall₂ perm keys
  exact ⟨zs, List.forall₂_map_left_iff.mp each, order⟩

theorem reordered_of_canonicalKey_eq (same : a.canonicalKey = b.canonicalKey) :
    Reordered a b := by
  induction a using Node.induction generalizing b with
  | leaf l =>
    cases b with
    | leaf m =>
      obtain ⟨keys, values⟩ := Leaf.wire_eq_iff.mp same
      exact .leaf keys values
    | group other ys => exact absurd same (canonicalKey_leaf_ne_group l other ys)
  | group connective xs ih =>
    cases b with
    | leaf m => exact absurd same.symm (canonicalKey_leaf_ne_group m connective xs)
    | group other ys =>
      obtain ⟨rfl, perm⟩ := canonicalKey_group_eq_iff.mp same
      obtain ⟨zs, alike, order⟩ := exists_forall₂_of_perm perm
      have each : ∀ x ∈ xs, ∀ z : Node, x.canonicalKey = z.canonicalKey → Reordered x z :=
        fun x member _ => ih x member
      have pairs : List.Forall₂ Reordered xs zs :=
        ((List.forall₂_and_left xs zs).mpr ⟨each, alike⟩).imp fun _ z pair => pair.1 z pair.2
      exact .group connective pairs order

/-- Induction on the left tree, with the pairs of children it was put together from. -/
@[elab_as_elim]
theorem Reordered.induction {motive : Node → Node → Prop} (reordered : Reordered a b)
    (leaf : ∀ l m : Leaf, l.key = m.key → l.value.wire = m.value.wire → motive (.leaf l) (.leaf m))
    (group : ∀ connective (xs ys zs : List Node), List.Forall₂ motive xs ys → ys.Perm zs →
      motive (.group connective xs) (.group connective zs)) : motive a b := by
  induction a using Node.induction generalizing b with
  | leaf l =>
    cases reordered with
    | leaf key value => exact leaf _ _ key value
  | group connective xs ih =>
    cases reordered with
    | @group _ _ ys zs each order =>
      have inner : ∀ x ∈ xs, ∀ y : Node, Reordered x y → motive x y :=
        fun x member _ => ih x member
      have pairs : List.Forall₂ motive xs ys :=
        ((List.forall₂_and_left xs ys).mpr ⟨inner, each⟩).imp fun _ y pair => pair.1 y pair.2
      exact group connective xs ys zs pairs order

theorem Reordered.canonicalKey_eq (reordered : Reordered a b) :
    a.canonicalKey = b.canonicalKey := by
  refine reordered.induction ?leaf ?group
  case leaf =>
    intro l m key value
    exact Leaf.wire_eq_iff.mpr ⟨key, value⟩
  case group =>
    intro connective xs ys zs pairs order
    have keys : xs.map canonicalKey = ys.map canonicalKey := by
      rw [← List.forall₂_eq_eq_eq]
      exact List.forall₂_map_left_iff.mpr (List.forall₂_map_right_iff.mpr pairs)
    exact canonicalKey_group_eq_iff.mpr ⟨rfl, keys ▸ order.map canonicalKey⟩

/-- Trees have one canonical key exactly if they differ in the order of siblings and in the types
of values only. -/
theorem canonicalKey_eq_iff (a b : Node) : a.canonicalKey = b.canonicalKey ↔ Reordered a b := by
  constructor
  · exact reordered_of_canonicalKey_eq
  · exact Reordered.canonicalKey_eq

end Node
end BroadcastQuery
