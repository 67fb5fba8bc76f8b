import BroadcastQuery.Key
import BroadcastQuery.Keyword

/-!
Checked query trees: typed leaves in groups joined by one connective each.
-/
namespace BroadcastQuery

/-- A value whose shape is decided by its key. -/
inductive Value where
  | text (text : Text)
  | count (number : Nat)
  | tags (tags : List Text)
  /-- The canonical spelling of a configured name. -/
  | member (name : Text)
deriving DecidableEq, Repr

/-- The text that stands for a value when types are left out. -/
def Value.plain : Value → Text
  | text t => t
  | count n => Text.ofNat n
  | tags ts => Text.join [','] ts
  | member t => t

structure Leaf where
  key : Key
  value : Value
deriving DecidableEq, Repr

inductive Node where
  | leaf (leaf : Leaf)
  | group (connective : Connective) (children : List Node)

namespace Node

mutual

/-- Replaces leaves and groups by operations, from the leaves upwards. -/
def fold {α : Type} (leaf : Leaf → α) (group : Connective → List α → α) : Node → α
  | .leaf l => leaf l
  | .group connective children => group connective (foldAll leaf group children)

def foldAll {α : Type} (leaf : Leaf → α) (group : Connective → List α → α) : List Node → List α
  | [] => []
  | child :: rest => fold leaf group child :: foldAll leaf group rest

end

variable {α : Type} {leaf : Leaf → α} {group : Connective → List α → α}

theorem foldAll_eq_map (children : List Node) :
    foldAll leaf group children = children.map (fold leaf group) := by
  induction children with
  | nil => rfl
  | cons child rest ih => rw [foldAll, ih, List.map_cons]

@[simp] theorem fold_leaf (l : Leaf) : fold leaf group (.leaf l) = leaf l := rfl

@[simp] theorem fold_group (connective : Connective) (children : List Node) :
    fold leaf group (.group connective children) =
      group connective (children.map (fold leaf group)) := by
  rw [fold, foldAll_eq_map]

def leaves : Node → List Leaf := fold (fun l => [l]) fun _ parts => parts.flatten

def leafCount (node : Node) : Nat := node.leaves.length

def isGroup : Node → Bool
  | .leaf _ => false
  | .group _ _ => true

end Node
end BroadcastQuery
