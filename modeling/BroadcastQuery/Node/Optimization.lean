import BroadcastQuery.Node.Wire
import BroadcastQuery.Node.Display
import BroadcastQuery.Text.Literal

/-!
Optimization: groups inside groups of the same connective are spliced into them, repeated children
are dropped, and a group of one child becomes that child, from the leaves upwards. Of children
with one canonical key the last stays where it is.
-/
namespace BroadcastQuery

inductive Change where
  /-- A group with so many children was spliced into its parent. -/
  | flattened (connective : Connective) (spliced : Nat)
  /-- A repeated child, shown as a query, was dropped. -/
  | duplicateRemoved (display : Text)
  /-- A group with one child was replaced by it. -/
  | collapsed (connective : Connective)
deriving DecidableEq, Repr

def Change.text : Change → String
  | flattened connective spliced =>
    "Flattened \x7b operator: " ++ title connective ++ ", spliced: " ++ toString spliced ++ " \x7d"
  | duplicateRemoved display =>
    "DuplicateRemoved \x7b removed: " ++ String.ofList (Literal.quote display) ++ " \x7d"
  | collapsed connective => "Collapsed \x7b operator: " ++ title connective ++ " \x7d"
where
  title : Connective → String
    | .and => "And"
    | .or => "Or"

/-- The children that a group keeps, gathered from right to left. -/
structure Kept where
  /-- In the order of the text. -/
  nodes : List Node
  /-- The canonical keys of the nodes. -/
  keys : List Text
  /-- The changes, the latest first. -/
  changes : List Change

namespace Kept

def empty : Kept := ⟨[], [], []⟩

def note (kept : Kept) (change : Change) : Kept :=
  { kept with changes := change :: kept.changes }

/-- Keeps a child unless one of its key is kept already. -/
def offer (kept : Kept) (node : Node) : Kept :=
  let key := node.canonicalKey
  if key ∈ kept.keys then kept.note (.duplicateRemoved node.display)
  else { kept with nodes := node :: kept.nodes, keys := key :: kept.keys }

mutual

/-- Takes in a child of a group, or the children of that child if it has the same connective. -/
def absorb (connective : Connective) (node : Node) (kept : Kept) : Kept :=
  match node with
  | .leaf l => kept.offer (.leaf l)
  | .group inner children =>
    if inner = connective then
      absorbAll connective children (kept.note (.flattened connective children.length))
    else kept.offer (.group inner children)

def absorbAll (connective : Connective) (nodes : List Node) (kept : Kept) : Kept :=
  match nodes with
  | [] => kept
  | node :: rest => absorb connective node (absorbAll connective rest kept)

end

end Kept

/-- An optimized tree and the changes that led to it, in order. -/
structure Optimized where
  tree : Node
  changes : List Change

namespace Node

/-- The optimized form of a group whose children are optimized. -/
def regroup (connective : Connective) (children : List Optimized) : Optimized :=
  let kept := Kept.absorbAll connective (children.map Optimized.tree) .empty
  let earlier := children.flatMap Optimized.changes
  match kept.nodes with
  | [only] => ⟨only, earlier ++ (kept.note (.collapsed connective)).changes.reverse⟩
  | nodes => ⟨.group connective nodes, earlier ++ kept.changes.reverse⟩

def optimizeTraced : Node → Optimized := fold (fun l => ⟨.leaf l, []⟩) regroup

def optimize (node : Node) : Node := node.optimizeTraced.tree

end Node
end BroadcastQuery
