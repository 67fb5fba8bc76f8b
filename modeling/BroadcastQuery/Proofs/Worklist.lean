import BroadcastQuery.Proofs.Congruence

/-!
Two other ways to optimize, both with the same result. One is a loop that takes the children of a
group from a stack, the last one first, and puts the children of an inner group of the connective
back on it. The other says what is left of a group: the children of its optimized children where
they stand, each key at its last place.
-/
namespace BroadcastQuery

/-! The loop over a stack. -/

namespace Node

/-- The number of leaves and groups of a tree. -/
def size : Node → Nat := fold (fun _ => 1) fun _ parts => parts.foldr (· + ·) 1

def sizeAll (nodes : List Node) : Nat := (nodes.map size).foldr (· + ·) 0

@[simp] theorem sizeAll_cons (node : Node) (rest : List Node) :
    sizeAll (node :: rest) = node.size + sizeAll rest := rfl

@[simp] theorem sizeAll_append (xs ys : List Node) :
    sizeAll (xs ++ ys) = sizeAll xs + sizeAll ys := by
  induction xs with
  | nil => exact (Nat.zero_add _).symm
  | cons node rest ih => rw [List.cons_append, sizeAll_cons, sizeAll_cons, ih, Nat.add_assoc]

@[simp] theorem sizeAll_reverse (nodes : List Node) : sizeAll nodes.reverse = sizeAll nodes := by
  induction nodes with
  | nil => rfl
  | cons node rest ih =>
    rw [List.reverse_cons, sizeAll_append, ih, sizeAll_cons, Nat.add_comm]
    rfl

theorem size_group (connective : Connective) (children : List Node) :
    (group connective children).size = sizeAll children + 1 := by
  rw [size, fold_group]
  induction children with
  | nil => rfl
  | cons node rest ih =>
    rw [List.map_cons, List.foldr_cons, ih, sizeAll_cons, Nat.add_assoc]
    rfl

theorem size_pos (node : Node) : 0 < node.size := by
  cases node with
  | leaf l => exact Nat.one_pos
  | group connective children =>
    rw [size_group]
    exact Nat.succ_pos _

end Node

/-- What the loop has before each of its rounds. -/
structure Worklist where
  /-- The nodes that wait, the last one of the text first. -/
  waiting : List Node
  kept : Kept

namespace Worklist

variable {connective : Connective} {work next : Worklist}

/-- One round, if any node waits: a group of the connective gives way to its children, and any other
node is offered. -/
def step (connective : Connective) (work : Worklist) : Option Worklist :=
  match work.waiting with
  | [] => none
  | .leaf l :: rest => some ⟨rest, work.kept.offer (.leaf l)⟩
  | .group inner children :: rest =>
    if inner = connective then
      some ⟨children.reverse ++ rest, work.kept.note (.flattened connective children.length)⟩
    else some ⟨rest, work.kept.offer (.group inner children)⟩

theorem step_cases (stepped : work.step connective = some next) :
    (∃ node rest, work.waiting = node :: rest ∧ (∀ inner, node ≠ .group connective inner) ∧
      next = ⟨rest, work.kept.offer node⟩) ∨
    (∃ children rest, work.waiting = .group connective children :: rest ∧
      next = ⟨children.reverse ++ rest,
        work.kept.note (.flattened connective children.length)⟩) := by
  unfold step at stepped
  split at stepped
  case h_1 => contradiction
  case h_2 l rest top =>
    exact .inl ⟨.leaf l, rest, top, by simp, (Option.some.inj stepped).symm⟩
  case h_3 inner children rest top =>
    split at stepped
    case isTrue same =>
      subst same
      exact .inr ⟨children, rest, top, (Option.some.inj stepped).symm⟩
    case isFalse other =>
      refine .inl ⟨.group inner children, rest, top, ?_, (Option.some.inj stepped).symm⟩
      rintro inner' same
      exact other (Node.group.inj same).1

def size (work : Worklist) : Nat := Node.sizeAll work.waiting

/-- The stack may grow, but fewer leaves and groups are on it after each round. -/
theorem size_step (stepped : work.step connective = some next) : next.size < work.size := by
  rcases step_cases stepped with ⟨node, rest, top, -, rfl⟩ | ⟨children, rest, top, rfl⟩
  · simp only [size, top, Node.sizeAll_cons]
    exact Nat.lt_add_of_pos_left node.size_pos
  · simp only [size, top, Node.sizeAll_cons, Node.size_group, Node.sizeAll_append,
      Node.sizeAll_reverse]
    omega

/-- What is kept when no node waits any more. -/
def run (connective : Connective) (work : Worklist) : Kept :=
  match _stepped : work.step connective with
  | none => work.kept
  | some next => next.run connective
termination_by work.size
decreasing_by exact size_step _stepped

end Worklist

namespace Kept

variable {connective : Connective} {node : Node}

theorem absorbAll_append (connective : Connective) (xs ys : List Node) (kept : Kept) :
    absorbAll connective (xs ++ ys) kept =
      absorbAll connective xs (absorbAll connective ys kept) := by
  induction xs with
  | nil => rfl
  | cons node rest ih => rw [List.cons_append, absorbAll, absorbAll, ih]

theorem absorb_of_apart (apart : ∀ inner, node ≠ .group connective inner) (kept : Kept) :
    absorb connective node kept = kept.offer node := by
  cases node with
  | leaf l => rfl
  | group other inner =>
    rw [absorb, if_neg]
    rintro rfl
    exact apart inner rfl

theorem absorb_group_self (connective : Connective) (children : List Node) (kept : Kept) :
    absorb connective (.group connective children) kept =
      absorbAll connective children (kept.note (.flattened connective children.length)) := by
  rw [absorb, if_pos rfl]

end Kept

namespace Worklist

variable {connective : Connective} {work next : Worklist}

/-- What will have been kept in the end: the loop leaves it as it is. -/
def outcome (connective : Connective) (work : Worklist) : Kept :=
  Kept.absorbAll connective work.waiting.reverse work.kept

theorem outcome_step (stepped : work.step connective = some next) :
    next.outcome connective = work.outcome connective := by
  rcases step_cases stepped with ⟨node, rest, top, apart, rfl⟩ | ⟨children, rest, top, rfl⟩
  · rw [outcome, outcome, top, List.reverse_cons, Kept.absorbAll_append, Kept.absorbAll,
      Kept.absorbAll, Kept.absorb_of_apart apart]
  · rw [outcome, outcome, top, List.reverse_append, List.reverse_reverse, List.reverse_cons,
      Kept.absorbAll_append, Kept.absorbAll_append, Kept.absorbAll, Kept.absorbAll,
      Kept.absorb_group_self]

theorem run_eq_outcome (connective : Connective) (work : Worklist) :
    work.run connective = work.outcome connective := by
  fun_induction run connective work with
  | case1 work ended =>
    have empty : work.waiting = [] := by
      unfold step at ended
      split at ended
      case h_1 top => exact top
      case h_2 => contradiction
      case h_3 => split at ended <;> contradiction
    rw [outcome, empty]
    rfl
  | case2 work next stepped ih => rw [ih, outcome_step stepped]

end Worklist

namespace Node

variable {connective : Connective} {node : Node}

def regroupByStack (connective : Connective) (children : List Optimized) : Optimized :=
  let kept := Worklist.run connective ⟨(children.map Optimized.tree).reverse, .empty⟩
  let earlier := children.flatMap Optimized.changes
  match kept.nodes with
  | [only] => ⟨only, earlier ++ (kept.note (.collapsed connective)).changes.reverse⟩
  | nodes => ⟨.group connective nodes, earlier ++ kept.changes.reverse⟩

def optimizeByStack : Node → Optimized := fold (fun l => ⟨.leaf l, []⟩) regroupByStack

theorem regroupByStack_eq : regroupByStack = regroup := by
  funext connective children
  have kept : Worklist.run connective ⟨(children.map Optimized.tree).reverse, .empty⟩ =
      Kept.absorbAll connective (children.map Optimized.tree) .empty := by
    rw [Worklist.run_eq_outcome, Worklist.outcome, List.reverse_reverse]
  rw [regroupByStack, kept]
  rfl

/-! What is left of a group. -/

/-- The children of a group of the connective, or else the tree itself. -/
def splice (connective : Connective) : Node → List Node
  | .leaf l => [.leaf l]
  | .group inner children => if inner = connective then children else [.group inner children]

/-- The nodes without those that have a later one of their key. -/
def latest : List Node → List Node
  | [] => []
  | node :: rest =>
    if (rest.map canonicalKey).contains node.canonicalKey then latest rest else node :: latest rest

/-- What optimization makes of a tree, said without its steps. -/
def condense : Node → Node :=
  fold .leaf fun connective children =>
    Checker.group connective (latest (children.flatMap (splice connective)))

theorem condense_group (connective : Connective) (children : List Node) :
    (group connective children).condense = Checker.group connective
      (latest ((children.map condense).flatMap (splice connective))) := by
  simp only [condense, fold_group]

theorem distinct_eq_latest (nodes : List Node) : distinct nodes = latest nodes := by
  induction nodes with
  | nil => rfl
  | cons node rest ih =>
    rw [distinct_cons, keep, latest, ← ih]
    simp only [List.contains_iff_mem, mem_map_distinct]

/-- In a canonical tree no group of the connective is deeper than the first level. -/
theorem Canonical.members_eq_splice (canonical : node.Canonical) (connective : Connective) :
    node.members connective = node.splice connective := by
  cases canonical with
  | leaf l => rfl
  | @group other children count apart differ each =>
    by_cases same : other = connective
    · subst same
      rw [members_group_self, flatMap_members_of_apart apart, splice, if_pos rfl]
    · rw [members_group_of_ne same, splice, if_neg same]

theorem flatMap_members_optimize (connective : Connective) (nodes : List Node) :
    (nodes.map optimize).flatMap (members connective) =
      (nodes.map optimize).flatMap (splice connective) := by
  simp only [List.flatMap_map, fun node : Node =>
    node.canonical_optimized.members_eq_splice connective]

/-- Every tree is optimized to its condensed form, and the loop over a stack comes to the same tree
by the same changes. -/
theorem optimize_eq_condense (node : Node) :
    node.optimize = node.condense ∧ node.optimizeByStack = node.optimizeTraced := by
  constructor
  · induction node using Node.induction with
    | leaf l => rfl
    | group connective children ih =>
      have inner : children.map optimize = children.map condense := List.map_congr_left ih
      rw [optimize_group, distinct_eq_latest, flatMap_members_optimize, inner, condense_group]
  · rw [optimizeByStack, regroupByStack_eq, optimizeTraced]

end Node
end BroadcastQuery
