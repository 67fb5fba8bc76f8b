import BroadcastQuery.Proofs.Congruence

/-!
Parentheses that say nothing. A group inside a group of its connective may be written out in place,
anywhere in a tree: the optimized tree is the same, down to the order of its children. The inner
group drops its own repetitions first, which the outer one would drop anyway.
-/
namespace BroadcastQuery.Node

variable {connective : Connective} {a b : Node} {xs ys zs : List Node}

/-! Repetitions may be dropped early. -/

theorem distinct_append_congr (xs : List Node) (same : distinct ys = distinct zs) :
    distinct (xs ++ ys) = distinct (xs ++ zs) := by
  induction xs with
  | nil => exact same
  | cons node rest ih => rw [List.cons_append, List.cons_append, distinct_cons, distinct_cons, ih]

theorem keep_of_mem {kept : List Node} (found : a.canonicalKey ∈ kept.map canonicalKey) :
    keep a kept = kept := by
  rw [keep, if_pos (List.contains_iff_mem.mpr found)]

theorem distinct_distinct_append (ys zs : List Node) :
    distinct (distinct ys ++ zs) = distinct (ys ++ zs) := by
  induction ys with
  | nil => rfl
  | cons node rest ih =>
    rw [List.cons_append, distinct_cons, distinct_cons, ← ih]
    by_cases found : node.canonicalKey ∈ (distinct rest).map canonicalKey
    · -- A later node of the key is among the rest, so the key is kept with `zs` behind it too.
      have later : node.canonicalKey ∈ (distinct (distinct rest ++ zs)).map canonicalKey := by
        rw [mem_map_distinct, List.map_append]
        exact List.mem_append_left _ found
      rw [keep_of_mem found, keep_of_mem later]
    · rw [keep, if_neg (mt List.contains_iff_mem.mp found), List.cons_append, distinct_cons]

theorem optimize_group_splice (connective : Connective) (xs ys zs : List Node) :
    (group connective (xs ++ [group connective ys] ++ zs)).optimize =
      (group connective (xs ++ ys ++ zs)).optimize := by
  simp only [optimize_group connective (_ ++ _), List.map_append, List.map_singleton,
    List.flatMap_append, List.flatMap_singleton, members_optimize_group, List.append_assoc]
  exact congrArg _ (distinct_append_congr _ (distinct_distinct_append _ _))

/-! Trees with a hole. -/

/-- A tree with a hole at any depth. -/
inductive Context where
  | hole
  | group (connective : Connective) (before : List Node) (inner : Context) (after : List Node)

namespace Context

def fill (node : Node) : Context → Node
  | hole => node
  | group connective before inner after => .group connective (before ++ inner.fill node :: after)

/-- What is optimized to the same tree may be exchanged anywhere. -/
theorem optimize_fill (context : Context) (same : a.optimize = b.optimize) :
    (context.fill a).optimize = (context.fill b).optimize := by
  induction context with
  | hole => exact same
  | group connective before inner after ih =>
    simp only [fill, optimize_group, List.map_append, List.map_cons, ih]

/-- A group inside a group of its connective may be replaced by its children, wherever it stands. -/
theorem optimize_fill_splice (context : Context) (connective : Connective) (xs ys zs : List Node) :
    (context.fill (.group connective (xs ++ [.group connective ys] ++ zs))).optimize =
      (context.fill (.group connective (xs ++ ys ++ zs))).optimize :=
  context.optimize_fill (optimize_group_splice connective xs ys zs)

end Context
end BroadcastQuery.Node
