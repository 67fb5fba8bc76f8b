import BroadcastQuery.Proofs.Meaning
import BroadcastQuery.Proofs.Parts

/-!
What drafts mean in which chains mix connectives. A chain is read with `and` binding tighter than
`or`, and its checked tree holds in the same cases: the conjunctions between the `or`s become
groups, where they have more than one child, and so does the disjunction of them.
-/
namespace BroadcastQuery

/-! Reading a chain of truths. -/

/-- The truth of a chain, where the conjunction that is being read is worth `run` so far. An operand
goes on with that conjunction, and an `or` puts the whole of it beside the rest of the chain. -/
def chainTruth (run : Bool) : List (Bool ⊕ Connective) → Bool
  | [] => run
  | .inl operand :: rest => chainTruth (run && operand) rest
  | .inr .and :: rest => chainTruth run rest
  | .inr .or :: rest => run || chainTruth true rest

theorem chainTruth_operand (operand : Bool) : chainTruth true [.inl operand] = operand :=
  Bool.true_and operand

/-- An `or` may be split at anywhere in a chain. -/
theorem chainTruth_or (run : Bool) (xs ys : List (Bool ⊕ Connective)) :
    chainTruth run (xs ++ .inr .or :: ys) = (chainTruth run xs || chainTruth true ys) := by
  induction xs generalizing run with
  | nil => rfl
  | cons item rest ih =>
    match item with
    | .inl operand => exact ih (run && operand)
    | .inr .and => exact ih run
    | .inr .or => rw [List.cons_append, chainTruth, ih, chainTruth, Bool.or_assoc]

/-- Read from the left without precedence, this chain would be false. -/
example : chainTruth true [.inl true, .inr .or, .inl true, .inr .and, .inl false] = true := rfl

theorem chainTruth_run {items : List (Bool ⊕ Connective)} (joined : .inr .or ∉ items) (run : Bool) :
    chainTruth run items = (run && chainTruth true items) := by
  induction items generalizing run with
  | nil => exact (Bool.and_true run).symm
  | cons item rest ih =>
    have others := ih fun inside => joined (List.mem_cons_of_mem _ inside)
    match item with
    | .inl operand =>
      rw [chainTruth, chainTruth, others, others (true && operand), Bool.true_and, Bool.and_assoc]
    | .inr .and => exact others run
    | .inr .or => exact absurd List.mem_cons_self joined

/-- An `and` may be split at where there is no `or`. -/
theorem chainTruth_and {xs ys : List (Bool ⊕ Connective)} (left : .inr .or ∉ xs)
    (right : .inr .or ∉ ys) (run : Bool) :
    chainTruth run (xs ++ .inr .and :: ys) = (chainTruth run xs && chainTruth true ys) := by
  induction xs generalizing run with
  | nil => exact chainTruth_run right run
  | cons item rest ih =>
    have others := ih fun inside => left (List.mem_cons_of_mem _ inside)
    match item with
    | .inl operand => exact others (run && operand)
    | .inr .and => exact others run
    | .inr .or => exact absurd List.mem_cons_self left

namespace Draft

variable (holds : Text × Text → Bool)

mutual

def eval : Draft → Bool
  | .leaf key value _ => holds (key, value)
  | .chain items => chainTruth true (evalItems items)

def evalItems : List (Draft ⊕ Connective) → List (Bool ⊕ Connective)
  | [] => []
  | .inl child :: rest => .inl child.eval :: evalItems rest
  | .inr connective :: rest => .inr connective :: evalItems rest

end

end Draft

namespace Checker

variable {checker : Checker} {holds : Leaf → Bool}

/-! Checked chains. -/

/-- The truth of a part of a chain without `or`: that of all its children. -/
def runTruth (holds : Leaf → Bool) (run : List (Node ⊕ Connective)) : Bool :=
  Connective.and.combine ((run.filterMap Sum.getLeft?).map (Node.eval holds))

theorem runTruth_child (child : Node) (run : List (Node ⊕ Connective)) :
    runTruth holds (.inl child :: run) = (child.eval holds && runTruth holds run) := rfl

/-- A chain is worth its first conjunction, which may have begun before it, or one of the later
ones. -/
theorem exists_pieces_chainTruth (holds : Leaf → Bool) (items : List (Node ⊕ Connective))
    (before : Bool) :
    ∃ first later, pieces (fun item => item.getRight? == some .or) items = first :: later ∧
      chainTruth before (items.map (Sum.map (Node.eval holds) id)) =
        (before && runTruth holds first || later.any (runTruth holds)) := by
  induction items generalizing before with
  | nil => exact ⟨[], [], rfl, by simp [chainTruth, runTruth, Connective.combine]⟩
  | cons item rest ih =>
    cases item with
    | inl child =>
      obtain ⟨first, later, cut, worth⟩ := ih (before && child.eval holds)
      refine ⟨.inl child :: first, later, by simp [pieces, cut], ?_⟩
      rw [runTruth_child, ← Bool.and_assoc]
      exact worth
    | inr connective =>
      cases connective with
      | and =>
        obtain ⟨first, later, cut, worth⟩ := ih before
        exact ⟨.inr .and :: first, later, by simp [pieces, cut], worth⟩
      | or =>
        obtain ⟨first, later, cut, worth⟩ := ih true
        refine ⟨[], first :: later, by simp [pieces, cut], ?_⟩
        rw [List.map_cons, Sum.map_inr, id_eq, chainTruth, worth, Bool.true_and, List.any_cons]
        exact congrArg (· || _) (Bool.and_true before).symm

/-- The tree of a chain holds if the chain does. -/
theorem eval_reduce (items : List (Node ⊕ Connective)) :
    (reduce items).eval holds = chainTruth true (items.map (Sum.map (Node.eval holds) id)) := by
  obtain ⟨first, later, cut, worth⟩ := exists_pieces_chainTruth holds items true
  have runs : (reduce items).eval holds = (first :: later).any (runTruth holds) := by
    simp only [reduce, Node.eval_checkerGroup, List.map_map, cut, Connective.combine, List.any_map]
    exact congrArg _ (funext fun run => Node.eval_checkerGroup _)
  rw [runs, worth, Bool.true_and, List.any_cons]

/-! Checked drafts. -/

/-- A pair is as true as the leaf that it is checked to. -/
def pairTruth (checker : Checker) (holds : Leaf → Bool) (pair : Text × Text) : Bool :=
  match checker.checkPair pair with
  | .ok l => holds l
  | .error _ => false

mutual

theorem eval_validate (draft : Draft) {node : Node} (checked : checker.validate draft = .ok node) :
    node.eval holds = draft.eval (checker.pairTruth holds) := by
  match draft with
  | .leaf key value span =>
    obtain ⟨l, rfl, found⟩ := exists_of_validate_leaf checked
    rw [Node.eval_leaf, Draft.eval, pairTruth, checkPair, found]
  | .chain items =>
    obtain ⟨made, -, parts, rfl⟩ := exists_of_validate_chain checked
    rw [eval_reduce, Draft.eval, evalItems_validateItems items parts]

theorem evalItems_validateItems (items : List (Draft ⊕ Connective))
    {made : List (Node ⊕ Connective)} (checked : checker.validateItems items = .ok made) :
    made.map (Sum.map (Node.eval holds) id) =
      Draft.evalItems (checker.pairTruth holds) items := by
  match items with
  | [] =>
    obtain rfl := Except.ok.inj checked
    rfl
  | .inl child :: rest =>
    obtain ⟨node, others, first, more, rfl⟩ := exists_of_validateItems_child checked
    rw [List.map_cons, Sum.map_inl, eval_validate child first, evalItems_validateItems rest more,
      Draft.evalItems]
  | .inr connective :: rest =>
    obtain ⟨others, more, rfl⟩ := exists_of_validateItems_joint checked
    rw [List.map_cons, Sum.map_inr, id_eq, evalItems_validateItems rest more, Draft.evalItems]

end

/-- A draft whose chains alternate and whose pairs are allowed is checked to a tree. The leaves of
the tree are the checked pairs in order, each group has two children at least, and the tree holds
just when the draft does, with `and` binding tighter than `or`. -/
theorem validate_alternating {draft : Draft}
    (chains : ∀ items, Draft.Within (.chain items) draft →
      Alternating items ∧ 2 ≤ (items.filterMap Sum.getLeft?).length)
    (leaves : ∀ key value span, Draft.Within (.leaf key value span) draft →
      ∃ l, checker.checkLeaf key value = .ok l) :
    ∃ node, checker.validate draft = .ok node ∧
      draft.pairs.map checker.checkPair = node.leaves.map .ok ∧
      node.Grouped 2 ∧
      ∀ holds, node.eval holds = draft.eval (checker.pairTruth holds) := by
  have sound : ∀ part, Draft.Within part draft → checker.flaw? part = none := by
    intro part within
    cases part with
    | leaf key value span => exact failure?_eq_none_iff.mpr (leaves key value span within)
    | chain items =>
      obtain ⟨turns, several⟩ := chains items within
      have count := turns.length_add_one
      rw [flaw?, (defect?_eq_none_iff items).mpr ⟨turns, by omega⟩]
      rfl
  obtain ⟨node, checked⟩ := exists_validate_iff.mpr sound
  exact ⟨node, checked, leaves_validate draft checked, grouped_validate draft checked,
    fun holds => eval_validate draft checked⟩

/-- One or (two and three or four) and five. -/
def mixedHours : Draft :=
  .chain [.inl (.leaf "hour".toList ['1'] ⟨0, 6⟩), .inr .or,
    .inl (.chain [.inl (.leaf "hour".toList ['2'] ⟨11, 17⟩), .inr .and,
      .inl (.leaf "hour".toList ['3'] ⟨22, 28⟩), .inr .or,
      .inl (.leaf "hour".toList ['4'] ⟨32, 38⟩)]), .inr .and,
    .inl (.leaf "hour".toList ['5'] ⟨44, 50⟩)]

/-- A chain that mixes connectives inside another one that does, the other way round. -/
theorem validate_alternating_mixed :
    (∀ items, Draft.Within (.chain items) mixedHours →
      Alternating items ∧ 2 ≤ (items.filterMap Sum.getLeft?).length) ∧
    (∀ key value span, Draft.Within (.leaf key value span) mixedHours →
      ∃ l, checkLeaf ⟨fun _ _ => none, .standard⟩ key value = .ok l) ∧
    ∃ node, validate ⟨fun _ _ => none, .standard⟩ mixedHours = .ok node ∧
      mixedHours.pairs.map (checkPair ⟨fun _ _ => none, .standard⟩) = node.leaves.map .ok ∧
      node.Grouped 2 ∧
      ∀ holds, node.eval holds =
        mixedHours.eval (pairTruth ⟨fun _ _ => none, .standard⟩ holds) := by
  have chains : ∀ items, Draft.Within (.chain items) mixedHours →
      Alternating items ∧ 2 ≤ (items.filterMap Sum.getLeft?).length := by
    intro items within
    rw [← Draft.mem_parts_iff] at within
    simp only [mixedHours, Draft.parts, Draft.partsIn, List.cons_append, List.nil_append,
      List.append_nil, List.mem_cons, Draft.chain.injEq, reduceCtorEq, List.not_mem_nil, or_false,
      false_or] at within
    rcases within with rfl | rfl
    · exact ⟨.more _ _ (.more _ _ (.last _)), by decide⟩
    · exact ⟨.more _ _ (.more _ _ (.last _)), by decide⟩
  have leaves : ∀ key value span, Draft.Within (.leaf key value span) mixedHours →
      ∃ l, checkLeaf ⟨fun _ _ => none, .standard⟩ key value = .ok l := by
    intro key value span within
    rw [← Draft.mem_parts_iff] at within
    simp only [mixedHours, Draft.parts, Draft.partsIn, List.cons_append, List.nil_append,
      List.append_nil, List.mem_cons, Draft.leaf.injEq, reduceCtorEq, List.not_mem_nil, or_false,
      false_or] at within
    rcases within with ⟨rfl, rfl, -⟩ | ⟨rfl, rfl, -⟩ | ⟨rfl, rfl, -⟩ | ⟨rfl, rfl, -⟩ | ⟨rfl, rfl, -⟩
    all_goals exact ⟨_, rfl⟩
  exact ⟨chains, leaves, validate_alternating chains leaves⟩

end Checker
end BroadcastQuery
