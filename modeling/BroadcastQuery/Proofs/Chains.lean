import BroadcastQuery.Validation
import BroadcastQuery.Proofs.CanonicalForm
import BroadcastQuery.Proofs.Display
import BroadcastQuery.Proofs.Turns

/-!
Checking the drafts of source texts. Their chains have one connective each and become one group of
the checked children; a tree is what its image is checked to be, if its leaves are. The checked tree
of any draft has the checked leaves in order, and no group with less than two children.
-/
namespace BroadcastQuery

namespace Draft

/-- A draft in which every chain has two children at least and one connective between them. -/
inductive Linked : Draft → Prop
  | leaf (key value : Text) (span : Span) : Linked (.leaf key value span)
  | chain {connective : Connective} {drafts : List Draft} (several : 2 ≤ drafts.length)
      (each : ∀ draft ∈ drafts, Linked draft) : Linked (.chain (link connective drafts))

mutual

/-- The keys and values of a draft from left to right. -/
def pairs : Draft → List (Text × Text)
  | .leaf key value _ => [(key, value)]
  | .chain items => pairsIn items

def pairsIn : List (Draft ⊕ Connective) → List (Text × Text)
  | [] => []
  | .inl child :: rest => child.pairs ++ pairsIn rest
  | .inr _ :: rest => pairsIn rest

end

theorem pairsIn_link (connective : Connective) (drafts : List Draft) :
    pairsIn (link connective drafts) = drafts.flatMap pairs := by
  match drafts with
  | [] => rfl
  | [last] => simp [link, pairsIn]
  | first :: second :: rest =>
    rw [link_cons_cons, pairsIn, pairsIn, pairsIn_link, List.flatMap_cons (x := first)]

mutual

theorem pairs_erase (draft : Draft) : draft.erase.pairs = draft.pairs := by
  match draft with
  | .leaf key value span => rfl
  | .chain items => rw [erase, pairs, pairs, pairsIn_eraseItems items]

theorem pairsIn_eraseItems (items : List (Draft ⊕ Connective)) :
    pairsIn (eraseItems items) = pairsIn items := by
  match items with
  | [] => rfl
  | .inl child :: rest =>
    rw [eraseItems, pairsIn, pairsIn, pairs_erase child, pairsIn_eraseItems rest]
  | .inr connective :: rest => rw [eraseItems, pairsIn, pairsIn, pairsIn_eraseItems rest]

end

theorem eraseItems_eq_map (items : List (Draft ⊕ Connective)) :
    eraseItems items = items.map (Sum.map erase id) := by
  match items with
  | [] => rfl
  | .inl child :: rest => rw [eraseItems, eraseItems_eq_map rest]; rfl
  | .inr connective :: rest => rw [eraseItems, eraseItems_eq_map rest]; rfl

end Draft

/-- The pairs of an image are the leaves of the tree. -/
theorem Node.pairs_image (node : Node) :
    node.image.pairs = node.leaves.map fun l => (l.key.name.toList, l.value.plain) := by
  induction node using Node.induction with
  | leaf l => rfl
  | group connective children ih =>
    rw [image_group, Draft.pairs, Draft.pairsIn_link, leaves_group, List.map_flatMap,
      List.flatMap_map, List.flatMap, List.flatMap, List.map_congr_left ih]

/-! Drafts that are read are linked. -/

namespace Grammar

variable (slice : Token → List Token → Text)

variable {slice}

theorem Level.linked_of_chain {level : Level} {connective : Connective} {first : Draft}
    {rest : List Draft} (shape : level.chain slice = Draft.link connective (first :: rest))
    (each : ∀ draft ∈ first :: rest, draft.Linked) : (level.draft slice).Linked := by
  cases level with
  | last item =>
    cases rest with
    | nil =>
      have same : item.draft slice = first := by simpa [Level.chain, Draft.link] using shape
      exact (same ▸ each first List.mem_cons_self : (item.draft slice).Linked)
    | cons second more => simp [Level.chain, Draft.link_cons_cons] at shape
  | more item own joint others =>
    cases rest with
    | nil => simp [Level.chain, Draft.link] at shape
    | cons second more =>
      have chain : Level.draft slice (.more item own joint others) =
          .chain (Draft.link connective (first :: second :: more)) := congrArg Draft.chain shape
      exact chain ▸ .chain (by simp) each

variable (slice)

mutual

theorem Item.linked_draft (item : Item) (valid : item.Valid) : (item.draft slice).Linked := by
  match item with
  | .pair key name sign value => exact .leaf _ _ _
  | .group opening level closing =>
    obtain ⟨connective, inner⟩ := valid.2.1
    obtain ⟨first, rest, shape, each⟩ := level.exists_link inner
    exact Level.linked_of_chain shape each

theorem Level.exists_link (level : Level) {connective : Connective}
    (valid : level.Valid connective) : ∃ first rest,
      level.chain slice = Draft.link connective (first :: rest) ∧
      ∀ draft ∈ first :: rest, draft.Linked := by
  match level with
  | .last item =>
    refine ⟨item.draft slice, [], rfl, fun draft member => ?_⟩
    obtain rfl := List.mem_singleton.mp member
    exact item.linked_draft valid
  | .more item own joint rest =>
    obtain ⟨first, rfl, -, others⟩ := valid
    obtain ⟨second, more, shape, each⟩ := rest.exists_link others
    refine ⟨item.draft slice, second :: more, ?_, fun draft member => ?_⟩
    · rw [Level.chain, shape, Draft.link_cons_cons]
    · rcases List.mem_cons.mp member with rfl | member
      · exact item.linked_draft first
      · exact each draft member

end

theorem Level.linked_draft {level : Level} {connective : Connective}
    (valid : level.Valid connective) : (level.draft slice).Linked := by
  obtain ⟨first, rest, shape, each⟩ := level.exists_link slice valid
  exact linked_of_chain shape each

end Grammar

namespace Checker

variable {checker : Checker} {connective : Connective} {drafts : List Draft} {nodes : List Node}

theorem mapM_eq_ok_iff {α β ε : Type} {f : α → Except ε β} {xs : List α} {ys : List β} :
    xs.mapM f = .ok ys ↔ xs.map f = ys.map .ok := by
  induction xs generalizing ys with
  | nil => cases ys <;> simp [pure, Except.pure]
  | cons x xs ih =>
    cases first : f x with
    | error error => cases ys <;> simp [first, bind, Except.bind]
    | ok y =>
      cases rest : xs.mapM f with
      | error error =>
        have none : ∀ ys : List β, xs.map f ≠ ys.map .ok := by
          intro ys same
          rw [ih.mpr same] at rest
          contradiction
        cases ys <;> simp [first, rest, bind, Except.bind, none]
      | ok others =>
        have others' (ys : List β) : others = ys ↔ xs.map f = ys.map .ok := by
          rw [← ih, rest, Except.ok.injEq]
        cases ys <;> simp [first, rest, bind, Except.bind, pure, Except.pure, others']

theorem alternating_link (connective : Connective) {drafts : List Draft} (some : drafts ≠ []) :
    Alternating (Draft.link connective drafts) := by
  match drafts with
  | [last] => exact .last last
  | first :: second :: rest =>
    exact .more first connective (alternating_link connective (List.cons_ne_nil second rest))

theorem defect?_link (several : 2 ≤ drafts.length) :
    defect? (Draft.link connective drafts) = none := by
  have some : drafts ≠ [] := List.ne_nil_of_length_pos (by omega)
  refine (defect?_eq_none_iff _).mpr ⟨alternating_link connective some, ?_⟩
  rw [Draft.length_link]
  omega

def linkNodes (connective : Connective) : List Node → List (Node ⊕ Connective)
  | [] => []
  | [last] => [.inl last]
  | child :: rest => .inl child :: .inr connective :: linkNodes connective rest

theorem linkNodes_cons (connective : Connective) (first : Node) {rest : List Node}
    (more : rest ≠ []) :
    linkNodes connective (first :: rest) =
      .inl first :: .inr connective :: linkNodes connective rest := by
  cases rest with
  | nil => contradiction
  | cons second rest => rfl

theorem validateItems_link (drafts : List Draft) :
    checker.validateItems (Draft.link connective drafts) =
      linkNodes connective <$> drafts.mapM checker.validate := by
  match drafts with
  | [] => rfl
  | [last] =>
    rw [Draft.link, validateItems, validateItems, List.mapM_cons, List.mapM_nil]
    cases checker.validate last <;> rfl
  | first :: second :: rest =>
    have whole : (first :: second :: rest).mapM checker.validate = (do
        let node ← checker.validate first
        return node :: (← (second :: rest).mapM checker.validate)) := List.mapM_cons
    rw [Draft.link_cons_cons, validateItems, validateItems, validateItems_link (second :: rest),
      whole]
    cases checker.validate first with
    | error error => rfl
    | ok node =>
      cases others : (second :: rest).mapM checker.validate with
      | error error => rfl
      | ok nodes =>
        have more : nodes ≠ [] := by
          rintro rfl
          simpa using mapM_eq_ok_iff.mp others
        exact congrArg Except.ok (linkNodes_cons connective node more).symm

/-- Joined by `and`, all children make up one run. -/
theorem pieces_linkNodes_and {nodes : List Node} (nonempty : nodes ≠ []) :
    pieces (fun item => item.getRight? == some .or) (linkNodes .and nodes) =
      [linkNodes .and nodes] := by
  match nodes with
  | [last] => rfl
  | first :: second :: rest =>
    rw [linkNodes_cons .and first (List.cons_ne_nil second rest)]
    simp [pieces, pieces_linkNodes_and]

/-- Joined by `or`, every child is a run of its own. -/
theorem pieces_linkNodes_or {nodes : List Node} (nonempty : nodes ≠ []) :
    pieces (fun item => item.getRight? == some .or) (linkNodes .or nodes) =
      nodes.map fun node => [.inl node] := by
  match nodes with
  | [last] => rfl
  | first :: second :: rest =>
    rw [linkNodes_cons .or first (List.cons_ne_nil second rest)]
    simp [pieces, pieces_linkNodes_or]

theorem filterMap_linkNodes (connective : Connective) (nodes : List Node) :
    (linkNodes connective nodes).filterMap Sum.getLeft? = nodes := by
  match nodes with
  | [] => rfl
  | [last] => rfl
  | first :: second :: rest =>
    have child : (.inl first : Node ⊕ Connective).getLeft? = some first := rfl
    have joint : (.inr connective : Node ⊕ Connective).getLeft? = none := rfl
    rw [linkNodes_cons connective first (List.cons_ne_nil second rest),
      List.filterMap_cons_some child, List.filterMap_cons_none joint, filterMap_linkNodes]

theorem reduce_linkNodes (nonempty : nodes ≠ []) :
    reduce (linkNodes connective nodes) = group connective nodes := by
  unfold reduce
  cases connective with
  | and =>
    simp only [pieces_linkNodes_and nonempty, List.map_cons, List.map_nil, filterMap_linkNodes,
      group]
  | or =>
    have runs : (nodes.map fun node => ([.inl node] : List (Node ⊕ Connective))).map
        (fun run => group .and (run.filterMap Sum.getLeft?)) = nodes := by
      rw [List.map_map]
      exact List.map_id nodes
    simp only [pieces_linkNodes_or nonempty, runs]

/-- A linked chain is checked to a group of its checked children. -/
theorem validate_link (several : 2 ≤ drafts.length) :
    checker.validate (.chain (Draft.link connective drafts)) =
      Node.group connective <$> drafts.mapM checker.validate := by
  rw [validate, defect?_link several, validateItems_link]
  cases checked : drafts.mapM checker.validate with
  | error error => rfl
  | ok nodes =>
    have count : nodes.length = drafts.length := by
      simpa using (congrArg List.length (mapM_eq_ok_iff.mp checked)).symm
    match nodes, count with
    | first :: second :: rest, _ =>
      have reduced : reduce (linkNodes connective (first :: second :: rest)) =
          .group connective (first :: second :: rest) :=
        reduce_linkNodes (List.cons_ne_nil _ _)
      exact congrArg Except.ok reduced
    | [last], count => simp [← count] at several
    | [], count => simp [← count] at several

theorem exists_of_bind_ok {α β ε : Type} {first : Except ε α} {next : α → Except ε β} {b : β}
    (done : first >>= next = .ok b) : ∃ a, first = .ok a ∧ next a = .ok b := by
  cases first with
  | error error => contradiction
  | ok a => exact ⟨a, rfl, done⟩

theorem exists_of_return_ok {α β ε : Type} {answer : Except ε α} {make : α → β} {b : β}
    (done : (do return make (← answer)) = Except.ok b) : ∃ a, answer = .ok a ∧ b = make a := by
  obtain ⟨a, found, made⟩ := exists_of_bind_ok done
  exact ⟨a, found, (Except.ok.inj made).symm⟩

def checkPair (checker : Checker) (pair : Text × Text) : Except QueryError Leaf :=
  checker.checkLeaf pair.1 pair.2

theorem exists_of_validate_leaf {key value : Text} {span : Span} {node : Node}
    (checked : checker.validate (.leaf key value span) = .ok node) :
    ∃ l, node = .leaf l ∧ checker.checkLeaf key value = .ok l := by
  rw [validate] at checked
  cases found : checker.checkLeaf key value with
  | error error =>
    rw [found] at checked
    contradiction
  | ok l =>
    rw [found] at checked
    exact ⟨l, (Except.ok.inj checked).symm, rfl⟩

theorem exists_of_validate_chain {items : List (Draft ⊕ Connective)} {node : Node}
    (checked : checker.validate (.chain items) = .ok node) :
    ∃ made, Alternating items ∧ checker.validateItems items = .ok made ∧ node = reduce made := by
  rw [validate] at checked
  split at checked
  · contradiction
  · next sound =>
    obtain ⟨made, parts, reduced⟩ := exists_of_return_ok checked
    exact ⟨made, ((defect?_eq_none_iff items).mp sound).1, parts, reduced⟩

theorem exists_of_validateItems_child {child : Draft} {rest : List (Draft ⊕ Connective)}
    {made : List (Node ⊕ Connective)}
    (checked : checker.validateItems (.inl child :: rest) = .ok made) :
    ∃ node others, checker.validate child = .ok node ∧ checker.validateItems rest = .ok others ∧
      made = .inl node :: others := by
  rw [validateItems] at checked
  obtain ⟨node, first, following⟩ := exists_of_bind_ok checked
  obtain ⟨others, more, shape⟩ := exists_of_return_ok following
  exact ⟨node, others, first, more, shape⟩

theorem exists_of_validateItems_joint {rest : List (Draft ⊕ Connective)}
    {made : List (Node ⊕ Connective)}
    (checked : checker.validateItems (.inr connective :: rest) = .ok made) :
    ∃ others, checker.validateItems rest = .ok others ∧ made = .inr connective :: others := by
  rw [validateItems] at checked
  exact exists_of_return_ok checked

theorem flatMap_leaves_runs (runs : List (List (Node ⊕ Connective))) :
    runs.flatMap (fun run => (run.filterMap Sum.getLeft?).flatMap Node.leaves) =
      (runs.flatten.filterMap Sum.getLeft?).flatMap Node.leaves := by
  induction runs with
  | nil => rfl
  | cons run rest ih =>
    rw [List.flatMap_cons, ih, List.flatten_cons, List.filterMap_append, List.flatMap_append]

/-- The cuts between conjunctions fall on no child. -/
theorem leaves_reduce (items : List (Node ⊕ Connective)) :
    (reduce items).leaves = (items.filterMap Sum.getLeft?).flatMap Node.leaves := by
  have kept : (items.filter fun item => !(item.getRight? == some .or)).filterMap Sum.getLeft? =
      items.filterMap Sum.getLeft? := by
    rw [List.filterMap_filter]
    congr 1
    funext item
    cases item <;> simp
  rw [reduce, Node.leaves_checkerGroup, List.flatMap_map]
  simp only [Node.leaves_checkerGroup]
  rw [flatMap_leaves_runs, flatten_pieces, kept]

mutual

/-- The leaves of a checked draft are its checked pairs, in order. -/
theorem leaves_validate (draft : Draft) {node : Node}
    (checked : checker.validate draft = .ok node) :
    draft.pairs.map checker.checkPair = node.leaves.map .ok := by
  match draft with
  | .leaf key value span =>
    obtain ⟨l, rfl, found⟩ := exists_of_validate_leaf checked
    exact congrArg (fun answer => [answer]) found
  | .chain items =>
    obtain ⟨made, -, parts, rfl⟩ := exists_of_validate_chain checked
    rw [Draft.pairs, leaves_validateItems items parts, leaves_reduce]

theorem leaves_validateItems (items : List (Draft ⊕ Connective))
    {made : List (Node ⊕ Connective)} (checked : checker.validateItems items = .ok made) :
    (Draft.pairsIn items).map checker.checkPair =
      ((made.filterMap Sum.getLeft?).flatMap Node.leaves).map .ok := by
  match items with
  | [] =>
    obtain rfl := Except.ok.inj checked
    rfl
  | .inl child :: rest =>
    obtain ⟨node, others, first, more, rfl⟩ := exists_of_validateItems_child checked
    rw [Draft.pairsIn, List.map_append, leaves_validate child first,
      leaves_validateItems rest more, ← List.map_append]
    rfl
  | .inr connective :: rest =>
    obtain ⟨others, more, rfl⟩ := exists_of_validateItems_joint checked
    rw [Draft.pairsIn, leaves_validateItems rest more]
    rfl

end

/-! Groups of checked drafts. -/

theorem alternating_validateItems {items : List (Draft ⊕ Connective)}
    {made : List (Node ⊕ Connective)} (turns : Alternating items)
    (checked : checker.validateItems items = .ok made) : Alternating made := by
  induction turns generalizing made with
  | last child =>
    obtain ⟨node, others, -, ended, rfl⟩ := exists_of_validateItems_child checked
    obtain rfl := Except.ok.inj ended
    exact .last node
  | more child connective others ih =>
    obtain ⟨node, others, -, following, rfl⟩ := exists_of_validateItems_child checked
    obtain ⟨later, more, rfl⟩ := exists_of_validateItems_joint following
    exact .more node connective (ih more)

/-- Every conjunction of a checked chain has a child, so no group of the tree is empty. -/
theorem grouped_reduce {items : List (Node ⊕ Connective)} (turns : Alternating items)
    (each : ∀ node, .inl node ∈ items → node.Grouped 2) : (reduce items).Grouped 2 := by
  unfold reduce
  apply Node.grouped_checkerGroup
  · simpa using pieces_ne_nil _ items
  · intro node member
    obtain ⟨run, cut, rfl⟩ := List.mem_map.mp member
    apply Node.grouped_checkerGroup
    · obtain ⟨child, inside⟩ := turns.exists_child_of_mem_pieces cut
      exact List.ne_nil_of_mem (List.mem_filterMap.mpr ⟨.inl child, inside, rfl⟩)
    · intro child inside
      obtain ⟨item, among, left⟩ := List.mem_filterMap.mp inside
      obtain rfl := Sum.getLeft?_eq_some_iff.mp left
      exact each child (mem_of_mem_pieces cut among)

mutual

/-- Groups of a checked draft have two children at least. -/
theorem grouped_validate (draft : Draft) {node : Node}
    (checked : checker.validate draft = .ok node) : node.Grouped 2 := by
  match draft with
  | .leaf key value span =>
    obtain ⟨l, rfl, -⟩ := exists_of_validate_leaf checked
    trivial
  | .chain items =>
    obtain ⟨made, turns, parts, rfl⟩ := exists_of_validate_chain checked
    exact grouped_reduce (alternating_validateItems turns parts) (grouped_validateItems items parts)

theorem grouped_validateItems (items : List (Draft ⊕ Connective))
    {made : List (Node ⊕ Connective)} (checked : checker.validateItems items = .ok made) :
    ∀ node, .inl node ∈ made → node.Grouped 2 := by
  intro node member
  match items with
  | [] =>
    obtain rfl := Except.ok.inj checked
    contradiction
  | .inl child :: rest =>
    obtain ⟨first, others, found, more, rfl⟩ := exists_of_validateItems_child checked
    rcases List.mem_cons.mp member with same | inside
    · obtain rfl := Sum.inl.inj same
      exact grouped_validate child found
    · exact grouped_validateItems rest more node inside
  | .inr connective :: rest =>
    obtain ⟨others, more, rfl⟩ := exists_of_validateItems_joint checked
    rcases List.mem_cons.mp member with same | inside
    · contradiction
    · exact grouped_validateItems rest more node inside

end

/-! Images of trees. -/

mutual

/-- Places do not matter to checking. -/
theorem validate_erase (draft : Draft) : checker.validate draft.erase = checker.validate draft := by
  match draft with
  | .leaf key value span => rw [Draft.erase, validate, validate]
  | .chain items =>
    have defects : defect? (Draft.eraseItems items) = defect? items := by
      rw [Draft.eraseItems_eq_map, defect?, List.length_map, List.zipIdx_map, List.all_map]
      simp only [Function.comp_def, Prod.map_fst, Prod.map_snd, Sum.isLeft_map, id_eq, defect?]
    rw [Draft.erase, validate, validate, defects, validateItems_eraseItems items]

theorem validateItems_eraseItems (items : List (Draft ⊕ Connective)) :
    checker.validateItems (Draft.eraseItems items) = checker.validateItems items := by
  match items with
  | [] => rfl
  | .inl child :: rest =>
    rw [Draft.eraseItems, validateItems, validateItems, validate_erase child,
      validateItems_eraseItems rest]
  | .inr connective :: rest =>
    rw [Draft.eraseItems, validateItems, validateItems, validateItems_eraseItems rest]

end

/-- A tree whose leaves are checked to themselves is what its image is checked to be. -/
theorem validate_image {node : Node} (grouped : node.Grouped 2)
    (each : ∀ l ∈ node.leaves, checker.checkLeaf l.key.name.toList l.value.plain = .ok l) :
    checker.validate node.image = .ok node := by
  induction node using Node.induction with
  | leaf l =>
    rw [Node.image_leaf, validate, each l (by simp [Node.leaves])]
    rfl
  | group connective children ih =>
    obtain ⟨several, inner⟩ := Node.grouped_group.mp grouped
    rw [Node.leaves_group] at each
    have parts : (children.map Node.image).mapM checker.validate = .ok children := by
      rw [mapM_eq_ok_iff, List.map_map]
      exact List.map_congr_left fun child member => ih child member (inner child member)
        fun l inside => each l (List.mem_flatMap.mpr ⟨child, member, inside⟩)
    rw [Node.image_group, validate_link (by rwa [List.length_map]), parts]
    rfl

end Checker
end BroadcastQuery
