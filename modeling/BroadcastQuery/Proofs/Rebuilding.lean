import Mathlib
import BroadcastQuery.Proofs.Rereading
import BroadcastQuery.Proofs.Typing

/-!
Building the display of a built tree. It gives back the tree exactly if the values of all leaves
can be quoted and the channels among them are their own canonical spellings.
-/
namespace BroadcastQuery

open Checker (standard checkPair)

namespace Checker

variable {checker : Checker} {source : Text} {query : Query} {tree : Node} {draft : Draft}

/-- A query with a main tree comes from a grammatical source with a main tree that was checked. -/
theorem exists_of_build (built : checker.build .strict source = .ok query)
    (present : query.main = some tree) : ∃ parsed draft node,
      DraftQuery.parse checker.keywords source = .ok parsed ∧ parsed.main = some draft ∧
      checker.validate draft = .ok node ∧ tree = node.optimize ∧ parsed.label = query.label ∧
      (query.secondary = none → parsed.secondary = none) := by
  unfold build at built
  cases parses : DraftQuery.parse checker.keywords source with
  | error error =>
    rw [parses] at built
    contradiction
  | ok parsed =>
    rw [parses] at built
    obtain ⟨label, compiled, secondary⟩ := exists_of_complete built
    rw [present] at compiled
    obtain ⟨draft, node, main, validated, same⟩ := exists_of_compile compiled
    refine ⟨parsed, draft, node, rfl, main, validated, same, label, ?_⟩
    intro absent
    rcases secondary with ⟨alone, -⟩ | ⟨modifier, draft?, tree?, -, paired, -⟩
    · exact alone
    · rw [paired] at absent
      contradiction

theorem build_of_parse {node : Node}
    (parses : DraftQuery.parse checker.keywords source = .ok ⟨none, some draft, none⟩)
    (validated : checker.validate draft = .ok node) :
    checker.build .strict source = .ok ⟨none, some node.optimize, none, source⟩ := by
  simp [build, parses, complete, compile, validated, bind, Except.bind, pure, Except.pure]

theorem tree_of_build (built : checker.build .strict source = .ok query)
    (present : query.main = some tree) :
    tree.Grouped 2 ∧ tree.Canonical ∧
      ∀ l ∈ tree.leaves, ∃ name value, checker.checkLeaf name value = .ok l :=
  checked_of_build built (List.mem_append_left _ (Option.mem_toList.mpr present))

end Checker

variable {config : Config} {source : Text} {query : Query} {tree : Node}

/-- A display that is built to its own tree has that tree's leaves among its pairs. -/
theorem quotable_of_rebuilt
    (rebuilt : (standard config).build .strict tree.display =
      .ok ⟨none, some tree, none, tree.display⟩) : ∀ l ∈ tree.leaves, Quotable l.value.plain := by
  obtain ⟨⟨label, main, secondary⟩, draft, node, parses, given, validated, same, labels, seconds⟩ :=
    Checker.exists_of_build rebuilt rfl
  obtain rfl : label = none := labels
  obtain rfl : main = some draft := given
  obtain rfl : secondary = none := seconds rfl
  obtain ⟨level, ⟨connective, valid⟩, tokens, rfl⟩ := Grammar.exists_level_of_parse parses
  have checked := Checker.leaves_validate _ validated
  have spread := Grammar.spread_of_level valid tokens
  have found : (tree.leaves.map .ok).Sublist
      ((level.draft Grammar.spelled).pairs.map (checkPair (standard config))) := by
    rw [checked, same]
    exact node.leaves_optimize_sublist.map _
  have known : ∀ pair ∈ (level.draft Grammar.spelled).pairs,
      ∃ key : Key, pair.1 = key.name.toList := by
    intro pair member
    have inside : checkPair (standard config) pair ∈ node.leaves.map .ok :=
      checked ▸ List.mem_map_of_mem member
    obtain ⟨l, -, answer⟩ := List.mem_map.mp inside
    exact ⟨l.key, (Checker.checkLeaf_eq_ok_iff.mp answer.symm).1⟩
  obtain ⟨before, text, plain, shape, shown⟩ := tree.shownAfter_display
  rw [shape] at spread
  exact shown.quotable (fun member => (plain '=' member).1 rfl) spread found known

/-- The display of a tree whose values can be quoted is built to the tree exactly if its leaves are
checked to themselves. -/
theorem rebuilt_iff_of_quotable (grouped : tree.Grouped 2) (canonical : tree.Canonical)
    (quotable : ∀ l ∈ tree.leaves, Quotable l.value.plain) :
    (standard config).build .strict tree.display = .ok ⟨none, some tree, none, tree.display⟩ ↔
      ∀ l ∈ tree.leaves,
        (standard config).checkLeaf l.key.name.toList l.value.plain = .ok l := by
  obtain ⟨connective, level, valid, image, tokens⟩ :=
    Grammar.exists_level_display grouped quotable
  have parses : DraftQuery.parse (standard config).keywords tree.display = _ :=
    Grammar.parse_of_level valid tokens
  constructor
  · intro rebuilt l member
    obtain ⟨parsed, draft, node, parses', given, validated, same, -, -⟩ :=
      Checker.exists_of_build rebuilt rfl
    obtain rfl := Except.ok.inj (parses.symm.trans parses')
    obtain rfl := Option.some.inj given
    have checked := Checker.leaves_validate _ validated
    rw [← Draft.pairs_erase, image, Node.pairs_image, List.map_map] at checked
    have all : tree.leaves = node.leaves := by
      have sublist : tree.leaves.Sublist node.leaves := same ▸ node.leaves_optimize_sublist
      refine sublist.eq_of_length ?_
      simpa using congrArg List.length checked
    rw [← all] at checked
    exact List.map_inj_left.mp checked l member
  · intro each
    have validated := Checker.validate_image grouped each
    rw [← image, Checker.validate_erase] at validated
    have built := Checker.build_of_parse parses validated
    rwa [canonical.optimize_eq] at built

/-- The display of a built tree is built to that tree again, with no label and no secondary query,
exactly if no value has both quotation marks and every channel is its own canonical spelling. -/
theorem build_display_iff (built : (standard config).build .strict source = .ok query)
    (main : query.main = some tree) :
    (standard config).build .strict tree.display = .ok ⟨none, some tree, none, tree.display⟩ ↔
      ∀ l ∈ tree.leaves, Quotable l.value.plain ∧
        (l.key = .channel → (Vocabulary.ofConfig config).canonical .channel l.value.plain =
          some l.value.plain) := by
  obtain ⟨grouped, canonical, leaves⟩ := Checker.tree_of_build built main
  have again : ∀ l ∈ tree.leaves,
      ((standard config).checkLeaf l.key.name.toList l.value.plain = .ok l ↔
        (l.key = .channel → (Vocabulary.ofConfig config).canonical .channel l.value.plain =
          some l.value.plain)) := by
    intro l member
    obtain ⟨name, value, checked⟩ := leaves l member
    exact Checker.checkLeaf_checked_iff checked
  constructor
  · intro rebuilt l member
    have quotable := quotable_of_rebuilt rebuilt
    have each := (rebuilt_iff_of_quotable grouped canonical quotable).mp rebuilt
    exact ⟨quotable l member, (again l member).mp (each l member)⟩
  · intro each
    apply (rebuilt_iff_of_quotable grouped canonical fun l member => (each l member).1).mpr
    intro l member
    exact (again l member).mpr (each l member).2

/-- A configured name with both quotation marks is found when it is written bare, but the tree is
displayed with quotation marks and that is not read as the same name. -/
theorem build_display_both_quotes :
    (standard { Config.standard with people := ["O'Neil \"Bud\"".toList] }).build .strict
        "face_name=O'Neil \"Bud\"".toList =
      .ok ⟨none, some (.leaf ⟨.faceName, .member "O'Neil \"Bud\"".toList⟩), none,
        "face_name=O'Neil \"Bud\"".toList⟩ ∧
    (standard { Config.standard with people := ["O'Neil \"Bud\"".toList] }).build .strict
        (Node.leaf ⟨.faceName, .member "O'Neil \"Bud\"".toList⟩).display ≠
      .ok ⟨none, some (.leaf ⟨.faceName, .member "O'Neil \"Bud\"".toList⟩), none,
        (Node.leaf ⟨.faceName, .member "O'Neil \"Bud\"".toList⟩).display⟩ := by
  have built : (standard { Config.standard with people := ["O'Neil \"Bud\"".toList] }).build .strict
      "face_name=O'Neil \"Bud\"".toList =
        .ok ⟨none, some (.leaf ⟨.faceName, .member "O'Neil \"Bud\"".toList⟩), none,
          "face_name=O'Neil \"Bud\"".toList⟩ := by
    cbv
  refine ⟨built, ?_⟩
  intro rebuilt
  have quotable := ((build_display_iff built rfl).mp rebuilt
    ⟨.faceName, .member "O'Neil \"Bud\"".toList⟩ List.mem_cons_self).1
  exact absurd quotable (by decide)

end BroadcastQuery
