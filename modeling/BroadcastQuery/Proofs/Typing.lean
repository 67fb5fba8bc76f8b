import Mathlib
import BroadcastQuery.Proofs.CanonicalForm
import BroadcastQuery.Proofs.Rechecking
import BroadcastQuery.Proofs.Violations

/-!
What built queries hold, whatever the configuration and the source: both trees are canonical, no
group has less than two children, and each leaf has a value that its key allows. Names among the
values are spelled as they are configured.
-/
namespace BroadcastQuery

/-- The leaves that are allowed over configured names. -/
inductive Leaf.WellTyped (config : Config) : Leaf → Prop
  | text {t : Text} (solid : ∃ c ∈ t, isBlank c = false) (quotable : Quotable t) :
      WellTyped config ⟨.text, .text t⟩
  | textWindow {n : Nat} (bounded : n < wordLimit) : WellTyped config ⟨.textWindow, .count n⟩
  | faceName {person : Text} (configured : person ∈ config.people) :
      WellTyped config ⟨.faceName, .member person.trim⟩
  | faceTag {tags : List Text} (some : tags ≠ [])
      (configured : ∀ tag ∈ tags, ∃ name ∈ config.tags, tag = name.trim) :
      WellTyped config ⟨.faceTag, .tags tags⟩
  | faceCount {n : Nat} (positive : 0 < n) (bounded : n < wordLimit) :
      WellTyped config ⟨.faceCount, .count n⟩
  | channel {channel : Text} (configured : channel ∈ config.channels) :
      WellTyped config ⟨.channel, .member channel.trim.upper⟩
  | program {program : Text} (configured : program ∈ config.shows) :
      WellTyped config ⟨.program, .member program.trim⟩
  | hour {t : Text} (quotable : Quotable t) : WellTyped config ⟨.hour, .text t⟩
  | dayOfWeek {t : Text} (quotable : Quotable t) : WellTyped config ⟨.dayOfWeek, .text t⟩
  | video {t : Text} (quotable : Quotable t) : WellTyped config ⟨.video, .text t⟩

def Query.trees (query : Query) : List Node :=
  query.main.toList ++ (query.secondary.bind Secondary.tree).toList

theorem Text.exists_solid_of_trim {t : Text} (kept : t.trim ≠ []) :
    ∃ c ∈ t, isBlank c = false := by
  have start : t.trimStart ≠ [] := by
    intro empty
    exact kept (List.prefix_nil.mp (empty ▸ t.trim_prefix))
  obtain ⟨c, rest, shape⟩ := List.exists_cons_of_ne_nil start
  have here : c ∈ t.trimStart := shape ▸ List.mem_cons_self
  have first : t.trimStart.head? = some c := congrArg List.head? shape
  exact ⟨c, (List.dropWhile_sublist isBlank).subset here, head?_dropWhile_isBlank t c first⟩

namespace Checker

section Values

variable {config : Config} {keywords : Keywords} {key : Key} {value : Text} {v : Value}

theorem quotable_of_freeText (checked : freeText key value = .ok v) :
    v = .text value ∧ Quotable value := by
  refine ⟨eq_of_freeText checked, ?_⟩
  unfold freeText at checked
  split at checked
  · contradiction
  · next single =>
    rintro ⟨double, simple⟩
    apply single
    simp [double, simple]

theorem exists_of_member {category : Category}
    (checked : (do return Value.member (← (ofVocabulary (.ofConfig config) keywords).lookup key
      category value)) = Except.ok v) :
    ∃ name ∈ config.names category, v = .member (category.spelling name) := by
  obtain ⟨c, found, rfl⟩ := exists_of_return_ok checked
  obtain ⟨name, configured, rfl⟩ := Vocabulary.exists_of_canonical ((lookup_eq_ok_iff _).mp found)
  exact ⟨name, configured, rfl⟩

theorem exists_of_mem_checkTags {tags canonicals : List Text}
    (checked : (ofVocabulary (.ofConfig config) keywords).checkTags value tags = .ok canonicals) :
    ∀ c ∈ canonicals, ∃ name ∈ config.tags, c = name.trim := by
  intro c member
  have parts := checkTags_eq_ok_iff.mp checked
  obtain ⟨tag, -, found⟩ := List.mem_map.mp (parts ▸ List.mem_map_of_mem member)
  exact Vocabulary.exists_of_canonical (checkTag_eq_ok_iff.mp found).2

/-- What is checked under a key is allowed for that key. -/
theorem wellTyped_of_checkValue
    (checked : (ofVocabulary (.ofConfig config) keywords).checkValue key value = .ok v) :
    Leaf.WellTyped config ⟨key, v⟩ := by
  cases key with
  | text =>
    rw [checkValue] at checked
    split at checked
    · contradiction
    · next solid =>
      obtain ⟨rfl, quotable⟩ := quotable_of_freeText checked
      exact .text (Text.exists_solid_of_trim (by simpa using solid)) quotable
  | textWindow =>
    obtain ⟨n, number, rfl⟩ := exists_of_return_ok checked
    exact .textWindow (of_wholeNumber number).1
  | faceCount =>
    obtain ⟨n, number, positive, rfl⟩ := exists_of_checkValue_faceCount checked
    exact .faceCount (Nat.pos_of_ne_zero positive) (of_wholeNumber number).1
  | faceTag =>
    obtain ⟨tags, found, rfl⟩ := exists_of_return_ok checked
    apply Leaf.WellTyped.faceTag
    · exact checkTags_ne_nil (splitTags_ne_nil keywords value) found
    · exact exists_of_mem_checkTags found
  | faceName | channel | program =>
    obtain ⟨name, configured, rfl⟩ := exists_of_member checked
    constructor
    exact configured
  | hour | dayOfWeek | video =>
    obtain ⟨rfl, quotable⟩ := quotable_of_freeText checked
    constructor
    exact quotable

theorem wellTyped_of_checkLeaf {name : Text} {l : Leaf}
    (checked : (ofVocabulary (.ofConfig config) keywords).checkLeaf name value = .ok l) :
    l.WellTyped config := wellTyped_of_checkValue (checkLeaf_eq_ok_iff.mp checked).2

end Values

section Trees

variable {checker : Checker} {mode : Mode} {source : Text} {parsed : DraftQuery} {query : Query}
  {tree : Node}

theorem exists_of_compile {draft? : Option Draft}
    (compiled : checker.compile draft? = .ok (some tree)) :
    ∃ draft node, draft? = some draft ∧ checker.validate draft = .ok node ∧
      tree = node.optimize := by
  cases draft? with
  | none =>
    have absent : none = some tree := Except.ok.inj compiled
    contradiction
  | some draft =>
    obtain ⟨node, validated, made⟩ := exists_of_return_ok compiled
    exact ⟨draft, node, rfl, validated, Option.some.inj made⟩

theorem exists_of_complete (completed : checker.complete source parsed = .ok query) :
    parsed.label = query.label ∧ checker.compile parsed.main = .ok query.main ∧
      (parsed.secondary = none ∧ query.secondary = none ∨
        ∃ modifier draft? tree?, parsed.secondary = some (modifier, draft?) ∧
          query.secondary = some ⟨modifier, tree?⟩ ∧ checker.compile draft? = .ok tree?) := by
  obtain ⟨main, compiled, completed⟩ := exists_of_bind_ok completed
  cases second : parsed.secondary with
  | none =>
    rw [second] at completed
    obtain rfl := Except.ok.inj completed
    exact ⟨rfl, compiled, .inl ⟨rfl, rfl⟩⟩
  | some pair =>
    obtain ⟨modifier, draft?⟩ := pair
    rw [second] at completed
    obtain ⟨tree?, found, rfl⟩ := exists_of_return_ok completed
    exact ⟨rfl, compiled, .inr ⟨modifier, draft?, tree?, rfl, rfl, found⟩⟩

/-- Each tree of a query is made of a draft in its source. -/
theorem exists_of_mem_trees (completed : checker.complete source parsed = .ok query)
    (inside : tree ∈ query.trees) : ∃ draft ∈ trees parsed, ∃ node,
      checker.validate draft = .ok node ∧ tree = node.optimize := by
  obtain ⟨-, compiled, secondary⟩ := exists_of_complete completed
  rcases List.mem_append.mp inside with main | second
  · rw [Option.mem_toList.mp main] at compiled
    obtain ⟨draft, node, given, validated, made⟩ := exists_of_compile compiled
    exact ⟨draft, List.mem_append_left _ (Option.mem_toList.mpr given), node, validated, made⟩
  · rcases secondary with ⟨-, absent⟩ | ⟨modifier, draft?, tree?, given, paired, compiled⟩
    · simp [absent] at second
    · rw [paired] at second
      obtain rfl : tree? = some tree := Option.mem_toList.mp second
      obtain ⟨draft, node, rfl, validated, made⟩ := exists_of_compile compiled
      refine ⟨draft, List.mem_append_right _ (Option.mem_toList.mpr ?_), node, validated, made⟩
      rw [given]
      rfl

/-- Built trees are grouped, canonical, and made of checked leaves. -/
theorem checked_of_build (built : checker.build mode source = .ok query)
    (inside : tree ∈ query.trees) : tree.Grouped 2 ∧ tree.Canonical ∧
      ∀ l ∈ tree.leaves, ∃ name value, checker.checkLeaf name value = .ok l := by
  cases parses : DraftQuery.parse checker.keywords source with
  | error found =>
    cases mode with
    | strict => simp [build, parses] at built
    | lenient =>
      have everything : checker.build .lenient source = .ok (.matchAll source) := by
        simp [build, parses, pure, Except.pure]
      obtain rfl := Except.ok.inj (everything.symm.trans built)
      contradiction
  | ok parsed =>
    rw [build_eq_complete parses] at built
    obtain ⟨draft, -, node, validated, rfl⟩ := exists_of_mem_trees built inside
    refine ⟨((grouped_validate draft validated).mono (Nat.le_succ 1)).optimized,
      node.canonical_optimized, ?_⟩
    intro l member
    have among : .ok l ∈ draft.pairs.map checker.checkPair := by
      rw [leaves_validate draft validated]
      exact List.mem_map_of_mem (node.leaves_optimize_sublist.subset member)
    obtain ⟨pair, -, checked⟩ := List.mem_map.mp among
    exact ⟨pair.1, pair.2, checked⟩

end Trees

/-- Whatever is built, every group in its trees has two children at least and every leaf is allowed
over the configured names. -/
theorem wellTyped_of_build {config : Config} {keywords : Keywords} {mode : Mode} {source : Text}
    {query : Query}
    (built : (ofVocabulary (.ofConfig config) keywords).build mode source = .ok query) :
    ∀ tree ∈ query.trees, tree.Grouped 2 ∧ ∀ l ∈ tree.leaves, l.WellTyped config := by
  intro tree inside
  obtain ⟨grouped, -, checked⟩ := checked_of_build built inside
  refine ⟨grouped, ?_⟩
  intro l member
  obtain ⟨name, value, checked⟩ := checked l member
  exact wellTyped_of_checkLeaf checked

/-- A leaf alone and a group that lost a repeated leaf, with names found in another case. -/
theorem wellTyped_of_build_paired :
    (ofVocabulary (.ofConfig { Config.standard with people := [" Ann ".toList] }) .standard).build
        .lenient "channel=fox normalize (face_name=ANN or text=war) or text=war".toList =
      .ok ⟨none, some (.leaf ⟨.channel, .member "FOXNEWS".toList⟩),
        some ⟨.normalize, some (.group .or [.leaf ⟨.faceName, .member "Ann".toList⟩,
          .leaf ⟨.text, .text "war".toList⟩])⟩,
        "channel=fox normalize (face_name=ANN or text=war) or text=war".toList⟩ ∧
    ∀ tree ∈ [Node.leaf ⟨.channel, .member "FOXNEWS".toList⟩,
        .group .or [.leaf ⟨.faceName, .member "Ann".toList⟩, .leaf ⟨.text, .text "war".toList⟩]],
      tree.Grouped 2 ∧
        ∀ l ∈ tree.leaves, l.WellTyped { Config.standard with people := [" Ann ".toList] } := by
  have built : (ofVocabulary (.ofConfig { Config.standard with people := [" Ann ".toList] })
      .standard).build .lenient
        "channel=fox normalize (face_name=ANN or text=war) or text=war".toList =
      .ok ⟨none, some (.leaf ⟨.channel, .member "FOXNEWS".toList⟩),
        some ⟨.normalize, some (.group .or [.leaf ⟨.faceName, .member "Ann".toList⟩,
          .leaf ⟨.text, .text "war".toList⟩])⟩,
        "channel=fox normalize (face_name=ANN or text=war) or text=war".toList⟩ := by
    cbv
  exact ⟨built, wellTyped_of_build built⟩

end Checker
end BroadcastQuery
