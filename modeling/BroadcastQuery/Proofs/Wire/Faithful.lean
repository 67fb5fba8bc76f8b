import BroadcastQuery.Proofs.Rechecking
import BroadcastQuery.Proofs.Wire.Decoding

/-!
The wire form loses nothing of a checked tree. Checking gives each value the type that goes with
its key, and no tag a comma, so types and tags are told from the wire form, and optimization brings
in no other leaves.
-/
namespace BroadcastQuery

/-- The trees that checking makes of drafts over any configured names, and their optimized
forms. -/
inductive Node.Checked : Node → Prop
  | validated {config : Config} {keywords : Keywords} {draft : Draft} {node : Node}
      (accepted : (Checker.ofVocabulary (.ofConfig config) keywords).validate draft = .ok node) :
      Checked node
  | optimized {node : Node} (checked : Checked node) : Checked node.optimize

namespace Checker

variable {config : Config} {keywords : Keywords} {checker : Checker} {key : Key} {value : Text}
  {v : Value}

theorem comma_not_mem_of_checkTags {tags : List Text}
    (checked : (ofVocabulary (.ofConfig config) keywords).checkTags value
      (splitTags keywords value) = .ok tags) : ∀ tag ∈ tags, ',' ∉ tag := by
  intro c member
  have parts := checkTags_eq_ok_iff.mp checked
  obtain ⟨tag, among, found⟩ := List.mem_map.mp (parts ▸ List.mem_map_of_mem member)
  exact comma_not_mem_canonical among (checkTag_eq_ok_iff.mp found).2

theorem told_of_checkValue
    (checked : (ofVocabulary (.ofConfig config) keywords).checkValue key value = .ok v) :
    Leaf.Told ⟨key, v⟩ := by
  cases key with
  | text =>
    rw [checkValue] at checked
    split at checked
    · contradiction
    · obtain rfl := eq_of_freeText checked
      rfl
  | hour | dayOfWeek | video =>
    obtain rfl := eq_of_freeText checked
    rfl
  | textWindow =>
    obtain ⟨n, -, rfl⟩ := exists_of_return_ok checked
    rfl
  | faceCount =>
    obtain ⟨n, -, -, rfl⟩ := exists_of_checkValue_faceCount checked
    rfl
  | faceName | channel | program =>
    obtain ⟨name, -, rfl⟩ := exists_of_return_ok checked
    rfl
  | faceTag =>
    obtain ⟨tags, found, rfl⟩ := exists_of_return_ok checked
    have filled := checkTags_ne_nil (splitTags_ne_nil keywords value) found
    have whole : pieces (· == ',') (Text.join [','] tags) = tags := by
      refine Text.pieces_join (by simp) filled fun tag member c inside => ?_
      refine beq_eq_false_iff_ne.mpr ?_
      rintro rfl
      exact comma_not_mem_of_checkTags found tag member inside
    exact congrArg (fun tags => some (Value.tags tags)) whole

/-- Whatever the draft is, its checked values are told by their keys. -/
theorem told_of_validate {draft : Draft} {node : Node}
    (accepted : (ofVocabulary (.ofConfig config) keywords).validate draft = .ok node) :
    ∀ l ∈ node.leaves, l.Told := by
  intro l member
  have pairs := leaves_validate draft accepted
  obtain ⟨pair, -, checked⟩ := List.mem_map.mp (pairs ▸ List.mem_map_of_mem member)
  exact told_of_checkValue (checkLeaf_eq_ok_iff.mp checked).2

end Checker

namespace Node

theorem Checked.told {node : Node} (checked : node.Checked) : ∀ l ∈ node.leaves, l.Told := by
  induction checked with
  | validated accepted => exact Checker.told_of_validate accepted
  | optimized _ ih => exact fun l member => ih l ((leaves_optimize_sublist _).subset member)

/-- A checked tree is read back from its wire form, so two of them are written differently. -/
theorem wire_faithful : (∀ node : Node, node.Checked → ofWire? node.wire = some node) ∧
    ∀ a b : Node, a.Checked → b.Checked → a.wire = b.wire → a = b := by
  have read (node : Node) (checked : node.Checked) : ofWire? node.wire = some node :=
    ofWire?_of_told checked.told
  refine ⟨read, fun a b checked checked' same => Option.some.inj ?_⟩
  calc some a = ofWire? a.wire := (read a checked).symm
    _ = ofWire? b.wire := by rw [same]
    _ = some b := read b checked'

/-- Two tags in one string beside a number, and a repeated leaf that optimization drops. -/
theorem wire_faithful_tags :
    (Checker.ofVocabulary (.ofConfig { Config.standard with
        tags := ["Host".toList, " Blue Tie".toList] }) .standard).validate
      (.chain [.inl (.leaf "face_tag".toList "host and blue  tie".toList ⟨0, 0⟩), .inr .or,
        .inl (.leaf "face_count".toList "07".toList ⟨0, 0⟩), .inr .or,
        .inl (.leaf "face_count".toList "7".toList ⟨0, 0⟩)]) =
      .ok (.group .or [.leaf ⟨.faceTag, .tags ["Host".toList, "Blue Tie".toList]⟩,
        .leaf ⟨.faceCount, .count 7⟩, .leaf ⟨.faceCount, .count 7⟩]) ∧
    ofWire? "[\"or\",[[\"face_tag\",\"Host,Blue Tie\"],[\"face_count\",7]]]".toList =
      some (.group .or [.leaf ⟨.faceTag, .tags ["Host".toList, "Blue Tie".toList]⟩,
        .leaf ⟨.faceCount, .count 7⟩]) := by
  have accepted : (Checker.ofVocabulary (.ofConfig { Config.standard with
        tags := ["Host".toList, " Blue Tie".toList] }) .standard).validate
      (.chain [.inl (.leaf "face_tag".toList "host and blue  tie".toList ⟨0, 0⟩), .inr .or,
        .inl (.leaf "face_count".toList "07".toList ⟨0, 0⟩), .inr .or,
        .inl (.leaf "face_count".toList "7".toList ⟨0, 0⟩)]) =
      .ok (.group .or [.leaf ⟨.faceTag, .tags ["Host".toList, "Blue Tie".toList]⟩,
        .leaf ⟨.faceCount, .count 7⟩, .leaf ⟨.faceCount, .count 7⟩]) := by
    rfl
  exact ⟨accepted, wire_faithful.1 _ (.optimized (.validated accepted))⟩

end Node
end BroadcastQuery
