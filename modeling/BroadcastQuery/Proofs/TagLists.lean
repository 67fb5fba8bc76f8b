import BroadcastQuery.Proofs.Rechecking

/-!
Lists of tags, one behind the other. A comma between two texts separates their tags, and so does
the reserved word for `and` between two spaces; each list is checked for itself.
-/
namespace BroadcastQuery

namespace Text

theorem words_append_blank {blank : Char} (is : isBlank blank = true) (s t : Text) :
    words (s ++ blank :: t) = words s ++ words t := by
  rw [words, pieces_append_mark is, List.filter_append, ← words, ← words]

theorem words_of_solid {word : Text} (some : word ≠ [])
    (solid : ∀ c ∈ word, isBlank c = false) : words word = [word] := by
  rw [words, pieces_of_free solid]
  simp [some]

end Text

namespace Checker

variable {checker : Checker} {keywords : Keywords} {separator word tag c x y value : Text}
  {tags canonicals : List Text}

/-! Splitting. -/

theorem splitTags_comma (keywords : Keywords) (x y : Text) :
    splitTags keywords (x ++ [','] ++ y) = splitTags keywords x ++ splitTags keywords y := by
  simp only [splitTags_eq_flatMap, List.append_assoc, List.singleton_append]
  rw [pieces_append_mark (p := (· == ',')) rfl, List.flatMap_append]

/-- A reserved word stands alone between its spaces. -/
theorem tagsOfPiece_and (some : word ≠ []) (solid : ∀ c ∈ word, isBlank c = false)
    (spelled : keywords.isAnd word = true) (s t : Text) :
    tagsOfPiece keywords (s ++ (' ' :: word ++ [' ']) ++ t) =
      tagsOfPiece keywords s ++ tagsOfPiece keywords t := by
  have whole : s ++ (' ' :: word ++ [' ']) ++ t = s ++ ' ' :: (word ++ ' ' :: t) := by simp
  rw [tagsOfPiece, whole, Text.words_append_blank rfl, Text.words_append_blank rfl,
    Text.words_of_solid some solid, List.singleton_append, pieces_append_mark spelled,
    List.map_append]
  rfl

theorem splitTags_and (some : word ≠ []) (plain : ∀ c ∈ word, isBlank c = false ∧ c ≠ ',')
    (spelled : keywords.isAnd word = true) (x y : Text) :
    splitTags keywords (x ++ (' ' :: word ++ [' ']) ++ y) =
      splitTags keywords x ++ splitTags keywords y := by
  have free : ∀ c ∈ ' ' :: word ++ [' '], (c == ',') = false := by
    intro c member
    simp only [List.cons_append, List.mem_cons, List.mem_append, List.not_mem_nil,
      or_false] at member
    rcases member with rfl | member | rfl
    · rfl
    · exact beq_eq_false_iff_ne.mpr (plain c member).2
    · rfl
  exact flatMap_pieces_append free
    (tagsOfPiece_and some (fun c member => (plain c member).1) spelled) x y

/-- A word that spells another one is as free of blanks and commas. -/
theorem plain_of_sameFold {spelling : Text} (some : spelling ≠ [])
    (plain : ∀ c ∈ spelling, isBlank c = false ∧ c ≠ ',') (same : word.sameFold spelling = true) :
    word ≠ [] ∧ ∀ c ∈ word, isBlank c = false ∧ c ≠ ',' := by
  have folded : word.foldAscii = spelling.foldAscii := beq_iff_eq.mp same
  constructor
  · rintro rfl
    exact some (List.map_eq_nil_iff.mp folded.symm)
  · intro c member
    have inside : c.toLower ∈ spelling.foldAscii := folded ▸ List.mem_map_of_mem member
    obtain ⟨d, among, lowered⟩ := List.mem_map.mp inside
    obtain ⟨solid, other⟩ := plain d among
    constructor
    · rw [← Casing.isBlank_toLower, ← lowered, Casing.isBlank_toLower, solid]
    · rintro rfl
      exact other ((Casing.toLower_eq_iff rfl).mp lowered)

/-! Checking. -/

/-- The canonical spelling of a tag, which is not empty. -/
def tag? (checker : Checker) (tag : Text) : Option Text :=
  if tag = [] then none else checker.canonical .tag tag

theorem checkTag_eq_ok_iff_tag? : checker.checkTag value tag = .ok c ↔
    checker.tag? tag = some c := by
  rw [checkTag_eq_ok_iff, tag?]
  by_cases empty : tag = [] <;> simp [empty]

/-- Tags are accepted one by one, whatever list they stand in. -/
theorem checkTags_eq_ok_iff_tag? : checker.checkTags value tags = .ok canonicals ↔
    tags.map checker.tag? = canonicals.map some := by
  rw [checkTags_eq_ok_iff]
  induction tags generalizing canonicals with
  | nil => cases canonicals <;> simp
  | cons tag rest ih =>
    cases canonicals with
    | nil => simp
    | cons first others =>
      simp only [List.map_cons, List.cons.injEq, ih, checkTag_eq_ok_iff_tag?]

theorem checkTags_append_eq_ok_iff (value₁ value₂ : Text) {front back : List Text} :
    checker.checkTags value (front ++ back) = .ok canonicals ↔
      ∃ a b, checker.checkTags value₁ front = .ok a ∧ checker.checkTags value₂ back = .ok b ∧
        canonicals = a ++ b := by
  simp only [checkTags_eq_ok_iff_tag?, List.map_append]
  constructor
  · intro whole
    obtain ⟨a, b, rfl, first, second⟩ := List.map_eq_append_iff.mp whole.symm
    exact ⟨a, b, first.symm, second.symm, rfl⟩
  · rintro ⟨a, b, first, second, rfl⟩
    rw [first, second, List.map_append]

theorem checkLeaf_faceTag_iff {l : Leaf} :
    checker.checkLeaf "face_tag".toList value = .ok l ↔
      ∃ tags, checker.checkTags value (splitTags checker.keywords value) = .ok tags ∧
        l = ⟨.faceTag, .tags tags⟩ := by
  have key : Key.ofName? "face_tag".toList = some .faceTag := rfl
  simp only [checkLeaf, key, checkValue]
  cases checker.checkTags value (splitTags checker.keywords value) with
  | error error => simp [bind, Except.bind]
  | ok tags => simp [bind, Except.bind, pure, Except.pure, eq_comm]

/-- Texts with the separator between them are accepted as a list of tags if both are, and then as
the one list behind the other. -/
def SeparatesTags (checker : Checker) (separator : Text) : Prop :=
  ∀ (x y : Text) (l : Leaf),
    checker.checkLeaf "face_tag".toList (x ++ separator ++ y) = .ok l ↔
      ∃ a b, checker.checkLeaf "face_tag".toList x = .ok ⟨.faceTag, .tags a⟩ ∧
        checker.checkLeaf "face_tag".toList y = .ok ⟨.faceTag, .tags b⟩ ∧
        l = ⟨.faceTag, .tags (a ++ b)⟩

theorem separatesTags_of_splitTags
    (cuts : ∀ x y, splitTags checker.keywords (x ++ separator ++ y) =
      splitTags checker.keywords x ++ splitTags checker.keywords y) :
    checker.SeparatesTags separator := by
  intro x y l
  simp only [checkLeaf_faceTag_iff, cuts, checkTags_append_eq_ok_iff x y]
  constructor
  · rintro ⟨tags, ⟨a, b, first, second, rfl⟩, rfl⟩
    exact ⟨a, b, ⟨a, first, rfl⟩, ⟨b, second, rfl⟩, rfl⟩
  · rintro ⟨a, b, ⟨a', first, ⟨⟩⟩, ⟨b', second, ⟨⟩⟩, rfl⟩
    exact ⟨a ++ b, ⟨a, b, first, second, rfl⟩, rfl⟩

/-- A comma separates tags, and every spelling of the reserved word for `and` does so between
spaces, where that word has no blank or comma of its own. -/
theorem separatesTags_comma_and (checker : Checker) :
    checker.SeparatesTags [','] ∧
      (checker.keywords.and ≠ [] →
        (∀ c ∈ checker.keywords.and, isBlank c = false ∧ c ≠ ',') →
        ∀ word : Text, word.sameFold checker.keywords.and = true →
          checker.SeparatesTags (' ' :: word ++ [' '])) := by
  constructor
  · exact separatesTags_of_splitTags (splitTags_comma checker.keywords)
  · intro some plain word same
    obtain ⟨some, plain⟩ := plain_of_sameFold some plain same
    exact separatesTags_of_splitTags (splitTags_and some plain same)

/-- A reserved word of its own, in another case, between two lists of which the first has a comma. -/
theorem separatesTags_comma_and_cased :
    let checker := ofVocabulary
      (.ofConfig { Config.standard with tags := ["Male".toList, "White House".toList] })
      { Keywords.standard with and := "UND".toList }
    let tags := ["Male".toList, "White House".toList]
    checker.keywords.and ≠ [] ∧
    (∀ c ∈ checker.keywords.and, isBlank c = false ∧ c ≠ ',') ∧
    Text.sameFold "Und".toList checker.keywords.and = true ∧
    checker.checkLeaf "face_tag".toList "male, white\t HOUSE ".toList =
      .ok ⟨.faceTag, .tags tags⟩ ∧
    checker.checkLeaf "face_tag".toList "male, white\t HOUSE  Und Male".toList =
      .ok ⟨.faceTag, .tags (tags ++ ["Male".toList])⟩ := by
  intro checker tags
  have some : checker.keywords.and ≠ [] := by decide
  have plain : ∀ c ∈ checker.keywords.and, isBlank c = false ∧ c ≠ ',' := by
    simp [checker, ofVocabulary, isBlank]
  have same : Text.sameFold "Und".toList checker.keywords.and = true := by decide
  have first : checker.checkLeaf "face_tag".toList "male, white\t HOUSE ".toList =
      .ok ⟨.faceTag, .tags tags⟩ := rfl
  have second : checker.checkLeaf "face_tag".toList "Male".toList =
      .ok ⟨.faceTag, .tags ["Male".toList]⟩ := rfl
  have separates := (separatesTags_comma_and checker).2 some plain "Und".toList same
  exact ⟨some, plain, same, first, (separates _ _ _).mpr ⟨_, _, first, second, rfl⟩⟩

end Checker
end BroadcastQuery
