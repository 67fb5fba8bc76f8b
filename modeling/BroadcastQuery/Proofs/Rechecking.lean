import BroadcastQuery.Query
import BroadcastQuery.Proofs.Chains
import BroadcastQuery.Proofs.Names

/-!
Checking a checked value again. Apart from channels, the plain text of a checked value is checked
to the same value, and has the marks of the text that it came from.
-/
namespace BroadcastQuery

open Casing (Lowers lowers_lower)

namespace Checker

/-- Checking against configured names, with the standard reserved words. -/
abbrev standard (config : Config) : Checker := ofVocabulary (.ofConfig config) .standard

/-! Tags. -/

variable {config : Config} {tag c : Text}

def tagsOfPiece (keywords : Keywords) (piece : Text) : List Text :=
  (pieces keywords.isAnd (Text.words piece)).map (Text.join [' '])

theorem splitTags_eq_flatMap (keywords : Keywords) (value : Text) :
    splitTags keywords value = (pieces (· == ',') value).flatMap (tagsOfPiece keywords) := rfl

/-- Tags that each stay whole are what their list is split into. -/
theorem splitTags_join {keywords : Keywords} {tags : List Text} (some : tags ≠ [])
    (each : ∀ tag ∈ tags, ',' ∉ tag ∧ tagsOfPiece keywords tag = [tag]) :
    splitTags keywords (Text.join [','] tags) = tags := by
  have free : ∀ tag ∈ tags, ∀ c ∈ tag, (c == ',') = false := by
    intro tag member c inside
    refine beq_eq_false_iff_ne.mpr ?_
    rintro rfl
    exact (each tag member).1 inside
  rw [splitTags_eq_flatMap, Text.pieces_join (by simp) some free]
  clear free some
  induction tags with
  | nil => rfl
  | cons tag rest ih =>
    rw [List.flatMap_cons, (each tag List.mem_cons_self).2,
      ih fun other member => each other (List.mem_cons_of_mem _ member)]
    rfl

theorem splitTags_ne_nil (keywords : Keywords) (value : Text) : splitTags keywords value ≠ [] := by
  rw [splitTags_eq_flatMap]
  obtain ⟨first, rest, shape⟩ := List.exists_cons_of_ne_nil (pieces_ne_nil (· == ',') value)
  rw [shape, List.flatMap_cons, tagsOfPiece]
  simp [pieces_ne_nil]

/-- A tag is made of words that are not `and`, with single spaces between them. -/
theorem exists_words_of_mem_splitTags {keywords : Keywords} {value : Text}
    (member : tag ∈ splitTags keywords value) : ∃ words : List Text, tag = Text.join [' '] words ∧
      ∀ word ∈ words, word ≠ [] ∧ (∀ c ∈ word, isBlank c = false) ∧ ',' ∉ word ∧
        keywords.isAnd word = false := by
  rw [splitTags_eq_flatMap] at member
  obtain ⟨piece, among, inside⟩ := List.mem_flatMap.mp member
  obtain ⟨words, part, rfl⟩ := List.mem_map.mp inside
  refine ⟨words, rfl, fun word here => ?_⟩
  have plain := free_of_mem_pieces part word here
  have listed : word ∈ (pieces isBlank piece).filter (!·.isEmpty) := by
    have kept : word ∈ (pieces keywords.isAnd (Text.words piece)).flatten :=
      List.mem_flatten.mpr ⟨words, part, here⟩
    rw [flatten_pieces] at kept
    exact (List.mem_filter.mp kept).1
  obtain ⟨cut, nonempty⟩ := List.mem_filter.mp listed
  have solid := free_of_mem_pieces cut
  have comma : ',' ∉ word := by
    intro comma
    have kept : ',' ∈ (pieces isBlank piece).flatten := List.mem_flatten.mpr ⟨word, cut, comma⟩
    rw [flatten_pieces] at kept
    have none := free_of_mem_pieces among ',' (List.mem_filter.mp kept).1
    contradiction
  exact ⟨by simpa using nonempty, solid, comma, plain⟩

/-- A text in the lower case of a tag stays whole. -/
theorem tagsOfPiece_of_lowers {words : List Text} {lowered : Text} (some : words ≠ [])
    (each : ∀ word ∈ words, word ≠ [] ∧ (∀ c ∈ word, isBlank c = false) ∧
      Keywords.standard.isAnd word = false)
    (lowers : Lowers (Text.join [' '] words) lowered) (lowers' : Lowers c lowered) :
    c ≠ [] ∧ tagsOfPiece .standard c = [c] := by
  have solid : ∀ word ∈ words, ∀ d ∈ word, isBlank d = false := by
    intro word here
    exact (each word here).2.1
  have cut : pieces isBlank (Text.join [' '] words) = words := Text.pieces_join rfl some solid
  have plain : ∀ word ∈ pieces isBlank c, word ≠ [] ∧ Keywords.standard.isAnd word = false := by
    intro word here
    obtain ⟨original, among, lowered, first, second⟩ := lowers.exists_counterpart lowers' here
    rw [cut] at among
    obtain ⟨nonempty, -, plain⟩ := each original among
    constructor
    · intro empty
      exact nonempty (first.eq_nil_iff.mpr (second.eq_nil_iff.mp empty))
    · apply Bool.eq_false_iff.mpr
      intro spelled
      rw [first.isAnd_iff.mpr (second.isAnd_iff.mp spelled)] at plain
      contradiction
  have spaces : ∀ d ∈ c, isBlank d = true → d = ' ' := by
    intro d member blank
    have lowered := (lowers'.mem_iff_of_isBlank blank).mp member
    have inside := (lowers.mem_iff_of_isBlank blank).mpr lowered
    rcases Text.mem_join inside with space | ⟨word, among, inside⟩
    · exact List.mem_singleton.mp space
    · rw [solid word among d inside] at blank
      contradiction
  have listed : Text.words c = pieces isBlank c := by
    apply List.filter_eq_self.mpr
    intro word here
    simp [(plain word here).1]
  constructor
  · rintro rfl
    exact (plain [] List.mem_cons_self).1 rfl
  · rw [tagsOfPiece, listed, pieces_of_free fun word here => (plain word here).2,
      List.map_singleton, Text.join_pieces spaces]

/-- Commas separate tags, so the canonical spelling of a tag has none. -/
theorem comma_not_mem_canonical {keywords : Keywords} {value : Text}
    (member : tag ∈ splitTags keywords value)
    (found : (Vocabulary.ofConfig config).canonical .tag tag = some c) : ',' ∉ c := by
  obtain ⟨words, rfl, each⟩ := exists_words_of_mem_splitTags member
  have isMark : IsMark ',' := ⟨by decide, rfl, rfl⟩
  have count := Vocabulary.count_canonical (by decide) found isMark
  have absent : ',' ∉ Text.join [' '] words := by
    intro member
    rcases Text.mem_join member with space | ⟨word, among, inside⟩
    · contradiction
    · exact (each word among).2.2.1 inside
  rw [List.count_eq_zero.mpr absent] at count
  exact List.count_eq_zero.mp count

/-- The canonical spelling of a tag stays whole. -/
theorem tag_canonical {value : Text} (member : tag ∈ splitTags .standard value)
    (nonempty : tag ≠ [])
    (found : (Vocabulary.ofConfig config).canonical .tag tag = some c) :
    c ≠ [] ∧ ',' ∉ c ∧ tagsOfPiece .standard c = [c] := by
  obtain ⟨same, trimmed⟩ := Vocabulary.canonical_spelling (by decide) found
  have comma := comma_not_mem_canonical member found
  obtain ⟨words, rfl, each⟩ := exists_words_of_mem_splitTags member
  have some : words ≠ [] := by
    rintro rfl
    contradiction
  have lowers : Lowers (Text.join [' '] words) (Vocabulary.lookupKey c) := by
    rw [same, Vocabulary.lookupKey,
      Text.trim_join fun word here => ⟨(each word here).1, (each word here).2.1⟩]
    exact lowers_lower _
  have lowers' : Lowers c (Vocabulary.lookupKey c) := by
    rw [Vocabulary.lookupKey, trimmed]
    exact lowers_lower c
  obtain ⟨nonempty, whole⟩ := tagsOfPiece_of_lowers some
    (fun word here => ⟨(each word here).1, (each word here).2.1, (each word here).2.2.2⟩)
    lowers lowers'
  exact ⟨nonempty, comma, whole⟩

variable {checker : Checker} {value : Text} {tags canonicals : List Text} {mark : Char}

def checkTag (checker : Checker) (value tag : Text) : Except QueryError Text :=
  if tag.isEmpty then invalid .faceTag value .emptyTag else checker.lookup .faceTag .tag tag

theorem checkTag_eq_ok_iff : checker.checkTag value tag = .ok c ↔
    tag ≠ [] ∧ checker.canonical .tag tag = some c := by
  unfold checkTag lookup invalid
  by_cases empty : tag = []
  · simp [empty]
  · cases found : checker.canonical .tag tag <;> simp [empty]

theorem checkTags_eq_mapM (value : Text) (tags : List Text) :
    checker.checkTags value tags = tags.mapM (checker.checkTag value) := by
  induction tags with
  | nil => rfl
  | cons tag rest ih =>
    rw [checkTags, ih, List.mapM_cons, checkTag]
    split <;> rfl

theorem checkTags_eq_ok_iff : checker.checkTags value tags = .ok canonicals ↔
    tags.map (checker.checkTag value) = canonicals.map .ok := by
  rw [checkTags_eq_mapM, mapM_eq_ok_iff]

theorem checkTags_ne_nil (some : tags ≠ [])
    (checked : checker.checkTags value tags = .ok canonicals) : canonicals ≠ [] := by
  rintro rfl
  exact some (List.map_eq_nil_iff.mp (checkTags_eq_ok_iff.mp checked))

/-- A checked list of tags is checked to itself. -/
theorem checkTags_checked
    (checked : (standard config).checkTags value
      (splitTags .standard value) = .ok canonicals) :
    (standard config).checkTags (Text.join [','] canonicals)
      (splitTags .standard (Text.join [','] canonicals)) = .ok canonicals := by
  have parts := checkTags_eq_ok_iff.mp checked
  have each : ∀ c ∈ canonicals, ∃ tag ∈ splitTags .standard value, tag ≠ [] ∧
      (Vocabulary.ofConfig config).canonical .tag tag = some c := by
    intro c member
    obtain ⟨tag, among, found⟩ := List.mem_map.mp (parts ▸ List.mem_map_of_mem member)
    obtain ⟨nonempty, found⟩ := checkTag_eq_ok_iff.mp found
    exact ⟨tag, among, nonempty, found⟩
  have nonempty : canonicals ≠ [] := by
    rintro rfl
    exact splitTags_ne_nil _ _ (List.map_eq_nil_iff.mp parts)
  have whole : splitTags .standard (Text.join [','] canonicals) = canonicals := by
    apply splitTags_join nonempty
    intro c member
    obtain ⟨tag, among, nonempty, found⟩ := each c member
    exact (tag_canonical among nonempty found).2
  rw [whole, checkTags_eq_ok_iff]
  apply List.map_congr_left
  intro c member
  obtain ⟨tag, among, nonempty, found⟩ := each c member
  refine checkTag_eq_ok_iff.mpr ⟨(tag_canonical among nonempty found).1, ?_⟩
  exact Vocabulary.canonical_canonical (by decide) found

/-! Marks of tags. -/

theorem count_flatten_flatMap {split : Text → List Text} {parts : List Text}
    (each : ∀ part, (split part).flatten.count mark = part.count mark) :
    (parts.flatMap split).flatten.count mark = parts.flatten.count mark := by
  induction parts with
  | nil => rfl
  | cons part rest ih =>
    rw [List.flatMap_cons, List.flatten_append, List.count_append, ih, each, ← List.count_append,
      List.flatten_cons]

theorem count_words (isMark : IsMark mark) (piece : Text) :
    (Text.words piece).flatten.count mark = piece.count mark := by
  rw [Text.words, List.flatten_filter_not_isEmpty, Text.count_flatten_pieces isMark.solid]

theorem not_mem_of_isAnd (isMark : IsMark mark) {word : Text}
    (spelled : Keywords.standard.isAnd word = true) : mark ∉ word := by
  intro member
  have letters : word.foldAscii = "and".toList := beq_iff_eq.mp spelled
  have inside : mark.toLower ∈ "and".toList := letters ▸ List.mem_map_of_mem member
  rw [(Casing.toLower_eq_iff isMark.isAlpha).mpr rfl] at inside
  have letter : mark.isAlpha = true := List.all_eq_true.mp (by decide) mark inside
  rw [isMark.isAlpha] at letter
  contradiction

theorem count_flatten_filter {keep : Text → Bool} {parts : List Text}
    (dropped : ∀ part, keep part = false → mark ∉ part) :
    (parts.filter keep).flatten.count mark = parts.flatten.count mark := by
  induction parts with
  | nil => rfl
  | cons part rest ih =>
    cases kept : keep part with
    | true => simp [kept, ih]
    | false => simp [kept, ih, List.count_eq_zero.mpr (dropped part kept)]

theorem count_tagsOfPiece (isMark : IsMark mark) (piece : Text) :
    (tagsOfPiece .standard piece).flatten.count mark = piece.count mark := by
  have space : mark ∉ [' '] := by
    intro member
    obtain rfl := List.mem_singleton.mp member
    exact absurd isMark.solid (by decide)
  have joined (groups : List (List Text)) :
      (groups.map (Text.join [' '])).flatten.count mark = groups.flatten.flatten.count mark := by
    induction groups with
    | nil => rfl
    | cons group rest ih =>
      simp [Text.count_join space, ih]
  rw [tagsOfPiece, joined, flatten_pieces, count_flatten_filter, count_words isMark]
  intro word dropped
  exact not_mem_of_isAnd isMark (by simpa using dropped)

theorem count_splitTags (isMark : IsMark mark) (other : mark ≠ ',') (value : Text) :
    (splitTags .standard value).flatten.count mark = value.count mark := by
  rw [splitTags_eq_flatMap, count_flatten_flatMap (count_tagsOfPiece isMark),
    Text.count_flatten_pieces (p := (· == ',')) (beq_eq_false_iff_ne.mpr other)]

theorem count_checkTags (isMark : IsMark mark) (other : mark ≠ ',')
    (checked : (standard config).checkTags value
      (splitTags .standard value) = .ok canonicals) :
    (Text.join [','] canonicals).count mark = value.count mark := by
  have parts := checkTags_eq_ok_iff.mp checked
  rw [Text.count_join (by simpa using other), ← count_splitTags isMark other value]
  generalize splitTags .standard value = tags at parts
  clear checked
  induction tags generalizing canonicals with
  | nil =>
    obtain rfl := List.map_eq_nil_iff.mp parts.symm
    rfl
  | cons tag rest ih =>
    obtain ⟨first, following, rfl, same, parts⟩ := List.map_eq_cons_iff.mp parts.symm
    obtain ⟨-, found⟩ := checkTag_eq_ok_iff.mp same.symm
    rw [List.flatten_cons, List.flatten_cons, List.count_append, List.count_append,
      ih parts.symm, Vocabulary.count_canonical (by decide) found isMark]

/-! Values of all keys. -/

theorem eq_of_freeText {key : Key} {v : Value} (checked : freeText key value = .ok v) :
    v = .text value := by
  unfold freeText at checked
  split at checked
  · contradiction
  · exact (Except.ok.inj checked).symm

theorem of_wholeNumber {key : Key} {n : Nat} (checked : wholeNumber key value = .ok n) :
    n < wordLimit ∧ ∀ c ∈ value, c.isDigit = true := by
  unfold wholeNumber at checked
  split at checked
  · contradiction
  · next digits =>
    split at checked
    · next small =>
      obtain rfl := Except.ok.inj checked
      simp only [Bool.or_eq_true, Bool.not_eq_true', not_or, Bool.not_eq_true,
        Bool.not_eq_false] at digits
      exact ⟨small, List.all_eq_true.mp digits.2⟩
    · contradiction

theorem wholeNumber_ofNat {key : Key} {n : Nat} (small : n < wordLimit) :
    wholeNumber key (Text.ofNat n) = .ok n := by
  have nonempty : Text.ofNat n ≠ [] := Nat.toDigits_ne_nil
  have digits : (Text.ofNat n).all Char.isDigit = true :=
    List.all_eq_true.mpr fun c member => Wire.isDigit_of_mem_ofNat member
  have number : (Text.ofNat n).number = n := Nat.ofDigitChars_ten_toDigits
  simp [wholeNumber, nonempty, digits, number, small]

theorem lookup_eq_ok_iff (key : Key) {category : Category} :
    checker.lookup key category value = .ok c ↔ checker.canonical category value = some c := by
  unfold lookup invalid
  cases checker.canonical category value <;> simp

variable {key : Key} {v : Value}

theorem count_of_isDigit {t : Text} (isMark : IsMark mark)
    (digits : ∀ c ∈ t, c.isDigit = true) : t.count mark = 0 := by
  apply List.count_eq_zero.mpr
  intro member
  have digit := digits mark member
  rw [isMark.isDigit] at digit
  contradiction

theorem count_wholeNumber {n : Nat} (isMark : IsMark mark)
    (checked : wholeNumber key value = .ok n) :
    (Text.ofNat n).count mark = value.count mark := by
  rw [count_of_isDigit isMark (of_wholeNumber checked).2,
    count_of_isDigit isMark fun c member => Wire.isDigit_of_mem_ofNat member]

theorem exists_of_checkValue_faceCount (checked : checker.checkValue .faceCount value = .ok v) :
    ∃ n, wholeNumber .faceCount value = .ok n ∧ n ≠ 0 ∧ v = .count n := by
  obtain ⟨n, found, made⟩ := exists_of_bind_ok checked
  split at made
  · contradiction
  · next positive => exact ⟨n, found, positive, (Except.ok.inj made).symm⟩

/-- A name that was found is checked to itself. -/
theorem member_checked (category : Category) (other : category ≠ .channel)
    (checked : (do return Value.member (← (standard config).lookup key
      category value)) = Except.ok v) :
    (do return Value.member (← (standard config).lookup key
      category v.plain)) = Except.ok v ∧
    ∀ mark, IsMark mark → v.plain.count mark = value.count mark := by
  obtain ⟨c, found, rfl⟩ := exists_of_return_ok checked
  have found := (lookup_eq_ok_iff _).mp found
  have again : (standard config).lookup key category c = .ok c :=
    (lookup_eq_ok_iff _).mpr (Vocabulary.canonical_canonical other found)
  refine ⟨?_, fun _ isMark => Vocabulary.count_canonical other found isMark⟩
  rw [Value.plain, again]
  rfl

/-- Apart from channels, a checked value is checked to itself and has the marks of its text. -/
theorem checkValue_checked (other : key ≠ .channel)
    (checked : (standard config).checkValue key value = .ok v) :
    (standard config).checkValue key v.plain = .ok v ∧
    ∀ mark, IsMark mark → mark ≠ ',' → v.plain.count mark = value.count mark := by
  cases key with
  | channel => contradiction
  | text =>
    have same : v = .text value := by
      rw [checkValue] at checked
      split at checked
      · contradiction
      · exact eq_of_freeText checked
    subst same
    exact ⟨checked, fun _ _ _ => rfl⟩
  | hour | dayOfWeek | video =>
    obtain rfl := eq_of_freeText checked
    exact ⟨checked, fun _ _ _ => rfl⟩
  | faceName =>
    obtain ⟨again, marks⟩ := member_checked .person (by decide) checked
    exact ⟨again, fun mark isMark _ => marks mark isMark⟩
  | program =>
    obtain ⟨again, marks⟩ := member_checked .program (by decide) checked
    exact ⟨again, fun mark isMark _ => marks mark isMark⟩
  | faceTag =>
    obtain ⟨tags, found, rfl⟩ := exists_of_return_ok checked
    refine ⟨?_, fun _ isMark comma => count_checkTags isMark comma found⟩
    have again := checkTags_checked found
    exact congrArg (fun tags => tags >>= fun tags => pure (Value.tags tags)) again
  | textWindow =>
    obtain ⟨n, found, rfl⟩ := exists_of_return_ok checked
    have small := (of_wholeNumber found).1
    constructor
    · rw [checkValue, Value.plain, wholeNumber_ofNat small]
      rfl
    · intro _ isMark _
      exact count_wholeNumber isMark found
  | faceCount =>
    obtain ⟨n, found, positive, rfl⟩ := exists_of_checkValue_faceCount checked
    have small := (of_wholeNumber found).1
    constructor
    · rw [checkValue, Value.plain, wholeNumber_ofNat small]
      simp [bind, Except.bind, positive, pure, Except.pure]
    · intro _ isMark _
      exact count_wholeNumber isMark found

/-! Leaves. -/

theorem eq_name_of_ofName? {name : Text} (found : Key.ofName? name = some key) :
    name = key.name.toList := by
  have same := List.find?_some found
  exact (beq_iff_eq.mp same).symm

theorem checkLeaf_eq_ok_iff {name : Text} {l : Leaf} :
    checker.checkLeaf name value = .ok l ↔
      name = l.key.name.toList ∧ checker.checkValue l.key value = .ok l.value := by
  constructor
  · intro checked
    unfold checkLeaf at checked
    split at checked
    · contradiction
    · next key found =>
      obtain ⟨v, inner, rfl⟩ := exists_of_return_ok checked
      exact ⟨eq_name_of_ofName? found, inner⟩
  · rintro ⟨rfl, inner⟩
    simp [checkLeaf, Key.ofName?_name, inner, bind, Except.bind, pure, Except.pure]

/-- Apart from channels, checking a leaf again by the plain text of its value gives the leaf. -/
theorem checkLeaf_plain {name : Text} {l : Leaf} (other : name ≠ "channel".toList)
    (checked : (standard config).checkLeaf name value = .ok l) :
    (standard config).checkLeaf name l.value.plain = .ok l := by
  obtain ⟨same, inner⟩ := checkLeaf_eq_ok_iff.mp checked
  have other : l.key ≠ .channel := by
    intro channel
    rw [same, channel] at other
    exact other rfl
  exact checkLeaf_eq_ok_iff.mpr ⟨same, (checkValue_checked other inner).1⟩

/-- Of two configured tags that differ in case the later one is stored. -/
theorem checkLeaf_plain_tags :
    let checker := standard { Config.standard with
      tags := ["MALE".toList, "White House ".toList, "Male".toList] }
    let leaf := ⟨.faceTag, .tags ["Male".toList, "White House".toList]⟩
    "face_tag".toList ≠ "channel".toList ∧
    checker.checkLeaf "face_tag".toList " male  And white\t HOUSE".toList = .ok leaf ∧
    checker.checkLeaf "face_tag".toList "Male,White House".toList = .ok leaf := by
  intro checker leaf
  have other : "face_tag".toList ≠ "channel".toList := by decide
  have checked :
      checker.checkLeaf "face_tag".toList " male  And white\t HOUSE".toList = .ok leaf := by
    rfl
  exact ⟨other, checked, checkLeaf_plain other checked⟩

/-- A channel is checked to itself if it is canonical. -/
theorem checkValue_channel_iff :
    checker.checkValue .channel c = .ok (.member c) ↔ checker.canonical .channel c = some c := by
  rw [← lookup_eq_ok_iff .channel, checkValue]
  cases checker.lookup .channel .channel c <;> simp [bind, Except.bind, pure, Except.pure]

theorem exists_of_checkValue_channel (checked : checker.checkValue .channel value = .ok v) :
    ∃ c, v = .member c ∧ checker.canonical .channel value = some c := by
  obtain ⟨c, found, made⟩ := exists_of_return_ok checked
  exact ⟨c, made, (lookup_eq_ok_iff _).mp found⟩

/-- A checked leaf is checked to itself, unless it is a channel that is not its own canonical
spelling. -/
theorem checkLeaf_checked_iff {name : Text} {l : Leaf}
    (checked : (standard config).checkLeaf name value = .ok l) :
    (standard config).checkLeaf l.key.name.toList l.value.plain = .ok l ↔
      (l.key = .channel → (Vocabulary.ofConfig config).canonical .channel l.value.plain =
        some l.value.plain) := by
  obtain ⟨key, v⟩ := l
  obtain ⟨-, inner⟩ := checkLeaf_eq_ok_iff.mp checked
  rw [checkLeaf_eq_ok_iff]
  by_cases channel : key = .channel
  · subst channel
    obtain ⟨c, rfl, -⟩ := exists_of_checkValue_channel inner
    simp only [Value.plain, checkValue_channel_iff, true_and, true_implies]
    rfl
  · simp only [channel, false_implies, iff_true, true_and]
    exact (checkValue_checked channel inner).1

end Checker
end BroadcastQuery
