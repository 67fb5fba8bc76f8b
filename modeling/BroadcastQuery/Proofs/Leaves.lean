import BroadcastQuery.Query
import BroadcastQuery.Proofs.Moving
import BroadcastQuery.Proofs.Spread

/-!
Where the leaves of a query stand in its source: one after another, each over the tokens of its key,
sign and value. Such a slice is a query in its own right, of that leaf alone.
-/
namespace BroadcastQuery

theorem Reading.exists_of_move {α β : Type} {f : α → β} {n : Nat} {reading : Reading α} {value : β}
    (moved : reading.move f n = ⟨.ok value, []⟩) :
    ∃ own, reading = ⟨.ok own, []⟩ ∧ f own = value := by
  obtain ⟨answer, rest⟩ := reading
  obtain ⟨answers, rests⟩ := Reading.mk.inj moved
  obtain rfl := List.map_eq_nil_iff.mp rests
  cases answer with
  | error error => contradiction
  | ok own => exact ⟨own, rfl, Except.ok.inj answers⟩

namespace Draft

/-- A leaf as it is written, with its place. -/
structure Entry where
  key : Text
  value : Text
  span : Span
deriving DecidableEq, Repr

mutual

def entries : Draft → List Entry
  | .leaf key value span => [⟨key, value, span⟩]
  | .chain items => entriesIn items

def entriesIn : List (Draft ⊕ Connective) → List Entry
  | [] => []
  | .inl child :: rest => child.entries ++ entriesIn rest
  | .inr _ :: rest => entriesIn rest

end

/-- Only a leaf moves to a leaf. -/
theorem eq_leaf_of_move {n width : Nat} {draft : Draft} {key value : Text}
    (moved : draft.move n = .leaf key value ⟨n, n + width⟩) :
    draft = .leaf key value ⟨0, width⟩ := by
  cases draft with
  | chain items => contradiction
  | leaf own text span =>
    obtain ⟨rfl, rfl, spans⟩ := Draft.leaf.inj moved
    obtain ⟨start, stop⟩ := Span.mk.inj spans
    obtain ⟨spanStart, spanStop⟩ := span
    simp only at start stop
    obtain rfl : spanStart = 0 := by omega
    obtain rfl : spanStop = width := by omega
    rfl

end Draft

/-- The leaves of a query, those of the main tree before those of the secondary one. -/
def DraftQuery.entries (query : DraftQuery) : List Draft.Entry :=
  (Checker.trees query).flatMap Draft.entries

namespace Grammar

def entry (key : Token) (name : Text) (value : Written) : Draft.Entry :=
  ⟨name, value.text spelled, ⟨key.start, value.stop⟩⟩

/-- Leaves over some tokens, in their order; other tokens stand between them. -/
inductive Along : List Draft.Entry → List Token → Prop
  | nil : Along [] []
  | other {entries : List Draft.Entry} {tokens : List Token} (token : Token)
      (others : Along entries tokens) : Along entries (token :: tokens)
  | pair {key sign : Token} {name : Text} {value : Written} {entries : List Draft.Entry}
      {tokens : List Token} (valid : (Item.pair key name sign value).Valid)
      (others : Along entries tokens) :
      Along (entry key name value :: entries) ((Item.pair key name sign value).tokens ++ tokens)

namespace Along

variable {entries entries' : List Draft.Entry} {tokens tokens' : List Token}

theorem append (first : Along entries tokens) (second : Along entries' tokens') :
    Along (entries ++ entries') (tokens ++ tokens') := by
  induction first with
  | nil => exact second
  | other token _ ih => exact .other token ih
  | pair valid _ ih =>
    rw [List.append_assoc]
    exact .pair valid ih

theorem append_other (along : Along entries tokens) (token : Token) :
    Along entries (tokens ++ [token]) := by
  have whole := along.append (.other token .nil)
  rwa [List.append_nil] at whole

/-- Each of the leaves has the tokens of a pair. -/
theorem exists_of_mem (along : Along entries tokens) {e : Draft.Entry} (member : e ∈ entries) :
    ∃ before after key name sign value, (Item.pair key name sign value).Valid ∧
      tokens = before ++ ((Item.pair key name sign value).tokens ++ after) ∧
      e = entry key name value := by
  induction along with
  | nil => contradiction
  | other token _ ih =>
    obtain ⟨before, after, key, name, sign, value, valid, rfl, same⟩ := ih member
    exact ⟨token :: before, after, key, name, sign, value, valid, rfl, same⟩
  | @pair key sign name value _ _ valid _ ih =>
    rcases List.mem_cons.mp member with same | member
    · exact ⟨[], _, key, name, sign, value, valid, rfl, same⟩
    · obtain ⟨before, after, key', name', sign', value', valid', rfl, same⟩ := ih member
      exact ⟨_, after, key', name', sign', value', valid', (List.append_assoc _ _ _).symm, same⟩

end Along

theorem entries_draft (level : Level) :
    (level.draft spelled).entries = Draft.entriesIn (level.chain spelled) := by
  cases level with
  | last item => exact (List.append_nil _).symm
  | more item connective joint rest => rfl

mutual

theorem Item.along (item : Item) (valid : item.Valid) :
    Along (item.draft spelled).entries item.tokens := by
  match item with
  | .pair key name sign value =>
    have whole := Along.pair valid .nil
    rwa [List.append_nil] at whole
  | .group opening level closing =>
    obtain ⟨-, ⟨connective, inner⟩, -⟩ := valid
    rw [Item.draft, entries_draft]
    exact .other opening ((level.along inner).append_other closing)

theorem Level.along (level : Level) {connective : Connective} (valid : level.Valid connective) :
    Along (Draft.entriesIn (level.chain spelled)) level.tokens := by
  match level with
  | .last item =>
    rw [← entries_draft]
    exact item.along valid
  | .more item own joint rest =>
    obtain ⟨first, -, -, others⟩ := valid
    exact (item.along first).append (.other joint (rest.along others))

end

theorem along_levelTokens {level : Option Level} (valid : LevelValid level) :
    Along ((level.map (Level.draft spelled)).toList.flatMap Draft.entries) (levelTokens level) := by
  cases level with
  | none => exact .nil
  | some present =>
    obtain ⟨connective, inner⟩ := valid present rfl
    have along := present.along inner
    rw [← entries_draft] at along
    simpa [levelTokens] using along

/-- The leaves of a query stand along its tokens. -/
theorem Derivation.along {derivation : Derivation} (valid : derivation.Valid) :
    Along (derivation.draft spelled).entries derivation.tokens := by
  obtain ⟨label, main, secondary⟩ := derivation
  have second : Along (((secondary.map fun secondary =>
      (secondary.2.1, secondary.2.2.map (Level.draft spelled))).bind Prod.snd).toList.flatMap
        Draft.entries) (secondaryTokens secondary) := by
    cases secondary with
    | none => exact .nil
    | some present => exact .other present.1 (along_levelTokens (valid.secondary present rfl).2)
  have trees := (along_levelTokens valid.main).append second
  rw [← List.flatMap_append] at trees
  cases label with
  | none => exact trees
  | some label => exact .other label.1 trees

/-! Places. -/

variable {start : Nat} {key sign : Token} {name : Text} {value : Written}
  {entries : List Draft.Entry} {tokens after : List Token}

theorem stop_getLast_pair (key sign : Token) (value : Written) :
    ((key :: sign :: value.tokens).getLast (List.cons_ne_nil _ _)).stop = value.stop := by
  cases value with
  | quoted token text => rfl
  | bare first more => simp [Written.stop, Written.tokens]

/-- The characters of a pair, from its key on. -/
def pairText (key sign : Token) (value : Written) : Text :=
  key.lexeme ++ Token.spell (sign :: value.tokens)

theorem stop_pair (laid : Token.LaidOut start ((Item.pair key name sign value).tokens ++ after)) :
    value.stop = key.start + (pairText key sign value).width := by
  obtain ⟨-, following⟩ := laid
  rw [← stop_getLast_pair key sign, Token.LaidOut.stop_getLast following, Token.stop, pairText,
    Text.width_append, Nat.add_assoc]

/-- Leaves along tokens that start at some byte stand behind it, and one behind the other. -/
theorem Along.apart (along : Along entries tokens) (laid : Token.LaidOut start tokens) :
    (∀ e ∈ entries, start ≤ e.span.start) ∧
      entries.Pairwise fun e e' => e.span.stop ≤ e'.span.start := by
  induction along generalizing start with
  | nil => exact ⟨by simp, .nil⟩
  | other token _ ih =>
    obtain ⟨here, following⟩ := laid
    obtain ⟨behind, apart⟩ := ih following
    refine ⟨fun e member => ?_, apart⟩
    have later := behind e member
    simp only [Token.stop] at later
    omega
  | @pair key sign name value _ _ valid _ ih =>
    have stop := stop_pair laid
    have here : key.start = start + key.gap.width := laid.1
    have whole : start + (Token.spell (Item.pair key name sign value).tokens).width =
        value.stop := by
      rw [stop, here]
      simp [Item.tokens, pairText, Nat.add_assoc]
    obtain ⟨behind, apart⟩ := ih (whole ▸ laid.append_right)
    refine ⟨List.forall_mem_cons.mpr ⟨by simp only [entry]; omega, fun e member => ?_⟩,
      List.pairwise_cons.mpr ⟨behind, apart⟩⟩
    have later := behind e member
    omega

/-! Slices. -/

variable {keywords : Keywords} {source s : Text} {n : Nat} {before : List Token}

/-- A text whose tokens are those of a level in another place is a query of that level alone. -/
theorem exists_parse_of_moved {level : Level} {connective : Connective}
    (valid : level.Valid connective)
    (tokens : (Token.scan keywords s).map (Token.move n) = level.tokens) :
    ∃ draft, DraftQuery.parse keywords s = .ok ⟨none, some draft, none⟩ ∧
      draft.move n = level.draft spelled := by
  have present : LevelValid (some level) := by
    rintro level ⟨⟩
    exact ⟨connective, valid⟩
  have read : Draft.read? (s.width + n) (levelTokens (some level) ++ []) =
      ⟨.ok (some (level.draft spelled)), []⟩ := read?_levelTokens present modifierOrEnd_nil
  rw [List.append_nil, levelTokens, Option.map_some, Option.getD_some, ← tokens,
    Draft.read?_move] at read
  obtain ⟨found, here, moved⟩ := Reading.exists_of_move read
  obtain ⟨draft, rfl, same⟩ := Option.map_eq_some_iff.mp moved
  have unlabelled : DraftQuery.label? (Token.scan keywords s) =
      ⟨.ok none, Token.scan keywords s⟩ := by
    obtain ⟨first, rest, shape, opens⟩ := Level.exists_first valid
    obtain ⟨own, others, scanned, rfl, -⟩ := List.map_eq_cons_iff.mp (tokens.trans shape)
    apply label?_of_head_cases
    rw [scanned]
    rintro token ⟨⟩
    exact .inl opens
  refine ⟨draft, ?_, same⟩
  rw [DraftQuery.parse, DraftQuery.read_eq_afterLabel, unlabelled]
  simp [Reading.andThen, DraftQuery.afterLabel, here, DraftQuery.complete]

/-- The slice of a source at a pair is a query of that pair alone. -/
theorem exists_part (valid : (Item.pair key name sign value).Valid)
    (tokens : Token.scan keywords source =
      before ++ ((Item.pair key name sign value).tokens ++ after)) :
    (entry key name value).span.start < (entry key name value).span.stop ∧
    ∃ part, source.slice? (entry key name value).span = some part ∧
      ((∀ c ∈ name.head?, c ≠ '[') → DraftQuery.parse keywords part =
        .ok ⟨none, some (.leaf name (value.text spelled) ⟨0, part.width⟩), none⟩) := by
  have inside : Token.scan keywords source =
      before ++ (key :: (sign :: value.tokens) ++ after) := tokens
  have slice := Token.slice?_scan inside
  rw [stop_getLast_pair] at slice
  have laid := Token.laidOut_scanFrom keywords true 0 source
  rw [← Token.scan, tokens] at laid
  have stop := stop_pair laid.append_right
  have member : key ∈ Token.scan keywords source := by
    rw [inside]
    simp
  obtain ⟨-, spells⟩ := Token.spelled_of_mem_scanFrom key member
  rw [valid.1] at spells
  obtain ⟨lexeme, c, rest, shape, -⟩ := spells
  refine ⟨?_, pairText key sign value, slice, fun other => ?_⟩
  · have positive := c.utf8Size_pos
    have width : (pairText key sign value).width =
        c.utf8Size + Text.width (rest ++ Token.spell (sign :: value.tokens)) := by
      rw [pairText, lexeme, shape]
      rfl
    simp only [entry]
    omega
  · rw [← lexeme] at other
    -- The key comes first in the slice, so the blanks before it are gone.
    have level : (Level.last (.pair { key with gap := [] } name sign value)).Valid .and := valid
    have scanned : (Token.scan keywords (pairText key sign value)).map (Token.move key.start) =
        (Level.last (.pair { key with gap := [] } name sign value)).tokens := by
      rw [Token.scan, ← Token.scanFrom_move, Nat.zero_add]
      exact Token.scanFrom_cut_out inside other
    obtain ⟨draft, parsed, moved⟩ := exists_parse_of_moved level scanned
    have leaf : draft.move key.start = .leaf name (value.text spelled)
        ⟨key.start, key.start + (pairText key sign value).width⟩ := by
      rw [moved, ← stop]
      rfl
    rw [parsed, Draft.eq_leaf_of_move leaf]

end Grammar

/-- The leaves of a query have places in the source that follow each other without overlap, and the
slice at each of them, unless its key starts with a bracket, is a query of that leaf alone. -/
theorem DraftQuery.leaves_located {keywords : Keywords} {source : Text} {query : DraftQuery}
    (parsed : parse keywords source = .ok query) :
    (query.entries.Pairwise fun e e' => e.span.stop ≤ e'.span.start) ∧
    ∀ e ∈ query.entries, e.span.start < e.span.stop ∧
      ∃ part, source.slice? e.span = some part ∧
        ((∀ c ∈ e.key.head?, c ≠ '[') → parse keywords part =
          .ok ⟨none, some (.leaf e.key e.value ⟨0, part.width⟩), none⟩) := by
  obtain ⟨derivation, valid, tokens, rfl⟩ := Grammar.exists_derivation_of_read parsed
  have along := Grammar.Derivation.along valid
  have laid := Token.laidOut_scanFrom keywords true 0 source
  rw [← Token.scan, ← tokens] at laid
  refine ⟨(along.apart laid).2, fun e member => ?_⟩
  obtain ⟨before, after, key, name, sign, value, pair, shape, rfl⟩ := along.exists_of_mem member
  exact Grammar.exists_part pair (tokens.symm.trans shape)

/-- An open quotation mark within a value, a key with a bracket and a quoted parenthesis. -/
theorem DraftQuery.leaves_located_marks :
    parse .standard "[l] (x= rock 'n =y or [z = \"a)\") subtract é=1".toList =
      .ok ⟨some "l".toList,
        some (.chain [.inl (.leaf "x".toList "rock 'n =y".toList ⟨5, 18⟩), .inr .or,
          .inl (.leaf "[z".toList "a)".toList ⟨22, 31⟩)]),
        some (.subtract, some (.leaf "é".toList "1".toList ⟨42, 46⟩))⟩ ∧
    ([⟨"x".toList, "rock 'n =y".toList, ⟨5, 18⟩⟩, ⟨"[z".toList, "a)".toList, ⟨22, 31⟩⟩,
      ⟨"é".toList, "1".toList, ⟨42, 46⟩⟩] : List Draft.Entry).Pairwise
        (fun e e' => e.span.stop ≤ e'.span.start) ∧
    ∃ part, Text.slice? "[l] (x= rock 'n =y or [z = \"a)\") subtract é=1".toList ⟨5, 18⟩ =
        some part ∧
      parse .standard part =
        .ok ⟨none, some (.leaf "x".toList "rock 'n =y".toList ⟨0, part.width⟩), none⟩ := by
  have parsed : parse .standard "[l] (x= rock 'n =y or [z = \"a)\") subtract é=1".toList =
      .ok ⟨some "l".toList,
        some (.chain [.inl (.leaf "x".toList "rock 'n =y".toList ⟨5, 18⟩), .inr .or,
          .inl (.leaf "[z".toList "a)".toList ⟨22, 31⟩)]),
        some (.subtract, some (.leaf "é".toList "1".toList ⟨42, 46⟩))⟩ := by
    cbv
  obtain ⟨apart, each⟩ := leaves_located parsed
  obtain ⟨-, part, slice, alone⟩ := each ⟨"x".toList, "rock 'n =y".toList, ⟨5, 18⟩⟩
    List.mem_cons_self
  exact ⟨parsed, apart, part, slice, alone (by rintro c ⟨⟩; decide)⟩

end BroadcastQuery
