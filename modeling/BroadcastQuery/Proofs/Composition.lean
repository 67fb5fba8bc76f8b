import Mathlib
import BroadcastQuery.Proofs.Display
import BroadcastQuery.Proofs.Embedding

/-!
Queries compose. A derivation of the tokens of a query is also one of the same tokens in another
place, so two queries in parentheses with a connective between them are read as a chain of what
they are read as alone.
-/
namespace BroadcastQuery

/-- A change of tokens that shows in no reading but for places. -/
structure Token.SameReading (f : Token → Token) : Prop where
  kind : ∀ token, (f token).kind = token.kind
  gap : ∀ token, (f token).gap = token.gap
  lexeme : ∀ token, token.continuesValue = true → (f token).lexeme = token.lexeme

theorem Token.sameReading_move (n : Nat) : Token.SameReading (Token.move n) where
  kind _ := rfl
  gap _ := rfl
  lexeme _ _ := rfl

namespace Grammar

variable {f : Token → Token}

/-! Derivations with other tokens in the place of their own. -/

def Written.map (f : Token → Token) : Written → Written
  | quoted token text => quoted (f token) text
  | bare first more => bare (f first) (more.map f)

mutual

def Item.map (f : Token → Token) : Item → Item
  | .pair key name sign value => .pair (f key) name (f sign) (value.map f)
  | .group opening level closing => .group (f opening) (level.map f) (f closing)

def Level.map (f : Token → Token) : Level → Level
  | .last item => .last (item.map f)
  | .more item connective joint rest => .more (item.map f) connective (f joint) (rest.map f)

end

theorem Written.tokens_map (f : Token → Token) (value : Written) :
    (value.map f).tokens = value.tokens.map f := by
  cases value <;> rfl

mutual

theorem Item.tokens_map (f : Token → Token) (item : Item) :
    (item.map f).tokens = item.tokens.map f := by
  match item with
  | .pair key name sign value => simp [Item.map, Item.tokens, Written.tokens_map]
  | .group opening level closing => simp [Item.map, Item.tokens, level.tokens_map f]

theorem Level.tokens_map (f : Token → Token) (level : Level) :
    (level.map f).tokens = level.tokens.map f := by
  match level with
  | .last item => exact item.tokens_map f
  | .more item connective joint rest =>
    simp [Level.map, Level.tokens, item.tokens_map f, rest.tokens_map f]

end

theorem Written.valid_map (same : Token.SameReading f) {value : Written} (valid : value.Valid) :
    (value.map f).Valid := by
  cases value with
  | quoted token text => exact (same.kind token).trans valid
  | bare first more =>
    constructor
    · rw [same.kind]
      exact valid.1
    · intro token member
      obtain ⟨old, inside, rfl⟩ := List.mem_map.mp member
      rw [same.kind]
      exact valid.2 old inside

mutual

theorem Item.valid_map (same : Token.SameReading f) (item : Item) (valid : item.Valid) :
    (item.map f).Valid := by
  match item with
  | .pair key name sign value =>
    obtain ⟨word, equals, written⟩ := valid
    exact ⟨(same.kind key).trans word, (same.kind sign).trans equals,
      Written.valid_map same written⟩
  | .group opening level closing =>
    obtain ⟨left, ⟨connective, inner⟩, right⟩ := valid
    exact ⟨(same.kind opening).trans left, ⟨connective, level.valid_map same inner⟩,
      (same.kind closing).trans right⟩

theorem Level.valid_map (same : Token.SameReading f) (level : Level) {connective : Connective}
    (valid : level.Valid connective) : (level.map f).Valid connective := by
  match level with
  | .last item => exact item.valid_map same valid
  | .more item own joint rest =>
    obtain ⟨first, own, kind, others⟩ := valid
    exact ⟨item.valid_map same first, own, (same.kind joint).trans kind,
      rest.valid_map same others⟩

end

theorem spell_map (same : Token.SameReading f) {tokens : List Token}
    (goes : ∀ token ∈ tokens, token.continuesValue = true) :
    Token.spell (tokens.map f) = Token.spell tokens := by
  induction tokens with
  | nil => rfl
  | cons token rest ih =>
    rw [List.map_cons, Token.spell_cons, Token.spell_cons, same.gap,
      same.lexeme token (goes token List.mem_cons_self),
      ih fun other member => goes other (List.mem_cons_of_mem _ member)]

theorem StartsBare.continuesValue {token : Token} (starts : StartsBare token.kind) :
    token.continuesValue = true := by
  unfold StartsBare at starts
  split at starts
  case h_1 kind => simp [Token.continuesValue, kind]
  case h_2 kind => simp [Token.continuesValue, kind]
  case h_3 => exact starts.elim

theorem Written.text_map (same : Token.SameReading f) {value : Written} (valid : value.Valid) :
    (value.map f).text spelled = value.text spelled := by
  cases value with
  | quoted token text => rfl
  | bare first more =>
    obtain ⟨starts, goes⟩ := valid
    have others := spell_map same fun token member => extendsBare_iff.mp (goes token member)
    simp only [Written.map, Written.text, spelled, same.lexeme first starts.continuesValue, others]

mutual

theorem Item.erase_draft_map (same : Token.SameReading f) (item : Item) (valid : item.Valid) :
    ((item.map f).draft spelled).erase = (item.draft spelled).erase := by
  match item with
  | .pair key name sign value =>
    simp only [Item.map, Item.draft, Draft.erase, Written.text_map same valid.2.2]
  | .group opening level closing =>
    obtain ⟨-, ⟨connective, inner⟩, -⟩ := valid
    exact level.erase_draft_map same inner

theorem Level.erase_draft_map (same : Token.SameReading f) (level : Level)
    {connective : Connective} (valid : level.Valid connective) :
    ((level.map f).draft spelled).erase = (level.draft spelled).erase := by
  match level with
  | .last item => exact item.erase_draft_map same valid
  | .more item own joint rest =>
    obtain ⟨first, -, -, others⟩ := valid
    simp only [Level.map, Level.draft, Draft.erase, Draft.eraseItems,
      item.erase_draft_map same first, rest.erase_chain_map same others]

theorem Level.erase_chain_map (same : Token.SameReading f) (level : Level)
    {connective : Connective} (valid : level.Valid connective) :
    Draft.eraseItems ((level.map f).chain spelled) = Draft.eraseItems (level.chain spelled) := by
  match level with
  | .last item =>
    simp only [Level.map, Level.chain, Draft.eraseItems, item.erase_draft_map same valid]
  | .more item own joint rest =>
    obtain ⟨first, -, -, others⟩ := valid
    simp only [Level.map, Level.chain, Draft.eraseItems, item.erase_draft_map same first,
      rest.erase_chain_map same others]

end

/-! Queries in parentheses. -/

variable {keywords : Keywords} {s rest : Text} {a : Draft}

/-- No bracket stands at the start of a query of a tree alone. -/
theorem head_ne_bracket {level : Level} {connective : Connective} (valid : level.Valid connective)
    (tokens : level.tokens = Token.scan keywords s) :
    ∀ c ∈ (s.dropWhile isBlank).head?, c ≠ '[' := by
  rintro c head rfl
  obtain ⟨token, first, bracket⟩ := Token.kind_of_bracket keywords 0 head
  obtain ⟨own, rest, shape, opens⟩ := Level.exists_first valid
  rw [← Token.scan, ← tokens, shape] at first
  obtain rfl := Option.some.inj first
  rcases bracket with ⟨text, label⟩ | unclosed
  · rw [label] at opens
    exact opens
  · rw [unclosed] at opens
    exact opens

/-- Inside of a text, a query of a tree alone has the tokens of a level with that tree. -/
theorem exists_level_inside (parsed : DraftQuery.parse keywords s = .ok ⟨none, some a, none⟩)
    (start : Nat) : ∃ level : Level, (∃ connective, level.Valid connective) ∧
      (level.draft spelled).erase = a.erase ∧
      level.tokens = Token.scanFrom keywords false start s ∧
      level.tokens = (Token.scan keywords s).map (Token.move start) := by
  obtain ⟨level, ⟨connective, valid⟩, tokens, rfl⟩ := exists_level_of_parse parsed
  have same := Token.sameReading_move start
  -- Without a bracket at its start the text is scanned alike in any place, but further on.
  have moved : Token.scanFrom keywords false start s =
      (Token.scan keywords s).map (Token.move start) := by
    rw [Token.scanFrom_inside true (head_ne_bracket valid tokens), Token.scan,
      ← Token.scanFrom_move, Nat.zero_add]
  have inside : (level.map (Token.move start)).tokens =
      (Token.scan keywords s).map (Token.move start) := by
    rw [Level.tokens_map, tokens]
  exact ⟨level.map (Token.move start), ⟨connective, level.valid_map same valid⟩,
    level.erase_draft_map same valid, inside.trans moved.symm, inside⟩

/-- In parentheses, a query of a tree alone is scanned as an item with that tree, unless what
follows could close a quotation mark of the query. -/
theorem exists_item_parens (parsed : DraftQuery.parse keywords s = .ok ⟨none, some a, none⟩)
    (first : Bool) (start : Nat) (rest : Text)
    (quotes : (∃ token ∈ Token.scan keywords s, token.kind = .openQuote) → Unquoted rest)
    {gap : Text} (blank : ∀ c ∈ gap, isBlank c = true) :
    ∃ item : Item, item.Valid ∧ (item.draft spelled).erase = a.erase ∧
      Token.scanFrom keywords first start (gap ++ '(' :: (s ++ ')' :: rest)) =
        item.tokens ++ Token.scanFrom keywords false
          (start + gap.width + Text.width ('(' :: s ++ [')'])) rest := by
  obtain ⟨level, valid, same, tokens, moved⟩ :=
    exists_level_inside parsed (start + gap.width + Text.width ['('])
  have unclosed : (∃ token ∈ Token.scanFrom keywords false
      (start + gap.width + Text.width ['(']) s, token.kind = .openQuote) → Unquoted rest := by
    rw [← tokens, moved]
    rintro ⟨token, member, kind⟩
    obtain ⟨old, inside, rfl⟩ := List.mem_map.mp member
    exact quotes ⟨old, inside, kind⟩
  obtain ⟨closing, kind, scanned⟩ := Token.scanFrom_closed unclosed
  refine ⟨.group ⟨.leftParen, gap, ['('], start + gap.width⟩ level closing,
    ⟨rfl, valid, kind⟩, same, ?_⟩
  have width : start + gap.width + Text.width ('(' :: s ++ [')']) =
      start + gap.width + Text.width ['('] + s.width + Text.width [')'] := by
    simp [Nat.add_assoc]
  rw [Token.scanFrom_append_cons blank rfl]
  simp only [Token.cut_leftParen]
  rw [scanned, ← tokens, width]
  simp [Item.tokens]

end Grammar

/-- Two queries of a tree alone, in parentheses and with a connective between them, are the chain
of their trees, places aside. A quotation mark that the first leaves open could be closed by the
second. -/
theorem DraftQuery.parse_parens (connective : Connective) {s t : Text} {a b : Draft}
    (left : parse .standard s = .ok ⟨none, some a, none⟩)
    (right : parse .standard t = .ok ⟨none, some b, none⟩)
    (closed : ∀ token ∈ Token.scan .standard s, token.kind ≠ .openQuote) :
    ∃ a' b', parse .standard ("(".toList ++ s ++ ")".toList ++ connective.joiner ++
        "(".toList ++ t ++ ")".toList) =
      .ok ⟨none, some (.chain [.inl a', .inr connective, .inl b']), none⟩ ∧
      a'.erase = a.erase ∧ b'.erase = b.erase := by
  have nothing : ∀ c ∈ ([] : Text), isBlank c = true := by simp
  have blank : ∀ c ∈ [' '], isBlank c = true := by simp [isBlank]
  have noQuote : ¬∃ token ∈ Token.scan .standard s, token.kind = .openQuote := by
    rintro ⟨token, member, kind⟩
    exact closed token member kind
  obtain ⟨item, valid, same, scanned⟩ := Grammar.exists_item_parens left true 0
    (connective.joiner ++ '(' :: (t ++ [')'])) (fun quotes => absurd quotes noQuote) nothing
  obtain ⟨joint, stop, kind, -, joined⟩ := Grammar.exists_joint connective
    (0 + Text.width [] + Text.width ('(' :: s ++ [')'])) ('(' :: (t ++ [')']))
  obtain ⟨item', valid', same', scanned'⟩ := Grammar.exists_item_parens right false stop []
    (fun _ => by decide) blank
  have tokens : (Grammar.Level.more item connective joint (.last item')).tokens =
      Token.scan .standard ("(".toList ++ s ++ ")".toList ++ connective.joiner ++
        "(".toList ++ t ++ ")".toList) := by
    have whole : "(".toList ++ s ++ ")".toList ++ connective.joiner ++ "(".toList ++ t ++
        ")".toList = [] ++ '(' :: (s ++ ')' :: (connective.joiner ++ '(' :: (t ++ [')']))) := by
      simp
    rw [Token.scan, whole, scanned, joined, scanned']
    simp [Grammar.Level.tokens]
  have whole : (Grammar.Level.more item connective joint (.last item')).Valid connective :=
    ⟨valid, rfl, kind, valid'⟩
  exact ⟨_, _, Grammar.parse_of_level whole tokens, same, same'⟩

/-- A bracket and a quoted parenthesis in the first query, an open quotation mark in the second. -/
theorem DraftQuery.parse_parens_marks :
    ∃ a b, parse .standard "(x=\")\" and y=[1) OR (z=it's 'b)".toList =
        .ok ⟨none, some (.chain [.inl a, .inr .or, .inl b]), none⟩ ∧
      a.erase = .chain [.inl (.leaf "x".toList ")".toList ⟨0, 0⟩), .inr .and,
        .inl (.leaf "y".toList "[1".toList ⟨0, 0⟩)] ∧
      b.erase = .leaf "z".toList "it's 'b".toList ⟨0, 0⟩ := by
  have left : parse .standard "x=\")\" and y=[1".toList = .ok ⟨none, some (.chain
      [.inl (.leaf "x".toList ")".toList ⟨0, 5⟩), .inr .and,
        .inl (.leaf "y".toList "[1".toList ⟨10, 14⟩)]), none⟩ := by
    cbv
  have right : parse .standard "z=it's 'b".toList =
      .ok ⟨none, some (.leaf "z".toList "it's 'b".toList ⟨0, 9⟩), none⟩ := by
    cbv
  have closed : (Token.scan .standard "x=\")\" and y=[1".toList).all
      (·.kind != .openQuote) = true := by
    cbv
  have whole : "(x=\")\" and y=[1) OR (z=it's 'b)".toList =
      "(".toList ++ "x=\")\" and y=[1".toList ++ ")".toList ++ Connective.or.joiner ++
        "(".toList ++ "z=it's 'b".toList ++ ")".toList := by
    decide
  rw [whole]
  exact parse_parens .or left right (by simpa using closed)

end BroadcastQuery
