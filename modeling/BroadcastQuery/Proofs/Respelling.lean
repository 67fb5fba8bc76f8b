import BroadcastQuery.Proofs.Composition
import BroadcastQuery.Proofs.Respacing

/-!
The grammar does not depend on how the reserved words are spelled. With all of them spelled in
another way, a source has the same kinds of tokens for the other spellings, if none of its words is
reserved there, and the same words and quoted texts; so it is read as the same query, places aside.
-/
namespace BroadcastQuery

/-- Spellings that are words, and no two of them one word. -/
structure Keywords.Plain (keywords : Keywords) : Prop where
  nonempty : ∀ keyword, keywords.spelling keyword ≠ []
  solid : ∀ keyword, ∀ c ∈ keywords.spelling keyword, Token.endsWord c = false
  unquoted : ∀ keyword, Unquoted (keywords.spelling keyword)
  unbracketed : ∀ keyword, ∀ c ∈ (keywords.spelling keyword).head?, c ≠ '['
  distinct : ∀ keyword keyword',
    (keywords.spelling keyword).sameFold (keywords.spelling keyword') = true → keyword = keyword'

/-- A spelling is recognised as the reserved word that it spells. -/
theorem Keywords.Plain.classify_spelling {keywords : Keywords} (plain : keywords.Plain)
    (keyword : Keyword) : keywords.classify (keywords.spelling keyword) = some keyword := by
  have same : (keywords.spelling keyword).sameFold (keywords.spelling keyword) = true :=
    beq_self_eq_true _
  have other : ∀ keyword', keyword ≠ keyword' →
      (keywords.spelling keyword).sameFold (keywords.spelling keyword') = false := by
    intro keyword' differ
    exact Bool.eq_false_iff.mpr fun same => differ (plain.distinct _ _ same)
  have and := other (.connective .and)
  have or := other (.connective .or)
  have normalize := other (.modifier .normalize)
  rcases keyword with (_ | _) | (_ | _) <;> simp_all [classify, spelling]

namespace Token

/-- The characters of a token of a kind with the reserved words spelled in another way. -/
def Kind.respell (keywords : Keywords) (lexeme : Text) : Kind → Text
  | .keyword reserved => keywords.spelling reserved
  | _ => lexeme

def respell (keywords : Keywords) (token : Token) : Token :=
  { token with lexeme := token.kind.respell keywords token.lexeme }

/-- A source with the reserved words that it has for the `old` spellings in the `new` ones. -/
def respelled (old new : Keywords) (source : Text) : Text :=
  spell ((scan old source).map (respell new)) ++ source.drop (spell (scan old source)).length

/-- Tokens that differ in no reading but for places. -/
structure Alike (a b : Token) : Prop where
  kind : b.kind = a.kind
  gap : b.gap = a.gap
  lexeme : a.continuesValue = true → b.lexeme = a.lexeme

variable {old new : Keywords} {first : Bool} {start : Nat} {kind : Kind} {a b : Token}
  {lexeme rest rest' source : Text} {tokens tokens' : List Token}

theorem Alike.symm (alike : Alike a b) : Alike b a where
  kind := alike.kind.symm
  gap := alike.gap.symm
  lexeme goes := by
    refine (alike.lexeme ?_).symm
    rwa [continuesValue, ← alike.kind]

/-! What follows a token when the reserved words behind it are spelled in another way. -/

theorem WordRun.not_wordEnds (alone : WordRun first lexeme rest) (after : Text) :
    ¬WordEnds (lexeme ++ after) := by
  obtain ⟨c, body, rfl⟩ := List.exists_cons_of_ne_nil alone.nonempty
  intro ends
  have goes := alone.goes c List.mem_cons_self
  rw [ends c rfl] at goes
  contradiction

/-- A lexeme at which a word ends is no word, and its first character stays. -/
theorem Lexeme.wordEnds_respell (is : Lexeme old first kind lexeme rest) (new : Keywords)
    {after : Text} (ends : WordEnds (lexeme ++ after)) (after' : Text) :
    WordEnds (kind.respell new lexeme ++ after') := by
  cases is with
  | keyword alone => exact absurd ends (alone.not_wordEnds after)
  | word alone => exact absurd ends (alone.not_wordEnds after)
  | leftParen | rightParen | equals | quoted | openQuote | label | openLabel => exact ends

/-- Where a word ends before some tokens, it ends before them in the other spelling. -/
theorem Prefix.wordEnds_respell (leads : Prefix old first start tokens rest) (new : Keywords)
    (ends : WordEnds (spell tokens ++ rest)) :
    WordEnds (spell (tokens.map (respell new)) ++ rest) := by
  cases leads with
  | done => exact ends
  | @token _ _ kind gap lexeme _ tokens blank is others =>
    cases gap with
    | cons c gap => exact ends
    | nil =>
      rw [spell_cons, List.append_assoc] at ends
      rw [List.map_cons, spell_cons, List.append_assoc]
      exact is.wordEnds_respell new ends _

/-- The other spellings close no quotation mark. -/
theorem keepsOpen_respell (plain : new.Plain) (tokens : List Token) (rest : Text) :
    KeepsOpen (spell tokens ++ rest) (spell (tokens.map (respell new)) ++ rest) := by
  intro quote is absent member
  rcases List.mem_append.mp member with inside | inside
  · obtain ⟨respelled, listed, inside⟩ := List.mem_flatMap.mp inside
    obtain ⟨token, among, rfl⟩ := List.mem_map.mp listed
    have elsewhere : quote ∉ token.gap ++ token.lexeme := fun inside =>
      absent (List.mem_append_left _ (List.mem_flatMap.mpr ⟨token, among, inside⟩))
    obtain ⟨kind, gap, lexeme, start⟩ := token
    cases kind with
    | keyword keyword =>
      rcases List.mem_append.mp inside with inside | inside
      · exact elsewhere (List.mem_append_left _ inside)
      · have unquoted := plain.unquoted keyword quote inside
        rw [is] at unquoted
        contradiction
    | _ => exact elsewhere inside
  · exact absent (List.mem_append_right _ inside)

/-- A lexeme is one of the same kind in the other spelling. -/
theorem Lexeme.respell (is : Lexeme old first kind lexeme rest) (plain : new.Plain)
    (free : ∀ text, kind = .word text → new.classify text = none)
    (words : WordEnds rest → WordEnds rest') (quotes : KeepsOpen rest rest')
    (nothing : rest = [] → rest' = []) :
    Lexeme new first kind (kind.respell new lexeme) rest' := by
  cases is with
  | leftParen => exact .leftParen
  | rightParen => exact .rightParen
  | equals => exact .equals
  | quoted quote absent => exact .quoted quote absent
  | openQuote quote absent => exact .openQuote quote (quotes _ quote absent)
  | label absent => exact .label absent
  | openLabel absent =>
    obtain rfl := nothing rfl
    exact .openLabel absent
  | @keyword _ _ _ keyword alone reserved =>
    refine .keyword ⟨plain.nonempty keyword, plain.solid keyword, words alone.ends, ?_, ?_⟩
      (plain.classify_spelling keyword)
    · intro c head
      exact plain.unquoted keyword c (List.mem_of_mem_head? head)
    · intro c head _
      exact plain.unbracketed keyword c head
  | word alone free' => exact .word { alone with ends := words alone.ends } (free _ rfl)

/-- Tokens in the other spelling are tokens alike. -/
theorem Prefix.respell (leads : Prefix old first start tokens rest) (plain : new.Plain)
    (free : ∀ token ∈ tokens, ∀ text, token.kind = .word text → new.classify text = none)
    (start' : Nat) :
    ∃ made, List.Forall₂ Alike tokens made ∧
      spell made = spell (tokens.map (Token.respell new)) ∧ Prefix new first start' made rest := by
  induction leads generalizing start' with
  | done => exact ⟨[], .nil, rfl, .done⟩
  | @token first start kind gap lexeme rest tokens blank is others ih =>
    obtain ⟨made, alike, spelled, leads⟩ :=
      ih (fun token member => free token (List.mem_cons_of_mem _ member))
        (start' + gap.width + Text.width (kind.respell new lexeme))
    -- Nothing follows a label that is never closed, so it takes the same characters again.
    have is' : Lexeme new first kind (kind.respell new lexeme) (spell made ++ rest) := by
      rw [spelled]
      refine is.respell plain (free _ List.mem_cons_self) (others.wordEnds_respell new)
        (keepsOpen_respell plain tokens rest) fun nothing => ?_
      obtain ⟨empty, rfl⟩ := List.append_eq_nil_iff.mp nothing
      rw [others.eq_nil empty]
      rfl
    refine ⟨⟨kind, gap, kind.respell new lexeme, start' + gap.width⟩ :: made,
      .cons ⟨rfl, rfl, fun goes => ?_⟩ alike, ?_, .token blank is' leads⟩
    · cases kind with
      | keyword => contradiction
      | _ => rfl
    · rw [spell_cons, spelled]
      rfl

/-- Nothing but the reserved words is spelled in another way. -/
theorem exists_respelled (old new : Keywords) (source : Text) :
    ∃ blanks : Text, (∀ c ∈ blanks, isBlank c = true) ∧
      source = spell (scan old source) ++ blanks ∧
      respelled old new source = spell ((scan old source).map (respell new)) ++ blanks := by
  obtain ⟨blanks, blank, whole⟩ : ∃ blanks : Text, (∀ c ∈ blanks, isBlank c = true) ∧
      source = spell (scan old source) ++ blanks := exists_spell_scanFrom old true 0 source
  refine ⟨blanks, blank, whole, ?_⟩
  have trailing : source.drop (spell (scan old source)).length = blanks := by
    have dropped : (spell (scan old source) ++ blanks).drop (spell (scan old source)).length =
        blanks := List.drop_left
    rwa [← whole] at dropped
  rw [respelled, trailing]

/-- For the other spellings the source has tokens alike. -/
theorem forall₂_scan_respelled (plain : new.Plain)
    (free : ∀ token ∈ scan old source, ∀ text, token.kind = .word text →
      new.classify text = none) :
    List.Forall₂ Alike (scan old source) (scan new (respelled old new source)) := by
  obtain ⟨blanks, blank, whole, other⟩ := exists_respelled old new source
  obtain ⟨rest, shape, leads, -⟩ := exists_prefix (List.append_nil (scan old source)).symm
  obtain rfl : blanks = rest := List.append_cancel_left (whole.symm.trans shape)
  obtain ⟨made, alike, spelled, again⟩ := leads.respell plain free 0
  have scanned : scan new (respelled old new source) = made := by
    rw [other, ← spelled, scan, again.scanFrom, scanFrom_blank blank, List.append_nil]
  rw [scanned]
  exact alike

/-! Tokens alike are read alike. -/

/-- No token stands twice in a source. -/
theorem nodup_scan (keywords : Keywords) (source : Text) : (scan keywords source).Nodup := by
  have exact := exact_scanFrom keywords true 0 source
  refine List.Nodup.of_map placed (exact.apart.imp_of_mem ?_)
  rintro a b member - before rfl
  have solid := exact.solid a member
  omega

theorem exists_sameReading (alike : List.Forall₂ Alike tokens tokens') (distinct : tokens.Nodup) :
    ∃ f, SameReading f ∧ tokens.map f = tokens' := by
  induction alike with
  | nil => exact ⟨id, ⟨fun _ => rfl, fun _ => rfl, fun _ _ => rfl⟩, rfl⟩
  | @cons a b tokens tokens' here _ ih =>
    obtain ⟨absent, distinct⟩ := List.nodup_cons.mp distinct
    obtain ⟨f, same, rfl⟩ := ih distinct
    -- The first token is not among the others, so a new value for it leaves theirs.
    refine ⟨Function.update f a b, ⟨?_, ?_, ?_⟩, ?_⟩
    · intro token
      rcases eq_or_ne token a with rfl | other
      · simpa using here.kind
      · simpa [other] using same.kind token
    · intro token
      rcases eq_or_ne token a with rfl | other
      · simpa using here.gap
      · simpa [other] using same.gap token
    · intro token goes
      rcases eq_or_ne token a with rfl | other
      · simpa using here.lexeme goes
      · simpa [other] using same.lexeme token goes
    · rw [List.map_cons, Function.update_self]
      refine congrArg _ (List.map_congr_left fun token member => Function.update_of_ne ?_ _ _)
      rintro rfl
      exact absent member

end Token

namespace Grammar

variable {f : Token → Token}

def Derivation.map (f : Token → Token) (derivation : Derivation) : Derivation where
  label := derivation.label.map (Prod.map f id)
  main := derivation.main.map (Level.map f)
  secondary := derivation.secondary.map (Prod.map f (Prod.map id (Option.map (Level.map f))))

theorem levelTokens_map (f : Token → Token) (level : Option Level) :
    levelTokens (level.map (Level.map f)) = (levelTokens level).map f := by
  cases level with
  | none => rfl
  | some level => exact level.tokens_map f

theorem Derivation.tokens_map (f : Token → Token) (derivation : Derivation) :
    (derivation.map f).tokens = derivation.tokens.map f := by
  obtain ⟨label, main, secondary⟩ := derivation
  rw [tokens, tokens, List.map_append, List.map_append, ← levelTokens_map]
  cases label <;> cases secondary <;>
    simp [map, secondaryTokens, levelTokens_map]

theorem levelValid_map (same : Token.SameReading f) {level : Option Level}
    (valid : LevelValid level) : LevelValid (level.map (Level.map f)) := by
  intro present member
  obtain ⟨own, found, rfl⟩ := Option.map_eq_some_iff.mp member
  obtain ⟨connective, inner⟩ := valid own found
  exact ⟨connective, own.valid_map same inner⟩

theorem Derivation.valid_map (same : Token.SameReading f) {derivation : Derivation}
    (valid : derivation.Valid) : (derivation.map f).Valid where
  label := by
    intro label member
    obtain ⟨own, found, rfl⟩ := Option.map_eq_some_iff.mp member
    exact ⟨(same.kind own.1).trans (valid.label own found).1, (valid.label own found).2⟩
  main := levelValid_map same valid.main
  secondary := by
    intro secondary member
    obtain ⟨own, found, rfl⟩ := Option.map_eq_some_iff.mp member
    exact ⟨(same.kind own.1).trans (valid.secondary own found).1,
      levelValid_map same (valid.secondary own found).2⟩

theorem erase_levelDraft_map (same : Token.SameReading f) {level : Option Level}
    (valid : LevelValid level) :
    ((level.map (Level.map f)).map (Level.draft spelled)).map Draft.erase =
      (level.map (Level.draft spelled)).map Draft.erase := by
  cases level with
  | none => rfl
  | some level =>
    obtain ⟨connective, inner⟩ := valid level rfl
    exact congrArg some (level.erase_draft_map same inner)

end Grammar

namespace DraftQuery

def erase (query : DraftQuery) : DraftQuery where
  label := query.label
  main := query.main.map Draft.erase
  secondary := query.secondary.map (Prod.map id (Option.map Draft.erase))

end DraftQuery

theorem Grammar.Derivation.erase_draft_map {f : Token → Token} (same : Token.SameReading f)
    {derivation : Derivation} (valid : derivation.Valid) :
    ((derivation.map f).draft spelled).erase = (derivation.draft spelled).erase := by
  obtain ⟨label, main, secondary⟩ := derivation
  have labels : (label.map (Prod.map f id)).map Prod.snd = label.map Prod.snd := by
    cases label <;> rfl
  have mains : ((main.map (Level.map f)).map (Level.draft spelled)).map Draft.erase =
      (main.map (Level.draft spelled)).map Draft.erase := erase_levelDraft_map same valid.main
  cases secondary with
  | none => simp only [map, draft, DraftQuery.erase, labels, mains, Option.map_none]
  | some present =>
    have seconds := erase_levelDraft_map same (valid.secondary present rfl).2
    simp only [map, draft, DraftQuery.erase, labels, mains, seconds, Option.map_some, Prod.map,
      id_eq]

namespace DraftQuery

variable {keywords keywords' : Keywords} {source source' : Text}

theorem exists_parse_of_alike {query : DraftQuery}
    (alike : List.Forall₂ Token.Alike (Token.scan keywords source) (Token.scan keywords' source'))
    (parsed : parse keywords source = .ok query) :
    ∃ query', parse keywords' source' = .ok query' ∧ query'.erase = query.erase := by
  obtain ⟨f, same, tokens⟩ := Token.exists_sameReading alike (Token.nodup_scan keywords source)
  obtain ⟨derivation, valid, derived, rfl⟩ := Grammar.exists_derivation_of_read parsed
  have derived' : (derivation.map f).tokens = Token.scan keywords' source' := by
    rw [Grammar.Derivation.tokens_map, derived, tokens]
  refine ⟨(derivation.map f).draft Grammar.spelled, ?_, derivation.erase_draft_map same valid⟩
  rw [parse, ← derived', Grammar.read_tokens (Grammar.Derivation.valid_map same valid)]

/-- Sources with tokens alike are the same query, places aside, or none of them is a query. -/
theorem erase_parse_of_alike (alike :
    List.Forall₂ Token.Alike (Token.scan keywords source) (Token.scan keywords' source')) :
    (parse keywords' source').toOption.map erase = (parse keywords source).toOption.map erase := by
  have back : List.Forall₂ Token.Alike (Token.scan keywords' source')
      (Token.scan keywords source) := alike.flip.imp fun _ _ => Token.Alike.symm
  cases parsed : parse keywords source with
  | ok query =>
    obtain ⟨query', parsed', same⟩ := exists_parse_of_alike alike parsed
    rw [parsed']
    exact congrArg some same
  | error problem =>
    cases parsed' : parse keywords' source' with
    | error problem' => rfl
    | ok query' =>
      obtain ⟨query, found, -⟩ := exists_parse_of_alike back parsed'
      rw [parsed] at found
      contradiction

/-- A source whose words are free for the new spellings is a query exactly when it is one with its
reserved words in those, and it is the same query, places aside. -/
theorem parse_respelled {old new : Keywords} (plain : new.Plain) {source : Text}
    (free : ∀ token ∈ Token.scan old source, ∀ text, token.kind = .word text →
      new.classify text = none) :
    (parse new (Token.respelled old new source)).toOption.map erase =
      (parse old source).toOption.map erase :=
  erase_parse_of_alike (Token.forall₂_scan_respelled plain free)

/-- Reserved words in a label, in quotes and in another case, in a word and behind a quotation mark
that is left open. -/
theorem parse_respelled_german :
    let german : Keywords :=
      ⟨"UND".toList, "ODER".toList, "NORMIERT".toList, "OHNE".toList⟩
    let source := "[or] a='b OR' And c=sand \"d subtract ".toList
    german.Plain ∧
      Token.respelled .standard german source =
        "[or] a='b OR' UND c=sand \"d OHNE ".toList ∧
      (parse .standard source).toOption.isSome = true ∧
      (parse german (Token.respelled .standard german source)).toOption.map erase =
        (parse .standard source).toOption.map erase := by
  intro german source
  have plain : german.Plain := by
    refine ⟨?_, ?_, ?_, ?_, ?_⟩
    · rintro ((_ | _) | (_ | _)) <;> decide
    · rintro ((_ | _) | (_ | _)) <;> simp [german, Keywords.spelling, Token.endsWord, isBlank]
    · rintro ((_ | _) | (_ | _)) <;> decide
    · rintro ((_ | _) | (_ | _)) <;> simp [german, Keywords.spelling]
    · rintro ((_ | _) | (_ | _)) ((_ | _) | (_ | _)) <;> decide
  have free : ∀ token ∈ Token.scan .standard source, ∀ text, token.kind = .word text →
      german.classify text = none := by
    have kinds : (Token.scan .standard source).map Token.kind =
        [.label "or".toList, .word "a".toList, .equals, .quoted "b OR".toList,
          .keyword (.connective .and), .word "c".toList, .equals, .word "sand".toList, .openQuote,
          .word "d".toList, .keyword (.modifier .subtract)] := by
      decide +kernel
    intro token member text kind
    have listed : token.kind ∈ (Token.scan .standard source).map Token.kind :=
      List.mem_map_of_mem member
    rw [kinds, kind] at listed
    obtain rfl | rfl | rfl | rfl : text = "a".toList ∨ text = "c".toList ∨
        text = "sand".toList ∨ text = "d".toList := by simpa using listed
    all_goals decide
  exact ⟨plain, by decide +kernel, by decide +kernel, parse_respelled plain free⟩

end DraftQuery
end BroadcastQuery
