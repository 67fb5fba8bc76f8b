import BroadcastQuery.Proofs.Grammar.Soundness

/-!
Parsing is the grammar. A source is read as a draft exactly when its tokens have a derivation,
which is then the only one, and the draft is the reading of that derivation: values are slices of
the source, chains are flat and in its order.
-/
namespace BroadcastQuery.Grammar

open Draft (Reader)

variable {limit : Nat} {tokens rest : List Token}

/-! The reading of a derivation depends on the slices of its own tokens only. -/

section

variable {slice slice' : Token → List Token → Text}

/-- The two readings agree on what may be a bare value within some tokens. -/
def AgreeOn (slice slice' : Token → List Token → Text) (tokens : List Token) : Prop :=
  ∀ first more, first :: more <:+: tokens → slice first more = slice' first more

theorem AgreeOn.of_infix {inner : List Token} (agree : AgreeOn slice slice' tokens)
    (inside : inner <:+: tokens) : AgreeOn slice slice' inner :=
  fun first more part => agree first more (part.trans inside)

theorem Written.text_congr {value : Written} (agree : AgreeOn slice slice' value.tokens) :
    value.text slice = value.text slice' := by
  cases value with
  | quoted token text => rfl
  | bare first more => exact agree first more (List.infix_refl _)

mutual

theorem Item.draft_congr (item : Item) (agree : AgreeOn slice slice' item.tokens) :
    item.draft slice = item.draft slice' := by
  match item with
  | .pair key name sign value =>
    have values : value.text slice = value.text slice' := Written.text_congr
      (agree.of_infix ⟨[key, sign], [], by simp [Item.tokens]⟩)
    rw [Item.draft, Item.draft, values]
  | .group opening level closing =>
    exact level.draft_congr (agree.of_infix ⟨[opening], [closing], by simp [Item.tokens]⟩)

theorem Level.draft_congr (level : Level) (agree : AgreeOn slice slice' level.tokens) :
    level.draft slice = level.draft slice' := by
  match level with
  | .last item => exact item.draft_congr agree
  | .more item connective joint rest =>
    have first := item.draft_congr (agree.of_infix ⟨[], joint :: rest.tokens, rfl⟩)
    have others := rest.chain_congr
      (agree.of_infix ⟨item.tokens ++ [joint], [], by simp [Level.tokens]⟩)
    rw [Level.draft, Level.draft, first, others]

theorem Level.chain_congr (level : Level) (agree : AgreeOn slice slice' level.tokens) :
    level.chain slice = level.chain slice' := by
  match level with
  | .last item => rw [Level.chain, Level.chain, item.draft_congr agree]
  | .more item connective joint rest =>
    have first := item.draft_congr (agree.of_infix ⟨[], joint :: rest.tokens, rfl⟩)
    have others := rest.chain_congr
      (agree.of_infix ⟨item.tokens ++ [joint], [], by simp [Level.tokens]⟩)
    rw [Level.chain, Level.chain, first, others]

end

theorem map_draft_congr {level : Option Level} (agree : AgreeOn slice slice' (levelTokens level)) :
    level.map (Level.draft slice) = level.map (Level.draft slice') := by
  cases level with
  | none => rfl
  | some present => exact congrArg some (present.draft_congr agree)

theorem Derivation.draft_congr {derivation : Derivation}
    (agree : AgreeOn slice slice' derivation.tokens) :
    derivation.draft slice = derivation.draft slice' := by
  obtain ⟨label, main, secondary⟩ := derivation
  have mains : main.map (Level.draft slice) = main.map (Level.draft slice') :=
    map_draft_congr (agree.of_infix ⟨(label.map Prod.fst).toList, secondaryTokens secondary,
      by simp [tokens]⟩)
  cases secondary with
  | none => simp only [draft, mains, Option.map_none]
  | some present =>
    obtain ⟨token, modifier, level⟩ := present
    have seconds : level.map (Level.draft slice) = level.map (Level.draft slice') :=
      map_draft_congr (agree.of_infix ⟨(label.map Prod.fst).toList ++ levelTokens main ++ [token],
        [], by simp [tokens, secondaryTokens]⟩)
    simp only [draft, mains, seconds, Option.map_some]

end

/-- The slice from one token of a source to a later one is what the tokens spell. -/
theorem agreeOn_scan (keywords : Keywords) (source : Text) :
    AgreeOn (sliceOf source) spelled (Token.scan keywords source) := by
  rintro first more ⟨before, after, whole⟩
  have tokens : Token.scan keywords source = before ++ (first :: more ++ after) := by
    rw [← whole, List.append_assoc]
  rw [sliceOf, Token.slice?_scan tokens]
  rfl

/-! A query is read part by part. -/

theorem step_link_outermost {level : Draft.Level} {item : Draft} {token : Token}
    (other : ∀ connective, token.kind ≠ .keyword (.connective connective)) :
    Reader.step ⟨level, [], .link item⟩ token = .stop (.ok (level.close item)) false := by
  cases kind : token.kind with
  | keyword keyword =>
    cases keyword with
    | connective connective => exact absurd kind (other connective)
    | modifier => simp [Reader.step, Reader.afterItem, kind]
  | word | quoted | label | leftParen | rightParen | equals | openQuote | openLabel =>
    simp [Reader.step, Reader.afterItem, kind]

/-- Outside of all parentheses a level ends where it does not go on. -/
theorem run_link_outermost {level : Draft.Level} {item : Draft} (last : EndsLevel rest) :
    Reader.run limit ⟨level, [], .link item⟩ rest = ⟨.ok (level.close item), rest⟩ := by
  cases rest with
  | nil => rfl
  | cons token rest =>
    rw [Reader.run, step_link_outermost (last token rfl)]
    rfl

theorem modifier?_eq_none_of_opensItem {token : Token} (opens : OpensItem token.kind) :
    token.modifier? = none := by
  unfold OpensItem at opens
  unfold Token.modifier?
  split at opens
  case h_1 kind => rw [kind]
  case h_2 kind => rw [kind]
  case h_3 => exact opens.elim

theorem read?_levelTokens {level : Option Level} (valid : LevelValid level)
    (follows : ModifierOrEnd rest) :
    Draft.read? limit (levelTokens level ++ rest) =
      ⟨.ok (level.map (Level.draft spelled)), rest⟩ := by
  cases level with
  | none =>
    cases rest with
    | nil => rfl
    | cons token rest =>
      obtain ⟨modifier, kind⟩ := follows token rfl
      simp [levelTokens, Draft.read?, Token.modifier?, kind]
  | some present =>
    obtain ⟨connective, inner⟩ := valid present rfl
    obtain ⟨token, tail, shape, opens⟩ := Level.exists_first inner
    have run : Reader.initial.run limit (present.tokens ++ rest) =
        ⟨.ok (present.draft spelled), rest⟩ := by
      rw [Reader.initial, run_level present inner (fits_fresh connective) follows.endsValue,
        run_link_outermost follows.endsLevel, close_reach_fresh inner]
    have first : levelTokens (some present) ++ rest = token :: (tail ++ rest) := by
      rw [levelTokens, Option.map_some, Option.getD_some, shape, List.cons_append]
    rw [shape, List.cons_append] at run
    rw [first, Draft.read?, modifier?_eq_none_of_opensItem opens, run]
    rfl

theorem exists_level_of_run_initial {tree : Draft}
    (run : Reader.initial.run limit tokens = ⟨.ok tree, rest⟩) :
    ∃ (level : Level) (connective : Connective), level.Valid connective ∧
      tokens = level.tokens ++ rest ∧ tree = level.draft spelled := by
  obtain ⟨level, connective, after, valid, -, shape, last, run⟩ := exists_level_of_run _ run
  rw [run_link_outermost last, close_reach_fresh valid] at run
  obtain ⟨trees, rests⟩ := Reading.mk.inj run
  exact ⟨level, connective, valid, by rw [shape, rests], (Except.ok.inj trees).symm⟩

theorem exists_level_of_read? {main : Option Draft}
    (read : Draft.read? limit tokens = ⟨.ok main, rest⟩) :
    ∃ level, LevelValid level ∧ tokens = levelTokens level ++ rest ∧
      main = level.map (Level.draft spelled) := by
  have absent : LevelValid none := by
    rintro level ⟨⟩
  unfold Draft.read? at read
  split at read
  · obtain ⟨answer, rests⟩ := Reading.mk.inj read
    exact ⟨none, absent, rests, (Except.ok.inj answer).symm⟩
  · split at read
    · obtain ⟨answer, rests⟩ := Reading.mk.inj read
      exact ⟨none, absent, rests, (Except.ok.inj answer).symm⟩
    · next token following _ =>
      unfold Reading.andThen at read
      split at read
      case h_2 => simp at read
      case h_1 tree answer =>
        obtain ⟨same, rests⟩ := Reading.mk.inj read
        obtain rfl := Except.ok.inj same
        have run : Reader.initial.run limit (token :: following) = ⟨.ok tree, rest⟩ := by
          rw [← answer, ← rests]
        obtain ⟨present, connective, valid, shape, rfl⟩ := exists_level_of_run_initial run
        refine ⟨some present, ?_, shape, rfl⟩
        rintro level ⟨⟩
        exact ⟨connective, valid⟩

theorem label?_of_head_cases (cases : ∀ token ∈ tokens.head?,
    OpensItem token.kind ∨ ∃ modifier, token.kind = .keyword (.modifier modifier)) :
    DraftQuery.label? tokens = ⟨.ok none, tokens⟩ := by
  cases tokens with
  | nil => rfl
  | cons token rest =>
    rcases cases token rfl with opens | ⟨modifier, kind⟩
    · unfold OpensItem at opens
      split at opens
      case h_1 kind => rw [DraftQuery.label?, kind]
      case h_2 kind => rw [DraftQuery.label?, kind]
      case h_3 => exact opens.elim
    · rw [DraftQuery.label?, kind]

theorem label?_tokens {derivation : Derivation} (valid : derivation.Valid) :
    DraftQuery.label? derivation.tokens = ⟨.ok (derivation.label.map Prod.snd),
      levelTokens derivation.main ++ secondaryTokens derivation.secondary⟩ := by
  rw [Derivation.tokens]
  cases present : derivation.label with
  | none => exact label?_of_head_cases valid.head_cases
  | some label =>
    obtain ⟨kind, nonempty⟩ := valid.label label present
    simp [DraftQuery.label?, kind, nonempty]

/-- The tokens of a derivation are read as its draft. -/
theorem read_tokens {derivation : Derivation} (valid : derivation.Valid) :
    DraftQuery.read limit derivation.tokens = ⟨.ok (derivation.draft spelled), []⟩ := by
  rw [DraftQuery.read, label?_tokens valid]
  simp only [Reading.andThen]
  rw [read?_levelTokens valid.main valid.modifierOrEnd]
  cases present : derivation.secondary with
  | none => simp [secondaryTokens, DraftQuery.complete, Derivation.draft, present]
  | some secondary =>
    obtain ⟨token, modifier, level⟩ := secondary
    have kind : token.kind = .keyword (.modifier modifier) := (valid.secondary _ present).1
    have inner : LevelValid level := (valid.secondary _ present).2
    have modifies : token.modifier? = some modifier := by
      rw [Token.modifier?, kind]
    have read : Draft.read? limit (levelTokens level ++ []) =
        ⟨.ok (level.map (Level.draft spelled)), []⟩ := read?_levelTokens inner modifierOrEnd_nil
    rw [List.append_nil] at read
    simp [secondaryTokens, modifies, read, DraftQuery.complete, Derivation.draft, present]

/-- A source with the tokens of a level is a query of that level alone. -/
theorem parse_of_level {keywords : Keywords} {source : Text} {level : Level}
    {connective : Connective} (valid : level.Valid connective)
    (tokens : level.tokens = Token.scan keywords source) :
    DraftQuery.parse keywords source = .ok ⟨none, some (level.draft spelled), none⟩ := by
  have whole : (⟨none, some level, none⟩ : Derivation).Valid := by
    refine ⟨?_, ?_, ?_⟩
    · rintro label ⟨⟩
    · rintro present ⟨⟩
      exact ⟨connective, valid⟩
    · rintro secondary ⟨⟩
  have derived : (⟨none, some level, none⟩ : Derivation).tokens = Token.scan keywords source := by
    rw [← tokens]
    exact List.append_nil _
  rw [DraftQuery.parse, ← derived, read_tokens whole]
  rfl

theorem exists_of_andThen_ok {α β : Type} {reading : Reading α}
    {next : α → List Token → Reading β} {value : β}
    (answer : (reading.andThen next).answer = .ok value) :
    ∃ first rest, reading = ⟨.ok first, rest⟩ ∧ (next first rest).answer = .ok value := by
  obtain ⟨found, rest⟩ := reading
  cases found with
  | error error => simp [Reading.andThen] at answer
  | ok first => exact ⟨first, rest, rfl, answer⟩

theorem exists_label_of_label? {label : Option Text}
    (read : DraftQuery.label? tokens = ⟨.ok label, rest⟩) :
    ∃ found : Option (Token × Text),
      (∀ present ∈ found, present.1.kind = .label present.2 ∧ present.2 ≠ []) ∧
      tokens = (found.map Prod.fst).toList ++ rest ∧ label = found.map Prod.snd := by
  have absent {tokens : List Token}
      (read : (⟨.ok none, tokens⟩ : Reading (Option Text)) = ⟨.ok label, rest⟩) :
      ∃ found : Option (Token × Text),
        (∀ present ∈ found, present.1.kind = .label present.2 ∧ present.2 ≠ []) ∧
        tokens = (found.map Prod.fst).toList ++ rest ∧ label = found.map Prod.snd := by
    obtain ⟨answer, rests⟩ := Reading.mk.inj read
    refine ⟨none, ?_, rests, (Except.ok.inj answer).symm⟩
    rintro present ⟨⟩
  unfold DraftQuery.label? at read
  split at read
  · exact absent read
  · next token following =>
    split at read
    case h_1 text kind =>
      by_cases empty : text = []
      · simp [empty] at read
      · simp only [List.isEmpty_iff, empty, if_false] at read
        obtain ⟨answer, rests⟩ := Reading.mk.inj read
        refine ⟨some (token, text), ?_, by rw [rests]; rfl, (Except.ok.inj answer).symm⟩
        rintro present ⟨⟩
        exact ⟨kind, empty⟩
    case h_2 => simp at read
    case h_3 => exact absent read

theorem kind_of_modifier? {token : Token} {modifier : Modifier}
    (found : token.modifier? = some modifier) : token.kind = .keyword (.modifier modifier) := by
  unfold Token.modifier? at found
  split at found
  case h_1 own kind => rw [kind, Option.some.inj found]
  case h_2 => contradiction

/-- What is read as a draft has a derivation of that draft. -/
theorem exists_derivation_of_read {query : DraftQuery}
    (read : (DraftQuery.read limit tokens).answer = .ok query) :
    ∃ derivation : Derivation, derivation.Valid ∧ derivation.tokens = tokens ∧
      query = derivation.draft spelled := by
  obtain ⟨label, afterLabel, readLabel, read⟩ := exists_of_andThen_ok read
  obtain ⟨main, afterMain, readMain, read⟩ := exists_of_andThen_ok read
  obtain ⟨foundLabel, labelValid, labelTokens, rfl⟩ := exists_label_of_label? readLabel
  obtain ⟨level, mainValid, mainTokens, rfl⟩ := exists_level_of_read? readMain
  cases afterMain with
  | nil =>
    refine ⟨⟨foundLabel, level, none⟩, ⟨labelValid, mainValid, ?_⟩, ?_, ?_⟩
    · rintro secondary ⟨⟩
    · rw [labelTokens, mainTokens]
      rfl
    · exact (Except.ok.inj read).symm
  | cons token rest =>
    cases modifies : token.modifier? with
    | none => simp [modifies, DraftQuery.complete] at read
    | some modifier =>
      simp only [modifies] at read
      obtain ⟨tree, after, readTree, read⟩ := exists_of_andThen_ok read
      obtain ⟨second, secondValid, secondTokens, rfl⟩ := exists_level_of_read? readTree
      cases after with
      | cons => simp [DraftQuery.complete] at read
      | nil =>
        refine ⟨⟨foundLabel, level, some (token, modifier, second)⟩,
          ⟨labelValid, mainValid, ?_⟩, ?_, ?_⟩
        · rintro secondary ⟨⟩
          exact ⟨kind_of_modifier? modifies, secondValid⟩
        · rw [labelTokens, mainTokens, secondTokens]
          simp [Derivation.tokens, secondaryTokens]
        · exact (Except.ok.inj read).symm

/-- A query of a main tree alone comes from the tokens of a level. -/
theorem exists_level_of_parse {keywords : Keywords} {source : Text} {draft : Draft}
    (parsed : DraftQuery.parse keywords source = .ok ⟨none, some draft, none⟩) :
    ∃ level : Level, (∃ connective, level.Valid connective) ∧
      level.tokens = Token.scan keywords source ∧ draft = level.draft spelled := by
  obtain ⟨⟨label, main, secondary⟩, valid, tokens, same⟩ := exists_derivation_of_read parsed
  obtain ⟨labels, mains, secondaries⟩ := DraftQuery.mk.inj same
  obtain rfl := Option.map_eq_none_iff.mp labels.symm
  obtain rfl := Option.map_eq_none_iff.mp secondaries.symm
  obtain ⟨level, rfl, equal⟩ := Option.map_eq_some_iff.mp mains.symm
  refine ⟨level, valid.main level rfl, ?_, equal.symm⟩
  rw [← tokens]
  exact (List.append_nil _).symm

theorem reading_eq_draft {keywords : Keywords} {source : Text} {derivation : Derivation}
    (same : derivation.tokens = Token.scan keywords source) :
    derivation.reading source = derivation.draft spelled :=
  Derivation.draft_congr (same ▸ agreeOn_scan keywords source)

/-- A source is read as a draft exactly when its tokens have a derivation with that reading, and
they have one derivation at most. -/
theorem parse_eq_ok_iff (keywords : Keywords) (source : Text) (query : DraftQuery) :
    (DraftQuery.parse keywords source = .ok query ↔
      ∃ derivation : Derivation, derivation.Valid ∧
        derivation.tokens = Token.scan keywords source ∧ query = derivation.reading source) ∧
    ∀ d d' : Derivation, d.Valid → d'.Valid → d.tokens = Token.scan keywords source →
      d'.tokens = Token.scan keywords source → d = d' := by
  constructor
  · constructor
    · intro parsed
      obtain ⟨derivation, valid, tokens, rfl⟩ := exists_derivation_of_read parsed
      exact ⟨derivation, valid, tokens, (reading_eq_draft tokens).symm⟩
    · rintro ⟨derivation, valid, tokens, rfl⟩
      rw [DraftQuery.parse, ← tokens, read_tokens valid, reading_eq_draft tokens]
  · intro d d' valid valid' tokens tokens'
    exact Derivation.eq_of_tokens_eq valid valid' (tokens.trans tokens'.symm)

end BroadcastQuery.Grammar
