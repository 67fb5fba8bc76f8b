import BroadcastQuery.Proofs.Grammar.Reader

/-!
What the reader accepts is derived. A run that ends in a draft is cut at the end of its first item
or level: that part has a derivation, and the run goes on from there as if it had been read at
once.
-/
namespace BroadcastQuery.Grammar

open Draft (Reader)

variable {limit : Nat} {level : Draft.Level} {outer : List Draft.Frame} {token : Token}
  {tokens rest : List Token} {tree : Draft}

/-- The reader gives up at a token. -/
def Refuses (reader : Reader) (token : Token) : Prop :=
  ∃ error taken, reader.step token = .stop (.error error) taken

theorem Refuses.run_ne {reader : Reader} (refuses : Refuses reader token) :
    reader.run limit (token :: tokens) ≠ ⟨.ok tree, rest⟩ := by
  obtain ⟨error, taken, stops⟩ := refuses
  rw [Reader.run, stops]
  simp

theorem step_item_cases (level : Draft.Level) (outer : List Draft.Frame) (opening : Draft.Opening)
    (token : Token) : token.kind = .leftParen ∨ (∃ name, token.kind = .word name) ∨
      Refuses ⟨level, outer, .item opening⟩ token := by
  cases kind : token.kind with
  | leftParen => exact .inl rfl
  | word name => exact .inr (.inl ⟨name, rfl⟩)
  | keyword | quoted | label | rightParen | equals | openQuote | openLabel =>
    refine .inr (.inr ?_)
    cases opening <;> simp [Refuses, Reader.step, Reader.atItem, kind]

theorem step_equals_cases (level : Draft.Level) (outer : List Draft.Frame) (key : Token)
    (name : Text) (token : Token) :
    token.kind = .equals ∨ Refuses ⟨level, outer, .equals key name⟩ token := by
  cases kind : token.kind with
  | equals => exact .inl rfl
  | keyword | quoted | label | rightParen | leftParen | word | openQuote | openLabel =>
    exact .inr (by simp [Refuses, Reader.step, kind])

theorem step_value_cases (level : Draft.Level) (outer : List Draft.Frame) (key sign : Token)
    (name : Text) (token : Token) : (∃ text, token.kind = .quoted text) ∨ StartsBare token.kind ∨
      Refuses ⟨level, outer, .value key name sign⟩ token := by
  cases kind : token.kind with
  | quoted text => exact .inl ⟨text, rfl⟩
  | word | equals => exact .inr (.inl trivial)
  | keyword | label | rightParen | leftParen | openQuote | openLabel =>
    exact .inr (.inr (by simp [Refuses, Reader.step, kind]))

theorem step_link_cases (level : Draft.Level) (outer : List Draft.Frame) (frame : Draft.Frame)
    (item : Draft) (token : Token) :
    (∃ connective, token.kind = .keyword (.connective connective)) ∨ token.kind = .rightParen ∨
      Refuses ⟨level, frame :: outer, .link item⟩ token := by
  cases kind : token.kind with
  | rightParen => exact .inr (.inl rfl)
  | keyword keyword =>
    cases keyword with
    | connective connective => exact .inl ⟨connective, rfl⟩
    | modifier => exact .inr (.inr (by simp [Refuses, Reader.step, Reader.afterItem, kind]))
  | word | quoted | label | leftParen | equals | openQuote | openLabel =>
    exact .inr (.inr (by simp [Refuses, Reader.step, Reader.afterItem, kind]))

/-- A connective is taken only if the level may go on with it. -/
theorem fits_of_run {item : Draft} {connective : Connective}
    (kind : token.kind = .keyword (.connective connective))
    (run : Reader.run limit ⟨level, outer, .link item⟩ (token :: tokens) = ⟨.ok tree, rest⟩) :
    Fits level connective := by
  intro own present
  by_cases same : own = connective
  · exact same
  · have mixed : level.connective.any (· != connective) = true := by
      simp [Option.mem_def.mp present, same]
    have refuses : Refuses ⟨level, outer, .link item⟩ token :=
      ⟨_, _, by simp only [Reader.step, Reader.afterItem, kind, mixed, if_true]; rfl⟩
    exact absurd run refuses.run_ne

/-- A value is read as far as a bare value goes on. -/
theorem exists_written_of_run {key sign : Token} {name : Text}
    (run : Reader.run limit ⟨level, outer, .value key name sign⟩ tokens = ⟨.ok tree, rest⟩) :
    ∃ value after, Written.Valid value ∧ tokens = value.tokens ++ after ∧
      Reader.run limit ⟨level, outer, .link
        (Reader.pair key name (value.text spelled) value.stop)⟩ after = ⟨.ok tree, rest⟩ := by
  match tokens with
  | [] => simp [Reader.run, Reader.finish] at run
  | token :: following =>
    rcases step_value_cases level outer key sign name token with
      ⟨text, quoted⟩ | starts | refuses
    · refine ⟨.quoted token text, following, quoted, rfl, ?_⟩
      rw [run_take (step_quoted quoted)] at run
      exact run
    · have goes : ∀ other ∈ following.takeWhile Token.continuesValue,
          other.continuesValue = true := List.all_eq_true.mp List.all_takeWhile
      have ends : EndsValue (following.dropWhile Token.continuesValue) := by
        intro other head
        have stops := List.head?_dropWhile_not Token.continuesValue following
        simpa [Option.mem_def.mp head] using stops
      refine ⟨.bare token (following.takeWhile Token.continuesValue),
        following.dropWhile Token.continuesValue,
        ⟨starts, fun other member => extendsBare_iff.mpr (goes other member)⟩, ?_, ?_⟩
      · rw [Written.tokens, List.cons_append, List.takeWhile_append_dropWhile]
      · rw [run_take (step_bare starts),
          ← List.takeWhile_append_dropWhile (p := Token.continuesValue) (l := following),
          run_more goes ends] at run
        exact run
    · exact absurd run refuses.run_ne

mutual

theorem exists_item_of_run {opening : Draft.Opening} {level : Draft.Level}
    {outer : List Draft.Frame} (tokens : List Token) {tree : Draft} {rest : List Token}
    (run : Reader.run limit ⟨level, outer, .item opening⟩ tokens = ⟨.ok tree, rest⟩) :
    ∃ item after, Item.Valid item ∧ tokens = item.tokens ++ after ∧
      Reader.run limit ⟨level, outer, .link (item.draft spelled)⟩ after = ⟨.ok tree, rest⟩ := by
  match tokens with
  | [] => cases opening <;> simp [Reader.run, Reader.finish] at run
  | token :: following =>
    rcases step_item_cases level outer opening token with
      paren | ⟨name, word⟩ | refuses
    · rw [run_take (step_atItem_leftParen paren)] at run
      obtain ⟨inner, connective, after, valid, fits, shape, last, run⟩ :=
        exists_level_of_run following run
      match after with
      | [] => simp [Reader.run, Reader.finish, Reader.endAfterItem] at run
      | closing :: after =>
        rcases step_link_cases (reach .fresh inner).1 outer ⟨token, level⟩
          (reach .fresh inner).2 closing with ⟨joint, kind⟩ | close | refuses
        · exact absurd kind (last closing rfl joint)
        · rw [run_take (step_link_rightParen close), close_reach_fresh valid] at run
          refine ⟨.group token inner closing, after, ⟨paren, ⟨connective, valid⟩, close⟩, ?_, run⟩
          rw [shape, Item.tokens]
          simp
        · exact absurd run refuses.run_ne
    · rw [run_take (step_atItem_word word)] at run
      match following with
      | [] => simp [Reader.run, Reader.finish] at run
      | sign :: following =>
        rcases step_equals_cases level outer token name sign with
          equals | refuses
        · rw [run_take (step_equals equals)] at run
          obtain ⟨value, after, valid, shape, run⟩ := exists_written_of_run run
          exact ⟨.pair token name sign value, after, ⟨word, equals, valid⟩, by rw [shape]; rfl, run⟩
        · exact absurd run refuses.run_ne
    · exact absurd run refuses.run_ne
termination_by (tokens.length, 0)

theorem exists_level_of_run {opening : Draft.Opening} {level : Draft.Level}
    {outer : List Draft.Frame} (tokens : List Token) {tree : Draft} {rest : List Token}
    (run : Reader.run limit ⟨level, outer, .item opening⟩ tokens = ⟨.ok tree, rest⟩) :
    ∃ read connective after, Level.Valid connective read ∧ Fits level connective ∧
      tokens = read.tokens ++ after ∧ EndsLevel after ∧
      Reader.run limit ⟨(reach level read).1, outer, .link (reach level read).2⟩ after =
        ⟨.ok tree, rest⟩ := by
  obtain ⟨item, after, valid, shape, run⟩ := exists_item_of_run tokens run
  have finished (connective : Connective) (fits : Fits level connective) (last : EndsLevel after) :
      ∃ read connective after, Level.Valid connective read ∧ Fits level connective ∧
        tokens = read.tokens ++ after ∧ EndsLevel after ∧
        Reader.run limit ⟨(reach level read).1, outer, .link (reach level read).2⟩ after =
          ⟨.ok tree, rest⟩ :=
    ⟨.last item, connective, after, valid, fits, shape, last, run⟩
  have fitting : Fits level (level.connective.getD .and) := by
    intro own present
    simp [Option.mem_def.mp present]
  match after with
  | [] => exact finished _ fitting endsLevel_nil
  | joint :: following =>
    by_cases connects : ∃ connective, joint.kind = .keyword (.connective connective)
    · obtain ⟨connective, kind⟩ := connects
      have fits := fits_of_run kind run
      rw [run_take (step_link_connective kind fits)] at run
      have shorter : following.length < tokens.length := by
        rw [shape]
        simp
        omega
      obtain ⟨read, own, after, others, fits', shape', last, run⟩ :=
        exists_level_of_run following run
      obtain rfl : connective = own := fits' connective rfl
      refine ⟨.more item connective joint read, connective, after,
        ⟨valid, rfl, kind, others⟩, fits, ?_, last, run⟩
      rw [shape, shape', Level.tokens]
      simp
    · exact finished _ fitting (endsLevel_cons fun connective kind => connects ⟨connective, kind⟩)
termination_by (tokens.length, 1)

end

end BroadcastQuery.Grammar
