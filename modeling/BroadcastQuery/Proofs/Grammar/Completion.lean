import BroadcastQuery.Proofs.Grammar.Parsing

/-!
What has been read can be completed. Whatever a reader stands before, some words, equals signs and
closing parentheses lead it to the end of a tree, so the tokens that it has taken start those of a
level.
-/
namespace BroadcastQuery

/-- The tokens that complete a query. -/
inductive Filler where
  | word
  | equals
  | rightParen
deriving DecidableEq, Repr

namespace Filler

/-- The kind of the token, where all words are `name`. -/
def kind (name : Text) : Filler → Token.Kind
  | word => .word name
  | equals => .equals
  | rightParen => .rightParen

/-- One closing parenthesis for each open one. -/
def closings (outer : List Draft.Frame) : List Filler := outer.map fun _ => rightParen

/-- What completes a tree before which the reader has come to stand. -/
def missing (reader : Draft.Reader) : List Filler :=
  match reader.due with
  | .item _ => word :: equals :: word :: closings reader.outer
  | .equals _ _ => equals :: word :: closings reader.outer
  | .value _ _ _ => word :: closings reader.outer
  | .more _ _ _ _ | .link _ => closings reader.outer

end Filler

namespace Grammar

open Draft (Reader)

def Fills (name : Text) (fillers : List Filler) (tokens : List Token) : Prop :=
  tokens.map Token.kind = fillers.map (Filler.kind name)

variable {limit : Nat} {level : Draft.Level} {outer : List Draft.Frame} {reader last : Reader}
  {name : Text} {fillers : List Filler} {tokens before more : List Token}

theorem fills_nil_iff : Fills name [] tokens ↔ tokens = [] := List.map_eq_nil_iff

theorem exists_of_fills_cons {filler : Filler} (fills : Fills name (filler :: fillers) tokens) :
    ∃ token rest, tokens = token :: rest ∧ token.kind = filler.kind name ∧
      Fills name fillers rest := by
  obtain ⟨token, rest, shape, kind, others⟩ := List.map_eq_cons_iff.mp fills
  exact ⟨token, rest, shape, kind, others⟩

/-! Every reader can be led to the end of a tree. -/

theorem endsValue_closings (fills : Fills name (Filler.closings outer) tokens) :
    EndsValue tokens := by
  cases outer with
  | nil =>
    obtain rfl := fills_nil_iff.mp fills
    rintro token ⟨⟩
  | cons frame outer =>
    obtain ⟨token, rest, rfl, kind, -⟩ := exists_of_fills_cons fills
    exact endsValue_rightParen kind

theorem run_closings {item : Draft} (fills : Fills name (Filler.closings outer) tokens) :
    ∃ tree, Reader.run limit ⟨level, outer, .link item⟩ tokens = ⟨.ok tree, []⟩ := by
  induction outer generalizing level item tokens with
  | nil =>
    obtain rfl := fills_nil_iff.mp fills
    exact ⟨_, rfl⟩
  | cons frame outer ih =>
    obtain ⟨token, rest, rfl, kind, others⟩ := exists_of_fills_cons fills
    rw [run_take (step_link_rightParen kind)]
    exact ih others

theorem run_more_missing {key : Token} {known value : Text} {stop : Nat}
    (fills : Fills name (Filler.closings outer) tokens) :
    ∃ tree, Reader.run limit ⟨level, outer, .more key known value stop⟩ tokens =
      ⟨.ok tree, []⟩ := by
  rw [run_more_end (endsValue_closings fills)]
  exact run_closings fills

theorem run_value_missing {key sign : Token} {known : Text}
    (fills : Fills name (.word :: Filler.closings outer) tokens) :
    ∃ tree, Reader.run limit ⟨level, outer, .value key known sign⟩ tokens = ⟨.ok tree, []⟩ := by
  obtain ⟨token, rest, rfl, kind, others⟩ := exists_of_fills_cons fills
  have starts : StartsBare token.kind := by
    rw [kind]
    trivial
  rw [run_take (step_bare starts)]
  exact run_more_missing others

theorem run_equals_missing {key : Token} {known : Text}
    (fills : Fills name (.equals :: .word :: Filler.closings outer) tokens) :
    ∃ tree, Reader.run limit ⟨level, outer, .equals key known⟩ tokens = ⟨.ok tree, []⟩ := by
  obtain ⟨token, rest, rfl, kind, others⟩ := exists_of_fills_cons fills
  rw [run_take (step_equals kind)]
  exact run_value_missing others

theorem run_item_missing {opening : Draft.Opening}
    (fills : Fills name (.word :: .equals :: .word :: Filler.closings outer) tokens) :
    ∃ tree, Reader.run limit ⟨level, outer, .item opening⟩ tokens = ⟨.ok tree, []⟩ := by
  obtain ⟨token, rest, rfl, kind, others⟩ := exists_of_fills_cons fills
  rw [run_take (step_atItem_word kind)]
  exact run_equals_missing others

theorem run_missing (fills : Fills name (Filler.missing reader) tokens) :
    ∃ tree, reader.run limit tokens = ⟨.ok tree, []⟩ := by
  obtain ⟨level, outer, due⟩ := reader
  cases due with
  | item opening => exact run_item_missing fills
  | equals key known => exact run_equals_missing fills
  | value key known sign => exact run_value_missing fills
  | more key known value stop => exact run_more_missing fills
  | link item => exact run_closings fills

/-! Tokens that have been taken. -/

/-- The reader takes all of the tokens and becomes the last one. -/
inductive Takes : Reader → List Token → Reader → Prop
  | done {reader : Reader} : Takes reader [] reader
  | token {reader next last : Reader} {token : Token} {rest : List Token}
      (moves : reader.step token = .take next) (others : Takes next rest last) :
      Takes reader (token :: rest) last

theorem Takes.run (takes : Takes reader before last) (rest : List Token) :
    reader.run limit (before ++ rest) = last.run limit rest := by
  induction takes with
  | done => rfl
  | token moves _ ih => rw [List.cons_append, run_take moves, ih]

/-- Some fillers complete the tokens to those of a level or of no level. -/
def StartsLevel (before : List Token) : Prop :=
  ∃ fillers, ∀ name more, Fills name fillers more →
    ∃ level, LevelValid level ∧ levelTokens level = before ++ more

theorem startsLevel_levelTokens {level : Option Level} (valid : LevelValid level) :
    StartsLevel (levelTokens level) := by
  refine ⟨[], fun name more fills => ⟨level, valid, ?_⟩⟩
  rw [fills_nil_iff.mp fills, List.append_nil]

theorem startsLevel_nil : StartsLevel [] := by
  have absent : LevelValid none := by
    rintro level ⟨⟩
  exact startsLevel_levelTokens absent

theorem Takes.startsLevel (takes : Takes Reader.initial before last) : StartsLevel before := by
  refine ⟨Filler.missing last, fun name more fills => ?_⟩
  -- A run that succeeds does so whatever the limit is.
  have completed : ∃ tree, last.run 0 more = ⟨.ok tree, []⟩ := run_missing fills
  obtain ⟨tree, run⟩ := completed
  rw [← takes.run more] at run
  obtain ⟨level, connective, valid, tokens, -⟩ := exists_level_of_run_initial run
  refine ⟨some level, ?_, ?_⟩
  · rintro present ⟨⟩
    exact ⟨connective, valid⟩
  · rw [tokens, List.append_nil]
    rfl

/-- Some fillers complete the tokens to those of a query. -/
def StartsQuery (before : List Token) : Prop :=
  ∃ fillers, ∀ name more, Fills name fillers more →
    ∃ derivation : Derivation, derivation.Valid ∧ derivation.tokens = before ++ more

variable {label : Option (Token × Text)} {main : Option Level}

def LabelValid (label : Option (Token × Text)) : Prop :=
  ∀ present ∈ label, present.1.kind = .label present.2 ∧ present.2 ≠ []

theorem startsQuery_main (labelled : LabelValid label) (starts : StartsLevel before) :
    StartsQuery ((label.map Prod.fst).toList ++ before) := by
  obtain ⟨fillers, completes⟩ := starts
  refine ⟨fillers, fun name more fills => ?_⟩
  obtain ⟨level, valid, tokens⟩ := completes name more fills
  refine ⟨⟨label, level, none⟩, ⟨labelled, valid, ?_⟩, ?_⟩
  · rintro present ⟨⟩
  · simp [Derivation.tokens, secondaryTokens, tokens]

theorem startsQuery_secondary {token : Token} {modifier : Modifier} (labelled : LabelValid label)
    (valid : LevelValid main) (kind : token.kind = .keyword (.modifier modifier))
    (starts : StartsLevel before) :
    StartsQuery ((label.map Prod.fst).toList ++ (levelTokens main ++ token :: before)) := by
  obtain ⟨fillers, completes⟩ := starts
  refine ⟨fillers, fun name more fills => ?_⟩
  obtain ⟨level, inner, tokens⟩ := completes name more fills
  refine ⟨⟨label, main, some (token, modifier, level)⟩, ⟨labelled, valid, ?_⟩, ?_⟩
  · rintro present ⟨⟩
    exact ⟨kind, inner⟩
  · simp [Derivation.tokens, secondaryTokens, tokens]

end Grammar
end BroadcastQuery
