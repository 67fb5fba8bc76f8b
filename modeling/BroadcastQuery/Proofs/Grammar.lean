import BroadcastQuery.Draft
import BroadcastQuery.Token

/-!
The grammar of queries. A derivation holds the tokens that it derives; which tokens may stand
where depends on their kinds only. Every derivation has one reading as a draft, and every list of
tokens has at most one derivation.
-/
namespace BroadcastQuery.Grammar

def StartsBare : Token.Kind → Prop
  | .word _ | .equals => True
  | _ => False

def ExtendsBare : Token.Kind → Prop
  | .word _ | .equals | .quoted _ | .openQuote => True
  | _ => False

/-- A value: one quoted text, or the tokens of a bare value. -/
inductive Written where
  | quoted (token : Token) (text : Text)
  | bare (first : Token) (more : List Token)

mutual

/-- A key with its value, or a level in parentheses. -/
inductive Item where
  | pair (key : Token) (name : Text) (sign : Token) (value : Written)
  | group (opening : Token) (level : Level) (closing : Token)

/-- Items with connectives between them. -/
inductive Level where
  | last (item : Item)
  | more (item : Item) (connective : Connective) (joint : Token) (rest : Level)

end

/-- A query: a label, a main level, and a modifier with a secondary level. Each may be absent. -/
structure Derivation where
  label : Option (Token × Text)
  main : Option Level
  secondary : Option (Token × Modifier × Option Level)

/-! The tokens of a derivation, from left to right. -/

def Written.tokens : Written → List Token
  | quoted token _ => [token]
  | bare first more => first :: more

mutual

def Item.tokens : Item → List Token
  | .pair key _ sign value => key :: sign :: value.tokens
  | .group opening level closing => opening :: (level.tokens ++ [closing])

def Level.tokens : Level → List Token
  | .last item => item.tokens
  | .more item _ joint rest => item.tokens ++ joint :: rest.tokens

end

def levelTokens (level : Option Level) : List Token := (level.map Level.tokens).getD []

def secondaryTokens : Option (Token × Modifier × Option Level) → List Token
  | none => []
  | some (token, _, level) => token :: levelTokens level

def Derivation.tokens (derivation : Derivation) : List Token :=
  (derivation.label.map Prod.fst).toList ++
    (levelTokens derivation.main ++ secondaryTokens derivation.secondary)

/-! Which kinds the tokens have. -/

def Written.Valid : Written → Prop
  | quoted token text => token.kind = .quoted text
  | bare first more => StartsBare first.kind ∧ ∀ token ∈ more, ExtendsBare token.kind

mutual

def Item.Valid : Item → Prop
  | .pair key name sign value => key.kind = .word name ∧ sign.kind = .equals ∧ value.Valid
  | .group opening level closing =>
    opening.kind = .leftParen ∧ (∃ connective, level.Valid connective) ∧
      closing.kind = .rightParen

/-- All joints of a level are the same connective. -/
def Level.Valid (connective : Connective) : Level → Prop
  | .last item => item.Valid
  | .more item own joint rest =>
    item.Valid ∧ own = connective ∧ joint.kind = .keyword (.connective connective) ∧
      rest.Valid connective

end

def LevelValid (level : Option Level) : Prop :=
  ∀ present ∈ level, ∃ connective, present.Valid connective

structure Derivation.Valid (derivation : Derivation) : Prop where
  label : ∀ label ∈ derivation.label, label.1.kind = .label label.2 ∧ label.2 ≠ []
  main : LevelValid derivation.main
  secondary : ∀ secondary ∈ derivation.secondary,
    secondary.1.kind = .keyword (.modifier secondary.2.1) ∧ LevelValid secondary.2.2

/-! The reading of a derivation, where `slice` is the text from one token to a later one. -/

variable (slice : Token → List Token → Text)

def Written.text : Written → Text
  | quoted _ text => text
  | bare first more => slice first more

def Written.stop : Written → Nat
  | quoted token _ => token.stop
  | bare first more => ((first :: more).getLast (List.cons_ne_nil _ _)).stop

mutual

def Item.draft : Item → Draft
  | .pair key name _ value => .leaf name (value.text slice) ⟨key.start, value.stop⟩
  | .group _ level _ => level.draft

/-- An item alone is itself, several are a chain. -/
def Level.draft : Level → Draft
  | .last item => item.draft
  | .more item connective _ rest => .chain (.inl item.draft :: .inr connective :: rest.chain)

def Level.chain : Level → List (Draft ⊕ Connective)
  | .last item => [.inl item.draft]
  | .more item connective _ rest => .inl item.draft :: .inr connective :: rest.chain

end

def Derivation.draft (derivation : Derivation) : DraftQuery where
  label := derivation.label.map Prod.snd
  main := derivation.main.map (Level.draft slice)
  secondary := derivation.secondary.map fun secondary =>
    (secondary.2.1, secondary.2.2.map (Level.draft slice))

/-- The slice of a source from the first of some neighbouring tokens to the last. -/
def sliceOf (source : Text) (first : Token) (more : List Token) : Text :=
  (source.slice? ⟨first.start, ((first :: more).getLast (List.cons_ne_nil _ _)).stop⟩).getD []

/-- What a derivation from the tokens of a source says about it. -/
def Derivation.reading (derivation : Derivation) (source : Text) : DraftQuery :=
  derivation.draft (sliceOf source)

end BroadcastQuery.Grammar
