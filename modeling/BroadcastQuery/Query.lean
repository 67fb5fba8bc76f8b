import BroadcastQuery.Draft.Reading
import BroadcastQuery.Node.Optimization
import BroadcastQuery.Validation

/-!
Queries: what a source text asks for, checked and optimized.
-/
namespace BroadcastQuery

/-- What becomes of a source that is not grammatical. -/
inductive Mode where
  /-- It is refused. -/
  | strict
  /-- It matches everything. -/
  | lenient
deriving DecidableEq, Repr

/-- The query that the main one is paired with. An absent tree stands for everything. -/
structure Secondary where
  modifier : Modifier
  tree : Option Node

structure Query where
  label : Option Text
  main : Option Node
  secondary : Option Secondary
  source : Text

namespace Query

def matchAll (source : Text) : Query := ⟨none, none, none, source⟩

/-- The name in legends: the label, or else the source. -/
def displayName (query : Query) : Text := query.label.getD query.source.trim

def isMatchAll (query : Query) : Bool := query.main.isNone && query.secondary.isNone

def paired? (query : Query) (modifier : Modifier) : Option Secondary :=
  query.secondary.filter (·.modifier = modifier)

end Query

namespace Checker

variable (checker : Checker)

def ofVocabulary (vocabulary : Vocabulary) (keywords : Keywords) : Checker :=
  ⟨vocabulary.canonical, keywords⟩

def ofConfig (config : Config) : Checker := ofVocabulary (.ofConfig config) config.keywords

/-- The checked and optimized tree of a draft; nothing stays nothing. -/
def compile : Option Draft → Except QueryError (Option Node)
  | none => return none
  | some draft => return some (← checker.validate draft).optimize

def complete (source : Text) (draft : DraftQuery) : Except QueryError Query := do
  let main ← checker.compile draft.main
  let secondary ← match draft.secondary with
    | none => pure none
    | some (modifier, tree) => pure (some ⟨modifier, ← checker.compile tree⟩)
  return ⟨draft.label, main, secondary, source⟩

def build (mode : Mode) (source : Text) : Except QueryError Query :=
  match DraftQuery.parse checker.keywords source, mode with
  | .ok draft, _ => checker.complete source draft
  | .error _, .lenient => return .matchAll source
  | .error error, .strict => .error (.ungrammatical error)

/-- The trees of a draft query, main before secondary. -/
def trees (draft : DraftQuery) : List Draft :=
  draft.main.toList ++ (draft.secondary.bind Prod.snd).toList

/-- Everything that is wrong with a source: that it is not grammatical, or else every violation. -/
def check (source : Text) : List QueryError :=
  match DraftQuery.parse checker.keywords source with
  | .error error => [.ungrammatical error]
  | .ok draft => (trees draft).flatMap checker.violations

end Checker
end BroadcastQuery
