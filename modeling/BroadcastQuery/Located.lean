import BroadcastQuery.Text.Literal

/-!
Errors that point at a place in a source text.
-/
namespace BroadcastQuery

/-- Something said about the part of a source that `span` names. -/
structure Located (α : Type) where
  what : α
  span : Span
  fragment : Text
deriving DecidableEq, Repr

namespace Located

/-- Points into `source`; a span that names no slice of it has the empty fragment. -/
def into {α : Type} (source : Text) (span : Span) (what : α) : Located α :=
  ⟨what, span, (source.slice? span).getD []⟩

def message {α : Type} (text : α → String) (place : Located α) : String :=
  text place.what ++ " (at " ++ toString place.span.start ++ ".." ++ toString place.span.stop ++
    ": " ++ String.ofList (Literal.quote place.fragment) ++ ")"

end Located
end BroadcastQuery
