import BroadcastQuery.Keyword

/-!
Drafts: queries as they are written, before keys and values are checked. A level of a draft is a
flat chain in which children and connectives take turns; a chain made by hand may hold them in
any order.
-/
namespace BroadcastQuery

inductive Draft where
  /-- A key and a value, and the bytes from the one to the other. -/
  | leaf (key value : Text) (span : Span)
  /-- Children and the connectives between them. -/
  | chain (items : List (Draft ⊕ Connective))

/-- Two children or more with one connective between each two neighbours. -/
def Draft.link (connective : Connective) : List Draft → List (Draft ⊕ Connective)
  | [] => []
  | [last] => [.inl last]
  | child :: rest => .inl child :: .inr connective :: link connective rest

/-- A whole query. An absent tree stands for everything. -/
structure DraftQuery where
  label : Option Text
  main : Option Draft
  secondary : Option (Modifier × Option Draft)

end BroadcastQuery
