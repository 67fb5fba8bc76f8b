import BroadcastQuery.Date
import BroadcastQuery.Query
import BroadcastQuery.Text.Form

/-!
Requests to the search service. A query asks for its main tree in detail and, if it is paired with
another, for the totals of that.
-/
namespace BroadcastQuery

/-- The part of a query that a request is made for. -/
inductive Purpose where
  | main
  | secondary (modifier : Modifier)
deriving DecidableEq, Repr

def Purpose.name : Purpose → String
  | main => "main"
  | secondary modifier => modifier.name

/-- The length of time that results are added up over. -/
inductive Aggregation where
  | day
  | week
  | month
  | year
deriving DecidableEq, Repr

namespace Aggregation

def name : Aggregation → String
  | day => "day"
  | week => "week"
  | month => "month"
  | year => "year"

/-- A name that no aggregation has, in lower case. -/
structure Unknown where
  name : Text

def Unknown.message (unknown : Unknown) : String :=
  "unknown aggregation \"" ++ String.ofList unknown.name ++ "\"; use day, week, month or year"

/-- The aggregation of a name, whatever the case of its letters. -/
def ofText (t : Text) : Except Unknown Aggregation :=
  match [day, week, month, year].find? (·.name.toList == t.foldAscii) with
  | some aggregation => .ok aggregation
  | none => .error ⟨t.foldAscii⟩

end Aggregation

structure Request where
  purpose : Purpose
  /-- The wire form of the tree; an absent tree stands for everything. -/
  tree : Option Text
  /-- Single results are asked for, not totals. -/
  detailed : Bool
  range : DateRange
  aggregation : Aggregation

namespace Request

/-- What a request asks for, under the names of the parameters. There is a query only if there is
a tree. -/
def fields (request : Request) : Table Text :=
  [("detailed".toList, (if request.detailed then "true" else "false").toList),
   ("start_date".toList, request.range.start.text),
   ("end_date".toList, request.range.stop.text),
   ("aggregate".toList, request.aggregation.name.toList)] ++
  (request.tree.map ("query".toList, ·)).toList

def params (request : Request) : Table Text := request.fields.sorted

/-- The parameters as they are sent; equal requests have equal strings. -/
def queryString (request : Request) : Text := Form.encodePairs request.params

/-- The address of the service with the parameters for its query; a fragment stays. -/
def url (request : Request) (base : Text) : Text :=
  base.takeWhile (fun c => c != '?' && c != '#') ++ '?' :: request.queryString ++
    base.dropWhile (· != '#')

end Request

/-- The requests of a query, that for the main tree first. -/
def Query.requests (query : Query) (range : DateRange) (aggregation : Aggregation) :
    List Request :=
  let main := ⟨.main, query.main.map Node.wire, true, range, aggregation⟩
  let paired (secondary : Secondary) : Request :=
    ⟨.secondary secondary.modifier, secondary.tree.map Node.wire, false, range, aggregation⟩
  main :: (query.secondary.map paired).toList

end BroadcastQuery
