import BroadcastQuery.Request
import BroadcastQuery.Response

/-!
Sending the requests of queries and putting the answers together. Every request is sent, whatever
becomes of the others; the result of a query is settled by its own answers in the order of its
requests. What is logged about them is left out.
-/
namespace BroadcastQuery

/-- What becomes of a request: an answer, or a failure in the service's words. -/
abbrev Outcome := Except String Response

structure SearchResult where
  main : Details
  normalize : Option Totals
  subtract : Option Totals

inductive DispatchError where
  | failed (purpose : Purpose) (reason : String)
  /-- Details came for totals, or totals for details. -/
  | unexpectedShape (purpose : Purpose)

def DispatchError.message : DispatchError → String
  | failed purpose reason => purpose.name ++ " request failed: " ++ reason
  | unexpectedShape purpose =>
    purpose.name ++ " request returned an unexpected response shape"

namespace SearchResult

def empty : SearchResult := ⟨[], none, none⟩

def add (result : SearchResult) (purpose : Purpose) (outcome : Outcome) :
    Except DispatchError SearchResult :=
  match outcome, purpose with
  | .error reason, _ => .error (.failed purpose reason)
  | .ok (.details details), .main => .ok { result with main := details }
  | .ok (.totals totals), .secondary .normalize => .ok { result with normalize := some totals }
  | .ok (.totals totals), .secondary .subtract => .ok { result with subtract := some totals }
  | .ok _, _ => .error (.unexpectedShape purpose)

/-- The result of all answers, or the first that is bad. -/
def ofOutcomes (outcomes : List (Purpose × Outcome)) : Except DispatchError SearchResult :=
  outcomes.foldlM (fun result answer => result.add answer.1 answer.2) empty

end SearchResult

/-- The result of one query, where `service` answers its requests. -/
def Query.execute (service : Request → Outcome) (range : DateRange) (aggregation : Aggregation)
    (query : Query) : Except DispatchError SearchResult :=
  SearchResult.ofOutcomes ((query.requests range aggregation).map fun request =>
    (request.purpose, service request))

def Query.executeAll (service : Request → Outcome) (range : DateRange) (aggregation : Aggregation)
    (queries : List Query) : List (Except DispatchError SearchResult) :=
  queries.map (Query.execute service range aggregation)

end BroadcastQuery
