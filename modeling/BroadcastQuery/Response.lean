import BroadcastQuery.Json.Decoder

/-!
What the search service answers: results by time, either single ones or totals.
-/
namespace BroadcastQuery

/-- A video and the time that it matches for. -/
abbrev Match := UInt64 × Binary64

abbrev Details := Table (List Match)

abbrev Totals := Table Binary64

inductive Response where
  | details (details : Details)
  | totals (totals : Totals)

open Json (Decoder) in
/-- The answer that a body holds, to a request for details or for totals. -/
def Response.ofJson (detailed : Bool) (body : Text) : Except Json.Failure Response :=
  if detailed then
    let entry : Decoder (List Match) := .list (.pair .natural .double)
    ((Decoder.object entry).run body).map fun found => .details found.sorted
  else
    ((Decoder.object .double).run body).map fun found => .totals found.sorted

end BroadcastQuery
