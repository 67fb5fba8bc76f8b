/-!
Classes of characters that a standard gives as ranges of code points.
-/
namespace BroadcastQuery

/-- Ranges of code points, ends included. -/
abbrev Ranges := List (Nat × Nat)

def Ranges.hold (ranges : Ranges) (c : Char) : Bool :=
  ranges.any fun range => range.1 ≤ c.toNat && c.toNat ≤ range.2

end BroadcastQuery
