import BroadcastQuery.Text.Basic

/-!
Tables of entries under texts. Entries stand in the order in which they were made, and a later one
hides those of the same key.
-/
namespace BroadcastQuery

abbrev Table (α : Type) := List (Text × α)

namespace Table

variable {α : Type}

def find? (table : Table α) (key : Text) : Option α := table.reverse.lookup key

def size (table : Table α) : Nat := (table.map Prod.fst).eraseDups.length

def sorted (table : Table α) : Table α := table.mergeSort fun a b => a.1.le b.1

/-- The table with one entry of that key, the last. -/
def put (table : Table α) (key : Text) (value : α) : Table α :=
  table.filter (·.1 != key) ++ [(key, value)]

end Table
end BroadcastQuery
