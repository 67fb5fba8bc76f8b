import BroadcastQuery.Node
import BroadcastQuery.Token.Scan

/-!
Trees written as queries. Groups inside groups stand in parentheses, and a value is quoted when it
would not survive as a bare word.
-/
namespace BroadcastQuery

/-- A bare value must be one word for the scanner, no reserved word, and free of quotation
marks. -/
def needsQuotes (t : Text) : Bool :=
  t.isEmpty || (Keywords.standard.classify t).isSome ||
    t.any fun c => Token.endsWord c || Token.isQuote c

/-- A value as it is written. There are no escapes, so a text with both quotation marks has no
faithful form. -/
def writeValue (t : Text) : Text :=
  if !needsQuotes t then t
  else if t.contains '\x22' then '\x27' :: t ++ ['\x27']
  else '\x22' :: t ++ ['\x22']

/-- Numbers are digits, so they are never quoted. -/
def Value.display : Value → Text
  | .count n => Text.ofNat n
  | value => writeValue value.plain

def Leaf.display (leaf : Leaf) : Text := leaf.key.name.toList ++ '=' :: leaf.value.display

/-- The spelling that stands between two children. -/
def Connective.joiner : Connective → Text
  | .and => " AND ".toList
  | .or => " OR ".toList

namespace Node

mutual

def display : Node → Text
  | .leaf l => l.display
  | .group connective children => Text.join connective.joiner (displayItems children)

/-- The children of a group, in parentheses where they are groups themselves. -/
def displayItems : List Node → List Text
  | [] => []
  | child :: rest =>
    (if child.isGroup then '(' :: child.display ++ [')'] else child.display) :: displayItems rest

end

end Node
end BroadcastQuery
