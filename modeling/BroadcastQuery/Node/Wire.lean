import BroadcastQuery.Node

/-!
The wire form of a tree, compact JSON: a pair of key and value for a leaf, and of connective and
children for a group. Values lose their types, and a list of tags is one string.
-/
namespace BroadcastQuery

namespace Wire

/-- Escape of a character inside a JSON string. Only what JSON forbids is escaped. -/
def escape (c : Char) : Text :=
  if c = '\x22' then ['\\', '\x22']
  else if c = '\\' then ['\\', '\\']
  else if c = '\x08' then ['\\', 'b']
  else if c = '\x0c' then ['\\', 'f']
  else if c = '\n' then ['\\', 'n']
  else if c = '\r' then ['\\', 'r']
  else if c = '\t' then ['\\', 't']
  else if c.toNat < 0x20 then
    ['\\', 'u', '0', '0', Nat.digitChar (c.toNat / 16), Nat.digitChar (c.toNat % 16)]
  else [c]

def string (t : Text) : Text := '\x22' :: t.flatMap escape ++ ['\x22']

def array (items : List Text) : Text := '[' :: Text.join [','] items ++ [']']

end Wire

/-- Numbers are written bare, all other values as strings. -/
def Value.wire : Value → Text
  | .count n => Text.ofNat n
  | value => Wire.string value.plain

def Leaf.wire (leaf : Leaf) : Text :=
  Wire.array [Wire.string leaf.key.name.toList, leaf.value.wire]

namespace Node

/-- The text that the search service receives. -/
def wire : Node → Text :=
  fold Leaf.wire fun connective children =>
    Wire.array [Wire.string connective.name.toList, Wire.array children]

/-- The key by which siblings are told apart: the wire form with the children of every group
sorted, so that their order does not matter. -/
def canonicalKey : Node → Text :=
  fold Leaf.wire fun connective children =>
    Wire.array [Wire.string connective.name.toList, Wire.array (children.mergeSort Text.le)]

end Node
end BroadcastQuery
