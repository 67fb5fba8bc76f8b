import BroadcastQuery.Text.Cluster

/-!
Texts as they are typed: each backspace takes back the cluster before it. A text without backspaces
is what was typed.
-/
namespace BroadcastQuery

/-- What has been typed so far. The size of a cluster is kept in one byte, so of a cluster of 256
bytes and more a backspace takes back only what is left over from multiples of 256. -/
structure Typed where
  /-- The characters, last one first. -/
  shown : Text
  /-- The sizes of the clusters that can be taken back, last one first. -/
  sizes : List Nat
deriving DecidableEq

namespace Typed

def backspace : Char := '\x08'

def start : Typed := ⟨[], []⟩

def add (typed : Typed) (cluster : Text) : Typed :=
  ⟨cluster.reverse ++ typed.shown, cluster.width % 256 :: typed.sizes⟩

/-- The last cluster taken back. There is no answer where that would cut a character in two. -/
def takeBack (typed : Typed) : Option Typed :=
  match typed.sizes with
  | [] => some typed
  | size :: sizes => (typed.shown.dropBytes size).map (⟨·, sizes⟩)

def step (typed : Typed) (cluster : Text) : Option Typed :=
  if cluster = [backspace] then typed.takeBack else some (typed.add cluster)

def text (typed : Typed) : Text := typed.shown.reverse

end Typed

namespace Text

/-- The text that is left of an input with backspaces. -/
def typed? (input : Text) : Option Text :=
  (input.clusters.foldlM Typed.step .start).map Typed.text

end Text
end BroadcastQuery
