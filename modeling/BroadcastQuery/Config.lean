import BroadcastQuery.Keyword
import BroadcastQuery.Table

/-!
What can be configured: the names that values may take, and the spellings of the reserved words.
-/
namespace BroadcastQuery

structure Config where
  channels : List Text
  /-- Further names of channels, each with the channel that it stands for. -/
  channelAliases : Table Text
  shows : List Text
  people : List Text
  tags : List Text
  keywords : Keywords
deriving DecidableEq, Repr

def Config.standard : Config where
  channels := ["CNN".toList, "FOXNEWS".toList, "MSNBC".toList]
  channelAliases := [("FOX".toList, "FOXNEWS".toList)]
  shows := []
  people := []
  tags := []
  keywords := .standard

end BroadcastQuery
