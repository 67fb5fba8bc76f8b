import BroadcastQuery.Text.Basic

/-!
The closed set of filter keys.
-/
namespace BroadcastQuery

inductive Key where
  | text
  | textWindow
  | faceName
  | faceTag
  | faceCount
  | channel
  | program
  | hour
  | dayOfWeek
  | video
deriving DecidableEq, Repr

namespace Key

/-- Every key, in the order in which messages list them. -/
def all : List Key :=
  [text, textWindow, faceName, faceTag, faceCount, channel, program, hour, dayOfWeek, video]

def name : Key → String
  | text => "text"
  | textWindow => "text_window"
  | faceName => "face_name"
  | faceTag => "face_tag"
  | faceCount => "face_count"
  | channel => "channel"
  | program => "show"
  | hour => "hour"
  | dayOfWeek => "day_of_week"
  | video => "video"

def ofName? (name : Text) : Option Key := all.find? (·.name.toList == name)

end Key
end BroadcastQuery
