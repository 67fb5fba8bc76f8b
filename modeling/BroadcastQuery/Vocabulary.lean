import BroadcastQuery.Config
import BroadcastQuery.Text.Blank
import BroadcastQuery.Text.Casing

/-!
Vocabularies: the names that values may take, found without regard to case and to blanks around
them. Every name has one canonical spelling, and channels may have further names.
-/
namespace BroadcastQuery

inductive Category where
  | channel
  | program
  | person
  | tag
deriving DecidableEq, Repr

def Category.noun : Category → String
  | channel => "channel"
  | program => "show"
  | person => "person"
  | tag => "tag"

/-- The tables of the names, each under the lower case of the trimmed name. -/
structure Vocabulary where
  channels : Table Text
  channelAliases : Table Text
  shows : Table Text
  people : Table Text
  tags : Table Text

namespace Vocabulary

def lookupKey (name : Text) : Text := name.trim.lower

/-- Names that are spelled as they were configured. -/
def index (names : List Text) : Table Text := names.map fun name => (lookupKey name, name.trim)

/-- Channels are spelled in capitals. -/
def ofConfig (config : Config) : Vocabulary where
  channels := config.channels.map fun name => (lookupKey name, name.trim.upper)
  channelAliases := config.channelAliases.map fun entry =>
    (lookupKey entry.1, lookupKey entry.2)
  shows := index config.shows
  people := index config.people
  tags := index config.tags

def table (vocabulary : Vocabulary) : Category → Table Text
  | .channel => vocabulary.channels
  | .program => vocabulary.shows
  | .person => vocabulary.people
  | .tag => vocabulary.tags

def size (vocabulary : Vocabulary) (category : Category) : Nat := (vocabulary.table category).size

/-- The canonical spelling of a name. A channel's further name leads to the channel first, by one
step only. -/
def canonical (vocabulary : Vocabulary) (category : Category) (name : Text) : Option Text :=
  let key := lookupKey name
  let key := if category = .channel then (vocabulary.channelAliases.find? key).getD key else key
  (vocabulary.table category).find? key

end Vocabulary
end BroadcastQuery
