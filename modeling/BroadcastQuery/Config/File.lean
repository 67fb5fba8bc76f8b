import BroadcastQuery.Config
import BroadcastQuery.Json.Decoder

/-!
Configurations from JSON. Every part may be left out and then keeps its standard value.
-/
namespace BroadcastQuery

open Json (Decoder)

def Keywords.fields : List (Decoder.Field Keywords) := [
  ⟨"and", fun k => return { k with and := ← .string }⟩,
  ⟨"or", fun k => return { k with or := ← .string }⟩,
  ⟨"normalize", fun k => return { k with normalize := ← .string }⟩,
  ⟨"subtract", fun k => return { k with subtract := ← .string }⟩]

/-- Reserved words; a spelling that is not given is the standard one. -/
def Keywords.decoder : Decoder Keywords := .record .standard Keywords.fields

namespace Config

def fields : List (Decoder.Field Config) := [
  ⟨"channels", fun c => return { c with channels := ← .list .string }⟩,
  ⟨"channel_aliases", fun c => return { c with channelAliases := ← .object .string }⟩,
  ⟨"shows", fun c => return { c with shows := ← .list .string }⟩,
  ⟨"people", fun c => return { c with people := ← .list .string }⟩,
  ⟨"tags", fun c => return { c with tags := ← .list .string }⟩,
  ⟨"keywords", fun c => return { c with keywords := ← Keywords.decoder }⟩]

def decoder : Decoder Config := .record .standard fields

def ofJson (text : Text) : Except Json.Failure Config := decoder.run text

/-- What is found where a configuration file should be. -/
inductive File where
  | absent
  /-- There is something that cannot be read, for a reason that the system gives. -/
  | unreadable (reason : String)
  | content (bytes : ByteArray)

inductive FileError where
  | notFound
  | unreadable (reason : String)
  | undecodable (failure : Json.Failure)

def FileError.message (path : String) : FileError → String
  | notFound => "config file does not exist: " ++ path
  | unreadable reason => "cannot read config file " ++ path ++ ": " ++ reason
  | undecodable failure => "cannot parse config file " ++ path ++ ": " ++ failure.message

def ofFile : File → Except FileError Config
  | .absent => .error .notFound
  | .unreadable reason => .error (.unreadable reason)
  | .content bytes =>
    match String.fromUTF8? bytes with
    | none => .error (.unreadable "stream did not contain valid UTF-8")
    | some text => (ofJson text.toList).mapError .undecodable

end Config
end BroadcastQuery
