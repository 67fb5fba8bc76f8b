import BroadcastQuery.Config.File
import BroadcastQuery.Request
import BroadcastQuery.Text.Typed

/-!
The console: a session in which queries are typed and explained, and commands change the settings
that they are made with. Lines are answered one after another, and only the settings pass from one
line to the next. What is logged beside the answers (the start of a session, an ungrammatical query
that matches everything, a query that was built) is left out.
-/
namespace BroadcastQuery.Console

/-- What a session keeps from line to line. -/
structure Settings where
  mode : Mode
  range : DateRange
  aggregation : Aggregation
deriving DecidableEq

namespace Settings

def initial : Settings where
  mode := .strict
  range := ⟨⟨2010, 1, 1, by decide⟩, ⟨2019, 12, 31, by decide⟩, by decide⟩
  aggregation := .month

end Settings

/-- A line that starts with a colon. -/
inductive Command where
  | quit
  | mode (mode : Mode)
  | aggregation (name : Text)
  | range (start stop : Text)
  | help
deriving DecidableEq

/-- The command that words are. Arguments that are left over do not matter; where some are
missing, and for unknown words, the answer is help. -/
def Command.ofWords : List Text → Command
  | [] => .help
  | name :: arguments =>
    if name = "quit".toList || name = "q".toList then .quit
    else if name = "strict".toList then .mode .strict
    else if name = "lenient".toList then .mode .lenient
    else match arguments with
      | [] => .help
      | first :: others =>
        if name = "agg".toList then .aggregation first
        else match others with
          | [] => .help
          | second :: _ => if name = "range".toList then .range first second else .help

inductive RangeError where
  | start (text : Text) (error : DateError)
  | stop (text : Text) (error : DateError)
  | reversed (dates : Reversed)

def RangeError.message : RangeError → String
  | start text error =>
    "invalid start date \"" ++ String.ofList text ++ "\": " ++ error.message
  | stop text error => "invalid end date \"" ++ String.ofList text ++ "\": " ++ error.message
  | reversed dates => dates.message

def readRange (start stop : Text) : Except RangeError DateRange := do
  let first ← (Date.ofText start).mapError (.start start)
  let last ← (Date.ofText stop).mapError (.stop stop)
  (DateRange.ofDates first last).mapError .reversed

def helpLine : String :=
  ":strict | :lenient | :agg day|week|month|year | :range START END | :quit"

/-- The settings after a command, and what is printed. A command that is refused leaves the
settings as they are. -/
def Settings.obey (settings : Settings) : Command → Settings × List String
  | .quit => (settings, [])
  | .mode .strict => ({ settings with mode := .strict }, ["strict mode"])
  | .mode .lenient => ({ settings with mode := .lenient }, ["lenient mode"])
  | .aggregation name =>
    match Aggregation.ofText name with
    | .ok aggregation => ({ settings with aggregation }, [])
    | .error unknown => (settings, [unknown.message])
  | .range start stop =>
    match readRange start stop with
    | .ok range => ({ settings with range }, [])
    | .error error => (settings, [error.message])
  | .help => (settings, [helpLine])

def column (name : String) : String :=
  name ++ String.ofList (List.replicate (9 - name.length) ' ')

def treeText : Option Node → String
  | some tree => String.ofList tree.wire
  | none => "(everything)"

def describe (query : Query) : List String :=
  ("  name      " ++ String.ofList query.displayName) ::
  ("  main      " ++ treeText query.main) ::
  (query.secondary.map fun secondary =>
    "  " ++ column secondary.modifier.name ++ " " ++ treeText secondary.tree).toList

/-- The changes that optimization makes to the main tree of a source. -/
def changes (checker : Checker) (source : Text) : List Change :=
  match DraftQuery.parse checker.keywords source with
  | .ok ⟨_, some main, _⟩ =>
    match checker.validate main with
    | .ok tree => tree.optimizeTraced.changes
    | .error _ => []
  | _ => []

/-- What is printed for a query: its parts, the changes and the requests, or else everything that
is wrong with it. -/
def answer (checker : Checker) (settings : Settings) (source : Text) : List String :=
  match checker.build settings.mode source with
  | .error error =>
    ("error: " ++ error.message) ::
      ((checker.check source).drop 1).map fun other => "       " ++ other.message
  | .ok query =>
    describe query ++
    (changes checker source).map (fun change => "  rewrite   " ++ change.text) ++
    (query.requests settings.range settings.aggregation).map fun request =>
      "  " ++ column request.purpose.name ++ " ?" ++ String.ofList request.queryString

/-- What a line is, once its backspaces are done and the blanks around it are gone. A line is
unusable when its backspaces cut a character in two. -/
inductive Line where
  | empty
  | command (command : Command)
  | query (source : Text)
  | unusable
deriving DecidableEq

def Line.ofText (input : Text) : Line :=
  match input.typed? with
  | none => .unusable
  | some text =>
    match text.trim with
    | [] => .empty
    | c :: rest => if c = ':' then .command (.ofWords (Text.words rest)) else .query (c :: rest)

inductive Ending where
  | finished
  | failed
deriving DecidableEq

def Ending.code : Ending → Nat
  | .finished => 0
  | .failed => 101

/-- How the session ends at a line, if it does: a command to quit finishes it, and at an unusable
line it fails. -/
def Line.ending : Line → Option Ending
  | .command .quit => some .finished
  | .unusable => some .failed
  | _ => none

def Settings.step (checker : Checker) (settings : Settings) : Line → Settings × List String
  | .empty | .unusable => (settings, [])
  | .command command => settings.obey command
  | .query source => (settings, answer checker settings source)

structure Transcript where
  printed : List String
  ending : Ending

def Transcript.after (printed : List String) (transcript : Transcript) : Transcript :=
  { transcript with printed := printed ++ transcript.printed }

/-- The transcript of lines, up to the first that ends the session. -/
def run (checker : Checker) (settings : Settings) : List Line → Transcript
  | [] => ⟨[], .finished⟩
  | line :: rest =>
    match line.ending with
    | some ending => ⟨[], ending⟩
    | none =>
      let (settings, printed) := settings.step checker line
      (run checker settings rest).after printed

def configPath : String := "vocabulary.json"

/-- The configuration of a session and the line that says where it is from. -/
def load (file : Config.File) : Config × String :=
  match Config.ofFile file with
  | .ok config =>
    (config, "loaded " ++ configPath ++ ": " ++ toString config.shows.length ++ " shows, " ++
      toString config.people.length ++ " people, " ++ toString config.tags.length ++ " tags")
  | .error error =>
    (.standard, error.message configPath ++ "; using built-in channels only")

def greeting (loaded : String) : List String := [loaded, "type a query, or :help"]

def transcript (file : Config.File) (input : Text) : Transcript :=
  let (config, loaded) := load file
  (run (.ofConfig config) .initial ((pieces (· == '\n') input).map Line.ofText)).after
    (greeting loaded)

end BroadcastQuery.Console
