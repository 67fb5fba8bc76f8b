import BroadcastQuery.Text.Casing

/-!
The reserved words of the query language. Their spellings are configurable and are recognised
without regard to the case of ASCII letters.
-/
namespace BroadcastQuery

/-- What joins the children of a group. -/
inductive Connective where
  | and
  | or
deriving DecidableEq, Repr

/-- How a secondary query bears on the main one. -/
inductive Modifier where
  | normalize
  | subtract
deriving DecidableEq, Repr

inductive Keyword where
  | connective (connective : Connective)
  | modifier (modifier : Modifier)
deriving DecidableEq, Repr

def Connective.name : Connective → String
  | and => "and"
  | or => "or"

def Modifier.name : Modifier → String
  | normalize => "normalize"
  | subtract => "subtract"

structure Keywords where
  and : Text
  or : Text
  normalize : Text
  subtract : Text
deriving DecidableEq, Repr

namespace Keywords

def standard : Keywords where
  and := "AND".toList
  or := "OR".toList
  normalize := "NORMALIZE".toList
  subtract := "SUBTRACT".toList

def spelling (keywords : Keywords) : Keyword → Text
  | .connective .and => keywords.and
  | .connective .or => keywords.or
  | .modifier .normalize => keywords.normalize
  | .modifier .subtract => keywords.subtract

/-- The reserved word that a word spells. Where two spellings agree, the earlier in the order
and, or, normalize, subtract is meant. -/
def classify (keywords : Keywords) (word : Text) : Option Keyword :=
  if word.sameFold keywords.and then some (.connective .and)
  else if word.sameFold keywords.or then some (.connective .or)
  else if word.sameFold keywords.normalize then some (.modifier .normalize)
  else if word.sameFold keywords.subtract then some (.modifier .subtract)
  else none

def isAnd (keywords : Keywords) (word : Text) : Bool := word.sameFold keywords.and

end Keywords
end BroadcastQuery
