import BroadcastQuery.Draft.Problem
import BroadcastQuery.Draft
import BroadcastQuery.Node
import BroadcastQuery.Vocabulary

/-!
Checking drafts. A draft is turned into a tree of typed leaves, or refused at its first violation;
`violations` lists all of them. Where a chain mixes connectives, `and` binds tighter than `or`.
-/
namespace BroadcastQuery

inductive Reason where
  | blank
  | bothQuotes
  | notWhole (key : Key)
  | tooLarge
  | zero
  | unknown (category : Category)
  | emptyTag
deriving DecidableEq, Repr

def Reason.message : Reason → String
  | blank => "text must not be empty"
  | bothQuotes => "value cannot contain both ' and \" quotes"
  | notWhole key => key.name ++ " must be a whole number"
  | tooLarge => "number is too large"
  | zero => "face_count must be greater than zero"
  | unknown category => "not a known " ++ category.noun
  | emptyTag => "empty tag in list"

inductive Defect where
  | tooFew (items : Nat)
  | misordered
deriving DecidableEq, Repr

def Defect.message : Defect → String
  | tooFew items =>
    "operator node with " ++ toString items ++ " elements cannot hold two or more children"
  | misordered => "operator chain must alternate children and conjunctions"

inductive QueryError where
  | ungrammatical (error : SyntaxError)
  | unknownKey (key : Text)
  | invalidValue (key : Key) (value : Text) (reason : Reason)
  /-- A draft that no source text has. -/
  | malformed (defect : Defect)
deriving DecidableEq, Repr

open Problem (cited) in
def QueryError.message : QueryError → String
  | ungrammatical error => error.message
  | unknownKey key =>
    "unknown key " ++ cited key ++ "; use one of " ++ ", ".intercalate (Key.all.map Key.name)
  | invalidValue key value reason =>
    "invalid " ++ key.name ++ " " ++ cited value ++ ": " ++ reason.message
  | malformed defect => "internal error: " ++ defect.message

/-- What drafts are checked against: a source of canonical names, and the reserved words. Checking
only reads the names, so their source is a function: the same name always has the same answer. -/
structure Checker where
  canonical : Category → Text → Option Text
  keywords : Keywords

namespace Checker

def invalid {α : Type} (key : Key) (value : Text) (reason : Reason) : Except QueryError α :=
  .error (.invalidValue key value reason)

/-- A value may use one kind of quotation mark but not both. -/
def freeText (key : Key) (value : Text) : Except QueryError Value :=
  if value.contains '\x22' && value.contains '\x27' then invalid key value .bothQuotes
  else .ok (.text value)

/-- Numbers fit into 64 bits. -/
def wholeNumber (key : Key) (value : Text) : Except QueryError Nat :=
  if value.isEmpty || !value.all Char.isDigit then invalid key value (.notWhole key)
  else if value.number < wordLimit then .ok value.number
  else invalid key value .tooLarge

/-- Tags are separated by commas and by the reserved word for `and`; blanks within a tag count
as one space. -/
def splitTags (keywords : Keywords) (value : Text) : List Text :=
  (pieces (· == ',') value).flatMap fun piece =>
    (pieces keywords.isAnd (Text.words piece)).map (Text.join [' '])

variable (checker : Checker)

def lookup (key : Key) (category : Category) (name : Text) : Except QueryError Text :=
  match checker.canonical category name with
  | some canonical => .ok canonical
  | none => invalid key name (.unknown category)

/-- Tags from left to right; `value` is the list that they stand in. -/
def checkTags (value : Text) : List Text → Except QueryError (List Text)
  | [] => .ok []
  | tag :: rest => do
    let canonical ← if tag.isEmpty then invalid .faceTag value .emptyTag
      else checker.lookup .faceTag .tag tag
    return canonical :: (← checkTags value rest)

def checkValue (key : Key) (value : Text) : Except QueryError Value :=
  match key with
  | .text => if value.trim.isEmpty then invalid key value .blank else freeText key value
  | .textWindow => return .count (← wholeNumber key value)
  | .faceCount => do
    let count ← wholeNumber key value
    if count = 0 then invalid key value .zero else return .count count
  | .faceName => return .member (← checker.lookup key .person value)
  | .channel => return .member (← checker.lookup key .channel value)
  | .program => return .member (← checker.lookup key .program value)
  | .faceTag => return .tags (← checker.checkTags value (splitTags checker.keywords value))
  | .hour | .dayOfWeek | .video => freeText key value

def checkLeaf (name value : Text) : Except QueryError Leaf :=
  match Key.ofName? name with
  | none => .error (.unknownKey name)
  | some key => return ⟨key, ← checker.checkValue key value⟩

/-- A list of items is a chain when children and connectives take turns and it starts and ends
with a child, with two children at least. -/
def defect? (items : List (Draft ⊕ Connective)) : Option Defect :=
  if items.length < 3 || items.length % 2 == 0 then some (.tooFew items.length)
  else if items.zipIdx.all fun item => item.1.isLeft == (item.2 % 2 == 0) then none
  else some .misordered

/-- A group, or its only member. -/
def group (connective : Connective) : List Node → Node
  | [only] => only
  | children => .group connective children

/-- A checked chain as a tree: a disjunction of the conjunctions between its `or`s. -/
def reduce (items : List (Node ⊕ Connective)) : Node :=
  let runs := pieces (fun item => item.getRight? == some .or) items
  group .or (runs.map fun run => group .and (run.filterMap Sum.getLeft?))

mutual

/-- The tree of a draft, or its first violation in the order of the text. -/
def validate : Draft → Except QueryError Node
  | .leaf key value _ => return .leaf (← checker.checkLeaf key value)
  | .chain items =>
    match defect? items with
    | some defect => .error (.malformed defect)
    | none => return reduce (← validateItems items)

def validateItems : List (Draft ⊕ Connective) → Except QueryError (List (Node ⊕ Connective))
  | [] => return []
  | .inl child :: rest => do
    let node ← validate child
    return .inl node :: (← validateItems rest)
  | .inr connective :: rest => return .inr connective :: (← validateItems rest)

end

mutual

/-- Every violation of a draft, in the order of the text. The children of a defective chain are
checked too. -/
def violations : Draft → List QueryError
  | .leaf key value _ =>
    match checker.checkLeaf key value with
    | .ok _ => []
    | .error error => [error]
  | .chain items => ((defect? items).map .malformed).toList ++ violationsIn items

def violationsIn : List (Draft ⊕ Connective) → List QueryError
  | [] => []
  | .inl child :: rest => violations child ++ violationsIn rest
  | .inr _ :: rest => violationsIn rest

end

end Checker
end BroadcastQuery
