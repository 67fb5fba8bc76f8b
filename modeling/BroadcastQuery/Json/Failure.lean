import BroadcastQuery.Text.Basic

/-!
Why a JSON text could not be read as a value of the type that was asked for.
-/
namespace BroadcastQuery.Json

inductive Category where
  /-- It ends too early. -/
  | ended
  /-- It is not JSON. -/
  | ungrammatical
  /-- It is JSON of another type. -/
  | mistyped
deriving DecidableEq, Repr

inductive Cause where
  | endInValue
  | endInString
  | endInList
  | endInObject
  | expectedColon
  | expectedListCommaOrEnd
  | expectedObjectCommaOrEnd
  | expectedIdentifier
  | expectedValue
  | invalidEscape
  | invalidNumber
  | numberOutOfRange
  | keyNotString
  | controlCharacter
  | loneSurrogate
  | unfinishedSurrogate
  | trailingComma
  | trailingCharacters
  | wrongType (expected : String)
  | duplicateField (name : String)
  | tooShort (length : Nat)
deriving DecidableEq, Repr

namespace Cause

def category : Cause → Category
  | endInValue | endInString | endInList | endInObject => .ended
  | wrongType _ | duplicateField _ | tooShort _ => .mistyped
  | _ => .ungrammatical

def message : Cause → String
  | endInValue => "EOF while parsing a value"
  | endInString => "EOF while parsing a string"
  | endInList => "EOF while parsing a list"
  | endInObject => "EOF while parsing an object"
  | expectedColon => "expected ':'"
  | expectedListCommaOrEnd => "expected ',' or ']'"
  | expectedObjectCommaOrEnd => "expected ',' or '\x7d'"
  | expectedIdentifier => "expected ident"
  | expectedValue => "expected value"
  | invalidEscape => "invalid escape"
  | invalidNumber => "invalid number"
  | numberOutOfRange => "number out of range"
  | keyNotString => "key must be a string"
  | controlCharacter =>
    "control character (\\u0000-\\u001F) found while parsing a string"
  | loneSurrogate => "lone leading surrogate in hex escape"
  | unfinishedSurrogate => "unexpected end of hex escape"
  | trailingComma => "trailing comma"
  | trailingCharacters => "trailing characters"
  | wrongType expected => "invalid type: expected " ++ expected
  | duplicateField name => "duplicate field " ++ name
  | tooShort length => "invalid length " ++ toString length

end Cause

/-- A cause and the place where reading stopped, given by its line and column. -/
structure Failure where
  cause : Cause
  line : Nat
  column : Nat
deriving DecidableEq, Repr

namespace Failure

/-- Lines are counted from one, columns by the characters read of the last line. -/
def after (read : Text) (cause : Cause) : Failure :=
  ⟨cause, read.count '\n' + 1, (read.reverse.takeWhile (· != '\n')).length⟩

def category (failure : Failure) : Category := failure.cause.category

def message (failure : Failure) : String :=
  failure.cause.message ++ " at line " ++ toString failure.line ++ " column " ++
    toString failure.column

end Failure
end BroadcastQuery.Json
