import BroadcastQuery.Located

/-!
The ways in which a query can fail to be grammatical, and their wording.
-/
namespace BroadcastQuery

inductive Problem where
  | emptyLabel
  | openLabel
  /-- A closing parenthesis without an opening one. -/
  | strayParen
  /-- A modifier after the secondary query. -/
  | secondModifier
  /-- Any other token where a query or a group should have ended. -/
  | stray (lexeme : Text)
  | mixedConnectives
  /-- A connective with nothing to join after it. -/
  | dangling (lexeme : Text)
  | endOfInput
  | emptyParens
  /-- A modifier between parentheses. -/
  | innerModifier
  | unclosedParen
  | missingEquals (key : Text)
  | missingItem (lexeme : Text)
  | missingValue
  | openQuote
deriving DecidableEq, Repr

abbrev SyntaxError := Located Problem

namespace Problem

def cited (t : Text) : String := "\"" ++ String.ofList t ++ "\""

def message : Problem → String
  | emptyLabel => "alias must not be empty"
  | openLabel => "unterminated alias: missing ']'"
  | strayParen => "unbalanced parentheses: unexpected ')'"
  | secondModifier => "only one NORMALIZE or SUBTRACT may appear in a query"
  | stray lexeme => "unexpected " ++ cited lexeme
  | mixedConnectives => "cannot mix AND and OR at the same level; add parentheses"
  | dangling lexeme => "expecting input after " ++ String.ofList lexeme
  | endOfInput => "unexpected end of input"
  | emptyParens => "empty parentheses"
  | innerModifier => "NORMALIZE/SUBTRACT is only allowed at the top level, outside parentheses"
  | unclosedParen => "unbalanced parentheses: expected ')'"
  | missingEquals key => "expected '=' after key " ++ cited key
  | missingItem lexeme => "expected key=value or '(', found " ++ cited lexeme
  | missingValue => "expecting a value after '='"
  | openQuote => "unterminated quote"

end Problem

def SyntaxError.message (error : SyntaxError) : String := Located.message Problem.message error

end BroadcastQuery
