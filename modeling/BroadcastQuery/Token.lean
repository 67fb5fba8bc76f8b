import BroadcastQuery.Keyword

/-!
Tokens. A token keeps the blanks before it and its own characters, so a list of tokens
determines the text that it was read from, up to the blanks at the very end.
-/
namespace BroadcastQuery

/-- What a token is. Words, quoted texts and labels carry their content without delimiters. -/
inductive Token.Kind where
  | keyword (keyword : Keyword)
  | word (text : Text)
  | quoted (text : Text)
  | label (text : Text)
  | leftParen
  | rightParen
  | equals
  /-- A quotation mark that no later one of its kind closes. -/
  | openQuote
  /-- A bracket at the start of a query that is never closed. -/
  | openLabel
deriving DecidableEq, Repr

structure Token where
  kind : Token.Kind
  /-- The blanks between the token before and this one. -/
  gap : Text
  /-- The characters of the token, delimiters included. -/
  lexeme : Text
  /-- The byte at which the lexeme starts. -/
  start : Nat
deriving DecidableEq, Repr

namespace Token

def stop (token : Token) : Nat := token.start + token.lexeme.width

def span (token : Token) : Span := ⟨token.start, token.stop⟩

def modifier? (token : Token) : Option Modifier :=
  match token.kind with
  | .keyword (.modifier m) => some m
  | _ => none

/-- Tokens that a bare value may go on with. -/
def continuesValue (token : Token) : Bool :=
  match token.kind with
  | .word _ | .equals | .quoted _ | .openQuote => true
  | _ => false

end Token
end BroadcastQuery
