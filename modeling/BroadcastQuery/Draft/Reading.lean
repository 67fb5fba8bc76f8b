import BroadcastQuery.Draft
import BroadcastQuery.Draft.Problem
import BroadcastQuery.Token.Scan

/-!
Reading tokens as a draft query.

A tree is read by a machine that takes one token at a time. It keeps the level that it is filling,
the levels outside it that wait for their closing parenthesis, and what is due next. It stops at
the first token that cannot belong to the tree; what it has not taken is left for later.
-/
namespace BroadcastQuery

/-- An answer together with the tokens that were not taken on the way to it. -/
structure Reading (α : Type) where
  answer : Except SyntaxError α
  rest : List Token

/-- Goes on reading after an answer; an error ends the reading where it was found. -/
def Reading.andThen {α β : Type} (reading : Reading α)
    (next : α → List Token → Reading β) : Reading β :=
  match reading.answer with
  | .ok value => next value reading.rest
  | .error error => ⟨.error error, reading.rest⟩

def Token.problem (token : Token) (what : Problem) : SyntaxError :=
  ⟨what, token.span, token.lexeme⟩

namespace Draft

/-- A level that has been read up to a connective, or not at all. -/
structure Level where
  /-- The connective of the level, once one has been read. -/
  connective : Option Connective
  /-- The children so far, the last one first. -/
  children : List Draft

def Level.fresh : Level := ⟨none, []⟩

/-- The draft of a level that ends with `last`: a child alone is itself. -/
def Level.close (level : Level) (last : Draft) : Draft :=
  match level.connective with
  | none => last
  | some connective => .chain (link connective (level.children.reverse ++ [last]))

/-- An open parenthesis and the level that goes on after it is closed. -/
structure Frame where
  paren : Token
  level : Level

/-- What makes an item necessary. -/
inductive Opening where
  | start
  | paren (token : Token)
  | connective (token : Token)

/-- What the reader stands before. -/
inductive Due where
  /-- A key or an opening parenthesis. -/
  | item (opening : Opening)
  /-- The equals sign after a key. -/
  | equals (key : Token) (name : Text)
  /-- The value after an equals sign. -/
  | value (key : Token) (name : Text) (sign : Token)
  /-- More words of a bare value. -/
  | more (key : Token) (name value : Text) (stop : Nat)
  /-- A connective or the end of the level. -/
  | link (item : Draft)

structure Reader where
  level : Level
  outer : List Frame
  due : Due

/-- What a reader does at a token: take it and go on, or stop, with the token taken or not. -/
inductive Move where
  | take (next : Reader)
  | stop (answer : Except SyntaxError Draft) (taken : Bool)

namespace Reader

def initial : Reader := ⟨.fresh, [], .item .start⟩

/-- An item is due. A problem with the token before it is reported there and leaves `token`. -/
def atItem (reader : Reader) (opening : Opening) (token : Token) : Move :=
  match opening, token.kind with
  | .paren paren, .rightParen => .stop (.error (paren.problem .emptyParens)) false
  | .connective sign, .rightParen | .connective sign, .keyword _ =>
    .stop (.error (sign.problem (.dangling sign.lexeme))) false
  | _, .leftParen => .take ⟨.fresh, ⟨token, reader.level⟩ :: reader.outer, .item (.paren token)⟩
  | _, .word name => .take { reader with due := .equals token name }
  | _, _ => .stop (.error (token.problem (.missingItem token.lexeme))) true

def afterItem (reader : Reader) (item : Draft) (token : Token) : Move :=
  match token.kind, reader.outer with
  | .keyword (.connective connective), outer =>
    if reader.level.connective.any (· != connective) then
      .stop (.error (token.problem .mixedConnectives)) false
    else
      .take ⟨⟨some connective, item :: reader.level.children⟩, outer, .item (.connective token)⟩
  | _, [] => .stop (.ok (reader.level.close item)) false
  | .rightParen, frame :: outer =>
    .take ⟨frame.level, outer, .link (reader.level.close item)⟩
  | .keyword (.modifier _), _ :: _ => .stop (.error (token.problem .innerModifier)) true
  | _, _ :: _ => .stop (.error (token.problem (.stray token.lexeme))) true

/-- A key with its value, which ends before the byte `stop`. -/
def pair (key : Token) (name value : Text) (stop : Nat) : Draft :=
  .leaf name value ⟨key.start, stop⟩

/-- One move. A bare value is the text from its first token to its last, blanks between them
included. -/
def step (reader : Reader) (token : Token) : Move :=
  match reader.due with
  | .item opening => reader.atItem opening token
  | .equals key name =>
    match token.kind with
    | .equals => .take { reader with due := .value key name token }
    | _ => .stop (.error (token.problem (.missingEquals name))) true
  | .value key name sign =>
    match token.kind with
    | .quoted text => .take { reader with due := .link (pair key name text token.stop) }
    | .openQuote => .stop (.error (token.problem .openQuote)) false
    | .word _ | .equals => .take { reader with due := .more key name token.lexeme token.stop }
    | _ => .stop (.error (sign.problem .missingValue)) false
  | .more key name value stop =>
    if token.continuesValue then
      .take { reader with due := .more key name (value ++ token.gap ++ token.lexeme) token.stop }
    else reader.afterItem (pair key name value stop) token
  | .link item => reader.afterItem item token

def endAfterItem (reader : Reader) (item : Draft) : Except SyntaxError Draft :=
  match reader.outer with
  | [] => .ok (reader.level.close item)
  | frame :: _ => .error (frame.paren.problem .unclosedParen)

/-- The answer at the end of the tokens; the source ends at the byte `limit`. -/
def finish (limit : Nat) (reader : Reader) : Except SyntaxError Draft :=
  match reader.due with
  | .item (.connective sign) => .error (sign.problem (.dangling sign.lexeme))
  | .item _ => .error ⟨.endOfInput, ⟨limit, limit⟩, []⟩
  | .equals key name => .error (key.problem (.missingEquals name))
  | .value _ _ sign => .error (sign.problem .missingValue)
  | .more key name value stop => reader.endAfterItem (pair key name value stop)
  | .link item => reader.endAfterItem item

def run (limit : Nat) (reader : Reader) : List Token → Reading Draft
  | [] => ⟨reader.finish limit, []⟩
  | token :: rest =>
    match reader.step token with
    | .take next => next.run limit rest
    | .stop answer taken => ⟨answer, if taken then rest else token :: rest⟩

end Reader

/-- A tree, or nothing where the tokens end or a modifier follows. -/
def read? (limit : Nat) : List Token → Reading (Option Draft)
  | [] => ⟨.ok none, []⟩
  | token :: rest =>
    if token.modifier?.isSome then ⟨.ok none, token :: rest⟩
    else (Reader.initial.run limit (token :: rest)).andThen fun tree rest => ⟨.ok (some tree), rest⟩

end Draft

namespace DraftQuery

/-- The label, when one stands first. -/
def label? : List Token → Reading (Option Text)
  | [] => ⟨.ok none, []⟩
  | token :: rest =>
    match token.kind with
    | .label text =>
      if text.isEmpty then ⟨.error (token.problem .emptyLabel), rest⟩ else ⟨.ok (some text), rest⟩
    | .openLabel => ⟨.error (token.problem .openLabel), token :: rest⟩
    | _ => ⟨.ok none, token :: rest⟩

/-- The problem of a token that follows a complete query. -/
def excess (token : Token) : SyntaxError :=
  match token.kind with
  | .rightParen => token.problem .strayParen
  | .keyword (.modifier _) => token.problem .secondModifier
  | _ => token.problem (.stray token.lexeme)

def complete (query : DraftQuery) : List Token → Reading DraftQuery
  | [] => ⟨.ok query, []⟩
  | token :: rest => ⟨.error (excess token), token :: rest⟩

/-- A label if there is one, the main tree, and a modifier with the secondary tree if one
follows. -/
def read (limit : Nat) (tokens : List Token) : Reading DraftQuery :=
  (label? tokens).andThen fun label rest =>
  (Draft.read? limit rest).andThen fun main rest =>
  match rest with
  | [] => complete ⟨label, main, none⟩ []
  | token :: rest =>
    match token.modifier? with
    | none => complete ⟨label, main, none⟩ (token :: rest)
    | some modifier =>
      (Draft.read? limit rest).andThen fun tree rest =>
      complete ⟨label, main, some (modifier, tree)⟩ rest

def parse (keywords : Keywords) (source : Text) : Except SyntaxError DraftQuery :=
  (read source.width (Token.scan keywords source)).answer

end DraftQuery
end BroadcastQuery
