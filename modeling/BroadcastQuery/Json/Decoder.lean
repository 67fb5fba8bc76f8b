import BroadcastQuery.Binary64
import BroadcastQuery.Json.Failure
import BroadcastQuery.Table

/-!
Reading JSON straight into typed values. A decoder reads the text of one value from left to right
and stops at the first character that rules the value out, so of several faults the leftmost is
reported. Fields that a record does not know are skipped; of these only the grammar is checked.
-/
namespace BroadcastQuery.Json

/-- Where a decoder gave up: what it had not read then. -/
structure Fault where
  cause : Cause
  rest : Text

/-- Reads a value from the front of a text and leaves the rest. -/
abbrev Decoder := StateT Text (Except Fault)

namespace Decoder

variable {α : Type}

/-- Gives up before the next character. -/
def fail (cause : Cause) : Decoder α := fun rest => .error ⟨cause, rest⟩

/-- Gives up on account of the next character. -/
def failNext (cause : Cause) : Decoder α := fun rest => .error ⟨cause, rest.tail⟩

def peek : Decoder (Option Char) := return (← get).head?

def advance : Decoder Unit := modify List.tail

def next : Decoder (Option Char) := do
  let c ← peek
  advance
  return c

def isSpace (c : Char) : Bool := c == ' ' || c == '\n' || c == '\t' || c == '\r'

/-- The next character that is not a blank, left in place. -/
def peekValue : Decoder (Option Char) := do
  modify (List.dropWhile isSpace)
  peek

def digits : Decoder Text := do
  let found := (← get).takeWhile Char.isDigit
  modify (List.dropWhile Char.isDigit)
  return found

/-- The rest of a bare word. -/
def word : Text → Decoder Unit
  | [] => return
  | expected :: rest => do
    match ← next with
    | none => fail .endInValue
    | some c => if c = expected then word rest else fail .expectedIdentifier

/-! ### Numbers -/

/-- A numeral: `digits` times a power of ten. -/
structure Numeral where
  negative : Bool
  digits : Nat
  exponent : Int
  /-- It has neither a point nor an exponent. -/
  isInteger : Bool

/-- The digits before the point; no zero leads them. -/
def leadingDigits (atEnd : Cause) : Decoder Text := do
  match ← next with
  | none => fail atEnd
  | some c =>
    if c = '0' then
      if (← peek).any Char.isDigit then failNext .invalidNumber else return [c]
    else if c.isDigit then return c :: (← digits)
    else fail .invalidNumber

def fraction (atEnd : Cause) : Decoder Text := do
  if (← peek) = some '.' then
    advance
    let found ← digits
    if found.isEmpty then
      if (← peek).isNone then fail atEnd else failNext .invalidNumber
    return found
  else return []

def exponent (atEnd : Cause) : Decoder (Option Int) := do
  if (← peek) = some 'e' || (← peek) = some 'E' then
    advance
    let negative := (← peek) = some '-'
    if negative || (← peek) = some '+' then advance
    match ← next with
    | none => fail atEnd
    | some c =>
      if !c.isDigit then fail .invalidNumber
      let size := Int.ofNat (Text.number (c :: (← digits)))
      return some (if negative then -size else size)
  else return none

/-- A numeral; `atEnd` is the cause given where the text ends inside it. -/
def numeral (atEnd : Cause) : Decoder Numeral := do
  let negative := (← peek) = some '-'
  if negative then advance
  let whole ← leadingDigits atEnd
  let places ← fraction atEnd
  let power ← exponent atEnd
  return ⟨negative, Text.number (whole ++ places), power.getD 0 - Int.ofNat places.length,
    places.isEmpty && power.isNone⟩

def boundedNumeral : Decoder (Numeral × Binary64) := do
  let found ← numeral .endInValue
  match Binary64.ofDecimal? found.negative found.digits found.exponent with
  | none => fail .numberOutOfRange
  | some double => return (found, double)

/-! ### Strings -/

def hexDigit? (c : Char) : Option Nat :=
  if c.isDigit then some (c.toNat - '0'.toNat)
  else if 'a' ≤ c ∧ c ≤ 'f' then some (c.toNat - 'a'.toNat + 10)
  else if 'A' ≤ c ∧ c ≤ 'F' then some (c.toNat - 'A'.toNat + 10)
  else none

/-- Four hexadecimal digits; with fewer than four bytes to come the text has ended. -/
def hexCode : Decoder Nat := fun rest =>
  if rest.width < 4 then .error ⟨.endInString, []⟩
  else match (rest.take 4).mapM hexDigit? with
    | some [a, b, c, d] => .ok (((a * 16 + b) * 16 + c) * 16 + d, rest.drop 4)
    | _ => .error ⟨.invalidEscape, rest.drop 4⟩

def nextOrEnd : Decoder Char := do
  match ← next with
  | none => fail .endInString
  | some c => return c

/-- The character of a hexadecimal escape, which may take two of them. -/
def hexEscape : Decoder Char := do
  let first ← hexCode
  if 0xDC00 ≤ first ∧ first ≤ 0xDFFF then fail .loneSurrogate
  if first < 0xD800 ∨ 0xDBFF < first then return Char.ofNat first
  if (← nextOrEnd) ≠ '\\' then fail .unfinishedSurrogate
  if (← nextOrEnd) ≠ 'u' then fail .unfinishedSurrogate
  let second ← hexCode
  if second < 0xDC00 ∨ 0xDFFF < second then fail .loneSurrogate
  return Char.ofNat (0x10000 + (first - 0xD800) * 0x400 + (second - 0xDC00))

/-- The character that an escape stands for, after its backslash; `hex` reads a hexadecimal one. -/
def escape (hex : Decoder Char) : Decoder Char := do
  match ← nextOrEnd with
  | '\x22' => return '\x22'
  | '\\' => return '\\'
  | '/' => return '/'
  | 'b' => return '\x08'
  | 'f' => return '\x0c'
  | 'n' => return '\n'
  | 'r' => return '\r'
  | 't' => return '\t'
  | 'u' => hex
  | _ => fail .invalidEscape

/-- The characters of a string up to its closing quotation mark. -/
def stringRest (hex : Decoder Char) : Nat → Decoder Text
  | 0 => fail .endInString
  | bound + 1 => do
    match ← nextOrEnd with
    | '\x22' => return []
    | '\\' => return (← escape hex) :: (← stringRest hex bound)
    | c => if c.toNat < 0x20 then fail .controlCharacter else return c :: (← stringRest hex bound)

/-- A string whose opening quotation mark is next. -/
def quoted : Decoder Text := do
  advance
  stringRest hexEscape ((← get).length + 1)

/-- A string of which only the grammar matters; surrogates need not be paired. -/
def skipString : Decoder Unit := do
  advance
  discard (stringRest (do discard hexCode; return ' ') ((← get).length + 1))

/-! ### Lists and objects -/

/-- There is a further element in a list, of which `first` tells whether it would be the first. -/
def moreItems (first : Bool) : Decoder Bool := do
  match ← peekValue with
  | none => fail .endInList
  | some ']' => return false
  | some ',' =>
    if first then return true
    advance
    match ← peekValue with
    | none => fail .endInValue
    | some ']' => failNext .trailingComma
    | some _ => return true
  | some _ => if first then return true else failNext .expectedListCommaOrEnd

def moreMembers (first : Bool) : Decoder Bool := do
  match ← peekValue with
  | none => fail .endInObject
  | some '\x7d' => return false
  | some c =>
    if first then
      if c = '\x22' then return true else failNext .keyNotString
    else if c = ',' then
      advance
      match ← peekValue with
      | none => fail .endInValue
      | some '\x22' => return true
      | some '\x7d' => failNext .trailingComma
      | some _ => failNext .keyNotString
    else failNext .expectedObjectCommaOrEnd

def closeList : Decoder Unit := do
  match ← peekValue with
  | none => fail .endInList
  | some ']' => advance
  | some ',' =>
    advance
    if (← peekValue) = some ']' then failNext .trailingComma else failNext .trailingCharacters
  | some _ => failNext .trailingCharacters

def colon : Decoder Unit := do
  match ← peekValue with
  | none => fail .endInObject
  | some ':' => advance
  | some _ => failNext .expectedColon

/-! ### Values -/

mutual

/-- A value of which only the grammar matters. -/
def skipValue : Nat → Decoder Unit
  | 0 => fail .expectedValue
  | bound + 1 => do
    match ← peekValue with
    | none => fail .endInValue
    | some 'n' => word "null".toList
    | some 't' => word "true".toList
    | some 'f' => word "false".toList
    | some '\x22' => skipString
    | some '[' =>
      advance
      match ← peekValue with
      | none => fail .endInList
      | some ']' => advance
      | some _ => skipItems bound
    | some '\x7b' =>
      advance
      match ← peekValue with
      | none => fail .endInObject
      | some '\x7d' => advance
      | some _ => skipMembers bound
    | some c =>
      if c = '-' || c.isDigit then discard (numeral .invalidNumber)
      else failNext .expectedValue

def skipItems : Nat → Decoder Unit
  | 0 => fail .expectedValue
  | bound + 1 => do
    skipValue bound
    match ← peekValue with
    | none => fail .endInList
    | some ',' =>
      advance
      skipItems bound
    | some ']' => advance
    | some _ => failNext .expectedListCommaOrEnd

def skipMembers : Nat → Decoder Unit
  | 0 => fail .expectedValue
  | bound + 1 => do
    match ← peekValue with
    | none => fail .endInObject
    | some '\x22' => skipString
    | some _ => failNext .keyNotString
    colon
    skipValue bound
    match ← peekValue with
    | none => fail .endInObject
    | some ',' =>
      advance
      skipMembers bound
    | some '\x7d' => advance
    | some _ => failNext .expectedObjectCommaOrEnd

end

def skip : Decoder Unit := do skipValue (2 * (← get).length + 2)

/-- Refuses the next value for its type, or for its grammar where that fails first. -/
def refuse (expected : String) : Decoder α := do
  match ← peek with
  | some 'n' => word "null".toList
  | some 't' => word "true".toList
  | some 'f' => word "false".toList
  | some '\x22' => discard quoted
  | some '[' | some '\x7b' => pure ()
  | some c =>
    if c = '-' || c.isDigit then discard boundedNumeral else failNext .expectedValue
  | none => failNext .expectedValue
  fail (.wrongType expected)

def byFirst (choose : Char → Decoder α) : Decoder α := do
  match ← peekValue with
  | none => fail .endInValue
  | some c => choose c

def string : Decoder Text :=
  byFirst fun c => if c = '\x22' then quoted else refuse "a string"

/-- A whole number of 64 bits without a sign. -/
def natural : Decoder UInt64 :=
  byFirst fun c => do
    if c = '-' || c.isDigit then
      let (found, _) ← boundedNumeral
      if found.isInteger && !found.negative && found.digits < wordLimit then
        return .ofNat found.digits
      else fail (.wrongType "u64")
    else refuse "u64"

def double : Decoder Binary64 :=
  byFirst fun c => do
    if c = '-' || c.isDigit then return (← boundedNumeral).2 else refuse "f64"

/-- The elements of a list from the next one on, through the closing bracket. -/
def itemsFrom (item : Decoder α) (first : Bool) : Nat → Decoder (List α)
  | 0 => fail .endInList
  | bound + 1 => do
    if ← moreItems first then return (← item) :: (← itemsFrom item false bound)
    else
      closeList
      return []

def list (item : Decoder α) : Decoder (List α) :=
  byFirst fun c => do
    if c = '[' then
      advance
      itemsFrom item true ((← get).length + 1)
    else refuse "a sequence"

/-- A list of exactly two elements. -/
def pair {β : Type} (left : Decoder α) (right : Decoder β) : Decoder (α × β) :=
  byFirst fun c => do
    if c = '[' then
      advance
      if !(← moreItems true) then fail (.tooShort 0)
      let a ← left
      if !(← moreItems false) then fail (.tooShort 1)
      let b ← right
      closeList
      return (a, b)
    else refuse "a tuple of size 2"

/-- The members of an object through the closing brace, each handed to `member` with what the
earlier ones gave. -/
def membersFrom (member : Text → α → Decoder α) (first : Bool) (value : α) : Nat → Decoder α
  | 0 => fail .endInObject
  | bound + 1 => do
    if ← moreMembers first then
      let key ← quoted
      membersFrom member false (← member key value) bound
    else
      advance
      return value

/-- An object as a table. Of entries with one key the last counts. -/
def object (item : Decoder α) : Decoder (Table α) :=
  byFirst fun c => do
    if c = '\x7b' then
      advance
      let member (key : Text) (entries : Table α) : Decoder (Table α) := do
        colon
        return entries.put key (← item)
      membersFrom member true [] ((← get).length + 1)
    else refuse "a map"

/-- A field of a record: its name, and how its value is read and put into the record. -/
structure Field (α : Type) where
  name : String
  read : α → Decoder α

/-- The fields of a record from a list, in their order; those that are missing keep their
values. -/
def fieldsFrom (first : Bool) (value : α) : List (Field α) → Decoder α
  | [] => do
    closeList
    return value
  | field :: rest => do
    if ← moreItems first then fieldsFrom false (← field.read value) rest
    else
      closeList
      return value

/-- One member of a record: a field, which may stand there once, or something unknown. -/
def readMember (fields : List (Field α)) (key : Text) (state : List String × α) :
    Decoder (List String × α) := do
  match fields.find? (·.name.toList == key) with
  | none =>
    colon
    skip
    return state
  | some field =>
    if field.name ∈ state.1 then fail (.duplicateField field.name)
    colon
    return (field.name :: state.1, ← field.read state.2)

/-- A record, as an object or as the list of its fields. What is not given keeps the value that
it has in `standard`. -/
def record (standard : α) (fields : List (Field α)) : Decoder α :=
  byFirst fun c => do
    if c = '[' then
      advance
      fieldsFrom true standard fields
    else if c = '\x7b' then
      advance
      return (← membersFrom (readMember fields) true ([], standard) ((← get).length + 1)).2
    else refuse "a struct"

def run (decoder : Decoder α) (source : Text) : Except Failure α :=
  let whole : Decoder α := do
    let value ← decoder
    if (← peekValue).isSome then failNext .trailingCharacters
    return value
  match whole source with
  | .ok (value, _) => .ok value
  | .error fault =>
    .error (.after (source.take (source.length - fault.rest.length)) fault.cause)

end Decoder
end BroadcastQuery.Json
