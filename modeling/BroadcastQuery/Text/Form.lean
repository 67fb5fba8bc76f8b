import BroadcastQuery.Text.Basic

/-!
Pairs of names and values in the form `application/x-www-form-urlencoded`.
-/
namespace BroadcastQuery.Form

def isPlain (c : Char) : Bool :=
  c.isAlphanum || c == '*' || c == '-' || c == '.' || c == '_'

/-- A hexadecimal digit, letters in capitals. -/
def hexDigit (n : Nat) : Char := (Nat.digitChar n).toUpper

def percent (byte : UInt8) : Text :=
  ['%', hexDigit (byte.toNat / 16), hexDigit (byte.toNat % 16)]

def encodeChar (c : Char) : Text :=
  if isPlain c then [c]
  else if c = ' ' then ['+']
  else (String.utf8EncodeChar c).flatMap percent

def encode (t : Text) : Text := t.flatMap encodeChar

def encodePairs (pairs : List (Text × Text)) : Text :=
  Text.join ['&'] (pairs.map fun pair => encode pair.1 ++ '=' :: encode pair.2)

end BroadcastQuery.Form
