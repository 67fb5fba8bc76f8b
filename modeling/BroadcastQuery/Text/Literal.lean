import BroadcastQuery.Text.Basic
import BroadcastQuery.Text.HiddenTable
import BroadcastQuery.Text.MarkTable

/-!
Quoted literals, the form in which messages show a piece of text: every character of a literal
can be seen.
-/
namespace BroadcastQuery.Literal

/-- Hexadecimal digits in lower case, without leading zeros. -/
def hex (n : Nat) : Text := Nat.toDigits 16 n

/-- The character shows nothing by itself: a control, a character that is not drawn, or a mark. -/
def isHidden (c : Char) : Bool :=
  if c.toNat < 0x80 then c.toNat < 0x20 || c.toNat == 0x7F
  else Ranges.hold undrawn c || Ranges.hold marks c

def escape (c : Char) : Text :=
  if c = '\x00' then ['\\', '0']
  else if c = '\t' then ['\\', 't']
  else if c = '\r' then ['\\', 'r']
  else if c = '\n' then ['\\', 'n']
  else if c = '\\' then ['\\', '\\']
  else if c = '\x22' then ['\\', '\x22']
  else if isHidden c then ['\\', 'u', '\x7b'] ++ hex c.toNat ++ ['\x7d']
  else [c]

/-- A text between quotation marks, with escapes for what could not be seen. -/
def quote (t : Text) : Text := '\x22' :: t.flatMap escape ++ ['\x22']

end BroadcastQuery.Literal
