import BroadcastQuery.Text.CaseTable
import BroadcastQuery.Text.Basic

/-!
Upper and lower case. Names are compared by the full default mappings of Unicode, where one
character may become several and a sigma at the end of a word is written differently; reserved
words are compared by ASCII letters alone.
-/
namespace BroadcastQuery

namespace Casing

/-- The lower case of a character, apart from its neighbours. -/
def lowerChar (c : Char) : Text :=
  if c.toNat < 0x80 then [c.toLower]
  else if c.toNat = 0x130 then ['i', Char.ofNat 0x307]
  else match CaseTable.shifted CaseTable.lowerRuns c.toNat with
    | some n => [Char.ofNat n]
    | none => [c]

def upperChar (c : Char) : Text :=
  if c.toNat < 0x80 then [c.toUpper]
  else match CaseTable.upperSequences.lookup c.toNat with
    | some ns => ns.map Char.ofNat
    | none => match CaseTable.shifted CaseTable.upperRuns c.toNat with
      | some n => [Char.ofNat n]
      | none => [c]

/-- The property Cased: letters that have or are a case form. -/
def isCased (c : Char) : Bool :=
  if c.toNat < 0x80 then c.isAlpha else Ranges.hold CaseTable.cased c

/-- The property Case_Ignorable: marks and joining punctuation, which the rule for the final
sigma looks through. -/
def isIgnorable (c : Char) : Bool :=
  if c.toNat < 0x80 then ['\x27', '.', ':', '^', '\x60'].contains c
  else Ranges.hold CaseTable.caseIgnorable c

/-- The first character that is not ignorable is a cased one. -/
def meetsCased (t : Text) : Bool :=
  match t.dropWhile isIgnorable with
  | [] => false
  | c :: _ => isCased c

def capitalSigma : Char := Char.ofNat 0x3A3
def smallSigma : Char := Char.ofNat 0x3C3
def finalSigma : Char := Char.ofNat 0x3C2

/-- Lower case of the text that follows `before`, which is given nearest character first. A
capital sigma becomes a final one when a cased letter precedes it and none follows it. -/
def lowerAfter (before : Text) : Text → Text
  | [] => []
  | c :: rest =>
    (if c = capitalSigma then
      [if meetsCased before && !meetsCased rest then finalSigma else smallSigma]
    else lowerChar c) ++ lowerAfter (c :: before) rest

end Casing

namespace Text

def lower (t : Text) : Text := Casing.lowerAfter [] t

def upper (t : Text) : Text := t.flatMap Casing.upperChar

/-- The text with its ASCII letters in lower case. -/
def foldAscii (t : Text) : Text := t.map Char.toLower

def sameFold (s t : Text) : Bool := s.foldAscii == t.foldAscii

end Text
end BroadcastQuery
