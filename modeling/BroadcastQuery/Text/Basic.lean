/-!
Texts, their UTF-8 widths and byte spans. A span names a slice of a text exactly when both of its
ends fall between two characters.
-/
namespace BroadcastQuery

abbrev Text := List Char

/-- A range of bytes in the UTF-8 form of a text. -/
structure Span where
  start : Nat
  stop : Nat
deriving DecidableEq, Repr

/-- The least number that 64 bits cannot hold. -/
def wordLimit : Nat := 0x10000000000000000

/-- The pieces of a list between the elements that satisfy `p`; always at least one. -/
def pieces {α : Type} (p : α → Bool) : List α → List (List α)
  | [] => [[]]
  | a :: rest => if p a then [] :: pieces p rest else (pieces p rest).modifyHead (a :: ·)

namespace Text

/-- The bytes that a text takes in UTF-8. -/
def width : Text → Nat
  | [] => 0
  | c :: rest => c.utf8Size + width rest

@[simp] theorem width_nil : width [] = 0 := rfl

@[simp] theorem width_cons (c : Char) (t : Text) : width (c :: t) = c.utf8Size + width t := rfl

@[simp] theorem width_append (s t : Text) : width (s ++ t) = width s + width t := by
  induction s with
  | nil => simp
  | cons c s ih => simp [ih, Nat.add_assoc]

/-- What follows the first `n` bytes, when a character ends there. -/
def dropBytes (n : Nat) : Text → Option Text
  | [] => if n = 0 then some [] else none
  | c :: rest =>
    if n = 0 then some (c :: rest)
    else if c.utf8Size ≤ n then dropBytes (n - c.utf8Size) rest
    else none

/-- The first `n` bytes, when a character ends there. -/
def takeBytes (n : Nat) : Text → Option Text
  | [] => if n = 0 then some [] else none
  | c :: rest =>
    if n = 0 then some []
    else if c.utf8Size ≤ n then (takeBytes (n - c.utf8Size) rest).map (c :: ·)
    else none

/-- The part of a text that a span names, if it names one. -/
def slice? (t : Text) (span : Span) : Option Text :=
  if span.start ≤ span.stop then
    (t.dropBytes span.start).bind (takeBytes (span.stop - span.start))
  else none

/-- What stands before and after the first occurrence of a mark. -/
def breakAt (mark : Char) : Text → Option (Text × Text)
  | [] => none
  | c :: rest =>
    if c = mark then some ([], rest)
    else (breakAt mark rest).map fun parts => (c :: parts.1, parts.2)

theorem eq_of_breakAt {mark : Char} {t body tail : Text}
    (found : breakAt mark t = some (body, tail)) : t = body ++ mark :: tail ∧ mark ∉ body := by
  induction t generalizing body with
  | nil => simp [breakAt] at found
  | cons c rest ih =>
    unfold breakAt at found
    split at found
    case isTrue same => simp_all
    case isFalse other =>
      obtain ⟨parts, inner, made⟩ := Option.map_eq_some_iff.mp found
      obtain ⟨rfl, rfl⟩ := Prod.mk.inj made
      obtain ⟨shape, absent⟩ := ih inner
      exact ⟨by rw [shape, List.cons_append], by simp [absent, Ne.symm other]⟩

theorem breakAt_eq_none_iff {mark : Char} {t : Text} : breakAt mark t = none ↔ mark ∉ t := by
  induction t with
  | nil => simp [breakAt]
  | cons c rest ih =>
    by_cases same : c = mark
    · simp [breakAt, same]
    · simp [breakAt, same, ih, Ne.symm same]

def join (separator : Text) : List Text → Text
  | [] => []
  | [piece] => piece
  | piece :: pieces => piece ++ separator ++ join separator pieces

/-- Order by the first differing character; on UTF-8 forms this is the order of the bytes. -/
def le : Text → Text → Bool
  | [], _ => true
  | _ :: _, [] => false
  | a :: s, b :: t => a.val < b.val || (a == b && le s t)

def ofNat (n : Nat) : Text := Nat.toDigits 10 n

def number (digits : Text) : Nat :=
  digits.foldl (fun n c => 10 * n + (c.toNat - '0'.toNat)) 0

end Text
end BroadcastQuery
