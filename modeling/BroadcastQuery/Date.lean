import BroadcastQuery.Text.Blank

/-!
Dates of the Gregorian calendar, extended to all years, as they are read and written: year, month
and day with hyphens between them.
-/
namespace BroadcastQuery

def isLeapYear (year : Int) : Bool := year % 4 == 0 && (year % 100 != 0 || year % 400 == 0)

def daysInMonth (year : Int) (month : Nat) : Nat :=
  if month = 2 then if isLeapYear year then 29 else 28
  else if month = 4 ∨ month = 6 ∨ month = 9 ∨ month = 11 then 30
  else 31

/-- The first and the last year that dates are kept for. -/
def firstYear : Int := -262143
def lastYear : Int := 262142

def IsDay (year : Int) (month day : Nat) : Prop :=
  firstYear ≤ year ∧ year ≤ lastYear ∧ 1 ≤ month ∧ month ≤ 12 ∧ 1 ≤ day ∧
    day ≤ daysInMonth year month

instance (year : Int) (month day : Nat) : Decidable (IsDay year month day) :=
  inferInstanceAs (Decidable (_ ∧ _))

structure Date where
  year : Int
  month : Nat
  day : Nat
  isDay : IsDay year month day
deriving DecidableEq

inductive DateError where
  | tooShort
  | invalid
  | outOfRange
  | trailing
deriving DecidableEq, Repr

def DateError.message : DateError → String
  | tooShort => "premature end of input"
  | invalid => "input contains invalid characters"
  | outOfRange => "input is out of range"
  | trailing => "trailing input"

namespace Date

protected def le (a b : Date) : Bool :=
  a.year < b.year ||
    (a.year == b.year && (a.month < b.month || (a.month == b.month && a.day ≤ b.day)))

/-- Digits with zeros before them up to a number of places. -/
def padded (places n : Nat) : Text :=
  List.replicate (places - (Text.ofNat n).length) '0' ++ Text.ofNat n

/-- Years have four digits at least, and a sign unless four digits are enough. -/
def writeYear (year : Int) : Text :=
  if 0 ≤ year ∧ year ≤ 9999 then padded 4 year.natAbs
  else (if year < 0 then '-' else '+') :: padded 4 year.natAbs

def text (date : Date) : Text :=
  writeYear date.year ++ '-' :: padded 2 date.month ++ '-' :: padded 2 date.day

/-! ### Reading -/

/-- One digit or more, at most `limit`, and what follows them. -/
def readNumber (limit : Nat) (t : Text) : Except DateError (Nat × Text) :=
  match t with
  | [] => .error .tooShort
  | c :: _ =>
    if !c.isDigit then .error .invalid
    else
      let digits := (t.take limit).takeWhile Char.isDigit
      .ok (Text.number digits, t.drop digits.length)

/-- A year: up to four digits, or a sign and any number of digits. It has to fit into 32 bits. -/
def readYear (t : Text) : Except DateError (Int × Text) := do
  let t := t.trimStart
  let (year, rest) ← match t with
    | '-' :: digits => do
      let (n, rest) ← readNumber digits.length digits
      pure (-Int.ofNat n, rest)
    | '+' :: digits => do
      let (n, rest) ← readNumber digits.length digits
      pure (Int.ofNat n, rest)
    | _ => do
      let (n, rest) ← readNumber 4 t
      pure (Int.ofNat n, rest)
  if -0x80000000 ≤ year ∧ year < 0x80000000 then return (year, rest) else .error .outOfRange

/-- One or two digits for a number from one to `limit`. -/
def readField (limit : Nat) (t : Text) : Except DateError (Nat × Text) := do
  let (n, rest) ← readNumber 2 t.trimStart
  if 1 ≤ n ∧ n ≤ limit then return (n, rest) else .error .outOfRange

def readHyphen : Text → Except DateError Text
  | [] => .error .tooShort
  | c :: rest => if c = '-' then .ok rest else .error .invalid

/-- The date that a text is. Blanks may stand before each number but not after the last. -/
def ofText (t : Text) : Except DateError Date := do
  let (year, rest) ← readYear t
  let rest ← readHyphen rest
  let (month, rest) ← readField 12 rest
  let rest ← readHyphen rest
  let (day, rest) ← readField 31 rest
  if !rest.isEmpty then .error .trailing
  if isDay : IsDay year month day then return ⟨year, month, day, isDay⟩ else .error .outOfRange

end Date

/-- Days from the one to the other, both included. -/
structure DateRange where
  start : Date
  stop : Date
  ordered : start.le stop = true
deriving DecidableEq

/-- Two dates of which the first is the later one. -/
structure Reversed where
  start : Date
  stop : Date

def Reversed.message (dates : Reversed) : String :=
  "invalid date range: " ++ String.ofList dates.start.text ++ " is after " ++
    String.ofList dates.stop.text

def DateRange.ofDates (start stop : Date) : Except Reversed DateRange :=
  if ordered : start.le stop = true then .ok ⟨start, stop, ordered⟩ else .error ⟨start, stop⟩

end BroadcastQuery
