import BroadcastQuery.Date
import BroadcastQuery.Proofs.Pieces
import BroadcastQuery.Proofs.Wire

/-!
Dates survive being written. Years beyond four digits have a sign, so where a number ends can
always be told, and the text of a date is read as that date.
-/
namespace BroadcastQuery.Date

variable {places n limit : Nat} {c : Char} {digits rest : Text}

theorem isDigit_of_mem_padded (member : c ∈ padded places n) : c.isDigit = true := by
  rcases List.mem_append.mp member with zero | digit
  · rw [(List.mem_replicate.mp zero).2]
    rfl
  · exact Wire.isDigit_of_mem_ofNat digit

theorem padded_ne_nil (places n : Nat) : padded places n ≠ [] := by
  have nonempty : Text.ofNat n ≠ [] := Nat.toDigits_ne_nil
  simp [padded, nonempty]

/-- Zeros in front do not count. -/
theorem number_padded (places n : Nat) : (padded places n).number = n := by
  have number : (Text.ofNat n).number = n := Nat.ofDigitChars_ten_toDigits
  have zeros (k : Nat) : (List.replicate k '0').foldl
      (fun n c => 10 * n + (c.toNat - '0'.toNat)) 0 = 0 := by
    induction k with
    | zero => rfl
    | succ k ih => rw [List.replicate_succ, List.foldl_cons]; exact ih
  rw [Text.number, padded, List.foldl_append, zeros]
  exact number

theorem length_padded (fits : (Text.ofNat n).length ≤ places) :
    (padded places n).length = places := by
  rw [padded, List.length_append, List.length_replicate]
  omega

theorem length_padded_two (small : n < 100) : (padded 2 n).length = 2 :=
  length_padded ((Nat.length_toDigits_le_iff (by decide) (by decide)).mpr small)

theorem length_padded_four (small : n < 10000) : (padded 4 n).length = 4 :=
  length_padded ((Nat.length_toDigits_le_iff (by decide) (by decide)).mpr small)

/-- No number goes on with these characters. -/
def EndsNumber (rest : Text) : Prop := ∀ c ∈ rest.head?, c.isDigit = false

theorem readNumber_append (nonempty : digits ≠ []) (all : ∀ c ∈ digits, c.isDigit = true)
    (fits : digits.length ≤ limit) (ends : EndsNumber rest) :
    readNumber limit (digits ++ rest) = .ok (digits.number, rest) := by
  obtain ⟨c, more, rfl⟩ := List.exists_cons_of_ne_nil nonempty
  have stop : ∀ a ∈ (rest.take (limit - (c :: more).length)).head?, a.isDigit = false := by
    intro a head
    rw [List.head?_take] at head
    split at head
    · contradiction
    · exact ends a head
  have run : ((c :: more ++ rest).take limit).takeWhile Char.isDigit = c :: more := by
    rw [List.take_append, List.take_of_length_le fits, takeWhile_run all stop]
  have first := all c List.mem_cons_self
  rw [List.cons_append, readNumber, ← List.cons_append, run]
  simp [first]

theorem readNumber_padded (limit places n : Nat) (fits : (padded places n).length ≤ limit)
    (ends : EndsNumber rest) : readNumber limit (padded places n ++ rest) = .ok (n, rest) := by
  rw [readNumber_append (padded_ne_nil places n) (fun c => isDigit_of_mem_padded) fits ends,
    number_padded]

theorem trimStart_padded (places n : Nat) (rest : Text) :
    Text.trimStart (padded places n ++ rest) = padded places n ++ rest := by
  apply Text.trimStart_of_head
  intro c head
  obtain ⟨d, more, shape⟩ := List.exists_cons_of_ne_nil (padded_ne_nil places n)
  have digit : d.isDigit = true := isDigit_of_mem_padded (by rw [shape]; exact List.mem_cons_self)
  rw [shape] at head
  obtain rfl := Option.some.inj head
  exact isBlank_of_isDigit digit

theorem readField_padded (least : 1 ≤ n) (most : n ≤ limit) (two : limit < 100)
    (ends : EndsNumber rest) : readField limit (padded 2 n ++ rest) = .ok (n, rest) := by
  have fits : (padded 2 n).length = 2 := length_padded_two (by omega)
  have read := readNumber_padded 2 2 n (Nat.le_of_eq fits) ends
  simp [readField, trimStart_padded, read, bind, Except.bind, least, most, pure, Except.pure]

theorem ok_bind {α β : Type} (value : α) (next : α → Except DateError β) :
    (.ok value >>= next) = next value := rfl

/-! Years. The bound of 32 bits is kept folded: beside a number that is not known the kernel would
count it down. -/

/-- A year that fits into 32 bits, and what follows it. -/
def fitted (year : Int) (rest : Text) : Except DateError (Int × Text) :=
  if -0x80000000 ≤ year ∧ year < 0x80000000 then return (year, rest) else .error .outOfRange

theorem fitted_eq (year : Int) (rest : Text) :
    (if -0x80000000 ≤ year ∧ year < 0x80000000 then return (year, rest) else .error .outOfRange) =
      fitted year rest := rfl

theorem readYear_minus (digits : Text) : readYear ('-' :: digits) =
    readNumber digits.length digits >>= fun read => fitted (-Int.ofNat read.1) read.2 := by
  have solid : Text.trimStart ('-' :: digits) = '-' :: digits := rfl
  simp only [readYear, solid, fitted_eq, pure_bind]

theorem readYear_plus (digits : Text) : readYear ('+' :: digits) =
    readNumber digits.length digits >>= fun read => fitted (Int.ofNat read.1) read.2 := by
  have solid : Text.trimStart ('+' :: digits) = '+' :: digits := rfl
  simp only [readYear, solid, fitted_eq, pure_bind]

theorem readYear_digit {d : Char} (digit : d.isDigit = true) (more : Text) :
    readYear (d :: more) =
      readNumber 4 (d :: more) >>= fun read => fitted (Int.ofNat read.1) read.2 := by
  have solid : Text.trimStart (d :: more) = d :: more :=
    Text.trimStart_of_head (by simpa using isBlank_of_isDigit digit)
  simp only [readYear, solid, fitted_eq, pure_bind]
  split
  case h_1 same => exact absurd (List.cons.inj same).1 (ne_of_isDigit digit rfl)
  case h_2 same => exact absurd (List.cons.inj same).1 (ne_of_isDigit digit rfl)
  case h_3 => rfl

theorem fitted_of_bounds {year : Int} (first : firstYear ≤ year) (last : year ≤ lastYear)
    (rest : Text) : fitted year rest = .ok (year, rest) := by
  unfold firstYear at first
  unfold lastYear at last
  rw [fitted, if_pos (by omega)]
  rfl

/-- A year of four digits at most has no sign. -/
theorem readYear_padded {year : Nat} (small : year ≤ 9999) (ends : EndsNumber rest) :
    readYear (padded 4 year ++ rest) = fitted (Int.ofNat year) rest := by
  have fits : (padded 4 year).length = 4 := length_padded_four (by omega)
  have read := readNumber_padded 4 4 year (Nat.le_of_eq fits) ends
  obtain ⟨d, more, shape⟩ := List.exists_cons_of_ne_nil (padded_ne_nil 4 year)
  have digit : d.isDigit = true := isDigit_of_mem_padded (by rw [shape]; exact List.mem_cons_self)
  rw [shape, List.cons_append] at read ⊢
  rw [readYear_digit digit, read, ok_bind]

theorem readYear_writeYear {year : Int} (first : firstYear ≤ year) (last : year ≤ lastYear)
    (ends : EndsNumber rest) : readYear (writeYear year ++ rest) = .ok (year, rest) := by
  rw [← fitted_of_bounds first last rest, writeYear]
  have read := readNumber_padded (padded 4 year.natAbs ++ rest).length 4 year.natAbs (by simp) ends
  split
  case isTrue plain =>
    have same : Int.ofNat year.natAbs = year := Int.natAbs_of_nonneg plain.1
    rw [readYear_padded (by omega) ends, same]
  split
  case isTrue negative =>
    have same : -Int.ofNat year.natAbs = year := by
      rw [Int.ofNat_eq_natCast]
      omega
    rw [List.cons_append, readYear_minus, read, ok_bind, same]
  case isFalse positive =>
    have same : Int.ofNat year.natAbs = year := by
      rw [Int.ofNat_eq_natCast]
      omega
    rw [List.cons_append, readYear_plus, read, ok_bind, same]

theorem endsNumber_hyphen (rest : Text) : EndsNumber ('-' :: rest) := by
  rintro c ⟨⟩
  rfl

/-- Every date is read back from its text. -/
theorem ofText_text (date : Date) : ofText date.text = .ok date := by
  obtain ⟨year, month, day, isDay⟩ := date
  have days := isDay
  obtain ⟨first, last, leastMonth, mostMonth, leastDay, mostDay⟩ := days
  have mostDay : day ≤ 31 := by
    unfold daysInMonth at mostDay
    split at mostDay <;> split at mostDay <;> omega
  have nothing : EndsNumber [] := by
    rintro c ⟨⟩
  have yearRead := readYear_writeYear first last
    (endsNumber_hyphen (padded 2 month ++ '-' :: padded 2 day))
  have monthRead := readField_padded leastMonth mostMonth (by decide)
    (endsNumber_hyphen (padded 2 day))
  have dayRead := readField_padded leastDay mostDay (by decide) nothing
  rw [List.append_nil] at dayRead
  simp [ofText, text, yearRead, monthRead, dayRead, readHyphen, bind, Except.bind, pure,
    Except.pure, isDay]

end BroadcastQuery.Date
