import BroadcastQuery.Node.Wire
import BroadcastQuery.Proofs.Runs

/-!
JSON texts tell where they end. Strings and arrays do so by themselves, numbers by the mark that
follows them, so a text is put together from others in one way only.
-/
namespace BroadcastQuery

theorem ne_of_isDigit {c mark : Char} (digit : c.isDigit = true) (other : mark.isDigit = false) :
    c ≠ mark := by
  rintro rfl
  rw [digit] at other
  contradiction

namespace Wire

def hexValue (c : Char) : Nat :=
  if c.isDigit then c.toNat - '0'.toNat else c.toNat - 'a'.toNat + 10

/-- The character that stands first in a JSON string, and what follows it. -/
def unescape? : Text → Option (Char × Text)
  | [] => none
  | '\x22' :: _ => none
  | '\\' :: 'b' :: rest => some ('\x08', rest)
  | '\\' :: 'f' :: rest => some ('\x0c', rest)
  | '\\' :: 'n' :: rest => some ('\n', rest)
  | '\\' :: 'r' :: rest => some ('\r', rest)
  | '\\' :: 't' :: rest => some ('\t', rest)
  | '\\' :: 'u' :: _ :: _ :: high :: low :: rest =>
    some (Char.ofNat (hexValue high * 16 + hexValue low), rest)
  | '\\' :: c :: rest => some (c, rest)
  | c :: rest => some (c, rest)

theorem hexValue_digitChar {n : Nat} (bound : n < 16) : hexValue (Nat.digitChar n) = n := by
  revert n
  decide

theorem unescape?_escape (c : Char) (rest : Text) :
    unescape? (escape c ++ rest) = some (c, rest) := by
  unfold escape
  split
  case isTrue quote => subst quote; rfl
  split
  case isTrue backslash => subst backslash; rfl
  split
  case isTrue backspace => subst backspace; rfl
  split
  case isTrue feed => subst feed; rfl
  split
  case isTrue newline => subst newline; rfl
  split
  case isTrue carriage => subst carriage; rfl
  split
  case isTrue tab => subst tab; rfl
  split
  case isTrue control =>
    have value : hexValue (Nat.digitChar (c.toNat / 16)) * 16 +
        hexValue (Nat.digitChar (c.toNat % 16)) = c.toNat := by
      rw [hexValue_digitChar (by omega), hexValue_digitChar (by omega)]
      omega
    simp only [List.cons_append, List.nil_append, unescape?, value, Char.ofNat_toNat]
  case isFalse => simp_all [unescape?]

theorem flatMap_escape_inj {s t rest rest' : Text}
    (same : s.flatMap escape ++ '\x22' :: rest = t.flatMap escape ++ '\x22' :: rest') :
    s = t ∧ rest = rest' := by
  induction s generalizing t with
  | nil =>
    cases t with
    | nil => simpa using same
    | cons d t =>
      have read := congrArg unescape? same
      rw [List.flatMap_cons, List.append_assoc, unescape?_escape] at read
      simp [unescape?] at read
  | cons c s ih =>
    cases t with
    | nil =>
      have read := congrArg unescape? same
      rw [List.flatMap_cons, List.append_assoc, unescape?_escape] at read
      simp [unescape?] at read
    | cons d t =>
      have read := congrArg unescape? same
      rw [List.flatMap_cons, List.flatMap_cons, List.append_assoc, List.append_assoc,
        unescape?_escape, unescape?_escape] at read
      obtain ⟨rfl, tails⟩ := Prod.mk.inj (Option.some.inj read)
      obtain ⟨rfl, rests⟩ := ih tails
      exact ⟨rfl, rests⟩

theorem string_append_inj {s t rest rest' : Text} (same : string s ++ rest = string t ++ rest') :
    s = t ∧ rest = rest' := by
  simp only [string, List.cons_append, List.append_assoc, List.nil_append] at same
  exact flatMap_escape_inj (List.cons.inj same).2

theorem string_inj {s t : Text} : string s = string t ↔ s = t :=
  ⟨fun same => (string_append_inj (congrArg (· ++ []) same)).1, congrArg string⟩

/-- A JSON text made of strings, numbers and arrays. -/
inductive Form : Text → Prop
  | string (t : Text) : Form (string t)
  | number (n : Nat) : Form (Text.ofNat n)
  | array {items : List Text} (each : ∀ item ∈ items, Form item) : Form (array items)

/-- What may follow an item of an array. -/
def isMark (c : Char) : Bool := c == ',' || c == ']'

theorem isMark_eq_false_of_isDigit {c : Char} (digit : c.isDigit = true) : isMark c = false := by
  simp [isMark, ne_of_isDigit digit]

theorem isDigit_of_mem_ofNat {n : Nat} {c : Char} (member : c ∈ Text.ofNat n) :
    c.isDigit = true :=
  Nat.isDigit_of_mem_toDigits (by decide) (by decide) member

theorem Form.exists_cons {t : Text} (form : Form t) :
    ∃ c rest, t = c :: rest ∧ isMark c = false := by
  cases form with
  | string s => exact ⟨_, _, rfl, rfl⟩
  | array each => exact ⟨_, _, rfl, rfl⟩
  | number n =>
    obtain ⟨c, rest, shape⟩ := List.exists_cons_of_ne_nil (Nat.toDigits_ne_nil (b := 10) (n := n))
    refine ⟨c, rest, shape, isMark_eq_false_of_isDigit (isDigit_of_mem_ofNat (n := n) ?_)⟩
    rw [Text.ofNat, shape]
    exact List.mem_cons_self

/-- The items of an array from the first one on, and the bracket that closes it. -/
def items : List Text → Text
  | [] => [']']
  | [item] => item ++ [']']
  | item :: rest => item ++ ',' :: items rest

theorem array_eq_items (texts : List Text) : array texts = '[' :: items texts := by
  have closing (texts : List Text) : Text.join [','] texts ++ [']'] = items texts := by
    induction texts with
    | nil => rfl
    | cons item rest ih =>
      cases rest with
      | nil => rfl
      | cons next rest =>
        rw [Text.join, items, ← ih]
        · simp
        · simp
        · simp
  rw [← closing, array, List.cons_append]

theorem items_cons (item : Text) (rest : List Text) :
    ∃ mark tail, isMark mark = true ∧ items (item :: rest) = item ++ mark :: tail ∧
      (mark = ']' ∧ tail = [] ∧ rest = [] ∨ mark = ',' ∧ tail = items rest ∧ rest ≠ []) := by
  cases rest with
  | nil => exact ⟨']', [], rfl, rfl, .inl ⟨rfl, rfl, rfl⟩⟩
  | cons next rest =>
    exact ⟨',', items (next :: rest), rfl, rfl, .inr ⟨rfl, rfl, List.cons_ne_nil _ _⟩⟩

/-- Two texts are told apart by the marks after them. -/
def Separable (x y : Text) : Prop :=
  ∀ {c d : Char} {rest rest' : Text}, isMark c = true → isMark d = true →
    x ++ c :: rest = y ++ d :: rest' → x = y ∧ c :: rest = d :: rest'

theorem items_append_inj {texts texts' : List Text} {rest rest' : Text}
    (forms : ∀ x ∈ texts, Form x) (forms' : ∀ y ∈ texts', Form y)
    (separable : ∀ x ∈ texts, ∀ y ∈ texts', Separable x y)
    (same : items texts ++ rest = items texts' ++ rest') : texts = texts' ∧ rest = rest' := by
  have opens {x : Text} {xs : List Text} {s s' : Text} (form : Form x)
      (clash : ']' :: s = items (x :: xs) ++ s') : False := by
    obtain ⟨mark, tail, -, shape, -⟩ := items_cons x xs
    obtain ⟨c, t, rfl, plain⟩ := form.exists_cons
    rw [shape] at clash
    have head : ']' = c := (List.cons.inj clash).1
    subst head
    contradiction
  induction texts generalizing texts' with
  | nil =>
    cases texts' with
    | nil => simpa [items] using same
    | cons y ys => exact (opens (forms' y List.mem_cons_self) same).elim
  | cons x xs ih =>
    cases texts' with
    | nil => exact (opens (forms x List.mem_cons_self) same.symm).elim
    | cons y ys =>
      obtain ⟨c, tail, mark, shape, after⟩ := items_cons x xs
      obtain ⟨d, tail', mark', shape', after'⟩ := items_cons y ys
      rw [shape, shape', List.append_assoc, List.append_assoc] at same
      obtain ⟨rfl, marks⟩ :=
        separable x List.mem_cons_self y List.mem_cons_self mark mark' same
      obtain ⟨sameMark, tails⟩ := List.cons.inj marks
      rcases after with ⟨rfl, rfl, rfl⟩ | ⟨rfl, rfl, more⟩ <;>
        rcases after' with ⟨rfl, rfl, rfl⟩ | ⟨rfl, rfl, more'⟩
      · exact ⟨rfl, tails⟩
      · exact absurd sameMark (by decide)
      · exact absurd sameMark (by decide)
      · obtain ⟨rfl, rests⟩ := ih (fun t member => forms t (List.mem_cons_of_mem _ member))
          (fun t member => forms' t (List.mem_cons_of_mem _ member))
          (fun s left t right => separable s (List.mem_cons_of_mem _ left) t
            (List.mem_cons_of_mem _ right)) tails
        exact ⟨rfl, rests⟩

/-- A number is told from all texts by the first character that is no digit. -/
theorem separable_number (n : Nat) {y : Text} (form : Form y) : Separable (Text.ofNat n) y := by
  intro c d rest rest' mark mark' same
  have plain {e : Char} (mark : isMark e = true) : e.isDigit = false := by
    cases digit : e.isDigit with
    | false => rfl
    | true => exact absurd (isMark_eq_false_of_isDigit digit) (by simp [mark])
  have other {e : Char} {t s : Text} (notDigit : e.isDigit = false)
      (clash : Text.ofNat n ++ s = e :: t) : False := by
    obtain ⟨first, more, shape⟩ :=
      List.exists_cons_of_ne_nil (Nat.toDigits_ne_nil (b := 10) (n := n))
    have digit : first.isDigit = true := isDigit_of_mem_ofNat (n := n) (by simp [Text.ofNat, shape])
    rw [Text.ofNat, shape] at clash
    have head : first = e := (List.cons.inj clash).1
    rw [head, notDigit] at digit
    cases digit
  cases form with
  | string t => exact (other rfl same).elim
  | array each => exact (other rfl same).elim
  | number m =>
    exact run_inj (p := Char.isDigit) same (fun a => isDigit_of_mem_ofNat)
      (by simpa using plain mark) (fun a => isDigit_of_mem_ofNat) (by simpa using plain mark')

theorem Form.separable {x y : Text} (form : Form x) (form' : Form y) : Separable x y := by
  induction form generalizing y with
  | number n => exact separable_number n form'
  | string s =>
    cases form' with
    | string t =>
      intro c d rest rest' _ _ same
      obtain ⟨rfl, rests⟩ := string_append_inj same
      exact ⟨rfl, rests⟩
    | number m =>
      intro c d rest rest' mark mark' same
      obtain ⟨shape, rests⟩ := separable_number m (.string s) mark' mark same.symm
      exact ⟨shape.symm, rests.symm⟩
    | array each =>
      intro c d rest rest' _ _ same
      exact absurd (List.cons.inj same).1 (by decide)
  | array each ih =>
    cases form' with
    | string t =>
      intro c d rest rest' _ _ same
      exact absurd (List.cons.inj same).1 (by decide)
    | number m =>
      intro c d rest rest' mark mark' same
      obtain ⟨shape, rests⟩ := separable_number m (.array each) mark' mark same.symm
      exact ⟨shape.symm, rests.symm⟩
    | array each' =>
      intro c d rest rest' _ _ same
      rw [array_eq_items, array_eq_items] at same ⊢
      obtain ⟨rfl, rests⟩ := items_append_inj each each'
        (fun s left t right => ih s left (each' t right)) (List.cons.inj same).2
      exact ⟨rfl, rests⟩

/-- An array has one list of items. -/
theorem array_inj {texts texts' : List Text} (forms : ∀ x ∈ texts, Form x)
    (forms' : ∀ y ∈ texts', Form y) : array texts = array texts' ↔ texts = texts' := by
  constructor
  · intro same
    rw [array_eq_items, array_eq_items] at same
    have parts : items texts ++ [] = items texts' ++ [] := by
      simpa using (List.cons.inj same).2
    exact (items_append_inj forms forms'
      (fun s left t right => (forms s left).separable (forms' t right)) parts).1
  · exact congrArg array

/-- A pair is an array of a string and one text more. -/
theorem form_pair (name : Text) {x : Text} (form : Form x) : Form (array [string name, x]) := by
  apply Form.array
  intro item member
  rcases List.mem_cons.mp member with rfl | rest
  · exact .string name
  · rw [List.mem_singleton.mp rest]
    exact form

theorem pair_inj {name name' x y : Text} (form : Form x) (form' : Form y)
    (same : array [string name, x] = array [string name', y]) : name = name' ∧ x = y := by
  have forms {t u : Text} (form : Form u) : ∀ item ∈ [string t, u], Form item := by
    simp [form, Form.string]
  have items := (array_inj (forms form) (forms form')).mp same
  obtain ⟨names, rest⟩ := List.cons.inj items
  exact ⟨string_inj.mp names, (List.cons.inj rest).1⟩

end Wire
end BroadcastQuery
