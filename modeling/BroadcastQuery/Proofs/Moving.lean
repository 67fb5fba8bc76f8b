import Mathlib
import BroadcastQuery.Proofs.Display
import BroadcastQuery.Proofs.Embedding

/-!
Reading in another place. A reader whose tokens all stand further on makes the same moves and comes
to the same answer, further on.
-/
namespace BroadcastQuery

/-! The same things `n` bytes further on. -/

def Span.move (n : Nat) (span : Span) : Span := ⟨span.start + n, span.stop + n⟩

/-- What is said and the characters that it is about stay. -/
def Located.move {α : Type} (n : Nat) (place : Located α) : Located α :=
  { place with span := place.span.move n }

/-- An answer further on, where `f` moves what is read. -/
def moveAnswer {α β : Type} (f : α → β) (n : Nat) (answer : Except SyntaxError α) :
    Except SyntaxError β :=
  (answer.map f).mapError (Located.move n)

def Reading.move {α β : Type} (f : α → β) (n : Nat) (reading : Reading α) : Reading β :=
  ⟨moveAnswer f n reading.answer, reading.rest.map (Token.move n)⟩

namespace Draft

mutual

def move (n : Nat) : Draft → Draft
  | .leaf key value span => .leaf key value (span.move n)
  | .chain items => .chain (moveItems n items)

def moveItems (n : Nat) : List (Draft ⊕ Connective) → List (Draft ⊕ Connective)
  | [] => []
  | .inl child :: rest => .inl (move n child) :: moveItems n rest
  | .inr connective :: rest => .inr connective :: moveItems n rest

end

def Level.move (n : Nat) (level : Level) : Level :=
  ⟨level.connective, level.children.map (Draft.move n)⟩

def Frame.move (n : Nat) (frame : Frame) : Frame := ⟨frame.paren.move n, frame.level.move n⟩

def Opening.move (n : Nat) : Opening → Opening
  | start => start
  | paren token => paren (token.move n)
  | connective token => connective (token.move n)

def Due.move (n : Nat) : Due → Due
  | item opening => item (opening.move n)
  | equals key name => equals (key.move n) name
  | value key name sign => value (key.move n) name (sign.move n)
  | more key name text stop => more (key.move n) name text (stop + n)
  | link draft => link (draft.move n)

def Reader.move (n : Nat) (reader : Reader) : Reader :=
  ⟨reader.level.move n, reader.outer.map (Frame.move n), reader.due.move n⟩

def Move.move (n : Nat) : Move → Move
  | take next => take (next.move n)
  | stop answer taken => stop (moveAnswer (Draft.move n) n answer) taken

end Draft

variable {n limit : Nat}

section

variable {α β : Type} (f : α → β)

@[simp] theorem moveAnswer_ok (value : α) : moveAnswer f n (.ok value) = .ok (f value) := rfl

@[simp] theorem moveAnswer_error (error : SyntaxError) :
    moveAnswer f n (.error error) = .error (error.move n) := rfl

end

namespace Token

variable (n : Nat) (token : Token)

@[simp] theorem kind_move : (token.move n).kind = token.kind := rfl

@[simp] theorem gap_move : (token.move n).gap = token.gap := rfl

@[simp] theorem lexeme_move : (token.move n).lexeme = token.lexeme := rfl

@[simp] theorem start_move : (token.move n).start = token.start + n := rfl

@[simp] theorem modifier?_move : (token.move n).modifier? = token.modifier? := rfl

@[simp] theorem continuesValue_move : (token.move n).continuesValue = token.continuesValue := rfl

@[simp] theorem stop_move : (token.move n).stop = token.stop + n := Nat.add_right_comm _ _ _

@[simp] theorem problem_move (what : Problem) :
    (token.move n).problem what = (token.problem what).move n := by
  simp [problem, span, Located.move, Span.move]

end Token

namespace Draft

theorem moveItems_link (connective : Connective) (drafts : List Draft) :
    moveItems n (link connective drafts) = link connective (drafts.map (move n)) := by
  match drafts with
  | [] => rfl
  | [last] => rfl
  | first :: second :: rest =>
    rw [List.map_cons, List.map_cons, link_cons_cons, link_cons_cons, moveItems, moveItems,
      moveItems_link connective (second :: rest), List.map_cons]

@[simp] theorem Level.close_move (level : Level) (last : Draft) :
    (level.move n).close (last.move n) = (level.close last).move n := by
  obtain ⟨connective, children⟩ := level
  cases connective with
  | none => rfl
  | some connective => simp [Level.close, Level.move, Draft.move, moveItems_link]

namespace Reader

/-! One move. -/

@[simp] theorem pair_move (key : Token) (name value : Text) (stop : Nat) :
    pair (key.move n) name value (stop + n) = (pair key name value stop).move n := rfl

theorem atItem_move (reader : Reader) (opening : Opening) (token : Token) :
    (reader.move n).atItem (opening.move n) (token.move n) =
      (reader.atItem opening token).move n := by
  cases opening <;> cases kind : token.kind <;>
    simp [atItem, kind, Opening.move, Move.move, move, Due.move, Frame.move, Level.move,
      Level.fresh]

theorem afterItem_move (reader : Reader) (item : Draft) (token : Token) :
    (reader.move n).afterItem (item.move n) (token.move n) =
      (reader.afterItem item token).move n := by
  obtain ⟨⟨own, children⟩, outer, due⟩ := reader
  cases kind : token.kind with
  | keyword keyword =>
    cases keyword with
    | connective connective =>
      by_cases mixed : own.any (· != connective) = true
      · simp [afterItem, kind, mixed, move, Level.move, Move.move]
      · simp [afterItem, kind, mixed, move, Level.move, Move.move, Due.move, Opening.move]
    | modifier => cases outer <;> simp [afterItem, kind, move, Frame.move, Move.move]
  | word | quoted | label | leftParen | rightParen | equals | openQuote | openLabel =>
    cases outer <;> simp [afterItem, kind, move, Frame.move, Move.move, Due.move]

/-- A reader that stands further on makes the same move there. -/
theorem step_move (reader : Reader) (token : Token) :
    (reader.move n).step (token.move n) = (reader.step token).move n := by
  obtain ⟨level, outer, due⟩ := reader
  cases due with
  | item opening => exact atItem_move _ opening token
  | equals key name =>
    cases kind : token.kind <;> simp [step, kind, move, Due.move, Move.move]
  | value key name sign =>
    cases kind : token.kind <;> simp [step, kind, move, Due.move, Move.move]
  | more key name text stop =>
    cases goes : token.continuesValue with
    | true => simp [step, goes, move, Due.move, Move.move]
    | false =>
      have after := afterItem_move (n := n) ⟨level, outer, .more key name text stop⟩
        (pair key name text stop) token
      simpa [step, goes, move, Due.move] using after
  | link item => exact afterItem_move _ item token

/-! A whole run. -/

theorem endAfterItem_move (reader : Reader) (item : Draft) :
    (reader.move n).endAfterItem (item.move n) =
      moveAnswer (Draft.move n) n (reader.endAfterItem item) := by
  obtain ⟨level, outer, due⟩ := reader
  cases outer <;> simp [endAfterItem, move, Frame.move]

theorem finish_move (reader : Reader) :
    (reader.move n).finish (limit + n) = moveAnswer (Draft.move n) n (reader.finish limit) := by
  obtain ⟨level, outer, due⟩ := reader
  cases due with
  | item opening =>
    cases opening <;> simp [finish, move, Due.move, Opening.move, Located.move, Span.move]
  | equals | value => simp [finish, move, Due.move]
  | more key name text stop => exact endAfterItem_move _ (pair key name text stop)
  | link item => exact endAfterItem_move _ item

theorem run_move (reader : Reader) (tokens : List Token) :
    (reader.move n).run (limit + n) (tokens.map (Token.move n)) =
      (reader.run limit tokens).move (Draft.move n) n := by
  induction tokens generalizing reader with
  | nil => simp [run, finish_move, Reading.move]
  | cons token rest ih =>
    rw [List.map_cons, run, step_move, run]
    cases reader.step token with
    | take next => exact ih next
    | stop answer taken => cases taken <;> rfl

end Reader
end Draft

theorem Reading.andThen_move {α α' β β' : Type} {f : α → α'} {g : β → β'} {reading : Reading α}
    {next : α → List Token → Reading β} {next' : α' → List Token → Reading β'}
    (along : ∀ value rest, next' (f value) (rest.map (Token.move n)) = (next value rest).move g n) :
    (reading.move f n).andThen next' = (reading.andThen next).move g n := by
  obtain ⟨answer, rest⟩ := reading
  cases answer with
  | ok value => exact along value rest
  | error error => rfl

theorem Draft.read?_move (tokens : List Token) :
    read? (limit + n) (tokens.map (Token.move n)) =
      (read? limit tokens).move (Option.map (Draft.move n)) n := by
  cases tokens with
  | nil => rfl
  | cons token rest =>
    rw [List.map_cons, read?, read?, Token.modifier?_move]
    split
    · rfl
    · have whole : Reader.initial.run (limit + n) (token.move n :: rest.map (Token.move n)) =
          (Reader.initial.run limit (token :: rest)).move (Draft.move n) n :=
        Reader.run_move Reader.initial (token :: rest)
      rw [whole]
      exact Reading.andThen_move fun _ _ => rfl

namespace DraftQuery

def afterLabel (limit : Nat) (label : Option Text) (tokens : List Token) : Reading DraftQuery :=
  (Draft.read? limit tokens).andThen fun main rest =>
  match rest with
  | [] => complete ⟨label, main, none⟩ []
  | token :: rest =>
    match token.modifier? with
    | none => complete ⟨label, main, none⟩ (token :: rest)
    | some modifier =>
      (Draft.read? limit rest).andThen fun tree rest =>
      complete ⟨label, main, some (modifier, tree)⟩ rest

theorem read_eq_afterLabel (limit : Nat) (tokens : List Token) :
    read limit tokens = (label? tokens).andThen (afterLabel limit) := rfl

/-- The query with its leaves further on and another label. -/
def relabel (label : Option Text) (n : Nat) (query : DraftQuery) : DraftQuery where
  label := label
  main := query.main.map (Draft.move n)
  secondary := query.secondary.map fun secondary =>
    (secondary.1, secondary.2.map (Draft.move n))

@[simp] theorem excess_move (token : Token) : excess (token.move n) = (excess token).move n := by
  cases kind : token.kind with
  | keyword keyword => cases keyword <;> simp [excess, kind]
  | word | quoted | label | leftParen | rightParen | equals | openQuote | openLabel =>
    simp [excess, kind]

theorem complete_move (label : Option Text) (query : DraftQuery) (rest : List Token) :
    complete (query.relabel label n) (rest.map (Token.move n)) =
      (complete query rest).move (relabel label n) n := by
  cases rest with
  | nil => rfl
  | cons token rest => simp [complete, Reading.move]

theorem afterLabel_move (label label' : Option Text) (tokens : List Token) :
    afterLabel (limit + n) label (tokens.map (Token.move n)) =
      (afterLabel limit label' tokens).move (relabel label n) n := by
  unfold afterLabel
  rw [Draft.read?_move]
  refine Reading.andThen_move fun main rest => ?_
  cases rest with
  | nil => exact complete_move label ⟨label', main, none⟩ []
  | cons token rest =>
    rw [List.map_cons]
    simp only [Token.modifier?_move]
    cases token.modifier? with
    | none => exact complete_move label ⟨label', main, none⟩ (token :: rest)
    | some modifier =>
      simp only
      rw [Draft.read?_move]
      exact Reading.andThen_move fun tree rest =>
        complete_move label ⟨label', main, some (modifier, tree)⟩ rest

end DraftQuery

/-! A text after a label. -/

namespace Token

variable {keywords : Keywords} {label s : Text}

theorem cut_label (absent : ']' ∉ label) :
    cut keywords true '[' (label ++ ']' :: s) = ⟨.label label, '[' :: label ++ [']'], s⟩ := by
  simp [cut, delimited, breakAt_append absent]

/-- Behind a label the tokens are those of the text alone, further on. -/
theorem scan_label (absent : ']' ∉ label) (inside : ∀ c ∈ (s.dropWhile isBlank).head?, c ≠ '[') :
    scan keywords ('[' :: label ++ ']' :: s) =
      ⟨.label label, [], '[' :: label ++ [']'], 0⟩ ::
        (scan keywords s).map (move (Text.width ('[' :: label ++ [']']))) := by
  rw [scan, List.cons_append, scanFrom_cons rfl, cut_label absent]
  simp only
  rw [scanFrom_inside true inside, scanFrom_move]
  rfl

end Token

namespace DraftQuery

variable {keywords : Keywords} {label s : Text}

theorem label?_scan (inside : ∀ c ∈ (s.dropWhile isBlank).head?, c ≠ '[') :
    label? (Token.scan keywords s) = ⟨.ok none, Token.scan keywords s⟩ := by
  obtain ⟨rest, -, leads, -⟩ := Token.exists_prefix
    (List.append_nil (Token.scanFrom keywords false 0 s)).symm
  rw [Token.scan, ← Token.scanFrom_inside true inside]
  generalize Token.scanFrom keywords false 0 s = tokens at leads
  cases leads with
  | done => rfl
  | token blank is others => cases is <;> rfl

/-- A label in front of a text that starts with no bracket changes nothing but the label and the
places: the text is read as it is alone, or refused with the same problem at the same characters. -/
theorem parse_labelled (nonempty : label ≠ []) (absent : ']' ∉ label)
    (inside : ∀ c ∈ (s.dropWhile isBlank).head?, c ≠ '[') :
    parse keywords ('[' :: label ++ ']' :: s) =
      match parse keywords s with
      | .ok query => .ok (query.relabel (some label) (Text.width ('[' :: label ++ [']'])))
      | .error error => .error (error.move (Text.width ('[' :: label ++ [']']))) := by
  have width : Text.width ('[' :: label ++ ']' :: s) =
      s.width + Text.width ('[' :: label ++ [']']) := by
    simp
    omega
  have alone : parse keywords s = (afterLabel s.width none (Token.scan keywords s)).answer := by
    rw [parse, read_eq_afterLabel, label?_scan inside]
    rfl
  have labelled : parse keywords ('[' :: label ++ ']' :: s) =
      moveAnswer (relabel (some label) (Text.width ('[' :: label ++ [']'])))
        (Text.width ('[' :: label ++ [']'])) (parse keywords s) := by
    rw [parse, read_eq_afterLabel, Token.scan_label absent inside, width, alone]
    simp only [label?, nonempty, List.isEmpty_iff, if_false, Reading.andThen]
    rw [afterLabel_move (some label) none]
    rfl
  rw [labelled]
  cases parse keywords s <;> rfl

/-- The label has a bracket, a quotation mark, a reserved word and a character of two bytes, and one
of the texts is no query. -/
theorem parse_labelled_marks :
    "\"é AND[".toList ≠ [] ∧ ']' ∉ "\"é AND[".toList ∧
    parse .standard ('[' :: "\"é AND[".toList ++ ']' :: " x='a' subtract y=é".toList) =
      .ok ⟨some "\"é AND[".toList, some (.leaf "x".toList "a".toList ⟨11, 16⟩),
        some (.subtract, some (.leaf "y".toList "é".toList ⟨26, 30⟩))⟩ ∧
    parse .standard ('[' :: "\"é AND[".toList ++ ']' :: " (x=a and".toList) =
      .error ⟨.dangling "and".toList, ⟨16, 19⟩, "and".toList⟩ := by
  have nonempty : "\"é AND[".toList ≠ [] := by decide
  have absent : ']' ∉ "\"é AND[".toList := by decide
  have query : parse .standard " x='a' subtract y=é".toList = .ok ⟨none,
      some (.leaf "x".toList "a".toList ⟨1, 6⟩),
      some (.subtract, some (.leaf "y".toList "é".toList ⟨16, 20⟩))⟩ := by
    cbv
  have refused : parse .standard " (x=a and".toList =
      .error ⟨.dangling "and".toList, ⟨6, 9⟩, "and".toList⟩ := by
    cbv
  have inside : ∀ c ∈ (List.dropWhile isBlank " x='a' subtract y=é".toList).head?, c ≠ '[' := by
    rintro c ⟨⟩
    decide
  have inside' : ∀ c ∈ (List.dropWhile isBlank " (x=a and".toList).head?, c ≠ '[' := by
    rintro c ⟨⟩
    decide
  refine ⟨nonempty, absent, ?_, ?_⟩
  · rw [parse_labelled nonempty absent inside, query]
    rfl
  · rw [parse_labelled nonempty absent inside', refused]
    rfl

end DraftQuery
end BroadcastQuery
