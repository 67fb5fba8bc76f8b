import BroadcastQuery.Token.Scan
import BroadcastQuery.Proofs.Runs

/-!
How the scanner goes over a source. The tokens of a source, each with the blanks before it, spell
the source up to blanks at its end, and each starts at the byte where its lexeme stands; so the
span from one token to a later one names the slice that they spell. Words and quoted texts are cut
off where they were meant to end.
-/
namespace BroadcastQuery

namespace Text

theorem dropBytes_width_append (s t : Text) : dropBytes s.width (s ++ t) = some t := by
  induction s with
  | nil => cases t <;> rfl
  | cons c s ih =>
    have positive := c.utf8Size_pos
    rw [List.cons_append, dropBytes, width_cons, if_neg (by omega), if_pos (by omega),
      Nat.add_sub_cancel_left, ih]

theorem takeBytes_width_append (s t : Text) : takeBytes s.width (s ++ t) = some s := by
  induction s with
  | nil => cases t <;> rfl
  | cons c s ih =>
    have positive := c.utf8Size_pos
    rw [List.cons_append, takeBytes, width_cons, if_neg (by omega), if_pos (by omega),
      Nat.add_sub_cancel_left, ih]
    rfl

theorem slice?_append (before part after : Text) :
    slice? (before ++ part ++ after) ⟨before.width, before.width + part.width⟩ = some part := by
  rw [slice?, if_pos (Nat.le_add_right _ _), List.append_assoc, dropBytes_width_append,
    Option.bind_some, Nat.add_sub_cancel_left, takeBytes_width_append]

theorem slice?_of_eq {source : Text} {span : Span} (before part after : Text)
    (shape : source = before ++ part ++ after) (start : span.start = before.width)
    (stop : span.stop = before.width + part.width) : source.slice? span = some part := by
  obtain ⟨spanStart, spanStop⟩ := span
  subst shape start stop
  exact slice?_append before part after

end Text

namespace Token

variable {keywords : Keywords} {first : Bool} {start : Nat}

theorem head_dropWhile_isBlank {input : Text} {c : Char} {rest : Text}
    (shape : input.dropWhile isBlank = c :: rest) : isBlank c = false := by
  have head := List.head?_dropWhile_not isBlank input
  rw [shape] at head
  simpa using head

@[simp] theorem scanFrom_blank {input : Text} (blank : ∀ c ∈ input, isBlank c = true) :
    scanFrom keywords first start input = [] := by
  have empty : input.dropWhile isBlank = [] := by
    have nothing : ∀ c ∈ ([] : Text).head?, isBlank c = false := by simp
    simpa using dropWhile_run blank nothing
  rw [scanFrom.eq_def]
  split
  · rfl
  · next shape => exact absurd (empty.symm.trans shape) (List.cons_ne_nil _ _).symm

/-- The first token takes the blanks before it, and scanning goes on after its lexeme. -/
theorem scanFrom_append_cons {gap : Text} {c : Char} {rest : Text}
    (blank : ∀ b ∈ gap, isBlank b = true) (solid : isBlank c = false) :
    scanFrom keywords first start (gap ++ c :: rest) =
      ⟨(cut keywords first c rest).kind, gap, (cut keywords first c rest).lexeme,
        start + gap.width⟩ ::
      scanFrom keywords false (start + gap.width + (cut keywords first c rest).lexeme.width)
        (cut keywords first c rest).rest := by
  have outside : ∀ b ∈ (c :: rest).head?, isBlank b = false := by simpa using solid
  have drop := dropWhile_run blank outside
  rw [scanFrom.eq_def]
  split
  · next shape => exact absurd (drop.symm.trans shape) (List.cons_ne_nil _ _)
  · next c' rest' shape =>
    obtain ⟨rfl, rfl⟩ := List.cons.inj (drop.symm.trans shape)
    rw [takeWhile_run blank outside]

theorem scanFrom_cons {c : Char} {rest : Text} (solid : isBlank c = false) :
    scanFrom keywords first start (c :: rest) =
      ⟨(cut keywords first c rest).kind, [], (cut keywords first c rest).lexeme, start⟩ ::
      scanFrom keywords false (start + (cut keywords first c rest).lexeme.width)
        (cut keywords first c rest).rest := by
  have nothing : ∀ b ∈ ([] : Text), isBlank b = true := by simp
  exact scanFrom_append_cons nothing solid

/-- Induction on the tokens of an input: it is blank, or blanks, a lexeme and a rest. -/
@[elab_as_elim]
theorem scanFrom_induction (keywords : Keywords) {motive : Bool → Nat → Text → Prop}
    (blank : ∀ first start input, (∀ c ∈ input, isBlank c = true) → motive first start input)
    (token : ∀ first start (gap : Text) c rest, (∀ b ∈ gap, isBlank b = true) →
      isBlank c = false →
      motive false (start + gap.width + (cut keywords first c rest).lexeme.width)
        (cut keywords first c rest).rest →
      motive first start (gap ++ c :: rest)) :
    ∀ first start input, motive first start input := by
  intro first start input
  induction first, start, input using scanFrom.induct keywords with
  | case1 first start input shape =>
    apply blank first start input
    intro c member
    rw [← List.takeWhile_append_dropWhile (p := isBlank) (l := input), shape,
      List.append_nil] at member
    exact List.all_eq_true.mp List.all_takeWhile c member
  | case2 first start input c rest shape gap made here ih =>
    rw [← List.takeWhile_append_dropWhile (p := isBlank) (l := input), shape]
    exact token first start _ c rest (List.all_eq_true.mp List.all_takeWhile)
      (head_dropWhile_isBlank shape) ih

def spelling (token : Token) : Text := token.gap ++ token.lexeme

def spell (tokens : List Token) : Text := tokens.flatMap spelling

@[simp] theorem spell_nil : spell [] = [] := rfl

@[simp] theorem spell_cons (token : Token) (rest : List Token) :
    spell (token :: rest) = token.gap ++ token.lexeme ++ spell rest := rfl

@[simp] theorem spell_append (before after : List Token) :
    spell (before ++ after) = spell before ++ spell after := List.flatMap_append

/-- Each token starts where those before it and its own blanks end. -/
def LaidOut (start : Nat) : List Token → Prop
  | [] => True
  | token :: rest => token.start = start + token.gap.width ∧ LaidOut token.stop rest

theorem LaidOut.append_right {before after : List Token} (laid : LaidOut start (before ++ after)) :
    LaidOut (start + (spell before).width) after := by
  induction before generalizing start with
  | nil => exact laid
  | cons token before ih =>
    obtain ⟨here, rest⟩ := laid
    have shifted := ih rest
    rw [stop, here] at shifted
    simpa [Nat.add_assoc] using shifted

/-- The last of neighbouring tokens stops where they end. -/
theorem LaidOut.stop_getLast {token : Token} {rest after : List Token}
    (laid : LaidOut token.stop (rest ++ after)) :
    ((token :: rest).getLast (List.cons_ne_nil _ _)).stop = token.stop + (spell rest).width := by
  induction rest generalizing token with
  | nil => rfl
  | cons next rest ih =>
    obtain ⟨here, following⟩ := laid
    rw [List.getLast_cons_cons, ih following, stop, here]
    simp [Nat.add_assoc]

theorem laidOut_scanFrom (keywords : Keywords) (first : Bool) (start : Nat) (input : Text) :
    LaidOut start (scanFrom keywords first start input) := by
  induction first, start, input using scanFrom_induction keywords with
  | blank first start input blank =>
    rw [scanFrom_blank blank]
    trivial
  | token first start gap c rest blank solid ih =>
    rw [scanFrom_append_cons blank solid]
    exact ⟨rfl, ih⟩

/-- The scanner loses nothing but blanks at the end. -/
theorem exists_spell_scanFrom (keywords : Keywords) (first : Bool) (start : Nat) (input : Text) :
    ∃ blanks : Text, (∀ c ∈ blanks, isBlank c = true) ∧
      input = spell (scanFrom keywords first start input) ++ blanks := by
  induction first, start, input using scanFrom_induction keywords with
  | blank first start input blank => exact ⟨input, blank, by rw [scanFrom_blank blank]; rfl⟩
  | token first start gap c rest blank solid ih =>
    obtain ⟨blanks, only, whole⟩ := ih
    refine ⟨blanks, only, ?_⟩
    rw [scanFrom_append_cons blank solid, spell_cons, List.append_assoc, ← whole,
      List.append_assoc, cut_append]

/-- The slice of the source from the first of some neighbouring tokens to the last of them. -/
theorem slice?_scan {source : Text} {before after more : List Token} {token : Token}
    (tokens : scan keywords source = before ++ (token :: more ++ after)) :
    source.slice? ⟨token.start, ((token :: more).getLast (List.cons_ne_nil _ _)).stop⟩ =
      some (token.lexeme ++ spell more) := by
  have laid := laidOut_scanFrom keywords true 0 source
  obtain ⟨blanks, -, whole⟩ := exists_spell_scanFrom keywords true 0 source
  rw [scan] at tokens
  rw [tokens] at laid whole
  obtain ⟨here, following⟩ := laid.append_right
  rw [following.stop_getLast, stop, here, Nat.zero_add]
  have parts := Text.slice?_append (spell before ++ token.gap) (token.lexeme ++ spell more)
    (spell after ++ blanks)
  simp only [Text.width_append, ← Nat.add_assoc] at parts ⊢
  rw [← parts, whole]
  simp [List.append_assoc]

end Token

/-! What the scanner cuts off. -/

/-- A word before `rest` ends there. -/
def WordEnds (rest : Text) : Prop := ∀ c ∈ rest.head?, Token.endsWord c = true

theorem wordEnds_nil : WordEnds [] := by
  rintro c ⟨⟩

theorem wordEnds_cons {c : Char} {rest : Text} (ends : Token.endsWord c = true) :
    WordEnds (c :: rest) := by
  rintro c' ⟨⟩
  exact ends

namespace Token

variable {keywords : Keywords} {first : Bool} {c : Char} {body rest : Text}

theorem isBlank_eq_false_of_endsWord (goes : endsWord c = false) : isBlank c = false := by
  unfold endsWord at goes
  simp only [Bool.or_eq_false_iff] at goes
  exact goes.1.1.1

theorem eq_of_isQuote (quote : isQuote c = true) : c = '\x22' ∨ c = '\x27' := by
  simpa [isQuote] using quote

theorem isBlank_eq_false_of_isQuote (quote : isQuote c = true) : isBlank c = false := by
  rcases eq_of_isQuote quote with rfl | rfl <;> rfl

/-- The kind of a token that is a word: reserved, or free. -/
def Kind.ofWord (keywords : Keywords) (run : Text) : Kind :=
  (keywords.classify run).elim (.word run) .keyword

theorem word_eq (keywords : Keywords) (c : Char) (rest : Text) :
    word keywords c rest = ⟨.ofWord keywords (c :: rest.takeWhile (!endsWord ·)),
      c :: rest.takeWhile (!endsWord ·), rest.dropWhile (!endsWord ·)⟩ := by
  unfold word Kind.ofWord
  cases found : keywords.classify (c :: rest.takeWhile (!endsWord ·)) <;> simp [found]

/-- A word is cut off where it ends. -/
theorem cut_run (goes : ∀ a ∈ c :: body, endsWord a = false) (unquoted : isQuote c = false)
    (inside : first = false ∨ c ≠ '[') (ends : WordEnds rest) :
    cut keywords first c (body ++ rest) = ⟨.ofWord keywords (c :: body), c :: body, rest⟩ := by
  have head := goes c List.mem_cons_self
  have run : ∀ a ∈ body, (!endsWord a) = true := by
    intro a member
    simp [goes a (List.mem_cons_of_mem _ member)]
  have stop : ∀ a ∈ rest.head?, (!endsWord a) = false := by
    intro a member
    simp [ends a member]
  have solid : c ≠ '(' ∧ c ≠ ')' ∧ c ≠ '=' := by
    simp only [endsWord, Bool.or_eq_false_iff, beq_eq_false_iff_ne] at head
    exact ⟨head.1.1.2, head.1.2, head.2⟩
  have noLabel : (first && c == '[') = false := by
    rcases inside with rfl | other
    · rfl
    · simp [other]
  simp only [cut, solid.1, solid.2.1, solid.2.2, noLabel, unquoted, if_false, Bool.false_eq_true,
    word_eq, takeWhile_run run stop, dropWhile_run run stop]

theorem cut_word (goes : ∀ a ∈ c :: body, endsWord a = false) (unquoted : isQuote c = false)
    (inside : first = false ∨ c ≠ '[') (other : keywords.classify (c :: body) = none)
    (ends : WordEnds rest) :
    cut keywords first c (body ++ rest) = ⟨.word (c :: body), c :: body, rest⟩ := by
  rw [cut_run goes unquoted inside ends, Kind.ofWord, other, Option.elim_none]

@[simp] theorem cut_equals : cut keywords first '=' rest = ⟨.equals, ['='], rest⟩ := rfl

@[simp] theorem cut_leftParen : cut keywords first '(' rest = ⟨.leftParen, ['('], rest⟩ := rfl

@[simp] theorem cut_rightParen : cut keywords first ')' rest = ⟨.rightParen, [')'], rest⟩ := rfl

theorem breakAt_append {mark : Char} (absent : mark ∉ body) :
    Text.breakAt mark (body ++ mark :: rest) = some (body, rest) := by
  induction body with
  | nil => simp [Text.breakAt]
  | cons a body ih =>
    have other : a ≠ mark := by
      intro same
      exact absent (same ▸ List.mem_cons_self)
    rw [List.cons_append, Text.breakAt, if_neg other,
      ih fun member => absent (List.mem_cons_of_mem _ member)]
    rfl

theorem cut_quoted (quote : isQuote c = true) (absent : c ∉ body) :
    cut keywords first c (body ++ c :: rest) = ⟨.quoted body, c :: body ++ [c], rest⟩ := by
  rcases eq_of_isQuote quote with rfl | rfl <;>
    simp [cut, isQuote, delimited, breakAt_append absent]

end Token

def Unquoted (t : Text) : Prop := ∀ c ∈ t, Token.isQuote c = false

instance (t : Text) : Decidable (Unquoted t) := List.decidableBAll _ t

theorem unquoted_append {s t : Text} (first : Unquoted s) (second : Unquoted t) :
    Unquoted (s ++ t) := by
  intro c member
  rcases List.mem_append.mp member with member | member
  · exact first c member
  · exact second c member

theorem unquoted_of_blank {t : Text} (blank : ∀ c ∈ t, isBlank c = true) : Unquoted t := by
  intro c member
  apply Bool.eq_false_iff.mpr
  intro quote
  have solid := Token.isBlank_eq_false_of_isQuote quote
  rw [blank c member] at solid
  contradiction

end BroadcastQuery
