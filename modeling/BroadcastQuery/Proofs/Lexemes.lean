import BroadcastQuery.Proofs.Scanning

/-!
What the tokens of a source are, said without scanning it. Each is a lexeme of the text from its
first character on, their spans follow each other, and only blanks stand outside of them. One list
of kinds and spans is like that, and the scanner finds it.
-/
namespace BroadcastQuery

namespace Text

/-- Of two beginnings of a text, the wider one goes on where the other ends. -/
theorem exists_of_width_le {s t u v : Text} (same : s ++ t = u ++ v) (le : s.width ≤ u.width) :
    ∃ w, u = s ++ w ∧ t = w ++ v := by
  rcases List.append_eq_append_iff.mp same with ⟨w, wider, rest⟩ | ⟨w, narrower, rest⟩
  · exact ⟨w, wider, rest⟩
  · cases w with
    | nil => exact ⟨[], by simpa using narrower.symm, by simpa using rest.symm⟩
    | cons c w =>
      have positive := c.utf8Size_pos
      rw [narrower, width_append, width_cons] at le
      omega

theorem mem_of_width_lt {s t before after : Text} {c : Char}
    (same : s ++ t = before ++ c :: after) (lt : before.width < s.width) : c ∈ s := by
  obtain ⟨w, rfl, tail⟩ := exists_of_width_le same.symm (Nat.le_of_lt lt)
  cases w with
  | nil => simp at lt
  | cons d w =>
    obtain ⟨rfl, -⟩ := List.cons.inj tail
    simp

end Text

namespace Token

/-- A word up to the first character that ends it. Neither a quotation mark stands first nor, at
the `first` token, a bracket. -/
structure WordRun (first : Bool) (run rest : Text) : Prop where
  nonempty : run ≠ []
  goes : ∀ c ∈ run, endsWord c = false
  ends : WordEnds rest
  unquoted : ∀ c ∈ run.head?, isQuote c = false
  inside : ∀ c ∈ run.head?, first = true → c ≠ '['

/-- A lexeme of a kind, with what follows it in the text. Labels are for the `first` token. -/
inductive Lexeme (keywords : Keywords) : (first : Bool) → Kind → (lexeme rest : Text) → Prop
  | leftParen {first : Bool} {rest : Text} : Lexeme keywords first .leftParen ['('] rest
  | rightParen {first : Bool} {rest : Text} : Lexeme keywords first .rightParen [')'] rest
  | equals {first : Bool} {rest : Text} : Lexeme keywords first .equals ['='] rest
  | quoted {first : Bool} {q : Char} {body rest : Text} (quote : isQuote q = true)
      (absent : q ∉ body) : Lexeme keywords first (.quoted body) (q :: body ++ [q]) rest
  | openQuote {first : Bool} {q : Char} {rest : Text} (quote : isQuote q = true)
      (absent : q ∉ rest) : Lexeme keywords first .openQuote [q] rest
  | label {body rest : Text} (absent : ']' ∉ body) :
      Lexeme keywords true (.label body) ('[' :: body ++ [']']) rest
  | openLabel {body : Text} (absent : ']' ∉ body) :
      Lexeme keywords true .openLabel ('[' :: body) []
  | keyword {first : Bool} {run rest : Text} {keyword : Keyword} (alone : WordRun first run rest)
      (reserved : keywords.classify run = some keyword) :
      Lexeme keywords first (.keyword keyword) run rest
  | word {first : Bool} {run rest : Text} (alone : WordRun first run rest)
      (free : keywords.classify run = none) : Lexeme keywords first (.word run) run rest

/-- The kinds and spans of the tokens in an input that starts at the byte `start`. -/
structure Exact (keywords : Keywords) (first : Bool) (start : Nat) (input : Text)
    (tokens : List (Kind × Span)) : Prop where
  /-- Every token is a lexeme in its place; only the first may be a label. -/
  lexed : ∀ place kind span, tokens[place]? = some (kind, span) →
    ∃ before lexeme after : Text, input = before ++ (lexeme ++ after) ∧
      span = ⟨start + before.width, start + before.width + lexeme.width⟩ ∧
      Lexeme keywords (first && place == 0) kind lexeme after
  solid : ∀ token ∈ tokens, token.2.start < token.2.stop
  apart : tokens.Pairwise fun a b => a.2.stop ≤ b.2.start
  /-- What stands outside of the spans is blank. -/
  gaps : ∀ (before : Text) (c : Char) (after : Text), input = before ++ c :: after →
    (∀ token ∈ tokens, ¬(token.2.start ≤ start + before.width ∧
      start + before.width < token.2.stop)) → isBlank c = true

variable {keywords : Keywords} {first : Bool} {start : Nat} {kind : Kind} {c : Char}
  {gap lexeme body rest input : Text} {tokens : List (Kind × Span)}

/-! A text starts with one lexeme at most, and that is the one cut from it. -/

theorem wordRun_takeWhile (goes : endsWord c = false) (unquoted : isQuote c = false)
    (inside : first = true → c ≠ '[') :
    WordRun first (c :: rest.takeWhile (!endsWord ·)) (rest.dropWhile (!endsWord ·)) where
  nonempty := List.cons_ne_nil _ _
  goes := by
    intro a member
    rcases List.mem_cons.mp member with rfl | member
    · exact goes
    · simpa using List.all_eq_true.mp List.all_takeWhile a member
  ends := by
    intro a head
    have stop := List.head?_dropWhile_not (!endsWord ·) rest
    rw [Option.mem_def.mp head] at stop
    simpa using stop
  unquoted := by simpa using unquoted
  inside := by simpa using inside

theorem WordRun.toLexeme (alone : WordRun first lexeme rest) :
    Lexeme keywords first (.ofWord keywords lexeme) lexeme rest := by
  cases found : keywords.classify lexeme with
  | some keyword =>
    rw [Kind.ofWord, found]
    exact .keyword alone found
  | none =>
    rw [Kind.ofWord, found]
    exact .word alone found

/-- What is cut off is a lexeme. -/
theorem lexeme_cut (solid : isBlank c = false) :
    Lexeme keywords first (cut keywords first c rest).kind (cut keywords first c rest).lexeme
      (cut keywords first c rest).rest := by
  unfold cut
  split
  case isTrue paren =>
    subst paren
    exact .leftParen
  split
  case isTrue paren =>
    subst paren
    exact .rightParen
  split
  case isTrue equals =>
    subst equals
    exact .equals
  split
  case isTrue bracket =>
    obtain ⟨rfl, rfl⟩ : first = true ∧ c = '[' := by simpa using bracket
    cases found : rest.breakAt ']' with
    | none =>
      simp only [delimited, found]
      exact .openLabel (Text.breakAt_eq_none_iff.mp found)
    | some parts =>
      simp only [delimited, found]
      exact .label (Text.eq_of_breakAt found).2
  split
  case isTrue quote =>
    cases found : rest.breakAt c with
    | none =>
      simp only [delimited, found]
      exact .openQuote quote (Text.breakAt_eq_none_iff.mp found)
    | some parts =>
      simp only [delimited, found]
      exact .quoted quote (Text.eq_of_breakAt found).2
  case isFalse unquoted =>
    have goes : endsWord c = false := by simp_all [endsWord]
    have inside : first = true → c ≠ '[' := by simp_all
    rw [word_eq]
    exact (wordRun_takeWhile goes (by simpa using unquoted) inside).toLexeme

theorem WordRun.exists_cut (keywords : Keywords) (alone : WordRun first lexeme rest) :
    ∃ c body, lexeme = c :: body ∧ isBlank c = false ∧
      cut keywords first c (body ++ rest) = ⟨.ofWord keywords lexeme, lexeme, rest⟩ := by
  obtain ⟨c, body, rfl⟩ := List.exists_cons_of_ne_nil alone.nonempty
  have inside : first = false ∨ c ≠ '[' := by
    cases first with
    | false => exact .inl rfl
    | true => exact .inr (alone.inside c rfl rfl)
  exact ⟨c, body, rfl, isBlank_eq_false_of_endsWord (alone.goes c List.mem_cons_self),
    cut_run alone.goes (alone.unquoted c rfl) inside alone.ends⟩

/-- A lexeme is what is cut off. -/
theorem Lexeme.exists_cut (is : Lexeme keywords first kind lexeme rest) : ∃ c body,
    lexeme = c :: body ∧ isBlank c = false ∧
      cut keywords first c (body ++ rest) = ⟨kind, lexeme, rest⟩ := by
  cases is with
  | leftParen => exact ⟨'(', [], rfl, rfl, rfl⟩
  | rightParen => exact ⟨')', [], rfl, rfl, rfl⟩
  | equals => exact ⟨'=', [], rfl, rfl, rfl⟩
  | @quoted _ q body _ quote absent =>
    refine ⟨q, body ++ [q], rfl, isBlank_eq_false_of_isQuote quote, ?_⟩
    rw [List.append_assoc]
    exact cut_quoted quote absent
  | @openQuote _ q _ quote absent =>
    refine ⟨q, [], rfl, isBlank_eq_false_of_isQuote quote, ?_⟩
    have unclosed := Text.breakAt_eq_none_iff.mpr absent
    rcases eq_of_isQuote quote with rfl | rfl <;> simp [cut, isQuote, delimited, unclosed]
  | @label body _ absent =>
    refine ⟨'[', body ++ [']'], rfl, rfl, ?_⟩
    simp [cut, delimited, breakAt_append absent]
  | @openLabel body absent =>
    refine ⟨'[', body, rfl, rfl, ?_⟩
    simp [cut, delimited, Text.breakAt_eq_none_iff.mpr absent]
  | keyword alone reserved =>
    obtain ⟨c, body, shape, solid, made⟩ := alone.exists_cut keywords
    exact ⟨c, body, shape, solid, by rw [made, Kind.ofWord, reserved, Option.elim_some]⟩
  | word alone free =>
    obtain ⟨c, body, shape, solid, made⟩ := alone.exists_cut keywords
    exact ⟨c, body, shape, solid, by rw [made, Kind.ofWord, free, Option.elim_none]⟩

/-! Tokens one after the other. -/

def placed (token : Token) : Kind × Span := (token.kind, token.span)

theorem exact_nil (blank : ∀ c ∈ input, isBlank c = true) :
    Exact keywords first start input [] where
  lexed := by simp
  solid := by simp
  apart := .nil
  gaps := by
    rintro before c after rfl -
    exact blank c (by simp)

theorem Lexeme.width_pos (is : Lexeme keywords first kind lexeme rest) : 0 < lexeme.width := by
  obtain ⟨c, body, rfl, -, -⟩ := is.exists_cut
  have positive := c.utf8Size_pos
  rw [Text.width_cons]
  omega

/-- A lexeme after blanks and before the tokens of the rest. -/
theorem Exact.cons (blank : ∀ c ∈ gap, isBlank c = true)
    (is : Lexeme keywords first kind lexeme rest)
    (others : Exact keywords false (start + gap.width + lexeme.width) rest tokens) :
    Exact keywords first start (gap ++ (lexeme ++ rest))
      ((kind, ⟨start + gap.width, start + gap.width + lexeme.width⟩) :: tokens) where
  lexed := by
    rintro (_ | place) other span found
    · obtain ⟨rfl, rfl⟩ := Prod.mk.inj (Option.some.inj found)
      exact ⟨gap, lexeme, rest, rfl, rfl, by simpa using is⟩
    · obtain ⟨before, inner, after, rfl, rfl, is⟩ := others.lexed place other span found
      refine ⟨gap ++ lexeme ++ before, inner, after, by simp, ?_, by simpa using is⟩
      simp [Nat.add_assoc]
  solid := by
    have positive := is.width_pos
    simpa [positive] using others.solid
  apart := by
    refine List.pairwise_cons.mpr ⟨?_, others.apart⟩
    rintro ⟨other, span⟩ member
    obtain ⟨place, found⟩ := List.getElem?_of_mem member
    obtain ⟨before, inner, after, -, rfl, -⟩ := others.lexed place other span found
    exact Nat.le_add_right _ _
  gaps := by
    intro before c after shape outside
    by_cases early : before.width < gap.width
    · exact blank c (Text.mem_of_width_lt shape early)
    · obtain ⟨more, rfl, later⟩ := Text.exists_of_width_le shape (by omega)
      have here := outside _ List.mem_cons_self
      rw [Text.width_append] at here
      obtain ⟨skipped, rfl, tail⟩ := Text.exists_of_width_le later (by
        simp only at here
        omega)
      refine others.gaps skipped c after tail fun token inside => ?_
      simpa [Nat.add_assoc] using outside token (List.mem_cons_of_mem _ inside)

theorem exact_scanFrom (keywords : Keywords) (first : Bool) (start : Nat) (input : Text) :
    Exact keywords first start input ((scanFrom keywords first start input).map placed) := by
  induction first, start, input using scanFrom_induction keywords with
  | blank first start input blank =>
    rw [scanFrom_blank blank]
    exact exact_nil blank
  | token first start gap c rest blank solid others =>
    have made := Exact.cons blank (lexeme_cut solid) others
    rw [cut_append] at made
    rw [scanFrom_append_cons blank solid]
    exact made

/-- Only blanks stand before the first token. -/
theorem Exact.blank {stop : Nat} (exact : Exact keywords first start (gap ++ input)
    ((kind, ⟨start + gap.width, stop⟩) :: tokens)) : ∀ c ∈ gap, isBlank c = true := by
  intro c member
  obtain ⟨before, after, rfl⟩ := List.append_of_mem member
  refine exact.gaps before c (after ++ input) (by simp) ?_
  have positive := c.utf8Size_pos
  have solid := exact.solid _ List.mem_cons_self
  have later := (List.pairwise_cons.mp exact.apart).1
  simp only [Text.width_append, Text.width_cons] at solid later ⊢
  intro token inside
  rcases List.mem_cons.mp inside with rfl | inside
  · simp only
    omega
  · have here := later token inside
    omega

theorem Exact.tail (exact : Exact keywords first start (gap ++ (lexeme ++ rest))
    ((kind, ⟨start + gap.width, start + gap.width + lexeme.width⟩) :: tokens)) :
    Exact keywords false (start + gap.width + lexeme.width) rest tokens where
  lexed := by
    intro place other span found
    obtain ⟨before, inner, after, shape, rfl, is⟩ := exact.lexed (place + 1) other span found
    have later := (List.pairwise_cons.mp exact.apart).1 _ (List.mem_of_getElem? found)
    rw [← List.append_assoc] at shape
    obtain ⟨skipped, rfl, tail⟩ := Text.exists_of_width_le shape (by
      rw [Text.width_append]
      simp only at later
      omega)
    exact ⟨skipped, inner, after, tail, by simp [Nat.add_assoc], by simpa using is⟩
  solid := fun token inside => exact.solid token (List.mem_cons_of_mem _ inside)
  apart := (List.pairwise_cons.mp exact.apart).2
  gaps := by
    rintro before c after rfl outside
    refine exact.gaps (gap ++ lexeme ++ before) c after (by simp) ?_
    simp only [Text.width_append] at outside ⊢
    intro token inside
    rcases List.mem_cons.mp inside with rfl | inside
    · simp only
      omega
    · have elsewhere := outside token inside
      omega

/-- No other tokens are exact. -/
theorem Exact.eq_scanFrom (exact : Exact keywords first start input tokens) :
    tokens = (scanFrom keywords first start input).map placed := by
  induction tokens generalizing first start input with
  | nil =>
    have blank : ∀ c ∈ input, isBlank c = true := by
      intro c member
      obtain ⟨before, after, shape⟩ := List.append_of_mem member
      exact exact.gaps before c after shape (by simp)
    rw [scanFrom_blank blank]
    rfl
  | cons token tokens ih =>
    obtain ⟨kind, span⟩ := token
    obtain ⟨gap, lexeme, rest, rfl, rfl, is⟩ := exact.lexed 0 kind span rfl
    have is : Lexeme keywords first kind lexeme rest := by simpa using is
    obtain ⟨c, body, rfl, solid, made⟩ := is.exists_cut
    rw [List.cons_append, scanFrom_append_cons exact.blank solid, made, ih exact.tail]
    rfl

/-- The tokens of a source, as kinds and spans, are the only exact ones. -/
theorem exact_iff_eq_scan (keywords : Keywords) (source : Text) (tokens : List (Kind × Span)) :
    Exact keywords true 0 source tokens ↔ tokens = (scan keywords source).map placed := by
  constructor
  · exact Exact.eq_scanFrom
  · rintro rfl
    exact exact_scanFrom keywords true 0 source

end Token
end BroadcastQuery
